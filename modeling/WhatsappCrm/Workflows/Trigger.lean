/-
Purpose: `WorkflowTriggerService` (`workflows/workflow-trigger.service.ts`): one triggering occurrence, turned into runs.
-/
import WhatsappCrm.Lib.Keyset
import WhatsappCrm.Workflows.Executor

namespace WhatsappCrm.Workflows

open Interleaving Table

variable (db : WorkflowDb) (trigger : WorkflowEvaluateTicketTrigger) (tenantId workflowId : Uuid) (w : Workflow)
  (runId : Uuid) (needed : WorkflowFactsNeeded) (ticketId : Uuid)

structure WorkflowEvaluationReport where
  candidates : Nat := 0
  claimed : Nat := 0
  succeeded : Nat := 0
  skipped : Nat := 0
  failed : Nat := 0
  chainDepthExceeded : Bool := false

structure CandidateWorkflow where
  id : Uuid
  version : Nat
  definition : WorkflowDefinition

/-- `readDefinition`: the stored definition, if it is one the grammar accepts and the row is indexed under its trigger. -/
def readDefinition : Option WorkflowDefinition :=
  w.definition.filter fun definition => definition.valid ∧ definition.trigger.type = w.triggerType

def executionOrder (w' : Workflow) : Bool :=
  w.position < w'.position ∨ w.position = w'.position ∧ w.id.toNat ≤ w'.id.toNat

/-- The tenant's active workflows of a trigger type, in execution order, as `loadCandidates` reads them. -/
def WorkflowDb.armedWorkflows (triggerType : WorkflowTriggerType) : List Workflow :=
  (Keyset.sortBy executionOrder
    (db.workflows.filter fun w => w.tenantId = tenantId ∧ w.isActive ∧ w.triggerType = triggerType)).take
      workflowsPerTenant

def Workflow.candidate : Option CandidateWorkflow :=
  (readDefinition w).map fun definition => { id := w.id, version := w.version, definition }

/-- `loadCandidates`: a definition that does not parse skips its workflow. -/
def loadCandidates : WorkflowM (List CandidateWorkflow) :=
  query .loadCandidates fun db => (db.armedWorkflows trigger.tenantId trigger.triggerType).filterMap Workflow.candidate

def ageMinutes (now : Millis) (t : Ticket) : Int := (now - t.createdAt) / millisecondsPerMinute

def loadTicket : WorkflowM (Ticket × Int) := do
  let found ← query .loadFacts fun db =>
    (db.findTicket trigger.tenantId trigger.ticketId).map fun t => (t, ageMinutes db.now t)
  match found with
  | none => throw (.ticketNotVisible trigger.ticketId)
  | some read => pure read

def readTicketTagIds (needed : Bool) : WorkflowM (List Uuid) :=
  if needed then
    query .loadFacts fun db =>
      (db.ticketTags.filter fun r => r.tenantId = trigger.tenantId ∧ r.ticketId = ticketId).map (·.tagId)
  else pure []

def readContactTagIds (contactId : Option Uuid) (needed : Bool) : WorkflowM (Option (List Uuid)) :=
  match contactId with
  | none => pure none
  | some contactId =>
    if needed then
      query .loadFacts fun db =>
        some ((db.lookups.contactTags.filter fun r =>
          r.tenantId = trigger.tenantId ∧ r.contactId = contactId).map (·.tagId))
    else pure none

def readWithinBusinessHours (needed : Bool) : WorkflowM (Option Bool) :=
  if needed then query .loadFacts fun db => db.lookups.withinBusinessHours.lookup trigger.tenantId else pure none

/-- `WorkflowFactSheetService.load`. -/
def loadFacts : WorkflowM WorkflowFacts := do
  let read ← loadTicket trigger
  let ticketTagIds ← readTicketTagIds trigger read.1.id needed.ticketTags
  let contactTagIds ← readContactTagIds trigger read.1.contactId needed.contactTags
  let withinBusinessHours ← readWithinBusinessHours trigger needed.businessHours
  pure
    { status := read.1.status
      priority := read.1.priority
      assignedUserId := read.1.assignedUserId
      assignedTeamId := read.1.assignedTeamId
      ageMinutes := read.2
      ticketTagIds
      contactTagIds
      withinBusinessHours }

def claimedRun (candidate : CandidateWorkflow) (id : Uuid) (now : Millis) : WorkflowRun where
  id
  tenantId := trigger.tenantId
  workflowId := candidate.id
  ticketId := trigger.ticketId
  workflowVersion := candidate.version
  dedupeKey := workflowDedupeKey trigger
  status := .running
  trigger
  createdAt := now

def WorkflowDb.spent (dedupeKey : String) : Bool :=
  db.runs.any fun r => r.claimEntry = some (tenantId, workflowId, dedupeKey)

/-- `INSERT … ON CONFLICT (tenant_id, workflow_id, dedupe_key) DO NOTHING RETURNING id`. -/
def insertClaim (candidate : CandidateWorkflow) (db : WorkflowDb) : Except WorkflowError (Option Uuid × WorkflowDb) :=
  if db.spent trigger.tenantId candidate.id (workflowDedupeKey trigger) then .ok (none, db)
  else
    match db.uuids with
    | [] => .error .unavailable
    | id :: uuids =>
      if db.runs.any (·.id = id) then .error .uniqueViolation
      else if (db.workflows.any fun w => w.tenantId = trigger.tenantId ∧ w.id = candidate.id) &&
          (db.findTicket trigger.tenantId trigger.ticketId).isSome then
        .ok (some id,
          { db with
            runs := db.runs ++ [claimedRun trigger candidate id db.now]
            uuids
            log := db.log ++ [.claimed id candidate.id trigger] })
      else .error .foreignKeyViolation

/-- `claim`: only a run this statement inserted is returned. -/
def claim (candidate : CandidateWorkflow) : WorkflowM (Option Uuid) :=
  transaction .claim (insertClaim trigger candidate)

structure RunEnd where
  status : WorkflowRunStatus
  results : List WorkflowActionResult := []
  failureReason : Option WorkflowFailureReason := none

def WorkflowRun.close (outcome : RunEnd) (now : Millis) (r : WorkflowRun) : WorkflowRun :=
  { r with
    status := outcome.status
    results := outcome.results
    failureReason := outcome.failureReason
    finishedAt := some now }

def WorkflowRun.withId (r : WorkflowRun) : Bool := r.tenantId = tenantId ∧ r.id = runId

/-- `workflowRun.updateMany`, by the run's id alone. -/
def closeRun (outcome : RunEnd) (db : WorkflowDb) : Except WorkflowError (Unit × WorkflowDb) :=
  .ok ((), { db with runs := updateWhere (WorkflowRun.withId tenantId runId) (WorkflowRun.close outcome db.now) db.runs })

def finish (guarded : Bool) (tenantId runId : Uuid) (outcome : RunEnd) : WorkflowM Unit :=
  transaction (.finish guarded) (closeRun tenantId runId outcome)

/-- `WORKFLOW_RUN_BUDGET_WINDOW_MS`. -/
def runBudgetWindowMs : Int := 3600000

def WorkflowDb.overRunBudget : Bool :=
  runsPerTicketPerHour <
    db.runs.countP fun r => r.tenantId = tenantId ∧ r.ticketId = ticketId ∧ db.now - runBudgetWindowMs ≤ r.createdAt

def isOverRunBudget (deferring : Bool) (trigger : WorkflowEvaluateTicketTrigger) : WorkflowM Bool :=
  query (.budget deferring) fun db => db.overRunBudget trigger.tenantId trigger.ticketId

def workflowBrokenDedupeKey : String := "workflow-broken:" ++ String.ofList (UuidText.write runId)

def Workflow.armed : Bool :=
  w.tenantId = tenantId ∧ w.id = workflowId ∧ w.isActive

def Workflow.breakMissing : Workflow :=
  { w with isActive := false, brokenReason := some .referenceMissing }

def WorkflowDb.breakMissing : WorkflowDb :=
  { db with workflows := updateWhere (Workflow.armed tenantId workflowId) Workflow.breakMissing db.workflows }

/-- The transaction of `deactivate`: only the one that disarmed the workflow tells the admins. -/
def disarm (db : WorkflowDb) : Except WorkflowError (Unit × WorkflowDb) :=
  if db.workflows.countP (Workflow.armed tenantId workflowId) = 0 then .ok ((), db)
  else
    let admins := db.lookups.users.filter fun u => u.tenantId = tenantId ∧ u.role = .admin ∧ u.active
    let rows := admins.map fun admin =>
      { tenantId
        type := .workflowBroken
        ticketId
        recipientUserId := admin.id
        workflowId
        workflowRunId := runId
        message := none
        dedupeKey := workflowBrokenDedupeKey runId }
    .ok ((), (insertNotifications rows (db.breakMissing tenantId workflowId)).2)

def deactivate : WorkflowM Unit :=
  transaction .deactivate (disarm tenantId workflowId runId ticketId)

/-- `deactivate`, when a reference was missing. -/
def deactivateIf (missing : Bool) (tenantId workflowId runId ticketId : Uuid) : WorkflowM Unit :=
  if missing then deactivate tenantId workflowId runId ticketId else pure ()

/-- The trigger an occurrence of a run raises: one deeper than its cause. -/
def chainedTrigger (cause : WorkflowEvaluateTicketTrigger) (runId : Uuid) (occurrence : RaisedOccurrence) :
    WorkflowEvaluateTicketTrigger where
  tenantId := cause.tenantId
  ticketId := cause.ticketId
  triggerType := occurrence.triggerType
  occurrenceId := some occurrence.ticketEventId
  depth := cause.depth + 1
  causedByRunId := some runId

def raiseChainedTrigger (cause : WorkflowEvaluateTicketTrigger) (runId : Uuid) (occurrence : RaisedOccurrence) :
    WorkflowM Unit :=
  .ghost .enqueue fun db => ((), db.enqueue (chainedTrigger cause runId occurrence))

def raiseChained (cause : WorkflowEvaluateTicketTrigger) (runId : Uuid) : List RaisedOccurrence → WorkflowM Unit
  | [] => pure ()
  | occurrence :: occurrences => do
    raiseChainedTrigger cause runId occurrence
    raiseChained cause runId occurrences

structure ActionsDone where
  results : List WorkflowActionResult := []
  chained : List RaisedOccurrence := []
  failure : Option WorkflowFailureReason := none

def ActionsDone.add (done : ActionsDone) (index : Nat) (action : WorkflowAction) (outcome : ActionOutcome) :
    ActionsDone where
  results := done.results ++ [⟨index, action, outcome.outcome, outcome.reason⟩]
  chained := done.chained ++ outcome.occurrence.toList
  failure := if outcome.outcome = .failed then some (outcome.reason.getD .internalError) else none

def ActionsDone.skip (done : ActionsDone) (index : Nat) (action : WorkflowAction) : ActionsDone :=
  { done with results := done.results ++ [⟨index, action, .skipped, none⟩] }

/-- The actions from `index` on, in order, stopping at the first failure. -/
def executeFrom (trigger : WorkflowEvaluateTicketTrigger) (candidate : CandidateWorkflow) (runId : Uuid)
    (index : Nat) (done : ActionsDone) : List WorkflowAction → WorkflowM ActionsDone
  | [] => pure done
  | action :: actions =>
    if done.failure.isSome then
      executeFrom trigger candidate runId (index + 1) (done.skip index action) actions
    else do
      .ghost .execute fun db => ((), { db with log := db.log ++ [.executed runId candidate.id trigger index] })
      let outcome ← execute action
        { tenantId := trigger.tenantId
          ticketId := trigger.ticketId
          workflowId := candidate.id
          workflowRunId := runId
          actionIndex := index }
      executeFrom trigger candidate runId (index + 1) (done.add index action outcome) actions

inductive RunOutcome where
  | succeeded
  | skipped
  | failed

/-- `executeActions`: the actions, the end of the run, and what follows from it. -/
def executeActions (candidate : CandidateWorkflow) (runId : Uuid) : WorkflowM RunOutcome := do
  let done ← executeFrom trigger candidate runId 0 {} candidate.definition.actions
  finish true trigger.tenantId runId
    { status := if done.failure = none then .succeeded else .failed
      results := done.results
      failureReason := done.failure }
  deactivateIf (done.failure = some .referenceMissing) trigger.tenantId candidate.id runId trigger.ticketId
  raiseChained trigger runId done.chained
  pure (if done.failure = none then .succeeded else .failed)

def factSheet : Option WorkflowFacts → WorkflowM WorkflowFacts
  | some facts => pure facts
  | none => loadFacts trigger needed

def tryFactSheet (facts : Option WorkflowFacts) : WorkflowM (Except WorkflowError WorkflowFacts) :=
  Throwing.rescue
    (do
      let facts ← factSheet trigger needed facts
      pure (.ok facts))
    fun error => pure (.error error)

def budgetExceeded (deferring : Bool) (trigger : WorkflowEvaluateTicketTrigger) : Option Bool → WorkflowM Bool
  | some overBudget => pure overBudget
  | none => isOverRunBudget deferring trigger

/-- The `catch` of `runOne`. -/
def closeThrown (error : WorkflowError) : WorkflowM RunOutcome := do
  finish false trigger.tenantId runId
    { status := .failed
      failureReason :=
        match error with
        | .ticketNotVisible _ => some .ticketGone
        | _ => some .internalError }
  pure .failed

/-- `runOne`, once the fact sheet has been read. -/
def runWith (candidate : CandidateWorkflow) (runId : Uuid) (facts : WorkflowFacts) : WorkflowM RunOutcome :=
  if !workflowMatches candidate.definition.conditions facts then do
    finish true trigger.tenantId runId { status := .skipped }
    pure .skipped
  else executeActions trigger candidate runId

/-- `runOne`: the outcome, and the fact sheet where it could be read. Both parts of the `try` have the one handler. -/
def runOne (candidate : CandidateWorkflow) (runId : Uuid)
    (needed : WorkflowFactsNeeded) (facts : Option WorkflowFacts) : WorkflowM (RunOutcome × Option WorkflowFacts) := do
  let read ← tryFactSheet trigger needed facts
  match read with
  | .error error => do
    let outcome ← closeThrown trigger runId error
    pure (outcome, facts)
  | .ok facts => do
    let outcome ← Throwing.rescue (runWith trigger candidate runId facts) (closeThrown trigger runId)
    pure (outcome, some facts)

def WorkflowEvaluationReport.count (report : WorkflowEvaluationReport) (outcome : RunOutcome) :
    WorkflowEvaluationReport :=
  match outcome with
  | .succeeded => { report with succeeded := report.succeeded + 1 }
  | .skipped => { report with skipped := report.skipped + 1 }
  | .failed => { report with failed := report.failed + 1 }

/-- What an evaluation remembers: the fact sheet and the budget, once read. -/
structure Memo where
  facts : Option WorkflowFacts := none
  overBudget : Option Bool := none

/-- The ticket is not yet as old as the candidate's own threshold. -/
def belowThreshold (candidate : CandidateWorkflow)
    (needed : WorkflowFactsNeeded) (memo : Memo) : WorkflowM (Bool × Memo) :=
  match candidate.definition.trigger.minutes? with
  | none => pure (false, memo)
  | some minutes => do
    let facts ← factSheet trigger needed memo.facts
    pure (facts.ageMinutes < minutes, { memo with facts := some facts })

/-- A claimed run: within the budget it is run, over it it is closed. Nothing is around the budget check. -/
def runClaimed (candidate : CandidateWorkflow) (needed : WorkflowFactsNeeded)
    (runId : Uuid) (memo : Memo) (report : WorkflowEvaluationReport) : WorkflowM (Memo × WorkflowEvaluationReport) := do
  let overBudget ← budgetExceeded false trigger memo.overBudget
  if overBudget then do
    finish false trigger.tenantId runId { status := .failed, failureReason := some .runBudgetExceeded }
    pure ({ memo with overBudget := some overBudget }, report.count .failed)
  else do
    let ran ← runOne trigger candidate runId needed memo.facts
    pure ({ facts := ran.2, overBudget := some overBudget }, report.count ran.1)

/-- The loop of `runCandidates`. -/
def runEach (trigger : WorkflowEvaluateTicketTrigger) (needed : WorkflowFactsNeeded) :
    List CandidateWorkflow → Memo → WorkflowEvaluationReport → WorkflowM WorkflowEvaluationReport
  | [], _, report => pure report
  | candidate :: candidates, memo, report => do
    let below ← belowThreshold trigger candidate needed memo
    if below.1 then runEach trigger needed candidates below.2 report
    else do
      let claimed ← claim trigger candidate
      match claimed with
      | none => runEach trigger needed candidates below.2 report
      | some runId => do
        let ran ← runClaimed trigger candidate needed runId below.2 { report with claimed := report.claimed + 1 }
        runEach trigger needed candidates ran.1 ran.2

/-- `runCandidates`: the elapsed trigger, and only it, defers instead of spending its key. -/
def runCandidates (candidates : List CandidateWorkflow) : WorkflowM WorkflowEvaluationReport := do
  let needed := mergeFactsNeeded (candidates.map fun candidate => factsNeededBy candidate.definition.conditions)
  let report : WorkflowEvaluationReport := { candidates := candidates.length }
  if trigger.triggerType = .ticketUnresolvedFor then do
    let overBudget ← budgetExceeded true trigger none
    if overBudget then pure report
    else runEach trigger needed candidates { overBudget := some overBudget } report
  else runEach trigger needed candidates {} report

def evaluate : WorkflowM WorkflowEvaluationReport :=
  if maxChainDepth < trigger.depth then pure { chainDepthExceeded := true }
  else do
    let candidates ← loadCandidates trigger
    if candidates = [] then pure {} else runCandidates trigger candidates

/-- The consumer: the payload is parsed before anything else. -/
def evaluateTicket : WorkflowM WorkflowEvaluationReport :=
  if !trigger.valid then throw .malformedPayload else evaluate trigger

end WhatsappCrm.Workflows
