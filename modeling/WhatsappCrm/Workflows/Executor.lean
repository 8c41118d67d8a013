/-
Purpose: The tables the workflow engine reads and writes, its statements, any of which may find the database
  unavailable, and one action, executed (`workflows/workflow-action.executor.ts`).
-/
import WhatsappCrm.Lib.Throwing
import WhatsappCrm.Sla.Timer
import WhatsappCrm.Workflows.Contract
import WhatsappCrm.Tickets.Command

namespace WhatsappCrm.Workflows

open Interleaving Table

inductive BrokenReason where
  | referenceMissing
  | referenceRemoved
  | referenceSuspended
deriving DecidableEq

/-- A row of `workflows`. The definition is `none` when the stored JSON does not parse. -/
structure Workflow where
  id : Uuid
  tenantId : Uuid
  isActive : Bool := false
  position : Int := 0
  triggerType : WorkflowTriggerType
  brokenReason : Option BrokenReason := none
  definition : Option WorkflowDefinition
  version : Nat := 1
deriving DecidableEq

structure WorkflowRun where
  id : Uuid
  tenantId : Uuid
  workflowId : Uuid
  ticketId : Uuid
  workflowVersion : Nat
  dedupeKey : String
  status : WorkflowRunStatus
  trigger : WorkflowEvaluateTicketTrigger
  results : List WorkflowActionResult := []
  failureReason : Option WorkflowFailureReason := none
  createdAt : Millis
  finishedAt : Option Millis := none
deriving DecidableEq

def WorkflowRun.idEntry (r : WorkflowRun) : Option Uuid := some r.id

/-- The entry in `UNIQUE (tenant_id, workflow_id, dedupe_key)`: the claim. -/
def WorkflowRun.claimEntry (r : WorkflowRun) : Option (Uuid × Uuid × String) := some (r.tenantId, r.workflowId, r.dedupeKey)

structure TicketEventRow where
  id : Uuid
  event : TicketEvent
deriving DecidableEq

structure TicketTag where
  tenantId : Uuid
  ticketId : Uuid
  tagId : Uuid
deriving DecidableEq

structure ContactTag where
  tenantId : Uuid
  contactId : Uuid
  tagId : Uuid
deriving DecidableEq

inductive WorkflowNotificationType where
  | workflowNotify
  | workflowBroken
deriving DecidableEq

/-- A row of `notifications`, with `UNIQUE (tenant_id, recipient_user_id, dedupe_key)`. -/
structure WorkflowNotification where
  tenantId : Uuid
  type : WorkflowNotificationType
  ticketId : Uuid
  recipientUserId : Uuid
  workflowId : Uuid
  workflowRunId : Uuid
  message : Option String
  dedupeKey : String
deriving DecidableEq

structure WorkflowLookups where
  activeTenants : List Uuid := []
  users : List User := []
  /-- `(tenant_id, id)` of the rows of `teams`, and of `tags`. -/
  teams : List (Uuid × Uuid) := []
  tags : List (Uuid × Uuid) := []
  teamMembers : List TeamMember := []
  contactTags : List ContactTag := []
  /-- Whether it is now within a tenant's opening hours, for the tenants whose hours and timezone can be read. -/
  withinBusinessHours : List (Uuid × Bool) := []
deriving DecidableEq

/-- What the engine has done, for the record. -/
inductive WorkflowRecord where
  | claimed (runId workflowId : Uuid) (trigger : WorkflowEvaluateTicketTrigger)
  | executed (runId workflowId : Uuid) (trigger : WorkflowEvaluateTicketTrigger) (actionIndex : Nat)
deriving DecidableEq

/-- The database as the engine sees it, its clock, and the queue. -/
structure WorkflowDb where
  now : Millis := 0
  tickets : List Ticket := []
  ticketEvents : List TicketEventRow := []
  /-- The rows of `sla_timers` that have been breached. -/
  breachedTimers : List SlaTimer := []
  ticketTags : List TicketTag := []
  notifications : List WorkflowNotification := []
  workflows : List Workflow := []
  runs : List WorkflowRun := []
  lookups : WorkflowLookups := {}
  /-- Every evaluation ever queued; each may be delivered any number of times. -/
  jobs : List WorkflowEvaluateTicketTrigger := []
  /-- What `randomUUID` is still going to answer. -/
  uuids : List Uuid := []
  /-- Whether each of the coming statements finds the database, or the queue, unavailable. -/
  faults : List Bool := []
  log : List WorkflowRecord := []
deriving DecidableEq

variable (db : WorkflowDb)

inductive WorkflowError where
  | unavailable
  | uniqueViolation
  /-- `P2003`. -/
  | foreignKeyViolation
  | ticketNotVisible (ticketId : Uuid)
  | malformedPayload
deriving DecidableEq

/-- The statements of the engine, and those of everyone beside it. -/
inductive WorkflowStmt where
  | receive
  | loadCandidates
  /-- The run budget: of a job that defers, before it claims anything, or of one that has claimed a run. -/
  | budget (deferring : Bool)
  | loadFacts
  | claim
  | execute
  | action
  /-- The end of a run, written inside a handler that would write another, or outside any. -/
  | finish (guarded : Bool)
  | deactivate
  | enqueue
  | sweep
  | create
  | edit
  | outside
deriving DecidableEq

abbrev WorkflowM := Throwing WorkflowStmt WorkflowDb WorkflowError

namespace WorkflowDb

def available : Bool := db.faults.head? ≠ some true

def sent : WorkflowDb := { db with faults := db.faults.tail }

def transact {α : Type} (db : WorkflowDb) (body : WorkflowDb → Except WorkflowError (α × WorkflowDb)) :
    Except WorkflowError α × WorkflowDb :=
  if db.available then
    match body db.sent with
    | .ok (a, db') => (.ok a, db')
    | .error e => (.error e, db.sent)
  else (.error .unavailable, db.sent)

/-- `QueueService.enqueue`, which logs a refusal and never throws. -/
def enqueue (trigger : WorkflowEvaluateTicketTrigger) : WorkflowDb :=
  if db.available then { db.sent with jobs := db.jobs ++ [trigger] } else db.sent

def findTicket (tenantId ticketId : Uuid) : Option Ticket :=
  db.tickets.find? fun t => t.id = ticketId ∧ t.tenantId = tenantId

/-- `REFERENCEABLE_USER`, by id: the user a workflow may name. -/
def referenceableUser (tenantId userId : Uuid) : Bool :=
  db.lookups.users.any fun u => u.tenantId = tenantId ∧ u.id = userId ∧ u.active

def insertEvent (event : TicketEvent) : Except WorkflowError (Uuid × WorkflowDb) :=
  match db.uuids with
  | [] => .error .unavailable
  | id :: uuids =>
    if db.ticketEvents.any (·.id = id) then .error .uniqueViolation
    else .ok (id, { db with ticketEvents := db.ticketEvents ++ [⟨id, event⟩], uuids })

def updateTickets (p : Ticket → Bool) (f : Ticket → Ticket) : Except WorkflowError (Nat × WorkflowDb) :=
  let tickets := updateWhere p f db.tickets
  if Indexed tickets then .ok (db.tickets.countP p, { db with tickets }) else .error .uniqueViolation

end WorkflowDb

def query {α : Type} (tag : WorkflowStmt) (f : WorkflowDb → α) : WorkflowM α :=
  .statement tag fun db => db.transact fun db => .ok (f db, db)

def transaction {α : Type} (tag : WorkflowStmt) (body : WorkflowDb → Except WorkflowError (α × WorkflowDb)) : WorkflowM α :=
  .statement tag fun db => db.transact body

/-- The occurrence an action raised: a row of `ticket_events`, and what it triggers. -/
structure RaisedOccurrence where
  triggerType : WorkflowTriggerType
  ticketEventId : Uuid
deriving DecidableEq

structure ActionOutcome where
  outcome : WorkflowActionOutcome
  reason : Option WorkflowFailureReason
  occurrence : Option RaisedOccurrence
deriving DecidableEq

structure ActionContext where
  tenantId : Uuid
  ticketId : Uuid
  workflowId : Uuid
  workflowRunId : Uuid
  actionIndex : Nat
deriving DecidableEq

def ActionContext.automation (context : ActionContext) : TicketAutomationContext :=
  ⟨context.workflowId, context.workflowRunId⟩

structure TicketAutomationResult where
  outcome : TicketAutomationOutcome
  occurrence : Option RaisedOccurrence

def noOccurrence (outcome : TicketAutomationOutcome) : TicketAutomationResult := ⟨outcome, none⟩

/-- The transaction of a status or priority change: the compare-and-set on the status, and its one event. -/
def writeAutomationField (before : Ticket) (change : TicketChange) (context : ActionContext) (db : WorkflowDb) :
    Except WorkflowError (Option Uuid × WorkflowDb) :=
  match db.updateTickets (unchangedStatus before) (toUpdateData change none db.now) with
  | .error e => .error e
  | .ok (0, db) => .ok (none, db)
  | .ok (_, db) =>
    match changeEvents before change none (.workflow context.automation) with
    | [] => .ok (none, db)
    | event :: _ =>
      match db.insertEvent event with
      | .error e => .error e
      | .ok (id, db) => .ok (some id, db)

def applyAutomationField (before : Ticket) (change : TicketChange) (context : ActionContext)
    (raises : Option WorkflowTriggerType) : WorkflowM TicketAutomationResult := do
  let written ← transaction .action (writeAutomationField before change context)
  match written with
  | none => pure (noOccurrence .noOp)
  | some eventId => pure ⟨.applied, raises.map (⟨·, eventId⟩)⟩

def writeAutomationAssignment (before : Ticket) (assignment : TicketAssignment) (context : ActionContext)
    (db : WorkflowDb) : Except WorkflowError (Option Uuid × WorkflowDb) :=
  match db.updateTickets (sameTicket before) (setAssignment assignment) with
  | .error e => .error e
  | .ok (0, db) => .ok (none, db)
  | .ok (_, db) =>
    match db.insertEvent (assignmentEvent before assignment none (.workflow context.automation) none) with
    | .error e => .error e
    | .ok (id, db) => .ok (some id, db)

def applyAutomationAssignment (before : Ticket) (assignment : TicketAssignment) (context : ActionContext) :
    WorkflowM TicketAutomationResult :=
  if !movesAnything before assignment then pure (noOccurrence .noOp)
  else do
    let eventId ← transaction .action (writeAutomationAssignment before assignment context)
    match eventId with
    | none => pure (noOccurrence .ticketGone)
    | some eventId => pure ⟨.applied, some ⟨.ticketAssigned, eventId⟩⟩

/-- `applyAutomation`. A change of priority raises no trigger. -/
def applyAutomation (change : TicketAutomationChange) (context : ActionContext) : WorkflowM TicketAutomationResult := do
  let found ← query .action fun db => db.findTicket context.tenantId context.ticketId
  match found with
  | none => pure (noOccurrence .ticketGone)
  | some before =>
    match change with
    | .assignment assignedUserId assignedTeamId =>
      applyAutomationAssignment before ⟨assignedUserId, assignedTeamId⟩ context
    | .priority priority =>
      if priority = before.priority then pure (noOccurrence .noOp)
      else applyAutomationField before { priority := some priority } context none
    | .status status =>
      if status = before.status then pure (noOccurrence .noOp)
      else if !canAgentTransition before.status status then pure (noOccurrence .transitionRefused)
      else applyAutomationField before { status := some status } context (some .ticketStatusChanged)

/-- `fromTicketOutcome`: only a write that happened carries an occurrence up. -/
def fromTicketOutcome (result : TicketAutomationResult) : ActionOutcome :=
  match result.outcome with
  | .applied => ⟨.applied, none, result.occurrence⟩
  | .noOp => ⟨.noOp, none, none⟩
  | .transitionRefused => ⟨.failed, some .transitionRefused, none⟩
  | .ticketGone => ⟨.failed, some .ticketGone, none⟩

def referenceMissing : ActionOutcome := ⟨.failed, some .referenceMissing, none⟩

def insertOutcome (count : Nat) : ActionOutcome :=
  if count = 0 then ⟨.noOp, none, none⟩ else ⟨.applied, none, none⟩

/-- `reassign`: the target is read again, in tenant scope, first. -/
def reassign (target : WorkflowAssignee) (context : ActionContext) : WorkflowM ActionOutcome :=
  match target with
  | .team teamId => do
    let found ← query .action fun db => db.lookups.teams.contains (context.tenantId, teamId)
    if !found then pure referenceMissing
    else do
      let result ← applyAutomation (.assignment none (some teamId)) context
      pure (fromTicketOutcome result)
  | .user userId => do
    let found ← query .action fun db => db.referenceableUser context.tenantId userId
    if !found then pure referenceMissing
    else do
      let result ← applyAutomation (.assignment (some userId) none) context
      pure (fromTicketOutcome result)

/-- `ticketTag.createMany` with `skipDuplicates`; the foreign keys are the only check of the tag. -/
def insertTicketTag (row : TicketTag) (db : WorkflowDb) : Except WorkflowError (Nat × WorkflowDb) :=
  if db.ticketTags.contains row then .ok (0, db)
  else if db.lookups.tags.contains (row.tenantId, row.tagId) && (db.findTicket row.tenantId row.ticketId).isSome then
    .ok (1, { db with ticketTags := db.ticketTags ++ [row] })
  else .error .foreignKeyViolation

def addTicketTag (tagId : Uuid) (context : ActionContext) : WorkflowM ActionOutcome :=
  Throwing.rescue
    (do
      let count ← transaction .action (insertTicketTag ⟨context.tenantId, context.ticketId, tagId⟩)
      pure (insertOutcome count))
    fun error => if error = .foreignKeyViolation then pure referenceMissing else throw error

/-- `notifyDedupeKey`: one reservation per action. -/
def notifyDedupeKey (context : ActionContext) : String :=
  String.ofList (UuidText.write context.workflowRunId) ++ ":" ++ toString context.actionIndex

def supervisorRoles : List UserRole := [.supervisor, .admin]

def loadSupervisorCandidates (tenantId : Uuid) : WorkflowM (List AlertCandidate) :=
  query .action fun db =>
    (db.lookups.users.filter fun u => u.tenantId = tenantId ∧ u.active ∧ supervisorRoles.contains u.role).map fun u =>
      { id := u.id
        teamIds := (db.lookups.teamMembers.filter fun m => m.tenantId = tenantId ∧ m.userId = u.id).map (·.teamId) }

def teamsOf (tenantId : Uuid) : Option Uuid → WorkflowM (List Uuid)
  | none => pure []
  | some userId =>
    query .action fun db =>
      (db.lookups.teamMembers.filter fun m => m.tenantId = tenantId ∧ m.userId = userId).map (·.teamId)

def resolveRecipients (audience : WorkflowNotifyAudience) (userId teamId : Option Uuid) (context : ActionContext) :
    WorkflowM (List Uuid) :=
  match audience with
  | .user =>
    match userId with
    | none => pure []
    | some userId =>
      query .action fun db => if db.referenceableUser context.tenantId userId then [userId] else []
  | .team =>
    match teamId with
    | none => pure []
    | some teamId =>
      query .action fun db =>
        (db.lookups.teamMembers.filter fun m =>
          m.tenantId = context.tenantId ∧ m.teamId = teamId ∧
            db.referenceableUser context.tenantId m.userId).map (·.userId)
  | .supervisors => do
    let ticket ← query .action fun db => db.findTicket context.tenantId context.ticketId
    match ticket with
    | none => pure []
    | some ticket => do
      let candidates ← loadSupervisorCandidates context.tenantId
      let teamIds ← teamsOf context.tenantId ticket.assignedUserId
      pure (resolveAlertRecipients candidates ticket.assignedUserId ticket.assignedTeamId teamIds)

/-- The index over `(tenant_id, recipient_user_id, dedupe_key)`. -/
def WorkflowNotification.reservation (n : WorkflowNotification) : Uuid × Uuid × String :=
  (n.tenantId, n.recipientUserId, n.dedupeKey)

def insertNotifications (rows : List WorkflowNotification) (db : WorkflowDb) : Nat × WorkflowDb :=
  rows.foldl
    (fun (inserted, db) row =>
      if db.notifications.any (·.reservation = row.reservation) then (inserted, db)
      else (inserted + 1, { db with notifications := db.notifications ++ [row] }))
    (0, db)

/-- `notify`: nobody to tell is not a failure. -/
def notify (audience : WorkflowNotifyAudience) (userId teamId : Option Uuid) (message : Option String)
    (context : ActionContext) : WorkflowM ActionOutcome := do
  let recipientUserIds ← resolveRecipients audience userId teamId context
  if recipientUserIds = [] then pure ⟨.noOp, none, none⟩
  else do
    let count ← transaction .action fun db =>
      .ok (insertNotifications
        (recipientUserIds.map fun recipientUserId =>
          { tenantId := context.tenantId
            type := .workflowNotify
            ticketId := context.ticketId
            recipientUserId
            workflowId := context.workflowId
            workflowRunId := context.workflowRunId
            message
            dedupeKey := notifyDedupeKey context })
        db)
    pure (insertOutcome count)

/-- What an action does, before anything it throws is caught. -/
def perform (action : WorkflowAction) (context : ActionContext) : WorkflowM ActionOutcome :=
  match action with
  | .setStatus status => do
    let result ← applyAutomation (.status status) context
    pure (fromTicketOutcome result)
  | .setPriority priority => do
    let result ← applyAutomation (.priority priority) context
    pure (fromTicketOutcome result)
  | .reassign target => reassign target context
  | .addTicketTag tagId => addTicketTag tagId context
  | .notify audience userId teamId message => notify audience userId teamId message context

def execute (action : WorkflowAction) (context : ActionContext) : WorkflowM ActionOutcome :=
  Throwing.rescue (perform action context) fun _ => pure ⟨.failed, some .internalError, none⟩

end WhatsappCrm.Workflows
