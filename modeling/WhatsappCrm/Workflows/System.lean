/-
Purpose: `WorkflowElapsedSweep` (`workflows/workflow-elapsed.sweep.ts`) and everyone the engine works beside,
  interleaved.
-/
import WhatsappCrm.Workflows.Trigger

namespace WhatsappCrm.Workflows

open Interleaving Table

variable (db : WorkflowDb) (t : Ticket)

/-- `WORKFLOW_SWEEP_BATCH` and `WORKFLOW_SWEEP_TENANT_BATCH`. -/
def workflowSweepBatch : Nat := 200
def workflowSweepTenantBatch : Nat := 50

def Workflow.sweeps (tenantId : Uuid) (w : Workflow) : Bool :=
  w.tenantId = tenantId ∧ w.isActive ∧ w.triggerType = .ticketUnresolvedFor

/-- `definition -> 'trigger' ->> 'minutes'`. -/
def Workflow.minutes? (w : Workflow) : Option Nat := w.definition.bind fun definition => definition.trigger.minutes?

def smallestThresholdMinutes : Option Nat :=
  (db.workflows.filter fun w => db.lookups.activeTenants.contains w.tenantId && w.sweeps w.tenantId).filterMap
    Workflow.minutes? |>.min?

def elapsedDedupeKey (ticketId : Uuid) : String :=
  String.ofList ("ticket:".toList ++ (UuidText.write ticketId ++ ":elapsed".toList))

def WorkflowDb.unspentElapsed : Bool :=
  db.workflows.any fun w => w.sweeps t.tenantId && !db.spent t.tenantId w.id (elapsedDedupeKey t.id)

/-- `created_at <= now() - make_interval(mins => threshold)`. -/
def olderThan (now : Millis) (thresholdMinutes : Nat) (t : Ticket) : Bool :=
  t.createdAt ≤ now - thresholdMinutes * millisecondsPerMinute

/-- The `WHERE` of the inner query. -/
def WorkflowDb.overdue (thresholdMinutes : Nat) (tenantId : Uuid) (t : Ticket) : Bool :=
  t.tenantId = tenantId ∧ t.status.isActive ∧ olderThan db.now thresholdMinutes t ∧ db.unspentElapsed t

/-- `ORDER BY created_at`. -/
def older (t' : Ticket) : Bool := t.createdAt ≤ t'.createdAt

/-- The inner query: one tenant's share. -/
def overdueTicketsOf (thresholdMinutes : Nat) (db : WorkflowDb) (tenantId : Uuid) : List Ticket :=
  (Keyset.sortBy older (db.tickets.filter (db.overdue thresholdMinutes tenantId))).take workflowSweepTenantBatch

def findOverdueTickets (thresholdMinutes : Nat) (db : WorkflowDb) : List Ticket :=
  let tenants := db.lookups.activeTenants.filter fun tenantId => db.workflows.any (Workflow.sweeps tenantId)
  (Keyset.sortBy older (tenants.flatMap (overdueTicketsOf thresholdMinutes db))).take workflowSweepBatch

def elapsedTrigger : WorkflowEvaluateTicketTrigger where
  tenantId := t.tenantId
  ticketId := t.id
  triggerType := .ticketUnresolvedFor
  occurrenceId := none
  depth := 0
  causedByRunId := none

/-- `enqueueAll`: a refused job is neither thrown nor retried. -/
def enqueueAll : List Ticket → WorkflowM Unit
  | [] => pure ()
  | t :: tickets => do
    .ghost .enqueue fun db => ((), db.enqueue (elapsedTrigger t))
    enqueueAll tickets

def sweep : WorkflowM Unit := do
  let threshold ← query .sweep smallestThresholdMinutes
  match threshold with
  | none => pure ()
  | some threshold => do
    let overdue ← query .sweep (findOverdueTickets threshold)
    enqueueAll overdue

def WorkflowTriggerType.recordedBy (triggerType : WorkflowTriggerType) : TicketEventData → Bool
  | .statusChanged .. => triggerType = .ticketStatusChanged
  | .assigned .. => triggerType = .ticketAssigned
  | .unassigned .. => triggerType = .ticketAssigned
  | _ => false

def WorkflowDb.recorded (db : WorkflowDb) (trigger : WorkflowEvaluateTicketTrigger) : Bool :=
  match trigger.triggerType with
  | .ticketCreated | .ticketUnresolvedFor => trigger.occurrenceId = none
  | .ticketStatusChanged | .ticketAssigned =>
    db.ticketEvents.any fun row =>
      trigger.occurrenceId = some row.id ∧ row.event.ticketId = trigger.ticketId ∧
        trigger.triggerType.recordedBy row.event.data
  | .ticketSlaBreached =>
    db.breachedTimers.any fun timer =>
      trigger.occurrenceId = some timer.id ∧ timer.ticketId = trigger.ticketId

inductive WorkflowEvent where
  /-- A ticket is opened, and its creation queued. -/
  | createTicket (ticket : Ticket) (event : TicketEvent)
  /-- A person changes a ticket, and the change of status is queued. -/
  | updateTicket (before : Ticket) (change : TicketChange) (actorUserId : Uuid)
  /-- A person assigns a ticket, and the assignment is queued. -/
  | assignTicket (before : Ticket) (assignment : TicketAssignment) (actorUserId : Uuid) (reason : Option String)
  /-- The linker, the router, the bot or the SLA engine writes tickets and their events, and queues nothing. -/
  | writeTickets (tickets : List Ticket) (events : List TicketEvent)
  /-- A timer is breached, and the breach queued. -/
  | breach (timer : SlaTimer)
  /-- The rows the engine only reads change. -/
  | amend (lookups : WorkflowLookups)
  | elapse (ms : Nat)
  | createWorkflow (w : Workflow)
  | editWorkflow (w : Workflow)
  | deleteWorkflow (tenantId workflowId : Uuid)
deriving DecidableEq

def WorkflowDb.insertEvents (db : WorkflowDb) : List TicketEvent → Except WorkflowError (List Uuid × WorkflowDb)
  | [] => .ok ([], db)
  | event :: events =>
    match db.insertEvent event with
    | .error e => .error e
    | .ok (id, db) =>
      match db.insertEvents events with
      | .error e => .error e
      | .ok (ids, db) => .ok (id :: ids, db)

def rootTrigger (tenantId ticketId : Uuid) (triggerType : WorkflowTriggerType) (occurrenceId : Option Uuid) :
    WorkflowEvaluateTicketTrigger where
  tenantId
  ticketId
  triggerType
  occurrenceId
  depth := 0
  causedByRunId := none

/-- `triggerWorkflowEvaluation`: without an occurrence, nothing is queued. -/
def WorkflowDb.enqueueRoot (db : WorkflowDb) (before : Ticket) (triggerType : WorkflowTriggerType) :
    Option Uuid → WorkflowDb
  | none => db
  | some eventId => db.enqueue (rootTrigger before.tenantId before.id triggerType (some eventId))

/-- The transaction of `write`, and what it queues: the status event, where there is one, is the first. -/
def writeThenQueue (before : Ticket) (change : TicketChange) (actorUserId : Uuid) (db : WorkflowDb) :
    Except WorkflowError (Unit × WorkflowDb) :=
  match db.updateTickets (unchangedStatus before) (toUpdateData change (some actorUserId) db.now) with
  | .error e => .error e
  | .ok (0, db) => .ok ((), db)
  | .ok (_, db) =>
    match db.insertEvents (changeEvents before change (some actorUserId) .agent) with
    | .error e => .error e
    | .ok (ids, db) =>
      .ok ((), db.enqueueRoot before .ticketStatusChanged (if change.status.isSome then ids.head? else none))

def assignThenQueue (before : Ticket) (assignment : TicketAssignment) (actorUserId : Uuid) (reason : Option String)
    (db : WorkflowDb) : Except WorkflowError (Unit × WorkflowDb) :=
  match db.updateTickets (sameTicket before) (setAssignment assignment) with
  | .error e => .error e
  | .ok (0, db) => .ok ((), db)
  | .ok (_, db) =>
    match db.insertEvent (assignmentEvent before assignment (some actorUserId) .agent reason) with
    | .error e => .error e
    | .ok (id, db) => .ok ((), db.enqueueRoot before .ticketAssigned (some id))

def createThenQueue (ticket : Ticket) (event : TicketEvent) (db : WorkflowDb) : Except WorkflowError (Unit × WorkflowDb) :=
  if Indexed (db.tickets ++ [ticket]) then
    match { db with tickets := db.tickets ++ [ticket] }.insertEvent event with
    | .error e => .error e
    | .ok (_, db) => .ok ((), db.enqueue (rootTrigger ticket.tenantId ticket.id .ticketCreated none))
  else .error .uniqueViolation

def breachThenQueue (timer : SlaTimer) (db : WorkflowDb) : Except WorkflowError (Unit × WorkflowDb) :=
  -- A timer leaves `running` once.
  if db.breachedTimers.any (·.id = timer.id) then .ok ((), db)
  else
    .ok ((), { db with breachedTimers := db.breachedTimers ++ [timer] }.enqueue
      (rootTrigger timer.tenantId timer.ticketId .ticketSlaBreached (some timer.id)))

def insertWorkflow (w : Workflow) (db : WorkflowDb) : Except WorkflowError (Unit × WorkflowDb) :=
  match db.uuids with
  | [] => .error .unavailable
  | id :: uuids =>
    if db.workflows.any (·.id = id) then .error .uniqueViolation
    else .ok ((), { db with workflows := db.workflows ++ [{ w with id }], uuids })

/-- Any edit of a workflow: every column but its ids. -/
def rewriteWorkflow (w : Workflow) (db : WorkflowDb) : Except WorkflowError (Unit × WorkflowDb) :=
  .ok ((), { db with
    workflows := updateWhere (fun w' => w'.tenantId = w.tenantId ∧ w'.id = w.id) (fun _ => w) db.workflows })

def dropWorkflow (tenantId workflowId : Uuid) (db : WorkflowDb) : Except WorkflowError (Unit × WorkflowDb) :=
  .ok ((), { db with
    workflows := db.workflows.filter fun w => ¬ (w.tenantId = tenantId ∧ w.id = workflowId)
    runs := db.runs.filter fun r => ¬ (r.tenantId = tenantId ∧ r.workflowId = workflowId) })

def WorkflowEvent.stmt : WorkflowEvent → WorkflowStmt
  | .createWorkflow _ => .create
  | .editWorkflow _ | .deleteWorkflow .. => .edit
  | _ => .outside

def WorkflowEvent.apply (event : WorkflowEvent) (db : WorkflowDb) : Except WorkflowError (Unit × WorkflowDb) :=
  match event with
  | .createTicket ticket event => createThenQueue ticket event db
  | .updateTicket before change actorUserId => writeThenQueue before change actorUserId db
  | .assignTicket before assignment actorUserId reason => assignThenQueue before assignment actorUserId reason db
  | .writeTickets tickets events =>
    match { db with tickets }.insertEvents events with
    | .error e => .error e
    | .ok (_, db) => .ok ((), db)
  | .breach timer => breachThenQueue timer db
  | .amend lookups =>
    .ok ((), { db with
      lookups
      ticketTags := db.ticketTags.filter fun row => lookups.tags.contains (row.tenantId, row.tagId) })
  | .elapse ms => .ok ((), { db with now := db.now + ms })
  | .createWorkflow w => insertWorkflow w db
  | .editWorkflow w => rewriteWorkflow w db
  | .deleteWorkflow tenantId workflowId => dropWorkflow tenantId workflowId db

inductive WorkflowCall where
  | deliver (trigger : WorkflowEvaluateTicketTrigger)
  | sweep
  | event (event : WorkflowEvent)

def deliver (trigger : WorkflowEvaluateTicketTrigger) : WorkflowM Unit := do
  let queued ← .ghost .receive fun db => (db.jobs.contains trigger, db)
  if queued then do
    let _report ← evaluateTicket trigger
    pure ()
  else pure ()

def callBody : WorkflowCall → WorkflowM Unit
  | .deliver trigger => deliver trigger
  | .sweep => sweep
  | .event event => transaction event.stmt event.apply

def workflowProgram (call : WorkflowCall) : Prog WorkflowStmt WorkflowDb (Except WorkflowError Unit) := (callBody call).run

abbrev WorkflowSys := Sys WorkflowStmt WorkflowDb WorkflowCall (Except WorkflowError Unit)

/-- The states of the runs in which any number of the calls interleave. -/
abbrev WorkflowsRun (db : WorkflowDb) (s : WorkflowSys) : Prop := Reachable workflowProgram anyStep (.idle db) s

def quietTicket : Ticket where
  id := 5
  tenantId := 1
  number := 1
  conversationId := none
  contactId := none
  createdAt := 0

def raiseNewTickets : WorkflowDefinition where
  trigger := .ticketCreated
  actions := [.setPriority .urgent]

def openedTrigger : WorkflowEvaluateTicketTrigger := rootTrigger 1 5 .ticketCreated none

/-- A ticket has just been opened, and the evaluation of its opening is queued. -/
def oneArmedWorkflow : WorkflowDb where
  tickets := [quietTicket]
  workflows := [{ id := 7, tenantId := 1, isActive := true, triggerType := .ticketCreated
                  definition := some raiseNewTickets }]
  lookups := { activeTenants := [1] }
  jobs := [openedTrigger]
  uuids := [21, 22, 23, 24]

end WhatsappCrm.Workflows
