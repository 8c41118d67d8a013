/-
Purpose: `TicketCommandService` (`tickets/ticket-command.service.ts`), the one status write of the bot turn
  (`ai/bot-turn.service.ts`), and `RuleEngineService` (`assignment/rule-engine.service.ts`): route a ticket nobody
  holds.
-/
import WhatsappCrm.Rbac.Visibility
import WhatsappCrm.Tickets.Store

namespace WhatsappCrm

open Interleaving

variable (tenantId : Uuid) (principal : SessionPrincipal) (before : Ticket)

def require (ticketId : Uuid) : TicketProg (Except ApiError Ticket) := do
  let found ← .read (.requireTicket ticketId) fun db => db.findTicket tenantId ticketId
  match found with
  | none => pure (.error (.ticketNotFound ticketId))
  | some ticket =>
    if isVisible ticket.assignable principal .ticketReadAll then pure (.ok ticket)
    else pure (.error (.ticketNotFound ticketId))

/-- What a request actually moves; `none` for a field that was absent or holds the value already. -/
structure TicketChange where
  status : Option TicketStatus := none
  priority : Option TicketPriority := none
  subject : Option String := none
deriving DecidableEq

def emptyChange : TicketChange := {}

def changesIn (input : TicketUpdateInput) : TicketChange :=
  { status := input.status.filter (· ≠ before.status)
    priority := input.priority.filter (· ≠ before.priority)
    subject := input.subject.filter fun subject => some subject ≠ before.subject }

def assertTransitionAllowed (ticketId : Uuid) (source target : TicketStatus) : Except ApiError Unit :=
  if canAgentTransition source target = false then
    .error (.ticketTransitionNotAllowed ticketId source target)
  else if target.requiresClose && !principal.permissions.contains .ticketClose then
    .error (.ticketCloseNotPermitted target)
  else .ok ()

theorem assertTransitionAllowed_ok {principal : SessionPrincipal} {ticketId : Uuid}
    (h : assertTransitionAllowed principal ticketId source target = .ok ()) :
    canAgentTransition source target = true := by
  unfold assertTransitionAllowed at h
  split at h
  · cases h
  · rename_i hne
    simpa using hne

theorem assertTransitionAllowed_error {principal : SessionPrincipal} {ticketId : Uuid}
    (h : assertTransitionAllowed principal ticketId source target = .error e) (raised : DbError) :
    e ≠ .database raised := by
  unfold assertTransitionAllowed at h
  split at h
  · cases h
    simp
  · split at h
    · cases h
      simp
    · cases h

/-- `toUpdateData` as an update of the row: the changed columns, and the timestamps a transition implies. -/
def toUpdateData (change : TicketChange) (actorUserId : Option Uuid) (now : Millis) (t : Ticket) : Ticket :=
  { t with
    status := change.status.getD t.status
    priority := change.priority.getD t.priority
    subject := if change.subject = none then t.subject else change.subject
    resolvedAt := if change.status = some .resolved then some now else t.resolvedAt
    resolvedByUserId := if change.status = some .resolved then actorUserId else t.resolvedByUserId
    closedAt := if change.status = some .closed then some now else t.closedAt }

/-- The `WHERE` of both status writes: the row still has the status that was read. -/
def unchangedStatus (t : Ticket) : Bool :=
  t.tenantId = before.tenantId ∧ t.id = before.id ∧ t.status = before.status

def changeEvents (change : TicketChange) (actorUserId : Option Uuid) (cause : EventCause) : List TicketEvent :=
  let statusEvent := change.status.map fun status =>
    { tenantId := before.tenantId
      ticketId := before.id
      actorUserId
      data := .statusChanged before.status status cause }
  let priorityEvent := change.priority.map fun priority =>
    { tenantId := before.tenantId
      ticketId := before.id
      actorUserId
      data := .priorityChanged before.priority priority cause }
  statusEvent.toList ++ priorityEvent.toList

/-- The transaction both callers run: the compare-and-set, its events, and the row read back. `none` is a
    compare-and-set that matched nothing. -/
def writeTicket (change : TicketChange) (actorUserId : Option Uuid)
    (cause : EventCause) (db : TicketDb) : Except DbError (Option Ticket) × TicketDb :=
  match db.updateTickets (unchangedStatus before) (toUpdateData change actorUserId db.now) with
  | (.error e, db) => (.error e, db)
  | (.ok 0, db) => (.ok none, db)
  | (.ok _, db) =>
    (.ok (db.findTicket before.tenantId before.id),
      db.appendEvents (changeEvents before change actorUserId cause))

def write (change : TicketChange) (actorUserId : Uuid) : TicketProg (Except ApiError Ticket) := do
  let written ← .stmt (.agentWrite before.id) (writeTicket before change (some actorUserId) .agent)
  match written with
  | .error e => pure (.error (.database e))
  | .ok none => pure (.error (.ticketStatusChangedConcurrently before.id before.status))
  | .ok (some after) => pure (.ok after)

def update (ticketId : Uuid) (input : TicketUpdateInput) : TicketProg (Except ApiError Ticket) := do
  match ← require tenantId principal ticketId with
  | .error e => pure (.error e)
  | .ok before =>
    let change := changesIn before input
    let allowed : Except ApiError Unit := match change.status with
      | none => .ok ()
      | some status => assertTransitionAllowed principal ticketId before.status status
    match allowed with
    | .error e => pure (.error e)
    | .ok () =>
      if change = emptyChange then pure (.ok before)
      else write before change principal.userId

structure TicketAssignment where
  assignedUserId : Option Uuid
  assignedTeamId : Option Uuid
deriving DecidableEq

variable (assignment : TicketAssignment) (change : TicketChange) (ticketId : Uuid) (actorUserId : Option Uuid)
  (t : Ticket)

def assignmentAfter (input : TicketAssignInput) : TicketAssignment :=
  { assignedUserId := input.userId.getD before.assignedUserId
    assignedTeamId := input.teamId.getD before.assignedTeamId }

def hasAssignee : Bool :=
  assignment.assignedUserId.isSome || assignment.assignedTeamId.isSome

/-- `manual` while somebody holds the ticket, `pending` once nobody does. -/
def routingStateFor : TicketRouting :=
  if hasAssignee assignment then .manual else .pending

def movesAnything : Bool :=
  before.assignedUserId ≠ assignment.assignedUserId ∨
    before.assignedTeamId ≠ assignment.assignedTeamId ∨
    before.routing.state ≠ (routingStateFor assignment).state ∨
    before.routing.deferredReason ≠ none ∨ before.routing.deferredSince ≠ none

def ticketAssignRequiresReason (ticket : Ticket) : Bool :=
  ticket.assignedUserId.isSome || ticket.assignedTeamId.isSome

def isTeammate (targetUserId : Uuid) : TicketProg Bool :=
  if targetUserId = principal.userId then pure true
  else if principal.teamIds = [] then pure false
  else .read .readAssignees fun db => db.teamMembers.any fun m =>
    m.tenantId = tenantId ∧ m.userId = targetUserId ∧ principal.teamIds.contains m.teamId = true

def assertHandoffAllowed (input : TicketAssignInput) (after : TicketAssignment) : TicketProg (Except ApiError Unit) := do
  if principal.permissions.contains .ticketAssign then pure (.ok ())
  else if before.assignedUserId ≠ some principal.userId then
    pure (.error (.ticketHandoffNotPermitted .notHeld))
  else if input.teamId.join.any (fun teamId => !principal.teamIds.contains teamId) then
    pure (.error (.ticketHandoffNotPermitted .notATeammate))
  else
    let teammate ← input.userId.join.elim (pure true) (isTeammate tenantId principal)
    if teammate = false then pure (.error (.ticketHandoffNotPermitted .notATeammate))
    else if hasAssignee after = false then pure (.error (.ticketHandoffNotPermitted .releasing))
    else pure (.ok ())

def assertFound (field : String) (there : TicketDb → Uuid → Bool) : Option Uuid → TicketProg (Except ApiError Unit)
  | none => pure (.ok ())
  | some id => do
    let found ← .read .readAssignees fun db => there db id
    if found then pure (.ok ()) else pure (.error (.unknownTicketAssignee field id))

def assertAssigneesExist (input : TicketAssignInput) : TicketProg (Except ApiError Unit) := do
  let activeUser := fun (db : TicketDb) userId =>
    db.users.any fun u => u.id = userId ∧ u.tenantId = tenantId ∧ u.active = true
  match ← assertFound "userId" activeUser input.userId.join with
  | .error e => pure (.error e)
  | .ok () => assertFound "teamId" (fun db teamId => db.teams.contains (tenantId, teamId)) input.teamId.join

def setAssignment : Ticket :=
  { t with
    assignedUserId := assignment.assignedUserId
    assignedTeamId := assignment.assignedTeamId
    routing := routingStateFor assignment }

def sameTicket : Bool := t.tenantId = before.tenantId ∧ t.id = before.id

def assignmentEvent (cause : EventCause) (reason : Option String) : TicketEvent :=
  { tenantId := before.tenantId
    ticketId := before.id
    actorUserId
    data :=
      if hasAssignee assignment then
        .assigned assignment.assignedUserId assignment.assignedTeamId before.assignedUserId
          before.assignedTeamId cause reason
      else .unassigned before.assignedUserId before.assignedTeamId cause reason }

/-- The transaction both callers run. The `WHERE` is a filter and not a compare-and-set: last writer wins. -/
def writeAssignmentRow (cause : EventCause) (reason : Option String) (db : TicketDb) :
    Except DbError (Option Ticket) × TicketDb :=
  match db.updateTickets (sameTicket before) (setAssignment assignment) with
  | (.error e, db) => (.error e, db)
  | (.ok 0, db) => (.ok none, db)
  | (.ok _, db) =>
    (.ok (db.findTicket before.tenantId before.id),
      db.appendEvents [assignmentEvent before assignment actorUserId cause reason])

def writeAssignment (reason : Option String) (actorUserId : Uuid) : TicketProg (Except ApiError Ticket) := do
  let written ← .stmt (.agentAssign before.id) (writeAssignmentRow before assignment (some actorUserId) .agent reason)
  match written with
  | .error e => pure (.error (.database e))
  | .ok none => pure (.error (.ticketNotFound before.id))
  | .ok (some after) => pure (.ok after)

/-- `POST /tickets/{id}/assign`: visibility, the handoff bound, the reason, the assignees, the no-op, the write. -/
def assign (input : TicketAssignInput) : TicketProg (Except ApiError Ticket) := do
  match ← require tenantId principal ticketId with
  | .error e => pure (.error e)
  | .ok before =>
    let assignment := assignmentAfter before input
    match ← assertHandoffAllowed tenantId principal before input assignment with
    | .error e => pure (.error e)
    | .ok () =>
      if input.reason = none ∧ ticketAssignRequiresReason before = true then
        pure (.error .ticketReasonRequired)
      else
        match ← assertAssigneesExist tenantId input with
        | .error e => pure (.error e)
        | .ok () =>
          if movesAnything before assignment = false then pure (.ok before)
          else writeAssignment before assignment input.reason principal.userId

/-- The status or priority half of an automation. A lost compare-and-set is a no-op, never a retry. -/
def applyAutomationField (context : TicketAutomationContext) : TicketProg (Except ApiError TicketAutomationOutcome) := do
  let written ← .stmt (.automationWrite before.id) (writeTicket before change none (.workflow context))
  match written with
  | .error e => pure (.error (.database e))
  | .ok none => pure (.ok .noOp)
  | .ok (some _) => pure (.ok .applied)

def applyAutomationAssignment (context : TicketAutomationContext) : TicketProg (Except ApiError TicketAutomationOutcome) := do
  if movesAnything before assignment = false then pure (.ok .noOp)
  else
    let written ← .stmt (.automationAssign before.id) (writeAssignmentRow before assignment none (.workflow context) none)
    match written with
    | .error e => pure (.error (.database e))
    | .ok none => pure (.ok .ticketGone)
    | .ok (some _) => pure (.ok .applied)

/-- `applyAutomation`: a workflow's write, with no principal and no permission check. -/
def applyAutomation (change : TicketAutomationChange)
    (context : TicketAutomationContext) : TicketProg (Except ApiError TicketAutomationOutcome) := do
  let found ← .read (.automationRead ticketId) fun db => db.findTicket tenantId ticketId
  match found with
  | none => pure (.ok .ticketGone)
  | some before =>
    match change with
    | .assignment assignedUserId assignedTeamId =>
      applyAutomationAssignment before { assignedUserId, assignedTeamId } context
    | .priority priority =>
      if priority = before.priority then pure (.ok .noOp)
      else applyAutomationField before { priority := some priority } context
    | .status status =>
      if status = before.status then pure (.ok .noOp)
      else if canAgentTransition before.status status = false then
        pure (.ok .transitionRefused)
      else applyAutomationField before { status := some status } context

def pauseWhere : Bool :=
  t.tenantId = tenantId ∧ t.id = ticketId ∧ t.status = .open

def pauseOpen (db : TicketDb) : Except DbError Nat × TicketDb :=
  db.updateTickets (pauseWhere tenantId ticketId) fun t => { t with status := .pending }

def pauseSla : TicketProg (Except ApiError Bool) := do
  match ← .stmt (.botPause tenantId ticketId) (pauseOpen tenantId ticketId) with
  | .error e => pure (.error (.database e))
  | .ok count => pure (.ok (decide (0 < count)))

variable (tenantId : Uuid) (ticket : Ticket)

inductive RoutingTarget where
  | user (userId : Uuid)
  | team (teamId : Uuid)

def columnsFor : RoutingTarget → TicketAssignment
  | .user userId => { assignedUserId := some userId, assignedTeamId := none }
  | .team teamId => { assignedUserId := none, assignedTeamId := some teamId }

inductive FallbackAssignmentOutcome where
  | assigned
  | noEligibleAgent

structure FallbackAssignmentDecision where
  outcome : FallbackAssignmentOutcome
  userId : Option Uuid
  reason : Option FallbackAssignmentReason

/-- What the evaluation of the rules comes to: the first usable match, or rotation's answer when there is none. -/
inductive RoutingDecision where
  | rule (ruleId : Uuid) (name : String) (target : RoutingTarget)
  | fallBack (decision : FallbackAssignmentDecision)

/-- `TicketRoutingTrigger`, without the message whose body the rules may look at. -/
structure TicketRoutingTrigger where
  tenantId : Uuid
  ticketId : Uuid
deriving DecidableEq

/-- The compare-and-set of `assign`: nobody holds the ticket. -/
def assignWhere (ticketId : Uuid) (t : Ticket) : Bool :=
  t.tenantId = tenantId ∧ t.id = ticketId ∧ t.assignedUserId = none ∧ t.assignedTeamId = none

def routeTo (assignment : TicketAssignment) (t : Ticket) : Ticket :=
  { t with
    assignedUserId := assignment.assignedUserId
    assignedTeamId := assignment.assignedTeamId
    routing := .assigned }

def routedEvent (assignment : TicketAssignment) (reason : String) (ruleId : Option Uuid) : TicketEvent :=
  { tenantId
    ticketId := ticket.id
    data := .routed reason ruleId assignment.assignedUserId assignment.assignedTeamId }

def assignUnheld (assignment : TicketAssignment)
    (reason : String) (ruleId : Option Uuid) (db : TicketDb) : Except DbError Bool × TicketDb :=
  match db.updateTickets (assignWhere tenantId ticket.id) (routeTo assignment) with
  | (.error e, db) => (.error e, db)
  | (.ok 0, db) => (.ok false, db)
  | (.ok _, db) =>
    (.ok true, db.appendEvents [routedEvent tenantId ticket assignment reason ruleId])

/-- The guard of `defer`: the state is not `deferred` already. -/
def deferWhere (ticketId : Uuid) (t : Ticket) : Bool :=
  t.tenantId = tenantId ∧ t.id = ticketId ∧ t.routing.state ≠ .deferred

def deferTo (reason : FallbackAssignmentReason) (now : Millis) (t : Ticket) : Ticket :=
  { t with routing := .deferred reason now }

/-- The transaction of `defer`. The event is appended whether or not the guard matched. -/
def deferUnplaced (reason : FallbackAssignmentReason) (db : TicketDb) : Except DbError Unit × TicketDb :=
  match db.updateTickets (deferWhere tenantId ticket.id) (deferTo reason db.now) with
  | (.error e, db) => (.error e, db)
  | (.ok _, db) =>
    (.ok (), db.appendEvents [{ tenantId, ticketId := ticket.id, data := .assignmentDeferred reason }])

def assignRouted (assignment : TicketAssignment)
    (reason : String) (ruleId : Option Uuid) (outcome : TicketRoutingOutcome) :
    TicketProg (Except ApiError TicketRoutingOutcome) := do
  let written ← .stmt (.routerAssign tenantId ticket.id) (assignUnheld tenantId ticket assignment reason ruleId)
  match written with
  | .error e => pure (.error (.database e))
  | .ok true => pure (.ok outcome)
  | .ok false => pure (.ok .skippedAlreadyAssigned)

def defer (decision : FallbackAssignmentDecision) : TicketProg (Except ApiError TicketRoutingOutcome) := do
  let reason := decision.reason.getD .noCandidatePool
  match ← .stmt (.routerDefer tenantId ticket.id) (deferUnplaced tenantId ticket reason) with
  | .error e => pure (.error (.database e))
  | .ok () => pure (.ok (.deferred reason))

def applyRule (ruleId : Uuid) (name : String)
    (target : RoutingTarget) : TicketProg (Except ApiError TicketRoutingOutcome) :=
  assignRouted tenantId ticket (columnsFor target) ("Routed by rule \"" ++ name ++ "\"") (some ruleId) .routed

/-- `fallBack`. A decision is an assignment only if it also names somebody. -/
def fallBack (decision : FallbackAssignmentDecision) : TicketProg (Except ApiError TicketRoutingOutcome) :=
  match decision.outcome, decision.userId with
  | .assigned, some userId =>
    assignRouted tenantId ticket { assignedUserId := some userId, assignedTeamId := none }
      "Assigned by rotation" none .fallbackAssigned
  | _, _ => defer tenantId ticket decision

def routeTicket (trigger : TicketRoutingTrigger) (decision : RoutingDecision) :
    TicketProg (Except ApiError TicketRoutingOutcome) := do
  let found ← .read (.routerRead trigger.ticketId) fun db =>
    db.findTicket trigger.tenantId trigger.ticketId
  match found with
  | none => pure (.error (.ticketNotVisible trigger.ticketId))
  | some ticket =>
    if ticket.status.isActive = false then pure (.ok .skippedNotActive)
    else if ticket.assignedUserId ≠ none ∨ ticket.assignedTeamId ≠ none then
      pure (.ok .skippedAlreadyAssigned)
    else
      match decision with
      | .rule ruleId name target => applyRule trigger.tenantId ticket ruleId name target
      | .fallBack decision => fallBack trigger.tenantId ticket decision

end WhatsappCrm
