/-
Purpose: The SLA rows and the pure rules over them (`sla/sla-timer-target.ts`, `sla/sla-policy-resolution.ts`,
  `people/supervisor-recipients.ts`), the guarded writes, and the reconciler (`sla/sla-timer.service.ts`).
-/
import WhatsappCrm.Tickets.Store
import WhatsappCrm.Lib.Transaction

namespace WhatsappCrm

open Table

inductive SlaTimerState where
  | running
  | met
  | breached
  | cancelled
  | paused
deriving DecidableEq

/-- `MUTABLE_STATES`: what a reconciler may still move a timer out of. The rest are terminal. -/
def SlaTimerState.isMutable : SlaTimerState → Bool
  | .running => true
  | .paused => true
  | _ => false

structure SlaTimer where
  id : Uuid
  tenantId : Uuid
  ticketId : Uuid
  policyId : Uuid
  kind : SlaTargetKind
  state : SlaTimerState := .running
  startedAt : Millis
  dueAt : Millis
  stoppedAt : Option Millis := none
  pausedAt : Option Millis := none
  pausedMs : Int := 0
  breachedAt : Option Millis := none
deriving DecidableEq

structure SlaTimerCreate where
  id : Uuid
  tenantId : Uuid
  ticketId : Uuid
  policyId : Uuid
  kind : SlaTargetKind
  startedAt : Millis
  dueAt : Millis
deriving DecidableEq

def SlaTimerCreate.row (data : SlaTimerCreate) : SlaTimer :=
  { id := data.id
    tenantId := data.tenantId
    ticketId := data.ticketId
    policyId := data.policyId
    kind := data.kind
    startedAt := data.startedAt
    dueAt := data.dueAt }

structure SlaPolicy where
  id : Uuid
  tenantId : Uuid
  name : String
  priority : Option TicketPriority
  firstResponseMinutes : Option Nat
  resolutionMinutes : Option Nat
  isActive : Bool
  createdAt : Millis
deriving DecidableEq

structure SlaAlert where
  tenantId : Uuid
  slaTimerId : Uuid
  ticketId : Uuid
  recipientUserId : Uuid
  kind : SlaTargetKind
  dueAt : Millis

/-- `SlaTimerTarget`: a breach is something the sweep observes, never something a ticket implies. -/
inductive SlaTimerTarget where
  | running
  | paused
  | met
  | cancelled
deriving DecidableEq

def SlaTimerTarget.state : SlaTimerTarget → SlaTimerState
  | .running => .running
  | .paused => .paused
  | .met => .met
  | .cancelled => .cancelled

def slaTimerTargetFor (kind : SlaTargetKind) (status : TicketStatus)
    (firstRespondedAt resolvedAt : Option Millis) : SlaTimerTarget :=
  let achieved := match kind with
    | .firstResponse => firstRespondedAt.isSome
    | .resolution => resolvedAt.isSome
  if achieved then .met
  else if status = .resolved ∨ status = .closed then .cancelled
  else if status.pausesSla then .paused
  else .running

theorem slaTimerTargetFor_eq_met : slaTimerTargetFor kind status firstRespondedAt resolvedAt = .met ↔
      (match kind with
        | .firstResponse => firstRespondedAt
        | .resolution => resolvedAt) ≠ none := by
  cases kind <;> cases firstRespondedAt <;> cases resolvedAt <;> cases status <;>
    simp [slaTimerTargetFor, TicketStatus.pausesSla]

theorem slaTimerTargetFor_cancelled (h : slaTimerTargetFor kind status firstRespondedAt resolvedAt = .cancelled) :
    status.isActive = false := by
  revert h
  cases kind <;> cases firstRespondedAt <;> cases resolvedAt <;> cases status <;>
    simp [slaTimerTargetFor, TicketStatus.pausesSla, TicketStatus.isActive]

def SlaPolicy.windowFor (policy : SlaPolicy) : SlaTargetKind → Option Nat
  | .firstResponse => policy.firstResponseMinutes
  | .resolution => policy.resolutionMinutes

/-- `oldestFirst`: the id breaks ties. -/
def SlaPolicy.oldestFirst (left right : SlaPolicy) : Bool :=
  left.createdAt < right.createdAt ∨ (left.createdAt = right.createdAt ∧ left.id ≤ right.id)

/-- `resolvePolicyForPriority`: the oldest active policy of this priority, or else of any. -/
def resolvePolicyForPriority (policies : List SlaPolicy) (priority : TicketPriority) : Option SlaPolicy :=
  let active := policies.filter (·.isActive)
  match firstBy SlaPolicy.oldestFirst (active.filter (·.priority = some priority)) with
  | some policy => some policy
  | none => firstBy SlaPolicy.oldestFirst (active.filter (·.priority = none))

/-- The row `createDefault` writes for a tenant without any policy (`SLA_DEFAULTS`). -/
def defaultPolicy (tenantId id : Uuid) (now : Millis) : SlaPolicy :=
  { id
    tenantId
    name := "Default"
    priority := none
    firstResponseMinutes := some 60
    resolutionMinutes := none
    isActive := true
    createdAt := now }

def millisecondsPerMinute : Int := 60000

structure AlertCandidate where
  id : Uuid
  teamIds : List Uuid

/-- `resolveAlertRecipients`: the candidates who share a team with whoever holds the ticket, or all of them. -/
def resolveAlertRecipients (candidates : List AlertCandidate) (assignedUserId assignedTeamId : Option Uuid)
    (assignedUserTeamIds : List Uuid) : List Uuid :=
  let sharedTeamIds := match assignedUserId with
    | none => assignedTeamId.toList
    | some _ => assignedUserTeamIds
  if sharedTeamIds = [] then candidates.map (·.id)
  else
    let narrowed := candidates.filter fun c => c.teamIds.any sharedTeamIds.contains
    (if narrowed = [] then candidates else narrowed).map (·.id)

open Interleaving

structure SlaDb where
  base : TicketDb := {}
  slaTimers : List SlaTimer := []
  slaPolicies : List SlaPolicy := []
  slaAlerts : List SlaAlert := []

namespace SlaTimer

def idEntry (t : SlaTimer) : Option Uuid := some t.id

/-- The entry in `UNIQUE (tenant_id, ticket_id, kind)`. -/
def kindEntry (t : SlaTimer) : Option (Uuid × Uuid × SlaTargetKind) :=
  some (t.tenantId, t.ticketId, t.kind)

end SlaTimer

def SlaPolicy.idEntry (p : SlaPolicy) : Option Uuid := some p.id

/-- The entry in `UNIQUE (tenant_id, sla_timer_id, recipient_user_id)`. -/
def SlaAlert.recipientEntry (a : SlaAlert) : Option (Uuid × Uuid × Uuid) :=
  some (a.tenantId, a.slaTimerId, a.recipientUserId)

inductive SlaWrite where
  | stampFirstResponse (tenantId ticketId : Uuid) (respondedAt : Millis) (userId : Option Uuid)
  | createDefault (policy : SlaPolicy)
  | createTimers (rows : List SlaTimerCreate)
  | applyTransition (tenantId timerId : Uuid) (target : SlaTimerTarget) (now : Millis)
  | breach (tenantId timerId : Uuid) (now : Millis) (recipientUserIds : List Uuid)

inductive SlaRow where
  | ticket (id : Uuid)
  | policy (id : Uuid)
  | created (data : SlaTimerCreate)
  | timer (id : Uuid)
deriving DecidableEq

/-- `(…)::int` and the sum stored in the column: a value out of range raises. -/
def int4? (value : Int) : Except ApiError Int :=
  if value < -int4Max - 1 ∨ int4Max < value then .error (.database .outOfRange) else .ok value

/-- `paused_ms + (extract(epoch from …) * 1000)::int`. -/
def addPause (pausedMs pause : Int) : Except ApiError Int := do
  let pause ← int4? pause
  int4? (pausedMs + pause)

def SlaTimer.openPause (t : SlaTimer) (now : Millis) : Int :=
  match t.pausedAt with
  | none => 0
  | some pausedAt => now - pausedAt

def transitioned (target : SlaTimerTarget) (now : Millis) (t : SlaTimer) : Except ApiError SlaTimer :=
  match target with
  | .paused => .ok { t with state := .paused, pausedAt := some now }
  | .running =>
    match t.pausedAt with
    | none => .error (.database .notNullViolation)
    | some pausedAt => do
      let pausedMs ← addPause t.pausedMs (now - pausedAt)
      pure { t with
        state := .running
        dueAt := t.dueAt + (now - pausedAt)
        pausedMs
        pausedAt := none }
  | stopped => do
    let pausedMs ← addPause t.pausedMs (t.openPause now)
    pure { t with state := stopped.state, stoppedAt := some now, pausedMs, pausedAt := none }

def SlaTimerTarget.admits : SlaTimerTarget → SlaTimerState → Bool
  | .paused, state => state = .running
  | .running, state => state = .paused
  | _, state => state.isMutable

def SlaTimer.isDue (t : SlaTimer) (now : Millis) : Bool := t.state = .running ∧ t.dueAt ≤ now

def newTimers (timers : List SlaTimer) (rows : List SlaTimerCreate) : List SlaTimerCreate :=
  skipDuplicates (fun new t => t.id = new.id ∨ t.kindEntry = new.kindEntry) SlaTimerCreate.row timers rows

def newAlerts (alerts rows : List SlaAlert) : List SlaAlert :=
  skipDuplicates (fun new a => a.recipientEntry = new.recipientEntry) id alerts rows

def alertsFor (t : SlaTimer) (recipientUserIds : List Uuid) : List SlaAlert :=
  recipientUserIds.map fun recipientUserId =>
    { tenantId := t.tenantId
      slaTimerId := t.id
      ticketId := t.ticketId
      recipientUserId
      kind := t.kind
      dueAt := t.dueAt }

namespace SlaDb

variable (db : SlaDb)

def findTimer (tenantId timerId : Uuid) : Option SlaTimer :=
  db.slaTimers.find? fun t => t.id = timerId ∧ t.tenantId = tenantId

def putTimer (t' : SlaTimer) : SlaDb :=
  { db with slaTimers := updateWhere (fun t => t.id = t'.id) (fun _ => t') db.slaTimers }

def unanswered (tenantId ticketId : Uuid) (t : Ticket) : Bool :=
  t.tenantId = tenantId ∧ t.id = ticketId ∧ t.firstRespondedAt = none

def stampFirstResponse (tenantId ticketId : Uuid) (respondedAt : Millis) (userId : Option Uuid) : List SlaRow × SlaDb :=
  if db.base.tickets.any (unanswered tenantId ticketId) then
    let tickets := updateWhere (unanswered tenantId ticketId)
      (fun t => { t with firstRespondedAt := some respondedAt, firstResponseUserId := userId })
      db.base.tickets
    let event : TicketEvent := { tenantId, ticketId, data := .firstResponse respondedAt }
    ([.ticket ticketId],
      { db with base := ({ db.base with tickets } : TicketDb).appendEvents [event] })
  else ([], db)

/-- A policy row that a new one would clash with: the primary key, or `UNIQUE (tenant_id, name)`. -/
def policyTaken (policy : SlaPolicy) : Bool :=
  db.slaPolicies.any fun p => p.id = policy.id ∨ (p.tenantId = policy.tenantId ∧ p.name = policy.name)

def createDefault (policy : SlaPolicy) : Except ApiError (List SlaRow × SlaDb) :=
  if db.policyTaken policy then .error (.database .uniqueViolation)
  else .ok ([.policy policy.id], { db with slaPolicies := db.slaPolicies ++ [policy] })

def createTimers (rows : List SlaTimerCreate) : List SlaRow × SlaDb :=
  let written := newTimers db.slaTimers rows
  (written.map .created, { db with slaTimers := db.slaTimers ++ written.map (·.row) })

def applyTransition (tenantId timerId : Uuid) (target : SlaTimerTarget) (now : Millis) :
    Except ApiError (List SlaRow × SlaDb) :=
  match db.findTimer tenantId timerId with
  | none => .ok ([], db)
  | some t =>
    if target.admits t.state then do
      let t' ← transitioned target now t
      pure ([.timer timerId], db.putTimer t')
    else .ok ([], db)

def breach (tenantId timerId : Uuid) (now : Millis) (recipientUserIds : List Uuid) : List SlaRow × SlaDb :=
  match db.findTimer tenantId timerId with
  | none => ([], db)
  | some t =>
    if t.isDue now then
      let event : TicketEvent :=
        { tenantId, ticketId := t.ticketId, data := .slaBreached t.kind t.dueAt }
      let alerts := newAlerts db.slaAlerts (alertsFor t recipientUserIds)
      ([.timer timerId],
        { db.putTimer { t with state := .breached, breachedAt := some now } with
          base := db.base.appendEvents [event]
          slaAlerts := db.slaAlerts ++ alerts })
    else ([], db)

end SlaDb

def SlaWrite.apply (w : SlaWrite) (db : SlaDb) : Except ApiError (List SlaRow × SlaDb) :=
  match w with
  | .stampFirstResponse tenantId ticketId respondedAt userId =>
    .ok (db.stampFirstResponse tenantId ticketId respondedAt userId)
  | .createDefault policy => db.createDefault policy
  | .createTimers rows => .ok (db.createTimers rows)
  | .applyTransition tenantId timerId target now => db.applyTransition tenantId timerId target now
  | .breach tenantId timerId now recipientUserIds => .ok (db.breach tenantId timerId now recipientUserIds)

def slaWrites : Writes SlaDb SlaWrite SlaRow ApiError where
  apply := SlaWrite.apply
  conflict := .database .serializationFailure

/-- Which tickets of its tenant an SLA transaction is about: one, or those of some timers. -/
inductive SlaScope where
  | ticket (ticketId : Uuid)
  | timers (timerIds : List Uuid)

/-- The statements of the SLA transactions, and those of the operations beside them. -/
inductive SlaStmt where
  | ticket (stmt : Stmt)
  | draft
  | sendMessage (message : Message)
  | start
  | readTicket (ticketId : Uuid)
  | readTimers (ticketId : Uuid)
  | readReply (conversationId : Uuid)
  | readPolicies
  | readDue
  | readCandidates
  | readResponsibility (ticketId : Uuid)
  | guardedWrite
  | commit (now : Millis) (tenantId : Uuid) (scope : SlaScope)

abbrev SlaTx := Tx SlaStmt SlaDb SlaWrite SlaRow ApiError

abbrev SlaProg := Prog SlaStmt SlaDb

open Interleaving

variable (tenantId : Uuid)

structure NewIds where
  policyId : Uuid
  timerId : SlaTargetKind → Uuid

variable (ids : NewIds) (now : Millis) (ticket : Ticket)

structure SlaEvaluationSummary where
  ticketId : Uuid
  created : Nat
  transitioned : Nat
  firstResponseStamped : Bool

def Message.earlier (left right : Message) : Bool :=
  left.sentAt < right.sentAt ∨ (left.sentAt = right.sentAt ∧ left.id ≤ right.id)

def Message.answers (conversationId : Uuid) (createdAt : Millis) (m : Message) : Bool :=
  m.tenantId = tenantId ∧ m.conversationId = conversationId ∧ m.direction = .outbound ∧
    m.senderUserId ≠ none ∧ createdAt ≤ m.sentAt

def SlaDb.firstReply (db : SlaDb) (tenantId conversationId : Uuid) (createdAt : Millis) : Option Message :=
  firstBy Message.earlier (db.base.messages.filter (Message.answers tenantId conversationId createdAt))

/-- `stampFirstResponse`: when a person first replied, written the first time it is seen. -/
def stampFirstResponse : SlaTx (Option Millis) :=
  match ticket.firstRespondedAt, ticket.conversationId with
  | some respondedAt, _ => pure (some respondedAt)
  | none, none => pure none
  | none, some conversationId => do
    let reply ← .query (.readReply conversationId) fun db =>
      db.firstReply tenantId conversationId ticket.createdAt
    match reply with
    | none => pure none
    | some reply => do
      let _ ← .execute .guardedWrite (.stampFirstResponse tenantId ticket.id reply.sentAt reply.senderUserId)
      pure (some reply.sentAt)

def SlaDb.policiesOf (db : SlaDb) (tenantId : Uuid) : List SlaPolicy :=
  db.slaPolicies.filter fun p => p.tenantId = tenantId

def SlaDb.findPolicy (db : SlaDb) (tenantId policyId : Uuid) : Option SlaPolicy :=
  db.slaPolicies.find? fun p => p.id = policyId ∧ p.tenantId = tenantId

def SlaDb.timersOf (db : SlaDb) (tenantId ticketId : Uuid) : List SlaTimer :=
  db.slaTimers.filter fun t => t.ticketId = ticketId ∧ t.tenantId = tenantId

/-- `resolveForTicket`: the default policy is created for a tenant that has none at all. -/
def resolveForTicket (policyId : Uuid) (now : Millis) (priority : TicketPriority) : SlaTx (Option SlaPolicy) := do
  let policies ← .query .readPolicies fun db => db.policiesOf tenantId
  if policies = [] then do
    let _ ← .execute .guardedWrite (.createDefault (defaultPolicy tenantId policyId now))
    pure (some (defaultPolicy tenantId policyId now))
  else pure (resolvePolicyForPriority policies priority)

def policyForTicket (policyId : Uuid) (now : Millis) (ticket : Ticket) (timers : List SlaTimer) :
    SlaTx (Option SlaPolicy) :=
  match timers.head? with
  | none => resolveForTicket tenantId policyId now ticket.priority
  | some timer => .query .readPolicies fun db => db.findPolicy tenantId timer.policyId

def slaTimerKinds : List SlaTargetKind := [.firstResponse, .resolution]

/-- One row of `createMany`: the deadline is anchored to the ticket. -/
def timerData (policyId : Uuid) (kind : SlaTargetKind) (minutes : Nat) : SlaTimerCreate :=
  { id := ids.timerId kind
    tenantId
    ticketId := ticket.id
    policyId
    kind
    startedAt := ticket.createdAt
    dueAt := ticket.createdAt + minutes * millisecondsPerMinute }

def missingTimers (held : List SlaTargetKind) (policy : SlaPolicy) : List SlaTimerCreate :=
  slaTimerKinds.filterMap fun kind =>
    if held.contains kind then none
    else (policy.windowFor kind).map (timerData tenantId ids ticket policy.id kind)

def createMissingTimers (timers : List SlaTimer) : SlaTx Nat := do
  match ← policyForTicket tenantId ids.policyId now ticket timers with
  | none => pure 0
  | some policy =>
    match missingTimers tenantId ids ticket (timers.map (·.kind)) policy with
    | [] => pure 0
    | rows => do
      let written ← .execute .guardedWrite (.createTimers rows)
      pure written.length

def moveTimer (timer : SlaTimer) (target : SlaTimerTarget) : SlaTx Nat :=
  if timer.state = target.state then pure 0
  else do
    let moved ← .execute .guardedWrite (.applyTransition tenantId timer.id target now)
    pure moved.length

def moveTimers (tenantId : Uuid) (now : Millis) (ticket : Ticket) (firstRespondedAt : Option Millis) :
    List SlaTimer → SlaTx Nat
  | [] => pure 0
  | timer :: timers =>
    if timer.state.isMutable then do
      let moved ← moveTimer tenantId now timer
        (slaTimerTargetFor timer.kind ticket.status firstRespondedAt ticket.resolvedAt)
      let rest ← moveTimers tenantId now ticket firstRespondedAt timers
      pure (moved + rest)
    else moveTimers tenantId now ticket firstRespondedAt timers

/-- `reconcileTimers`: the timers are read again when one was created. -/
def reconcileTimers (timers : List SlaTimer) (firstRespondedAt : Option Millis) (reread : Bool) : SlaTx Nat := do
  let timers ← if reread then .query (.readTimers ticket.id) fun db => db.timersOf tenantId ticket.id
    else pure timers
  moveTimers tenantId now ticket firstRespondedAt timers

/-- `reconcile`: one ticket's whole reconciliation, in the transaction of its caller. -/
def reconcile (ticketId : Uuid) : SlaTx SlaEvaluationSummary := do
  match ← .query (.readTicket ticketId) fun db => db.base.findTicket tenantId ticketId with
  | none => .abort (.slaTicketNotVisible ticketId)
  | some ticket => do
    let timers ← .query (.readTimers ticketId) fun db => db.timersOf tenantId ticketId
    let firstRespondedAt ← stampFirstResponse tenantId ticket
    let created ← createMissingTimers tenantId ids now ticket timers
    let transitioned ← reconcileTimers tenantId now ticket timers firstRespondedAt (0 < created)
    pure
      { ticketId := ticket.id
        created
        transitioned
        firstResponseStamped := ticket.firstRespondedAt = none ∧ firstRespondedAt ≠ none }

def tenantTransaction {α : Type} (tenantId : Uuid) (scope : SlaScope) (body : Millis → SlaTx α) :
    SlaProg (Except ApiError α) :=
  .atomic .start (fun db => (db.base.now, db)) fun now =>
    (body now).run slaWrites (.commit now tenantId scope) []

def evaluate (ticketId : Uuid) (ids : NewIds) : SlaProg (Except ApiError SlaEvaluationSummary) :=
  tenantTransaction tenantId (.ticket ticketId) fun now => reconcile tenantId ids now ticketId

end WhatsappCrm
