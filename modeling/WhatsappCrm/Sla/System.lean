/-
Purpose: One chunk of the breach sweep (`sla/sla-sweep.service.ts`), and the SLA jobs and the ticket operations running
  interleaved.
-/
import WhatsappCrm.Sla.Timer
import Mathlib.Data.List.Dedup
import Mathlib.Data.List.Sort
import WhatsappCrm.Tickets.Invariants

namespace WhatsappCrm

open Interleaving Table

structure BreachRecord where
  ticketId : Uuid
  slaTimerId : Uuid

namespace SlaDb

variable (db : SlaDb)

def dueTimers (tenantId : Uuid) (timerIds : List Uuid) (now : Millis) : List SlaTimer :=
  db.slaTimers.filter fun t => t.tenantId = tenantId ∧ timerIds.contains t.id ∧ t.isDue now

/-- `SELECT DISTINCT ticket_id … ORDER BY ticket_id`. -/
def dueTickets (tenantId : Uuid) (timerIds : List Uuid) (now : Millis) : List Uuid :=
  ((db.dueTimers tenantId timerIds now).map (·.ticketId)).dedup.insertionSort (· ≤ ·)

/-- `loadAlertCandidates`: the tenant's active supervisors and admins. -/
def alertCandidates (tenantId : Uuid) : List AlertCandidate :=
  (db.base.users.filter fun u => u.tenantId = tenantId ∧ u.role ≠ .agent ∧ u.active).map fun u =>
    { id := u.id
      teamIds := (db.base.teamMembers.filter fun m => m.tenantId = tenantId ∧ m.userId = u.id).map (·.teamId) }

def teamsOf (tenantId userId : Uuid) : List Uuid :=
  (db.base.teamMembers.filter fun m => m.tenantId = tenantId ∧ m.userId = userId).map (·.teamId)

end SlaDb

def reconcileAll (tenantId : Uuid) (ids : Uuid → NewIds) (now : Millis) : List Uuid → SlaTx Unit
  | [] => pure ()
  | ticketId :: ticketIds => do
    let _ ← reconcile tenantId (ids ticketId) now ticketId
    reconcileAll tenantId ids now ticketIds

def reconcileDueTickets (tenantId : Uuid) (ids : Uuid → NewIds) (now : Millis) (timerIds : List Uuid) : SlaTx Unit := do
  let ticketIds ← .query .readDue fun db => db.dueTickets tenantId timerIds now
  reconcileAll tenantId ids now ticketIds

/-- `claim`: the due timers, but for the rows another sweep holds (`SKIP LOCKED`). -/
def claim (tenantId : Uuid) (now : Millis) (timerIds skipped : List Uuid) : SlaTx (List SlaTimer) :=
  .query .readDue fun db =>
    (db.dueTimers tenantId timerIds now).filter fun t => !skipped.contains t.id

def resolveRecipients (tenantId : Uuid) (candidates : List AlertCandidate) (ticket : Ticket) : SlaTx (List Uuid) :=
  if candidates = [] then pure []
  else
    match ticket.assignedUserId with
    | none => pure (resolveAlertRecipients candidates none ticket.assignedTeamId [])
    | some userId => do
      let teamIds ← .query (.readResponsibility ticket.id) fun db => db.teamsOf tenantId userId
      pure (resolveAlertRecipients candidates (some userId) ticket.assignedTeamId teamIds)

def breachTimer (tenantId : Uuid) (now : Millis) (candidates : List AlertCandidate) (timer : SlaTimer) :
    SlaTx (List BreachRecord) := do
  match ← .query (.readTicket timer.ticketId) fun db => db.base.findTicket tenantId timer.ticketId with
  | none => do
    let _ ← .execute .guardedWrite (.breach tenantId timer.id now [])
    pure []
  | some ticket => do
    let recipientUserIds ← resolveRecipients tenantId candidates ticket
    let claimed ← .execute .guardedWrite (.breach tenantId timer.id now recipientUserIds)
    if claimed = [] then pure []
    else pure [{ ticketId := timer.ticketId, slaTimerId := timer.id }]

def breachAll (tenantId : Uuid) (now : Millis) (candidates : List AlertCandidate) :
    List SlaTimer → SlaTx (List BreachRecord)
  | [] => pure []
  | timer :: timers => do
    let breaches ← breachTimer tenantId now candidates timer
    let rest ← breachAll tenantId now candidates timers
    pure (breaches ++ rest)

/-- `claimAndAlert`: reconcile, claim, audit, deliver. -/
def claimAndAlert (tenantId : Uuid) (ids : Uuid → NewIds) (now : Millis) (timerIds skipped : List Uuid) :
    SlaTx (List BreachRecord) := do
  reconcileDueTickets tenantId ids now timerIds
  let claimed ← claim tenantId now timerIds skipped
  if claimed = [] then pure []
  else do
    let candidates ← .query .readCandidates fun db => db.alertCandidates tenantId
    breachAll tenantId now candidates claimed

def breachChunk (tenantId : Uuid) (ids : Uuid → NewIds) (timerIds skipped : List Uuid) :
    SlaProg (Except ApiError (List BreachRecord)) :=
  tenantTransaction tenantId (.timers timerIds) fun now =>
    claimAndAlert tenantId ids now timerIds skipped

inductive SlaCall where
  | ticket (call : TicketCall)
  | send (message : Message)
  | evaluate (tenantId ticketId : Uuid) (ids : NewIds)
  | breachChunk (tenantId : Uuid) (ids : Uuid → NewIds) (timerIds skipped : List Uuid)

inductive SlaReply where
  | ticket (reply : TicketReply)
  | sent
  | evaluated (result : Except ApiError SlaEvaluationSummary)
  | breached (result : Except ApiError (List BreachRecord))

def SlaDb.withBase (base : TicketDb) (db : SlaDb) : SlaDb := { db with base }

/-- `MessageSendService.send`: `sent_at` is the moment the agent pressed send, the row is written later. -/
def send (message : Message) : SlaProg Unit :=
  .atomic .draft (fun db => (db.base.now, db)) fun sentAt =>
    .stmt (.sendMessage { message with sentAt }) fun db =>
      ((), db.withBase { db.base with messages := db.base.messages ++ [{ message with sentAt }] })

def slaProgram : SlaCall → SlaProg SlaReply
  | .ticket call => ((program call).zoom SlaDb.base SlaDb.withBase .ticket).bind (.pure ∘ .ticket)
  | .send message => (send message).bind fun _ => .pure .sent
  | .evaluate tenantId ticketId ids => (evaluate tenantId ticketId ids).bind (.pure ∘ .evaluated)
  | .breachChunk tenantId ids timerIds skipped =>
    (breachChunk tenantId ids timerIds skipped).bind (.pure ∘ .breached)

abbrev SlaSys := Sys SlaStmt SlaDb SlaCall SlaReply

abbrev SlaRun (db : SlaDb) (s : SlaSys) : Prop := Reachable slaProgram anyStep (.idle db) s

/-- What a write can do to a timer it selects, with the transaction's `now()`. -/
inductive TimerMove (now : Millis) : SlaTimer → SlaTimer → Prop where
  | pause (t : SlaTimer) (hrunning : t.state = .running) :
      TimerMove now t { t with state := .paused, pausedAt := some now }
  | resume (t : SlaTimer) (pausedAt : Millis) (hpaused : t.state = .paused)
      (hpausedAt : t.pausedAt = some pausedAt) :
      TimerMove now t { t with
        state := .running
        dueAt := t.dueAt + (now - pausedAt)
        pausedMs := t.pausedMs + (now - pausedAt)
        pausedAt := none }
  | stop (t : SlaTimer) (state : SlaTimerState) (hmutable : t.state.isMutable = true)
      (hstate : state = .met ∨ state = .cancelled) :
      TimerMove now t { t with
        state
        stoppedAt := some now
        pausedMs := t.pausedMs + t.openPause now
        pausedAt := none }
  | breach (t : SlaTimer) (hrunning : t.state = .running) (hdue : t.dueAt ≤ now) :
      TimerMove now t { t with state := .breached, breachedAt := some now }

theorem int4?_ok (h : int4? value = .ok result) : result = value := by
  cases (ok_of_ite h).2
  rfl

theorem addPause_ok (h : addPause pausedMs pause = .ok result) : result = pausedMs + pause := by
  simp only [addPause, bind, Except.bind] at h
  split at h
  · cases h
  · rename_i value hvalue
    rw [int4?_ok h, int4?_ok hvalue]

theorem transitioned_move {target : SlaTimerTarget} {now : Millis} {t : SlaTimer}
    (hadmits : target.admits t.state = true) (h : transitioned target now t = .ok t') :
    TimerMove now t t' ∧ t'.state = target.state := by
  have hstop : ∀ stopped : SlaTimerTarget, stopped.state = .met ∨ stopped.state = .cancelled →
      t.state.isMutable = true → (do
        let pausedMs ← addPause t.pausedMs (t.openPause now)
        pure { t with state := stopped.state, stoppedAt := some now, pausedMs, pausedAt := none } :
        Except ApiError SlaTimer) = .ok t' → TimerMove now t t' ∧ t'.state = stopped.state := by
    intro stopped hstate hmutable h
    simp only [bind, Except.bind] at h
    split at h
    · cases h
    · rename_i pausedMs hpause
      cases h
      rw [addPause_ok hpause]
      exact ⟨.stop t _ hmutable hstate, rfl⟩
  cases target with
  | paused =>
    cases h
    exact ⟨.pause t (by simpa [SlaTimerTarget.admits] using hadmits), rfl⟩
  | running =>
    simp only [transitioned] at h
    split at h
    · cases h
    · rename_i pausedAt hpausedAt
      simp only [bind, Except.bind] at h
      split at h
      · cases h
      · rename_i pausedMs hpause
        cases h
        rw [addPause_ok hpause]
        exact ⟨.resume t pausedAt (by simpa [SlaTimerTarget.admits] using hadmits) hpausedAt, rfl⟩
  | met => exact hstop .met (.inl rfl) hadmits h
  | cancelled => exact hstop .cancelled (.inr rfl) hadmits h

/-- What identifies a timer and stays as it was written: its target, its policy and its start. -/
structure SameTarget (t t' : SlaTimer) : Prop where
  id : t'.id = t.id
  tenantId : t'.tenantId = t.tenantId
  ticketId : t'.ticketId = t.ticketId
  policyId : t'.policyId = t.policyId
  kind : t'.kind = t.kind
  startedAt : t'.startedAt = t.startedAt

namespace SameTarget

theorem refl (t : SlaTimer) : SameTarget t t := ⟨rfl, rfl, rfl, rfl, rfl, rfl⟩

theorem symm {t : SlaTimer} (h : SameTarget t t') : SameTarget t' t :=
  ⟨h.id.symm, h.tenantId.symm, h.ticketId.symm, h.policyId.symm, h.kind.symm, h.startedAt.symm⟩

theorem trans (h : SameTarget t₁ t₂) (h' : SameTarget t₂ t₃) : SameTarget t₁ t₃ where
  id := h'.id.trans h.id
  tenantId := h'.tenantId.trans h.tenantId
  ticketId := h'.ticketId.trans h.ticketId
  policyId := h'.policyId.trans h.policyId
  kind := h'.kind.trans h.kind
  startedAt := h'.startedAt.trans h.startedAt

end SameTarget

namespace TimerMove

variable {now : Millis} {t : SlaTimer}

theorem sameTarget (h : TimerMove now t t') : SameTarget t t' := by
  cases h <;> exact ⟨rfl, rfl, rfl, rfl, rfl, rfl⟩

theorem isMutable (h : TimerMove now t t') : t.state.isMutable = true := by
  cases h with
  | pause hrunning | breach hrunning => simp [hrunning, SlaTimerState.isMutable]
  | resume pausedAt hpaused => simp [hpaused, SlaTimerState.isMutable]
  | stop _ hmutable => exact hmutable

theorem pausedAt_iff (h : TimerMove now t t') (ht : t.pausedAt ≠ none ↔ t.state = .paused) :
    t'.pausedAt ≠ none ↔ t'.state = .paused := by
  cases h with
  | pause | resume => simp
  | stop _ _ hstate => rcases hstate with rfl | rfl <;> simp
  | breach hrunning => simpa [hrunning] using ht

end TimerMove

inductive Written : SlaWrite → List SlaRow → SlaDb → SlaDb → Prop where
  | nothing (w : SlaWrite) (db : SlaDb) : Written w [] db db
  | stamped (tenantId ticketId : Uuid) (respondedAt : Millis) (userId : Option Uuid) (db : SlaDb) (t : Ticket)
      (ht : t ∈ db.base.tickets) (hunanswered : SlaDb.unanswered tenantId ticketId t = true) :
      Written (.stampFirstResponse tenantId ticketId respondedAt userId) [.ticket ticketId] db
        { db with
          base := ({ db.base with
            tickets := updateWhere (SlaDb.unanswered tenantId ticketId)
              (fun t => { t with firstRespondedAt := some respondedAt, firstResponseUserId := userId })
              db.base.tickets } : TicketDb).appendEvents
            [{ tenantId, ticketId, data := .firstResponse respondedAt }] }
  | defaulted (policy : SlaPolicy) (db : SlaDb) (hfree : db.policyTaken policy = false) :
      Written (.createDefault policy) [.policy policy.id] db
        { db with slaPolicies := db.slaPolicies ++ [policy] }
  | created (rows : List SlaTimerCreate) (db : SlaDb) :
      Written (.createTimers rows) ((newTimers db.slaTimers rows).map .created) db
        { db with slaTimers := db.slaTimers ++ (newTimers db.slaTimers rows).map (·.row) }
  | moved (tenantId timerId : Uuid) (target : SlaTimerTarget) (now : Millis) (db : SlaDb) (t t' : SlaTimer)
      (hfind : db.findTimer tenantId timerId = some t) (hmove : TimerMove now t t')
      (hstate : t'.state = target.state) :
      Written (.applyTransition tenantId timerId target now) [.timer timerId] db (db.putTimer t')
  | breached (tenantId timerId : Uuid) (now : Millis) (recipientUserIds : List Uuid) (db : SlaDb)
      (t : SlaTimer) (hfind : db.findTimer tenantId timerId = some t) (hdue : t.isDue now = true) :
      Written (.breach tenantId timerId now recipientUserIds) [.timer timerId] db
        { db.putTimer { t with state := .breached, breachedAt := some now } with
          base := db.base.appendEvents [{ tenantId, ticketId := t.ticketId, data := .slaBreached t.kind t.dueAt }]
          slaAlerts := db.slaAlerts ++ newAlerts db.slaAlerts (alertsFor t recipientUserIds) }

theorem SlaWrite.written {w : SlaWrite} {db db' : SlaDb}
    (h : w.apply db = .ok (rows, db')) : Written w rows db db' := by
  cases w with
  | stampFirstResponse tenantId ticketId respondedAt userId =>
    simp only [SlaWrite.apply, SlaDb.stampFirstResponse] at h
    split at h
    · rename_i hany
      obtain ⟨t, ht, hunanswered⟩ := List.any_eq_true.mp hany
      cases h
      exact .stamped tenantId ticketId respondedAt userId db t ht hunanswered
    · cases h
      exact .nothing _ db
  | createDefault policy =>
    obtain ⟨hfree, h⟩ := ok_of_ite h
    cases h
    exact .defaulted policy db (by simpa using hfree)
  | createTimers data =>
    cases h
    exact .created data db
  | applyTransition tenantId timerId target now =>
    simp only [SlaWrite.apply, SlaDb.applyTransition] at h
    split at h
    · cases h
      exact .nothing _ db
    · rename_i t hfind
      split at h
      · rename_i hadmits
        simp only [bind, Except.bind] at h
        split at h
        · cases h
        · rename_i t' ht'
          cases h
          obtain ⟨hmove, hstate⟩ := transitioned_move hadmits ht'
          exact .moved tenantId timerId target now db t t' hfind hmove hstate
      · cases h
        exact .nothing _ db
  | breach tenantId timerId now recipientUserIds =>
    simp only [SlaWrite.apply, SlaDb.breach] at h
    split at h
    · cases h
      exact .nothing _ db
    · rename_i t hfind
      split at h
      · rename_i hdue
        cases h
        exact .breached tenantId timerId now recipientUserIds db t hfind hdue
      · cases h
        exact .nothing _ db

end WhatsappCrm
