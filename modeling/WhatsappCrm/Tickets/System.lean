/-
Purpose: Every operation that writes a ticket, running interleaved.
-/
import WhatsappCrm.Tickets.Linker
import WhatsappCrm.Tickets.Command

namespace WhatsappCrm

open Interleaving Table

/-- A call of one of the operations. The linker's `ids` are the uuids its create path would use; `tick` lets the
    clock advance. -/
inductive TicketCall where
  | ensureTicketForMessage (trigger : InboundMessageTicketTrigger) (ids : Nat → Uuid)
  | update (tenantId : Uuid) (principal : SessionPrincipal) (ticketId : Uuid) (input : TicketUpdateInput)
  | assign (tenantId : Uuid) (principal : SessionPrincipal) (ticketId : Uuid) (input : TicketAssignInput)
  | applyAutomation (tenantId ticketId : Uuid) (change : TicketAutomationChange) (context : TicketAutomationContext)
  | pauseSla (tenantId ticketId : Uuid)
  | routeTicket (trigger : TicketRoutingTrigger) (decision : RoutingDecision)
  | tick (elapsed : Nat)

inductive TicketReply where
  | linked (result : Except ApiError TicketLinkResult)
  | ticket (result : Except ApiError Ticket)
  | automated (result : Except ApiError TicketAutomationOutcome)
  | paused (result : Except ApiError Bool)
  | routed (result : Except ApiError TicketRoutingOutcome)
  | ticked

def TicketReply.raised : TicketReply → Option ApiError
  | .linked (.error e) => some e
  | .ticket (.error e) => some e
  | .automated (.error e) => some e
  | .paused (.error e) => some e
  | .routed (.error e) => some e
  | _ => none

def tick (elapsed : Nat) : TicketProg Unit :=
  .stmt .tick fun db => ((), { db with now := db.now + elapsed })

def program : TicketCall → TicketProg TicketReply
  | .ensureTicketForMessage trigger ids => (ensureTicketForMessage trigger ids).bind (.pure ∘ .linked)
  | .update tenantId principal ticketId input =>
    (update tenantId principal ticketId input).bind (.pure ∘ .ticket)
  | .assign tenantId principal ticketId input =>
    (assign tenantId principal ticketId input).bind (.pure ∘ .ticket)
  | .applyAutomation tenantId ticketId change context =>
    (applyAutomation tenantId ticketId change context).bind (.pure ∘ .automated)
  | .pauseSla tenantId ticketId => (pauseSla tenantId ticketId).bind (.pure ∘ .paused)
  | .routeTicket trigger decision => (routeTicket trigger decision).bind (.pure ∘ .routed)
  | .tick elapsed => (tick elapsed).bind fun _ => .pure .ticked

abbrev TicketSys := Sys Stmt TicketDb TicketCall TicketReply

abbrev TicketRun (db : TicketDb) (s : TicketSys) : Prop := Reachable program anyStep (.idle db) s

/-- What an update can do to a row it selects, at a given instant. -/
inductive RowMove (now : Millis) : Stmt → Ticket → Ticket → Prop where
  | reopen (t : Ticket) (hpending : t.status = .pending) : RowMove now (.reopen t.id) t { t with status := .open }
  | pause (t : Ticket) (hopen : t.status = .open) :
      RowMove now (.botPause t.tenantId t.id) t { t with status := .pending }
  | agent (t : Ticket) (change : TicketChange) (actorUserId : Option Uuid)
      (hallowed : ∀ status ∈ change.status, canAgentTransition t.status status = true) :
      RowMove now (.agentWrite t.id) t (toUpdateData change actorUserId now t)
  | automation (t : Ticket) (change : TicketChange)
      (hallowed : ∀ status ∈ change.status, canAgentTransition t.status status = true) :
      RowMove now (.automationWrite t.id) t (toUpdateData change none now t)
  | assign (t : Ticket) (assignment : TicketAssignment) : RowMove now (.agentAssign t.id) t (setAssignment assignment t)
  | automationAssign (t : Ticket) (assignment : TicketAssignment) :
      RowMove now (.automationAssign t.id) t (setAssignment assignment t)
  | route (t : Ticket) (assignment : TicketAssignment) (hsome : hasAssignee assignment = true)
      (huser : t.assignedUserId = none) (hteam : t.assignedTeamId = none) :
      RowMove now (.routerAssign t.tenantId t.id) t (routeTo assignment t)
  | defer (t : Ticket) (reason : FallbackAssignmentReason) (hstate : t.routing.state ≠ .deferred) :
      RowMove now (.routerDefer t.tenantId t.id) t (deferTo reason now t)

def statusChanges (ticketId : Uuid) (events : List TicketEvent) : List (TicketStatus × TicketStatus) :=
  events.filterMap fun e => if e.ticketId = ticketId then e.data.statusChange else none

/-- The entry a log of every status change has for a row that had one status and has another. -/
def statusMove (source target : TicketStatus) : List (TicketStatus × TicketStatus) :=
  if source = target then [] else [(source, target)]

/-- Every statement that moves a status writes it down, but the bot's. -/
def Stmt.logsStatus : Stmt → Bool
  | .botPause _ _ => false
  | _ => true

structure Recorded (tag : Stmt) (tickets : List Ticket) (p : Ticket → Bool) (f : Ticket → Ticket)
    (events : List TicketEvent) : Prop where
  row : ∀ t ∈ tickets, statusChanges t.id events =
    if tag.logsStatus then statusMove t.status (if p t then f t else t).status else []
  known : ∀ ticketId, (∀ t ∈ tickets, t.id ≠ ticketId) → statusChanges ticketId events = []

inductive Effect : Stmt → TicketDb → TicketDb → Prop where
  | same (tag : Stmt) (db : TicketDb) : Effect tag db db
  | counted (tenantId contactId : Uuid) (db : TicketDb)
      (hactive : (db.findActiveTicket tenantId contactId).isSome = true) :
      Effect (.createTicket tenantId contactId) db
        { db with ticketCounters := db.bumpCounter tenantId }
  | inserted (tenantId : Uuid) (target : InboundTarget) (ticketId : Uuid) (db : TicketDb)
      (hindexed : Indexed (db.tickets ++ [newTicket db tenantId target ticketId])) :
      Effect (.createTicket tenantId target.contactId) db
        { db with
          ticketCounters := db.bumpCounter tenantId
          tickets := db.tickets ++ [newTicket db tenantId target ticketId]
          ticketEvents := db.ticketEvents ++ [createdEvent tenantId target ticketId] }
  | updated (tag : Stmt) (db : TicketDb) (p : Ticket → Bool) (f : Ticket → Ticket)
      (events : List TicketEvent) (hmove : ∀ t, p t = true → RowMove db.now tag t (f t))
      (hevents : ∀ e ∈ events, e.data.isSla = false)
      (hrecorded : Recorded tag db.tickets p f events) :
      Effect tag db
        { db with tickets := updateWhere p f db.tickets, ticketEvents := db.ticketEvents ++ events }
  | appended (tag : Stmt) (db : TicketDb) (events : List TicketEvent)
      (hevents : ∀ e ∈ events, e.data.isSla = false)
      (hsilent : ∀ e ∈ events, e.data.statusChange = none) : Effect tag db (db.appendEvents events)
  | ticked (elapsed : Nat) (db : TicketDb) : Effect .tick db { db with now := db.now + elapsed }

namespace Effect

variable {tag : Stmt} {db : TicketDb}

theorem row_after (h : Effect tag db db') {t : Ticket} (ht : t ∈ db.tickets) :
    ∃ t' ∈ db'.tickets, t' = t ∨ RowMove db.now tag t t' := by
  cases h with
  | same | counted | appended | ticked => exact ⟨t, ht, .inl rfl⟩
  | inserted => exact ⟨t, List.mem_append_left _ ht, .inl rfl⟩
  | updated _ _ p f events hmove =>
    refine ⟨_, mem_updateWhere_of_mem (p := p) (f := f) ht, ?_⟩
    cases hp : p t with
    | false => exact .inl (by simp)
    | true => exact .inr (by simpa using hmove t hp)

theorem row_before (h : Effect tag db db') (ht' : t' ∈ db'.tickets) :
    (∃ t ∈ db.tickets, t' = t ∨ RowMove db.now tag t t') ∨
      ∃ tenantId target ticketId, tag = .createTicket tenantId target.contactId ∧
        t' = newTicket db tenantId target ticketId := by
  cases h with
  | same | counted | appended | ticked => exact .inl ⟨t', ht', .inl rfl⟩
  | inserted tenantId target ticketId =>
    rcases mem_snoc.mp ht' with ht' | ht'
    · exact .inl ⟨t', ht', .inl rfl⟩
    · exact .inr ⟨tenantId, target, ticketId, rfl, ht'⟩
  | updated _ _ p f events hmove =>
    left
    obtain ⟨t, ht, hcase⟩ := mem_updateWhere ht'
    rcases hcase with ⟨hp, rfl⟩ | ⟨_, rfl⟩
    · exact ⟨t, ht, .inr (hmove t hp)⟩
    · exact ⟨_, ht, .inl rfl⟩

theorem findInbound_eq (h : Effect tag db db') (trigger : InboundMessageTicketTrigger) :
    db'.findInbound trigger = db.findInbound trigger := by
  cases h <;> rfl

end Effect

variable {change : TicketChange} {before : Ticket} {assignment : TicketAssignment}

namespace RowMove

variable {now : Millis} {tag : Stmt} {t : Ticket}

theorem id_eq (h : RowMove now tag t t') : t'.id = t.id := by
  cases h <;> rfl

theorem tenantId_eq (h : RowMove now tag t t') : t'.tenantId = t.tenantId := by
  cases h <;> rfl

theorem number_eq (h : RowMove now tag t t') : t'.number = t.number := by
  cases h <;> rfl

theorem contactId_eq (h : RowMove now tag t t') : t'.contactId = t.contactId := by
  cases h <;> rfl

theorem toUpdateData_status (actorUserId : Option Uuid) (now : Millis)
    (hallowed : ∀ status ∈ change.status, canAgentTransition t.status status = true) :
    (toUpdateData change actorUserId now t).status = t.status ∨
      canAgentTransition t.status (toUpdateData change actorUserId now t).status = true := by
  cases hstatus : change.status with
  | none =>
    left
    simp [toUpdateData, hstatus]
  | some status =>
    right
    simpa [toUpdateData, hstatus] using hallowed status hstatus

theorem inactive (h : RowMove now tag t t') (ht : t.status.isActive = false) : t'.status.isActive = false := by
  cases h with
  | reopen _ hpending => simp [hpending, TicketStatus.isActive] at ht
  | pause _ hopen => simp [hopen, TicketStatus.isActive] at ht
  | agent _ change actorUserId hallowed =>
    rcases toUpdateData_status actorUserId now hallowed with heq | hmove
    · rw [heq]
      exact ht
    · exact canAgentTransition_inactive hmove ht
  | automation _ change hallowed =>
    rcases toUpdateData_status none now hallowed with heq | hmove
    · rw [heq]
      exact ht
    · exact canAgentTransition_inactive hmove ht
  | assign | automationAssign | route | defer => exact ht

theorem activeEntry (h : RowMove now tag t t') : t'.activeEntry = none ∨ t'.activeEntry = t.activeEntry := by
  cases hactive : t'.status.isActive with
  | false =>
    left
    simp [Ticket.activeEntry, hactive]
  | true =>
    right
    have hbefore : t.status.isActive = true := by
      cases ht : t.status.isActive with
      | true => rfl
      | false => simp [h.inactive ht] at hactive
    simp [Ticket.activeEntry, hactive, hbefore, h.contactId_eq, h.tenantId_eq]

end RowMove

theorem Indexed.updateWhere {tickets : List Ticket} (h : Indexed tickets) {now : Millis} {tag : Stmt}
    {p : Ticket → Bool} {f : Ticket → Ticket}
    (hmove : ∀ t, p t = true → RowMove now tag t (f t)) : Indexed (updateWhere p f tickets) where
  id := h.id.updateWhere fun t _ ht => .inr (by simp [Ticket.idEntry, (hmove t ht).id_eq])
  number := h.number.updateWhere fun t _ ht =>
    .inr (by simp [Ticket.numberEntry, (hmove t ht).tenantId_eq, (hmove t ht).number_eq])
  active := h.active.updateWhere fun t _ ht => (hmove t ht).activeEntry

theorem Indexed.eq_updated {tickets : List Ticket} (h : Indexed tickets) {p : Ticket → Bool}
    {f : Ticket → Ticket} (hid : ∀ t, (f t).id = t.id) {t : Ticket} (ht : t ∈ tickets)
    (ht' : t' ∈ Table.updateWhere p f tickets) (heq : t'.id = t.id) : t' = if p t then f t else t := by
  obtain ⟨t₀, ht₀, hcase⟩ := mem_updateWhere ht'
  have hsame : t₀ = t := by
    apply h.eq_of_id ht₀ ht
    rcases hcase with ⟨_, rfl⟩ | ⟨_, rfl⟩
    · rw [← heq, hid]
    · exact heq
  subst hsame
  rcases hcase with ⟨hp, rfl⟩ | ⟨hp, rfl⟩
  · simp [hp]
  · simp [hp]

theorem Effect.indexed {tag : Stmt} {db : TicketDb} (h : Effect tag db db')
    (hdb : Indexed db.tickets) : Indexed db'.tickets := by
  cases h with
  | same | counted | appended | ticked => exact hdb
  | inserted _ _ _ _ hindexed => exact hindexed
  | updated _ _ p f events hmove => exact hdb.updateWhere hmove

theorem updateTickets_eq {db : TicketDb} (h : Indexed db.tickets) {tag : Stmt} {p : Ticket → Bool}
    {f : Ticket → Ticket} (hmove : ∀ t, p t = true → RowMove db.now tag t (f t)) : db.updateTickets p f =
      (.ok (db.tickets.countP p), { db with tickets := Table.updateWhere p f db.tickets }) := by
  simp only [TicketDb.updateTickets, h.updateWhere hmove, if_true]

theorem updateTickets_cases {db : TicketDb} (h : Indexed db.tickets) {tag : Stmt}
    {p : Ticket → Bool} {f : Ticket → Ticket} (hmove : ∀ t, p t = true → RowMove db.now tag t (f t)) :
    (db.updateTickets p f = (.ok 0, db) ∧ Table.updateWhere p f db.tickets = db.tickets) ∨
      (∃ t ∈ db.tickets, p t = true) ∧ ∃ n, db.updateTickets p f =
        (.ok (n + 1), { db with tickets := Table.updateWhere p f db.tickets }) := by
  have heq := updateTickets_eq h hmove
  cases hcount : db.tickets.countP p with
  | zero =>
    left
    have hsame := updateWhere_of_countP_eq_zero (f := f) hcount
    exact ⟨by rw [heq, hcount, hsame], hsame⟩
  | succ n =>
    right
    have hmatched : ∃ t ∈ db.tickets, p t = true := List.countP_pos_iff.mp (by omega)
    exact ⟨hmatched, n, by rw [heq, hcount]⟩

theorem conversationLinkedEvents_isSla (tenantId : Uuid) (active : Ticket) (target : InboundTarget) :
    ∀ e ∈ conversationLinkedEvents tenantId active target, e.data.isSla = false := by
  intro e he
  simp only [conversationLinkedEvents] at he
  split at he
  · cases he
  · rw [List.mem_singleton.mp he]
    rfl

theorem changeEvents_isSla (before : Ticket) (change : TicketChange) (actorUserId : Option Uuid)
    (cause : EventCause) : ∀ e ∈ changeEvents before change actorUserId cause, e.data.isSla = false := by
  intro e he
  simp only [changeEvents, List.mem_append, Option.mem_toList, Option.map_eq_some_iff] at he
  rcases he with ⟨status, _, rfl⟩ | ⟨priority, _, rfl⟩ <;> rfl

theorem assignmentEvent_isSla (before : Ticket) (assignment : TicketAssignment)
    (actorUserId : Option Uuid) (cause : EventCause) (reason : Option String) :
    (assignmentEvent before assignment actorUserId cause reason).data.isSla = false := by
  simp only [assignmentEvent]
  split <;> rfl

theorem assignmentEvent_statusChange (before : Ticket) (assignment : TicketAssignment)
    (actorUserId : Option Uuid) (cause : EventCause) (reason : Option String) :
    (assignmentEvent before assignment actorUserId cause reason).data.statusChange = none := by
  simp only [assignmentEvent]
  split <;> rfl

theorem conversationLinkedEvents_statusChange (tenantId : Uuid) (active : Ticket) (target : InboundTarget) :
    ∀ e ∈ conversationLinkedEvents tenantId active target, e.data.statusChange = none := by
  intro e he
  simp only [conversationLinkedEvents] at he
  split at he
  · cases he
  · rw [List.mem_singleton.mp he]
    rfl

theorem statusChanges_append (ticketId : Uuid) (log events : List TicketEvent) :
    statusChanges ticketId (log ++ events) = statusChanges ticketId log ++ statusChanges ticketId events := by
  simp [statusChanges]

theorem statusChanges_of_silent {events : List TicketEvent}
    (h : ∀ e ∈ events, e.data.statusChange = none) (ticketId : Uuid) : statusChanges ticketId events = [] := by
  simp only [statusChanges, List.filterMap_eq_nil_iff]
  intro e he
  simp [h e he]

theorem statusChanges_changeEvents (before : Ticket) (change : TicketChange) (actorUserId : Option Uuid)
    (cause : EventCause) (ticketId : Uuid) : statusChanges ticketId (changeEvents before change actorUserId cause) =
      if before.id = ticketId then change.status.toList.map fun status => (before.status, status) else [] := by
  by_cases hid : before.id = ticketId
  · cases hstatus : change.status <;> cases hpriority : change.priority <;>
      simp [statusChanges, changeEvents, hstatus, hpriority, hid, TicketEventData.statusChange]
  · cases hstatus : change.status <;> cases hpriority : change.priority <;>
      simp [statusChanges, changeEvents, hstatus, hpriority, hid]

@[simp] theorem statusMove_self (status : TicketStatus) : statusMove status status = [] := by
  simp [statusMove]

namespace Recorded

variable {tag : Stmt} {tickets : List Ticket} {p : Ticket → Bool} {f : Ticket → Ticket} {events : List TicketEvent}

theorem silent (hsilent : ∀ e ∈ events, e.data.statusChange = none)
    (hkeep : tag.logsStatus = true → ∀ t, (f t).status = t.status) : Recorded tag tickets p f events where
  row t _ := by
    rw [statusChanges_of_silent hsilent]
    cases htag : tag.logsStatus with
    | false => simp
    | true => cases p t <;> simp [hkeep htag]
  known ticketId _ := statusChanges_of_silent hsilent ticketId

theorem compareAndSet (hindexed : Indexed tickets) (htag : tag.logsStatus = true)
    {target : Option TicketStatus} (hmoved : ∀ status ∈ target, source ≠ status)
    (hlog : ∀ id, statusChanges id events =
      if ticketId = id then target.toList.map fun status => (source, status) else [])
    (hguard : ∀ t, p t = true → t.id = ticketId ∧ t.status = source)
    (hwrite : ∀ t, p t = true → (f t).status = target.getD t.status)
    (hmatched : ∃ t ∈ tickets, p t = true) : Recorded tag tickets p f events := by
  obtain ⟨matched, hmem, hp⟩ := hmatched
  obtain ⟨hid, hstatus⟩ := hguard matched hp
  constructor
  · intro t ht
    rw [hlog, if_pos htag]
    by_cases hsame : ticketId = t.id
    · obtain rfl : t = matched := hindexed.eq_of_id ht hmem (by rw [hid, hsame])
      rw [if_pos hsame, if_pos hp, hwrite t hp, hstatus]
      cases target with
      | none => simp
      | some status => simp [statusMove, hmoved status rfl]
    · have hnot : p t = false := by
        by_contra hne
        exact hsame (hguard t (by simpa using hne)).1.symm
      simp [hsame, hnot]
  · intro id hunknown
    have hne : ticketId ≠ id := fun h => hunknown matched hmem (by rw [hid, h])
    rw [hlog, if_neg hne]

end Recorded

/-- The call has finished by throwing what Postgres raised for a broken index. -/
def Rejected (q : TicketProg TicketReply) : Prop :=
  ∃ reply, q = .pure reply ∧ reply.raised = some (.database .uniqueViolation)

@[simp] theorem rejected_pure (reply : TicketReply) :
    Rejected (.pure reply) ↔ reply.raised = some (.database .uniqueViolation) := by
  constructor
  · intro h
    obtain ⟨_, heq, hraised⟩ := h
    cases heq
    exact hraised
  · intro h
    exact ⟨reply, rfl, h⟩

@[simp] theorem not_rejected_atomic {β : Type} (tag : Stmt) (act : TicketDb → β × TicketDb)
    (next : β → TicketProg TicketReply) : ¬ Rejected (.atomic tag act next) := by
  intro h
  obtain ⟨_, heq, _⟩ := h
  cases heq

structure Statement (tag : Stmt) (db : TicketDb) (rest : TicketProg TicketReply) (db' : TicketDb) : Prop where
  effect : Effect tag db db'
  rejected : Rejected rest → ∃ tenantId contactId, tag = .createTicket tenantId contactId

def TicketDb.Indexed (db : TicketDb) : Prop := WhatsappCrm.Indexed db.tickets

section Statements

variable {db : TicketDb} (hdb : db.Indexed)

theorem allocateTicket_effect (tenantId : Uuid) (target : InboundTarget) (ticketId : Uuid) :
    Effect (.createTicket tenantId target.contactId) db (allocateTicket tenantId target ticketId db).2 := by
  simp only [allocateTicket]
  split
  · exact .same _ db
  · split
    · rename_i hactive
      exact .counted tenantId target.contactId db hactive
    · split
      · rename_i hindexed
        exact .inserted tenantId target ticketId db hindexed
      · exact .same _ db

theorem reopenWhere_move (now : Millis) (tenantId : Uuid) (active t : Ticket)
    (ht : reopenWhere tenantId active t = true) : RowMove now (.reopen active.id) t { t with status := .open } := by
  simp only [reopenWhere, decide_eq_true_eq] at ht
  rw [← ht.2.1]
  exact .reopen t ht.2.2

include hdb in
theorem reopenAndLink_spec (tenantId : Uuid) (active : Ticket) (target : InboundTarget) :
    Effect (.reopen active.id) db (reopenAndLink tenantId active target db).2 ∧
      ∀ e, (reopenAndLink tenantId active target db).1 ≠ .failed e := by
  have hmove := reopenWhere_move db.now tenantId active
  rcases updateTickets_cases hdb hmove with ⟨hnone, _⟩ | ⟨hmatched, n, hsome⟩
  · simp only [reopenAndLink, hnone]
    exact ⟨.same _ db, by simp⟩
  · simp only [reopenAndLink, hsome]
    have hlog : ∀ id, statusChanges id
        (reopenedEvent tenantId active.id :: conversationLinkedEvents tenantId active target) =
          if active.id = id then (some TicketStatus.open).toList.map fun status => (.pending, status) else [] := by
      intro id
      have hlinked := statusChanges_of_silent (conversationLinkedEvents_statusChange tenantId active target) id
      rw [← List.singleton_append, statusChanges_append, hlinked]
      by_cases hid : active.id = id <;> simp [statusChanges, reopenedEvent, hid, TicketEventData.statusChange]
    have hguard : ∀ t, reopenWhere tenantId active t = true → t.id = active.id ∧ t.status = .pending := by
      intro t ht
      simp only [reopenWhere, decide_eq_true_eq] at ht
      exact ht.2
    have hrecorded : Recorded (.reopen active.id) db.tickets (reopenWhere tenantId active)
        (fun t => { t with status := .open })
        (reopenedEvent tenantId active.id :: conversationLinkedEvents tenantId active target) :=
      .compareAndSet hdb rfl (by simp) hlog hguard (fun _ _ => rfl) hmatched
    have hevents : ∀ e ∈ reopenedEvent tenantId active.id :: conversationLinkedEvents tenantId active target,
        e.data.isSla = false := by
      intro e he
      rcases List.mem_cons.mp he with rfl | he
      · rfl
      · exact conversationLinkedEvents_isSla tenantId active target e he
    exact ⟨.updated _ db _ _ _ hmove hevents hrecorded, by simp⟩

include hdb in
theorem writeTicket_spec {tag : Stmt} (cause : EventCause) (htag : tag.logsStatus = true)
    (hallowed : ∀ status ∈ change.status, canAgentTransition before.status status = true)
    (hmove : ∀ t, unchangedStatus before t = true →
      RowMove db.now tag t (toUpdateData change actorUserId db.now t)) :
    Effect tag db (writeTicket before change actorUserId cause db).2 ∧
      ∀ e, (writeTicket before change actorUserId cause db).1 ≠ .error e := by
  rcases updateTickets_cases hdb hmove with ⟨hnone, _⟩ | ⟨hmatched, n, hsome⟩
  · simp only [writeTicket, hnone]
    exact ⟨.same _ db, by simp⟩
  · simp only [writeTicket, hsome]
    have hguard : ∀ t, unchangedStatus before t = true → t.id = before.id ∧ t.status = before.status := by
      intro t ht
      simp only [unchangedStatus, decide_eq_true_eq] at ht
      exact ht.2
    have hrecorded : Recorded tag db.tickets (unchangedStatus before)
        (toUpdateData change actorUserId db.now) (changeEvents before change actorUserId cause) :=
      .compareAndSet hdb htag (fun status hstatus => canAgentTransition_ne (hallowed status hstatus))
        (statusChanges_changeEvents before change actorUserId cause) hguard (fun _ _ => rfl) hmatched
    exact ⟨.updated _ db _ _ _ hmove (changeEvents_isSla _ _ _ _) hrecorded, by simp⟩

include hdb in
theorem writeAssignmentRow_spec {tag : Stmt} (actorUserId : Option Uuid) (cause : EventCause) (reason : Option String)
    (hmove : ∀ t, sameTicket before t = true → RowMove db.now tag t (setAssignment assignment t)) :
    Effect tag db (writeAssignmentRow before assignment actorUserId cause reason db).2 ∧
      ∀ e, (writeAssignmentRow before assignment actorUserId cause reason db).1 ≠ .error e := by
  rcases updateTickets_cases hdb hmove with ⟨hnone, _⟩ | ⟨_, n, hsome⟩
  · simp only [writeAssignmentRow, hnone]
    exact ⟨.same _ db, by simp⟩
  · simp only [writeAssignmentRow, hsome]
    have hrecorded : Recorded tag db.tickets (sameTicket before) (setAssignment assignment)
        [assignmentEvent before assignment actorUserId cause reason] :=
      .silent (by simp [assignmentEvent_statusChange]) fun _ _ => rfl
    exact ⟨.updated _ db _ _ _ hmove (by simp [assignmentEvent_isSla]) hrecorded, by simp⟩

include hdb in
theorem pauseSla_spec (tenantId ticketId : Uuid) :
    Effect (.botPause tenantId ticketId) db (pauseOpen tenantId ticketId db).2 ∧
      ∀ e, (pauseOpen tenantId ticketId db).1 ≠ .error e := by
  have hmove : ∀ t, pauseWhere tenantId ticketId t = true →
      RowMove db.now (.botPause tenantId ticketId) t { t with status := .pending } := by
    intro t ht
    simp only [pauseWhere, decide_eq_true_eq] at ht
    rw [← ht.1, ← ht.2.1]
    exact .pause t ht.2.2
  rcases updateTickets_cases hdb hmove with ⟨hnone, _⟩ | ⟨_, n, hsome⟩
  · simp only [pauseOpen, hnone]
    exact ⟨.same _ db, by simp⟩
  · simp only [pauseOpen, hsome]
    have hrecorded : Recorded (.botPause tenantId ticketId) db.tickets (pauseWhere tenantId ticketId)
        (fun t => { t with status := .pending }) [] :=
      .silent (by simp) (by simp [Stmt.logsStatus])
    exact ⟨by simpa using Effect.updated _ db _ _ [] hmove (by simp) hrecorded, by simp⟩

theorem assignWhere_move (now : Millis) (tenantId ticketId : Uuid) (hsome : hasAssignee assignment = true) (t : Ticket) (ht : assignWhere tenantId ticketId t = true) :
    RowMove now (.routerAssign tenantId ticketId) t (routeTo assignment t) := by
  simp only [assignWhere, decide_eq_true_eq] at ht
  rw [← ht.1, ← ht.2.1]
  exact .route t assignment hsome ht.2.2.1 ht.2.2.2

theorem deferWhere_move (now : Millis) (tenantId ticketId : Uuid) (reason : FallbackAssignmentReason)
    (t : Ticket) (ht : deferWhere tenantId ticketId t = true) :
    RowMove now (.routerDefer tenantId ticketId) t (deferTo reason now t) := by
  simp only [deferWhere, decide_eq_true_eq] at ht
  rw [← ht.1, ← ht.2.1]
  exact .defer t reason ht.2.2

include hdb in
theorem assignUnheld_spec (tenantId : Uuid) (ticket : Ticket) (hsome : hasAssignee assignment = true) (reason : String) (ruleId : Option Uuid) :
    Effect (.routerAssign tenantId ticket.id) db (assignUnheld tenantId ticket assignment reason ruleId db).2 ∧
      ∀ e, (assignUnheld tenantId ticket assignment reason ruleId db).1 ≠ .error e := by
  have hmove := assignWhere_move db.now tenantId ticket.id hsome
  rcases updateTickets_cases hdb hmove with ⟨hnone, _⟩ | ⟨_, n, hsome⟩
  · simp only [assignUnheld, hnone]
    exact ⟨.same _ db, by simp⟩
  · simp only [assignUnheld, hsome]
    have hrecorded : Recorded (.routerAssign tenantId ticket.id) db.tickets (assignWhere tenantId ticket.id)
        (routeTo assignment) [routedEvent tenantId ticket assignment reason ruleId] :=
      .silent (by simp [routedEvent, TicketEventData.statusChange]) fun _ _ => rfl
    exact ⟨.updated _ db _ _ _ hmove (by simp [routedEvent, TicketEventData.isSla]) hrecorded, by simp⟩

include hdb in
theorem deferUnplaced_spec (tenantId : Uuid) (ticket : Ticket) (reason : FallbackAssignmentReason) :
    Effect (.routerDefer tenantId ticket.id) db (deferUnplaced tenantId ticket reason db).2 ∧
      ∀ e, (deferUnplaced tenantId ticket reason db).1 ≠ .error e := by
  have hmove := deferWhere_move db.now tenantId ticket.id reason
  rcases updateTickets_cases hdb hmove with ⟨hnone, _⟩ | ⟨_, n, hsome⟩
  · simp only [deferUnplaced, hnone]
    exact ⟨.appended _ db _ (by simp [TicketEventData.isSla]) (by simp [TicketEventData.statusChange]), by simp⟩
  · simp only [deferUnplaced, hsome]
    have hrecorded : Recorded (.routerDefer tenantId ticket.id) db.tickets (deferWhere tenantId ticket.id)
        (deferTo reason db.now) [{ tenantId, ticketId := ticket.id, data := .assignmentDeferred reason }] :=
      .silent (by simp [TicketEventData.statusChange]) fun _ _ => rfl
    exact ⟨.updated _ db _ _ _ hmove (by simp [TicketEventData.isSla]) hrecorded, by simp⟩

end Statements

structure Sound (p : TicketProg TicketReply) : Prop where
  accepted : ¬ Rejected p
  follows : p.Follows TicketDb.Indexed Statement

attribute [simp] TicketReply.raised

namespace Sound

variable {β : Type} {tag : Stmt}

theorem pure {reply : TicketReply} (h : reply.raised ≠ some (.database .uniqueViolation)) : Sound (.pure reply) :=
  { accepted := by simpa using h, follows := trivial }

theorem write {next : β → TicketProg TicketReply} (heffect : ∀ db, db.Indexed → Effect tag db (act db).2)
    (hnext : ∀ db, db.Indexed → Sound (next (act db).1)) : Sound (.atomic tag act next) where
  accepted := not_rejected_atomic tag act next
  follows db hdb :=
    ⟨{ effect := heffect db hdb, rejected := fun h => absurd h (hnext db hdb).accepted },
      (hnext db hdb).follows⟩

theorem write_ok {ε ρ : Type} {act : TicketDb → Except ε ρ × TicketDb} {next : Except ε ρ → TicketProg TicketReply}
    (hspec : ∀ db, db.Indexed → Effect tag db (act db).2 ∧ ∀ e, (act db).1 ≠ .error e)
    (hnext : ∀ r, Sound (next (.ok r))) : Sound (.atomic tag act next) := by
  refine write (fun db hdb => (hspec db hdb).1) fun db hdb => ?_
  cases hanswer : (act db).1 with
  | error e => exact absurd hanswer ((hspec db hdb).2 e)
  | ok r => exact hnext r

theorem read {f : TicketDb → β} {next : β → TicketProg TicketReply} (hnext : ∀ b, Sound (next b)) :
    Sound (.atomic tag (fun db => (f db, db)) next) :=
  write (fun db _ => .same tag db) (fun _ _ => hnext _)

theorem create (tenantId : Uuid) (target : InboundTarget) (ticketId : Uuid)
    {next : LinkAttempt → TicketProg TicketReply}
    (hnext : ∀ attempt, (next attempt).Follows TicketDb.Indexed Statement) :
    Sound ((WhatsappCrm.create tenantId target ticketId).bind next) where
  accepted := not_rejected_atomic _ _ _
  follows _ _ :=
    ⟨{ effect := allocateTicket_effect tenantId target ticketId
       rejected := fun _ => ⟨tenantId, target.contactId, rfl⟩ }, hnext _⟩

theorem require (herror : Sound (next (.error (.ticketNotFound ticketId))))
    (hok : ∀ before, Sound (next (.ok before))) :
    Sound ((WhatsappCrm.require tenantId principal ticketId).bind next) := by
  simp only [WhatsappCrm.require, Prog.bind_def, Prog.bind_read, Prog.bind_atomic]
  refine read fun found => ?_
  cases found with
  | none => exact herror
  | some ticket =>
    simp only
    split
    · exact hok ticket
    · exact herror

end Sound

theorem unchangedStatus_move {t : Ticket} (hallowed : ∀ status ∈ change.status, canAgentTransition before.status status = true)
    (ht : unchangedStatus before t = true) :
    t.id = before.id ∧ ∀ status ∈ change.status, canAgentTransition t.status status = true := by
  simp only [unchangedStatus, decide_eq_true_eq] at ht
  exact ⟨ht.2.1, by rw [ht.2.2]; exact hallowed⟩

theorem write_sound (actorUserId : Uuid)
    (hallowed : ∀ status ∈ change.status, canAgentTransition before.status status = true) :
    Sound ((write before change actorUserId).bind (.pure ∘ .ticket)) := by
  have hmove : ∀ now t, unchangedStatus before t = true → RowMove now (.agentWrite before.id) t
      (toUpdateData change (some actorUserId) now t) := by
    intro now t ht
    obtain ⟨hid, hallowed⟩ := unchangedStatus_move hallowed ht
    rw [← hid]
    exact .agent t change _ hallowed
  simp only [write, Prog.bind_def, Prog.bind_stmt, Prog.bind_atomic]
  refine .write_ok (fun db hdb => writeTicket_spec hdb .agent rfl hallowed (hmove db.now)) fun found => ?_
  cases found <;> exact .pure (by simp)

theorem update_sound (tenantId : Uuid) (principal : SessionPrincipal) (ticketId : Uuid) (input : TicketUpdateInput) :
    Sound ((update tenantId principal ticketId input).bind (.pure ∘ .ticket)) := by
  simp only [update, Prog.bind_def, Prog.bind_assoc]
  refine .require (.pure (by simp)) fun before => ?_
  simp only
  split
  · rename_i e hrefused
    refine .pure ?_
    cases hstatus : (changesIn before input).status with
    | none => simp [hstatus] at hrefused
    | some =>
      rw [hstatus] at hrefused
      simpa using assertTransitionAllowed_error hrefused .uniqueViolation
  · rename_i hallowed
    split
    · exact .pure (by simp)
    · refine write_sound principal.userId ?_
      intro status hstatus
      rw [Option.mem_def.mp hstatus] at hallowed
      exact assertTransitionAllowed_ok hallowed

theorem sameTicket_id {t : Ticket} (ht : sameTicket before t = true) : t.id = before.id := by
  simp only [sameTicket, decide_eq_true_eq] at ht
  exact ht.2

theorem writeAssignment_sound (before : Ticket) (assignment : TicketAssignment)
    (reason : Option String) (actorUserId : Uuid) :
    Sound ((writeAssignment before assignment reason actorUserId).bind (.pure ∘ .ticket)) := by
  have hmove : ∀ now t, sameTicket before t = true →
      RowMove now (.agentAssign before.id) t (setAssignment assignment t) := by
    intro now t ht
    rw [← sameTicket_id ht]
    exact .assign t assignment
  simp only [writeAssignment, Prog.bind_def, Prog.bind_stmt, Prog.bind_atomic]
  refine .write_ok (fun db hdb => writeAssignmentRow_spec hdb _ _ _ (hmove db.now)) fun found => ?_
  cases found <;> exact .pure (by simp)

theorem assertHandoffAllowed_sound (hrefused : ∀ refusal, Sound (next (.error (.ticketHandoffNotPermitted refusal))))
    (hok : Sound (next (.ok ()))) :
    Sound ((assertHandoffAllowed tenantId principal before input after).bind next) := by
  have hlast : ∀ teammate : Bool, Sound
      ((if teammate = false then Pure.pure (.error (.ticketHandoffNotPermitted .notATeammate))
        else if hasAssignee after = false then
          Pure.pure (.error (.ticketHandoffNotPermitted .releasing))
        else Pure.pure (.ok ()) : TicketProg (Except ApiError Unit)).bind next) := by
    intro teammate
    split
    · exact hrefused _
    · split
      · exact hrefused _
      · exact hok
  simp only [assertHandoffAllowed]
  split
  · exact hok
  · split
    · exact hrefused _
    · split
      · exact hrefused _
      · cases input.userId.join with
        | none => exact hlast true
        | some =>
          simp only [Option.elim, isTeammate]
          split
          · exact hlast true
          · split
            · exact hlast false
            · exact .read hlast

theorem assertFound_sound {id : Option Uuid}
    (hmissing : ∀ id, Sound (next (.error (.unknownTicketAssignee field id))))
    (hok : Sound (next (.ok ()))) : Sound ((assertFound field there id).bind next) := by
  cases id with
  | none => exact hok
  | some id =>
    refine .read fun found => ?_
    cases found with
    | false => exact hmissing id
    | true => exact hok

theorem assign_sound (tenantId : Uuid) (principal : SessionPrincipal) (ticketId : Uuid) (input : TicketAssignInput) :
    Sound ((assign tenantId principal ticketId input).bind (.pure ∘ .ticket)) := by
  simp only [assign, Prog.bind_def, Prog.bind_assoc]
  refine .require (.pure (by simp)) fun before => ?_
  simp only [Prog.bind_assoc]
  refine assertHandoffAllowed_sound (fun refusal => .pure (by simp)) ?_
  simp only
  split
  · exact .pure (by simp)
  · simp only [assertAssigneesExist, Prog.bind_def, Prog.bind_assoc]
    refine assertFound_sound (fun id => .pure (by simp)) ?_
    refine assertFound_sound (fun id => .pure (by simp)) ?_
    simp only
    split
    · exact .pure (by simp)
    · exact writeAssignment_sound _ _ _ _

theorem applyAutomationField_sound (context : TicketAutomationContext)
    (hallowed : ∀ status ∈ change.status, canAgentTransition before.status status = true) :
    Sound ((applyAutomationField before change context).bind (.pure ∘ .automated)) := by
  have hmove : ∀ now t, unchangedStatus before t = true → RowMove now (.automationWrite before.id) t
      (toUpdateData change none now t) := by
    intro now t ht
    obtain ⟨hid, hallowed⟩ := unchangedStatus_move hallowed ht
    rw [← hid]
    exact .automation t change hallowed
  simp only [applyAutomationField, Prog.bind_def, Prog.bind_stmt, Prog.bind_atomic]
  refine .write_ok (fun db hdb => writeTicket_spec hdb _ rfl hallowed (hmove db.now)) fun found => ?_
  cases found <;> exact .pure (by simp)

theorem applyAutomationAssignment_sound (before : Ticket) (assignment : TicketAssignment)
    (context : TicketAutomationContext) :
    Sound ((applyAutomationAssignment before assignment context).bind (.pure ∘ .automated)) := by
  have hmove : ∀ now t, sameTicket before t = true →
      RowMove now (.automationAssign before.id) t (setAssignment assignment t) := by
    intro now t ht
    rw [← sameTicket_id ht]
    exact .automationAssign t assignment
  simp only [applyAutomationAssignment]
  split
  · exact .pure (by simp)
  · simp only [Prog.bind_def, Prog.bind_stmt, Prog.bind_atomic]
    refine .write_ok (fun db hdb => writeAssignmentRow_spec hdb _ _ _ (hmove db.now)) fun found => ?_
    cases found <;> exact .pure (by simp)

theorem applyAutomation_sound (tenantId ticketId : Uuid) (change : TicketAutomationChange)
    (context : TicketAutomationContext) :
    Sound ((applyAutomation tenantId ticketId change context).bind (.pure ∘ .automated)) := by
  simp only [applyAutomation, Prog.bind_def, Prog.bind_read, Prog.bind_atomic]
  refine .read fun found => ?_
  cases found with
  | none => exact .pure (by simp)
  | some before =>
    cases change with
    | assignment => exact applyAutomationAssignment_sound _ _ _
    | priority =>
      simp only
      split
      · exact .pure (by simp)
      · exact applyAutomationField_sound context (by simp)
    | status status =>
      simp only
      split
      · exact .pure (by simp)
      · split
        · exact .pure (by simp)
        · rename_i hallowed
          exact applyAutomationField_sound context (by simpa using hallowed)

theorem pauseSla_sound (tenantId ticketId : Uuid) : Sound ((pauseSla tenantId ticketId).bind (.pure ∘ .paused)) := by
  simp only [pauseSla, Prog.bind_def, Prog.bind_stmt, Prog.bind_atomic]
  exact .write_ok (fun db hdb => pauseSla_spec hdb tenantId ticketId) fun _ => .pure (by simp)

theorem assignRouted_sound (tenantId : Uuid) (ticket : Ticket) (hsome : hasAssignee assignment = true) (reason : String) (ruleId : Option Uuid) (outcome : TicketRoutingOutcome) :
    Sound ((assignRouted tenantId ticket assignment reason ruleId outcome).bind (.pure ∘ .routed)) := by
  simp only [assignRouted, Prog.bind_def, Prog.bind_stmt, Prog.bind_atomic]
  refine .write_ok (fun db hdb => assignUnheld_spec hdb _ _ hsome _ _) fun found => ?_
  cases found <;> exact .pure (by simp)

theorem defer_sound (tenantId : Uuid) (ticket : Ticket) (decision : FallbackAssignmentDecision) :
    Sound ((defer tenantId ticket decision).bind (.pure ∘ .routed)) := by
  simp only [defer, Prog.bind_def, Prog.bind_stmt, Prog.bind_atomic]
  exact .write_ok (fun db hdb => deferUnplaced_spec hdb _ _ _) fun _ => .pure (by simp)

theorem routeTicket_sound (trigger : TicketRoutingTrigger) (decision : RoutingDecision) :
    Sound ((routeTicket trigger decision).bind (.pure ∘ .routed)) := by
  simp only [routeTicket, Prog.bind_def, Prog.bind_read, Prog.bind_atomic]
  refine .read fun found => ?_
  cases found with
  | none => exact .pure (by simp)
  | some =>
    simp only
    split
    · exact .pure (by simp)
    · split
      · exact .pure (by simp)
      · cases decision with
        | rule ruleId name target =>
          exact assignRouted_sound _ _ (by cases target <;> rfl) _ _ _
        | fallBack =>
          simp only [fallBack]
          split
          · exact assignRouted_sound _ _ rfl _ _ _
          · exact defer_sound _ _ _

theorem linkLoop_sound (tenantId : Uuid) (target : InboundTarget) (ids : Nat → Uuid) (n : Nat) :
    Sound ((linkLoop tenantId target ids n).bind (.pure ∘ .linked)) := by
  induction n with
  | zero => exact .pure (by simp)
  | succ n ih =>
    simp only [linkLoop, linkOnce, Prog.bind_def, Prog.bind_read, Prog.bind_atomic,
      Prog.bind_assoc]
    refine .read fun active => ?_
    cases active with
    | none =>
      refine .create tenantId target (ids n) fun attempt => ?_
      cases attempt with
      | linked | failed => trivial
      | lost => exact ih.follows
    | some active =>
      simp only [attach]
      split
      · refine Sound.write (fun db hdb => (reopenAndLink_spec hdb tenantId active target).1) ?_
        intro db hdb
        have hok := (reopenAndLink_spec hdb tenantId active target).2
        cases hattempt : (reopenAndLink tenantId active target db).1 with
        | linked => exact .pure (by simp)
        | lost => exact ih
        | failed e => exact absurd hattempt (hok e)
      · split
        · exact .pure (by simp)
        · exact Sound.write (fun db _ => .appended _ db _ (conversationLinkedEvents_isSla _ _ _)
            (conversationLinkedEvents_statusChange _ _ _))
            (fun db _ => .pure (by simp))

theorem ensureTicketForMessage_sound (trigger : InboundMessageTicketTrigger) (ids : Nat → Uuid) :
    Sound ((ensureTicketForMessage trigger ids).bind (.pure ∘ .linked)) := by
  simp only [ensureTicketForMessage, readInboundTarget, Prog.bind_def, Prog.bind_read,
    Prog.bind_atomic]
  refine .read fun found => ?_
  cases found with
  | none => exact .pure (by simp)
  | some found =>
    obtain ⟨message, contactId⟩ := found
    simp only
    split
    · exact linkLoop_sound _ _ _ _
    · exact .pure (by simp)

theorem program_sound (call : TicketCall) : Sound (program call) := by
  cases call with
  | ensureTicketForMessage trigger ids => exact ensureTicketForMessage_sound trigger ids
  | update tenantId principal ticketId input => exact update_sound tenantId principal ticketId input
  | assign tenantId principal ticketId input => exact assign_sound tenantId principal ticketId input
  | applyAutomation tenantId ticketId change context =>
    exact applyAutomation_sound tenantId ticketId change context
  | pauseSla tenantId ticketId => exact pauseSla_sound tenantId ticketId
  | routeTicket trigger decision => exact routeTicket_sound trigger decision
  | tick elapsed =>
    exact Sound.write (fun db _ => .ticked elapsed db) (fun _ _ => .pure (by simp))

end WhatsappCrm
