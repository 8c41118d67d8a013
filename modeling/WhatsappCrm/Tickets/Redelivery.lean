/-
Purpose: A link trigger delivered more than once.
-/
import WhatsappCrm.Tickets.Invariants

namespace WhatsappCrm

open Interleaving Table

def delivers (trigger : InboundMessageTicketTrigger) (call : TicketCall) : Prop :=
  ∃ ids, call = .ensureTicketForMessage trigger ids

/-- The ticket a call has returned, or returns with its next statement whatever happens. -/
def linkedTicket : TicketProg TicketReply → Option Uuid
  | .pure (.linked (.ok result)) => result.ticketId
  | .atomic (.linkConversation ticketId) _ _ => some ticketId
  | _ => none

def reopeningTicket : TicketProg TicketReply → Option Uuid
  | .atomic (.reopen ticketId) _ _ => some ticketId
  | _ => none

def createdTicket : TicketProg TicketReply → Bool
  | .pure (.linked (.ok result)) => result.outcome = .created
  | _ => false

/-- The statements in which the linker decides what to do with the message. -/
def decides : Stmt → Bool
  | .findActive _ _ => true
  | .createTicket _ _ => true
  | .reopen _ => true
  | _ => false

def LinkedStayOpen (trigger : InboundMessageTicketTrigger) (s : TicketSys) (call : TicketCall) (tag : Stmt) : Prop :=
  delivers trigger call → decides tag = true → ∀ e ∈ s.calls, delivers trigger e.1 →
    ∀ ticketId ∈ linkedTicket e.2, ∀ t ∈ s.db.tickets, t.id = ticketId → t.status = .open

/-- One statement of a delivery: what it does to the tickets, and what the call holds afterwards. -/
inductive DeliveryStep (tenantId contactId : Uuid) : Stmt → TicketDb → TicketProg TicketReply → TicketDb → Prop where
  | nothing (tag : Stmt) (db db' : TicketDb) (rest : TicketProg TicketReply)
      (htickets : db'.tickets = db.tickets) (hlinked : linkedTicket rest = none)
      (hreopening : reopeningTicket rest = none) (hcreated : createdTicket rest = false) :
      DeliveryStep tenantId contactId tag db rest db'
  | aims (db : TicketDb) (rest : TicketProg TicketReply) (t : Ticket)
      (hfind : db.findActiveTicket tenantId contactId = some t) (hlinked : linkedTicket rest = none)
      (hreopening : reopeningTicket rest = some t.id) (hcreated : createdTicket rest = false) :
      DeliveryStep tenantId contactId (.findActive tenantId contactId) db rest db
  | links (db : TicketDb) (rest : TicketProg TicketReply) (t : Ticket)
      (hfind : db.findActiveTicket tenantId contactId = some t)
      (hlinked : linkedTicket rest = some t.id) (hreopening : reopeningTicket rest = none)
      (hcreated : createdTicket rest = false) :
      DeliveryStep tenantId contactId (.findActive tenantId contactId) db rest db
  | stays (ticketId : Uuid) (db db' : TicketDb) (rest : TicketProg TicketReply)
      (htickets : db'.tickets = db.tickets) (hlinked : linkedTicket rest = some ticketId)
      (hreopening : reopeningTicket rest = none) (hcreated : createdTicket rest = false) :
      DeliveryStep tenantId contactId (.linkConversation ticketId) db rest db'
  | creates (db db' : TicketDb) (rest : TicketProg TicketReply) (t : Ticket)
      (hnone : db.findActiveTicket tenantId contactId = none) (hmem : t ∈ db'.tickets)
      (htenant : t.tenantId = tenantId) (hcontact : t.contactId = some contactId)
      (hlinked : linkedTicket rest = some t.id) (hreopening : reopeningTicket rest = none) :
      DeliveryStep tenantId contactId (.createTicket tenantId contactId) db rest db'
  | reopens (ticketId : Uuid) (db db' : TicketDb) (rest : TicketProg TicketReply)
      (hpending : ∃ t ∈ db.tickets, t.id = ticketId ∧ t.status = .pending)
      (hlinked : linkedTicket rest = some ticketId) (hreopening : reopeningTicket rest = none)
      (hcreated : createdTicket rest = false) :
      DeliveryStep tenantId contactId (.reopen ticketId) db rest db'

section Statements

variable {tenantId contactId : Uuid} {db : TicketDb}

theorem allocateTicket_cases (db : TicketDb) (tenantId : Uuid) (target : InboundTarget) (ticketId : Uuid) :
    ((∀ result, (allocateTicket tenantId target ticketId db).1 ≠ .linked result) ∧
        (allocateTicket tenantId target ticketId db).2.tickets = db.tickets) ∨
      (db.findActiveTicket tenantId target.contactId = none ∧
        (∃ result, (allocateTicket tenantId target ticketId db).1 = .linked result ∧
          result.ticketId = some ticketId) ∧
        newTicket db tenantId target ticketId ∈ (allocateTicket tenantId target ticketId db).2.tickets) := by
  simp only [allocateTicket]
  split
  · simp
  · split
    · simp
    · rename_i hnone
      split
      · simpa using hnone
      · simp

theorem reopenAndLink_cases (hdb : db.Indexed) (tenantId : Uuid) (active : Ticket) (target : InboundTarget) :
    ((∀ result, (reopenAndLink tenantId active target db).1 ≠ .linked result) ∧
        (reopenAndLink tenantId active target db).2.tickets = db.tickets) ∨
      ((reopenAndLink tenantId active target db).1 = .linked (attachedTo active) ∧
        ∃ t ∈ db.tickets, t.id = active.id ∧ t.status = .pending) := by
  have heq := updateTickets_eq hdb (reopenWhere_move db.now tenantId active)
  cases hcount : db.tickets.countP (reopenWhere tenantId active) with
  | zero =>
    left
    simp [reopenAndLink, heq, hcount, updateWhere_of_countP_eq_zero hcount]
  | succ =>
    right
    refine ⟨by simp [reopenAndLink, heq, hcount], ?_⟩
    have hpos : 0 < db.tickets.countP (reopenWhere tenantId active) := by omega
    obtain ⟨t, ht, hp⟩ := List.countP_pos_iff.mp hpos
    simp only [reopenWhere, decide_eq_true_eq] at hp
    exact ⟨t, ht, hp.2⟩

theorem linkLoop_holds_nothing (tenantId : Uuid) (target : InboundTarget) (ids : Nat → Uuid) (n : Nat) :
    linkedTicket ((linkLoop tenantId target ids n).bind (.pure ∘ .linked)) = none ∧
      reopeningTicket ((linkLoop tenantId target ids n).bind (.pure ∘ .linked)) = none ∧
      createdTicket ((linkLoop tenantId target ids n).bind (.pure ∘ .linked)) = false := by
  cases n with
  | zero | succ => exact ⟨rfl, rfl, rfl⟩

theorem linkLoop_follows (tenantId : Uuid) (target : InboundTarget) (ids : Nat → Uuid) (n : Nat) :
    ((linkLoop tenantId target ids n).bind (.pure ∘ .linked)).Follows TicketDb.Indexed
      (DeliveryStep tenantId target.contactId) := by
  induction n with
  | zero => trivial
  | succ n ih =>
    obtain ⟨hlinked, hreopening, hcreated⟩ := linkLoop_holds_nothing tenantId target ids n
    simp only [linkLoop, linkOnce, Prog.bind_def, Prog.bind_read, Prog.bind_atomic,
      Prog.bind_assoc]
    intro db hdb
    dsimp only
    cases hfind : db.findActiveTicket tenantId target.contactId with
    | none =>
      refine ⟨.nothing _ _ _ _ rfl rfl rfl rfl, ?_⟩
      intro db' _
      have hcases := allocateTicket_cases db' tenantId target (ids n)
      cases hattempt : (allocateTicket tenantId target (ids n) db').1 with
      | linked result =>
        rw [hattempt] at hcases
        rcases hcases with ⟨hnot, _⟩ | ⟨hnone, ⟨_, heq, hticket⟩, hmem⟩
        · exact absurd rfl (hnot result)
        · cases heq
          exact ⟨.creates _ _ _ _ hnone hmem rfl rfl hticket rfl, trivial⟩
      | lost =>
        rw [hattempt] at hcases
        rcases hcases with ⟨_, htickets⟩ | ⟨_, ⟨_, heq, _⟩, _⟩
        · exact ⟨.nothing _ _ _ _ htickets hlinked hreopening hcreated, ih⟩
        · cases heq
      | failed =>
        rw [hattempt] at hcases
        rcases hcases with ⟨_, htickets⟩ | ⟨_, ⟨_, heq, _⟩, _⟩
        · exact ⟨.nothing _ _ _ _ htickets rfl rfl rfl, trivial⟩
        · cases heq
    | some active =>
      simp only [attach]
      split
      · refine ⟨.aims _ _ active hfind rfl rfl rfl, ?_⟩
        intro db' hdb'
        have hcases := reopenAndLink_cases hdb' tenantId active target
        cases hattempt : (reopenAndLink tenantId active target db').1 with
        | linked result =>
          rw [hattempt] at hcases
          rcases hcases with ⟨hnot, _⟩ | ⟨heq, hpending⟩
          · exact absurd rfl (hnot result)
          · cases heq
            exact ⟨.reopens _ _ _ _ hpending rfl rfl rfl, trivial⟩
        | lost =>
          rw [hattempt] at hcases
          rcases hcases with ⟨_, htickets⟩ | ⟨heq, _⟩
          · exact ⟨.nothing _ _ _ _ htickets hlinked hreopening hcreated, ih⟩
          · cases heq
        | failed =>
          rw [hattempt] at hcases
          rcases hcases with ⟨_, htickets⟩ | ⟨heq, _⟩
          · exact ⟨.nothing _ _ _ _ htickets rfl rfl rfl, trivial⟩
          · cases heq
      · split
        · exact ⟨.links _ _ active hfind rfl rfl rfl, trivial⟩
        · refine ⟨.links _ _ active hfind rfl rfl rfl, ?_⟩
          intro db' _
          exact ⟨.stays _ _ _ _ rfl rfl rfl rfl, trivial⟩

def Names (trigger : InboundMessageTicketTrigger) (found : Option (Message × Uuid)) (db : TicketDb) : Prop :=
  db.Indexed ∧ db.findInbound trigger = found

def contactOf (found : Option (Message × Uuid)) : Uuid := (found.map Prod.snd).getD 0

theorem ensureTicketForMessage_follows (trigger : InboundMessageTicketTrigger) (ids : Nat → Uuid)
    (found : Option (Message × Uuid)) :
    ((ensureTicketForMessage trigger ids).bind (.pure ∘ .linked)).Follows (Names trigger found)
      (DeliveryStep trigger.tenantId (contactOf found)) := by
  simp only [ensureTicketForMessage, readInboundTarget, Prog.bind_def, Prog.bind_read,
    Prog.bind_atomic]
  intro db hdb
  dsimp only
  rw [hdb.2]
  cases found with
  | none => exact ⟨.nothing _ _ _ _ rfl rfl rfl rfl, trivial⟩
  | some found =>
    obtain ⟨message, contactId⟩ := found
    dsimp only
    split
    · obtain ⟨hlinked, hreopening, hcreated⟩ := linkLoop_holds_nothing trigger.tenantId
        { messageId := message.id, conversationId := message.conversationId, contactId } ids
        maxLinkAttempts
      have hloop := linkLoop_follows trigger.tenantId
        { messageId := message.id, conversationId := message.conversationId, contactId } ids
        maxLinkAttempts
      exact ⟨.nothing _ _ _ _ rfl hlinked hreopening hcreated, hloop.weaken fun _ h => h.1⟩
    · exact ⟨.nothing _ _ _ _ rfl rfl rfl rfl, trivial⟩

def DeliveryStatement (trigger : InboundMessageTicketTrigger) (contactId : Uuid) (call : TicketCall)
    (tag : Stmt) (db : TicketDb) (rest : TicketProg TicketReply) (db' : TicketDb) : Prop :=
  delivers trigger call → DeliveryStep trigger.tenantId contactId tag db rest db'

theorem program_delivery (trigger : InboundMessageTicketTrigger) (found : Option (Message × Uuid))
    (call : TicketCall) : (program call).Follows (Names trigger found)
      (DeliveryStatement trigger (contactOf found) call) := by
  by_cases hdelivers : delivers trigger call
  · obtain ⟨ids, rfl⟩ := hdelivers
    exact (ensureTicketForMessage_follows trigger ids found).mono fun _ _ _ _ _ h _ => h
  · exact Prog.follows_of (fun _ _ _ _ h => absurd h hdelivers) _

end Statements

def TicketDb.HasTicket (db : TicketDb) (tenantId contactId ticketId : Uuid) : Prop :=
  ∃ t ∈ db.tickets, t.id = ticketId ∧ t.tenantId = tenantId ∧ t.contactId = some contactId

variable {tag : Stmt} {ticketId : Uuid} {call : TicketCall}

theorem Effect.hasTicket {db : TicketDb} (h : Effect tag db db')
    {tenantId contactId : Uuid} (hdb : db.HasTicket tenantId contactId ticketId) :
    db'.HasTicket tenantId contactId ticketId := by
  obtain ⟨t, ht, hid, htenant, hcontact⟩ := hdb
  obtain ⟨t', ht', rfl | hmove⟩ := h.row_after ht
  · exact ⟨t', ht', hid, htenant, hcontact⟩
  · exact ⟨t', ht', hmove.id_eq.trans hid, hmove.tenantId_eq.trans htenant,
      hmove.contactId_eq.trans hcontact⟩

/-- What holds of the deliveries of a trigger while every ticket they have linked stays open. -/
structure Agree (trigger : InboundMessageTicketTrigger) (contactId : Uuid) (s : TicketSys) : Prop where
  here : ∀ e ∈ s.calls, delivers trigger e.1 → ∀ ticketId,
    linkedTicket e.2 = some ticketId ∨ reopeningTicket e.2 = some ticketId →
      s.db.HasTicket trigger.tenantId contactId ticketId
  same : ∀ e ∈ s.calls, ∀ e' ∈ s.calls, delivers trigger e.1 → delivers trigger e'.1 →
    ∀ ticketId ticketId', linkedTicket e.2 = some ticketId → linkedTicket e'.2 = some ticketId' →
      ticketId = ticketId'
  named : ∀ e ∈ s.calls, delivers trigger e.1 → createdTicket e.2 = true → linkedTicket e.2 ≠ none
  once : ∀ (i j : Nat) e e', s.calls[i]? = some e → s.calls[j]? = some e' → delivers trigger e.1 →
    delivers trigger e'.1 → createdTicket e.2 = true → createdTicket e'.2 = true → i = j

section Invariant

variable {trigger : InboundMessageTicketTrigger} {contactId : Uuid} {s : TicketSys}

def SomeLinked (trigger : InboundMessageTicketTrigger) (s : TicketSys) (ticketId : Uuid) : Prop :=
  ∃ e ∈ s.calls, delivers trigger e.1 ∧ linkedTicket e.2 = some ticketId

theorem Agree.idle (db : TicketDb) : Agree trigger contactId (.idle db) := by
  constructor <;> simp [Sys.idle]

theorem Agree.spawn (h : Agree trigger contactId s) (call : TicketCall) :
    Agree trigger contactId (s.spawn program call) := by
  have hnothing : delivers trigger call → linkedTicket (program call) = none ∧
      reopeningTicket (program call) = none ∧ createdTicket (program call) = false := by
    intro hdelivers
    obtain ⟨ids, rfl⟩ := hdelivers
    exact ⟨rfl, rfl, rfl⟩
  have hmem : ∀ e ∈ (s.spawn program call).calls, e ∈ s.calls ∨ e = (call, program call) := by
    intro e he
    simpa [Sys.spawn] using he
  have hindex : ∀ (j : Nat) e, (s.spawn program call).calls[j]? = some e →
      s.calls[j]? = some e ∨ e = (call, program call) := by
    intro j e hj
    simp only [Sys.spawn, List.getElem?_append] at hj
    split at hj
    · exact .inl hj
    · exact .inr (List.mem_singleton.mp (List.mem_of_getElem? hj))
  constructor
  · intro e he hde ticketId hheld
    rcases hmem e he with hmem | rfl
    · exact h.here e hmem hde ticketId hheld
    · simp [hnothing hde] at hheld
  · intro e he e' he' hde hde' ticketId ticketId' hle hle'
    rcases hmem e he with hmem₁ | rfl
    · rcases hmem e' he' with hmem₂ | rfl
      · exact h.same e hmem₁ e' hmem₂ hde hde' ticketId ticketId' hle hle'
      · simp [hnothing hde'] at hle'
    · simp [hnothing hde] at hle
  · intro e he hde hce
    rcases hmem e he with hmem | rfl
    · exact h.named e hmem hde hce
    · simp [hnothing hde] at hce
  · intro j k e e' hj hk hde hde' hce hce'
    rcases hindex j e hj with hj' | rfl
    · rcases hindex k e' hk with hk' | rfl
      · exact h.once j k e e' hj' hk' hde hde' hce hce'
      · simp [hnothing hde'] at hce'
    · simp [hnothing hde] at hce

theorem Agree.findActive (h : Agree trigger contactId s) (hindexed : s.db.Indexed)
    (hdelivers : delivers trigger call) (hdecides : decides tag = true)
    (hcond : LinkedStayOpen trigger s call tag) (hlinked : SomeLinked trigger s ticketId) :
    ∃ t ∈ s.db.tickets, s.db.findActiveTicket trigger.tenantId contactId = some t ∧
      t.id = ticketId ∧ t.status = .open := by
  obtain ⟨e, he, hde, hle⟩ := hlinked
  obtain ⟨t, ht, hid, htenant, hcontact⟩ := h.here e he hde ticketId (.inl hle)
  have hopen := hcond hdelivers hdecides e he hde ticketId hle t ht hid
  have hentry : t.activeEntry = some (trigger.tenantId, contactId) :=
    Ticket.activeEntry_eq_some.mpr ⟨by rw [hopen]; rfl, hcontact, htenant⟩
  exact ⟨t, ht, TicketDb.findActiveTicket_of_active hindexed ht hentry, hid, hopen⟩

variable {β : Type} {i : Nat}

variable {next : β → TicketProg TicketReply} {act : TicketDb → β × TicketDb}

theorem Agree.not_reopening (h : Agree trigger contactId s) (hindexed : s.db.Indexed)
    (hdelivers : delivers trigger call) (hcond : LinkedStayOpen trigger s call (.reopen ticketId))
    (hentry : (call, Prog.atomic (.reopen ticketId) act next) ∈ s.calls)
    (hpending : ∃ t ∈ s.db.tickets, t.id = ticketId ∧ t.status = .pending) (linkedId : Uuid) :
    ¬ SomeLinked trigger s linkedId := by
  intro hsome
  obtain ⟨t, ht, hid, hstatus⟩ := hpending
  obtain ⟨t₁, ht₁, hid₁, htenant, hcontact⟩ := h.here _ hentry hdelivers ticketId (.inr rfl)
  cases hindexed.eq_of_id ht ht₁ (hid.trans hid₁.symm)
  have hlive : t.activeEntry = some (trigger.tenantId, contactId) :=
    Ticket.activeEntry_eq_some.mpr ⟨by rw [hstatus]; rfl, hcontact, htenant⟩
  obtain ⟨t', _, hfind, _, hopen⟩ := h.findActive hindexed hdelivers rfl hcond hsome
  cases hfind.symm.trans (TicketDb.findActiveTicket_of_active hindexed ht hlive)
  simp [hstatus] at hopen

theorem Agree.exec (h : Agree trigger contactId s) (hcall : s.calls[i]? = some (call, .atomic tag act next))
    (heffect : Effect tag s.db (act s.db).2)
    (hhere : delivers trigger call → ∀ ticketId, linkedTicket (next (act s.db).1) = some ticketId ∨
      reopeningTicket (next (act s.db).1) = some ticketId →
        (act s.db).2.HasTicket trigger.tenantId contactId ticketId)
    (hsame : delivers trigger call → ∀ ticketId, linkedTicket (next (act s.db).1) = some ticketId →
      ∀ ticketId', SomeLinked trigger s ticketId' → ticketId = ticketId')
    (hcreated : delivers trigger call → createdTicket (next (act s.db).1) = true →
      linkedTicket (next (act s.db).1) ≠ none ∧ ∀ ticketId, ¬ SomeLinked trigger s ticketId) :
    Agree trigger contactId (s.exec i call act next) := by
  have hmem : ∀ e ∈ (s.exec i call act next).calls, e ∈ s.calls ∨ e = (call, next (act s.db).1) :=
    fun e he => List.mem_or_eq_of_mem_set he
  have hold : ∀ e ∈ s.calls, delivers trigger e.1 → createdTicket e.2 = true →
      ∃ ticketId, SomeLinked trigger s ticketId := by
    intro e he hde hce
    obtain ⟨ticketId, hticket⟩ := Option.ne_none_iff_exists'.mp (h.named e he hde hce)
    exact ⟨ticketId, e, he, hde, hticket⟩
  constructor
  · intro e he hde ticketId hheld
    rcases hmem e he with hmem | rfl
    · exact heffect.hasTicket (h.here e hmem hde ticketId hheld)
    · exact hhere hde ticketId hheld
  · intro e he e' he' hde hde' ticketId ticketId' hle hle'
    rcases hmem e he with hmem₁ | rfl
    · rcases hmem e' he' with hmem₂ | rfl
      · exact h.same e hmem₁ e' hmem₂ hde hde' ticketId ticketId' hle hle'
      · exact (hsame hde' ticketId' hle' ticketId ⟨e, hmem₁, hde, hle⟩).symm
    · rcases hmem e' he' with hmem₂ | rfl
      · exact hsame hde ticketId hle ticketId' ⟨e', hmem₂, hde', hle'⟩
      · exact Option.some.inj (hle.symm.trans hle')
  · intro e he hde hce
    rcases hmem e he with hmem | rfl
    · exact h.named e hmem hde hce
    · exact (hcreated hde hce).1
  · intro j k e e' hj hk hde hde' hce hce'
    have hindex : ∀ (j : Nat) e, (s.exec i call act next).calls[j]? = some e →
        (j = i ∧ e = (call, next (act s.db).1)) ∨ (j ≠ i ∧ s.calls[j]? = some e) := by
      intro j e hj
      by_cases hji : i = j
      · subst hji
        left
        obtain ⟨hlt, _⟩ := List.getElem?_eq_some_iff.mp hcall
        simp only [Sys.exec, List.getElem?_set_self hlt, Option.some.injEq] at hj
        exact ⟨rfl, hj.symm⟩
      · right
        simp only [Sys.exec, List.getElem?_set_ne hji] at hj
        exact ⟨fun h => hji h.symm, hj⟩
    rcases hindex j e hj with ⟨rfl, rfl⟩ | ⟨_, hj'⟩
    · rcases hindex k e' hk with ⟨rfl, _⟩ | ⟨_, hk'⟩
      · rfl
      · obtain ⟨ticketId, hlinked⟩ := hold e' (List.mem_of_getElem? hk') hde' hce'
        exact absurd hlinked ((hcreated hde hce).2 ticketId)
    · rcases hindex k e' hk with ⟨rfl, rfl⟩ | ⟨_, hk'⟩
      · obtain ⟨ticketId, hlinked⟩ := hold e (List.mem_of_getElem? hj') hde hce
        exact absurd hlinked ((hcreated hde' hce').2 ticketId)
      · exact h.once j k e e' hj' hk' hde hde' hce hce'

theorem Agree.exec_delivery (h : Agree trigger contactId s) (hindexed : s.db.Indexed)
    (hcall : s.calls[i]? = some (call, .atomic tag act next)) (heffect : Effect tag s.db (act s.db).2)
    (hspec : DeliveryStatement trigger contactId call tag s.db (next (act s.db).1) (act s.db).2)
    (hcond : LinkedStayOpen trigger s call tag) : Agree trigger contactId (s.exec i call act next) := by
  by_cases hdelivers : delivers trigger call
  · have hentry := List.mem_of_getElem? hcall
    have hactive : decides tag = true → ∀ ticketId, SomeLinked trigger s ticketId →
        ∃ t ∈ s.db.tickets, s.db.findActiveTicket trigger.tenantId contactId = some t ∧
          t.id = ticketId ∧ t.status = .open :=
      fun hdecides _ hlinked => h.findActive hindexed hdelivers hdecides hcond hlinked
    generalize hrest : next (act s.db).1 = rest at hspec
    generalize hdb' : (act s.db).2 = db' at hspec heffect
    have hhas : ∀ t, s.db.findActiveTicket trigger.tenantId contactId = some t →
        db'.HasTicket trigger.tenantId contactId t.id := by
      intro t hfind
      obtain ⟨ht, hactive⟩ := TicketDb.findActiveTicket_some hfind
      obtain ⟨_, hcontact, htenant⟩ := Ticket.activeEntry_eq_some.mp hactive
      exact heffect.hasTicket ⟨t, ht, rfl, htenant, hcontact⟩
    have hexec := h.exec hcall (by rw [hdb']; exact heffect)
    rw [hrest, hdb'] at hexec
    cases hspec hdelivers with
    | nothing _ _ _ _ htickets hlinked hreopening hcreated =>
      apply hexec <;> simp [hlinked, hreopening, hcreated]
    | aims _ _ t hfind hlinked hreopening hcreated =>
      apply hexec
      · intro _ ticketId hheld
        simp only [hlinked, hreopening, reduceCtorEq, false_or, Option.some.injEq] at hheld
        exact hheld ▸ hhas t hfind
      · simp [hlinked]
      · simp [hcreated]
    | links _ _ t hfind hlinked hreopening hcreated =>
      apply hexec
      · intro _ ticketId hheld
        simp only [hlinked, hreopening, reduceCtorEq, or_false, Option.some.injEq] at hheld
        exact hheld ▸ hhas t hfind
      · intro _ ticketId hticket ticketId' hsome
        obtain ⟨t', _, hfind', hid, _⟩ := hactive rfl ticketId' hsome
        cases hfind.symm.trans hfind'
        exact (Option.some.inj (hlinked.symm.trans hticket)).symm.trans hid
      · simp [hcreated]
    | stays ticketId _ _ _ htickets hlinked hreopening hcreated =>
      -- the call held this ticket already
      have hheld : SomeLinked trigger s ticketId := ⟨_, hentry, hdelivers, rfl⟩
      apply hexec
      · intro _ ticketId' hticket
        simp only [hlinked, hreopening, reduceCtorEq, or_false, Option.some.injEq] at hticket
        exact hticket ▸ heffect.hasTicket (h.here _ hentry hdelivers ticketId (.inl rfl))
      · intro _ ticketId₁ hticket ticketId₂ hsome
        obtain ⟨e, he, hde, hle⟩ := hsome
        cases hlinked.symm.trans hticket
        exact h.same _ hentry e he hdelivers hde ticketId ticketId₂ rfl hle
      · simp [hcreated]
    | creates _ _ _ t hnone hmem htenant hcontact hlinked hreopening =>
      -- a linked ticket would have been found, so this delivery is the first to link
      have hfirst : ∀ ticketId, ¬ SomeLinked trigger s ticketId := by
        intro ticketId hsome
        obtain ⟨t', _, hfind, _⟩ := hactive rfl ticketId hsome
        simp [hnone] at hfind
      apply hexec
      · intro _ ticketId hheld
        simp only [hlinked, hreopening, reduceCtorEq, or_false, Option.some.injEq] at hheld
        exact ⟨t, hmem, hheld, htenant, hcontact⟩
      · intro _ ticketId _ ticketId' hsome
        exact absurd hsome (hfirst ticketId')
      · intro _ _
        exact ⟨by simp [hlinked], hfirst⟩
    | reopens ticketId _ _ _ hpending hlinked hreopening hcreated =>
      -- the ticket it reopens is the contact's live one, which would be open if a delivery had linked it
      have hfirst : ∀ ticketId, ¬ SomeLinked trigger s ticketId :=
        h.not_reopening hindexed hdelivers hcond hentry hpending
      apply hexec
      · intro _ ticketId' hticket
        simp only [hlinked, hreopening, reduceCtorEq, or_false, Option.some.injEq] at hticket
        exact hticket ▸ heffect.hasTicket (h.here _ hentry hdelivers ticketId (.inr rfl))
      · intro _ _ _ ticketId' hsome
        exact absurd hsome (hfirst ticketId')
      · simp [hcreated]
  · apply h.exec hcall heffect <;> exact fun hd => absurd hd hdelivers

theorem Agree.frozen (h : Agree trigger contactId s) (hindexed : s.db.Indexed)
    (hcall : s.calls[i]? = some (call, .atomic tag act next))
    (hspec : DeliveryStatement trigger contactId call tag s.db (next (act s.db).1) (act s.db).2)
    (hcond : LinkedStayOpen trigger s call tag) (hdelivers : delivers trigger call)
    (hsome : SomeLinked trigger s ticketId) : (act s.db).2.tickets = s.db.tickets := by
  have hentry := List.mem_of_getElem? hcall
  generalize next (act s.db).1 = rest at hspec
  generalize hdb' : (act s.db).2 = db' at hspec
  cases hspec hdelivers with
  | nothing _ _ _ _ htickets => exact htickets
  | aims | links => rfl
  | stays _ _ _ _ htickets => exact htickets
  | creates _ _ _ t hnone =>
    obtain ⟨t', _, hfind, _⟩ := h.findActive hindexed hdelivers rfl hcond hsome
    simp [hnone] at hfind
  | reopens _ _ _ _ hpending =>
    exact absurd hsome (h.not_reopening hindexed hdelivers hcond hentry hpending ticketId)

end Invariant

/-- What is asked of the deliveries of one trigger: they return one ticket, one of them created it at most, and once
    one has returned it the others leave the tickets alone. -/
structure LinksOnce (trigger : InboundMessageTicketTrigger) (cond : TicketSys → TicketCall → Stmt → Prop)
    (s : TicketSys) : Prop where
  same : ∀ ids ids' result result',
    s.Finished (.ensureTicketForMessage trigger ids) (.linked (.ok result)) →
    s.Finished (.ensureTicketForMessage trigger ids') (.linked (.ok result')) →
    result.ticketId ≠ none → result'.ticketId ≠ none → result.ticketId = result'.ticketId
  once : ∀ (i j : Nat) ids ids' result result',
    s.calls[i]? = some (.ensureTicketForMessage trigger ids, .pure (.linked (.ok result))) →
    s.calls[j]? = some (.ensureTicketForMessage trigger ids', .pure (.linked (.ok result'))) →
    result.outcome = .created → result'.outcome = .created → i = j
  frozen : ∀ ids result, s.Finished (.ensureTicketForMessage trigger ids) (.linked (.ok result)) →
    result.ticketId ≠ none → ∀ (i : Nat) (ids' : Nat → Uuid) (β : Type) (tag : Stmt)
      (act : TicketDb → β × TicketDb) (next : β → TicketProg TicketReply),
      s.calls[i]? = some (.ensureTicketForMessage trigger ids', .atomic tag act next) →
      cond s (.ensureTicketForMessage trigger ids') tag → (act s.db).2.tickets = s.db.tickets

theorem agree_of_run {db : TicketDb} (hdb : db.Ok) {trigger : InboundMessageTicketTrigger}
    {s : TicketSys} (hs : Reachable program (LinkedStayOpen trigger) (.idle db) s) :
    Agree trigger (contactOf (db.findInbound trigger)) s ∧
      s.Follows (Names trigger (db.findInbound trigger))
        (DeliveryStatement trigger (contactOf (db.findInbound trigger))) ∧
      Names trigger (db.findInbound trigger) s.db := by
  induction hs with
  | refl => exact ⟨.idle db, Sys.follows_idle db, hdb.indexed, rfl⟩
  | tail hs hstep ih =>
    obtain ⟨hagree, hfollows, hnames⟩ := ih
    obtain ⟨hok, hsound⟩ := TicketRun.ok hdb (Reachable.mono (fun _ _ _ _ => trivial) hs)
    have hfollows' := hstep.follows (program_delivery trigger _) hfollows hnames
    cases hstep with
    | spawn _ call =>
      exact ⟨hagree.spawn call, hfollows', hnames⟩
    | exec _ i call tag act next hcall hcond =>
      have heffect := (hsound.exec_spec hok.indexed hcall).1.effect
      have hspec := (hfollows.exec_spec hnames hcall).1
      exact ⟨hagree.exec_delivery hok.indexed hcall heffect hspec hcond, hfollows',
        heffect.indexed hnames.1, (heffect.findInbound_eq trigger).trans hnames.2⟩

/-- In every run in which each linked ticket is still open whenever a delivery decides, the message is linked once. -/
theorem redelivery_links_one_ticket {db : TicketDb} (hdb : db.Ok) (trigger : InboundMessageTicketTrigger)
    {s : TicketSys} (hs : Reachable program (LinkedStayOpen trigger) (.idle db) s) :
    LinksOnce trigger (LinkedStayOpen trigger) s := by
  obtain ⟨hagree, hfollows, hnames⟩ := agree_of_run hdb hs
  constructor
  · intro ids ids' result result' hfin hfin' hsome hsome'
    obtain ⟨ticketId, hticket⟩ := Option.ne_none_iff_exists'.mp hsome
    obtain ⟨ticketId', hticket'⟩ := Option.ne_none_iff_exists'.mp hsome'
    rw [hticket, hticket']
    exact congrArg some (hagree.same _ hfin _ hfin' ⟨ids, rfl⟩ ⟨ids', rfl⟩ ticketId ticketId' hticket hticket')
  · intro i j ids ids' result result' hi hj hcreated hcreated'
    exact hagree.once i j _ _ hi hj ⟨ids, rfl⟩ ⟨ids', rfl⟩ (by simpa [createdTicket] using hcreated)
      (by simpa [createdTicket] using hcreated')
  · intro ids result hfin hsome i ids' β tag act next hcall hcond
    obtain ⟨ticketId, hticket⟩ := Option.ne_none_iff_exists'.mp hsome
    exact hagree.frozen hnames.1 hcall (hfollows.exec_spec hnames hcall).1 hcond ⟨ids', rfl⟩
      ⟨_, hfin, ⟨ids, rfl⟩, hticket⟩

def oneMessage : TicketDb :=
  { conversations := [{ id := 1, tenantId := 1, contactId := 1 }]
    messages := [{ id := 1, tenantId := 1, conversationId := 1, direction := .inbound, sentAt := 0 }] }

theorem oneMessage_ok : oneMessage.Ok where
  indexed := show Indexed [] by decide
  numbered := by
    intro t ht
    cases ht
  stamped t ht := by cases ht

def oneTrigger : InboundMessageTicketTrigger := { tenantId := 1, messageId := 1 }

/-- A schedule's check that no linked ticket has left `open` when a linker decides. -/
def linkedOpen (s : TicketSys) (_ : TicketCall) (tag : Stmt) : Bool :=
  !decides tag || s.calls.all fun e => (linkedTicket e.2).all fun ticketId =>
    s.db.tickets.all fun t => t.id != ticketId || t.status == .open

theorem linkedStayOpen_of_linkedOpen {s : TicketSys} (h : linkedOpen s call tag = true) : LinkedStayOpen oneTrigger s call tag := by
  intro _ hdecides e he _ ticketId hlinked t ht hid
  simp only [linkedOpen, hdecides, Bool.not_true, Bool.false_or, List.all_eq_true,
    Option.all_eq_true] at h
  simpa [hid] using h e he ticketId hlinked t ht

theorem redelivery_links_one_ticket_oneMessage : ∃ s, run program linkedOpen
        [.spawn (.ensureTicketForMessage oneTrigger fun _ => 1), .step 0, .step 0, .step 0,
          .spawn (.ensureTicketForMessage oneTrigger fun _ => 2), .step 1, .step 1]
        (.idle oneMessage) = some s ∧ LinksOnce oneTrigger (LinkedStayOpen oneTrigger) s := by
  obtain ⟨s, hs⟩ := Option.isSome_iff_exists.mp (by decide :
    (run program linkedOpen
      [.spawn (.ensureTicketForMessage oneTrigger fun _ => 1), .step 0, .step 0, .step 0,
        .spawn (.ensureTicketForMessage oneTrigger fun _ => 2), .step 1, .step 1]
      (.idle oneMessage)).isSome = true)
  exact ⟨s, hs, redelivery_links_one_ticket oneMessage_ok oneTrigger
    (Reachable.mono (fun _ _ _ h => linkedStayOpen_of_linkedOpen h) (reachable_of_run hs))⟩

def resolvedBetween : List (Move TicketCall) :=
  [.spawn (.ensureTicketForMessage oneTrigger fun _ => 1), .step 0, .step 0, .step 0,
    .spawn (.update 1 { userId := 9, permissions := [.ticketReadAll, .ticketClose], teamIds := [] } 1
      { status := some .resolved }), .step 1, .step 1,
    .spawn (.ensureTicketForMessage oneTrigger fun _ => 2), .step 2, .step 2, .step 2]

/-- The two deliveries have returned two tickets. -/
def twoTickets (s : TicketSys) : Bool :=
  match s.calls with
  | [(.ensureTicketForMessage trigger _, .pure (.linked (.ok result))), _,
      (.ensureTicketForMessage trigger' _, .pure (.linked (.ok result')))] =>
    decide (trigger = oneTrigger) && decide (trigger' = oneTrigger) &&
      decide (result.ticketId = some 1) && decide (result'.ticketId = some 2)
  | _ => false

theorem redelivery_creates_second_ticket :
    ¬ ∀ db : TicketDb, db.Ok → ∀ trigger s, TicketRun db s → LinksOnce trigger anyStep s := by
  intro hclaim
  have hrun : (run program (fun _ _ _ => true) resolvedBetween (.idle oneMessage)).any twoTickets =
      true := by
    decide
  cases hs : run program (fun _ _ _ => true) resolvedBetween (.idle oneMessage) with
  | none => simp [hs] at hrun
  | some s =>
    have honce := (hclaim oneMessage oneMessage_ok oneTrigger s (reachable_of_run_any hs)).same
    simp only [hs, Option.any_some] at hrun
    unfold twoTickets at hrun
    split at hrun
    · rename_i trigger ids result _ trigger' ids' result' hcalls
      simp only [Bool.and_eq_true, decide_eq_true_eq] at hrun
      obtain ⟨⟨⟨rfl, rfl⟩, hticket⟩, hticket'⟩ := hrun
      have heq := honce ids ids' result result' (by simp [Sys.Finished, hcalls])
        (by simp [Sys.Finished, hcalls]) (by simp [hticket]) (by simp [hticket'])
      simp [hticket, hticket'] at heq
    · cases hrun

/-- The number each row was given, in the order of the rows. -/
def TicketDb.numbers (db : TicketDb) : List (Uuid × Uuid × Int) := db.tickets.map fun t => (t.id, t.tenantId, t.number)

/-- The numbers of one tenant rise. -/
def TicketDb.Rising (db : TicketDb) : Prop := db.numbers.Pairwise fun a b => a.2.1 = b.2.1 → a.2.2 < b.2.2

/-- A statement gives one number at most, which is beyond all of its tenant. -/
theorem Effect.numbers {db : TicketDb} (h : Effect tag db db') (hdb : db.Numbered) : db'.numbers = db.numbers ∨
    ∃ ticketId tenantId number, db'.numbers = db.numbers ++ [(ticketId, tenantId, number)] ∧
      ∀ t ∈ db.tickets, t.tenantId = tenantId → t.number < number := by
  cases h with
  | same | counted | appended | ticked => exact .inl rfl
  | inserted tenantId target ticketId =>
    refine .inr ⟨ticketId, tenantId, db.allocatedNumber tenantId, List.map_append, fun t ht htenant => ?_⟩
    obtain ⟨next, hnext, hlt⟩ := hdb t ht
    rw [htenant] at hnext
    simpa [TicketDb.allocatedNumber, hnext] using hlt
  | updated _ _ p f events hmove =>
    refine .inl ?_
    rw [TicketDb.numbers, updateWhere, List.map_map]
    refine List.map_congr_left fun t ht => ?_
    simp only [Function.comp_apply]
    split
    · rename_i hp
      rw [(hmove t hp).id_eq, (hmove t hp).tenantId_eq, (hmove t hp).number_eq]
    · rfl

theorem Effect.numbering {db : TicketDb} (h : Effect tag db db') (hdb : db.Numbered) :
    db.numbers <+: db'.numbers ∧ (db.Rising → db'.Rising) := by
  rcases h.numbers hdb with heq | ⟨ticketId, tenantId, number, heq, hbeyond⟩
  · rw [TicketDb.Rising, TicketDb.Rising, heq]
    exact ⟨List.prefix_rfl, fun hrising => hrising⟩
  · rw [TicketDb.Rising, TicketDb.Rising, heq]
    refine ⟨List.prefix_append _ _, fun hrising => ?_⟩
    refine List.pairwise_append.mpr ⟨hrising, List.pairwise_singleton _ _, fun a ha b hb htenant => ?_⟩
    obtain ⟨t, ht, rfl⟩ := List.mem_map.mp ha
    rw [List.mem_singleton.mp hb] at htenant ⊢
    exact hbeyond t ht htenant

theorem TicketRun.numbering {db : TicketDb} (hdb : db.Ok) (hs : TicketRun db s)
    (hlater : Reachable program anyStep s s') : s.db.numbers <+: s'.db.numbers ∧ (s.db.Rising → s'.db.Rising) := by
  induction hlater with
  | refl => exact ⟨List.prefix_rfl, fun hrising => hrising⟩
  | tail hmid hstep ih =>
    obtain ⟨hok, hfollows⟩ := TicketRun.ok hdb (hs.trans hmid)
    cases hstep with
    | spawn => exact ih
    | exec _ i c tag act next hcall =>
      have hnext := (hfollows.exec_spec hok.indexed hcall).1.effect.numbering hok.numbered
      exact ⟨ih.1.trans hnext.1, fun hrising => hnext.2 (ih.2 hrising)⟩

/-- In every run each tenant's tickets are numbered in the order in which they were created, and from every state on the
    tickets that are there keep their places and their numbers. -/
theorem ticket_numbers_rise {db : TicketDb} (hdb : db.Ok) (hrising : db.Rising) {s s' : TicketSys} (hs : TicketRun db s)
    (hlater : Reachable program anyStep s s') : s.db.Rising ∧ s.db.numbers <+: s'.db.numbers :=
  ⟨(TicketRun.numbering hdb .refl hs).2 hrising, (TicketRun.numbering hdb hs hlater).1⟩

theorem ticket_numbers_rise_resolvedBetween :
    ∃ s : TicketSys, s.db.numbers = [(1, 1, 1), (2, 1, 2)] ∧ s.db.Rising := by
  have hrun : (run program (fun _ _ _ => true) resolvedBetween (.idle oneMessage)).map (·.db.numbers) =
      some [(1, 1, 1), (2, 1, 2)] := by
    decide
  obtain ⟨s, hreach, hnumbers⟩ := ends_of_run_any hrun
  exact ⟨s, hnumbers, (ticket_numbers_rise oneMessage_ok .nil hreach .refl).1⟩

end WhatsappCrm
