/-
Purpose: What holds of the ticket tables in every state of every run: of live tickets, of numbers, of the timestamps of
  a status.
-/
import WhatsappCrm.Tickets.System

namespace WhatsappCrm

open Interleaving Table

structure Stamped (t : Ticket) : Prop where
  resolved : t.status = .resolved → t.resolvedAt ≠ none
  closed : t.closedAt ≠ none ↔ t.status = .closed
  resolvedAt : t.resolvedAt ≠ none → t.status = .resolved ∨ t.status = .closed
  resolvedBy : t.resolvedByUserId ≠ none → t.resolvedAt ≠ none

def TicketDb.Numbered (db : TicketDb) : Prop :=
  ∀ t ∈ db.tickets, ∃ next, db.nextNumber? t.tenantId = some next ∧ t.number < next

structure TicketDb.Ok (db : TicketDb) : Prop where
  indexed : db.Indexed
  numbered : db.Numbered
  stamped : ∀ t ∈ db.tickets, Stamped t

structure Evolves (t t' : Ticket) : Prop where
  id : t'.id = t.id
  tenantId : t'.tenantId = t.tenantId
  conversationId : t'.conversationId = t.conversationId
  createdAt : t'.createdAt = t.createdAt
  inactive : t.status.isActive = false → t'.status.isActive = false
  settled : t.status.isActive = false → t'.resolvedAt = t.resolvedAt
  firstRespondedAt : t.firstRespondedAt ≠ none → t'.firstRespondedAt = t.firstRespondedAt
  resolvedAt : t.resolvedAt ≠ none → t'.resolvedAt = t.resolvedAt
  resolvedBy : t.resolvedAt ≠ none → t'.resolvedByUserId = t.resolvedByUserId
  closedAt : t.closedAt ≠ none → t'.closedAt = t.closedAt

namespace Evolves

theorem refl (t : Ticket) : Evolves t t where
  id := rfl
  tenantId := rfl
  conversationId := rfl
  createdAt := rfl
  inactive h := h
  settled _ := rfl
  firstRespondedAt _ := rfl
  resolvedAt _ := rfl
  resolvedBy _ := rfl
  closedAt _ := rfl

theorem trans (h : Evolves t₁ t₂) (h' : Evolves t₂ t₃) : Evolves t₁ t₃ where
  id := h'.id.trans h.id
  tenantId := h'.tenantId.trans h.tenantId
  conversationId := h'.conversationId.trans h.conversationId
  createdAt := h'.createdAt.trans h.createdAt
  inactive ht := h'.inactive (h.inactive ht)
  settled ht := (h'.settled (h.inactive ht)).trans (h.settled ht)
  firstRespondedAt ht := by
    have hsame := h.firstRespondedAt ht
    rw [h'.firstRespondedAt (by rwa [hsame]), hsame]
  resolvedAt ht := by
    have hsame := h.resolvedAt ht
    rw [h'.resolvedAt (by rwa [hsame]), hsame]
  resolvedBy ht := by
    have hsame := h.resolvedAt ht
    rw [h'.resolvedBy (by rwa [hsame]), h.resolvedBy ht]
  closedAt ht := by
    have hsame := h.closedAt ht
    rw [h'.closedAt (by rwa [hsame]), hsame]

end Evolves

variable {t : Ticket} {tag : Stmt} {db : TicketDb}

theorem Stamped.of_active (h : Stamped t) (hactive : t.status.isActive = true) :
    t.resolvedAt = none ∧ t.resolvedByUserId = none ∧ t.closedAt = none := by
  have hresolvedAt : t.resolvedAt = none := by
    by_contra hne
    rcases h.resolvedAt hne with hs | hs <;> simp [hs, TicketStatus.isActive] at hactive
  have hresolvedBy : t.resolvedByUserId = none := by
    by_contra hne
    exact h.resolvedBy hne hresolvedAt
  have hclosedAt : t.closedAt = none := by
    by_contra hne
    simp [h.closed.mp hne, TicketStatus.isActive] at hactive
  exact ⟨hresolvedAt, hresolvedBy, hclosedAt⟩

theorem Stamped.fresh (hactive : t.status.isActive = true) (hresolvedAt : t.resolvedAt = none)
    (hresolvedBy : t.resolvedByUserId = none) (hclosedAt : t.closedAt = none) : Stamped t where
  resolved h := by simp [h, TicketStatus.isActive] at hactive
  closed := by
    constructor
    · intro h
      exact absurd hclosedAt h
    · intro h
      simp [h, TicketStatus.isActive] at hactive
  resolvedAt h := absurd hresolvedAt h
  resolvedBy h := absurd hresolvedBy h

theorem Stamped.toUpdateData (h : Stamped t) {change : TicketChange}
    (hallowed : ∀ status ∈ change.status, canAgentTransition t.status status = true)
    (actorUserId : Option Uuid) (now : Millis) : Stamped (toUpdateData change actorUserId now t) ∧
      Evolves t (WhatsappCrm.toUpdateData change actorUserId now t) := by
  cases hstatus : change.status with
  | none =>
    constructor
    · constructor
      · simpa [WhatsappCrm.toUpdateData, hstatus] using h.resolved
      · simpa [WhatsappCrm.toUpdateData, hstatus] using h.closed
      · simpa [WhatsappCrm.toUpdateData, hstatus] using h.resolvedAt
      · simpa [WhatsappCrm.toUpdateData, hstatus] using h.resolvedBy
    · constructor <;> simp [WhatsappCrm.toUpdateData, hstatus]
  | some status =>
    have hmove : canAgentTransition t.status status = true := hallowed status hstatus
    have hinactive := canAgentTransition_inactive hmove
    by_cases htarget : status = .closed
    · subst htarget
      have hopen : t.closedAt = none := by
        by_contra hne
        exact canAgentTransition_closed hmove (h.closed.mp hne)
      constructor
      · constructor
        · simp [WhatsappCrm.toUpdateData, hstatus]
        · simp [WhatsappCrm.toUpdateData, hstatus]
        · simp [WhatsappCrm.toUpdateData, hstatus]
        · simpa [WhatsappCrm.toUpdateData, hstatus] using h.resolvedBy
      · constructor <;> simp [WhatsappCrm.toUpdateData, hstatus, hopen, TicketStatus.isActive]
    · -- every other move starts at a live status, where nothing has been stamped yet
      have hactive : t.status.isActive = true := by
        cases status with
        | «open» | pending => exact canAgentTransition_active hmove rfl
        | resolved => exact canAgentTransition_resolved hmove
        | closed => exact absurd rfl htarget
      obtain ⟨hresolvedAt, hresolvedBy, hclosedAt⟩ := h.of_active hactive
      constructor
      · by_cases hresolved : status = .resolved
        · subst hresolved
          constructor <;> simp [WhatsappCrm.toUpdateData, hstatus, hclosedAt]
        · apply Stamped.fresh
          · cases status <;> simp_all [WhatsappCrm.toUpdateData, TicketStatus.isActive]
          · simp [WhatsappCrm.toUpdateData, hstatus, hresolved, hresolvedAt]
          · simp [WhatsappCrm.toUpdateData, hstatus, hresolved, hresolvedBy]
          · simp [WhatsappCrm.toUpdateData, hstatus, htarget, hclosedAt]
      · constructor <;> simp [WhatsappCrm.toUpdateData, hactive, hresolvedAt, hclosedAt]

theorem RowMove.stamped (h : RowMove now tag t t') (ht : Stamped t) : Stamped t' ∧ Evolves t t' := by
  cases h with
  | reopen _ hpending =>
    have hactive : t.status.isActive = true := by simp [hpending, TicketStatus.isActive]
    obtain ⟨hresolvedAt, hresolvedBy, hclosedAt⟩ := ht.of_active hactive
    exact ⟨.fresh rfl hresolvedAt hresolvedBy hclosedAt,
      { Evolves.refl t with inactive := by simp [hactive] }⟩
  | pause _ hopen =>
    have hactive : t.status.isActive = true := by simp [hopen, TicketStatus.isActive]
    obtain ⟨hresolvedAt, hresolvedBy, hclosedAt⟩ := ht.of_active hactive
    exact ⟨.fresh rfl hresolvedAt hresolvedBy hclosedAt,
      { Evolves.refl t with inactive := by simp [hactive] }⟩
  | agent _ change actorUserId hallowed => exact ht.toUpdateData hallowed actorUserId now
  | automation _ change hallowed => exact ht.toUpdateData hallowed none now
  | assign | automationAssign | route | defer => exact ⟨{ ht with }, { Evolves.refl t with }⟩

theorem Effect.numbered (h : Effect tag db db') (hdb : db.Numbered) : db'.Numbered := by
  have hbump : ∀ tenantId, ∀ t ∈ db.tickets,
      ∃ next, (db.bumpCounter tenantId).lookup t.tenantId = some next ∧ t.number < next := by
    intro tenantId t ht
    obtain ⟨next, hnext, hlt⟩ := hdb t ht
    obtain ⟨next', hnext', hle⟩ := TicketDb.exists_lookup_bumpCounter tenantId hnext
    exact ⟨next', hnext', by omega⟩
  cases h with
  | same | appended | ticked => exact hdb
  | counted tenantId => exact hbump tenantId
  | inserted tenantId =>
    intro t ht
    rcases mem_snoc.mp ht with ht | rfl
    · exact hbump tenantId t ht
    · refine ⟨_, db.lookup_bumpCounter_self tenantId, ?_⟩
      simp only [newTicket]
      omega
  | updated _ _ p f events hmove =>
    intro t' ht'
    obtain ⟨t, ht, hcase⟩ := mem_updateWhere ht'
    rcases hcase with ⟨hp, rfl⟩ | ⟨_, rfl⟩
    · rw [(hmove t hp).tenantId_eq, (hmove t hp).number_eq]
      exact hdb t ht
    · exact hdb _ ht

theorem Effect.ok (h : Effect tag db db') (hdb : db.Ok) : db'.Ok where
  indexed := h.indexed hdb.indexed
  numbered := h.numbered hdb.numbered
  stamped t' ht' := by
    rcases h.row_before ht' with ⟨t, ht, rfl | hmove⟩ | ⟨tenantId, target, ticketId, _, rfl⟩
    · exact hdb.stamped _ ht
    · exact (hmove.stamped (hdb.stamped t ht)).1
    · exact .fresh rfl rfl rfl rfl

theorem Effect.evolves (h : Effect tag db db') (hdb : db.Ok)
    (ht : t ∈ db.tickets) : ∃ t' ∈ db'.tickets, Evolves t t' := by
  obtain ⟨t', ht', rfl | hmove⟩ := h.row_after ht
  · exact ⟨t', ht', .refl t'⟩
  · exact ⟨t', ht', (hmove.stamped (hdb.stamped t ht)).2⟩

theorem TicketRun.ok (hdb : db.Ok) (hs : TicketRun db s) : s.db.Ok ∧ s.Follows TicketDb.Indexed fun _ => Statement := by
  induction hs with
  | refl => exact ⟨hdb, Sys.follows_idle db⟩
  | tail _ hstep ih =>
    obtain ⟨hok, hfollows⟩ := ih
    refine ⟨?_, hstep.follows (fun call => (program_sound call).follows) hfollows hok.indexed⟩
    cases hstep with
    | spawn => exact hok
    | exec _ i c tag act next hcall =>
      exact (hfollows.exec_spec hok.indexed hcall).1.effect.ok hok

theorem TicketRun.evolves (hdb : db.Ok) (hs : TicketRun db s)
    (hlater : Reachable program anyStep s s') (ht : t ∈ s.db.tickets) : ∃ t' ∈ s'.db.tickets, Evolves t t' := by
  induction hlater with
  | refl => exact ⟨t, ht, .refl t⟩
  | tail hreach hstep ih =>
    obtain ⟨t₁, ht₁, hevolves⟩ := ih
    obtain ⟨hok, hfollows⟩ := TicketRun.ok hdb (hs.trans hreach)
    cases hstep with
    | spawn => exact ⟨t₁, ht₁, hevolves⟩
    | exec _ i c tag act next hcall =>
      have heffect := (hfollows.exec_spec hok.indexed hcall).1.effect
      obtain ⟨t₂, ht₂, hevolves'⟩ := heffect.evolves hok ht₁
      exact ⟨t₂, ht₂, hevolves.trans hevolves'⟩

def openTicket : Ticket :=
  { id := 1
    tenantId := 1
    number := 1
    conversationId := some 1
    contactId := some 1
    createdAt := 0 }

def oneOpenTicket : TicketDb :=
  { tickets := [openTicket]
    ticketCounters := [(1, 2)] }

theorem oneOpenTicket_ok : oneOpenTicket.Ok where
  indexed := show Indexed oneOpenTicket.tickets by decide
  numbered := by
    intro t ht
    rw [List.mem_singleton.mp ht]
    exact ⟨2, by decide⟩
  stamped t ht := by
    rw [List.mem_singleton.mp ht]
    exact .fresh rfl rfl rfl rfl

end WhatsappCrm
