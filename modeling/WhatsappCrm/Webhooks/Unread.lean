/-
Purpose: The unread count of a thread against the inbound messages stored for it.
-/
import WhatsappCrm.Webhooks.Persistence

namespace WhatsappCrm.Webhooks

open Interleaving Table

/-- A message a customer sent into the thread. -/
def InboundMessage.inboundOf (conversationId : Uuid) (m : InboundMessage) : Bool :=
  m.conversationId = conversationId ∧ m.direction = .inbound

def inboundIds (db : WebhookDb) (conversationId : Uuid) : List (Option String) :=
  (db.messages.filter (InboundMessage.inboundOf conversationId)).map (·.providerMessageId)

/-- Every thread counts the messages that were sent into it. -/
def Counted (db : WebhookDb) : Prop := ∀ c ∈ db.conversations, c.unreadCount = (inboundIds db c.id).length

instance (db : WebhookDb) : Decidable (Counted db) := List.decidableBAll _ db.conversations

theorem length_inboundIds (db : WebhookDb) (conversationId : Uuid) : (inboundIds db conversationId).length =
    (db.messages.map InboundMessage.identity).countP fun m => m.2.1 = conversationId ∧ m.2.2.1 = .inbound := by
  rw [inboundIds, List.length_map, ← List.countP_eq_length_filter, List.countP_map]
  rfl

def InboundWrite.owes (conversationId : Uuid) : InboundWrite → Int
  | .createMessage message => if message.inboundOf conversationId then 1 else 0
  | .countUnread _ counted => if counted = conversationId then -1 else 0
  | _ => 0

def owed (ws : List (InboundWrite × List InboundRow)) (conversationId : Uuid) : Int :=
  (ws.map fun e => e.1.owes conversationId).sum

def InboundWrite.opensEmpty : InboundWrite → Prop
  | .openConversation conversation => conversation.unreadCount = 0
  | _ => True

structure CountedUpTo (debt : Uuid → Int) (db : WebhookDb) : Prop where
  count : ∀ c ∈ db.conversations, (c.unreadCount : Int) + debt c.id = (inboundIds db c.id).length
  debtor : ∀ id, debt id ≠ 0 → ∃ c ∈ db.conversations, c.id = id

theorem counted_iff (db : WebhookDb) : Counted db ↔ CountedUpTo (fun _ => 0) db := by
  constructor
  · intro h
    refine ⟨fun c hc => ?_, fun _ hdebt => absurd rfl hdebt⟩
    rw [h c hc, add_zero]
  · intro h c hc
    have hcount := h.count c hc
    rw [add_zero] at hcount
    exact_mod_cast hcount

section Write

variable {w : InboundWrite} {rows : List InboundRow} {db : WebhookDb}

theorem Creates.length_inboundIds (h : Creates w db db') (conversationId : Uuid) :
    (inboundIds db' conversationId).length =
      (inboundIds db conversationId).length + w.created.countP (InboundMessage.inboundOf conversationId) := by
  rw [Webhooks.length_inboundIds, Webhooks.length_inboundIds, h.messages, List.countP_append, List.countP_map (l := w.created)]
  rfl

theorem CountedUpTo.updated (h : CountedUpTo debt db) (hmessages : db'.messages = db.messages)
    (hconversations : db'.conversations = updateWhere p f db.conversations) (hid : ∀ c, (f c).id = c.id)
    (hcount : ∀ c, (f c).unreadCount = c.unreadCount) : CountedUpTo debt db' := by
  have hids : ∀ id, inboundIds db' id = inboundIds db id := by
    intro id
    rw [inboundIds, hmessages, inboundIds]
  constructor
  · intro c hc
    rw [hconversations] at hc
    obtain ⟨c₀, hc₀, hcase⟩ := mem_updateWhere hc
    rw [hids]
    rcases hcase with ⟨_, rfl⟩ | ⟨_, rfl⟩
    · rw [hid, hcount]
      exact h.count c₀ hc₀
    · exact h.count c hc₀
  · intro id hdebt
    obtain ⟨c, hc, heq⟩ := h.debtor id hdebt
    rw [hconversations]
    refine ⟨_, mem_updateWhere_of_mem hc, ?_⟩
    split
    · rw [hid, heq]
    · exact heq

theorem CountedUpTo.same (h : CountedUpTo debt db) (hids : ∀ id, (inboundIds db' id).length = (inboundIds db id).length)
    (hconversations : db'.conversations = db.conversations) : CountedUpTo debt db' := by
  constructor
  · intro c hc
    rw [hconversations] at hc
    rw [hids]
    exact h.count c hc
  · intro id hdebt
    rw [hconversations]
    exact h.debtor id hdebt

theorem CountedUpTo.openConversation (hdb : Consistent db) (h : CountedUpTo debt db)
    {conversation : InboundConversation} (hempty : conversation.unreadCount = 0)
    (hfresh : ∀ c ∈ db.conversations, c.id ≠ conversation.id) :
    CountedUpTo debt { db with conversations := db.conversations ++ [conversation] } := by
  have hnone : inboundIds db conversation.id = [] := by
    rw [inboundIds, List.map_eq_nil_iff, List.filter_eq_nil_iff]
    intro m hm hin
    simp only [InboundMessage.inboundOf, decide_eq_true_eq] at hin
    obtain ⟨c, hc, _, hid⟩ := hdb.linked m hm
    exact hfresh c hc (hid.trans hin.1)
  have hdebt : debt conversation.id = 0 := by
    by_contra hdebt
    obtain ⟨c, hc, hid⟩ := h.debtor _ hdebt
    exact hfresh c hc hid
  constructor
  · intro c hc
    rcases mem_snoc.mp hc with hc | rfl
    · exact h.count c hc
    · rw [hempty, hdebt]
      simp only [inboundIds] at hnone ⊢
      simp [hnone]
  · intro id hdebt
    obtain ⟨c, hc, hid⟩ := h.debtor id hdebt
    exact ⟨c, List.mem_append_left _ hc, hid⟩

theorem CountedUpTo.createMessage (h : CountedUpTo debt db) {message : InboundMessage}
    (hlink : ∃ c ∈ db.conversations, c.id = message.conversationId)
    (hcreates : Creates (.createMessage message) db db') (hconversations : db'.conversations = db.conversations) :
    CountedUpTo (fun id => debt id + (InboundWrite.createMessage message).owes id) db' := by
  constructor
  · intro c hc
    rw [hconversations] at hc
    rw [hcreates.length_inboundIds]
    have hcount := h.count c hc
    simp only [InboundWrite.owes, InboundWrite.created, List.countP_singleton]
    split <;> push_cast <;> omega
  · intro id hdebt
    rw [hconversations]
    by_cases hbefore : debt id = 0
    · obtain ⟨c, hc, hid⟩ := hlink
      simp only [hbefore, InboundWrite.owes, InboundMessage.inboundOf, decide_eq_true_eq, zero_add, ne_eq,
        ite_eq_right_iff, one_ne_zero, imp_false, not_not] at hdebt
      exact ⟨c, hc, hid.trans hdebt.1⟩
    · exact h.debtor id hbefore

theorem CountedUpTo.countUnread (hdb : Consistent db) (h : CountedUpTo debt db)
    (hnamed : ∃ c ∈ db.conversations, c.named tenantId conversationId = true) :
    CountedUpTo (fun id => debt id + (InboundWrite.countUnread tenantId conversationId).owes id)
      { db with
        conversations := updateWhere (InboundConversation.named tenantId conversationId)
          InboundConversation.countUnread db.conversations } := by
  obtain ⟨c₀, hc₀, hname⟩ := hnamed
  have hid₀ : c₀.id = conversationId := by
    simp only [InboundConversation.named, decide_eq_true_eq] at hname
    exact hname.2
  constructor
  · intro c hc
    obtain ⟨c₁, hc₁, hcase⟩ := mem_updateWhere hc
    have hcount := h.count c₁ hc₁
    rcases hcase with ⟨hp, rfl⟩ | ⟨hp, rfl⟩
    · simp only [InboundConversation.named, decide_eq_true_eq] at hp
      simp only [InboundConversation.countUnread, InboundWrite.owes, hp.2, if_true] at hcount ⊢
      simp only [inboundIds] at hcount ⊢
      push_cast
      omega
    · -- the ids are unique, so a thread that is not counted has another id
      have hne : conversationId ≠ c.id := by
        intro heq
        have hsame : c = c₀ :=
          UniqueBy.eq_of_entry hdb.indexed.conversationId hc₁ hc₀ rfl (congrArg some (hid₀.trans heq))
        rw [hsame, hname] at hp
        cases hp
      simp only [InboundWrite.owes, if_neg hne, add_zero]
      exact hcount
  · intro id hdebt
    by_cases hbefore : debt id = 0
    · simp only [hbefore, InboundWrite.owes, zero_add, ne_eq, ite_eq_right_iff, not_forall] at hdebt
      obtain ⟨heq, _⟩ := hdebt
      refine ⟨_, mem_updateWhere_of_mem hc₀, ?_⟩
      rw [if_pos hname]
      exact hid₀.trans heq
    · obtain ⟨c, hc, hid⟩ := h.debtor id hbefore
      refine ⟨_, mem_updateWhere_of_mem hc, ?_⟩
      split
      · exact hid
      · exact hid

theorem CountedUpTo.apply (hdb : Consistent db) (h : CountedUpTo debt db) (hopens : w.opensEmpty) (hrows : rows ≠ [])
    (happly : w.apply db = .ok (rows, db')) : CountedUpTo (fun id => debt id + w.owes id) db' := by
  have hcreates := apply_created happly hrows
  have hsame : (∀ id, w.owes id = 0) → w.created = [] → db'.conversations = db.conversations →
      CountedUpTo (fun id => debt id + w.owes id) db' := by
    intro howes hcreated hconversations
    simp only [howes, add_zero]
    refine h.same (fun id => ?_) hconversations
    rw [hcreates.length_inboundIds, hcreated]
    rfl
  cases w with
  | upsertContact =>
    apply hsame (fun _ => rfl) rfl
    simp only [InboundWrite.apply] at happly
    split at happly
    · cases happly
      rfl
    · cases (ok_of_ite happly).2
      rfl
  | seeContact | advanceStatus =>
    cases happly
    exact hsame (fun _ => rfl) rfl rfl
  | openConversation =>
    simp only [InboundWrite.apply] at happly
    split at happly
    · cases happly
      exact absurd rfl hrows
    · obtain ⟨hfresh, happly⟩ := ok_of_ite happly
      cases happly
      simp only [Bool.not_eq_true, List.any_eq_false, decide_eq_true_eq] at hfresh
      simp only [InboundWrite.owes, add_zero]
      exact h.openConversation hdb hopens hfresh
  | createMessage message =>
    simp only [InboundWrite.apply] at happly
    split at happly
    · cases happly
      exact absurd rfl hrows
    · split at happly
      · rename_i hlink
        obtain ⟨c, hc, hnamed⟩ := List.any_eq_true.mp hlink
        simp only [InboundConversation.named, decide_eq_true_eq] at hnamed
        cases happly
        exact h.createMessage ⟨c, hc, hnamed.2⟩ hcreates rfl
      · cases happly
  | countUnread =>
    cases happly
    rw [ne_eq, List.map_eq_nil_iff, List.filter_eq_nil_iff] at hrows
    push Not at hrows
    exact h.countUnread hdb hrows
  | advanceConversation =>
    cases happly
    simp only [InboundWrite.owes, add_zero]
    exact h.updated rfl rfl (fun _ => rfl) fun _ => rfl

/-- The held writes of a transaction, when they owe nothing in the end. -/
structure Balanced (ws : List (InboundWrite × List InboundRow)) : Prop where
  owed : ∀ id, owed ws id = 0
  opens : ∀ e ∈ ws, e.1.opensEmpty

theorem applyAll_countedUpTo (hopens : ∀ e ∈ ws, e.1.opensEmpty)
    (hheld : ∀ e ∈ ws, e.2 ≠ []) (hdb : Consistent db) (h : CountedUpTo debt db)
    (happly : applyAll inboundWrites ws db = .ok db') : CountedUpTo (fun id => debt id + owed ws id) db' := by
  induction ws generalizing db debt with
  | nil =>
    cases happly
    simpa [owed] using h
  | cons e ws ih =>
    obtain ⟨w, rows⟩ := e
    obtain ⟨db₁, hw, hws⟩ := applyAll_cons_ok.mp happly
    have hrows := hheld _ List.mem_cons_self
    have h₁ := h.apply hdb (hopens _ List.mem_cons_self) hrows hw
    have hrest := ih (fun e he => hopens e (List.mem_cons_of_mem _ he))
      (fun e he => hheld e (List.mem_cons_of_mem _ he)) (apply_consistent hdb hw) h₁ hws
    simpa only [owed, List.map_cons, List.sum_cons, add_assoc] using hrest

theorem applyAll_counted (hws : Balanced ws) (hheld : ∀ e ∈ ws, e.2 ≠ []) (hdb : Consistent db) (h : Counted db)
    (happly : applyAll inboundWrites ws db = .ok db') : Counted db' := by
  rw [counted_iff] at h ⊢
  simpa only [hws.owed, add_zero] using applyAll_countedUpTo hws.opens hheld hdb h happly

end Write

end WhatsappCrm.Webhooks
