/-
Purpose: What the tables of ingestion never lose.
-/
import WhatsappCrm.Webhooks.Events

namespace WhatsappCrm.Webhooks

open Interleaving Table

/-- What names a message, and never changes. -/
def InboundMessage.identity (m : InboundMessage) : Uuid × Uuid × MessageDirection × Option String × Millis :=
  (m.tenantId, m.conversationId, m.direction, m.providerMessageId, m.sentAt)

def WebhookEvent.identity (e : WebhookEvent) : Uuid × WebhookPayload := (e.id, e.payload)

def InboundConversation.identity (c : InboundConversation) : Uuid × Uuid := (c.tenantId, c.id)

structure Later (db db' : WebhookDb) : Prop where
  accounts : db.accounts ⊆ db'.accounts
  events : db.events.map WebhookEvent.identity ⊆ db'.events.map WebhookEvent.identity
  conversations : db.conversations.map InboundConversation.identity ⊆ db'.conversations.map InboundConversation.identity
  messages : db.messages.map InboundMessage.identity ⊆ db'.messages.map InboundMessage.identity

theorem Later.refl (db : WebhookDb) : Later db db where
  accounts := List.Subset.refl _
  events := List.Subset.refl _
  conversations := List.Subset.refl _
  messages := List.Subset.refl _

theorem Later.trans (h₁ : Later db₁ db₂) (h₂ : Later db₂ db₃) : Later db₁ db₃ where
  accounts := List.Subset.trans h₁.accounts h₂.accounts
  events := List.Subset.trans h₁.events h₂.events
  conversations := List.Subset.trans h₁.conversations h₂.conversations
  messages := List.Subset.trans h₁.messages h₂.messages

structure Consistent (db : WebhookDb) : Prop where
  indexed : db.Indexed
  linked : db.Linked

def HoldsMessage (tenantId : Uuid) (providerMessageId : String) (db : WebhookDb) : Prop :=
  ∃ m ∈ db.messages, m.tenantId = tenantId ∧ m.providerMessageId = some providerMessageId

theorem HoldsMessage.later {db : WebhookDb} (hlater : Later db db')
    (h : HoldsMessage tenantId providerMessageId db) : HoldsMessage tenantId providerMessageId db' := by
  obtain ⟨m, hm, htenant, hid⟩ := h
  obtain ⟨m', hm', heq⟩ := List.mem_map.mp (hlater.messages (List.mem_map_of_mem hm))
  simp only [InboundMessage.identity, Prod.mk.injEq] at heq
  exact ⟨m', hm', heq.1.trans htenant, heq.2.2.2.1.trans hid⟩

def WebhookEvent.values (e : WebhookEvent) : List WhatsAppChangeValue :=
  match e.payload with
  | .inl _ => []
  | .inr changes => changes.filterMap fun change =>
    if change.field = messagesField then change.value.getRight? else none

def Delivered (db : WebhookDb) (message : WhatsAppInboundMessage) : Prop :=
  ∃ e ∈ db.events, ∃ value ∈ e.values, message ∈ value.messages

def Reported (db : WebhookDb) (update : WhatsAppMessageStatusUpdate) : Prop :=
  ∃ e ∈ db.events, ∃ value ∈ e.values, update ∈ value.statuses

theorem Later.exists_event {db : WebhookDb} (hlater : Later db db') (he : e ∈ db.events) :
    ∃ e' ∈ db'.events, e'.id = e.id ∧ e'.payload = e.payload := by
  obtain ⟨e', he', heq⟩ := List.mem_map.mp (hlater.events (List.mem_map_of_mem he))
  simp only [WebhookEvent.identity, Prod.mk.injEq] at heq
  exact ⟨e', he', heq⟩

theorem Later.exists_value {db : WebhookDb} (hlater : Later db db') {P : WhatsAppChangeValue → Prop}
    (h : ∃ e ∈ db.events, ∃ value ∈ e.values, P value) : ∃ e ∈ db'.events, ∃ value ∈ e.values, P value := by
  obtain ⟨e, he, value, hvalue, hP⟩ := h
  obtain ⟨e', he', _, hpayload⟩ := hlater.exists_event he
  refine ⟨e', he', value, ?_, hP⟩
  simpa only [WebhookEvent.values, hpayload] using hvalue

theorem Later.delivered {db : WebhookDb} (hlater : Later db db')
    (h : Delivered db message) : Delivered db' message := hlater.exists_value h

theorem Later.reported {db : WebhookDb} {update : WhatsAppMessageStatusUpdate} (hlater : Later db db')
    (h : Reported db update) : Reported db' update := hlater.exists_value h

theorem Later.exists_conversation {db : WebhookDb} (hlater : Later db db')
    (h : ∃ c ∈ db.conversations, c.named tenantId conversationId = true) :
    ∃ c ∈ db'.conversations, c.named tenantId conversationId = true := by
  obtain ⟨c, hc, hnamed⟩ := h
  obtain ⟨c', hc', heq⟩ := List.mem_map.mp (hlater.conversations (List.mem_map_of_mem hc))
  simp only [InboundConversation.identity, Prod.mk.injEq] at heq
  refine ⟨c', hc', ?_⟩
  simpa only [InboundConversation.named, heq] using hnamed

def InboundWrite.created : InboundWrite → List InboundMessage
  | .createMessage message => [message]
  | _ => []

def InboundWrite.opened : InboundWrite → List InboundConversation
  | .openConversation conversation => [conversation]
  | _ => []

section Apply

variable {w : InboundWrite} {rows : List InboundRow} {db : WebhookDb}

theorem updateWhere_of_filter_map_nil {ρ ι : Type} {p : ρ → Bool} {f : ρ → ρ} {g : ρ → ι} {rows : List ρ}
    (h : (rows.filter p).map g = []) : updateWhere p f rows = rows := by
  apply updateWhere_of_none
  intro r hr
  rw [List.map_eq_nil_iff, List.filter_eq_nil_iff] at h
  simpa using h r hr

theorem apply_nothing (h : w.apply db = .ok ([], db')) : db' = db := by
  cases w with
  | upsertContact =>
    simp only [InboundWrite.apply] at h
    split at h
    · cases h
    · split at h <;> cases h
  | openConversation | createMessage =>
    simp only [InboundWrite.apply] at h
    split at h
    · cases h
      rfl
    · split at h <;> cases h
  | _ =>
    simp only [InboundWrite.apply, Except.ok.injEq, Prod.mk.injEq] at h
    rw [← h.2, updateWhere_of_filter_map_nil h.1]

structure Creates (w : InboundWrite) (db db' : WebhookDb) : Prop where
  accounts : db'.accounts = db.accounts
  events : db'.events = db.events
  conversations : db'.conversations.map InboundConversation.identity =
    db.conversations.map InboundConversation.identity ++ w.opened.map InboundConversation.identity
  messages : db'.messages.map InboundMessage.identity =
    db.messages.map InboundMessage.identity ++ w.created.map InboundMessage.identity

theorem InboundMessage.identity_stamp (status : MessageStatus) (at_ : Millis) (m : InboundMessage) :
    (m.stamp status at_).identity = m.identity := by
  cases status <;> rfl

theorem apply_created (h : w.apply db = .ok (rows, db')) (hrows : rows ≠ []) : Creates w db db' := by
  cases w with
  | upsertContact =>
    simp only [InboundWrite.apply] at h
    split at h
    · cases h
      constructor <;> simp [InboundWrite.opened, InboundWrite.created]
    · cases (ok_of_ite h).2
      constructor <;> simp [InboundWrite.opened, InboundWrite.created]
  | seeContact =>
    cases h
    constructor <;> simp [InboundWrite.opened, InboundWrite.created]
  | openConversation =>
    simp only [InboundWrite.apply] at h
    split at h
    · cases h
      exact absurd rfl hrows
    · cases (ok_of_ite h).2
      constructor <;> simp [InboundWrite.opened, InboundWrite.created]
  | createMessage =>
    simp only [InboundWrite.apply] at h
    split at h
    · cases h
      exact absurd rfl hrows
    · split at h
      · cases h
        constructor <;> simp [InboundWrite.opened, InboundWrite.created]
      · cases h
  | countUnread =>
    cases h
    have hkey : ∀ c : InboundConversation, c.countUnread.identity = c.identity := fun _ => rfl
    constructor <;> simp [InboundWrite.opened, InboundWrite.created, map_updateWhere hkey]
  | advanceConversation tenantId conversationId sentAt =>
    cases h
    have hkey : ∀ c : InboundConversation, (c.advance sentAt).identity = c.identity := fun _ => rfl
    constructor <;> simp [InboundWrite.opened, InboundWrite.created, map_updateWhere hkey]
  | advanceStatus tenantId providerMessageId status at_ =>
    cases h
    constructor <;> simp [InboundWrite.opened, InboundWrite.created,
      map_updateWhere (InboundMessage.identity_stamp status at_)]

theorem Creates.later (h : Creates w db db') : Later db db' where
  accounts := by
    rw [h.accounts]
    exact List.Subset.refl _
  events := by
    rw [h.events]
    exact List.Subset.refl _
  conversations := by
    rw [h.conversations]
    exact List.subset_append_left _ _
  messages := by
    rw [h.messages]
    exact List.subset_append_left _ _

theorem apply_indexed (hdb : db.Indexed) (h : w.apply db = .ok (rows, db')) : db'.Indexed := by
  cases w with
  | upsertContact id tenantId phoneE164 displayName seenAt =>
    simp only [InboundWrite.apply] at h
    split at h
    · cases h
      exact { hdb with
        contactId := hdb.contactId.updateWhere fun _ _ _ => .inr rfl
        contact := hdb.contact.updateWhere fun _ _ _ => .inr rfl }
    · rename_i hnone
      obtain ⟨hfresh, h⟩ := ok_of_ite h
      cases h
      simp only [WebhookDb.findContact, List.find?_eq_none, decide_eq_true_eq, not_and] at hnone
      simp only [Bool.not_eq_true, List.any_eq_false, decide_eq_true_eq] at hfresh
      refine { hdb with contactId := hdb.contactId.concat ?_, contact := hdb.contact.concat ?_ }
      · intro c hc hclash
        exact hfresh c hc (Option.some.inj hclash.2)
      · intro c hc hclash
        have hkey := Option.some.inj hclash.2
        simp only [Prod.mk.injEq] at hkey
        exact hnone c hc hkey.1 hkey.2
  | seeContact =>
    cases h
    exact { hdb with
      contactId := hdb.contactId.updateWhere fun _ _ _ => .inr rfl
      contact := hdb.contact.updateWhere fun _ _ _ => .inr rfl }
  | openConversation conversation =>
    simp only [InboundWrite.apply] at h
    split at h
    · cases h
      exact hdb
    · rename_i hthread
      obtain ⟨hfresh, h⟩ := ok_of_ite h
      cases h
      simp only [Bool.not_eq_true, List.any_eq_false, decide_eq_true_eq] at hthread hfresh
      refine { hdb with conversationId := hdb.conversationId.concat ?_, conversation := hdb.conversation.concat ?_ }
      · exact fun c hc hclash => hfresh c hc (Option.some.inj hclash.2)
      · exact fun c hc hclash => hthread c hc hclash.symm
  | createMessage message =>
    simp only [InboundWrite.apply] at h
    split at h
    · cases h
      exact hdb
    · rename_i hfirst
      split at h
      · cases h
        simp only [Bool.not_eq_true, List.any_eq_false, decide_eq_true_eq] at hfirst
        exact { hdb with message := hdb.message.concat fun m hm hclash => hfirst m hm hclash.symm }
      · cases h
  | countUnread | advanceConversation =>
    cases h
    exact { hdb with
      conversationId := hdb.conversationId.updateWhere fun _ _ _ => .inr rfl
      conversation := hdb.conversation.updateWhere fun _ _ _ => .inr rfl }
  | advanceStatus tenantId providerMessageId status =>
    cases h
    refine { hdb with message := hdb.message.updateWhere fun m _ _ => .inr ?_ }
    cases status <;> rfl

theorem linked_iff (db : WebhookDb) : db.Linked ↔ ∀ m ∈ db.messages.map InboundMessage.identity,
    (m.1, m.2.1) ∈ db.conversations.map InboundConversation.identity := by
  simp only [WebhookDb.Linked, List.mem_map, InboundConversation.identity, Prod.mk.injEq, forall_exists_index,
    and_imp, forall_apply_eq_imp_iff₂, InboundMessage.identity]

theorem apply_linked (hdb : db.Linked) (h : w.apply db = .ok (rows, db')) : db'.Linked := by
  by_cases hrows : rows = []
  · rw [hrows] at h
    rwa [apply_nothing h]
  · have hcreates := apply_created h hrows
    rw [linked_iff] at hdb ⊢
    rw [hcreates.messages, hcreates.conversations]
    intro m hm
    apply List.mem_append_left
    rcases List.mem_append.mp hm with hm | hm
    · exact hdb m hm
    · cases w with
      | createMessage message =>
        simp only [InboundWrite.apply] at h
        split at h
        · cases h
          exact absurd rfl hrows
        · split at h
          · rename_i hlink
            obtain ⟨c, hc, hnamed⟩ := List.any_eq_true.mp hlink
            simp only [InboundConversation.named, decide_eq_true_eq] at hnamed
            rw [List.mem_singleton.mp hm]
            exact List.mem_map.mpr ⟨c, hc, by simp only [InboundConversation.identity, InboundMessage.identity, hnamed]⟩
          · cases h
      | _ => cases hm

theorem apply_consistent (hdb : Consistent db) (h : w.apply db = .ok (rows, db')) : Consistent db' where
  indexed := apply_indexed hdb.indexed h
  linked := apply_linked hdb.linked h

theorem apply_later (h : w.apply db = .ok (rows, db')) : Later db db' := by
  by_cases hrows : rows = []
  · rw [hrows] at h
    rw [apply_nothing h]
    exact Later.refl db
  · exact (apply_created h hrows).later

theorem applyAll_messages (hheld : ∀ e ∈ ws, e.2 ≠ [])
    (happly : applyAll inboundWrites ws db = .ok db') : db'.messages.map InboundMessage.identity =
      db.messages.map InboundMessage.identity ++ (ws.flatMap fun e => e.1.created).map InboundMessage.identity := by
  induction ws generalizing db with
  | nil =>
    cases happly
    simp
  | cons e ws ih =>
    obtain ⟨w, rows⟩ := e
    obtain ⟨db₁, hw, hws⟩ := applyAll_cons_ok.mp happly
    have hrest := ih (fun e he => hheld e (List.mem_cons_of_mem _ he)) hws
    have hfirst := (apply_created hw (hheld _ List.mem_cons_self)).messages
    rw [hrest, hfirst, List.flatMap_cons, List.map_append, List.append_assoc]

end Apply

end WhatsappCrm.Webhooks
