/-
Purpose: Ingestion loses and duplicates nothing.
-/
import WhatsappCrm.Webhooks.Unread

namespace WhatsappCrm.Webhooks

open Interleaving Table

/-- Where a row of `messages` comes from: a delivered message, or the receipt of a message we sent. -/
inductive FromEvent (db : WebhookDb) (m : InboundMessage) : Prop where
  | message (message : WhatsAppInboundMessage) (h : Delivered db message) (hdirection : m.direction = .inbound)
      (hid : m.providerMessageId = some message.id) (hsentAt : m.sentAt = message.timestamp)
  | receipt (update : WhatsAppMessageStatusUpdate) (h : Reported db update) (hdirection : m.direction = .outbound)
      (hid : m.providerMessageId = some update.id)

theorem FromEvent.later {db db' : WebhookDb} (hlater : Later db db') {m m' : InboundMessage}
    (hidentity : m'.identity = m.identity) (h : FromEvent db m) : FromEvent db' m' := by
  simp only [InboundMessage.identity, Prod.mk.injEq] at hidentity
  obtain ⟨_, _, hdirection', hid', hsentAt'⟩ := hidentity
  cases h with
  | message message h hdirection hid hsentAt =>
    exact .message message (hlater.delivered h) (hdirection'.trans hdirection) (hid'.trans hid) (hsentAt'.trans hsentAt)
  | receipt update h hdirection hid =>
    exact .receipt update (hlater.reported h) (hdirection'.trans hdirection) (hid'.trans hid)

def ChangeStored (db : WebhookDb) (change : WhatsAppChange) : Prop :=
  change.field = messagesField → ∃ value, change.value = .inr value ∧
    ∃ a ∈ db.accounts, a.phoneNumberId = value.phoneNumberId ∧
      ∀ m ∈ value.messages, HoldsMessage a.tenantId m.id db

def EventStored (db : WebhookDb) (e : WebhookEvent) : Prop :=
  ∃ changes, e.payload = .inr changes ∧ ∀ change ∈ changes, ChangeStored db change

theorem ChangeStored.later {db db' : WebhookDb} (hlater : Later db db') {change : WhatsAppChange}
    (h : ChangeStored db change) : ChangeStored db' change := by
  intro hfield
  obtain ⟨value, hvalue, a, ha, hphone, hmessages⟩ := h hfield
  exact ⟨value, hvalue, a, hlater.accounts ha, hphone, fun m hm => (hmessages m hm).later hlater⟩

theorem EventStored.later {db db' : WebhookDb} (hlater : Later db db') {e e' : WebhookEvent}
    (hpayload : e'.payload = e.payload) (h : EventStored db e) : EventStored db' e' := by
  obtain ⟨changes, hchanges, hstored⟩ := h
  exact ⟨changes, hpayload.trans hchanges, fun change hchange => (hstored change hchange).later hlater⟩

structure Ingested (start db : WebhookDb) : Prop where
  counted : Counted db
  processed : ∀ e ∈ db.events, e.status = .processed → EventStored db e
  sourced : ∀ m ∈ db.messages, m.identity ∈ start.messages.map InboundMessage.identity ∨ FromEvent db m

def ingesting (start : WebhookDb) : Rely WebhookStmt WebhookDb where
  inv := Consistent
  later := Later
  cond _ _ := True
  effect _ db db' := Consistent db' ∧ Later db db' ∧ (Ingested start db → Ingested start db')

theorem ingesting_sound (start : WebhookDb) : (ingesting start).Sound where
  refl := Later.refl
  trans := Later.trans
  keeps _ _ h := ⟨h.1, h.2.1⟩

theorem inboundWrites_sound (start : WebhookDb) : inboundWrites.Sound (ingesting start) where
  nothing := apply_nothing
  keeps hdb happly := ⟨apply_consistent hdb happly, apply_later happly⟩
  mono {w db₁ db₂ rows db₁' db₂'} _ _ hlater hrows h₁ h₂ := by
    have hcreates₁ := apply_created h₁ hrows
    have hcreates₂ := apply_created h₂ hrows
    constructor
    · rw [hcreates₁.accounts, hcreates₂.accounts]
      exact hlater.accounts
    · rw [hcreates₁.events, hcreates₂.events]
      exact hlater.events
    · rw [hcreates₁.conversations, hcreates₂.conversations]
      exact List.append_subset.mpr ⟨List.subset_append_of_subset_left _ hlater.conversations, List.subset_append_right _ _⟩
    · rw [hcreates₁.messages, hcreates₂.messages]
      exact List.append_subset.mpr ⟨List.subset_append_of_subset_left _ hlater.messages, List.subset_append_right _ _⟩

variable {α : Type} {update : WhatsAppMessageStatusUpdate}

section Statements

variable {start db db' : WebhookDb}

structure SameRows (db db' : WebhookDb) : Prop where
  accounts : db'.accounts = db.accounts
  contacts : db'.contacts = db.contacts
  conversations : db'.conversations = db.conversations
  messages : db'.messages = db.messages

theorem SameRows.refl (db : WebhookDb) : SameRows db db := ⟨rfl, rfl, rfl, rfl⟩

theorem SameRows.consistent (h : SameRows db db') (hdb : Consistent db)
    (hid : UniqueBy WebhookEvent.idEntry db'.events) (hevent : UniqueBy WebhookEvent.providerEntry db'.events) :
    Consistent db' where
  indexed := {
    eventId := hid
    event := hevent
    account := h.accounts ▸ hdb.indexed.account
    contactId := h.contacts ▸ hdb.indexed.contactId
    contact := h.contacts ▸ hdb.indexed.contact
    conversationId := h.conversations ▸ hdb.indexed.conversationId
    conversation := h.conversations ▸ hdb.indexed.conversation
    message := h.messages ▸ hdb.indexed.message }
  linked := by
    rw [WebhookDb.Linked, h.messages, h.conversations]
    exact hdb.linked

theorem SameRows.later (h : SameRows db db')
    (hevents : db.events.map WebhookEvent.identity ⊆ db'.events.map WebhookEvent.identity) : Later db db' where
  accounts := by
    rw [h.accounts]
    exact List.Subset.refl _
  events := hevents
  conversations := by
    rw [h.conversations]
    exact List.Subset.refl _
  messages := by
    rw [h.messages]
    exact List.Subset.refl _

theorem SameRows.ingested (h : SameRows db db') (hlater : Later db db')
    (hprocessed : ∀ e ∈ db'.events, e.status = .processed → EventStored db' e) (hdb : Ingested start db) :
    Ingested start db' where
  counted := by
    intro c hc
    rw [h.conversations] at hc
    rw [inboundIds, h.messages]
    exact hdb.counted c hc
  processed := hprocessed
  sourced := by
    intro m hm
    rw [h.messages] at hm
    exact (hdb.sourced m hm).imp_right (.later hlater rfl)

theorem effect_same (tag : WebhookStmt) (hdb : Consistent db) (h : SameRows db db') (hevents : db'.events = db.events) :
    (ingesting start).effect tag db db' := by
  have hlater : Later db db' := h.later (by rw [hevents]; exact List.Subset.refl _)
  refine ⟨h.consistent hdb ?_ ?_, hlater, fun hk => h.ingested hlater (fun e he hstatus => ?_) hk⟩
  · rw [hevents]
    exact hdb.indexed.eventId
  · rw [hevents]
    exact hdb.indexed.event
  · rw [hevents] at he
    exact (hk.processed e he hstatus).later hlater rfl

theorem effect_update (tag : WebhookStmt) (hdb : Consistent db) (h : SameRows db db')
    (hevents : db'.events = updateWhere p f db.events)
    (hidentity : ∀ e, (f e).identity = e.identity) (hprovider : ∀ e, (f e).providerEntry = e.providerEntry)
    (hmark : ∀ e ∈ db.events, p e = true → (f e).status = .processed → e.status = .processed ∨ EventStored db e) :
    (ingesting start).effect tag db db' := by
  have hid : ∀ e, (f e).id = e.id := fun e => congrArg Prod.fst (hidentity e)
  have hpayload : ∀ e, (f e).payload = e.payload := fun e => congrArg Prod.snd (hidentity e)
  have hlater : Later db db' := by
    apply h.later
    rw [hevents, map_updateWhere hidentity]
    exact List.Subset.refl _
  refine ⟨h.consistent hdb ?_ ?_, hlater, fun hk => h.ingested hlater (fun e he hstatus => ?_) hk⟩
  · rw [hevents]
    exact hdb.indexed.eventId.updateWhere fun e _ _ => .inr (congrArg some (hid e))
  · rw [hevents]
    exact hdb.indexed.event.updateWhere fun e _ _ => .inr (hprovider e)
  · rw [hevents] at he
    obtain ⟨e₀, he₀, hcase⟩ := mem_updateWhere he
    rcases hcase with ⟨hp, rfl⟩ | ⟨_, rfl⟩
    · have hstored : EventStored db e₀ := (hmark e₀ he₀ hp hstatus).elim (hk.processed e₀ he₀) id
      exact hstored.later hlater (hpayload e₀)
    · exact (hk.processed e he₀ hstatus).later hlater rfl

theorem updateEvent_ensures {id : Uuid} {s₀ : WebhookDb} (hidentity : ∀ now e, (f now e).identity = e.identity)
    (hprovider : ∀ now e, (f now e).providerEntry = e.providerEntry)
    (hmark : ∀ s, Later s₀ s → Consistent s → ∀ e ∈ s.events, e.id = id → (f s.now e).status = .processed →
      e.status = .processed ∨ EventStored s e) :
    Prog.Ensures (ingesting start) (fun _ _ => True) s₀ (updateEvent tag id f) := by
  apply Prog.Ensures.stmt
  intro s hs hinv _
  refine ⟨?_, trivial⟩
  split
  · refine effect_update tag hinv ⟨rfl, rfl, rfl, rfl⟩ rfl (hidentity s.now) (hprovider s.now) fun e he hp => ?_
    exact hmark s hs hinv e he (of_decide_eq_true hp)
  · exact effect_same tag hinv (SameRows.refl s) rfl

theorem ensures_same {act : WebhookDb → α × WebhookDb} {s₀ : WebhookDb}
    (h : ∀ s, SameRows s (act s).2 ∧ (act s).2.events = s.events) :
    Prog.Ensures (ingesting start) (fun _ _ => True) s₀ (.stmt tag act) :=
  Prog.Ensures.stmt fun s _ hinv _ => ⟨effect_same tag hinv (h s).1 (h s).2, trivial⟩

theorem drawUuid_ensures (s₀ : WebhookDb) : Prog.Ensures (ingesting start) (fun _ _ => True) s₀ drawUuid :=
  ensures_same fun _ => ⟨⟨rfl, rfl, rfl, rfl⟩, rfl⟩

theorem drawDelivery_ensures (s₀ : WebhookDb) : Prog.Ensures (ingesting start) (fun _ _ => True) s₀ drawDelivery :=
  ensures_same fun _ => ⟨⟨rfl, rfl, rfl, rfl⟩, rfl⟩

theorem attempt_ensures {work : WebhookProg (Except WebhookError α)} {s₀ : WebhookDb} (herror : ∀ e s, Q (.error e) s)
    (h : ∀ s, Later s₀ s → Prog.Ensures (ingesting start) Q s work) :
    Prog.Ensures (ingesting start) Q s₀ (attempt work) := by
  have hL := ingesting_sound start
  apply Prog.Ensures.bind hL (drawDelivery_ensures s₀)
  intro delivery s hs _
  cases delivery with
  | answered => exact h s hs
  | refused => exact herror _ s
  | lost => exact (h s hs).bind hL fun _ s' _ _ => herror _ s'

end Statements

section Transactions

variable {start : WebhookDb}

structure Neutral (ws : List (InboundWrite × List InboundRow)) (v : WebhookDb) : Prop where
  balanced : Balanced ws
  sourced : ∀ e ∈ ws, ∀ m ∈ e.1.created, FromEvent v m

theorem Neutral.nil (v : WebhookDb) : Neutral [] v where
  balanced := ⟨fun _ => rfl, by simp⟩
  sourced := by simp

variable {v : WebhookDb} {rows : List InboundRow} {message : InboundMessage}

theorem Neutral.later {ws : List (InboundWrite × List InboundRow)} (hlater : Later v v')
    (h : Neutral ws v) : Neutral ws v' where
  balanced := h.balanced
  sourced e he m hm := (h.sourced e he m hm).later hlater rfl

theorem owed_snoc (ws : List (InboundWrite × List InboundRow)) (e : InboundWrite × List InboundRow) (id : Uuid) :
    owed (ws ++ [e]) id = owed ws id + e.1.owes id := by
  simp [owed]

theorem Neutral.write {ws : List (InboundWrite × List InboundRow)} {w : InboundWrite}
    (h : Neutral ws v) (happly : w.apply v = .ok (rows, v')) (howes : ∀ id, w.owes id = 0)
    (hopens : w.opensEmpty) (hcreated : w.created = []) :
    Neutral (if rows = [] then ws else ws ++ [(w, rows)]) v' := by
  have hlater := apply_later happly
  split
  · exact h.later hlater
  · constructor
    · constructor
      · intro id
        rw [owed_snoc, h.balanced.owed, howes, add_zero]
      · intro e he
        rcases mem_snoc.mp he with he | rfl
        · exact h.balanced.opens e he
        · exact hopens
    · intro e he m hm
      rcases mem_snoc.mp he with he | rfl
      · exact (h.sourced e he m hm).later hlater rfl
      · rw [hcreated] at hm
        cases hm

theorem commit_effect {ws : List (InboundWrite × List InboundRow)} (hws : Neutral ws v)
    (hheld : ∀ e ∈ ws, e.2 ≠ []) (hinv : Consistent s) (happly : applyAll inboundWrites ws s = .ok s')
    (hlater : Later v s') : (ingesting start).effect .commit s s' := by
  obtain ⟨hinv', hlater'⟩ := Tx.applyAll_later (ingesting_sound start) (inboundWrites_sound start) hinv happly
  refine ⟨hinv', hlater', fun hk => ⟨?_, ?_, ?_⟩⟩
  · exact applyAll_counted hws.balanced hheld hinv hk.counted happly
  · intro e he hstatus
    rw [(applyAll_events happly).1.1] at he
    exact (hk.processed e he hstatus).later hlater' rfl
  · intro m hm
    have hmem : m.identity ∈ s'.messages.map InboundMessage.identity := List.mem_map_of_mem hm
    rw [applyAll_messages hheld happly] at hmem
    rcases List.mem_append.mp hmem with hold | hnew
    · obtain ⟨m₀, hm₀, hidentity⟩ := List.mem_map.mp hold
      rcases hk.sourced m₀ hm₀ with hstart | hfrom
      · exact .inl (hidentity ▸ hstart)
      · exact .inr (hfrom.later hlater' hidentity.symm)
    · obtain ⟨m₀, hm₀, hidentity⟩ := List.mem_map.mp hnew
      obtain ⟨e, he, hcreated⟩ := List.mem_flatMap.mp hm₀
      exact .inr ((hws.sourced e he m₀ hcreated).later hlater hidentity.symm)

abbrev WriterTracks {α : Type} (start : WebhookDb) (P : α → WebhookDb → Prop)
    (ws : List (InboundWrite × List InboundRow)) (v₀ : WebhookDb) (p : WriterTx α) : Prop :=
  p.Tracks inboundWrites (ingesting start) (fun a ws v => Neutral ws v ∧ Later v₀ v ∧ P a v) ws v₀

variable {ws : List (InboundWrite × List InboundRow)} {v₀ : WebhookDb}

theorem orThrow_tracks (hws : Neutral ws v₀) (a : Option α) : WriterTracks start (fun _ _ => True) ws v₀ (orThrow a) := by
  cases a with
  | none => trivial
  | some => exact ⟨hws, Later.refl v₀, trivial⟩

theorem execute_tracks (hws : Neutral ws v₀) {w : InboundWrite} (howes : ∀ id, w.owes id = 0)
    (hopens : w.opensEmpty) (hcreated : w.created = []) :
    WriterTracks start (fun _ _ => True) ws v₀ (.execute () w) := by
  intro v rows v' hv _ happly
  exact ⟨(hws.later hv).write happly howes hopens hcreated, hv.trans (apply_later happly), trivial⟩

theorem query_tracks (hws : Neutral ws v₀) (f : WebhookDb → α) :
    WriterTracks start (fun _ _ => True) ws v₀ (.query () f) :=
  fun _ hv _ => ⟨hws.later hv, hv, trivial⟩

theorem WriterTracks.bind {β : Type} {R : β → WebhookDb → Prop}
    {f : α → WriterTx β} (h : WriterTracks start P ws v₀ p)
    (hf : ∀ a ws' v, Neutral ws' v → Later v₀ v → P a v → WriterTracks start R ws' v (f a)) :
    WriterTracks start R ws v₀ (p.bind f) := by
  apply Tx.Tracks.bind h
  intro a ws' v ⟨hws', hv, hP⟩
  exact (hf a ws' v hws' hv hP).mono fun b ws'' v' ⟨hws'', hv', hR⟩ => ⟨hws'', hv.trans hv', hR⟩

theorem upsertContact_tracks (hws : Neutral ws v₀) (id tenantId : Uuid) (phoneE164 : String)
    (displayName : Option String) (seenAt : Millis) :
    WriterTracks start (fun _ _ => True) ws v₀ (upsertContact id tenantId phoneE164 displayName seenAt) := by
  apply WriterTracks.bind (P := fun _ _ => True)
  · exact execute_tracks hws (fun _ => rfl) trivial rfl
  intro rows ws₁ v₁ hws₁ _ _
  apply WriterTracks.bind (orThrow_tracks hws₁ _)
  intro contactId ws₂ v₂ hws₂ _ _
  apply WriterTracks.bind (P := fun _ _ => True)
  · exact execute_tracks hws₂ (fun _ => rfl) trivial rfl
  intro _ ws₃ v₃ hws₃ _ _
  exact ⟨hws₃, Later.refl v₃, trivial⟩

theorem upsertConversation_tracks (hws : Neutral ws v₀) (id : Uuid) (account : RoutedWhatsAppAccount)
    (contactId : Uuid) (lastMessageAt : Millis) (serviceWindowExpiresAt : Option Millis) :
    WriterTracks start (fun _ _ => True) ws v₀
      (upsertConversation id account contactId lastMessageAt serviceWindowExpiresAt) := by
  apply WriterTracks.bind (P := fun _ _ => True)
  · exact execute_tracks hws (fun _ => rfl) rfl rfl
  intro inserted ws₁ v₁ hws₁ _ _
  split
  · exact ⟨hws₁, Later.refl v₁, trivial⟩
  · apply WriterTracks.bind (query_tracks hws₁ _)
    intro existing ws₂ v₂ hws₂ _ _
    apply WriterTracks.bind (orThrow_tracks hws₂ _)
    intro conversation ws₃ v₃ hws₃ _ _
    exact ⟨hws₃, Later.refl v₃, trivial⟩

theorem createMessage_conflict {providerMessageId : String} (hid : message.providerMessageId = some providerMessageId)
    (happly : (InboundWrite.createMessage message).apply v = .ok ([], v')) :
    HoldsMessage message.tenantId providerMessageId v := by
  simp only [InboundWrite.apply] at happly
  split at happly
  · rename_i hclash
    obtain ⟨m, hm, hentry⟩ := List.any_eq_true.mp hclash
    have heq := (of_decide_eq_true hentry).2
    simp only [InboundMessage.providerEntry, hid, Option.map_some] at heq
    obtain ⟨mid, hmid, hpair⟩ := Option.map_eq_some_iff.mp heq.symm
    simp only [Prod.mk.injEq] at hpair
    exact ⟨m, hm, hpair.1, hpair.2 ▸ hmid⟩
  · split at happly <;> cases happly

theorem createMessage_stored (hrows : rows ≠ []) (happly : (InboundWrite.createMessage message).apply v = .ok (rows, v')) :
    message ∈ v'.messages ∧ ∃ c ∈ v'.conversations, c.named message.tenantId message.conversationId = true := by
  simp only [InboundWrite.apply] at happly
  split at happly
  · cases happly
    exact absurd rfl hrows
  · split at happly
    · rename_i hlink
      cases happly
      exact ⟨List.mem_concat_self, List.any_eq_true.mp hlink⟩
    · cases happly

theorem Neutral.store (hws : Neutral ws v₀) (rows rows' : List InboundRow)
    (hdirection : message.direction = .inbound) (hfrom : FromEvent v message)
    (hlater : Later v₀ v) (hlater' : Later v v') : Neutral (ws ++ [(.createMessage message, rows)] ++
      [(.countUnread message.tenantId message.conversationId, rows')]) v' := by
  constructor
  · constructor
    · intro id
      rw [owed_snoc, owed_snoc, hws.balanced.owed]
      simp only [InboundWrite.owes, InboundMessage.inboundOf, hdirection, and_true, decide_eq_true_eq]
      split <;> rfl
    · intro e he
      simp only [List.mem_append, List.mem_singleton] at he
      rcases he with (he | rfl) | rfl
      · exact hws.balanced.opens e he
      · trivial
      · trivial
  · intro e he m hm
    simp only [List.mem_append, List.mem_singleton] at he
    rcases he with (he | rfl) | rfl
    · exact (hws.sourced e he m hm).later (hlater.trans hlater') rfl
    · rw [List.mem_singleton.mp hm]
      exact hfrom.later hlater' rfl
    · cases hm

theorem advanceConversation_tracks (rows : List InboundRow) {v₁ : WebhookDb}
    (hws : Neutral ws v) (hdirection : message.direction = .inbound) (hfrom : FromEvent v₁ message)
    (hlater : Later v v₁) (hthread : ∃ c ∈ v₁.conversations, c.named message.tenantId message.conversationId = true)
    (sentAt : Millis) : WriterTracks start (fun _ _ => True) (ws ++ [(.createMessage message, rows)]) v₁
      (advanceConversation message.tenantId message.conversationId sentAt) := by
  intro v₂ rows' v₂' hv₂ _ happly
  -- the thread is there, so the increment finds it
  have hrows' : rows' ≠ [] := by
    obtain ⟨c, hc, hnamed⟩ := hv₂.exists_conversation hthread
    cases happly
    exact List.ne_nil_of_mem (List.mem_map_of_mem (List.mem_filter.mpr ⟨hc, hnamed⟩))
  simp only [if_neg hrows', Tx.bind_pure_left, Tx.bind_def]
  have hv₂' := hv₂.trans (apply_later (w := .countUnread _ _) happly)
  have hneutral := hws.store rows rows' hdirection hfrom hlater hv₂'
  have hadvance : WriterTracks start (fun _ _ => True) _ v₂'
      (.execute () (.advanceConversation message.tenantId message.conversationId sentAt)) :=
    execute_tracks hneutral (fun _ => rfl) trivial rfl
  refine Tx.Tracks.bind hadvance fun _ ws₃ v₃ h₃ => ?_
  exact ⟨h₃.1, hv₂'.trans h₃.2.1, trivial⟩

theorem inboundTransaction_tracks (ids : GeneratedIds) (account : RoutedWhatsAppAccount)
    {message : WhatsAppInboundMessage} (phoneE164 : String) (displayName : Option String)
    (hdelivered : Delivered v₀ message) : WriterTracks start (fun _ => HoldsMessage account.tenantId message.id) []
      v₀ (inboundTransaction ids account message phoneE164 displayName) := by
  apply WriterTracks.bind (query_tracks (Neutral.nil v₀) _)
  intro serviceable ws₀ v hws₀ hv _
  cases serviceable with
  | false => trivial
  | true =>
    apply WriterTracks.bind (upsertContact_tracks hws₀ _ _ _ _ _)
    intro contactId ws₁ v₁ hws₁ hv₁ _
    apply WriterTracks.bind (upsertConversation_tracks hws₁ _ _ _ _ _)
    intro conversationId ws₂ v₂ hws₂ hv₂ _ v₃ rows v₃' hv₃ _ happly
    have hlater := apply_later (w := .createMessage _) happly
    by_cases hrows : rows = []
    · subst hrows
      have hheld : HoldsMessage account.tenantId message.id v₃ := createMessage_conflict rfl happly
      have hneutral := (hws₂.later hv₃).later hlater
      apply Tx.Tracks.bind (query_tracks hneutral _)
      intro found ws₄ v₄ h₄
      exact ⟨h₄.1, hv₃.trans (hlater.trans h₄.2.1), (hheld.later hlater).later h₄.2.1⟩
    · obtain ⟨hmem, hthread⟩ := createMessage_stored hrows happly
      have hall := hv.trans (hv₁.trans (hv₂.trans (hv₃.trans hlater)))
      have hfrom : FromEvent v₃' (message.row account.tenantId conversationId) :=
        .message message (hall.delivered hdelivered) rfl rfl rfl
      have hheld : HoldsMessage account.tenantId message.id v₃' := ⟨_, hmem, rfl, rfl⟩
      simp only [if_neg hrows, Tx.bind_pure_left, Tx.bind_def]
      have hadvance : WriterTracks start (fun _ _ => True)
          (ws₂ ++ [(.createMessage (message.row account.tenantId conversationId), rows)]) v₃'
          (advanceConversation account.tenantId conversationId message.timestamp) :=
        advanceConversation_tracks rows hws₂ rfl hfrom (hv₃.trans hlater) hthread message.timestamp
      apply Tx.Tracks.bind hadvance
      intro _ ws₄ v₄ h₄
      exact ⟨h₄.1, (hv₃.trans hlater).trans h₄.2.1, hheld.later h₄.2.1⟩

theorem Neutral.placeholder (hws : Neutral ws v₀) (hdirection : message.direction = .outbound) (hfrom : FromEvent v message)
    (hlater : Later v₀ v) : Neutral (if rows = [] then ws else ws ++ [(.createMessage message, rows)]) v := by
  split
  · exact hws.later hlater
  · constructor
    · constructor
      · intro id
        rw [owed_snoc, hws.balanced.owed]
        simp [InboundWrite.owes, InboundMessage.inboundOf, hdirection]
      · intro e he
        rcases mem_snoc.mp he with he | rfl
        · exact hws.balanced.opens e he
        · trivial
    · intro e he m hm
      rcases mem_snoc.mp he with he | rfl
      · exact (hws.sourced e he m hm).later hlater rfl
      · rw [List.mem_singleton.mp hm]
        exact hfrom

theorem WhatsAppMessageStatusUpdate.identity_row (tenantId conversationId : Uuid) (status : MessageStatus)
    (update : WhatsAppMessageStatusUpdate) : (update.row tenantId conversationId status).identity =
      (tenantId, conversationId, .outbound, some update.id, update.timestamp) :=
  InboundMessage.identity_stamp status update.timestamp _

theorem createStatusPlaceholder_tracks (hws : Neutral ws v₀) (ids : GeneratedIds) (account : RoutedWhatsAppAccount)
    (status : MessageStatus) (phoneE164 : String)
    (hreported : Reported v₀ update) : WriterTracks start (fun _ _ => True) ws v₀
      (createStatusPlaceholder ids account update status phoneE164) := by
  apply WriterTracks.bind (upsertContact_tracks hws _ _ _ _ _)
  intro contactId ws₁ v₁ hws₁ hv₁ _
  apply WriterTracks.bind (upsertConversation_tracks hws₁ _ _ _ _ _)
  intro conversationId ws₂ v₂ hws₂ hv₂ _ v₃ rows v₃' hv₃ _ happly
  have hlater := hv₃.trans (apply_later (w := .createMessage _) happly)
  have hidentity := update.identity_row account.tenantId conversationId status
  simp only [InboundMessage.identity, Prod.mk.injEq] at hidentity
  have hfrom : FromEvent v₃' (update.row account.tenantId conversationId status) :=
    .receipt update ((hv₁.trans (hv₂.trans hlater)).reported hreported) hidentity.2.2.1 hidentity.2.2.2.1
  exact ⟨hws₂.placeholder hidentity.2.2.1 hfrom hlater, hlater, trivial⟩

theorem advanceMessageStatus_tracks (hws : Neutral ws v₀) (tenantId : Uuid) (update : WhatsAppMessageStatusUpdate)
    (status : MessageStatus) :
    WriterTracks start (fun _ _ => True) ws v₀ (advanceMessageStatus tenantId update status) := by
  simp only [advanceMessageStatus]
  split
  · exact ⟨hws, Later.refl v₀, trivial⟩
  · apply WriterTracks.bind (P := fun _ _ => True)
    · exact execute_tracks hws (fun _ => rfl) trivial rfl
    intro rows ws₁ v₁ hws₁ _ _
    exact ⟨hws₁, Later.refl v₁, trivial⟩

theorem statusTransaction_tracks (ids : GeneratedIds) (account : RoutedWhatsAppAccount)
    (status : MessageStatus) (phoneE164 : String)
    (hreported : Reported v₀ update) : WriterTracks start (fun _ _ => True) [] v₀
      (statusTransaction ids account update status phoneE164) := by
  apply WriterTracks.bind (query_tracks (Neutral.nil v₀) _)
  intro serviceable ws₀ v hws₀ hv _
  cases serviceable with
  | false => trivial
  | true =>
    apply WriterTracks.bind (query_tracks hws₀ _)
    intro existing ws₁ v₁ hws₁ hv₁ _
    apply WriterTracks.bind (P := fun _ _ => True)
    · cases existing with
      | none => exact createStatusPlaceholder_tracks hws₁ _ _ _ _ ((hv.trans hv₁).reported hreported)
      | some => exact ⟨hws₁, Later.refl v₁, trivial⟩
    intro created ws₂ v₂ hws₂ hv₂ _
    cases created with
    | true => exact ⟨hws₂, Later.refl v₂, trivial⟩
    | false =>
      apply WriterTracks.bind (advanceMessageStatus_tracks hws₂ _ _ _)
      intro advanced ws₃ v₃ hws₃ _ _
      split
      · apply WriterTracks.bind (query_tracks hws₃ _)
        intro found ws₄ v₄ hws₄ _ _
        apply WriterTracks.bind (orThrow_tracks hws₄ _)
        intro _ ws₅ v₅ hws₅ _ _
        exact ⟨hws₅, Later.refl v₅, trivial⟩
      · exact ⟨hws₃, Later.refl v₃, trivial⟩

theorem generating_ensures {work : GeneratedIds → WriterTx α}
    {s₀ : WebhookDb} (hP : ∀ a v s, Later v s → P a v → P a s)
    (hwork : ∀ ids s, Later s₀ s → WriterTracks start P [] s (work ids)) :
    Prog.Ensures (ingesting start) (fun r s => ∀ a, r = .ok a → P a s) s₀ (generating work) := by
  have hL := ingesting_sound start
  apply Prog.Ensures.bind hL (drawUuid_ensures s₀)
  intro contactId s₁ hs₁ _
  apply Prog.Ensures.bind hL (drawUuid_ensures s₁)
  intro conversationId s₂ hs₂ _
  have herror : ∀ (e : WebhookError) (s : WebhookDb) (a : α), Except.error e = .ok a → P a s := by
    intro e s a h
    cases h
  apply attempt_ensures herror
  intro s₃ hs₃
  have hlater := Later.trans hs₁ (Later.trans hs₂ hs₃)
  apply Tx.Tracks.ensures hL (inboundWrites_sound start).steady _ _ herror _ (hwork _ s₃ hlater) (Tx.Holds.nil s₃)
  · exact fun _ s hinv => effect_same .tenant hinv (SameRows.refl s) rfl
  · exact fun _ s hinv => effect_same .commit hinv (SameRows.refl s) rfl
  · intro a ws v s s' hanswer hheld hinv _ happly hv
    obtain ⟨hws, _, hPv⟩ := hanswer
    refine ⟨commit_effect hws hheld hinv happly hv, fun b hb => ?_⟩
    cases hb
    exact hP a v s' hv hPv

end Transactions

section Programs

variable {start s₀ : WebhookDb}

theorem applyInboundMessage_ensures (account : RoutedWhatsAppAccount) {message : WhatsAppInboundMessage}
    (displayName : Option String) (hdelivered : Delivered s₀ message) :
    Prog.Ensures (ingesting start) (fun r s => r = .ok true → HoldsMessage account.tenantId message.id s) s₀
      (applyInboundMessage account message displayName) := by
  simp only [applyInboundMessage]
  cases toPhoneE164 message.source with
  | none => simp
  | some phoneE164 =>
    apply Prog.Ensures.bind (ingesting_sound start)
    · apply generating_ensures (P := fun _ => HoldsMessage account.tenantId message.id)
      · exact fun _ _ _ hlater h => h.later hlater
      · exact fun ids s hs => inboundTransaction_tracks ids account phoneE164 displayName (hs.delivered hdelivered)
    · intro applied s _ hstored
      cases applied with
      | error => simp [Except.map]
      | ok applied => exact fun _ => hstored applied rfl

theorem applyStatusUpdate_ensures (account : RoutedWhatsAppAccount) (hreported : Reported s₀ update) :
    Prog.Ensures (ingesting start) (fun _ _ => True) s₀ (applyStatusUpdate account update) := by
  simp only [applyStatusUpdate]
  cases toMessageStatus update.status with
  | none => trivial
  | some status =>
    cases toPhoneE164 update.recipientId with
    | none => trivial
    | some phoneE164 =>
      apply Prog.Ensures.bind (ingesting_sound start)
      · apply generating_ensures (P := fun _ _ => True)
        · exact fun _ _ _ _ _ => trivial
        · exact fun ids s hs => statusTransaction_tracks ids account status phoneE164 (hs.reported hreported)
      · exact fun _ _ _ _ => trivial

/-- A loop of the writer that ends without an unroutable sender has done for each item what its transaction does. -/
theorem applyEach_ensures {write : α → WebhookProg (Except WebhookError Bool)} (waId : α → String)
    {F : α → WebhookDb → Prop} (hF : ∀ a s s', Later s s' → F a s → F a s') (unroutable : Option String)
    (hwrite : ∀ a ∈ as, ∀ s, Later s₀ s →
      Prog.Ensures (ingesting start) (fun r s' => r = .ok true → F a s') s (write a)) :
    Prog.Ensures (ingesting start) (fun r s => r = .ok none → unroutable = none ∧ ∀ a ∈ as, F a s) s₀
      (applyEach write waId as unroutable) := by
  induction as generalizing unroutable s₀ with
  | nil => simp [applyEach]
  | cons a as ih =>
    have hL := ingesting_sound start
    apply Prog.Ensures.bind hL (hwrite a List.mem_cons_self s₀ (Later.refl s₀))
    intro attributed s hs hstored
    have hwrite' : ∀ b ∈ as, ∀ s', Later s s' →
        Prog.Ensures (ingesting start) (fun r s'' => r = .ok true → F b s'') s' (write b) :=
      fun b hb s' hs' => hwrite b (List.mem_cons_of_mem _ hb) s' (Later.trans hs hs')
    have hrest : ∀ unroutable, Prog.Ensures (ingesting start)
        (fun r s' => Later s s' ∧ (r = .ok none → unroutable = none ∧ ∀ b ∈ as, F b s')) s
        (applyEach write waId as unroutable) := fun unroutable => (ih unroutable hwrite').after hL
    cases attributed with
    | error => simp
    | ok attributed =>
      cases attributed with
      | true =>
        refine (hrest unroutable).mono fun r s' ⟨hs', hr⟩ hnone => ?_
        obtain ⟨hunroutable, hall⟩ := hr hnone
        exact ⟨hunroutable, List.forall_mem_cons.mpr ⟨hF a s s' hs' (hstored rfl), hall⟩⟩
      | false =>
        refine (hrest _).mono fun r s' ⟨_, hr⟩ hnone => ?_
        have hreason := (hr hnone).1
        cases unroutable <;> cases hreason

variable {value : WhatsAppChangeValue} {changes : List WhatsAppChange} {claimed : ClaimedWebhookEvent}

/-- A change that ends without a reason to park the event has stored every message. -/
theorem writeChange_ensures (account : RoutedWhatsAppAccount) (hdelivered : ∀ m ∈ value.messages, Delivered s₀ m) (hreported : ∀ u ∈ value.statuses, Reported s₀ u) :
    Prog.Ensures (ingesting start)
      (fun r s => r = .ok none → ∀ m ∈ value.messages, HoldsMessage account.tenantId m.id s) s₀
      (writeChange account value) := by
  have hL := ingesting_sound start
  have hinactive : ∀ e, parkInactive e ≠ .ok none := by
    intro e
    cases e <;> simp [parkInactive]
  have hmessage : ∀ m ∈ value.messages, ∀ s, Later s₀ s →
      Prog.Ensures (ingesting start) (fun r s' => r = .ok true → HoldsMessage account.tenantId m.id s') s
        (applyInboundMessage account m (displayNameOf value m.source)) :=
    fun m hm s hs => applyInboundMessage_ensures account _ (hs.delivered (hdelivered m hm))
  have hmessages := applyEach_ensures WhatsAppInboundMessage.source
    (F := fun m : WhatsAppInboundMessage => HoldsMessage account.tenantId m.id)
    (fun _ _ _ hlater h => h.later hlater) none hmessage
  apply Prog.Ensures.bind hL hmessages
  intro stored s hs hstored
  cases stored with
  | error e => exact fun h => absurd h (hinactive e)
  | ok unroutable =>
    have hstatus : ∀ u ∈ value.statuses, ∀ s', Later s s' →
        Prog.Ensures (ingesting start) (fun r _ => r = .ok true → True) s' (applyStatusUpdate account u) :=
      fun u hu s' hs' => (applyStatusUpdate_ensures account
        (Later.reported (Later.trans hs hs') (hreported u hu))).mono fun _ _ _ _ => trivial
    have hstatuses := applyEach_ensures WhatsAppMessageStatusUpdate.recipientId (F := fun _ _ => True)
      (fun _ _ _ _ _ => trivial) unroutable hstatus
    apply Prog.Ensures.bind hL (hstatuses.after hL)
    intro applied s' _ happlied
    cases applied with
    | error e => exact fun h => absurd h (hinactive e)
    | ok =>
      intro hnone m hm
      cases hnone
      have hunroutable := (happlied.2 rfl).1
      rw [hunroutable] at hstored
      exact ((hstored rfl).2 m hm).later happlied.1

theorem resolveAccount_ensures (phoneNumberId : String) :
    Prog.Ensures (ingesting start) (fun r s => ∀ account, r = .ok (some account) →
      ∃ a ∈ s.accounts, a.phoneNumberId = phoneNumberId ∧ a.tenantId = account.tenantId) s₀
      (resolveAccount phoneNumberId) := by
  apply Prog.Ensures.stmt
  intro s _ hinv _
  refine ⟨effect_same .resolve hinv (SameRows.refl s) rfl, fun account h => ?_⟩
  simp only [Except.ok.injEq, Option.map_eq_some_iff] at h
  obtain ⟨a, ha, rfl⟩ := h
  have hphone := List.find?_some ha
  exact ⟨a, List.mem_of_find?_eq_some ha, of_decide_eq_true hphone, rfl⟩

def HasValue (db : WebhookDb) (value : WhatsAppChangeValue) : Prop := ∃ e ∈ db.events, value ∈ e.values

theorem HasValue.later {db db' : WebhookDb} (hlater : Later db db') (h : HasValue db value) : HasValue db' value := by
  obtain ⟨e, he, hvalue⟩ := h
  obtain ⟨e', he', _, hpayload⟩ := hlater.exists_event he
  refine ⟨e', he', ?_⟩
  simpa only [WebhookEvent.values, hpayload] using hvalue

theorem HasValue.delivered {db : WebhookDb} (h : HasValue db value) : ∀ m ∈ value.messages, Delivered db m := by
  obtain ⟨e, he, hvalue⟩ := h
  exact fun m hm => ⟨e, he, value, hvalue, hm⟩

theorem HasValue.reported {db : WebhookDb} (h : HasValue db value) : ∀ u ∈ value.statuses, Reported db u := by
  obtain ⟨e, he, hvalue⟩ := h
  exact fun u hu => ⟨e, he, value, hvalue, hu⟩

theorem ApplyOutcome.park_eq_none {outcome : ApplyOutcome}
    (h : (outcome.park reason).parkedReason = none) : outcome.parkedReason = none ∧ reason = none := by
  simp only [ApplyOutcome.park] at h
  cases hparked : outcome.parkedReason with
  | none =>
    rw [hparked] at h
    exact ⟨rfl, h⟩
  | some =>
    rw [hparked] at h
    cases h

theorem applyChanges_ensures (outcome : ApplyOutcome)
    (hvalues : ∀ change ∈ changes, change.field = messagesField → ∀ value, change.value = .inr value →
      HasValue s₀ value) : Prog.Ensures (ingesting start) (fun r s => ∀ o, r = .ok o → o.parkedReason = none →
      outcome.parkedReason = none ∧ ∀ change ∈ changes, ChangeStored s change) s₀ (applyChanges changes outcome) := by
  have hL := ingesting_sound start
  induction changes generalizing outcome s₀ with
  | nil => simp [applyChanges]
  | cons change changes ih =>
    have hlast : ∀ change' ∈ changes, change'.field = messagesField → ∀ value, change'.value = .inr value →
        HasValue s₀ value := fun change' hchange' => hvalues change' (List.mem_cons_of_mem _ hchange')
    -- what the rest of the batch ensures, when it starts from an outcome at a later state
    have hrest : ∀ outcome' s, Later s₀ s → Prog.Ensures (ingesting start) (fun r s' => Later s s' ∧
        ∀ o, r = .ok o → o.parkedReason = none →
          outcome'.parkedReason = none ∧ ∀ change ∈ changes, ChangeStored s' change) s
        (applyChanges changes outcome') := fun outcome' s hs =>
      (ih outcome' fun change' hchange' hfield value hvalue =>
        (hlast change' hchange' hfield value hvalue).later hs).after hL
    simp only [applyChanges]
    split
    · rename_i hfield
      refine (hrest outcome s₀ (Later.refl s₀)).mono fun r s ⟨_, hr⟩ o ho hnone => ?_
      obtain ⟨houtcome, hall⟩ := hr o ho hnone
      exact ⟨houtcome, List.forall_mem_cons.mpr ⟨fun h => absurd h hfield, hall⟩⟩
    · rename_i hfield
      have hparks : ∀ reason s, Later s₀ s → Prog.Ensures (ingesting start) (fun r s' => ∀ o, r = .ok o →
          o.parkedReason = none → outcome.parkedReason = none ∧
            ∀ change' ∈ change :: changes, ChangeStored s' change') s
          (applyChanges changes (outcome.park (some reason))) := by
        intro reason s hs
        refine (hrest _ s hs).mono fun r s' ⟨_, hr⟩ o ho hnone => ?_
        cases (ApplyOutcome.park_eq_none (hr o ho hnone).1).2
      cases hvalue : change.value with
      | inl => exact hparks _ s₀ (Later.refl s₀)
      | inr value =>
        have hhas := hvalues change List.mem_cons_self (not_not.mp hfield) value hvalue
        apply Prog.Ensures.bind hL (attempt_ensures (by simp) fun s _ => resolveAccount_ensures value.phoneNumberId)
        intro resolved s hs hresolved
        cases resolved with
        | error => simp
        | ok found =>
          cases found with
          | none => exact hparks _ s hs
          | some account =>
            have hhas' := hhas.later hs
            apply Prog.Ensures.bind hL (writeChange_ensures account hhas'.delivered hhas'.reported)
            intro written s' hs' hwritten
            cases written with
            | error => simp
            | ok =>
              refine (hrest _ s' (Later.trans hs hs')).mono fun r s'' ⟨hs'', hr⟩ o ho hnone => ?_
              obtain ⟨hparked, hall⟩ := hr o ho hnone
              obtain ⟨houtcome, hreason⟩ := ApplyOutcome.park_eq_none hparked
              refine ⟨houtcome, List.forall_mem_cons.mpr ⟨fun _ => ⟨value, hvalue, ?_⟩, hall⟩⟩
              obtain ⟨a, ha, hphone, htenant⟩ := hresolved account rfl
              refine ⟨a, hs''.accounts (hs'.accounts ha), hphone, fun m hm => ?_⟩
              rw [hreason] at hwritten
              rw [htenant]
              exact (hwritten rfl m hm).later hs''

def Claimed (claimed : ClaimedWebhookEvent) (db : WebhookDb) : Prop :=
  ∃ e ∈ db.events, e.id = claimed.id ∧ e.payload = claimed.payload

theorem Claimed.later {db db' : WebhookDb} (hlater : Later db db') (h : Claimed claimed db) : Claimed claimed db' := by
  obtain ⟨e, he, hid, hpayload⟩ := h
  obtain ⟨e', he', hid', hpayload'⟩ := hlater.exists_event he
  exact ⟨e', he', hid'.trans hid, hpayload'.trans hpayload⟩

theorem Claimed.payload_eq {db : WebhookDb} (h : Claimed claimed db)
    (hdb : Consistent db) (he : e ∈ db.events) (hid : e.id = claimed.id) : e.payload = claimed.payload := by
  obtain ⟨e', he', hid', hpayload⟩ := h
  rw [UniqueBy.eq_of_entry hdb.indexed.eventId he he' (congrArg some hid) (congrArg some hid')]
  exact hpayload

theorem claim_ensures (id : Uuid) : Prog.Ensures (ingesting start)
    (fun r s => ∀ claimed, r = .ok (some claimed) → Claimed claimed s) s₀ (claim id) := by
  apply Prog.Ensures.stmt
  intro s _ hinv _
  split
  · exact ⟨effect_same (.claim id) hinv (SameRows.refl s) rfl, by simp⟩
  · rename_i e he
    refine ⟨?_, ?_⟩
    · refine effect_update (.claim id) hinv ⟨rfl, rfl, rfl, rfl⟩ rfl (fun _ => rfl) (fun _ => rfl) ?_
      intro e _ _ hstatus
      cases hstatus
    · intro claimed hclaimed
      cases hclaimed
      have hmem := List.mem_of_find?_eq_some he
      have hp := List.find?_some he
      refine ⟨_, mem_updateWhere_of_mem hmem, ?_⟩
      rw [if_pos hp]
      exact ⟨(of_decide_eq_true hp).1, rfl⟩

theorem markFailed_ensures (claimed : ClaimedWebhookEvent) (reason : String) (tenantId : Option Uuid) :
    Prog.Ensures (ingesting start) (fun _ _ => True) s₀ (markFailed claimed reason tenantId) := by
  apply updateEvent_ensures
  · exact fun _ _ => rfl
  · exact fun _ _ => rfl
  · intro s _ _ e _ _ hstatus
    cases hstatus

theorem recordAttemptFailure_ensures (claimed : ClaimedWebhookEvent) (reason : String) :
    Prog.Ensures (ingesting start) (fun _ _ => True) s₀ (recordAttemptFailure claimed reason) := by
  apply updateEvent_ensures
  · exact fun _ _ => rfl
  · exact fun _ _ => rfl
  · exact fun s _ _ e _ _ hstatus => .inl hstatus

theorem markProcessed_ensures (tenantId : Option Uuid) (hpayload : claimed.payload = .inr changes) (hclaimed : Claimed claimed s₀)
    (hstored : ∀ change ∈ changes, ChangeStored s₀ change) :
    Prog.Ensures (ingesting start) (fun _ _ => True) s₀ (markProcessed claimed tenantId) := by
  apply updateEvent_ensures
  · exact fun _ _ => rfl
  · exact fun _ _ => rfl
  · intro s hs hinv e he hid _
    have heq := (hclaimed.later hs).payload_eq hinv he hid
    exact .inr ⟨changes, heq.trans hpayload, fun change hchange => (hstored change hchange).later hs⟩

theorem applyAndMark_ensures (hpayload : claimed.payload = .inr changes) (hclaimed : Claimed claimed s₀) :
    Prog.Ensures (ingesting start) (fun _ _ => True) s₀ (applyAndMark claimed changes) := by
  have hL := ingesting_sound start
  have hvalues : ∀ change ∈ changes, change.field = messagesField → ∀ value, change.value = .inr value →
      HasValue s₀ value := by
    intro change hchange hfield value hvalue
    obtain ⟨e, he, _, heq⟩ := hclaimed
    refine ⟨e, he, ?_⟩
    simp only [WebhookEvent.values, heq, hpayload, List.mem_filterMap]
    exact ⟨change, hchange, by simp [hfield, hvalue]⟩
  apply Prog.Ensures.bind hL (applyChanges_ensures {} hvalues)
  intro applied s hs happlied
  cases applied with
  | error => trivial
  | ok outcome =>
    dsimp only
    cases hparked : outcome.parkedReason with
    | some => exact attempt_ensures (fun _ _ => trivial) fun s' _ => markFailed_ensures _ _ _
    | none =>
      apply attempt_ensures fun _ _ => trivial
      intro s' hs'
      have hstored := (happlied outcome rfl hparked).2
      exact markProcessed_ensures _ hpayload (hclaimed.later (Later.trans hs hs')) fun change hchange =>
        (hstored change hchange).later hs'

theorem handleFailure_ensures (config : WebhookConfig) (claimed : ClaimedWebhookEvent) (error : WebhookError) :
    Prog.Ensures (ingesting start) (fun _ _ => True) s₀ (handleFailure config claimed error) := by
  simp only [handleFailure]
  split
  · exact attempt_ensures (fun _ _ => trivial) fun _ _ => markFailed_ensures _ _ _
  · apply Prog.Ensures.bind (ingesting_sound start)
    · exact attempt_ensures (Q := fun _ _ => True) (fun _ _ => trivial) fun _ _ => recordAttemptFailure_ensures _ _
    · intro noted s _ _
      cases noted <;> trivial

theorem process_ensures (config : WebhookConfig) (id : Uuid) :
    Prog.Ensures (ingesting start) (fun _ _ => True) s₀ (process config id) := by
  have hL := ingesting_sound start
  apply Prog.Ensures.bind hL (attempt_ensures (by simp) fun s _ => claim_ensures id)
  intro claimed s _ hclaimed
  cases claimed with
  | error => trivial
  | ok found =>
    cases found with
    | none => trivial
    | some claimed =>
      simp only [processClaimed]
      cases hpayload : claimed.payload with
      | inl => exact attempt_ensures (fun _ _ => trivial) fun _ _ => markFailed_ensures _ _ _
      | inr =>
        apply Prog.Ensures.bind hL (applyAndMark_ensures hpayload (hclaimed claimed rfl))
        intro applied s' _ _
        cases applied with
        | error e => exact handleFailure_ensures config claimed e
        | ok => trivial

theorem ingest_ensures (providerEventId : String) (payload : WebhookPayload) :
    Prog.Ensures (ingesting start) (fun _ _ => True) s₀ (ingest providerEventId payload) := by
  apply Prog.Ensures.bind (ingesting_sound start) (drawUuid_ensures s₀)
  intro id s _ _
  apply attempt_ensures fun _ _ => trivial
  intro s' _
  apply Prog.Ensures.stmt
  intro db _ hinv _
  refine ⟨?_, trivial⟩
  dsimp only
  split
  · exact effect_same .store hinv (SameRows.refl db) rfl
  · rename_i hnone
    simp only [Bool.not_eq_true, List.any_eq_false, decide_eq_true_eq, not_or] at hnone
    have hsame : SameRows db { db with
        events := db.events ++ [WebhookEvent.new id whatsappProvider providerEventId payload db.now] } :=
      ⟨rfl, rfl, rfl, rfl⟩
    have hlater := hsame.later (by simp)
    refine ⟨hsame.consistent hinv ?_ ?_, hlater, fun hk => hsame.ingested hlater (fun e he hstatus => ?_) hk⟩
    · exact hinv.indexed.eventId.concat fun e he hclash => (hnone e he).2 hclash.symm
    · exact hinv.indexed.event.concat fun e he hclash => (hnone e he).1 hclash.symm
    · rcases mem_snoc.mp he with he | rfl
      · exact (hk.processed e he hstatus).later hlater rfl
      · cases hstatus

theorem replayEvent_ensures (id : Uuid) (actorLabel : String) :
    Prog.Ensures (ingesting start) (fun _ _ => True) s₀ (replayEvent id actorLabel) := by
  have hL := ingesting_sound start
  apply Prog.Ensures.bind hL (ensures_same fun s => ⟨SameRows.refl s, rfl⟩)
  intro found s _ _
  cases found with
  | none => trivial
  | some =>
    dsimp only
    split
    · trivial
    · apply Prog.Ensures.bind hL (Q := fun _ _ => True)
      · apply Prog.Ensures.stmt
        intro db _ hinv _
        refine ⟨?_, trivial⟩
        split
        · refine effect_update (.replay id) hinv ⟨rfl, rfl, rfl, rfl⟩ rfl (fun _ => rfl) (fun _ => rfl) ?_
          intro e _ _ hstatus
          cases hstatus
        · exact effect_same (.replay id) hinv (SameRows.refl db) rfl
      · intro replayedAt s' _ _
        cases replayedAt with
        | some => trivial
        | none =>
          apply Prog.Ensures.bind hL (ensures_same fun s => ⟨SameRows.refl s, rfl⟩)
          intro current s'' _ _
          cases current <;> trivial

theorem connectAccount_ensures (account : WhatsappAccount) :
    Prog.Ensures (ingesting start) (fun _ _ => True) s₀ (connectAccount account) := by
  apply Prog.Ensures.stmt
  intro db _ hinv _
  refine ⟨?_, trivial⟩
  split
  · exact effect_same .operate hinv (SameRows.refl db) rfl
  · rename_i hnone
    simp only [Bool.not_eq_true, List.any_eq_false, decide_eq_true_eq] at hnone
    have hlater : Later db { db with accounts := db.accounts ++ [account] } :=
      { Later.refl db with accounts := List.subset_append_left _ _ }
    have hconsistent : Consistent { db with accounts := db.accounts ++ [account] } := {
      indexed := { hinv.indexed with
        account := hinv.indexed.account.concat fun a ha hclash => hnone a ha (Option.some.inj hclash.2) }
      linked := hinv.linked }
    refine ⟨hconsistent, hlater, fun hk => ⟨hk.counted, fun e he hstatus => ?_, fun m hm => ?_⟩⟩
    · exact (hk.processed e he hstatus).later hlater rfl
    · exact (hk.sourced m hm).imp_right (.later hlater rfl)

theorem webhookProgram_ensures (config : WebhookConfig) (call : WebhookCall) :
    Prog.Ensures (ingesting start) (fun _ _ => True) s₀ (webhookProgram config call) := by
  have hL := ingesting_sound start
  cases call with
  | ingest => exact (ingest_ensures _ _).bind hL fun _ _ _ _ => trivial
  | process id => exact (process_ensures config id).bind hL fun _ _ _ _ => trivial
  | sweep =>
    exact Prog.Ensures.bind hL (ensures_same fun s => ⟨SameRows.refl s, rfl⟩) fun _ _ _ _ => trivial
  | replay => exact (replayEvent_ensures _ _).bind hL fun _ _ _ _ => trivial
  | connect account => exact (connectAccount_ensures account).bind hL fun _ _ _ _ => trivial
  | serve | elapse =>
    exact Prog.Ensures.bind hL (ensures_same fun s => ⟨⟨rfl, rfl, rfl, rfl⟩, rfl⟩) fun _ _ _ _ => trivial

end Programs

structure Intact (db : WebhookDb) : Prop where
  consistent : Consistent db
  counted : Counted db
  processed : ∀ e ∈ db.events, e.status = .processed → EventStored db e

theorem WebhookRun.ingested {db : WebhookDb} (hdb : Intact db)
    (hs : WebhookRun config db s) : Consistent s.db ∧ Ingested db s.db := by
  have hL := ingesting_sound db
  have hprog : ∀ call s₀, Prog.Guards (ingesting db) s₀ (webhookProgram config call) :=
    fun call s₀ => (webhookProgram_ensures config call).guards
  have hidle : (Sys.idle db : WebhookSys).Guarded (ingesting db) := Sys.guarded_idle hdb.consistent
  have hstart : Ingested db db := ⟨hdb.counted, hdb.processed, fun m hm => .inl (List.mem_map_of_mem hm)⟩
  constructor
  · exact (Reachable.guards hL hprog (fun _ _ _ _ => trivial) hidle hs).inv
  · apply Reachable.effect hL hprog (fun _ _ _ _ => trivial) _ hidle hstart hs
    exact fun _ _ _ _ _ heffect hk => heffect.2.2 hk

def StoredOnce (db : WebhookDb) (tenantId : Uuid) (providerMessageId : String) : Prop :=
  ∃ r, db.messages.filter (fun m => m.tenantId = tenantId ∧ m.providerMessageId = some providerMessageId) = [r]

theorem HoldsMessage.storedOnce {db : WebhookDb} (hdb : db.Indexed)
    (h : HoldsMessage tenantId providerMessageId db) : StoredOnce db tenantId providerMessageId := by
  obtain ⟨m, hm, hkey⟩ := h
  have hentry : ∀ m : InboundMessage, (m.tenantId = tenantId ∧ m.providerMessageId = some providerMessageId) ↔
      m.providerEntry = some (tenantId, providerMessageId) := by
    intro m
    cases hid : m.providerMessageId <;> simp [InboundMessage.providerEntry, hid]
  have hmost := hdb.message.length_filter_le_one (tenantId, providerMessageId)
  simp only [← hentry] at hmost
  have hmem : m ∈ db.messages.filter fun m => m.tenantId = tenantId ∧ m.providerMessageId = some providerMessageId :=
    List.mem_filter.mpr ⟨hm, by simpa using hkey⟩
  exact List.length_eq_one_iff.mp (le_antisymm hmost (List.length_pos_of_mem hmem))

theorem nodup_inboundIds {db : WebhookDb} (hdb : Consistent db) (hc : c ∈ db.conversations) :
    ((inboundIds db c.id).filterMap id).Nodup := by
  have htenant : ∀ m ∈ db.messages, m.conversationId = c.id → m.tenantId = c.tenantId := by
    intro m hm hid
    obtain ⟨c', hc', htenant, hid'⟩ := hdb.linked m hm
    rw [← htenant, UniqueBy.eq_of_entry hdb.indexed.conversationId hc' hc (congrArg some (hid'.trans hid)) rfl]
  rw [inboundIds, List.filterMap_map, List.Nodup, List.pairwise_filterMap, List.pairwise_filter]
  refine List.Pairwise.imp_of_mem (fun {m m'} hm hm' hclash hin hin' a ha a' ha' heq => ?_) hdb.indexed.message
  simp only [InboundMessage.inboundOf, decide_eq_true_eq] at hin hin'
  simp only [Function.comp_apply, id_eq] at ha ha'
  subst heq
  refine hclash ⟨by simp [InboundMessage.providerEntry, ha], ?_⟩
  simp only [InboundMessage.providerEntry, ha, ha', htenant m hm hin.1, htenant m' hm' hin'.1]

/-- A delivery with one message, for a number a tenant has connected. -/
def oneConnectedEvent : WebhookDb :=
  { serviceable := [1]
    accounts := [{ id := 2, tenantId := 1, phoneNumberId := "100" }]
    events := [{ id := 1, provider := whatsappProvider, providerEventId := "a", receivedAt := 0
                 payload := .inr [{ field := messagesField
                                    value := .inr {
                                      phoneNumberId := "100"
                                      messages := [{ id := "m1", source := "15551234567", timestamp := 0 }] } }] }]
    uuids := [11, 12, 13, 14] }

theorem oneConnectedEvent_intact : Intact oneConnectedEvent where
  consistent := {
    indexed := by constructor <;> decide
    linked := by decide }
  counted := by decide
  processed := by
    intro e he hstatus
    rw [List.mem_singleton.mp he] at hstatus
    cases hstatus

/-- A worker crashes after it has stored the message, and a second one finds it stored and marks the event. -/
def crashAndRetry : List (Move WebhookCall) :=
  .spawn (.process 1) :: List.replicate 15 (.step 0) ++ .spawn (.process 1) :: List.replicate 17 (.step 1)

end WhatsappCrm.Webhooks
