/-
Purpose: A message's status only climbs.
-/
import WhatsappCrm.Conversations.Delivered
import WhatsappCrm.Lib.Debt

namespace WhatsappCrm.Conversations

open Interleaving Table Webhooks

/-- The order of the ranks. The end state of a message a customer sent is on no ladder. -/
def AtMost : StoredStatus → StoredStatus → Prop
  | .ladder a, .ladder b => a.rank ≤ b.rank
  | a, b => a = b

instance : DecidableRel AtMost := fun a b =>
  match a, b with
  | .ladder a, .ladder b => inferInstanceAs (Decidable (a.rank ≤ b.rank))
  | .ladder a, .received => inferInstanceAs (Decidable (StoredStatus.ladder a = .received))
  | .received, .ladder b => inferInstanceAs (Decidable (StoredStatus.received = .ladder b))
  | .received, .received => inferInstanceAs (Decidable (StoredStatus.received = .received))

def Climbs (before after : StoredStatus) : Prop :=
  after = before ∨ ∃ source target, before = .ladder source ∧ after = .ladder target ∧
    isMessageStatusAdvance source target = true

def IsHighest (status : StoredStatus) (statuses : List StoredStatus) : Prop :=
  status ∈ statuses ∧ ∀ other ∈ statuses, AtMost other status

theorem AtMost.refl (status : StoredStatus) : AtMost status status := by
  cases status with
  | received => rfl
  | ladder status => exact Nat.le_refl status.rank

theorem AtMost.trans (hab : AtMost a b) (hbc : AtMost b c) : AtMost a c := by
  cases a with
  | received =>
    obtain rfl : StoredStatus.received = b := hab
    exact hbc
  | ladder =>
    cases b with
    | received => cases hab
    | ladder b =>
      cases c with
      | received => cases hbc
      | ladder => exact Nat.le_trans (m := b.rank) hab hbc

theorem AtMost.failed {status : StoredStatus} (h : AtMost (.ladder .failed) status) : status = .ladder .failed := by
  cases status with
  | received => cases h
  | ladder status =>
    cases status with
    | failed => rfl
    | _ => exact absurd (show 99 ≤ _ from h) (by decide)

theorem Climbs.refl (status : StoredStatus) : Climbs status status := .inl rfl

theorem Climbs.atMost (h : Climbs before after) : AtMost before after := by
  rcases h with rfl | ⟨source, target, rfl, rfl, hadvance⟩
  · exact .refl _
  · exact (isMessageStatusAdvance_iff.mp hadvance).2.le

theorem Climbs.trans (hab : Climbs a b) (hbc : Climbs b c) : Climbs a c := by
  rcases hab with rfl | ⟨source, middle, rfl, rfl, hfirst⟩
  · exact hbc
  · rcases hbc with rfl | ⟨middle', target, hmiddle, rfl, hsecond⟩
    · exact .inr ⟨source, middle, rfl, rfl, hfirst⟩
    · obtain rfl := StoredStatus.ladder.inj hmiddle
      rw [isMessageStatusAdvance_iff] at hfirst hsecond
      refine .inr ⟨source, target, rfl, rfl, isMessageStatusAdvance_iff.mpr ⟨hfirst.1, ?_⟩⟩
      exact hfirst.2.trans hsecond.2

theorem Climbs.received (h : Climbs .received after) : after = .received := by
  rcases h with rfl | ⟨_, _, hsource, _, _⟩
  · rfl
  · cases hsource

theorem IsHighest.single (status : StoredStatus) : IsHighest status [status] := by
  simp [IsHighest, AtMost.refl]

theorem IsHighest.trans (h : IsHighest second (first :: applied)) (h' : IsHighest third (second :: later)) :
    IsHighest third (first :: (applied ++ later)) := by
  obtain ⟨hmem, hmost⟩ := h
  obtain ⟨hmem', hmost'⟩ := h'
  rw [← List.cons_append]
  refine ⟨?_, fun other hother => ?_⟩
  · rcases List.mem_cons.mp hmem' with rfl | hlater
    · exact List.mem_append_left _ hmem
    · exact List.mem_append_right _ hlater
  · rcases List.mem_append.mp hother with hother | hother
    · exact (hmost other hother).trans (hmost' second List.mem_cons_self)
    · exact hmost' other (List.mem_cons_of_mem _ hother)

structure MessageRow.Becomes (m m' : MessageRow) : Prop where
  id : m'.id = m.id
  tenantId : m'.tenantId = m.tenantId
  conversationId : m'.conversationId = m.conversationId
  provider : m.providerMessageId = none ∨ m'.providerMessageId = m.providerMessageId
  status : Climbs m.status m'.status

variable {m m' message : MessageRow} {status : MessageStatus} {tenantId : Uuid} {db v₀ : DeliveryDb}
  {p : MessageRow → Bool} {f : MessageRow → MessageRow} {rows : List Uuid} {w : ReceiptWrite} {s : DeliverySys}

namespace MessageRow.Becomes

theorem refl (m : MessageRow) : m.Becomes m := ⟨rfl, rfl, rfl, .inr rfl, .refl _⟩

theorem trans (h : m.Becomes m') (h' : m'.Becomes m'') : m.Becomes m'' where
  id := h'.id.trans h.id
  tenantId := h'.tenantId.trans h.tenantId
  conversationId := h'.conversationId.trans h.conversationId
  provider := by
    rcases h.provider with hnone | hsame
    · exact .inl hnone
    · exact h'.provider.imp (fun hnone => hsame.symm.trans hnone) fun hsame' => hsame'.trans hsame
  status := h.status.trans h'.status

theorem providerEntry (h : m.Becomes m') (hentry : m.providerEntry = some entry) : m'.providerEntry = some entry := by
  obtain ⟨providerMessageId, hprovider, rfl⟩ := Option.map_eq_some_iff.mp hentry
  have hsame : m'.providerMessageId = m.providerMessageId :=
    h.provider.resolve_left fun hnone => by simp [hnone] at hprovider
  simp only [MessageRow.providerEntry, InboundMessage.providerEntry, hsame, hprovider, h.tenantId, Option.map_some]

theorem announces (h : m.Becomes m') (status : MessageStatus) (providerMessageId : Option String) :
    m'.announces status providerMessageId = m.announces status providerMessageId := by
  rw [MessageRow.announces, MessageRow.announces, h.tenantId, h.conversationId, h.id]

end MessageRow.Becomes

structure MessageRow.Advances (m m' : MessageRow) : Prop where
  becomes : m.Becomes m'
  advance : ∃ source target, m.status = .ladder source ∧ m'.status = .ladder target ∧
    isMessageStatusAdvance source target = true

theorem MessageRow.Advances.status_ne (h : m.Advances m') : m.status ≠ m'.status := by
  obtain ⟨source, target, hsource, htarget, hadvance⟩ := h.advance
  rw [hsource, htarget]
  intro heq
  rw [StoredStatus.ladder.inj heq] at hadvance
  exact absurd (isMessageStatusAdvance_iff.mp hadvance).2 (Nat.lt_irrefl _)

theorem MessageRow.Advances.not_queued (h : m.Advances m') : m'.status ≠ .ladder .queued := by
  obtain ⟨source, target, _, htarget, hadvance⟩ := h.advance
  rw [htarget]
  intro heq
  rw [StoredStatus.ladder.inj heq] at hadvance
  exact absurd (isMessageStatusAdvance_iff.mp hadvance).2 (Nat.not_lt_zero _)

theorem MessageRow.sentAs_advances (hqueued : m.status = .ladder .queued)
    (hunsent : m.providerMessageId = none) (providerMessageId : String) : m.Advances (m.sentAs providerMessageId) where
  becomes := ⟨rfl, rfl, rfl, .inl hunsent, .inr ⟨.queued, .sent, hqueued, rfl, rfl⟩⟩
  advance := ⟨.queued, .sent, hqueued, rfl, rfl⟩

theorem MessageRow.fail_advances (hqueued : m.status = .ladder .queued) (t : Millis) : m.Advances (m.fail t) where
  becomes := ⟨rfl, rfl, rfl, .inr rfl, .inr ⟨.queued, .failed, hqueued, rfl, rfl⟩⟩
  advance := ⟨.queued, .failed, hqueued, rfl, rfl⟩

theorem MessageRow.stamp_advances (h : m.advanceable tenantId providerMessageId status = true) (t : Millis) :
    m.Advances (m.stamp status t) := by
  simp only [MessageRow.advanceable, InboundMessage.advanceable, decide_eq_true_eq] at h
  obtain ⟨_, _, source, hsource, hstatus⟩ := h
  have hadvance : ∃ source target, m.status = .ladder source ∧ (m.stamp status t).status = .ladder target ∧
      isMessageStatusAdvance source target = true :=
    ⟨source, status, hstatus, MessageRow.stamp_status status t m, mem_advanceableFrom.mp hsource⟩
  refine ⟨⟨rfl, ?_, ?_, .inr ?_, .inr hadvance⟩, hadvance⟩
  all_goals cases status <;> rfl

structure DeliveryDb.WellFormed (db : DeliveryDb) : Prop where
  indexed : db.Indexed
  unsent : ∀ m ∈ db.messages, m.status = .ladder .queued → m.providerMessageId = none

def DeliveryDb.hadOther (db : DeliveryDb) (m' : MessageRow) : Bool :=
  db.messages.any fun m => m.id = m'.id ∧ m.status ≠ m'.status

/-- The rows that have another status than before, as they are now. -/
def statusChanges (db db' : DeliveryDb) : List MessageStatusChanged :=
  (db'.messages.filter db.hadOther).map (·.changed)

def GoesOn (db db' : DeliveryDb) : Prop := ∀ m ∈ db.messages, ∃ m' ∈ db'.messages, m.Becomes m'

structure StatusStep (db db' : DeliveryDb) : Prop where
  wellFormed : db'.WellFormed
  goesOn : GoesOn db db'
  writes : db'.statusWrites = db.statusWrites ++ statusChanges db db'

theorem GoesOn.refl (db : DeliveryDb) : GoesOn db db := fun m hm => ⟨m, hm, .refl m⟩

theorem GoesOn.trans (h : GoesOn db db') (h' : GoesOn db' db'') : GoesOn db db'' := by
  intro m hm
  obtain ⟨m', hm', hbecomes⟩ := h m hm
  obtain ⟨m'', hm'', hbecomes'⟩ := h' m' hm'
  exact ⟨m'', hm'', hbecomes.trans hbecomes'⟩

theorem not_hadOther (h : ∀ m ∈ db.messages, m.id = m'.id → m = m') : db.hadOther m' = false := by
  rw [DeliveryDb.hadOther, List.any_eq_false]
  intro m hm hchanged
  obtain ⟨hid, hstatus⟩ := of_decide_eq_true hchanged
  exact hstatus (congrArg (·.status) (h m hm hid))

theorem same_of_id {rows : List MessageRow} (h : UniqueBy MessageRow.idEntry rows) (hm : m ∈ rows) (hm' : m' ∈ rows) (hid : m.id = m'.id) : m = m' :=
  h.eq_of_entry hm hm' rfl (MessageRow.idEntry_eq hid).symm

theorem StatusStep.same (hdb : db.WellFormed) (hmessages : db'.messages = db.messages)
    (hwrites : db'.statusWrites = db.statusWrites) : StatusStep db db' where
  wellFormed := ⟨⟨hmessages ▸ hdb.indexed.id, hmessages ▸ hdb.indexed.provider⟩, hmessages ▸ hdb.unsent⟩
  goesOn := fun m hm => ⟨m, hmessages ▸ hm, .refl m⟩
  writes := by
    have hnone : statusChanges db db' = [] := by
      rw [statusChanges, hmessages, List.map_eq_nil_iff, List.filter_eq_nil_iff]
      intro m' hm'
      simp [not_hadOther fun m hm hid => same_of_id hdb.indexed.id hm hm' hid]
    rw [hnone, List.append_nil, hwrites]

/-- A new message that is not yet sent, or not queued, changes no other. -/
theorem StatusStep.insert (hdb : db.WellFormed) (hindexed : db'.Indexed)
    (hmessages : db'.messages = db.messages ++ [row]) (hwrites : db'.statusWrites = db.statusWrites)
    (hfresh : ∀ m ∈ db.messages, m.id ≠ row.id)
    (hrow : row.status = .ladder .queued → row.providerMessageId = none) : StatusStep db db' where
  wellFormed := by
    refine ⟨hindexed, fun m hm => ?_⟩
    rw [hmessages] at hm
    rcases mem_snoc.mp hm with hm | rfl
    · exact hdb.unsent m hm
    · exact hrow
  goesOn := fun m hm => ⟨m, hmessages ▸ List.mem_append_left _ hm, .refl m⟩
  writes := by
    have hnone : statusChanges db db' = [] := by
      rw [statusChanges, hmessages, List.map_eq_nil_iff, List.filter_eq_nil_iff]
      intro m' hm'
      rcases mem_snoc.mp hm' with hm' | rfl
      · simp [not_hadOther fun m hm hid => same_of_id hdb.indexed.id hm hm' hid]
      · simp [not_hadOther fun m hm hid => absurd hid (hfresh m hm)]
    rw [hnone, List.append_nil, hwrites]

theorem statusChanges_update (hid : UniqueBy MessageRow.idEntry db.messages)
    (hf : ∀ m ∈ db.messages, p m = true → m.Advances (f m)) (hmessages : db'.messages = updateWhere p f db.messages) :
    statusChanges db db' = (db.messages.filter p).map fun m => (f m).changed := by
  have hchanged : ∀ m ∈ db.messages, db.hadOther (if p m then f m else m) = p m := by
    intro m hm
    cases hp : p m with
    | false => exact not_hadOther fun m₀ hm₀ heq => same_of_id hid hm₀ hm heq
    | true =>
      have hadvances := hf m hm hp
      apply List.any_eq_true.mpr
      refine ⟨m, hm, decide_eq_true ⟨?_, ?_⟩⟩
      · exact hadvances.becomes.id.symm
      · exact hadvances.status_ne
  rw [statusChanges, hmessages, updateWhere, List.filter_map, List.map_map]
  have hfilter : db.messages.filter (db.hadOther ∘ fun m => if p m then f m else m) = db.messages.filter p :=
    List.filter_congr hchanged
  rw [hfilter]
  apply List.map_congr_left
  intro m hm
  simp only [Function.comp_apply, (List.mem_filter.mp hm).2, if_true]

theorem StatusStep.update (hdb : db.WellFormed) (hf : ∀ m ∈ db.messages, p m = true → m.Advances (f m)) (hindexed : db'.Indexed)
    (hmessages : db'.messages = updateWhere p f db.messages) (hwrites : db'.statusWrites = db.written p f) :
    StatusStep db db' where
  wellFormed := by
    refine ⟨hindexed, fun m' hm' => ?_⟩
    rw [hmessages] at hm'
    obtain ⟨m, hm, ⟨hp, rfl⟩ | ⟨_, rfl⟩⟩ := mem_updateWhere hm'
    · exact fun hqueued => absurd hqueued (hf m hm hp).not_queued
    · exact hdb.unsent _ hm
  goesOn := by
    intro m hm
    refine ⟨_, hmessages ▸ mem_updateWhere_of_mem (p := p) (f := f) hm, ?_⟩
    split
    · rename_i hp
      exact (hf m hm hp).becomes
    · exact .refl m
  writes := by rw [statusChanges_update hdb.indexed.id hf hmessages, hwrites, DeliveryDb.written]

theorem updateSent_step (hdb : db.WellFormed) (s : MetaSend) : StatusStep db ((updateSent s).alone db).2 := by
  have hindexed := Indexed.recordSent hdb.indexed s
  by_cases hrejected : Rejected db s
  · rw [recordSent_rejected hrejected]
    exact .same hdb rfl rfl
  · rw [recordSent_accepted hrejected] at hindexed ⊢
    refine .update hdb (fun m hm hqueued => ?_) hindexed rfl rfl
    have hstatus := (MessageRow.queuedAs_iff.mp hqueued).2.2
    exact MessageRow.sentAs_advances hstatus (hdb.unsent m hm hstatus) s.providerMessageId

theorem updateFailed_step (hdb : db.WellFormed) (tenantId messageId : Uuid) :
    StatusStep db ((updateFailed tenantId messageId).alone db).2 := by
  refine .update hdb (fun m _ hqueued => ?_) ?_ rfl rfl
  · exact MessageRow.fail_advances (MessageRow.queuedAs_iff.mp hqueued).2.2 db.now
  · exact ⟨hdb.indexed.id.updateWhere fun _ _ _ => .inr rfl, hdb.indexed.provider.updateWhere fun _ _ _ => .inr rfl⟩

theorem ReceiptWrite.step (hdb : db.WellFormed) (happly : w.apply db = .ok (rows, db')) : StatusStep db db' := by
  have hindexed := indexed hdb.indexed happly
  cases effect happly with
  | nothing => exact .same hdb rfl rfl
  | created row reported _ _ hfresh =>
    refine .insert hdb hindexed rfl rfl (fun m hm hid => ?_) fun hqueued => absurd hqueued reported
    exact hfresh (List.any_eq_true.mpr ⟨m, hm, by simpa using hid⟩)
  | advanced _ _ _ t => exact .update hdb (fun m _ hadvance => MessageRow.stamp_advances hadvance t) hindexed rfl rfl

def statusRely : Rely DeliveryStmt DeliveryDb where
  inv := DeliveryDb.WellFormed
  later := GoesOn
  cond _ _ := True
  effect _ := StatusStep

theorem statusRely_sound : statusRely.Sound where
  refl := .refl
  trans := .trans
  keeps _ _ hstep := ⟨hstep.wellFormed, hstep.goesOn⟩

/-- What has been written, and what has been announced. -/
def statusAccounts : Accounts DeliveryDb MessageStatusChanged where
  recorded db := db.statusWrites
  settled db := db.emitted

abbrev Announces {α : Type} (Q : α → DeliveryDb → Multiset MessageStatusChanged → Prop) (db : DeliveryDb)
    (owed : Multiset MessageStatusChanged) (p : DeliveryProg α) : Prop :=
  p.Owes statusRely statusAccounts Q db owed

def Paid {α : Type} (_ : α) (_ : DeliveryDb) (owed : Multiset MessageStatusChanged) : Prop := owed = 0

/-- What an update that changed so many rows owes. -/
def dueFor (count : Nat) (event : MessageStatusChanged) : Multiset MessageStatusChanged :=
  if 0 < count then {event} else 0

theorem emit_announces (db : DeliveryDb) (event : MessageStatusChanged) : Announces Paid db {event} (emit event) := by
  apply Prog.Owes.stmt
  intro db hlater hinv _
  refine ⟨.same hinv rfl rfl, 0, ?_, rfl⟩
  simp only [Accounts.Balances, statusAccounts, ← Multiset.coe_add, Multiset.coe_singleton, add_assoc, add_zero]

theorem emitWhenChanged_announces (db : DeliveryDb) (count : Nat) (event : MessageStatusChanged) :
    Announces Paid db (dueFor count event) (emitWhenChanged count event) := by
  rw [dueFor, emitWhenChanged]
  split
  · exact emit_announces db event
  · rfl

theorem queued_changes (hdb : db.WellFormed) (hknown : ∃ m ∈ db.messages, message.Becomes m)
    (hf : ∀ m : MessageRow, m.providerMessageId = none → (f m).changed = m.announces status providerMessageId) :
    (((db.messages.filter (MessageRow.queuedAs message.tenantId message.id)).map fun m => (f m).changed :
      List MessageStatusChanged) : Multiset MessageStatusChanged) =
        dueFor (db.messages.countP (MessageRow.queuedAs message.tenantId message.id))
          (message.announces status providerMessageId) := by
  rw [dueFor, List.countP_eq_length_filter]
  cases hselected : db.messages.filter (MessageRow.queuedAs message.tenantId message.id) with
  | nil => rfl
  | cons row =>
    have hrow : row ∈ db.messages ∧ row.queuedAs message.tenantId message.id = true :=
      List.mem_filter.mp (hselected ▸ List.mem_cons_self)
    obtain ⟨_, hid, hqueued⟩ := MessageRow.queuedAs_iff.mp hrow.2
    have hone := hdb.indexed.id.filter_eq_singleton hrow.1 hrow.2 fun m _ hm =>
      MessageRow.idEntry_eq ((MessageRow.queuedAs_iff.mp hm).2.1.trans hid.symm)
    rw [hselected] at hone
    obtain ⟨m, hm, hbecomes⟩ := hknown
    have hsame : m = row := same_of_id hdb.indexed.id hm hrow.1 (hbecomes.id.trans hid.symm)
    rw [hone, List.map_singleton, hf row (hdb.unsent row hrow.1 hqueued), ← hsame, hbecomes.announces]
    rfl

/-- The update of a record that found its index free has its answer's debt. -/
theorem updateSent_announces (hknown : ∃ m ∈ db₀.messages, message.Becomes m) (providerMessageId : String) :
    Announces (fun r _ owed => owed = match r with
      | .error _ => 0
      | .ok count => dueFor count (message.announces .sent (some providerMessageId))) db₀ 0
      (updateSent { tenantId := message.tenantId, messageId := message.id, providerMessageId }) := by
  apply Prog.Owes.stmt
  intro db hlater hinv _
  refine ⟨updateSent_step hinv _, ?_⟩
  dsimp only
  split
  · exact ⟨0, (Accounts.Same.balances ⟨rfl, rfl⟩ 0), rfl⟩
  · refine ⟨_, ?_, rfl⟩
    obtain ⟨m₀, hm₀, hbecomes₀⟩ := hknown
    obtain ⟨m, hm, hbecomes⟩ := hlater m₀ hm₀
    have hchanged : ∀ m : MessageRow, m.providerMessageId = none →
        (m.sentAs providerMessageId).changed = m.announces .sent (some providerMessageId) := fun _ _ => rfl
    have hchanges := queued_changes hinv ⟨m, hm, hbecomes₀.trans hbecomes⟩ hchanged
    dsimp only [Accounts.Balances, statusAccounts, DeliveryDb.written]
    rw [← hchanges, ← Multiset.coe_add]
    abel

theorem updateFailed_announces (hknown : ∃ m ∈ db₀.messages, message.Becomes m) :
    Announces (fun count _ owed => owed = dueFor count (message.announces .failed none)) db₀ 0
      (updateFailed message.tenantId message.id) := by
  apply Prog.Owes.stmt
  intro db hlater hinv _
  refine ⟨updateFailed_step hinv _ _, _, ?_, rfl⟩
  obtain ⟨m₀, hm₀, hbecomes₀⟩ := hknown
  obtain ⟨m, hm, hbecomes⟩ := hlater m₀ hm₀
  have hchanged : ∀ m : MessageRow, m.providerMessageId = none →
      (m.fail db.now).changed = m.announces .failed none := fun m hnone =>
    congrArg (MessageStatusChanged.mk m.tenantId m.conversationId m.id (.ladder .failed)) hnone
  have hchanges := queued_changes hinv ⟨m, hm, hbecomes₀.trans hbecomes⟩ hchanged
  dsimp only [Accounts.Balances, statusAccounts, DeliveryDb.written]
  rw [← hchanges, ← Multiset.coe_add]
  abel

theorem recordSent_announces (hknown : ∃ m ∈ db₀.messages, message.Becomes m) (providerMessageId : String) :
    Announces Paid db₀ 0 (recordSent message providerMessageId) := by
  apply (updateSent_announces hknown providerMessageId).bind statusRely_sound
  rintro updated db owed _ rfl
  cases updated with
  | error => rfl
  | ok count =>
    apply (emitWhenChanged_announces db count _).bind statusRely_sound
    exact fun _ _ _ _ hpaid => hpaid

theorem recordFailed_announces (hknown : ∃ m ∈ db₀.messages, message.Becomes m) : Announces Paid db₀ 0 (recordFailed message) := by
  apply (updateFailed_announces hknown).bind statusRely_sound
  rintro count db owed _ rfl
  exact emitWhenChanged_announces db count _

theorem known_later (hlater : GoesOn db db')
    (hknown : ∃ m ∈ db.messages, message.Becomes m) : ∃ m ∈ db'.messages, message.Becomes m := by
  obtain ⟨m, hm, hbecomes⟩ := hknown
  obtain ⟨m', hm', hbecomes'⟩ := hlater m hm
  exact ⟨m', hm', hbecomes.trans hbecomes'⟩

theorem send_announces (db₀ : DeliveryDb) (tenantId messageId : Uuid) (answer : Except SendError String) :
    Announces Paid db₀ 0 (send tenantId messageId answer) := by
  apply Prog.Owes.stmt
  intro db _ hinv _
  cases answer with
  | error => exact ⟨.same hinv rfl rfl, 0, Accounts.Same.balances ⟨rfl, rfl⟩ 0, rfl⟩
  | ok =>
    dsimp only
    split
    · exact ⟨.same hinv rfl rfl, 0, Accounts.Same.balances ⟨rfl, rfl⟩ 0, rfl⟩
    · exact ⟨.same hinv rfl rfl, 0, Accounts.Same.balances ⟨rfl, rfl⟩ 0, rfl⟩

theorem sendAndRecord_announces (hknown : ∃ m ∈ db₀.messages, message.Becomes m) (answer : Except SendError String) :
    Announces Paid db₀ 0 (sendAndRecord message answer) := by
  apply (send_announces db₀ message.tenantId message.id answer).bind statusRely_sound
  rintro sent db owed hlater rfl
  cases sent with
  | error => rfl
  | ok providerMessageId => exact recordSent_announces (known_later hlater hknown) providerMessageId

theorem handleSendError_announces (hknown : ∃ m ∈ db₀.messages, message.Becomes m) (attempt : Nat) (error : SendError) :
    Announces Paid db₀ 0 (handleSendError message attempt error) := by
  rw [handleSendError]
  split
  · rfl
  · exact (recordFailed_announces hknown).bind statusRely_sound fun _ _ _ _ hpaid => hpaid

theorem deliver_announces (db₀ : DeliveryDb) (tenantId messageId : Uuid) (attempt : Nat)
    (answer : Except SendError String) : Announces Paid db₀ 0 (deliver tenantId messageId attempt answer) := by
  have hsame : ∀ db : DeliveryDb, db.WellFormed → StatusStep db db := fun db hdb => .same hdb rfl rfl
  apply Prog.Owes.bind statusRely_sound (Q := fun message db owed => owed = 0 ∧ ∀ m, message = some m → m ∈ db.messages)
  · apply Prog.Owes.read (fun db hdb _ => hsame db hdb)
    exact fun db _ _ => ⟨rfl, fun m hm => List.mem_of_find?_eq_some hm⟩
  · rintro message db owed _ ⟨rfl, hmem⟩
    cases message with
    | none => rfl
    | some message =>
      have hknown : ∃ m ∈ db.messages, message.Becomes m := ⟨message, hmem message rfl, .refl message⟩
      dsimp only
      split
      · rfl
      · apply Prog.Owes.bind statusRely_sound (Q := Paid)
        · exact Prog.Owes.read (fun db hdb _ => hsame db hdb) fun _ _ _ => rfl
        · rintro refusedBy db' owed hlater rfl
          have hknown' := known_later hlater hknown
          cases refusedBy with
          | some _ => exact (recordFailed_announces hknown').bind statusRely_sound fun _ _ _ _ hpaid => hpaid
          | none =>
            apply (sendAndRecord_announces hknown' answer).bind statusRely_sound
            rintro recorded db'' owed hlater' rfl
            cases recorded with
            | ok => rfl
            | error e => exact handleSendError_announces (known_later hlater' hknown') attempt e

theorem drawId_announces (db₀ : DeliveryDb) : Announces Paid db₀ 0 drawId :=
  Prog.Owes.stmt fun _ _ hinv _ => ⟨.same hinv rfl rfl, 0, Accounts.Same.balances ⟨rfl, rfl⟩ 0, rfl⟩

theorem createQueued_announces (db₀ : DeliveryDb) (tenantId conversationId : Uuid) (sentAt : Millis) :
    Announces Paid db₀ 0 (createQueued tenantId conversationId sentAt) := by
  apply (drawId_announces db₀).bind statusRely_sound
  rintro id _ owed _ rfl
  apply Prog.Owes.stmt
  intro db _ hinv _
  split
  · exact ⟨.same hinv rfl rfl, 0, Accounts.Same.balances ⟨rfl, rfl⟩ 0, rfl⟩
  · rename_i hfresh
    refine ⟨?_, 0, Accounts.Same.balances ⟨rfl, rfl⟩ 0, rfl⟩
    have hnew : ∀ m ∈ db.messages, m.id ≠ id := by
      intro m hm hid
      exact hfresh (List.any_eq_true.mpr ⟨m, hm, by simpa using hid⟩)
    have hcreated := @DeliveryEffect.create db id tenantId conversationId sentAt hnew
    have hindexed := hcreated.indexed hinv.indexed
    exact .insert hinv hindexed rfl rfl hnew fun _ => rfl

def Reached (db : DeliveryDb) (tenantId : Uuid) (providerMessageId : String) (status : MessageStatus) : Prop :=
  ∃ m ∈ db.messages, m.providerEntry = some (tenantId, providerMessageId) ∧
    (m.status = .received ∨ AtMost (.ladder status) m.status)

theorem Reached.later (h : Reached db tenantId providerMessageId status) (hlater : GoesOn db db') :
    Reached db' tenantId providerMessageId status := by
  obtain ⟨m, hm, hentry, hstatus⟩ := h
  obtain ⟨m', hm', hbecomes⟩ := hlater m hm
  refine ⟨m', hm', hbecomes.providerEntry hentry, hstatus.imp (fun hreceived => ?_) fun hmost => ?_⟩
  · exact (hreceived ▸ hbecomes.status).received
  · exact hmost.trans hbecomes.status.atMost

theorem MessageRow.advanceable_iff : m.advanceable tenantId providerMessageId status = true ↔
      m.providerEntry = some (tenantId, providerMessageId) ∧
        ∃ source, isMessageStatusAdvance source status = true ∧ m.status = .ladder source := by
  simp only [MessageRow.advanceable, InboundMessage.advanceable, decide_eq_true_eq, mem_advanceableFrom,
    MessageRow.providerEntry, InboundMessage.providerEntry, Option.map_eq_some_iff, Prod.mk.injEq]
  constructor
  · rintro ⟨htenant, hprovider, hsource⟩
    exact ⟨⟨_, hprovider, htenant, rfl⟩, hsource⟩
  · rintro ⟨⟨_, hprovider, htenant, rfl⟩, hsource⟩
    exact ⟨htenant, hprovider, hsource⟩

theorem reached_of_not_advanceable (hm : m ∈ db.messages) (hentry : m.providerEntry = some (tenantId, providerMessageId))
    (hnot : m.advanceable tenantId providerMessageId status ≠ true) :
    Reached db tenantId providerMessageId status := by
  refine ⟨m, hm, hentry, ?_⟩
  cases hstatus : m.status with
  | received => exact .inl rfl
  | ladder source =>
    right
    by_contra hbelow
    apply hnot
    rw [MessageRow.advanceable_iff]
    refine ⟨hentry, source, ?_, hstatus⟩
    have hrank : source.rank < status.rank := Nat.lt_of_not_le hbelow
    refine isMessageStatusAdvance_iff.mpr ⟨fun hfailed => ?_, hrank⟩
    rw [hfailed] at hrank
    cases status <;> exact absurd hrank (by decide)

theorem advanced_row (hdb : db.WellFormed) (hrows : rows ≠ [])
    (happly : (ReceiptWrite.advanceStatus tenantId providerMessageId status t).apply db = .ok (rows, db')) :
    ∃ m ∈ db'.messages, m.providerEntry = some (tenantId, providerMessageId) ∧ m.status = .ladder status ∧
      db'.statusWrites = db.statusWrites ++ [m.changed] ∧ db'.emitted = db.emitted := by
  cases ReceiptWrite.effect happly with
  | nothing => exact absurd rfl hrows
  | advanced _ _ _ _ _ hsome =>
    obtain ⟨m, hselected⟩ := List.exists_mem_of_ne_nil _ hsome
    obtain ⟨hm, hadvance⟩ := List.mem_filter.mp hselected
    have hentry := (MessageRow.advanceable_iff.mp hadvance).1
    have hone := hdb.indexed.provider.filter_eq_singleton hm hadvance fun r _ hr =>
      (MessageRow.advanceable_iff.mp hr).1
    refine ⟨m.stamp status t, ?_, ?_, MessageRow.stamp_status status t m, ?_, rfl⟩
    · have hmem := mem_updateWhere_of_mem (p := MessageRow.advanceable tenantId providerMessageId status)
        (f := MessageRow.stamp status t) hm
      rwa [if_pos hadvance] at hmem
    · rw [MessageRow.stamp_providerEntry, hentry]
    · simp only [DeliveryDb.written, hone, List.map_singleton]

theorem receiptWrites_nothing (happly : w.apply db = .ok ([], db')) : db' = db := by
  cases ReceiptWrite.effect happly with
  | nothing => rfl
  | advanced _ _ _ _ _ hsome hrows => exact absurd (List.map_eq_nil_iff.mp hrows.symm) hsome

theorem advanceable_of_rows {db₁ db₂ : DeliveryDb} (hdb₁ : UniqueBy MessageRow.idEntry db₁.messages)
    (hrows : (db₁.messages.filter p).map (·.id) = (db₂.messages.filter p).map (·.id))
    (hm₁ : m₁ ∈ db₁.messages) (hm₂ : m₂ ∈ db₂.messages) (hid : m₂.id = m₁.id) (hp : p m₂ = true) : p m₁ = true := by
  have hmem : m₁.id ∈ (db₁.messages.filter p).map (·.id) := by
    rw [hrows, ← hid]
    exact List.mem_map_of_mem (List.mem_filter.mpr ⟨hm₂, hp⟩)
  obtain ⟨m, hm, hsame⟩ := List.mem_map.mp hmem
  obtain ⟨hm, hpm⟩ := List.mem_filter.mp hm
  rwa [← same_of_id hdb₁ hm hm₁ hsame]

theorem receiptWrites_mono {db₁ db₂ : DeliveryDb} (hdb₁ : db₁.WellFormed) (hdb₂ : db₂.WellFormed) (hlater : GoesOn db₁ db₂) (hrows : rows ≠ [])
    (happly₁ : w.apply db₁ = .ok (rows, db₁')) (happly₂ : w.apply db₂ = .ok (rows, db₂')) : GoesOn db₁' db₂' := by
  cases ReceiptWrite.effect happly₁ with
  | nothing => exact absurd rfl hrows
  | created =>
    cases ReceiptWrite.effect happly₂
    intro m hm
    rcases List.mem_append.mp hm with hm | hm
    · obtain ⟨m', hm', hbecomes⟩ := hlater m hm
      exact ⟨m', List.mem_append_left _ hm', hbecomes⟩
    · exact ⟨m, List.mem_append_right _ hm, .refl m⟩
  | advanced tenantId providerMessageId status t _ _ hrows₁ =>
    cases ReceiptWrite.effect happly₂ with
    | nothing => exact absurd rfl hrows
    | advanced _ _ _ _ _ _ hrows₂ =>
      have hsame := hrows₁.symm.trans hrows₂
      intro m' hm'
      obtain ⟨m, hm, ⟨hp, rfl⟩ | ⟨hp, rfl⟩⟩ := mem_updateWhere hm'
      · obtain ⟨m₂, hm₂, hbecomes⟩ := hlater m hm
        have hp₂ := advanceable_of_rows hdb₂.indexed.id hsame.symm hm₂ hm hbecomes.id.symm hp
        have hmem := mem_updateWhere_of_mem (p := MessageRow.advanceable tenantId providerMessageId status)
          (f := MessageRow.stamp status t) hm₂
        rw [if_pos hp₂] at hmem
        refine ⟨_, hmem, ?_⟩
        have hfirst := (MessageRow.stamp_advances hp t).becomes
        have hsecond := (MessageRow.stamp_advances hp₂ t).becomes
        refine ⟨hsecond.id.trans (hbecomes.id.trans hfirst.id.symm),
          hsecond.tenantId.trans (hbecomes.tenantId.trans hfirst.tenantId.symm),
          hsecond.conversationId.trans (hbecomes.conversationId.trans hfirst.conversationId.symm), ?_, ?_⟩
        · right
          have hentry := (MessageRow.advanceable_iff.mp hp).1
          have hentry₂ := hbecomes.providerEntry hentry
          rw [← MessageRow.stamp_providerEntry status t] at hentry hentry₂
          obtain ⟨id, hid, heq⟩ := Option.map_eq_some_iff.mp hentry
          obtain ⟨id₂, hid₂, heq₂⟩ := Option.map_eq_some_iff.mp hentry₂
          rw [hid, hid₂, (Prod.mk.inj heq).2, (Prod.mk.inj heq₂).2]
        · rw [MessageRow.stamp_status, MessageRow.stamp_status]
          exact .refl _
      · obtain ⟨m₂, hm₂, hbecomes⟩ := hlater m' hm
        refine ⟨m₂, ?_, hbecomes⟩
        apply mem_updateWhere_of_not hm₂
        by_contra hp₂
        rw [Bool.not_eq_false] at hp₂
        rw [advanceable_of_rows hdb₁.indexed.id hsame hm hm₂ hbecomes.id hp₂] at hp
        cases hp

theorem receiptWrites_sound : receiptWrites.Sound statusRely where
  nothing := receiptWrites_nothing
  keeps hinv happly := ⟨(ReceiptWrite.step hinv happly).wellFormed, (ReceiptWrite.step hinv happly).goesOn⟩
  mono := receiptWrites_mono

def Decided (tenantId : Uuid) (providerMessageId : String) (status : MessageStatus) :
    Option MessageStatusChanged → List (ReceiptWrite × List Uuid) → DeliveryDb → Prop
  | none, ws, v => Reached v tenantId providerMessageId status ∧
      (ws = [] ∨ ∃ row reported rows, ws = [(.createPlaceholder row reported, rows)])
  | some event, ws, v => (∃ t rows, ws = [(.advanceStatus tenantId providerMessageId status t, rows)]) ∧
      ∃ m ∈ v.messages, m.providerEntry = some (tenantId, providerMessageId) ∧
        event = m.announces status (some providerMessageId)

theorem findByProvider_some (h : db.findByProvider tenantId providerMessageId = some m) :
    m ∈ db.messages ∧ m.providerEntry = some (tenantId, providerMessageId) := by
  have hfound := (of_find? h).2
  refine ⟨List.mem_of_find?_eq_some h, ?_⟩
  rw [MessageRow.providerEntry, InboundMessage.providerEntry, hfound.1, hfound.2, Option.map_some]

theorem createIfMissing_tracks {id : Uuid} {update : WhatsAppMessageStatusUpdate} {status : ProviderReportedStatus}
    (hexisting : ∀ m, existing = some m → m ∈ v₀.messages ∧ m.providerEntry = some (tenantId, update.id)) :
    (createIfMissing id tenantId conversationId update status existing).Tracks receiptWrites statusRely
      (fun created ws v => if created
        then Reached v tenantId update.id status.1 ∧ ∃ row reported rows, ws = [(.createPlaceholder row reported, rows)]
        else ws = [] ∧ GoesOn v₀ v ∧ ∃ m ∈ v.messages, m.providerEntry = some (tenantId, update.id)) [] v₀ := by
  cases existing with
  | some m => exact ⟨rfl, .refl v₀, m, hexisting m rfl⟩
  | none =>
    intro v rows v' hv hinv happly
    have hentry : (placeholderRow id tenantId conversationId update status.1).providerEntry =
        some (tenantId, update.id) := by
      rcases status with ⟨status, _⟩
      cases status <;> rfl
    simp only [receiptWrites, ReceiptWrite.apply] at happly
    split at happly
    · rename_i hclash
      cases happly
      obtain ⟨m, hm, hsame⟩ := List.any_eq_true.mp hclash
      exact ⟨rfl, hv, m, hm, ((of_decide_eq_true hsame).2.symm.trans hentry)⟩
    · cases (ok_of_ite happly).2
      refine ⟨⟨_, List.mem_concat_self, hentry, .inr ?_⟩, _, _, _, rfl⟩
      rw [placeholderRow_status]
      exact .refl _

theorem advanceStatus_tracks {update : WhatsAppMessageStatusUpdate}
    {status : ProviderReportedStatus} (hm : m ∈ v₀.messages) (hentry : m.providerEntry = some (tenantId, update.id)) :
    (advanceStatus tenantId update status.1).Tracks receiptWrites statusRely
      (fun advanced ws v => GoesOn v₀ v ∧ if advanced
        then ∃ t rows, ws = [(.advanceStatus tenantId update.id status.1 t, rows)]
        else ws = [] ∧ Reached v tenantId update.id status.1) [] v₀ := by
  have hsome : advanceableFrom status.1 ≠ [] := by
    rcases status with ⟨status, hreported⟩
    intro hnone
    change advanceableFrom status = [] at hnone
    cases status with
    | queued => exact hreported rfl
    | _ => cases hnone
  rw [advanceStatus, if_neg hsome]
  intro v rows v' hv hinv happly
  have hlater : GoesOn v₀ v' := GoesOn.trans hv (receiptWrites_sound.keeps hinv happly).2
  refine ⟨hlater, ?_⟩
  cases rows with
  | cons => exact ⟨_, _, rfl⟩
  | nil =>
    refine ⟨rfl, ?_⟩
    obtain ⟨m', hm', hbecomes⟩ := hv m hm
    rw [receiptWrites_sound.nothing happly]
    simp only [receiptWrites, ReceiptWrite.apply] at happly
    split at happly
    · rename_i hnone
      apply reached_of_not_advanceable hm' (hbecomes.providerEntry hentry)
      exact List.filter_eq_nil_iff.mp hnone m' hm'
    · rename_i hselected
      simp only [Except.ok.injEq, Prod.mk.injEq, List.map_eq_nil_iff] at happly
      exact absurd happly.1 hselected

theorem advancedMessage_tracks (hexisting : ∀ m, existing = some m →
      (∃ m' ∈ v₀.messages, m.Becomes m') ∧ m.providerEntry = some (tenantId, providerMessageId))
    (hws : ∃ t rows, ws = [(.advanceStatus tenantId providerMessageId status t, rows)]) :
    (advancedMessage tenantId providerMessageId existing).Tracks receiptWrites statusRely
      (fun message ws v => message.tenantId = tenantId ∧
        Decided tenantId providerMessageId status (some (message.announces status (some providerMessageId))) ws v)
      ws v₀ := by
  have htenant : ∀ m : MessageRow, m.providerEntry = some (tenantId, providerMessageId) → m.tenantId = tenantId := by
    intro m hentry
    obtain ⟨_, _, heq⟩ := Option.map_eq_some_iff.mp hentry
    exact (Prod.mk.inj heq).1
  cases existing with
  | some m =>
    obtain ⟨⟨m', hm', hbecomes⟩, hentry⟩ := hexisting m rfl
    exact ⟨htenant m hentry, hws, m', hm', hbecomes.providerEntry hentry, (hbecomes.announces _ _).symm⟩
  | none =>
    intro v _ _
    simp only [Tx.bind_pure_left]
    split
    · rename_i m hfound
      obtain ⟨hm, hentry⟩ := findByProvider_some hfound
      exact ⟨htenant m hentry, hws, m, hm, hentry, rfl⟩
    · trivial

theorem receiptTransaction_tracks (id tenantId conversationId : Uuid) (update : WhatsAppMessageStatusUpdate)
    (status : ProviderReportedStatus) (v₀ : DeliveryDb) :
    (receiptTransaction id tenantId conversationId update status).Tracks receiptWrites statusRely
      (Decided tenantId update.id status.1) [] v₀ := by
  simp only [receiptTransaction, Tx.bind_def, Tx.bind_query]
  intro v₁ _ _
  dsimp only
  split
  · intro v₂ _ _
    have hexisting : ∀ m, v₂.findByProvider tenantId update.id = some m →
        m ∈ v₂.messages ∧ m.providerEntry = some (tenantId, update.id) := fun m hm => findByProvider_some hm
    apply (createIfMissing_tracks hexisting).bind
    intro created ws v₃ hcreated
    cases created with
    | true => exact ⟨hcreated.1, .inr hcreated.2⟩
    | false =>
      obtain ⟨rfl, hlater, m, hm, hentry⟩ := hcreated
      apply (advanceStatus_tracks hm hentry).bind
      rintro advanced ws v₄ ⟨hlater', hadvanced⟩
      cases advanced with
      | false => exact ⟨hadvanced.2, .inl hadvanced.1⟩
      | true =>
        have hknown : ∀ e, v₂.findByProvider tenantId update.id = some e →
            (∃ m' ∈ v₄.messages, e.Becomes m') ∧ e.providerEntry = some (tenantId, update.id) := by
          intro e he
          obtain ⟨hmem, heentry⟩ := hexisting e he
          exact ⟨known_later (hlater.trans hlater') ⟨e, hmem, .refl e⟩, heentry⟩
        apply Tx.Tracks.bind (advancedMessage_tracks hknown hadvanced)
        rintro message ws v₅ ⟨htenant, hdecided⟩
        subst htenant
        exact hdecided
  · trivial

/-- What a receipt that has committed still has to announce. -/
def dueAfter : Option MessageStatusChanged → Multiset MessageStatusChanged
  | none => 0
  | some event => {event}

theorem apply_of_single (happly : applyAll receiptWrites [(w, rows)] db = .ok db') : w.apply db = .ok (rows, db') :=
  applyAll_single.mp happly

theorem receipt_commits (hdecided : Decided tenantId providerMessageId status event ws v) (hheld : ∀ e ∈ ws, e.2 ≠ [])
    (hdb : db.WellFormed) (happly : applyAll receiptWrites ws db = .ok db') (hlater : GoesOn v db') :
    StatusStep db db' ∧ statusAccounts.Balances db db' 0 (dueAfter event) ∧
      Reached db' tenantId providerMessageId status := by
  cases event with
  | none =>
    obtain ⟨hreached, rfl | ⟨row, reported, rows, rfl⟩⟩ := hdecided
    · cases happly
      exact ⟨.same hdb rfl rfl, Accounts.Same.balances ⟨rfl, rfl⟩ 0, hreached.later hlater⟩
    · have hw := apply_of_single happly
      refine ⟨ReceiptWrite.step hdb hw, ?_, hreached.later hlater⟩
      simp only [ReceiptWrite.apply] at hw
      split at hw
      · cases hw
        exact Accounts.Same.balances ⟨rfl, rfl⟩ 0
      · cases (ok_of_ite hw).2
        exact Accounts.Same.balances ⟨rfl, rfl⟩ 0
  | some =>
    obtain ⟨⟨t, rows, rfl⟩, m, hm, hentry, rfl⟩ := hdecided
    have hw := apply_of_single happly
    have hstep := ReceiptWrite.step hdb hw
    obtain ⟨m', hm', hentry', hstatus, hwrites, hemitted⟩ := advanced_row hdb (hheld _ List.mem_cons_self) hw
    refine ⟨hstep, ?_, m', hm', hentry', .inr (hstatus ▸ .refl _)⟩
    -- the row of the announcement and the row that was advanced have one provider's id
    obtain ⟨m'', hm'', hbecomes⟩ := hlater m hm
    have hsame : m'' = m' := hstep.wellFormed.indexed.provider.eq_of_entry hm'' hm' (hbecomes.providerEntry hentry)
      hentry'
    have hchanged : m'.changed = m.announces status (some providerMessageId) := by
      obtain ⟨id, hid, heq⟩ := Option.map_eq_some_iff.mp hentry'
      rw [← hbecomes.announces, hsame, MessageRow.changed, hstatus, hid, (Prod.mk.inj heq).2]
      rfl
    simp only [Accounts.Balances, statusAccounts, hwrites, hemitted, hchanged, dueAfter, ← Multiset.coe_add,
      Multiset.coe_singleton]
    abel

theorem emitIfAny_announces (db : DeliveryDb) (event : Option MessageStatusChanged) :
    Announces Paid db (dueAfter event) (emitIfAny event) := by
  cases event with
  | none => rfl
  | some event => exact emit_announces db event

theorem toReportedStatus_some {status : ProviderReportedStatus}
    (h : toReportedStatus metaStatus = some status) : toMessageStatus metaStatus = some status.1 := by
  rw [toReportedStatus] at h
  split at h
  · cases h
  · rename_i hstatus
    cases h
    exact hstatus

theorem toReportedStatus_none (h : toReportedStatus metaStatus = none) : toMessageStatus metaStatus = none := by
  rw [toReportedStatus] at h
  split at h
  · rename_i hnone
    exact hnone
  · cases h

/-- What an applied receipt has brought about. -/
def Applied (account : RoutedWhatsAppAccount) (update : WhatsAppMessageStatusUpdate)
    (result : Except WebhookError Bool) (db : DeliveryDb) : Prop :=
  result = .ok true → ∀ status, toMessageStatus update.status = some status →
    Reached db account.tenantId update.id status

/-- What the transaction of a receipt leaves owed, and where it has moved the message. -/
def Receipted (tenantId : Uuid) (providerMessageId : String) (status : MessageStatus) :
    Except WebhookError (Option MessageStatusChanged) → DeliveryDb → Multiset MessageStatusChanged → Prop
  | .error _, _, owed => owed = 0
  | .ok event, db, owed => owed = dueAfter event ∧ Reached db tenantId providerMessageId status

theorem applyReceipt_announces (db₀ : DeliveryDb) (account : RoutedWhatsAppAccount) (conversationId : Uuid)
    (update : WhatsAppMessageStatusUpdate) :
    Announces (fun result db owed => owed = 0 ∧ Applied account update result db) db₀ 0
      (applyReceipt account conversationId update) := by
  rw [applyReceipt]
  split
  · rename_i hnone
    refine ⟨rfl, fun _ status hstatus => ?_⟩
    rw [toReportedStatus_none hnone] at hstatus
    cases hstatus
  · rename_i status hstatus
    split
    · exact ⟨rfl, fun hresult => by cases hresult⟩
    · apply (drawId_announces db₀).bind statusRely_sound
      rintro id db owed _ rfl
      apply Prog.Owes.bind statusRely_sound (Q := Receipted account.tenantId update.id status.1)
      · refine Tx.Tracks.owes statusRely_sound receiptWrites_sound.steady ?_ ?_ ?_ ?_
          (receiptTransaction_tracks id account.tenantId conversationId update status db) (Tx.Holds.nil db)
        · exact fun _ db hdb => .same hdb rfl rfl
        · exact fun _ db hdb => .same hdb rfl rfl
        · exact fun _ _ => rfl
        · intro event ws v db db' hdecided hheld hdb _ happly hlater
          obtain ⟨hstep, hbalance, hreached⟩ := receipt_commits hdecided hheld hdb happly hlater
          exact ⟨hstep, _, hbalance, rfl, hreached⟩
      · intro applied db' owed _ hdue
        cases applied with
        | error =>
          subst hdue
          exact ⟨rfl, fun hresult => by cases hresult⟩
        | ok event =>
          obtain ⟨rfl, hreached⟩ := hdue
          apply (emitIfAny_announces db' event).bind statusRely_sound
          rintro _ db'' owed hlater rfl
          refine ⟨rfl, fun _ other hother => ?_⟩
          rw [toReportedStatus_some hstatus] at hother
          cases hother
          exact hreached.later hlater

/-- What a call has brought about when it has answered. -/
def Promised : DeliveryCall → DeliveryReply → DeliveryDb → Prop
  | .receipt account _ update, .applied result, db => Applied account update result db
  | _, _, _ => True

theorem Promised.later (hlater : GoesOn db db') (h : Promised call reply db) : Promised call reply db' := by
  cases call with
  | receipt =>
    cases reply with
    | applied => exact fun hresult status hstatus => (h hresult status hstatus).later hlater
    | _ => trivial
  | _ => trivial

theorem deliveryProgram_announces (call : DeliveryCall) (db₀ : DeliveryDb) :
    Announces (fun reply db owed => owed = 0 ∧ Promised call reply db) db₀ 0 (deliveryProgram call) := by
  cases call with
  | create tenantId conversationId sentAt =>
    apply (createQueued_announces db₀ tenantId conversationId sentAt).bind statusRely_sound
    exact fun _ _ _ _ hpaid => ⟨hpaid, trivial⟩
  | deliver tenantId messageId attempt answer =>
    apply (deliver_announces db₀ tenantId messageId attempt answer).bind statusRely_sound
    exact fun _ _ _ _ hpaid => ⟨hpaid, trivial⟩
  | receipt account conversationId update =>
    apply (applyReceipt_announces db₀ account conversationId update).bind statusRely_sound
    exact fun _ _ _ _ hdone => hdone

def appliedTo (messageId : Uuid) (writes : List MessageStatusChanged) : List StoredStatus :=
  (writes.filter (·.messageId = messageId)).map (·.status)

theorem appliedTo_append (messageId : Uuid) (writes writes' : List MessageStatusChanged) :
    appliedTo messageId (writes ++ writes') = appliedTo messageId writes ++ appliedTo messageId writes' := by
  simp [appliedTo]

theorem StatusStep.highest (h : StatusStep db db') (hm : m ∈ db.messages) (hm' : m' ∈ db'.messages) (hbecomes : m.Becomes m') :
    IsHighest m'.status (m.status :: appliedTo m.id (statusChanges db db')) := by
  have happlied : ∀ status ∈ appliedTo m.id (statusChanges db db'), status = m'.status := by
    intro status hstatus
    obtain ⟨event, hevent, rfl⟩ := List.mem_map.mp hstatus
    obtain ⟨hevent, hid⟩ := List.mem_filter.mp hevent
    obtain ⟨r, hr, rfl⟩ := List.mem_map.mp hevent
    have hrid : r.id = m'.id := (of_decide_eq_true hid).trans hbecomes.id.symm
    rw [same_of_id h.wellFormed.indexed.id (List.mem_filter.mp hr).1 hm' hrid]
    rfl
  refine ⟨?_, fun other hother => ?_⟩
  · by_cases hsame : m.status = m'.status
    · rw [hsame]
      exact List.mem_cons_self
    · apply List.mem_cons_of_mem
      have hother : db.hadOther m' = true :=
        List.any_eq_true.mpr ⟨m, hm, decide_eq_true ⟨hbecomes.id.symm, hsame⟩⟩
      have hchange : m'.changed ∈ statusChanges db db' :=
        List.mem_map_of_mem (List.mem_filter.mpr ⟨hm', hother⟩)
      exact List.mem_map_of_mem (f := MessageStatusChanged.status)
        (List.mem_filter.mpr ⟨hchange, decide_eq_true hbecomes.id⟩)
  · rcases List.mem_cons.mp hother with rfl | hother
    · exact hbecomes.status.atMost
    · rw [happlied other hother]
      exact .refl _

/-- What has become of the messages since `start`: each has gone on, and its status is the highest one it has been
    given. -/
def ClimbedSince (start db : DeliveryDb) : Prop :=
  ∃ writes, db.statusWrites = start.statusWrites ++ writes ∧
    ∀ m ∈ start.messages, ∃ m' ∈ db.messages, m.Becomes m' ∧
      IsHighest m'.status (m.status :: appliedTo m.id writes)

theorem ClimbedSince.refl (db : DeliveryDb) : ClimbedSince db db :=
  ⟨[], by simp, fun m hm => ⟨m, hm, .refl m, .single m.status⟩⟩

theorem ClimbedSince.step {start : DeliveryDb} (hstep : StatusStep db db') (h : ClimbedSince start db) :
    ClimbedSince start db' := by
  obtain ⟨writes, hwrites, hrows⟩ := h
  refine ⟨writes ++ statusChanges db db', by rw [hstep.writes, hwrites, List.append_assoc], fun m hm => ?_⟩
  obtain ⟨m', hm', hbecomes, hhighest⟩ := hrows m hm
  obtain ⟨m'', hm'', hbecomes'⟩ := hstep.goesOn m' hm'
  refine ⟨m'', hm'', hbecomes.trans hbecomes', ?_⟩
  have hnew := hstep.highest hm' hm'' hbecomes'
  rw [hbecomes.id] at hnew
  rw [appliedTo_append]
  exact hhighest.trans hnew

theorem deliveryProgram_guards (call : DeliveryCall) (db : DeliveryDb) :
    Prog.Guards statusRely db (deliveryProgram call) :=
  (deliveryProgram_announces call db).guards

theorem DeliveryRun.guarded (hdb : db.WellFormed) (hs : DeliveryRun db s) : s.Guarded statusRely :=
  Reachable.guards statusRely_sound deliveryProgram_guards (fun _ _ _ _ => trivial) (Sys.guarded_idle hdb) hs

def Announced (s : DeliverySys) : Prop :=
  ∃ owed : List (Multiset MessageStatusChanged),
    List.Forall₂ (fun e o => e.2.result?.isSome = true → o = 0) s.calls owed ∧
      (s.db.statusWrites : Multiset MessageStatusChanged) = s.db.emitted + owed.sum

theorem Announced.perm (h : Announced s) (hfinished : ∀ e ∈ s.calls, e.2.result?.isSome = true) :
    s.db.emitted.Perm s.db.statusWrites := by
  obtain ⟨owed, hcalls, hsum⟩ := h
  have hzero : ∀ o ∈ owed, o = 0 := forall₂_forall_right hcalls fun e he o hpaid => hpaid (hfinished e he)
  rw [List.sum_eq_zero hzero, add_zero] at hsum
  exact (Multiset.coe_eq_coe.mp hsum).symm

theorem DeliveryRun.honest (hdb : db.WellFormed)
    (hrecords : db.statusWrites = [] ∧ db.emitted = []) (hs : DeliveryRun db s) :
    s.Honest statusRely statusAccounts fun call reply db owed => owed = 0 ∧ Promised call reply db := by
  refine Reachable.honest statusRely_sound deliveryProgram_announces ?_ (fun _ _ _ _ => trivial) hdb ?_ hs
  · exact fun _ _ _ _ _ hlater hdone => ⟨hdone.1, hdone.2.later hlater⟩
  · simp only [statusAccounts, hrecords.1, hrecords.2]

theorem Honest.announced {Q : DeliveryCall → DeliveryReply → DeliveryDb → Prop}
    (h : s.Honest statusRely statusAccounts fun call reply db owed => owed = 0 ∧ Q call reply db) : Announced s := by
  obtain ⟨owed, hcalls, hsum⟩ := h.owed
  refine ⟨owed, hcalls.imp fun e o howes hfinished => ?_, hsum⟩
  obtain ⟨call, p⟩ := e
  cases p with
  | pure => exact howes.1
  | atomic => cases hfinished

theorem Honest.promised {Q : DeliveryCall → DeliveryReply → DeliveryDb → Prop}
    (h : s.Honest statusRely statusAccounts fun call reply db owed => owed = 0 ∧ Q call reply db)
    (hfinished : s.Finished call reply) : Q call reply s.db := by
  obtain ⟨owed, hcalls, _⟩ := h.owed
  obtain ⟨i, hi⟩ := List.getElem?_of_mem hfinished
  obtain ⟨_, _, howes, _⟩ := forall₂_set hcalls hi
  exact howes.2

/-- In every run each message's status never falls and is the highest it has been given; each statement puts on
    record what it changes; an applied receipt is never undone; and each write is announced exactly once. -/
theorem message_status_only_climbs {db : DeliveryDb} (hdb : db.WellFormed)
    (hrecords : db.statusWrites = [] ∧ db.emitted = []) :
    (∀ s s' : DeliverySys, DeliveryRun db s → Reachable deliveryProgram anyStep s s' →
      ∃ writes, s'.db.statusWrites = s.db.statusWrites ++ writes ∧ ∀ m ∈ s.db.messages, ∃ m' ∈ s'.db.messages,
        m'.id = m.id ∧ AtMost m.status m'.status ∧ (m.status = .ladder .failed → m'.status = .ladder .failed) ∧
          IsHighest m'.status (m.status :: appliedTo m.id writes)) ∧
    (∀ s s' : DeliverySys, DeliveryRun db s → Step deliveryProgram anyStep s s' →
      s'.db.statusWrites = s.db.statusWrites ++ statusChanges s.db s'.db) ∧
    (∀ s account conversationId update status, DeliveryRun db s →
      s.Finished (.receipt account conversationId update) (.applied (.ok true)) →
      toMessageStatus update.status = some status → Reached s.db account.tenantId update.id status) ∧
    ∀ s, DeliveryRun db s →
      Announced s ∧ ((∀ e ∈ s.calls, e.2.result?.isSome = true) → s.db.emitted.Perm s.db.statusWrites) := by
  refine ⟨fun s s' hs hlater => ?_, fun s s' hs hstep => ?_, ?_, fun s hs => ?_⟩
  · have hclimbed : ClimbedSince s.db s'.db :=
      Reachable.effect statusRely_sound deliveryProgram_guards (fun _ _ _ _ => trivial)
        (fun _ _ _ _ _ hstep h => h.step hstep) (hs.guarded hdb) (.refl s.db) hlater
    obtain ⟨writes, hwrites, hrows⟩ := hclimbed
    refine ⟨writes, hwrites, fun m hm => ?_⟩
    obtain ⟨m', hm', hbecomes, hhighest⟩ := hrows m hm
    have hmost := hbecomes.status.atMost
    exact ⟨m', hm', hbecomes.id, hmost, fun hfailed => (hfailed ▸ hmost).failed, hhighest⟩
  · have hguarded := hs.guarded hdb
    have hmoves := (hstep.guarded statusRely_sound deliveryProgram_guards (fun _ _ _ _ => trivial) hguarded).2
    rcases hmoves with hsame | ⟨_, _, heffect⟩
    · exact (StatusStep.same hguarded.inv (by rw [hsame]) (by rw [hsame])).writes
    · exact heffect.writes
  · intro s account conversationId update status hs hfinished hstatus
    exact Honest.promised (hs.honest hdb hrecords) hfinished rfl status hstatus
  · have hannounced := Honest.announced (hs.honest hdb hrecords)
    exact ⟨hannounced, hannounced.perm⟩

/-- A message is sent and delivered, the receipt that it was sent comes last, and two changes are announced. -/
theorem message_status_only_climbs_lateReceipt :
    ∃ s, DeliveryRun activeTenant s ∧ s.db.messages.map (·.status) = [.ladder .delivered] ∧
      s.db.statusWrites.map (·.status) = [.ladder .sent, .ladder .delivered] ∧
      s.db.emitted.Perm s.db.statusWrites := by
  have hrun : (run deliveryProgram (fun _ _ _ => true)
      (acceptedSchedule ++ [.step 1, .step 1, .spawn (.receipt ⟨1, 2⟩ 7 deliveredReceipt)] ++
        List.replicate 6 (.step 2) ++ [.spawn (.receipt ⟨1, 2⟩ 7 { deliveredReceipt with status := "sent" })] ++
        List.replicate 5 (.step 3)) (.idle activeTenant)).map
      (fun s => (s.calls.all (·.2.result?.isSome), s.db.messages.map (·.status), s.db.statusWrites.map (·.status))) =
        some (true, [.ladder .delivered], [.ladder .sent, .ladder .delivered]) := by
    decide +kernel
  obtain ⟨s, hreach, hend⟩ := ends_of_run_any hrun
  simp only [Prod.mk.injEq] at hend
  obtain ⟨hfinished, hmessages, hwrites⟩ := hend
  have hwellFormed : activeTenant.WellFormed := ⟨⟨by decide, by decide⟩, by decide⟩
  have hclimbs := message_status_only_climbs hwellFormed ⟨rfl, rfl⟩
  exact ⟨s, hreach, hmessages, hwrites, (hclimbs.2.2.2 s hreach).2 (List.all_eq_true.mp hfinished)⟩

end WhatsappCrm.Conversations
