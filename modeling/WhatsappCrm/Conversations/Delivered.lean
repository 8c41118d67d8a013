/-
Purpose: What becomes of a send that Meta accepted.
-/
import WhatsappCrm.Conversations.Dispatcher

namespace WhatsappCrm.Conversations

open Interleaving Table Webhooks

variable (message : MessageRow)

def MetaSend.carriedBy (s : MetaSend) (m : MessageRow) : Bool :=
  m.tenantId = s.tenantId ∧ m.providerMessageId = some s.providerMessageId

def StoredStatus.HasLeft (status : StoredStatus) : Prop :=
  status = .ladder .sent ∨ status = .ladder .delivered ∨ status = .ladder .read

instance (status : StoredStatus) : Decidable (StoredStatus.HasLeft status) :=
  inferInstanceAs (Decidable (_ ∨ _))

def Settled (db : DeliveryDb) (s : MetaSend) (status : StoredStatus) : Prop :=
  StoredStatus.HasLeft status ∨ (status = .ladder .failed ∧ (s.tenantId, s.providerMessageId) ∈ db.failures)

instance (db : DeliveryDb) (s : MetaSend) (status : StoredStatus) : Decidable (Settled db s status) :=
  inferInstanceAs (Decidable (_ ∨ _))

def Recorded (db : DeliveryDb) (s : MetaSend) : Prop :=
  ∃ row ∈ db.messages, db.messages.filter s.carriedBy = [row] ∧ row.id = s.messageId ∧ Settled db s row.status

instance (db : DeliveryDb) (s : MetaSend) : Decidable (Recorded db s) :=
  List.decidableBEx _ db.messages

def StillQueued (db : DeliveryDb) (s : MetaSend) : Prop :=
  ∃ row ∈ db.messages, row.queuedAs s.tenantId s.messageId = true

def IdIsFree (db : DeliveryDb) (s : MetaSend) : Prop :=
  ∀ row ∈ db.messages, s.carriedBy row = true → row.queuedAs s.tenantId s.messageId = true

def MayRecord (db : DeliveryDb) : DeliveryStmt → Prop
  | .recordSent s => StillQueued db s ∧ IdIsFree db s
  | _ => True

instance (db : DeliveryDb) (s : MetaSend) : Decidable (StillQueued db s) := List.decidableBEx _ db.messages

instance (db : DeliveryDb) (s : MetaSend) : Decidable (IdIsFree db s) := List.decidableBAll _ db.messages

instance (db : DeliveryDb) (tag : DeliveryStmt) : Decidable (MayRecord db tag) := by
  unfold MayRecord
  split <;> infer_instance

def recordsUnovertaken (s : DeliverySys) (_ : DeliveryCall) (tag : DeliveryStmt) : Prop := MayRecord s.db tag

structure SameMessages (db db' : DeliveryDb) : Prop where
  messages : db'.messages = db.messages
  tried : db'.tried = db.tried
  failures : db'.failures = db.failures

theorem SameMessages.refl (db : DeliveryDb) : SameMessages db db := ⟨rfl, rfl, rfl⟩

inductive DeliveryEffect : DeliveryStmt → DeliveryDb → DeliveryDb → Prop where
  | same {tag : DeliveryStmt} {db db' : DeliveryDb} (htag : ∀ s, tag ≠ .recordSent s) (h : SameMessages db db') :
      DeliveryEffect tag db db'
  | create {db : DeliveryDb} (id tenantId conversationId : Uuid) (sentAt : Millis)
      (fresh : ∀ m ∈ db.messages, m.id ≠ id) :
      DeliveryEffect .create db
        { db with messages := db.messages ++ [queuedRow id tenantId conversationId sentAt] }
  | recordSent (s : MetaSend) (db : DeliveryDb) : DeliveryEffect (.recordSent s) db ((updateSent s).alone db).2
  | recordFailed (tenantId messageId : Uuid) (db : DeliveryDb) :
      DeliveryEffect (.recordFailed tenantId messageId) db ((updateFailed tenantId messageId).alone db).2
  | receipt {db db' : DeliveryDb} (ws : List (ReceiptWrite × List Uuid))
      (h : applyAll receiptWrites ws db = .ok db') : DeliveryEffect .commit db db'

theorem drawId_within : drawId.Within (fun _ => True) DeliveryEffect :=
  Prog.Within.stmt fun _ _ => .same (fun _ h => by cases h) ⟨rfl, rfl, rfl⟩

theorem createQueued_within (tenantId conversationId : Uuid) (sentAt : Millis) :
    (createQueued tenantId conversationId sentAt).Within (fun _ => True) DeliveryEffect := by
  apply drawId_within.bind
  intro id
  apply Prog.Within.stmt
  intro db _
  split
  · exact .same (fun _ h => by cases h) (SameMessages.refl db)
  · rename_i hfresh
    apply DeliveryEffect.create
    intro m hm hid
    exact hfresh (List.any_eq_true.mpr ⟨m, hm, by simpa using hid⟩)

theorem emit_within (event : MessageStatusChanged) : (emit event).Within (fun _ => True) DeliveryEffect :=
  Prog.Within.stmt fun _ _ => .same (fun _ h => by cases h) ⟨rfl, rfl, rfl⟩

theorem emitWhenChanged_within (count : Nat) (event : MessageStatusChanged) :
    (emitWhenChanged count event).Within (fun _ => True) DeliveryEffect := by
  rw [emitWhenChanged]
  split
  · exact emit_within event
  · trivial

theorem recordFailed_within : (recordFailed message).Within (fun _ => True) DeliveryEffect := by
  apply Prog.Within.bind
  · exact Prog.Within.stmt fun db _ => .recordFailed message.tenantId message.id db
  · exact fun count => emitWhenChanged_within count _

theorem recordSent_within (providerMessageId : String) :
    (recordSent message providerMessageId).Within (fun _ => True) DeliveryEffect := by
  apply Prog.Within.bind
  · exact Prog.Within.stmt fun db _ => .recordSent _ db
  · intro updated
    cases updated with
    | error => trivial
    | ok count => exact (emitWhenChanged_within count _).bind fun _ => trivial

theorem send_within (tenantId messageId : Uuid) (answer : Except SendError String) :
    (send tenantId messageId answer).Within (fun _ => True) DeliveryEffect := by
  apply Prog.Within.stmt
  intro db _
  cases answer with
  | error => exact .same (fun _ h => by cases h) (SameMessages.refl db)
  | ok =>
    dsimp only
    split
    · exact .same (fun _ h => by cases h) (SameMessages.refl db)
    · exact .same (fun _ h => by cases h) ⟨rfl, rfl, rfl⟩

theorem sendAndRecord_within (answer : Except SendError String) :
    (sendAndRecord message answer).Within (fun _ => True) DeliveryEffect := by
  apply (send_within message.tenantId message.id answer).bind
  intro sent
  cases sent with
  | error => trivial
  | ok providerMessageId => exact recordSent_within message providerMessageId

theorem handleSendError_within (attempt : Nat) (error : SendError) :
    (handleSendError message attempt error).Within (fun _ => True) DeliveryEffect := by
  rw [handleSendError]
  split
  · trivial
  · exact (recordFailed_within message).bind fun _ => trivial

theorem deliver_within (tenantId messageId : Uuid) (attempt : Nat) (answer : Except SendError String) :
    (deliver tenantId messageId attempt answer).Within (fun _ => True) DeliveryEffect := by
  have hread : ∀ tag, (∀ s, tag ≠ DeliveryStmt.recordSent s) → ∀ db, True → DeliveryEffect tag db db :=
    fun tag htag db _ => .same htag (SameMessages.refl db)
  apply (Prog.Within.read (hread .load (fun _ h => by cases h))).bind
  intro message
  cases message with
  | none => trivial
  | some message =>
    dsimp only
    split
    · trivial
    · apply (Prog.Within.read (hread .tenant (fun _ h => by cases h))).bind
      intro refusedBy
      cases refusedBy with
      | some _ => exact (recordFailed_within message).bind fun _ => trivial
      | none =>
        apply (sendAndRecord_within message answer).bind
        intro recorded
        cases recorded with
        | ok => trivial
        | error e => exact handleSendError_within message attempt e

theorem applyReceipt_within (account : RoutedWhatsAppAccount) (conversationId : Uuid)
    (update : WhatsAppMessageStatusUpdate) :
    (applyReceipt account conversationId update).Within (fun _ => True) DeliveryEffect := by
  rw [applyReceipt]
  split
  · trivial
  · split
    · trivial
    · apply drawId_within.bind
      intro id
      apply Prog.Within.bind
      · apply Tx.run_within
        · exact fun _ db _ => .same (fun _ h => by cases h) (SameMessages.refl db)
        · exact fun db _ => .same (fun _ h => by cases h) (SameMessages.refl db)
        · exact fun ws db db' _ happly => .receipt ws happly
      · intro applied
        cases applied with
        | error => trivial
        | ok event =>
          cases event with
          | none => trivial
          | some event => exact (emit_within event).bind fun _ => trivial

theorem deliveryProgram_within (call : DeliveryCall) : (deliveryProgram call).Within (fun _ => True) DeliveryEffect := by
  cases call with
  | create tenantId conversationId sentAt =>
    exact (createQueued_within tenantId conversationId sentAt).bind fun _ => trivial
  | deliver tenantId messageId attempt answer =>
    exact (deliver_within tenantId messageId attempt answer).bind fun _ => trivial
  | receipt account conversationId update =>
    exact (applyReceipt_within account conversationId update).bind fun _ => trivial

variable {m : MessageRow} {s : MetaSend} {tenantId : Uuid} {status : MessageStatus} {rows : List Uuid}
  {w : ReceiptWrite} {tag : DeliveryStmt}

theorem MessageRow.idEntry_eq {m' : MessageRow} (h : m.id = m'.id) : m.idEntry = m'.idEntry :=
  congrArg some h

theorem MessageRow.not_clash_id {rows : List MessageRow} (h : ∀ r ∈ rows, r.id ≠ m.id) :
    ∀ r ∈ rows, ¬ Clash MessageRow.idEntry r m := by
  intro r hr hclash
  exact h r hr (Option.some.inj hclash.2)

theorem MetaSend.carriedBy_iff : s.carriedBy m = true ↔ m.providerEntry = some (s.tenantId, s.providerMessageId) := by
  simp only [MetaSend.carriedBy, MessageRow.providerEntry, InboundMessage.providerEntry, decide_eq_true_eq,
    Option.map_eq_some_iff, Prod.mk.injEq]
  constructor
  · rintro ⟨htenant, hid⟩
    exact ⟨_, hid, htenant, rfl⟩
  · rintro ⟨id, hid, htenant, rfl⟩
    exact ⟨htenant, hid⟩

theorem MessageRow.queuedAs_iff : m.queuedAs tenantId messageId = true ↔
      m.tenantId = tenantId ∧ m.id = messageId ∧ m.status = .ladder .queued := by
  simp [MessageRow.queuedAs]

theorem MessageRow.stamp_providerEntry (status : MessageStatus) (t : Millis) (m : MessageRow) :
    (m.stamp status t).providerEntry = m.providerEntry := by
  cases status <;> rfl

theorem MessageRow.stamp_status (status : MessageStatus) (t : Millis) (m : MessageRow) :
    (m.stamp status t).status = .ladder status := by
  cases status <;> rfl

/-- The record finds its row, and another one under the provider's id. -/
def Rejected (db : DeliveryDb) (s : MetaSend) : Prop := StillQueued db s ∧ ¬ IdIsFree db s

theorem rejected_iff : Rejected db s ↔
    db.messages.any (MessageRow.queuedAs s.tenantId s.messageId) ∧
      db.messages.any (fun m => !MessageRow.queuedAs s.tenantId s.messageId m ∧ m.tenantId = s.tenantId ∧
        m.providerMessageId = some s.providerMessageId) := by
  simp only [Rejected, StillQueued, IdIsFree, MetaSend.carriedBy, List.any_eq_true, Bool.not_eq_true',
    decide_eq_true_eq, not_forall, Bool.not_eq_true, exists_prop]
  apply and_congr_right
  intro _
  apply exists_congr
  intro m
  exact and_congr_right fun _ => and_comm

theorem recordSent_rejected (h : Rejected db s) :
    ((updateSent s).alone db).2 = { db with tried := db.tried ++ [s] } := by
  obtain ⟨hqueued, htaken⟩ := rejected_iff.mp h
  simp only [updateSent, Prog.stmt, Prog.alone]
  split
  · rfl
  · rename_i hnot
    exact absurd ⟨hqueued, htaken⟩ hnot

theorem recordSent_accepted (h : ¬ Rejected db s) : ((updateSent s).alone db).2 = { db with
        tried := db.tried ++ [s]
        statusWrites := db.written (MessageRow.queuedAs s.tenantId s.messageId) (MessageRow.sentAs s.providerMessageId)
        messages := updateWhere (MessageRow.queuedAs s.tenantId s.messageId)
          (MessageRow.sentAs s.providerMessageId) db.messages } := by
  simp only [updateSent, Prog.stmt, Prog.alone]
  split
  · rename_i hrejected
    exact absurd (rejected_iff.mpr hrejected) h
  · rfl

theorem Indexed.recordSent {db : DeliveryDb} (hdb : db.Indexed) (s : MetaSend) : ((updateSent s).alone db).2.Indexed := by
  by_cases hrejected : Rejected db s
  · rw [recordSent_rejected hrejected]
    exact ⟨hdb.id, hdb.provider⟩
  · rw [recordSent_accepted hrejected]
    refine ⟨hdb.id.updateWhere fun _ _ _ => .inr rfl, ?_⟩
    apply hdb.provider.updateOne hdb.id
    · intro a _ b _ ha hb
      have hid : a.id = b.id :=
        (MessageRow.queuedAs_iff.mp ha).2.1.trans (MessageRow.queuedAs_iff.mp hb).2.1.symm
      exact ⟨by simp [MessageRow.idEntry], MessageRow.idEntry_eq hid⟩
    · intro a ha b hb hselected hother hclash
      have hentry : (a.sentAs s.providerMessageId).providerEntry = some (s.tenantId, s.providerMessageId) :=
        congrArg (fun tenantId => some (tenantId, s.providerMessageId)) (MessageRow.queuedAs_iff.mp hselected).1
      have hcarried : s.carriedBy b = true := MetaSend.carriedBy_iff.mpr (hclash.2.symm.trans hentry)
      apply hrejected
      refine ⟨⟨a, ha, hselected⟩, fun hfree => ?_⟩
      rw [hfree b hb hcarried] at hother
      cases hother

theorem Settled.not_queued {status : StoredStatus} (h : Settled db s status) : status ≠ .ladder .queued := by
  rintro rfl
  rcases h with h | h
  · rcases h with h | h | h <;> cases h
  · cases h.1

theorem carriedBy_of_filter {rows : List MessageRow}
    (h : rows.filter s.carriedBy = [row]) : s.carriedBy row = true := by
  have hmem : row ∈ rows.filter s.carriedBy := by
    rw [h]
    exact List.mem_singleton_self row
  exact (List.mem_filter.mp hmem).2

theorem Recorded.of_filter {db : DeliveryDb} (hfilter : db'.messages.filter s.carriedBy = db.messages.filter s.carriedBy)
    (hfailures : ∀ f ∈ db.failures, f ∈ db'.failures) (h : Recorded db s) : Recorded db' s := by
  obtain ⟨row, _, hrow, hid, hstatus⟩ := h
  have hmem : row ∈ db'.messages.filter s.carriedBy := by
    rw [hfilter, hrow]
    exact List.mem_singleton_self row
  refine ⟨row, (List.mem_filter.mp hmem).1, hfilter.trans hrow, hid, ?_⟩
  exact hstatus.imp_right fun hfailed => ⟨hfailed.1, hfailures _ hfailed.2⟩

theorem Recorded.updateQueued (h : Recorded db s)
    (hf : ∀ m ∈ db.messages, m.queuedAs tenantId messageId = true → s.carriedBy m = false → s.carriedBy (f m) = false) :
    (updateWhere (MessageRow.queuedAs tenantId messageId) f db.messages).filter s.carriedBy =
      db.messages.filter s.carriedBy := by
  obtain ⟨row, _, hrow, _, hstatus⟩ := h
  apply filter_updateWhere_of_not
  intro m hm hqueued
  have hnot : s.carriedBy m = false := by
    by_contra hcarried
    have hmem : m ∈ db.messages.filter s.carriedBy := List.mem_filter.mpr ⟨hm, by simpa using hcarried⟩
    rw [hrow, List.mem_singleton] at hmem
    rw [hmem] at hqueued
    exact hstatus.not_queued (MessageRow.queuedAs_iff.mp hqueued).2.2
  exact ⟨hnot, hf m hm hqueued hnot⟩

theorem Recorded.recordSent (h : Recorded db s) : Recorded ((updateSent s').alone db).2 s := by
  by_cases hrejected : Rejected db s'
  · rw [recordSent_rejected hrejected]
    exact h
  · rw [recordSent_accepted hrejected]
    refine h.of_filter (h.updateQueued fun m hm hqueued hnot => ?_) fun _ hf => hf
    obtain ⟨row, hmem, hrow, _, hstatus⟩ := h
    -- the row of the send is not queued, so its id is taken where the other record would write it
    by_contra hcarried
    rw [Bool.not_eq_false, MetaSend.carriedBy_iff] at hcarried
    have hsame : s'.carriedBy row = true := by
      obtain ⟨htenant, hprovider⟩ := Prod.mk.inj (Option.some.inj hcarried)
      have hcarriedRow := carriedBy_of_filter hrow
      rw [MetaSend.carriedBy_iff] at hcarriedRow ⊢
      rw [hcarriedRow, ← htenant, ← hprovider]
      exact congrArg (fun tenantId => some (tenantId, s'.providerMessageId)) (MessageRow.queuedAs_iff.mp hqueued).1
    apply hrejected
    refine ⟨⟨m, hm, hqueued⟩, fun hfree => ?_⟩
    exact hstatus.not_queued (MessageRow.queuedAs_iff.mp (hfree row hmem hsame)).2.2

theorem recordSent_recorded {db : DeliveryDb} (hdb : db.Indexed) (hqueued : StillQueued db s)
    (hfree : IdIsFree db s) : Recorded ((updateSent s).alone db).2 s := by
  obtain ⟨row, hrow, hrowQueued⟩ := hqueued
  have hone : db.messages.filter (MessageRow.queuedAs s.tenantId s.messageId) = [row] := by
    apply hdb.id.filter_eq_singleton hrow hrowQueued
    intro m _ hm
    exact congrArg some (MessageRow.queuedAs_iff.mp hm).2.1
  have hcarried : ∀ m : MessageRow, m.queuedAs s.tenantId s.messageId = true →
      s.carriedBy (m.sentAs s.providerMessageId) = true := by
    intro m hm
    simp [MetaSend.carriedBy, MessageRow.sentAs, (MessageRow.queuedAs_iff.mp hm).1]
  have hothers : ∀ m ∈ db.messages, m.queuedAs s.tenantId s.messageId = false → s.carriedBy m = false := by
    intro m hm hnot
    by_contra hcarried
    rw [hfree m hm (by simpa using hcarried)] at hnot
    cases hnot
  rw [recordSent_accepted fun h => h.2 hfree]
  have hfilter := filter_updateWhere_selected (fun m _ hm => hcarried m hm) hothers
  rw [hone, List.map_singleton] at hfilter
  have hmem : row.sentAs s.providerMessageId ∈ (updateWhere (MessageRow.queuedAs s.tenantId s.messageId)
      (MessageRow.sentAs s.providerMessageId) db.messages).filter s.carriedBy := by
    rw [hfilter]
    exact List.mem_singleton_self _
  exact ⟨_, (List.mem_filter.mp hmem).1, hfilter, (MessageRow.queuedAs_iff.mp hrowQueued).2.1, .inl (.inl rfl)⟩

theorem recordSent_lost {db : DeliveryDb} (hdb : db.Indexed) (h : Rejected db s) :
    ¬ Recorded ((updateSent s).alone db).2 s := by
  rw [recordSent_rejected h]
  rintro ⟨row, hrow, _, hid, hstatus⟩
  obtain ⟨queued, hqueued, hselected⟩ := h.1
  obtain ⟨_, hqueuedId, hqueuedStatus⟩ := MessageRow.queuedAs_iff.mp hselected
  have hsame : row = queued := hdb.id.eq_of_entry hrow hqueued rfl (congrArg some (hqueuedId.trans hid.symm))
  rw [hsame] at hstatus
  exact hstatus.not_queued hqueuedStatus

theorem Recorded.recordFailed (h : Recorded db s) (tenantId messageId : Uuid) :
    Recorded ((updateFailed tenantId messageId).alone db).2 s :=
  h.of_filter (h.updateQueued fun _ _ _ hnot => hnot) fun _ hf => hf

theorem Settled.of_advance {db : DeliveryDb} (hadvance : m.advanceable s.tenantId s.providerMessageId status = true) :
    Settled { db with failures := db.report s.tenantId s.providerMessageId status } s (m.stamp status t).status := by
  simp only [MessageRow.advanceable, InboundMessage.advanceable, decide_eq_true_eq] at hadvance
  obtain ⟨_, _, source, hsource, _⟩ := hadvance
  obtain ⟨_, hrank⟩ := isMessageStatusAdvance_iff.mp (mem_advanceableFrom.mp hsource)
  rw [MessageRow.stamp_status]
  cases status with
  | queued => cases hrank
  | sent => exact .inl (.inl rfl)
  | delivered => exact .inl (.inr (.inl rfl))
  | read => exact .inl (.inr (.inr rfl))
  | failed => exact .inr ⟨rfl, by simp [DeliveryDb.report]⟩

theorem MessageRow.advanceable_entry (h : m.advanceable tenantId providerMessageId status = true) :
    m.providerEntry = some (tenantId, providerMessageId) := by
  simp only [MessageRow.advanceable, InboundMessage.advanceable, decide_eq_true_eq] at h
  simp [MessageRow.providerEntry, InboundMessage.providerEntry, h.1, h.2.1]

theorem report_subset (db : DeliveryDb) (tenantId : Uuid) (providerMessageId : String) (status : MessageStatus) :
    ∀ f ∈ db.failures, f ∈ db.report tenantId providerMessageId status := by
  intro f hf
  rw [DeliveryDb.report]
  split
  · exact List.mem_append_left _ hf
  · exact hf

/-- What a receipt's write does; where its row is already there, or already as far, nothing. -/
inductive ReceiptEffect (db : DeliveryDb) : ReceiptWrite → List Uuid → DeliveryDb → Prop where
  | nothing (w : ReceiptWrite) : ReceiptEffect db w [] db
  | created (row : MessageRow) (reported : row.status ≠ .ladder .queued) (failures : List (Uuid × String))
      (hclash : ¬ db.messages.any (Clash MessageRow.providerEntry row ·) = true)
      (hid : ¬ db.messages.any (·.id = row.id) = true) (hfailures : ∀ f ∈ db.failures, f ∈ failures) :
      ReceiptEffect db (.createPlaceholder row reported) [row.id] { db with messages := db.messages ++ [row], failures }
  | advanced (tenantId : Uuid) (providerMessageId : String) (status : MessageStatus) (t : Millis) (rows : List Uuid)
      (hsome : db.messages.filter (MessageRow.advanceable tenantId providerMessageId status) ≠ [])
      (hrows : rows = (db.messages.filter (MessageRow.advanceable tenantId providerMessageId status)).map (·.id)) :
      ReceiptEffect db (.advanceStatus tenantId providerMessageId status t) rows
        { db with
          statusWrites := db.written (MessageRow.advanceable tenantId providerMessageId status) (MessageRow.stamp status t)
          messages := updateWhere (MessageRow.advanceable tenantId providerMessageId status)
            (MessageRow.stamp status t) db.messages
          failures := db.report tenantId providerMessageId status }

theorem ReceiptWrite.effect (happly : w.apply db = .ok (rows, db')) : ReceiptEffect db w rows db' := by
  cases w with
  | createPlaceholder row reported =>
    simp only [ReceiptWrite.apply] at happly
    split at happly
    · cases happly
      exact .nothing _
    · rename_i hclash
      obtain ⟨hid, happly⟩ := ok_of_ite happly
      cases happly
      refine .created row reported _ hclash hid fun f hf => ?_
      split
      · exact List.mem_append_left _ hf
      · exact hf
  | advanceStatus =>
    simp only [ReceiptWrite.apply] at happly
    split at happly
    · cases happly
      exact .nothing _
    · rename_i hsome
      cases happly
      exact .advanced _ _ _ _ _ hsome rfl

theorem ReceiptWrite.recorded {db : DeliveryDb} (h : Recorded db s) (happly : w.apply db = .ok (rows, db')) : Recorded db' s := by
  cases effect happly with
  | nothing => exact h
  | created row _ failures hclash _ hfailures =>
    apply h.of_filter
    · obtain ⟨own, hown, hfilter, _⟩ := h
      have hnot : s.carriedBy row = false := by
        by_contra hcarried
        rw [Bool.not_eq_false, MetaSend.carriedBy_iff] at hcarried
        have hownEntry := MetaSend.carriedBy_iff.mp (carriedBy_of_filter hfilter)
        apply hclash
        apply List.any_eq_true.mpr
        exact ⟨own, hown, decide_eq_true ⟨by simp [hcarried], hcarried.trans hownEntry.symm⟩⟩
      simp [hnot]
    · exact hfailures
  | advanced tenantId providerMessageId status t =>
    obtain ⟨row, hrow, hfilter, hid, hstatus⟩ := h
    have hstamp : ∀ m : MessageRow, s.carriedBy (m.stamp status t) = s.carriedBy m := by
      intro m
      rw [Bool.eq_iff_iff, MetaSend.carriedBy_iff, MetaSend.carriedBy_iff, MessageRow.stamp_providerEntry]
    have hnew := filter_updateWhere (q := MessageRow.advanceable tenantId providerMessageId status)
      fun m (_ : m ∈ db.messages) _ => hstamp m
    rw [hfilter] at hnew
    have hmem := mem_updateWhere_of_mem (p := MessageRow.advanceable tenantId providerMessageId status)
      (f := MessageRow.stamp status t) hrow
    refine ⟨_, hmem, hnew, ?_, ?_⟩
    · split
      · exact hid
      · exact hid
    · split
      · rename_i hadvance
        have hentry := MetaSend.carriedBy_iff.mp (carriedBy_of_filter hfilter)
        rw [MessageRow.advanceable_entry hadvance, Option.some.injEq, Prod.mk.injEq] at hentry
        obtain ⟨rfl, rfl⟩ := hentry
        exact Settled.of_advance hadvance
      · exact hstatus.imp_right fun hfailed => ⟨hfailed.1, report_subset _ _ _ _ _ hfailed.2⟩

theorem ReceiptWrite.tried (happly : w.apply db = .ok (rows, db')) : db'.tried = db.tried := by
  cases effect happly <;> rfl

theorem ReceiptWrite.indexed {db : DeliveryDb} (h : db.Indexed)
    (happly : w.apply db = .ok (rows, db')) : db'.Indexed := by
  cases effect happly with
  | nothing => exact h
  | created row _ _ hclash hid =>
    constructor
    · apply h.id.concat
      apply MessageRow.not_clash_id
      intro m hm heq
      exact hid (List.any_eq_true.mpr ⟨m, hm, by simpa using heq⟩)
    · apply h.provider.concat
      intro m hm hentry
      exact hclash (List.any_eq_true.mpr ⟨m, hm, decide_eq_true hentry.symm⟩)
  | advanced tenantId providerMessageId status t =>
    constructor
    · exact h.id.updateWhere fun _ _ _ => .inr rfl
    · exact h.provider.updateWhere fun m _ _ => .inr (MessageRow.stamp_providerEntry status t m)

theorem receiptWrites_keep {K : DeliveryDb → Prop}
    (hkeep : ∀ (w : ReceiptWrite) db rows db', K db → w.apply db = .ok (rows, db') → K db') (h : K db)
    (happly : applyAll receiptWrites ws db = .ok db') : K db' := by
  refine applyAll_induct (Q := fun _ _ => True) ?_ (fun _ _ => trivial) h happly
  exact fun w rows db₁ db₂ _ hdb₁ hw => hkeep w db₁ rows db₂ hdb₁ hw

theorem recordSent_tried (db : DeliveryDb) (s : MetaSend) : ((updateSent s).alone db).2.tried = db.tried ++ [s] := by
  by_cases hrejected : Rejected db s
  · rw [recordSent_rejected hrejected]
  · rw [recordSent_accepted hrejected]

theorem DeliveryEffect.indexed (heffect : DeliveryEffect tag db db') (h : db.Indexed) : db'.Indexed := by
  cases heffect with
  | same _ hsame => exact ⟨hsame.messages ▸ h.id, hsame.messages ▸ h.provider⟩
  | create id tenantId conversationId sentAt fresh =>
    constructor
    · exact h.id.concat (MessageRow.not_clash_id fresh)
    · apply h.provider.concat
      intro m _ hclash
      exact hclash.1 hclash.2
  | recordSent s => exact Indexed.recordSent h s
  | recordFailed =>
    exact ⟨h.id.updateWhere fun _ _ _ => .inr rfl, h.provider.updateWhere fun _ _ _ => .inr rfl⟩
  | receipt ws happly => exact receiptWrites_keep (fun _ _ _ _ hdb hw => ReceiptWrite.indexed hdb hw) h happly

theorem DeliveryEffect.recorded (heffect : DeliveryEffect tag db db') (h : Recorded db s) : Recorded db' s := by
  cases heffect with
  | same _ hsame =>
    apply h.of_filter
    · rw [hsame.messages]
    · rw [hsame.failures]
      exact fun _ hf => hf
  | create =>
    apply h.of_filter
    · simp [MetaSend.carriedBy, queuedRow]
    · exact fun _ hf => hf
  | recordSent => exact h.recordSent
  | recordFailed tenantId messageId => exact h.recordFailed tenantId messageId
  | receipt ws happly =>
    exact receiptWrites_keep (K := (Recorded · s)) (fun _ _ _ _ hdb hw => ReceiptWrite.recorded hdb hw) h happly

theorem DeliveryEffect.tried {db : DeliveryDb} (heffect : DeliveryEffect tag db db') :
    db'.tried = db.tried ∨ ∃ s, tag = .recordSent s ∧ db' = ((updateSent s).alone db).2 := by
  cases heffect with
  | same _ hsame => exact .inl hsame.tried
  | create | recordFailed => exact .inl rfl
  | recordSent s => exact .inr ⟨s, rfl, rfl⟩
  | receipt ws happly =>
    left
    refine receiptWrites_keep (K := fun d => d.tried = db.tried) ?_ rfl happly
    exact fun _ _ _ _ hdb hw => (ReceiptWrite.tried hw).trans hdb

structure AllRecorded (db : DeliveryDb) : Prop where
  indexed : db.Indexed
  recorded : ∀ s ∈ db.tried, Recorded db s

theorem DeliveryEffect.keeps (heffect : DeliveryEffect tag db db')
    (hmay : MayRecord db tag) (h : AllRecorded db) : AllRecorded db' := by
  refine ⟨heffect.indexed h.indexed, fun s hs => ?_⟩
  rcases heffect.tried with htried | ⟨s', rfl, rfl⟩
  · rw [htried] at hs
    exact heffect.recorded (h.recorded s hs)
  · rw [recordSent_tried] at hs
    rcases mem_snoc.mp hs with hs | rfl
    · exact heffect.recorded (h.recorded s hs)
    · exact recordSent_recorded h.indexed hmay.1 hmay.2

theorem DeliveryRun.indexed {db : DeliveryDb} (hdb : db.Indexed) {s : DeliverySys} (hs : DeliveryRun db s) :
    s.db.Indexed :=
  Reachable.invariant (W := fun _ => DeliveryEffect)
    (fun call => (deliveryProgram_within call).weaken fun _ _ => trivial)
    (fun _ _ _ _ hI _ heffect => heffect.indexed hI) hdb hs

def RecordStep (s : DeliverySys) (sent : MetaSend) (s' : DeliverySys) : Prop :=
  ∃ (i : Nat) (call : DeliveryCall) (β : Type) (act : DeliveryDb → β × DeliveryDb)
      (next : β → DeliveryProg DeliveryReply), s.calls[i]? = some (call, .atomic (.recordSent sent) act next) ∧
    s' = s.exec i call act next

theorem RecordStep.db {db : DeliveryDb} {s : DeliverySys} {sent : MetaSend} (hs : DeliveryRun db s)
    (hstep : RecordStep s sent s') : s'.db = ((updateSent sent).alone s.db).2 := by
  have hfollows := Reachable.follows deliveryProgram_within (fun _ _ => trivial) hs
  obtain ⟨i, call, β, act, next, hcall, rfl⟩ := hstep
  have heffect := (hfollows.exec_spec trivial hcall).1
  change (act s.db).2 = _
  generalize (act s.db).2 = db' at heffect
  cases heffect with
  | same htag => exact absurd rfl (htag sent)
  | recordSent => rfl

/-- A send whose record has been tried is one row: in every run whose records find their message queued, exactly when no
    other row has the provider's id. -/
theorem delivered_message_is_one_row_iff {db : DeliveryDb} (hdb : db.Indexed) (htried : db.tried = []) :
    (∀ s, Reachable deliveryProgram recordsUnovertaken (.idle db) s → ∀ sent ∈ s.db.tried, Recorded s.db sent) ∧
      ∀ s, DeliveryRun db s → ∀ sent s', RecordStep s sent s' → StillQueued s.db sent →
        (Recorded s'.db sent ↔ IdIsFree s.db sent) := by
  constructor
  · intro s hs
    have hprog : ∀ call, (deliveryProgram call).Within AllRecorded DeliveryEffect :=
      fun call => (deliveryProgram_within call).weaken fun _ _ => trivial
    have hrecorded : AllRecorded s.db := by
      refine Reachable.invariant hprog ?_ ⟨hdb, by simp [htried]⟩ hs
      exact fun _ _ _ _ hI hmay heffect => heffect.keeps hmay hI
    exact hrecorded.recorded
  · intro s hs sent s' hstep hqueued
    have hindexed := hs.indexed hdb
    rw [hstep.db hs]
    constructor
    · intro hrecorded
      by_contra htaken
      exact recordSent_lost hindexed ⟨hqueued, htaken⟩ hrecorded
    · exact recordSent_recorded hindexed hqueued

def activeTenant : DeliveryDb := { tenants := [(1, .active)], serviceable := [1], uuids := [11, 12] }

def deliveredReceipt : WhatsAppMessageStatusUpdate := ⟨"wamid.1", "delivered", 50, "15551234567"⟩

/-- A message is queued and sent, and its record waits to be written. -/
def acceptedSchedule : List (Move DeliveryCall) :=
  [.spawn (.create 1 7 10), .step 0, .step 0, .spawn (.deliver 1 11 1 (.ok "wamid.1")), .step 1, .step 1, .step 1]

theorem delivered_message_is_one_row_iff_activeTenant :
    ∃ s, Reachable deliveryProgram recordsUnovertaken (.idle activeTenant) s ∧
      s.db.tried = [⟨1, 11, "wamid.1"⟩] ∧ ∀ sent ∈ s.db.tried, Recorded s.db sent := by
  have hrun : (run deliveryProgram (fun s _ tag => decide (MayRecord s.db tag))
      (acceptedSchedule ++ [.step 1, .spawn (.receipt ⟨1, 2⟩ 7 deliveredReceipt)] ++ List.replicate 5 (.step 2))
      (.idle activeTenant)).map (fun s => s.db.tried) = some [⟨1, 11, "wamid.1"⟩] := by
    decide +kernel
  obtain ⟨s, hreach, htried⟩ := ends_of_run hrun
  have hindexed : activeTenant.Indexed := ⟨by decide, by decide⟩
  exact ⟨s, hreach, htried, (delivered_message_is_one_row_iff hindexed rfl).1 s hreach⟩

/-- The receipt writes a row of its own, the record is rejected, and the dispatcher takes that for a failed send. -/
theorem overtaken_record_fails_message : ¬ ∀ db : DeliveryDb, db.Indexed → db.tried = [] → ∀ s, DeliveryRun db s →
      (∀ e ∈ s.calls, e.2.result?.isSome = true) → ∀ sent ∈ s.db.tried, Recorded s.db sent := by
  intro hclaim
  have hrun : (run deliveryProgram (fun _ _ _ => true)
      (acceptedSchedule ++ [.spawn (.receipt ⟨1, 2⟩ 7 deliveredReceipt)] ++ List.replicate 5 (.step 2) ++
        [.step 1, .step 1, .step 1]) (.idle activeTenant)).map (fun s =>
          s.calls.all (·.2.result?.isSome) && s.db.tried.any fun sent => ¬ Recorded s.db sent) = some true := by
    decide +kernel
  obtain ⟨s, hreach, hend⟩ := ends_of_run_any hrun
  obtain ⟨hfinished, hlost⟩ := Bool.and_eq_true_iff.mp hend
  obtain ⟨sent, hsent, hnot⟩ := List.any_eq_true.mp hlost
  have hindexed : activeTenant.Indexed := ⟨by decide, by decide⟩
  apply of_decide_eq_true hnot
  exact hclaim activeTenant hindexed rfl s hreach (List.all_eq_true.mp hfinished) sent hsent

end WhatsappCrm.Conversations
