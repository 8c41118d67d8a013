/-
Purpose: The replies of an engagement, told twice: by the record of what was committed, and by the count the gate makes.
-/
import WhatsappCrm.Ai.Effects
import WhatsappCrm.Lib.Epoch

namespace WhatsappCrm.Ai

open Interleaving Table Epoch

def AiRecord.isReset (tenantId conversationId : Uuid) : AiRecord → Bool
  | .reset tenant conversation => tenant = tenantId ∧ conversation = conversationId
  | _ => false

def BotTurn.keys (v : BotTurn) : Uuid × Uuid × Uuid := (v.tenantId, v.conversationId, v.inboundMessageId)

namespace AiDb

variable (tenantId conversationId : Uuid) (db : AiDb)

def repliedIn : AiRecord → Bool
  | .replied tenant message _ =>
    tenant = tenantId ∧ (db.botTurns.map BotTurn.keys).contains (tenantId, conversationId, message)
  | _ => false

def replies : Nat := (current (AiRecord.isReset tenantId conversationId) db.log).countP (db.repliedIn tenantId conversationId)

def engagedAt : Option Millis := (db.findConversation tenantId conversationId).bind (·.botEngagedAt)

def maxBotTurns : Nat := (toSettings (db.aiConfigs.lookup tenantId)).maxBotTurns

end AiDb

def BotTurn.tallied (v : BotTurn) : Uuid × (Uuid × Uuid × Uuid) × Millis × Bool :=
  (v.id, v.keys, v.createdAt, v.outcome = .replied)

def BotTurn.counts (tenantId conversationId : Uuid) (engagedAt : Millis) (v : BotTurn) : Bool :=
  v.tenantId = tenantId ∧ v.conversationId = conversationId ∧ v.outcome = .replied ∧ engagedAt ≤ v.createdAt

/-- The stamp and the turns count what was committed, and no engagement has more than `cap` replies. -/
structure Counted (tenantId conversationId : Uuid) (cap : Nat) (db : AiDb) : Prop where
  turnIds : UniqueBy BotTurn.idEntry db.botTurns
  inbound : UniqueBy BotTurn.inboundEntry db.botTurns
  /-- A reply is that of a turn. -/
  turns : ∀ tenant message id, AiRecord.replied tenant message id ∈ db.log →
    ∃ v ∈ db.botTurns, v.inboundEntry = some (tenant, message)
  settings : db.maxBotTurns tenantId ≤ cap
  capped : AtMost cap (AiRecord.isReset tenantId conversationId) (db.repliedIn tenantId conversationId) db.log
  count : db.repliesThisEngagement tenantId conversationId (db.engagedAt tenantId conversationId) =
    db.replies tenantId conversationId

section Steps

variable {tenantId conversationId : Uuid} {cap : Nat} {db db' : AiDb}

theorem repliesThisEngagement_some (engagedAt : Millis) :
    db.repliesThisEngagement tenantId conversationId (some engagedAt) =
      db.botTurns.countP (BotTurn.counts tenantId conversationId engagedAt) + 1 :=
  rfl

theorem Counted.engagedAt_eq_none_iff (h : Counted tenantId conversationId cap db) :
    db.engagedAt tenantId conversationId = none ↔ db.replies tenantId conversationId = 0 := by
  rw [← h.count]
  cases db.engagedAt tenantId conversationId with
  | none | some => simp [AiDb.repliesThisEngagement]

structure Beside (tenantId conversationId : Uuid) (db db' : AiDb) : Prop where
  turns : db'.botTurns.map BotTurn.tallied = db.botTurns.map BotTurn.tallied
  engagedAt : db'.engagedAt tenantId conversationId = db.engagedAt tenantId conversationId
  log : ∃ records, db'.log = db.log ++ records ∧ ∀ r ∈ records,
    r.isReset tenantId conversationId = false ∧ ∀ tenant message id, r ≠ .replied tenant message id

theorem Beside.refl (db : AiDb) : Beside tenantId conversationId db db :=
  ⟨rfl, rfl, [], (List.append_nil _).symm, by simp⟩

theorem Beside.map_turns (h : Beside tenantId conversationId db db') (f : Uuid × (Uuid × Uuid × Uuid) × Millis × Bool → β) :
    db'.botTurns.map (f ∘ BotTurn.tallied) = db.botTurns.map (f ∘ BotTurn.tallied) := by
  rw [← List.map_map, ← List.map_map, h.turns]

theorem Beside.keys (h : Beside tenantId conversationId db db') :
    db'.botTurns.map BotTurn.keys = db.botTurns.map BotTurn.keys :=
  h.map_turns fun e => e.2.1

theorem repliedIn_congr (h : db'.botTurns.map BotTurn.keys = db.botTurns.map BotTurn.keys) :
    db'.repliedIn tenantId conversationId = db.repliedIn tenantId conversationId := by
  funext r
  cases r <;> simp only [AiDb.repliedIn, h]

theorem exists_inbound_iff {turns : List BotTurn} : (∃ v ∈ turns, v.inboundEntry = some (tenant, message)) ↔
      ∃ k ∈ turns.map BotTurn.keys, k.1 = tenant ∧ k.2.2 = message := by
  simp [BotTurn.inboundEntry, BotTurn.keys]

theorem repliesThisEngagement_congr (h : db'.botTurns.map BotTurn.tallied = db.botTurns.map BotTurn.tallied)
    (engagedAt : Option Millis) : db'.repliesThisEngagement tenantId conversationId engagedAt =
      db.repliesThisEngagement tenantId conversationId engagedAt := by
  cases engagedAt with
  | none => rfl
  | some engagedAt =>
    have hcounts : ∀ turns : List BotTurn, turns.countP (BotTurn.counts tenantId conversationId engagedAt) =
        (turns.map BotTurn.tallied).countP fun e => decide (e.2.1.1 = tenantId) &&
          (decide (e.2.1.2.1 = conversationId) && (e.2.2.2 && decide (engagedAt ≤ e.2.2.1))) := by
      intro turns
      rw [List.countP_map]
      apply List.countP_congr
      intro v _
      simp only [BotTurn.counts, Bool.decide_and]
      rfl
    rw [repliesThisEngagement_some, repliesThisEngagement_some, hcounts, hcounts, h]

theorem replies_append (hkeys : db'.repliedIn tenantId conversationId =
      db.repliedIn tenantId conversationId) (hlog : db'.log = db.log ++ records)
    (hnone : ∀ r ∈ records, r.isReset tenantId conversationId = false) : db'.replies tenantId conversationId =
      db.replies tenantId conversationId + records.countP (db.repliedIn tenantId conversationId) := by
  rw [AiDb.replies, hkeys, hlog, current_append hnone, List.countP_append, AiDb.replies]

theorem Counted.beside (h : Counted tenantId conversationId cap db) (hbeside : Beside tenantId conversationId db db')
    (hsettings : db'.maxBotTurns tenantId ≤ cap) : Counted tenantId conversationId cap db' := by
  obtain ⟨records, hlog, hrecords⟩ := hbeside.log
  have hkeys : db'.repliedIn tenantId conversationId = db.repliedIn tenantId conversationId :=
    repliedIn_congr hbeside.keys
  have hnone : records.countP (db.repliedIn tenantId conversationId) = 0 := by
    rw [List.countP_eq_zero]
    intro r hr
    have hreply := (hrecords r hr).2
    cases r with
    | replied tenant message id => exact absurd rfl (hreply tenant message id)
    | _ => simp [AiDb.repliedIn]
  have hresets : ∀ r ∈ records, r.isReset tenantId conversationId = false := fun r hr => (hrecords r hr).1
  have hreplies := replies_append hkeys hlog hresets
  rw [hnone, Nat.add_zero] at hreplies
  constructor
  · exact h.turnIds.congr (hbeside.map_turns fun e => some e.1)
  · exact h.inbound.congr (hbeside.map_turns fun e => some (e.2.1.1, e.2.1.2.2))
  · intro tenant message id hmem
    rw [exists_inbound_iff, hbeside.keys, ← exists_inbound_iff]
    rw [hlog] at hmem
    rcases List.mem_append.mp hmem with hmem | hmem
    · exact h.turns tenant message id hmem
    · exact absurd rfl ((hrecords _ hmem).2 tenant message id)
  · exact hsettings
  · rw [hkeys, hlog]
    apply h.capped.append hresets
    rw [List.countP_append, hnone, Nat.add_zero]
    exact h.capped.current_le
  · rw [repliesThisEngagement_congr hbeside.turns, hbeside.engagedAt, h.count, hreplies]

variable {turn : BotTurn}

theorem Counted.claim (h : Counted tenantId conversationId cap db) (hid : ∀ v ∈ db.botTurns, v.id ≠ turn.id) (hinbound : ∀ v ∈ db.botTurns, v.inboundEntry ≠ turn.inboundEntry)
    (houtcome : turn.outcome ≠ .replied) :
    Counted tenantId conversationId cap { db with botTurns := db.botTurns ++ [turn] } := by
  -- The turn is of no message that has been replied to, so it makes no record one of the conversation's.
  have hsame : ∀ r ∈ db.log, AiDb.repliedIn tenantId conversationId { db with botTurns := db.botTurns ++ [turn] } r =
      db.repliedIn tenantId conversationId r := by
    intro r hr
    cases r with
    | replied tenant message id =>
      obtain ⟨v, hv, hkey⟩ := h.turns tenant message id hr
      have hne : turn.keys ≠ (tenant, conversationId, message) := by
        intro heq
        apply hinbound v hv
        rw [hkey]
        simp only [BotTurn.keys, Prod.mk.injEq] at heq
        simp [BotTurn.inboundEntry, heq.1, heq.2.2]
      by_cases htenant : tenant = tenantId
      · subst htenant
        simp [AiDb.repliedIn, Ne.symm hne]
      · simp [AiDb.repliedIn, htenant]
    | _ => rfl
  have hcount : ∀ engagedAt, turn.counts tenantId conversationId engagedAt = false := by
    intro engagedAt
    simp [BotTurn.counts, houtcome]
  constructor
  · exact h.turnIds.concat fun v hv hclash => hid v hv (Option.some.inj hclash.2)
  · exact h.inbound.concat fun v hv hclash => hinbound v hv hclash.2
  · intro tenant message id hmem
    obtain ⟨v, hv, hkey⟩ := h.turns tenant message id hmem
    exact ⟨v, List.mem_append_left _ hv, hkey⟩
  · exact h.settings
  · exact h.capped.congr hsame
  · have hreplies : AiDb.replies tenantId conversationId { db with botTurns := db.botTurns ++ [turn] } =
        db.replies tenantId conversationId := by
      apply List.countP_congr
      intro r hr
      rw [hsame r (mem_of_current hr)]
    rw [hreplies, ← h.count]
    change AiDb.repliesThisEngagement _ _ _ (db.engagedAt tenantId conversationId) = _
    cases db.engagedAt tenantId conversationId with
    | none => rfl
    | some engagedAt =>
      rw [repliesThisEngagement_some, repliesThisEngagement_some, List.countP_append, List.countP_singleton,
        hcount engagedAt, if_neg Bool.false_ne_true, Nat.add_zero]

theorem findConversation_updateWhere (hf : ∀ v, (f v).id = v.id ∧ (f v).tenantId = v.tenantId)
    (hconversations : db'.conversations = updateWhere p f db.conversations) :
    db'.findConversation tenantId conversationId =
      (db.findConversation tenantId conversationId).map fun v => if p v then f v else v := by
  rw [AiDb.findConversation, hconversations, AiDb.findConversation]
  apply find?_updateWhere
  intro v
  rw [(hf v).1, (hf v).2]

theorem findConversation_withId (h : db.findConversation tenantId conversationId = some v) :
    v.withId tenantId conversationId = true := by
  simpa [BotConversation.withId] using List.find?_some h

theorem engagedAt_updateWhere (hf : ∀ v, (f v).id = v.id ∧ (f v).tenantId = v.tenantId)
    (hstamp : ∀ v, v.withId tenantId conversationId = true → p v = true → (f v).botEngagedAt = v.botEngagedAt)
    (hconversations : db'.conversations = updateWhere p f db.conversations) :
    db'.engagedAt tenantId conversationId = db.engagedAt tenantId conversationId := by
  rw [AiDb.engagedAt, findConversation_updateWhere hf hconversations, AiDb.engagedAt]
  cases hfind : db.findConversation tenantId conversationId with
  | none => rfl
  | some v =>
    simp only [Option.map_some, Option.bind_some]
    split
    · rename_i hp
      exact hstamp v (findConversation_withId hfind) hp
    · rfl

theorem Counted.reset (h : Counted tenantId conversationId cap db) {status : ConversationStatus}
    (hresets : status.resets = true) : Counted tenantId conversationId cap
      { db with
        conversations := updateWhere (BotConversation.withId tenantId conversationId)
          (BotConversation.setStatus status) db.conversations
        log := db.log ++ [.reset tenantId conversationId] } := by
  have hreset : AiRecord.isReset tenantId conversationId (.reset tenantId conversationId) = true := by
    simp [AiRecord.isReset]
  have hf : ∀ v, (BotConversation.setStatus status v).id = v.id ∧
      (BotConversation.setStatus status v).tenantId = v.tenantId := by
    intro v
    simp [BotConversation.setStatus, hresets]
  constructor
  · exact h.turnIds
  · exact h.inbound
  · intro tenant message id hmem
    rcases List.mem_append.mp hmem with hmem | hmem
    · exact h.turns tenant message id hmem
    · cases List.mem_singleton.mp hmem
  · exact h.settings
  · exact h.capped.open hreset
  · have hengaged : AiDb.engagedAt tenantId conversationId { db with
          conversations := updateWhere (BotConversation.withId tenantId conversationId)
            (BotConversation.setStatus status) db.conversations
          log := db.log ++ [.reset tenantId conversationId] } = none := by
      rw [AiDb.engagedAt, findConversation_updateWhere hf rfl]
      cases hfind : db.findConversation tenantId conversationId with
      | none => rfl
      | some => simp [findConversation_withId hfind, BotConversation.setStatus, hresets]
    rw [hengaged, AiDb.replies]
    change 0 = List.countP _ (current _ (db.log ++ [_]))
    rw [current_concat_opening hreset]
    rfl

def BotConversation.stampedBy (gate : BotGateSnapshot) (sentAt : Millis) (v : BotConversation) : Option Millis :=
  if v.botState = .humanActive then none else engagementStamp gate sentAt

/-- The tables show the engagement the turn was started in: there is room for a reply, and the stamp is as its gate
    says. -/
def InEngagement (db : AiDb) (trigger : BotInboundTrigger) (gate : BotGateSnapshot) (turnId : Uuid) (sentAt : Millis) :
    Bool :=
  (db.findConversation trigger.tenantId trigger.conversationId).any fun v =>
    (db.botTurns.find? (BotTurn.withId trigger.tenantId turnId)).any fun turn =>
      decide (db.repliesThisEngagement trigger.tenantId trigger.conversationId v.botEngagedAt <
        db.maxBotTurns trigger.tenantId) &&
      match v.stampedBy gate sentAt, v.botEngagedAt with
      | some stamp, none => decide (turn.createdAt < stamp) &&
          !db.botTurns.any (BotTurn.counts trigger.tenantId trigger.conversationId stamp)
      | none, some engagedAt => decide (engagedAt ≤ turn.createdAt)
      | _, _ => false

def OwnTurn (trigger : BotInboundTrigger) (turnId : Uuid) (db : AiDb) : Prop :=
  ∃ v ∈ db.botTurns, v.id = turnId ∧ v.keys = (trigger.tenantId, trigger.conversationId, trigger.messageId) ∧
    v.outcome ≠ .replied

structure ReplyWritten (trigger : BotInboundTrigger) (gate : BotGateSnapshot) (turnId id : Uuid) (scores : TurnScores)
    (sentAt : Millis) (db db' : AiDb) : Prop where
  conversations : db'.conversations = updateWhere
    (BotConversation.unlessHuman trigger.tenantId trigger.conversationId)
    (BotConversation.engage (engagementStamp gate sentAt)) db.conversations
  botTurns : db'.botTurns = updateWhere (BotTurn.withId trigger.tenantId turnId) (BotTurn.reply scores id) db.botTurns
  aiConfigs : db'.aiConfigs = db.aiConfigs
  log : db'.log = db.log ++ AiRecord.replied trigger.tenantId trigger.messageId id ::
    (if db.conversations.any (BotConversation.unlessHuman trigger.tenantId trigger.conversationId) then
      [AiRecord.engaged trigger.tenantId trigger.conversationId] else [])

section Reply

variable {trigger : BotInboundTrigger} {id : Uuid}

theorem commitReply_written (h : db.commitReply trigger gate turnId id body scores sentAt = .ok db') :
    ReplyWritten trigger gate turnId id scores sentAt db db' := by
  simp only [AiDb.commitReply, AiDb.writeOutboundText] at h
  split at h
  · cases h
  · cases h
    cases hticket : trigger.ticketId with
    | none | some => exact ⟨rfl, rfl, rfl, rfl⟩

theorem ownTurn_filter (h : Counted tenantId conversationId cap db) (hturn : turn ∈ db.botTurns)
    (hid : turn.id = turnId) (htenant : turn.tenantId = trigger.tenantId) :
    db.botTurns.filter (BotTurn.withId trigger.tenantId turnId) = [turn] := by
  apply h.turnIds.filter_eq_singleton hturn (k := turnId)
  · simp [BotTurn.withId, hid, htenant]
  · intro r _ hr
    have hids := of_decide_eq_true hr
    rw [BotTurn.idEntry, hids.2]

theorem ReplyWritten.keys (h : ReplyWritten trigger gate turnId id scores sentAt db db') :
    db'.botTurns.map BotTurn.keys = db.botTurns.map BotTurn.keys := by
  rw [h.botTurns]
  exact map_updateWhere (f := BotTurn.reply scores id) (fun _ => rfl) _

theorem ReplyWritten.countP_counts (hcounted : Counted tenantId conversationId cap db)
    (h : ReplyWritten trigger gate turnId id scores sentAt db db') (hturn : turn ∈ db.botTurns)
    (hid : turn.id = turnId) (htenant : turn.tenantId = trigger.tenantId) (houtcome : turn.outcome ≠ .replied)
    (engagedAt : Millis) : db'.botTurns.countP (BotTurn.counts tenantId conversationId engagedAt) =
      db.botTurns.countP (BotTurn.counts tenantId conversationId engagedAt) +
        if turn.tenantId = tenantId ∧ turn.conversationId = conversationId ∧ engagedAt ≤ turn.createdAt then 1 else 0 := by
  have hadd := countP_updateWhere_add (BotTurn.withId trigger.tenantId turnId)
    (BotTurn.counts tenantId conversationId engagedAt) (BotTurn.reply scores id) db.botTurns
  rw [ownTurn_filter hcounted hturn hid htenant, ← h.botTurns, List.countP_singleton, List.countP_singleton] at hadd
  simpa [BotTurn.counts, BotTurn.reply, houtcome] using hadd

theorem countP_replied (hcounted : Counted tenantId conversationId cap db) (hown : OwnTurn trigger turnId db)
    (engaged : Bool) : (AiRecord.replied trigger.tenantId trigger.messageId id ::
      (if engaged then [AiRecord.engaged trigger.tenantId trigger.conversationId] else [])).countP
        (db.repliedIn tenantId conversationId) =
      if trigger.tenantId = tenantId ∧ trigger.conversationId = conversationId then 1 else 0 := by
  obtain ⟨turn, hturn, _, hkeys, _⟩ := hown
  have htail : (if engaged then [AiRecord.engaged trigger.tenantId trigger.conversationId] else []).countP
      (db.repliedIn tenantId conversationId) = 0 := by
    cases engaged <;> rfl
  have hreply : db.repliedIn tenantId conversationId (.replied trigger.tenantId trigger.messageId id) = true ↔
      trigger.tenantId = tenantId ∧ trigger.conversationId = conversationId := by
    simp only [AiDb.repliedIn, decide_eq_true_eq, List.contains_iff_mem]
    constructor
    · rintro ⟨htenant, hmem⟩
      obtain ⟨v, hv, hv'⟩ := List.mem_map.mp hmem
      -- The message has one turn.
      have hsame : v = turn := by
        apply hcounted.inbound.eq_of_entry hv hturn (k := (tenantId, trigger.messageId))
        · simp only [BotTurn.keys, Prod.mk.injEq] at hv'
          rw [BotTurn.inboundEntry, hv'.1, hv'.2.2]
        · simp only [BotTurn.keys, Prod.mk.injEq] at hkeys
          rw [BotTurn.inboundEntry, hkeys.1, hkeys.2.2, htenant]
      subst hsame
      rw [hkeys] at hv'
      simp only [Prod.mk.injEq] at hv'
      exact ⟨htenant, hv'.2.1⟩
    · rintro ⟨rfl, rfl⟩
      exact ⟨rfl, List.mem_map.mpr ⟨turn, hturn, hkeys⟩⟩
  rw [List.countP_cons, htail, Nat.zero_add]
  simp only [hreply]

theorem ReplyWritten.engagedAt (h : ReplyWritten trigger gate turnId id scores sentAt db db')
    (hfind : db.findConversation trigger.tenantId trigger.conversationId = some v) :
    db'.engagedAt trigger.tenantId trigger.conversationId = (v.stampedBy gate sentAt).or v.botEngagedAt := by
  rw [AiDb.engagedAt, findConversation_updateWhere (f := BotConversation.engage (engagementStamp gate sentAt))
    (fun _ => ⟨rfl, rfl⟩) h.conversations, hfind]
  have hid := findConversation_withId hfind
  by_cases hstate : v.botState = .humanActive
  · simp [BotConversation.unlessHuman, hid, hstate, BotConversation.stampedBy]
  · simp [BotConversation.unlessHuman, hid, hstate, BotConversation.stampedBy, BotConversation.engage]

theorem ReplyWritten.counted_here (hcounted : Counted trigger.tenantId trigger.conversationId cap db)
    (hown : OwnTurn trigger turnId db) (hmay : InEngagement db trigger gate turnId sentAt = true)
    (h : ReplyWritten trigger gate turnId id scores sentAt db db') :
    db.replies trigger.tenantId trigger.conversationId < cap ∧
      db'.repliesThisEngagement trigger.tenantId trigger.conversationId
          (db'.engagedAt trigger.tenantId trigger.conversationId) =
        db.replies trigger.tenantId trigger.conversationId + 1 := by
  obtain ⟨turn, hturn, hid, hturnKeys, houtcome⟩ := hown
  simp only [BotTurn.keys, Prod.mk.injEq] at hturnKeys
  obtain ⟨htenant, hconversation, hmessage⟩ := hturnKeys
  have hcounts := h.countP_counts hcounted hturn hid htenant houtcome
  rw [InEngagement] at hmay
  cases hfind : db.findConversation trigger.tenantId trigger.conversationId with
  | none =>
    rw [hfind] at hmay
    cases hmay
  | some v =>
    have hengagedAt : db.engagedAt trigger.tenantId trigger.conversationId = v.botEngagedAt := by
      rw [AiDb.engagedAt, hfind]
      rfl
    have hcount := hcounted.count
    rw [hengagedAt] at hcount
    have hfound : db.botTurns.find? (BotTurn.withId trigger.tenantId turnId) = some turn := by
      rw [← List.head?_filter, ownTurn_filter hcounted hturn hid htenant]
      rfl
    rw [hfind, hfound, Option.any_some, Option.any_some] at hmay
    obtain ⟨hroom, hstamp⟩ := Bool.and_eq_true_iff.mp hmay
    have hroom := of_decide_eq_true hroom
    rw [hcount] at hroom
    refine ⟨Nat.lt_of_lt_of_le hroom hcounted.settings, ?_⟩
    rw [h.engagedAt hfind]
    cases hwrites : v.stampedBy gate sentAt with
    | some stamp =>
      cases hengaged : v.botEngagedAt with
      | some => simp [hwrites, hengaged] at hstamp
      | none =>
        simp only [hwrites, hengaged] at hstamp
        obtain ⟨holder, hnone⟩ := Bool.and_eq_true_iff.mp hstamp
        have hzero : db.botTurns.countP (BotTurn.counts trigger.tenantId trigger.conversationId stamp) = 0 := by
          rw [List.countP_eq_zero]
          simpa using hnone
        rw [hengaged] at hcount
        change 0 = _ at hcount
        rw [Option.some_or, repliesThisEngagement_some, hcounts stamp, hzero, if_neg, ← hcount]
        rintro ⟨_, _, hyounger⟩
        exact absurd (of_decide_eq_true holder) (Int.not_lt.mpr hyounger)
    | none =>
      cases hengaged : v.botEngagedAt with
      | none => simp [hwrites, hengaged] at hstamp
      | some engagedAt =>
        simp only [hwrites, hengaged] at hstamp
        rw [hengaged, repliesThisEngagement_some] at hcount
        rw [Option.none_or, repliesThisEngagement_some, hcounts engagedAt,
          if_pos ⟨htenant, hconversation, of_decide_eq_true hstamp⟩, ← hcount]

theorem ReplyWritten.counted_elsewhere (hcounted : Counted tenantId conversationId cap db)
    (hown : OwnTurn trigger turnId db)
    (hother : ¬ (trigger.tenantId = tenantId ∧ trigger.conversationId = conversationId))
    (h : ReplyWritten trigger gate turnId id scores sentAt db db') :
    db'.repliesThisEngagement tenantId conversationId (db'.engagedAt tenantId conversationId) =
      db.replies tenantId conversationId := by
  obtain ⟨turn, hturn, hid, hturnKeys, houtcome⟩ := hown
  simp only [BotTurn.keys, Prod.mk.injEq] at hturnKeys
  obtain ⟨htenant, hconversation, _⟩ := hturnKeys
  have hengagedAt : db'.engagedAt tenantId conversationId = db.engagedAt tenantId conversationId := by
    apply engagedAt_updateWhere (f := BotConversation.engage (engagementStamp gate sentAt)) (fun _ => ⟨rfl, rfl⟩) _
      h.conversations
    intro v hv hselected
    have hv := of_decide_eq_true hv
    have hselected := of_decide_eq_true (of_decide_eq_true hselected).1
    exact absurd ⟨hselected.1.symm.trans hv.1, hselected.2.symm.trans hv.2⟩ hother
  rw [hengagedAt, ← hcounted.count]
  cases db.engagedAt tenantId conversationId with
  | none => rfl
  | some engagedAt =>
    rw [repliesThisEngagement_some, repliesThisEngagement_some,
      h.countP_counts hcounted hturn hid htenant houtcome engagedAt, if_neg, Nat.add_zero]
    rintro ⟨htenant', hconversation', _⟩
    exact hother ⟨htenant.symm.trans htenant', hconversation.symm.trans hconversation'⟩

theorem Counted.reply (hcounted : Counted tenantId conversationId cap db) (hown : OwnTurn trigger turnId db)
    (hmay : trigger.tenantId = tenantId → trigger.conversationId = conversationId →
      InEngagement db trigger gate turnId sentAt = true)
    (h : ReplyWritten trigger gate turnId id scores sentAt db db') : Counted tenantId conversationId cap db' := by
  have hkeys : db'.repliedIn tenantId conversationId = db.repliedIn tenantId conversationId := repliedIn_congr h.keys
  have hresets : ∀ r ∈ AiRecord.replied trigger.tenantId trigger.messageId id ::
      (if db.conversations.any (BotConversation.unlessHuman trigger.tenantId trigger.conversationId) then
        [AiRecord.engaged trigger.tenantId trigger.conversationId] else []),
      r.isReset tenantId conversationId = false := by
    intro r hr
    rcases List.mem_cons.mp hr with rfl | hr
    · rfl
    · split at hr
      · rw [List.mem_singleton.mp hr]
        rfl
      · cases hr
  have hreplies := replies_append hkeys h.log hresets
  rw [countP_replied hcounted hown] at hreplies
  have hbound : db'.replies tenantId conversationId ≤ cap ∧
      db'.repliesThisEngagement tenantId conversationId (db'.engagedAt tenantId conversationId) =
        db'.replies tenantId conversationId := by
    by_cases hmine : trigger.tenantId = tenantId ∧ trigger.conversationId = conversationId
    · obtain ⟨rfl, rfl⟩ := hmine
      rw [if_pos ⟨rfl, rfl⟩] at hreplies
      obtain ⟨hroom, hcount⟩ := h.counted_here hcounted hown (hmay rfl rfl)
      rw [hreplies]
      exact ⟨hroom, hcount⟩
    · rw [if_neg hmine, Nat.add_zero] at hreplies
      rw [hreplies]
      exact ⟨hcounted.capped.current_le, h.counted_elsewhere hcounted hown hmine⟩
  constructor
  · apply hcounted.turnIds.congr
    rw [h.botTurns]
    exact map_updateWhere (f := BotTurn.reply scores id) (fun _ => rfl) _
  · apply hcounted.inbound.congr
    rw [h.botTurns]
    exact map_updateWhere (f := BotTurn.reply scores id) (fun _ => rfl) _
  · intro tenant message reply hmem
    rw [exists_inbound_iff, h.keys, ← exists_inbound_iff]
    rw [h.log] at hmem
    rcases List.mem_append.mp hmem with hmem | hmem
    · exact hcounted.turns tenant message reply hmem
    · rcases List.mem_cons.mp hmem with heq | hmem
      · cases heq
        obtain ⟨turn, hturn, _, hturnKeys, _⟩ := hown
        simp only [BotTurn.keys, Prod.mk.injEq] at hturnKeys
        refine ⟨turn, hturn, ?_⟩
        rw [BotTurn.inboundEntry, hturnKeys.1, hturnKeys.2.2]
      · split at hmem
        · cases List.mem_singleton.mp hmem
        · cases hmem
  · rw [AiDb.maxBotTurns, h.aiConfigs]
    exact hcounted.settings
  · rw [hkeys, h.log]
    apply hcounted.capped.append hresets
    have hcurrent := hbound.1
    rw [AiDb.replies, hkeys, h.log, current_append hresets] at hcurrent
    exact hcurrent
  · exact hbound.2

end Reply

end Steps

end WhatsappCrm.Ai
