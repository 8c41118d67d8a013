/-
Purpose: At most one reply for an inbound message, however often its job is delivered and wherever a worker stops.
-/
import WhatsappCrm.Ai.Effects
import WhatsappCrm.Lib.Credit

namespace WhatsappCrm.Ai

open Interleaving Table

variable (trigger : BotInboundTrigger)

variable {tag : AiStmt}

variable (unicode : Unicode) (snapshot : BotGateSnapshot)

theorem AiEffect.turns {db : AiDb} (heffect : AiEffect tag db db') :
    (∃ p f, db'.botTurns = updateWhere p f db.botTurns ∧ ∀ t : BotTurn, (f t).inboundEntry = t.inboundEntry) ∨
      ∃ turn : BotTurn, (∀ t ∈ db.botTurns, t.inboundEntry ≠ turn.inboundEntry) ∧
        db'.botTurns = db.botTurns ++ [turn] := by
  have hsame : ∀ {turns : List BotTurn}, turns = db.botTurns → ∃ p f, turns = updateWhere p f db.botTurns ∧
      ∀ t : BotTurn, (f t).inboundEntry = t.inboundEntry :=
    fun h => ⟨fun _ => false, id, by rw [h, updateWhere_of_none fun _ _ => rfl], fun _ => rfl⟩
  cases heffect with
  | same _ h | people _ _ h => exact .inl (hsame h.botTurns)
  | insertTurn h =>
    subst h
    simp only [AiDb.insertTurn]
    split
    · exact .inl (hsame rfl)
    · split
      · exact .inl (hsame rfl)
      · rename_i turn _ hfresh
        refine .inr ⟨turn, fun t ht hkey => hfresh (List.any_eq_true.mpr ⟨t, ht, ?_⟩), rfl⟩
        simpa using hkey
  | updateTurn hf => exact .inl ⟨_, _, rfl, hf⟩
  | reply h =>
    obtain ⟨p, scores, hturns⟩ := (commitReply_ok h).botTurns
    exact .inl ⟨_, _, hturns, fun _ => rfl⟩
  | turnHandoff h =>
    obtain ⟨p, reason, hturns⟩ := (commitHandoff_ok rfl rfl h).botTurns
    exact .inl ⟨_, _, hturns, fun _ => rfl⟩
  | agentHandoff h =>
    obtain ⟨p, reason, hturns⟩ := (recordHandoff_handedOff h).botTurns
    exact .inl ⟨_, _, hturns, fun _ => rfl⟩
  | request | status => exact .inl (hsame rfl)
  | event event => cases event <;> exact .inl (hsame rfl)

def AiRecord.isReplyTo (tenantId messageId : Uuid) : AiRecord → Bool
  | .replied tenant message _ => tenant = tenantId ∧ message = messageId
  | _ => false

def repliesTo (tenantId messageId : Uuid) (db : AiDb) : List AiRecord :=
  db.log.filter (AiRecord.isReplyTo tenantId messageId)

def BotTurn.ofMessage (tenantId messageId : Uuid) (t : BotTurn) : Bool := t.inboundEntry = some (tenantId, messageId)

def replyLedger (tenantId messageId : Uuid) : Ledger AiDb where
  granted db := db.botTurns.countP (BotTurn.ofMessage tenantId messageId)
  spent db := (repliesTo tenantId messageId db).length

def BotInboundTrigger.share (tenantId messageId : Uuid) : Nat :=
  if trigger.tenantId = tenantId ∧ trigger.messageId = messageId then 1 else 0

section Ledger

variable {tenantId : Uuid} {db : AiDb}

theorem repliesTo_append (h : ∀ r ∈ records, r.isReplyTo tenantId messageId = false)
    (hlog : db'.log = db.log ++ records) : repliesTo tenantId messageId db' = repliesTo tenantId messageId db := by
  have hnone : records.filter (AiRecord.isReplyTo tenantId messageId) = [] := by
    apply List.filter_eq_nil_iff.mpr
    intro r hr
    simp [h r hr]
  rw [repliesTo, hlog, List.filter_append, hnone, List.append_nil, repliesTo]

theorem countP_updateTurns (hf : ∀ t, (f t).inboundEntry = t.inboundEntry) (turns : List BotTurn) :
    (updateWhere p f turns).countP (BotTurn.ofMessage tenantId messageId) =
      turns.countP (BotTurn.ofMessage tenantId messageId) := by
  have hmap : (updateWhere p f turns).map BotTurn.inboundEntry = turns.map BotTurn.inboundEntry :=
    map_updateWhere hf turns
  have hcount : ∀ ts : List BotTurn, ts.countP (BotTurn.ofMessage tenantId messageId) =
      (ts.map BotTurn.inboundEntry).countP fun k => k = some (tenantId, messageId) := by
    intro ts
    rw [List.countP_map]
    rfl
  rw [hcount, hcount, hmap]

theorem Recorded.noReply (h : Recorded tag records)
    (htag : tag.isReply = false) : ∀ r ∈ records, r.isReplyTo tenantId messageId = false := by
  intro r hr
  cases h with
  | nothing => cases hr
  | replied => cases htag
  | handedOff tenant conversation event message =>
    rcases List.mem_cons.mp hr with rfl | hr
    · rfl
    · cases message with
      | true =>
        rw [List.mem_singleton.mp hr]
        rfl
      | false => cases hr
  | requested | reset =>
    rw [List.mem_singleton.mp hr]
    rfl

theorem AiEffect.idle (heffect : AiEffect tag db db') (htag : tag.isReply = false) :
    (replyLedger tenantId messageId).Idle db db' := by
  obtain ⟨records, hrecords, hlog⟩ := heffect.recorded
  constructor
  · simp only [replyLedger, repliesTo_append (hrecords.noReply htag) hlog, Nat.le_refl]
  · rcases heffect.turns with ⟨p, f, hturns, hf⟩ | ⟨turn, _, hturns⟩
    · simp only [replyLedger]
      rw [hturns, countP_updateTurns hf]
    · simp [replyLedger, hturns, List.countP_append]

theorem Replied.settles {trigger : BotInboundTrigger} {id : Uuid} (h : Replied trigger id db db') :
    (replyLedger tenantId messageId).Settles db db' (trigger.share tenantId messageId) 0 := by
  obtain ⟨p, scores, hturns⟩ := h.botTurns
  have hgranted : (replyLedger tenantId messageId).granted db' = (replyLedger tenantId messageId).granted db := by
    simp only [replyLedger]
    rw [hturns, countP_updateTurns (f := BotTurn.reply scores id) fun _ => rfl]
  have hspent : (replyLedger tenantId messageId).spent db' =
      (replyLedger tenantId messageId).spent db + trigger.share tenantId messageId := by
    have htail : ∀ b : Bool, (if b then [AiRecord.engaged trigger.tenantId trigger.conversationId] else []).filter
        (AiRecord.isReplyTo tenantId messageId) = [] := by
      intro b
      cases b <;> rfl
    simp only [replyLedger, repliesTo, h.log, List.filter_append, List.filter_cons, htail, List.length_append,
      BotInboundTrigger.share, AiRecord.isReplyTo, decide_eq_true_eq]
    split <;> rfl
  unfold Ledger.Settles
  omega

end Ledger

section Programs

variable {tenantId : Uuid}

theorem SilentProg.idle {α : Type} {p : AiProg α} (h : SilentProg p) :
    p.Within (fun _ => True) fun _ s s' => (replyLedger tenantId messageId).Idle s s' :=
  Prog.Follows.mono (fun _ _ _ _ _ heffect => heffect.2.idle heffect.1) h

theorem reply_affords (turnId : Uuid) (body : String)
    (scores : TurnScores) : (reply trigger snapshot turnId body scores).Affords (fun _ => True)
      (replyLedger tenantId messageId) (trigger.share tenantId messageId) := by
  apply (read_plain _).silent.idle.affords_bind
  intro sentAt
  apply drawId_plain.silent.idle.affords_bind
  intro replyMessageId
  apply Prog.Affords.stmt
  intro db _
  cases hcommit : db.commitReply trigger snapshot turnId replyMessageId body scores sentAt with
  | error => exact ⟨_, (Ledger.Idle.refl db).settles _⟩
  | ok => exact ⟨0, (commitReply_ok hcommit).settles⟩

theorem resolve_affords (chunks : List RetrievedChunk)
    (turnId : Uuid) (result : BotCallResult) : (resolve trigger snapshot chunks turnId result).Affords (fun _ => True)
      (replyLedger tenantId messageId) (trigger.share tenantId messageId) := by
  cases result with
  | failed error =>
    apply (updateTurn_plain trigger.tenantId turnId (f := BotTurn.fail (some error)) fun _ => rfl).silent.idle.affords_bind
    exact fun _ => (handOff_silent trigger snapshot _ _).idle.affords _
  | answered answer =>
    rw [resolve]
    split
    · rename_i scores error _
      apply (updateTurn_plain trigger.tenantId turnId (f := BotTurn.score scores error)
        fun _ => rfl).silent.idle.affords_bind
      exact fun _ => (handOff_silent trigger snapshot _ _).idle.affords _
    · exact reply_affords trigger snapshot turnId _ _

theorem takeTurn_affords (trigger : BotInboundTrigger) (snapshot : BotGateSnapshot)
    (question : String) (chunks : List RetrievedChunk) (result : BotCallResult) :
    (takeTurn unicode trigger snapshot question chunks result).Affords (fun _ => True)
      (replyLedger tenantId messageId) 0 := by
  rw [takeTurn]
  split
  · exact (handOff_silent trigger snapshot _ _).idle.affords _
  · split
    · exact (handOff_silent trigger snapshot _ _).idle.affords _
    · apply drawId_plain.silent.idle.affords_bind
      intro id db _
      simp only [AiDb.insertTurn]
      split
      · exact ⟨0, (Ledger.Idle.refl db).settles 0, trivial⟩
      · split
        · exact ⟨0, (Ledger.Idle.refl db).settles 0, trivial⟩
        · refine ⟨trigger.share tenantId messageId, ?_, resolve_affords trigger snapshot chunks id result⟩
          have hgranted : ([claimedTurn trigger id db.now].countP (BotTurn.ofMessage tenantId messageId)) =
              trigger.share tenantId messageId := by
            simp [List.countP_cons, BotTurn.ofMessage, BotTurn.inboundEntry, claimedTurn, BotInboundTrigger.share]
          simp only [Ledger.Settles, replyLedger, repliesTo, List.countP_append, hgranted]
          omega

theorem handle_affords (trigger : BotInboundTrigger) (chunks : List RetrievedChunk)
    (result : BotCallResult) : (handle unicode trigger chunks result).Affords (fun _ => True)
      (replyLedger tenantId messageId) 0 := by
  apply (read_plain _).silent.idle.affords_bind
  intro now
  apply (snapshot_plain trigger now).silent.idle.affords_bind
  intro gate
  cases decideEligibility gate with
  | suppress reason => exact (suppress_plain trigger reason).silent.idle.affords _
  | handoff reason => exact (handOff_silent trigger gate reason none).idle.affords _
  | admitted question => exact takeTurn_affords unicode trigger gate question chunks result

theorem aiProgram_affords (call : AiCall) :
    (aiProgram unicode call).Affords (fun _ => True) (replyLedger tenantId messageId) 0 := by
  cases call with
  | handle trigger chunks result => exact (handle_affords unicode trigger chunks result).bind fun _ _ => trivial
  | _ =>
    exact (aiProgram_quiet unicode fun _ _ _ h => by cases h).silent.idle.affords 0

end Programs

theorem AiEffect.uniqueTurns {db : AiDb} (heffect : AiEffect tag db db')
    (hdb : UniqueBy BotTurn.inboundEntry db.botTurns) : UniqueBy BotTurn.inboundEntry db'.botTurns := by
  rcases heffect.turns with ⟨p, f, hturns, hf⟩ | ⟨turn, hfresh, hturns⟩
  · rw [hturns]
    exact hdb.updateWhere fun t _ _ => .inr (hf t)
  · rw [hturns]
    exact hdb.concat fun t ht hclash => hfresh t ht hclash.2

/-- However often the job of an inbound message is delivered, and wherever a worker stops, at most one reply is written
    for the message. -/
theorem one_reply_per_message {unicode : Unicode} {db : AiDb} (hdb : UniqueBy BotTurn.inboundEntry db.botTurns)
    (hlog : db.log = []) {s : AiSys} (hs : AiRun unicode db s) (tenantId messageId : Uuid) :
    (repliesTo tenantId messageId s.db).length ≤ 1 := by
  have hstart : (replyLedger tenantId messageId).spent db ≤ (replyLedger tenantId messageId).granted db := by
    simp [replyLedger, repliesTo, hlog]
  have hsolvent := Reachable.solvent (aiProgram_affords unicode) hstart (fun _ _ => trivial) hs
  have hunique : UniqueBy BotTurn.inboundEntry s.db.botTurns :=
    Reachable.invariant (fun call => (aiProgram_within unicode call).weaken fun _ _ => trivial)
      (fun _ _ _ _ hturns _ heffect => heffect.uniqueTurns hturns) hdb hs
  calc (repliesTo tenantId messageId s.db).length
      ≤ s.db.botTurns.countP (BotTurn.ofMessage tenantId messageId) := hsolvent.spent_le
    _ = (s.db.botTurns.filter fun t => t.inboundEntry = some (tenantId, messageId)).length := List.countP_eq_length_filter
    _ ≤ 1 := hunique.length_filter_le_one (tenantId, messageId)

def redeliverySchedule : List (Move AiCall) :=
  [.spawn answeredQuestion, .spawn answeredQuestion] ++
    (List.replicate 10 [Move.step 0, Move.step 1]).flatten ++ List.replicate 3 (.step 0)

theorem one_reply_per_message_redelivered : ∃ s, AiRun asciiOnly oneBotConversation s ∧
    (repliesTo 1 9 s.db).length = 1 ∧ (repliesTo 1 9 s.db).length ≤ 1 := by
  have hrun : ((run (aiProgram asciiOnly) (fun _ _ _ => true) redeliverySchedule (.idle oneBotConversation)).map
      fun s => decide ((repliesTo 1 9 s.db).length = 1)) = some true := by
    decide +kernel
  obtain ⟨s, hreached, hlength⟩ := ends_of_run_any hrun
  exact ⟨s, hreached, of_decide_eq_true hlength, one_reply_per_message (by decide) rfl hreached 1 9⟩

end WhatsappCrm.Ai
