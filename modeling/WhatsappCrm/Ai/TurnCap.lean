/-
Purpose: The cap on the bot's replies in an engagement, and the count it is judged by, with what its turns know in sight.
-/
import WhatsappCrm.Ai.TurnRows
import WhatsappCrm.Lib.Ownership

namespace WhatsappCrm.Ai

open Interleaving Table

/-- What a statement is sent with: nothing of note, the turn whose reply it commits, or what happens meanwhile. -/
inductive Context where
  | plain
  | reply (trigger : BotInboundTrigger) (gate : BotGateSnapshot) (turnId : Uuid) (sentAt : Millis)
  | event (event : AiEvent)

abbrev WatchedStmt := AiStmt × Context

abbrev WatchedProg := Prog WatchedStmt AiDb

variable {α : Type}

def inContext (context : Context) (p : AiProg α) : WatchedProg α := p.retag fun tag => (tag, context)

@[simp] theorem inContext_retag (context : Context) (p : AiProg α) : (inContext context p).retag Prod.fst = p :=
  (Prog.retag_retag _ _ _).trans (Prog.retag_id _)

def replyAt (trigger : BotInboundTrigger) (snapshot : BotGateSnapshot) (turnId : Uuid) (body : String)
    (scores : TurnScores) (sentAt : Millis) : AiProg (Except AiError BotTurnOutcome) := do
  let replyMessageId ← drawId
  .stmt (.commitReply trigger.tenantId trigger.conversationId replyMessageId) fun db =>
    match db.commitReply trigger snapshot turnId replyMessageId body scores sentAt with
    | .error e => (.error e, db)
    | .ok db' => (.ok .replied, db')

theorem reply_eq (trigger : BotInboundTrigger) (snapshot : BotGateSnapshot) (turnId : Uuid) (body : String)
    (scores : TurnScores) : reply trigger snapshot turnId body scores =
      readNow.bind (replyAt trigger snapshot turnId body scores) :=
  rfl

def watchedReply (trigger : BotInboundTrigger) (snapshot : BotGateSnapshot) (turnId : Uuid) (body : String)
    (scores : TurnScores) : WatchedProg (Except AiError BotTurnOutcome) :=
  (inContext .plain readNow).bind fun sentAt =>
    inContext (.reply trigger snapshot turnId sentAt) (replyAt trigger snapshot turnId body scores sentAt)

def watchedResolve (trigger : BotInboundTrigger) (snapshot : BotGateSnapshot) (chunks : List RetrievedChunk)
    (turnId : Uuid) : BotCallResult → WatchedProg (Except AiError BotTurnOutcome)
  | .failed error => inContext .plain (resolve trigger snapshot chunks turnId (.failed error))
  | .answered answer =>
    match scoreAnswer snapshot.settings chunks answer with
    | (_, .refuse _) => inContext .plain (resolve trigger snapshot chunks turnId (.answered answer))
    | (scores, .reply body) => watchedReply trigger snapshot turnId body scores

def watchedTakeTurn (unicode : Unicode) (trigger : BotInboundTrigger) (snapshot : BotGateSnapshot) (question : String)
    (chunks : List RetrievedChunk) (result : BotCallResult) : WatchedProg (Except AiError BotTurnOutcome) :=
  match matchHandoffKeyword unicode question snapshot.settings.handoffKeywords with
  | some _ => inContext .plain (handOff trigger snapshot .customerRequested none)
  | none =>
    if chunks = [] then inContext .plain (handOff trigger snapshot .noMatch none)
    else (inContext .plain (claimTurn trigger)).bind fun
      | .error e => .pure (.error e)
      | .ok none => .pure (.ok .suppressed)
      | .ok (some turnId) => watchedResolve trigger snapshot chunks turnId result

def watchedHandle (unicode : Unicode) (trigger : BotInboundTrigger) (chunks : List RetrievedChunk)
    (result : BotCallResult) : WatchedProg (Except AiError BotTurnOutcome) :=
  (inContext .plain (readNow.bind (snapshot trigger))).bind fun gate =>
    match decideEligibility gate with
    | .suppress reason => inContext .plain (suppress trigger reason)
    | .handoff reason => inContext .plain (handOff trigger gate reason none)
    | .admitted question => watchedTakeTurn unicode trigger gate question chunks result

def watchedProgram (unicode : Unicode) : AiCall → WatchedProg AiReply
  | .handle trigger chunks result => (watchedHandle unicode trigger chunks result).bind (.pure ∘ .turned)
  | .event event => inContext (.event event) (aiProgram unicode (.event event))
  | call => inContext .plain (aiProgram unicode call)

theorem watchedResolve_retag (trigger : BotInboundTrigger) (snapshot : BotGateSnapshot) (chunks : List RetrievedChunk)
    (turnId : Uuid) (result : BotCallResult) : (watchedResolve trigger snapshot chunks turnId result).retag Prod.fst =
      resolve trigger snapshot chunks turnId result := by
  cases result with
  | failed => exact inContext_retag _ _
  | answered answer =>
    rw [watchedResolve]
    split
    · exact inContext_retag _ _
    · rename_i scores body hscore
      simp only [watchedReply, Prog.retag_bind, inContext_retag, resolve, hscore, reply_eq]

theorem watchedTakeTurn_retag (unicode : Unicode) (trigger : BotInboundTrigger) (snapshot : BotGateSnapshot)
    (question : String) (chunks : List RetrievedChunk) (result : BotCallResult) :
    (watchedTakeTurn unicode trigger snapshot question chunks result).retag Prod.fst =
      takeTurn unicode trigger snapshot question chunks result := by
  rw [watchedTakeTurn, takeTurn]
  cases matchHandoffKeyword unicode question snapshot.settings.handoffKeywords with
  | some => exact inContext_retag _ _
  | none =>
    dsimp only
    split
    · exact inContext_retag _ _
    · rw [Prog.retag_bind, inContext_retag, Prog.bind_def]
      congr 1
      funext claimed
      rcases claimed with e | _ | turnId
      · rfl
      · rfl
      · exact watchedResolve_retag trigger snapshot chunks turnId result

theorem watchedHandle_retag (unicode : Unicode) (trigger : BotInboundTrigger) (chunks : List RetrievedChunk)
    (result : BotCallResult) : (watchedHandle unicode trigger chunks result).retag Prod.fst =
      handle unicode trigger chunks result := by
  rw [watchedHandle, Prog.retag_bind, inContext_retag, Prog.bind_assoc, handle, Prog.bind_def]
  congr 1
  funext now
  rw [Prog.bind_def]
  congr 1
  funext gate
  cases decideEligibility gate with
  | suppress | handoff => exact inContext_retag _ _
  | admitted question => exact watchedTakeTurn_retag unicode trigger gate question chunks result

theorem watchedProgram_retag (unicode : Unicode) (call : AiCall) :
    (watchedProgram unicode call).retag Prod.fst = aiProgram unicode call := by
  cases call with
  | handle =>
    rw [watchedProgram, Prog.retag_bind, watchedHandle_retag]
    rfl
  | _ => exact inContext_retag _ _

abbrev WatchedSys := Sys WatchedStmt AiDb AiCall AiReply

theorem aiRun_iff {db : AiDb} :
    AiRun unicode db s ↔ ∃ w : WatchedSys, Reachable (watchedProgram unicode) anyStep (.idle db) w ∧
      s = w.retag Prod.fst := by
  have hprog : aiProgram unicode = fun call => (watchedProgram unicode call).retag Prod.fst :=
    funext fun call => (watchedProgram_retag unicode call).symm
  have hidle : (Sys.idle db : WatchedSys).retag Prod.fst = (Sys.idle db : AiSys) := rfl
  rw [AiRun, hprog, ← hidle]
  constructor
  · exact Reachable.of_retag
  · rintro ⟨w, hreach, rfl⟩
    exact hreach.retag Prod.fst

open Epoch

variable (unicode : Unicode) (gate : BotGateSnapshot)

def AiCall.turnsIn (tenantId conversationId : Uuid) : AiCall → Bool
  | .handle trigger _ _ => trigger.tenantId = tenantId ∧ trigger.conversationId = conversationId
  | _ => false

structure TurnCap {τ : Type} (tenantId conversationId : Uuid) (cap : Nat) (s : Sys τ AiDb AiCall AiReply) : Prop where
  capped : AtMost cap (AiRecord.isReset tenantId conversationId) (s.db.repliedIn tenantId conversationId) s.db.log
  counted : (∀ e ∈ s.calls, e.1.turnsIn tenantId conversationId = true → e.2.result?.isSome = true) →
    ∀ v, s.db.findConversation tenantId conversationId = some v →
      s.db.repliesThisEngagement tenantId conversationId v.botEngagedAt = s.db.replies tenantId conversationId ∧
        (v.botEngagedAt = none ↔ s.db.replies tenantId conversationId = 0)

/-- What has to hold when a statement is executed: a reply finds its turn's engagement, and the tenant's cap is set no
    higher than `cap`. -/
def CapAllows (tenantId conversationId : Uuid) (cap : Nat) (db : AiDb) : WatchedStmt → Bool
  | (.commitReply _ _ _, .reply trigger gate turnId sentAt) =>
    !decide (trigger.tenantId = tenantId ∧ trigger.conversationId = conversationId) ||
      InEngagement db trigger gate turnId sentAt
  | (.operate, .event (.configure tenant settings)) => !decide (tenant = tenantId) || decide (settings.maxBotTurns ≤ cap)
  | _ => true

structure Unengaged (tenantId conversationId : Uuid) (cap : Nat) (db : AiDb) : Prop where
  turnIds : UniqueBy BotTurn.idEntry db.botTurns
  inbound : UniqueBy BotTurn.inboundEntry db.botTurns
  log : db.log = []
  settings : db.maxBotTurns tenantId ≤ cap
  engagedAt : db.engagedAt tenantId conversationId = none

theorem Unengaged.counted {tenantId conversationId : Uuid} {cap : Nat} {db : AiDb}
    (h : Unengaged tenantId conversationId cap db) : Counted tenantId conversationId cap db where
  turnIds := h.turnIds
  inbound := h.inbound
  turns tenant message id hmem := by
    rw [h.log] at hmem
    cases hmem
  settings := h.settings
  capped := by
    rw [h.log]
    exact AtMost.nil
  count := by
    rw [h.engagedAt, AiDb.replies, h.log]
    rfl

def turnOwnership (tenantId conversationId : Uuid) (cap : Nat) :
    Ownership WatchedStmt AiDb (Option (BotInboundTrigger × Uuid)) where
  inv := Counted tenantId conversationId cap
  holds m db := ∀ k ∈ m, OwnTurn k.1 k.2 db
  apart m n := ∀ k ∈ m, ∀ l ∈ n, k.2 ≠ l.2
  cond tag db := CapAllows tenantId conversationId cap db tag = true
  effect _ _ _ := True

section Ownership

variable {tenantId conversationId : Uuid} {cap : Nat} {db : AiDb} {m : Option (BotInboundTrigger × Uuid)}

theorem turnOwnership_sound : (turnOwnership tenantId conversationId cap).Sound none where
  symm h k hk l hl := (h l hl k hk).symm
  start_holds _ k hk := by cases hk
  start_apart _ k hk := by cases hk

theorem OwnTurn.congr {trigger : BotInboundTrigger} {turnId : Uuid} (h : OwnTurn trigger turnId db)
    (hturns : db'.botTurns.map BotTurn.tallied = db.botTurns.map BotTurn.tallied) : OwnTurn trigger turnId db' := by
  obtain ⟨v, hv, hid, hkeys, houtcome⟩ := h
  have hmem : v.tallied ∈ db'.botTurns.map BotTurn.tallied := by
    rw [hturns]
    exact List.mem_map_of_mem hv
  obtain ⟨w, hw, hsame⟩ := List.mem_map.mp hmem
  simp only [BotTurn.tallied, Prod.mk.injEq] at hsame
  refine ⟨w, hw, hsame.1.trans hid, hsame.2.1.trans hkeys, ?_⟩
  simpa [houtcome] using hsame.2.2.2

theorem OwnTurn.mono {trigger : BotInboundTrigger} {turnId : Uuid} (h : OwnTurn trigger turnId db)
    (hturns : ∀ v ∈ db.botTurns, v.id = turnId → v ∈ db'.botTurns) : OwnTurn trigger turnId db' := by
  obtain ⟨v, hv, hid, hown⟩ := h
  exact ⟨v, hturns v hv hid, hid, hown⟩

theorem Beside.yields (h : Beside tenantId conversationId db db')
    (hinv : (turnOwnership tenantId conversationId cap).inv db)
    (hholds : (turnOwnership tenantId conversationId cap).holds m db) (hsettings : db'.maxBotTurns tenantId ≤ cap) :
    (turnOwnership tenantId conversationId cap).Yields m m db db' where
  inv := Counted.beside hinv h hsettings
  holds k hk := (hholds k hk).congr h.turns
  others _ hapart hother := ⟨hapart, fun l hl => (hother l hl).congr h.turns⟩

theorem Aside.yields (h : Aside tenantId conversationId db db')
    (hinv : (turnOwnership tenantId conversationId cap).inv db)
    (hholds : (turnOwnership tenantId conversationId cap).holds m db) :
    (turnOwnership tenantId conversationId cap).Yields m m db db' := by
  cases h with
  | beside h hsettings =>
    apply h.yields hinv hholds
    rw [AiDb.maxBotTurns, hsettings]
    exact hinv.settings
  | claim hid hinbound houtcome =>
    exact ⟨Counted.claim hinv hid hinbound houtcome,
      fun k hk => (hholds k hk).mono fun v hv _ => List.mem_append_left _ hv,
      fun _ hapart hother => ⟨hapart, fun l hl => (hother l hl).mono fun v hv _ => List.mem_append_left _ hv⟩⟩
  | reset hresets => exact ⟨Counted.reset hinv hresets, hholds, fun _ hapart hother => ⟨hapart, hother⟩⟩

theorem tallied_rewrite {trigger : BotInboundTrigger} {turnId : Uuid}
    (hinv : Counted tenantId conversationId cap db) (hown : OwnTurn trigger turnId db)
    (hf : ∀ v : BotTurn, v.outcome ≠ .replied → (f v).tallied = v.tallied) :
    (updateWhere (BotTurn.withId trigger.tenantId turnId) f db.botTurns).map BotTurn.tallied =
      db.botTurns.map BotTurn.tallied := by
  obtain ⟨turn, hturn, hid, hkeys, houtcome⟩ := hown
  simp only [BotTurn.keys, Prod.mk.injEq] at hkeys
  have honly := ownTurn_filter hinv hturn hid hkeys.1
  rw [updateWhere, List.map_map]
  apply List.map_congr_left
  intro v hv
  simp only [Function.comp_apply]
  split
  · rename_i hselected
    have hmem : v ∈ db.botTurns.filter (BotTurn.withId trigger.tenantId turnId) := List.mem_filter.mpr ⟨hv, hselected⟩
    rw [honly, List.mem_singleton] at hmem
    apply hf
    rwa [hmem]
  · rfl

theorem Beside.trans (h : Beside tenantId conversationId db db')
    (h' : Beside tenantId conversationId db' db'') : Beside tenantId conversationId db db'' := by
  obtain ⟨records, hlog, hrecords⟩ := h.log
  obtain ⟨records', hlog', hrecords'⟩ := h'.log
  refine ⟨h'.turns.trans h.turns, h'.engagedAt.trans h.engagedAt, records ++ records', ?_, ?_⟩
  · rw [hlog', hlog, List.append_assoc]
  · intro r hr
    rcases List.mem_append.mp hr with hr | hr
    · exact hrecords r hr
    · exact hrecords' r hr

theorem commitHandoff_beside {trigger : BotInboundTrigger} {event : HandoffEvent} {message : Option (Uuid × String)}
    (hinv : Counted tenantId conversationId cap db) (hown : ∀ turnId ∈ event.botTurnId, OwnTurn trigger turnId db)
    (h : db.commitHandoff trigger event message sentAt = .ok db') :
    Beside tenantId conversationId db db' ∧ db'.aiConfigs = db.aiConfigs := by
  obtain ⟨turns, db₁, hturn, hrecord, hmessage⟩ := AiDb.commitHandoff_cases h
  have hturns : Beside tenantId conversationId db { db with botTurns := turns } := by
    refine ⟨?_, rfl, [], (List.append_nil _).symm, by simp⟩
    rcases hturn with ⟨-, rfl⟩ | ⟨turnId, hturn, rfl⟩
    · rfl
    · apply tallied_rewrite hinv (hown turnId hturn)
      intro v houtcome
      simp [BotTurn.tallied, BotTurn.handOff, BotTurn.keys, houtcome]
  obtain ⟨hbeside, hsettings⟩ := recordHandoff_beside hrecord
  obtain ⟨messages, records, rfl, hrecords⟩ := AiDb.writeHandoffMessage_ok hmessage
  refine ⟨(hturns.trans hbeside).trans ⟨rfl, rfl, records, rfl, ?_⟩, hsettings⟩
  rcases hrecords with rfl | rfl <;> simp [AiRecord.isReset]

theorem ReplyWritten.yields {trigger : BotInboundTrigger} {gate : BotGateSnapshot} {turnId id : Uuid}
    (hinv : Counted tenantId conversationId cap db) (hown : OwnTurn trigger turnId db)
    (hmay : trigger.tenantId = tenantId → trigger.conversationId = conversationId →
      InEngagement db trigger gate turnId sentAt = true)
    (h : ReplyWritten trigger gate turnId id scores sentAt db db') :
    (turnOwnership tenantId conversationId cap).Yields (some (trigger, turnId)) none db db' where
  inv := hinv.reply hown hmay h
  holds k hk := by cases hk
  others n hapart hother := by
    refine ⟨fun k hk => (by cases hk), fun l hl => (hother l hl).mono fun v hv hid => ?_⟩
    rw [h.botTurns]
    apply mem_updateWhere_of_not hv
    have hne : turnId ≠ l.2 := hapart _ rfl l hl
    simp [BotTurn.withId, hid, Ne.symm hne]

end Ownership

section Programs

variable {tenantId conversationId : Uuid} {cap : Nat} {α : Type} {m : Option (BotInboundTrigger × Uuid)}

abbrev ownershipIn (tenantId conversationId : Uuid) (cap : Nat) (context : Context) :
    Ownership AiStmt AiDb (Option (BotInboundTrigger × Uuid)) :=
  (turnOwnership tenantId conversationId cap).retag fun tag => (tag, context)

theorem AsideProg.owns (h : AsideProg tenantId conversationId p) :
    p.Owns (ownershipIn tenantId conversationId cap context) (fun k _ => k = m) m :=
  Prog.Within.owns h fun _ _ _ hinv hholds haside => ⟨trivial, (haside.yields hinv hholds).retag _⟩

theorem AsideProg.owns_bind {β : Type} {f : α → AiProg β}
    {Q : Option (BotInboundTrigger × Uuid) → β → Prop} (h : AsideProg tenantId conversationId p)
    (hf : ∀ a, (f a).Owns (ownershipIn tenantId conversationId cap context) Q m) :
    (p.bind f).Owns (ownershipIn tenantId conversationId cap context) Q m := by
  apply Prog.Owns.bind (h.owns (m := m))
  rintro _ a rfl
  exact hf a

variable {trigger : BotInboundTrigger} {turnId : Uuid}

theorem updateTurn_owns (hf : ∀ v : BotTurn, v.outcome ≠ .replied → (f v).tallied = v.tallied) :
    (updateTurn trigger.tenantId turnId f).Owns (ownershipIn tenantId conversationId cap context)
      (fun k _ => k = some (trigger, turnId)) (some (trigger, turnId)) := by
  intro db hinv hholds _
  have hbeside : Beside tenantId conversationId db
      { db with botTurns := updateWhere (BotTurn.withId trigger.tenantId turnId) f db.botTurns } :=
    ⟨tallied_rewrite hinv (hholds _ rfl) hf, rfl, [], (List.append_nil _).symm, by simp⟩
  exact ⟨trivial, _, (hbeside.yields hinv hholds hinv.settings).retag _, rfl⟩

theorem suppressUnanswered_owns (turnId : Option Uuid) :
    (suppressUnanswered trigger turnId).Owns (ownershipIn tenantId conversationId cap context)
      (fun _ _ => True) (turnId.map fun id => (trigger, id)) := by
  cases turnId with
  | none => exact (suppress_aside trigger _).owns.mono fun _ _ _ => trivial
  | some =>
    refine Prog.Owns.bind (updateTurn_owns (f := BotTurn.suppress) ?_) fun _ _ _ => trivial
    intro v houtcome
    simp [BotTurn.tallied, BotTurn.suppress, BotTurn.keys, houtcome]

theorem handOff_owns (reason : HandoffReason) (turnId : Option Uuid) :
    (handOff trigger gate reason turnId).Owns (ownershipIn tenantId conversationId cap context)
      (fun _ _ => True) (turnId.map fun id => (trigger, id)) := by
  rw [handOff]
  split
  · exact suppressUnanswered_owns turnId
  · apply AsideProg.owns_bind (read_aside _)
    intro sentAt
    apply AsideProg.owns_bind drawId_aside
    intro eventId
    apply AsideProg.owns_bind (drawMessage_aside _)
    intro message db hinv hholds _
    have hown : ∀ id ∈ (handoffEvent trigger gate reason turnId eventId).botTurnId, OwnTurn trigger id db := by
      intro id hid
      apply hholds (trigger, id)
      have hturn : turnId = some id := hid
      rw [hturn]
      rfl
    cases hcommit : db.commitHandoff trigger (handoffEvent trigger gate reason turnId eventId) message sentAt with
    | error =>
      simp only [hcommit]
      exact ⟨trivial, _, ((Beside.refl db).yields hinv hholds hinv.settings).retag _, trivial⟩
    | ok db' =>
      simp only [hcommit]
      obtain ⟨hbeside, hsettings⟩ := commitHandoff_beside hinv hown hcommit
      have hcap : db'.maxBotTurns tenantId ≤ cap := by
        rw [AiDb.maxBotTurns, hsettings]
        exact hinv.settings
      refine ⟨trivial, _, (hbeside.yields hinv hholds hcap).retag _, ?_⟩
      apply AsideProg.owns_bind (requestRoutingIfUnowned_aside _ _ _ _)
      exact fun _ => trivial

theorem claimTurn_owns : (claimTurn trigger).Owns (ownershipIn tenantId conversationId cap context)
    (fun k claimed => match claimed with
      | .ok (some turnId) => k = some (trigger, turnId)
      | _ => True) none := by
  apply AsideProg.owns_bind drawId_aside
  intro id db hinv hholds _
  dsimp only
  rcases insertTurn_cases db (claimedTurn trigger id db.now) with ⟨hsame, hnone⟩ | ⟨hid, hinbound, hinsert⟩
  · refine ⟨trivial, none, ?_, ?_⟩
    · rw [hsame]
      exact ((Beside.refl db).yields hinv hholds hinv.settings).retag _
    · rw [Prog.owns_pure]
      split
      · rename_i claimed turnId heq
        exact absurd heq (hnone turnId)
      · trivial
  · rw [hinsert]
    have hcounted := Counted.claim hinv hid hinbound fun h => by cases h
    refine ⟨trivial, some (trigger, id), ⟨hcounted, ?_, ?_⟩, rfl⟩
    · intro k hk
      cases hk
      exact ⟨claimedTurn trigger id db.now, List.mem_concat_self, rfl, rfl,
        fun h => by cases h⟩
    · intro n _ hother
      refine ⟨?_, fun l hl => (hother l hl).mono fun v hv _ => List.mem_append_left _ hv⟩
      intro k hk l hl
      cases hk
      obtain ⟨v, hv, hvid, _⟩ := hother l hl
      rw [← hvid]
      exact (hid v hv).symm

theorem watchedReply_owns (body : String) (scores : TurnScores) :
    (watchedReply trigger gate turnId body scores).Owns (turnOwnership tenantId conversationId cap)
      (fun _ _ => True) (some (trigger, turnId)) := by
  apply Prog.Owns.bind (Prog.Owns.retag (AsideProg.owns (read_aside _)))
  rintro _ sentAt rfl
  apply Prog.Owns.retag
  apply AsideProg.owns_bind drawId_aside
  intro replyMessageId db hinv hholds hcond
  cases hcommit : db.commitReply trigger gate turnId replyMessageId body scores sentAt with
  | error =>
    simp only [hcommit]
    exact ⟨trivial, _, ((Beside.refl db).yields hinv hholds hinv.settings).retag _, trivial⟩
  | ok =>
    simp only [hcommit]
    have hmay : trigger.tenantId = tenantId → trigger.conversationId = conversationId →
        InEngagement db trigger gate turnId sentAt = true := by
      intro htenant hconversation
      have hcond : CapAllows tenantId conversationId cap db (.commitReply trigger.tenantId trigger.conversationId
        replyMessageId, .reply trigger gate turnId sentAt) = true := hcond
      simpa only [CapAllows, htenant, hconversation, and_self, decide_true, Bool.not_true, Bool.false_or] using hcond
    exact ⟨trivial, none, ((commitReply_written hcommit).yields hinv (hholds _ rfl) hmay).retag _, trivial⟩

theorem watchedResolve_owns (chunks : List RetrievedChunk) (result : BotCallResult) :
    (watchedResolve trigger gate chunks turnId result).Owns (turnOwnership tenantId conversationId cap)
      (fun _ _ => True) (some (trigger, turnId)) := by
  cases result with
  | failed error =>
    apply Prog.Owns.retag
    refine Prog.Owns.bind (updateTurn_owns (f := BotTurn.fail (some error)) fun _ _ => rfl) ?_
    rintro _ _ rfl
    exact handOff_owns gate .botError (some turnId)
  | answered answer =>
    rw [watchedResolve]
    split
    · rename_i scores error hscore
      apply Prog.Owns.retag
      rw [resolve, hscore]
      refine Prog.Owns.bind (updateTurn_owns (f := BotTurn.score scores error) fun _ _ => rfl) ?_
      rintro _ _ rfl
      exact handOff_owns gate .lowConfidence (some turnId)
    · exact watchedReply_owns gate _ _

theorem watchedTakeTurn_owns (question : String) (chunks : List RetrievedChunk) (result : BotCallResult) :
    (watchedTakeTurn unicode trigger gate question chunks result).Owns
      (turnOwnership tenantId conversationId cap) (fun _ _ => True) none := by
  rw [watchedTakeTurn]
  split
  · exact Prog.Owns.retag (handOff_owns gate .customerRequested none)
  · split
    · exact Prog.Owns.retag (handOff_owns gate .noMatch none)
    · apply Prog.Owns.bind (Prog.Owns.retag claimTurn_owns)
      intro k claimed hclaimed
      rcases claimed with e | _ | turnId
      · trivial
      · trivial
      · cases hclaimed
        exact watchedResolve_owns gate chunks result

theorem watchedHandle_owns (trigger : BotInboundTrigger) (chunks : List RetrievedChunk)
    (result : BotCallResult) : (watchedHandle unicode trigger chunks result).Owns
      (turnOwnership tenantId conversationId cap) (fun _ _ => True) none := by
  have hgate : AsideProg tenantId conversationId (readNow.bind (snapshot trigger)) :=
    Prog.Within.bind (read_aside _) fun now => snapshot_aside trigger now
  apply Prog.Owns.bind (Prog.Owns.retag (AsideProg.owns hgate))
  rintro _ gate rfl
  cases decideEligibility gate with
  | suppress reason => exact Prog.Owns.retag ((suppress_aside trigger reason).owns.mono fun _ _ _ => trivial)
  | handoff reason => exact Prog.Owns.retag (handOff_owns gate reason none)
  | admitted question => exact watchedTakeTurn_owns unicode gate question chunks result

theorem event_beside (event : AiEvent) (db : AiDb) : Beside tenantId conversationId db (event.apply db) := by
  have hlog : ∀ {db' : AiDb}, db'.log = db.log → ∃ records, db'.log = db.log ++ records ∧ ∀ r ∈ records,
      r.isReset tenantId conversationId = false ∧ ∀ tenant message id, r ≠ .replied tenant message id :=
    fun h => ⟨[], by rw [h, List.append_nil], by simp⟩
  cases event with
  | receive message contactId windowEnd =>
    refine ⟨rfl, ?_, hlog rfl⟩
    by_cases hknown : db.conversations.any (BotConversation.withId message.tenantId message.conversationId) = true
    · apply engagedAt_updateWhere (p := BotConversation.withId message.tenantId message.conversationId)
        (f := fun c => { c with serviceWindowExpiresAt := some windowEnd }) (fun _ => ⟨rfl, rfl⟩) (fun _ _ _ => rfl)
      simp [AiEvent.apply, hknown]
    · by_cases hid : db.conversations.any (·.id = message.conversationId) = true
      · simp only [AiDb.engagedAt, AiDb.findConversation, AiEvent.apply, hknown, hid, if_true, Bool.false_eq_true,
          if_false]
      · have hconversations : (AiEvent.apply (.receive message contactId windowEnd) db).conversations =
            db.conversations ++ [openedThread message contactId windowEnd] := by
          simp [AiEvent.apply, hknown, hid]
        rw [AiDb.engagedAt, AiDb.findConversation, hconversations, List.find?_append, AiDb.engagedAt,
          AiDb.findConversation]
        cases db.conversations.find? fun c => c.tenantId = tenantId ∧ c.id = conversationId with
        | some => rfl
        | none =>
          rw [Option.none_or, List.find?_singleton]
          split <;> rfl
  | optOut | configure | provide | elapse => exact ⟨rfl, rfl, hlog rfl⟩

theorem event_owns (event : AiEvent) :
    (aiProgram asciiOnly (.event event)).Owns (ownershipIn tenantId conversationId cap (.event event))
      (fun _ _ => True) none := by
  intro db hinv hholds hcond
  refine ⟨trivial, none, ?_, trivial⟩
  apply Ownership.Yields.retag
  apply (event_beside event db).yields hinv hholds
  cases event with
  | configure tenant settings =>
    have hcond : CapAllows tenantId conversationId cap db (.operate, .event (.configure tenant settings)) = true := hcond
    rw [AiDb.maxBotTurns]
    by_cases htenant : tenant = tenantId
    · subst htenant
      simp only [CapAllows, decide_true, Bool.not_true, Bool.false_or, decide_eq_true_eq] at hcond
      simpa [AiEvent.apply, List.lookup_cons, toSettings] using hcond
    · have hne : (tenantId == tenant) = false := by simpa using Ne.symm htenant
      simp only [AiEvent.apply, List.lookup_cons, hne]
      exact hinv.settings
  | receive | optOut | provide | elapse => exact hinv.settings

theorem watchedProgram_owns (call : AiCall) :
    (watchedProgram unicode call).Owns (turnOwnership tenantId conversationId cap) (fun _ _ => True) none := by
  have hpeople : ∀ call : AiCall, (∀ trigger chunks result, call ≠ .handle trigger chunks result) →
      (∀ event, call ≠ .event event) → (inContext .plain (aiProgram unicode call)).Owns
        (turnOwnership tenantId conversationId cap) (fun _ _ => True) none :=
    fun call hturn hevent => Prog.Owns.retag ((aiProgram_aside unicode hturn hevent).owns.mono fun _ _ _ => trivial)
  cases call with
  | handle trigger chunks result =>
    exact (watchedHandle_owns unicode trigger chunks result).bind fun _ _ _ => trivial
  | event event => exact Prog.Owns.retag (event_owns event)
  | _ => exact hpeople _ (by simp) (by simp)

end Programs

/-- In every run in which each reply of the conversation finds the engagement its turn was started in, no engagement has
    more than `cap` replies, and the stamp and the turns count them. -/
theorem turn_cap_when {unicode : Unicode} {tenantId conversationId : Uuid} {cap : Nat} {db : AiDb}
    (hdb : Unengaged tenantId conversationId cap db) {s : WatchedSys}
    (hs : Reachable (watchedProgram unicode) (fun s _ tag => CapAllows tenantId conversationId cap s.db tag = true)
      (.idle db) s) : TurnCap tenantId conversationId cap s := by
  have howned := Reachable.owned turnOwnership_sound (watchedProgram_owns unicode) (fun _ _ _ h => h) hdb.counted hs
  have hcounted : Counted tenantId conversationId cap s.db := howned.inv
  refine ⟨hcounted.capped, fun _ v hfind => ?_⟩
  have hengagedAt : s.db.engagedAt tenantId conversationId = v.botEngagedAt := by
    rw [AiDb.engagedAt, hfind]
    rfl
  rw [← hengagedAt]
  exact ⟨hcounted.count, hcounted.engagedAt_eq_none_iff⟩

def curtSettings : AiSettings := { chattySettings with maxBotTurns := 1 }

/-- A conversation the bot has not answered in yet, with two questions of the customer's. -/
def twoQuestions : AiDb where
  featureTenants := [1]
  indexedTenants := [1]
  aiConfigs := [(1, curtSettings)]
  conversations := [{ id := 7, tenantId := 1, contactId := 3, serviceWindowExpiresAt := some 100 }]
  messages := [{ id := 9, tenantId := 1, conversationId := 7, direction := .inbound, origin := .contact
                 body := some "refund?", sentAt := 0 },
    { id := 10, tenantId := 1, conversationId := 7, direction := .inbound, origin := .contact
      body := some "and when?", sentAt := 0 }]
  uuids := [21, 22, 23, 24, 25, 26]

def answeredFollowUp : AiCall :=
  .handle ⟨1, 7, 3, 10, none⟩ [⟨"chunk", 1⟩] (.answered ⟨true, some "Within 30 days.", .high, ["chunk"]⟩)

/-- The first question is answered while the model takes its time. -/
def unhurriedTurn : List (Move AiCall) :=
  [.spawn answeredQuestion] ++ List.replicate 10 (.step 0) ++ [.spawn (.event (.elapse 5)), .step 1] ++
    List.replicate 3 (.step 0)

theorem turn_cap_when_unhurried : ∃ s : WatchedSys, s.db.replies 1 7 = 1 ∧ TurnCap 1 7 1 s := by
  have hrun : ((run (watchedProgram asciiOnly) (fun s _ tag => CapAllows 1 7 1 s.db tag) unhurriedTurn
      (.idle twoQuestions)).map fun s => decide (s.db.replies 1 7 = 1)) = some true := by
    decide +kernel
  obtain ⟨s, hs, hreplies⟩ := Option.map_eq_some_iff.mp hrun
  exact ⟨s, of_decide_eq_true hreplies,
    turn_cap_when ⟨by decide, by decide, rfl, by decide, by decide⟩ (reachable_of_run hs)⟩

/-- The turns of the two questions run side by side. -/
def overlappingTurns : List (Move AiCall) :=
  [.spawn answeredQuestion, .spawn answeredFollowUp] ++ (List.replicate 13 [Move.step 0, Move.step 1]).flatten

/-- Two turns that passed the gate together both reply, where the engagement may have one reply. -/
theorem overlapping_turns_exceed_cap : ∃ s, AiRun asciiOnly twoQuestions s ∧ ¬ TurnCap 1 7 1 s := by
  have hrun : ((run (aiProgram asciiOnly) (fun _ _ _ => true) overlappingTurns (.idle twoQuestions)).map
      fun s => decide (s.db.replies 1 7 = 2)) = some true := by
    decide +kernel
  obtain ⟨s, hreach, hreplies⟩ := ends_of_run_any hrun
  refine ⟨s, hreach, fun hcap => ?_⟩
  have hmost : s.db.replies 1 7 ≤ 1 := hcap.capped.current_le
  rw [of_decide_eq_true hreplies] at hmost
  omega

end WhatsappCrm.Ai
