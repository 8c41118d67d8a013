/-
Purpose: What each statement of the system does to the bot states, the turns, the handoffs and the record of what
  happened.
-/
import WhatsappCrm.Ai.System

namespace WhatsappCrm.Ai

open Interleaving Table

structure SameRecords (db db' : AiDb) : Prop where
  conversations : db'.conversations = db.conversations
  botTurns : db'.botTurns = db.botTurns
  handoffEvents : db'.handoffEvents = db.handoffEvents
  log : db'.log = db.log

theorem SameRecords.refl (db : AiDb) : SameRecords db db := ⟨rfl, rfl, rfl, rfl⟩

structure MovesConversations (p : BotConversation → Bool) (f : BotConversation → BotConversation)
    (db db' : AiDb) : Prop where
  conversations : db'.conversations = updateWhere p f db.conversations
  botTurns : db'.botTurns = db.botTurns
  handoffEvents : db'.handoffEvents = db.handoffEvents
  log : db'.log = db.log

def TowardsHuman (f : BotConversation → BotConversation) : Prop :=
  ∀ c, (f c).id = c.id ∧ (f c).tenantId = c.tenantId ∧ ((f c).botState = c.botState ∨ (f c).botState = .humanActive)

/-- What a person's statement writes: a claim and an assignment give the conversation away, an agent's reply leaves it
    with its owner. -/
inductive PersonWrites : AiStmt → (BotConversation → Bool) → (BotConversation → BotConversation) → Prop
  | claim (tenantId conversationId : Uuid) (principal : SessionPrincipal) :
      PersonWrites (.claim tenantId conversationId principal) (BotConversation.claimable tenantId conversationId)
        (BotConversation.take principal.userId)
  | assign (tenantId conversationId : Uuid) (userId teamId : Option (Option Uuid)) :
      PersonWrites (.assign tenantId conversationId userId teamId) (BotConversation.withId tenantId conversationId)
        (BotConversation.assign userId teamId)
  | send {p : BotConversation → Bool} {f : BotConversation → BotConversation}
      (hown : ∀ c, (f c).assignable = c.assignable) : PersonWrites .send p f

inductive AiEffect : AiStmt → AiDb → AiDb → Prop
  | same {tag : AiStmt} {db db' : AiDb}
      (htag : ∀ tenantId conversationId id, tag = .commitReply tenantId conversationId id →
        db.messages.any (·.id = id)) (h : SameRecords db db') : AiEffect tag db db'
  | insertTurn {db db' : AiDb} {turn : BotTurn} (h : (db.insertTurn turn).2 = db') : AiEffect .insertTurn db db'
  | updateTurn {db : AiDb} {p : BotTurn → Bool} {f : BotTurn → BotTurn} (hf : ∀ t, (f t).inboundEntry = t.inboundEntry) :
      AiEffect .updateTurn db { db with botTurns := updateWhere p f db.botTurns }
  | reply {db db' : AiDb} {trigger : BotInboundTrigger} {snapshot : BotGateSnapshot} {turnId id : Uuid} {body : String}
      {scores : TurnScores} {sentAt : Millis}
      (h : db.commitReply trigger snapshot turnId id body scores sentAt = .ok db') :
      AiEffect (.commitReply trigger.tenantId trigger.conversationId id) db db'
  | turnHandoff {db db' : AiDb} {trigger : BotInboundTrigger} {snapshot : BotGateSnapshot} {reason : HandoffReason}
      {turnId : Option Uuid} {eventId : Uuid} {message : Option (Uuid × String)} {sentAt : Millis}
      (h : db.commitHandoff trigger (handoffEvent trigger snapshot reason turnId eventId) message sentAt = .ok db') :
      AiEffect (.commitHandoff trigger.tenantId trigger.conversationId eventId) db db'
  | agentHandoff {db db' : AiDb} {event : HandoffEvent} (h : db.recordHandoff event = .ok db') :
      AiEffect (.commitHandoff event.tenantId event.conversationId event.id) db db'
  | request {db : AiDb} {queue : JobQueue} (tenantId conversationId eventId : Uuid) :
      AiEffect (.requestRouting tenantId conversationId eventId) db
        { db with
          assignmentQueue := queue
          log := db.log ++ [.routingRequested tenantId conversationId eventId] }
  | people {tag : AiStmt} {db db' : AiDb} {p : BotConversation → Bool} {f : BotConversation → BotConversation}
      (htag : PersonWrites tag p f) (hf : TowardsHuman f) (h : MovesConversations p f db db') :
      AiEffect tag db db'
  | status (tenantId conversationId : Uuid) (status : ConversationStatus) (db : AiDb) :
      AiEffect (.setStatus tenantId conversationId status) db
        { db with
          conversations := updateWhere (BotConversation.withId tenantId conversationId)
            (BotConversation.setStatus status) db.conversations
          log := db.log ++ if status.resets then [.reset tenantId conversationId] else [] }
  | event (event : AiEvent) (db : AiDb) : AiEffect .operate db (event.apply db)

def AiStmt.plain : AiStmt → Bool
  | .draw | .read | .insertTurn | .updateTurn => true
  | _ => false

def AiStmt.isReply : AiStmt → Bool
  | .commitReply _ _ _ => true
  | _ => false

def Plain (tag : AiStmt) (db db' : AiDb) : Prop := tag.plain = true ∧ AiEffect tag db db'

def AiStmt.isRequest : AiStmt → Bool
  | .requestRouting _ _ _ => true
  | _ => false

def Unrouted (tag : AiStmt) (db db' : AiDb) : Prop := tag.isRequest = false ∧ AiEffect tag db db'

def Silent (tag : AiStmt) (db db' : AiDb) : Prop := tag.isReply = false ∧ AiEffect tag db db'

def Quiet (tag : AiStmt) (db db' : AiDb) : Prop := tag.isReply = false ∧ Unrouted tag db db'

variable {db : AiDb} {α : Type} {event : HandoffEvent}

theorem Plain.quiet (h : Plain tag db db') : Quiet tag db db' := by
  obtain ⟨hplain, heffect⟩ := h
  refine ⟨?_, ?_, heffect⟩
  · cases tag <;> first | rfl | cases hplain
  · cases tag <;> first | rfl | cases hplain

abbrev PlainProg {α : Type} (p : AiProg α) : Prop := p.Within (fun _ => True) Plain

abbrev QuietProg {α : Type} (p : AiProg α) : Prop := p.Within (fun _ => True) Quiet

abbrev SilentProg {α : Type} (p : AiProg α) : Prop := p.Within (fun _ => True) Silent

theorem PlainProg.quiet (h : PlainProg p) : QuietProg p :=
  Prog.Follows.mono (fun _ _ _ _ _ heffect => heffect.quiet) h

theorem QuietProg.silent (h : QuietProg p) : SilentProg p :=
  Prog.Follows.mono (fun _ _ _ _ _ heffect => ⟨heffect.1, heffect.2.2⟩) h

theorem PlainProg.silent (h : PlainProg p) : SilentProg p := h.quiet.silent

theorem SilentProg.effect (h : SilentProg p) : p.Within (fun _ => True) AiEffect :=
  Prog.Follows.mono (fun _ _ _ _ _ heffect => heffect.2) h

theorem read_plain (f : AiDb → α) : PlainProg (.read .read f) :=
  Prog.Within.read fun db _ => ⟨rfl, .same (fun _ _ _ h => by cases h) (.refl db)⟩

theorem drawId_plain : PlainProg drawId :=
  Prog.Within.stmt fun _ _ => ⟨rfl, .same (fun _ _ _ h => by cases h) ⟨rfl, rfl, rfl, rfl⟩⟩

theorem snapshot_plain (trigger : BotInboundTrigger) (now : Millis) : PlainProg (snapshot trigger now) := by
  apply Prog.Within.bind (read_plain _)
  intro settings
  apply Prog.Within.bind (read_plain _)
  intro message
  apply Prog.Within.bind (read_plain _)
  intro conversation
  apply Prog.Within.bind (read_plain _)
  intro hasIndexedKnowledge
  apply Prog.Within.bind (read_plain _)
  intro providerConfigured
  apply Prog.Within.bind (read_plain _)
  intro featureIncluded
  apply Prog.Within.bind (read_plain _)
  intro botReplyCount
  trivial

theorem insertTurn_plain (make : Uuid → Millis → BotTurn) : PlainProg (insertTurn make) := by
  apply Prog.Within.bind drawId_plain
  intro id
  exact Prog.Within.stmt fun db _ => ⟨rfl, .insertTurn rfl⟩

theorem suppress_plain (trigger : BotInboundTrigger) (reason : BotSuppressionReason) :
    PlainProg (suppress trigger reason) := by
  rw [suppress]
  split
  · trivial
  · exact (insertTurn_plain _).bind fun _ => trivial

theorem updateTurn_plain (tenantId turnId : Uuid)
    (hf : ∀ t, (f t).inboundEntry = t.inboundEntry) : PlainProg (updateTurn tenantId turnId f) :=
  Prog.Within.stmt fun _ _ => ⟨rfl, .updateTurn hf⟩

theorem suppressUnanswered_plain (trigger : BotInboundTrigger) (turnId : Option Uuid) :
    PlainProg (suppressUnanswered trigger turnId) := by
  cases turnId with
  | none => exact suppress_plain trigger _
  | some turnId =>
    apply Prog.Within.bind (updateTurn_plain trigger.tenantId turnId (f := BotTurn.suppress) fun _ => rfl)
    exact fun _ => trivial

theorem drawMessage_plain (message : Option String) : PlainProg (drawMessage message) := by
  cases message with
  | none => trivial
  | some => exact drawId_plain.bind fun _ => trivial

theorem requestRoutingIfUnowned_silent (tenantId conversationId eventId : Uuid) (ticketId : Option Uuid) :
    SilentProg (requestRoutingIfUnowned tenantId conversationId eventId ticketId) := by
  cases ticketId with
  | none => trivial
  | some =>
    apply Prog.Within.bind (read_plain _).silent
    intro ticket
    cases ticket with
    | none => trivial
    | some =>
      dsimp only
      split
      · exact Prog.Within.stmt fun _ _ => ⟨rfl, .request tenantId conversationId eventId⟩
      · trivial

theorem commitHandoff_effect (trigger : BotInboundTrigger) (snapshot : BotGateSnapshot) (reason : HandoffReason)
    (turnId : Option Uuid) (eventId : Uuid) (message : Option (Uuid × String)) (sentAt : Millis) (db : AiDb) :
    AiEffect (.commitHandoff trigger.tenantId trigger.conversationId eventId) db
      (match db.commitHandoff trigger (handoffEvent trigger snapshot reason turnId eventId) message sentAt with
        | .error e => (Except.error e, db)
        | .ok db' => (.ok (), db') : Except AiError Unit × AiDb).2 := by
  cases hcommit : db.commitHandoff trigger (handoffEvent trigger snapshot reason turnId eventId) message sentAt with
  | error => exact .same (fun _ _ _ h => by cases h) (.refl db)
  | ok => exact .turnHandoff hcommit

theorem handOff_silent (trigger : BotInboundTrigger) (snapshot : BotGateSnapshot) (reason : HandoffReason)
    (turnId : Option Uuid) : SilentProg (handOff trigger snapshot reason turnId) := by
  rw [handOff]
  split
  · exact (suppressUnanswered_plain trigger turnId).silent
  · apply Prog.Within.bind (read_plain _).silent
    intro sentAt
    apply Prog.Within.bind drawId_plain.silent
    intro eventId
    apply Prog.Within.bind (drawMessage_plain _).silent
    intro message
    refine Prog.Within.bind (Prog.Within.stmt fun db _ => ⟨rfl, commitHandoff_effect _ _ _ _ _ _ _ db⟩) ?_
    intro committed
    cases committed with
    | error => trivial
    | ok _ => exact (requestRoutingIfUnowned_silent _ _ eventId _).bind fun _ => trivial

theorem commitReply_effect (trigger : BotInboundTrigger) (snapshot : BotGateSnapshot) (turnId id : Uuid) (body : String)
    (scores : TurnScores) (sentAt : Millis) (db : AiDb) :
    AiEffect (.commitReply trigger.tenantId trigger.conversationId id) db
      (match db.commitReply trigger snapshot turnId id body scores sentAt with
        | .error e => (Except.error e, db)
        | .ok db' => (.ok .replied, db') : Except AiError BotTurnOutcome × AiDb).2 := by
  cases hcommit : db.commitReply trigger snapshot turnId id body scores sentAt with
  | ok => exact .reply hcommit
  | error =>
    refine .same (fun tenantId conversationId id htag => ?_) (.refl db)
    cases htag
    simp only [AiDb.commitReply, AiDb.writeOutboundText] at hcommit
    split at hcommit
    · assumption
    · cases hcommit

theorem reply_within (trigger : BotInboundTrigger) (snapshot : BotGateSnapshot) (turnId : Uuid) (body : String)
    (scores : TurnScores) : (reply trigger snapshot turnId body scores).Within (fun _ => True) AiEffect := by
  apply Prog.Within.bind (read_plain _).silent.effect
  intro sentAt
  apply Prog.Within.bind drawId_plain.silent.effect
  intro replyMessageId
  exact Prog.Within.stmt fun db _ => commitReply_effect trigger snapshot turnId replyMessageId body scores sentAt db

theorem resolve_within (trigger : BotInboundTrigger) (snapshot : BotGateSnapshot) (chunks : List RetrievedChunk)
    (turnId : Uuid) (result : BotCallResult) :
    (resolve trigger snapshot chunks turnId result).Within (fun _ => True) AiEffect := by
  cases result with
  | failed error =>
    apply Prog.Within.bind (updateTurn_plain trigger.tenantId turnId (f := BotTurn.fail (some error)) fun _ => rfl).silent.effect
    exact fun _ => (handOff_silent trigger snapshot _ _).effect
  | answered answer =>
    rw [resolve]
    split
    · rename_i scores error _
      apply Prog.Within.bind (updateTurn_plain trigger.tenantId turnId (f := BotTurn.score scores error) fun _ => rfl).silent.effect
      exact fun _ => (handOff_silent trigger snapshot _ _).effect
    · exact reply_within trigger snapshot turnId _ _

theorem takeTurn_within (unicode : Unicode) (trigger : BotInboundTrigger) (snapshot : BotGateSnapshot)
    (question : String) (chunks : List RetrievedChunk) (result : BotCallResult) :
    (takeTurn unicode trigger snapshot question chunks result).Within (fun _ => True) AiEffect := by
  rw [takeTurn]
  split
  · exact (handOff_silent trigger snapshot _ _).effect
  · split
    · exact (handOff_silent trigger snapshot _ _).effect
    · apply Prog.Within.bind (insertTurn_plain _).silent.effect
      intro claimed
      cases claimed with
      | error => trivial
      | ok turnId =>
        cases turnId with
        | none => trivial
        | some turnId => exact resolve_within trigger snapshot chunks turnId result

theorem handle_within (unicode : Unicode) (trigger : BotInboundTrigger) (chunks : List RetrievedChunk)
    (result : BotCallResult) : (handle unicode trigger chunks result).Within (fun _ => True) AiEffect := by
  apply Prog.Within.bind (read_plain _).silent.effect
  intro now
  apply Prog.Within.bind (snapshot_plain trigger now).silent.effect
  intro gate
  cases decideEligibility gate with
  | suppress reason => exact (suppress_plain trigger reason).silent.effect
  | handoff reason => exact (handOff_silent trigger gate reason none).effect
  | admitted question => exact takeTurn_within unicode trigger gate question chunks result

theorem requireHeld_plain (tenantId : Uuid) (principal : SessionPrincipal) (conversationId : Uuid) :
    PlainProg (requireHeld tenantId principal conversationId) := by
  apply Prog.Within.bind (read_plain _)
  intro required
  cases required with
  | error => trivial
  | ok =>
    dsimp only
    split <;> trivial

theorem requestFromAgent_quiet (tenantId : Uuid) (principal : SessionPrincipal) (conversationId : Uuid) :
    QuietProg (requestFromAgent tenantId principal conversationId) := by
  apply Prog.Within.bind (read_plain _).quiet
  intro required
  cases required with
  | error => trivial
  | ok _ =>
    apply Prog.Within.bind (read_plain _).quiet
    intro state
    cases state with
    | none => trivial
    | some state =>
      dsimp only
      split
      · trivial
      · apply Prog.Within.bind (read_plain _).quiet
        intro trigger
        cases trigger with
        | none => trivial
        | some trigger =>
          apply Prog.Within.bind (read_plain _).quiet
          intro ticketId
          apply Prog.Within.bind (read_plain _).quiet
          intro botReplyCount
          apply Prog.Within.bind drawId_plain.quiet
          intro id
          apply Prog.Within.stmt
          intro db _
          refine ⟨rfl, rfl, ?_⟩
          split
          · exact .same (fun _ _ _ h => by cases h) (.refl db)
          · rename_i db' hrecord
            exact .agentHandoff hrecord

theorem claimConversation_quiet (tenantId : Uuid) (principal : SessionPrincipal) (conversationId : Uuid) :
    QuietProg (claimConversation tenantId principal conversationId) := by
  apply Prog.Within.bind (read_plain _).quiet
  intro required
  cases required with
  | error => trivial
  | ok _ =>
    refine Prog.Within.bind (Prog.Within.stmt fun db _ => ⟨rfl, rfl, .people (.claim _ _ _) ?_ ⟨rfl, rfl, rfl, rfl⟩⟩) ?_
    · exact fun c => ⟨rfl, rfl, .inr rfl⟩
    · intro claimed
      cases claimed with
      | true | false => exact (read_plain _).quiet

theorem assertAssigneesExist_plain (tenantId : Uuid) (userId teamId : Option (Option Uuid)) :
    PlainProg (assertAssigneesExist tenantId userId teamId) := by
  have huser : PlainProg (assertAssigneeExists tenantId userId) := by
    rcases userId with _ | _ | userId
    · trivial
    · trivial
    · exact read_plain _
  apply Prog.Within.bind huser
  intro user
  cases user with
  | error => trivial
  | ok _ =>
    rcases teamId with _ | _ | teamId
    · trivial
    · trivial
    · exact read_plain _

theorem assignConversation_quiet (tenantId : Uuid) (principal : SessionPrincipal) (conversationId : Uuid)
    (userId teamId : Option (Option Uuid)) :
    QuietProg (assignConversation tenantId principal conversationId userId teamId) := by
  apply Prog.Within.bind (read_plain _).quiet
  intro required
  cases required with
  | error => trivial
  | ok _ =>
    apply Prog.Within.bind (assertAssigneesExist_plain tenantId userId teamId).quiet
    intro asserted
    cases asserted with
    | error => trivial
    | ok _ =>
      refine Prog.Within.stmt fun db _ => ⟨rfl, rfl, .people (.assign _ _ _ _) ?_ ⟨rfl, rfl, rfl, rfl⟩⟩
      intro c
      refine ⟨rfl, rfl, ?_⟩
      rcases userId with _ | _ | userId
      · exact .inl rfl
      · exact .inl rfl
      · exact .inr rfl

theorem sendMessage_quiet (tenantId : Uuid) (principal : SessionPrincipal) (conversationId : Uuid) (body : String) :
    QuietProg (sendMessage tenantId principal conversationId body) := by
  apply Prog.Within.bind (requireHeld_plain tenantId principal conversationId).quiet
  intro held
  cases held with
  | error => trivial
  | ok c =>
    apply Prog.Within.bind (read_plain _).quiet
    intro optedOut
    cases optedOut with
    | true => trivial
    | false =>
      apply Prog.Within.bind (read_plain _).quiet
      intro sentAt
      split
      · trivial
      · apply Prog.Within.bind drawId_plain.quiet
        intro id
        apply Prog.Within.stmt
        intro db _
        refine ⟨rfl, rfl, ?_⟩
        split
        · exact .same (fun _ _ _ h => by cases h) (.refl db)
        · exact .people (f := BotConversation.toHuman) (.send fun _ => rfl) (fun c => ⟨rfl, rfl, .inr rfl⟩)
            ⟨rfl, rfl, rfl, rfl⟩

theorem setStatus_quiet (tenantId : Uuid) (principal : SessionPrincipal) (conversationId : Uuid)
    (status : ConversationStatus) : QuietProg (setStatus tenantId principal conversationId status) := by
  apply Prog.Within.bind (requireHeld_plain tenantId principal conversationId).quiet
  intro held
  cases held with
  | error => trivial
  | ok => exact Prog.Within.stmt fun db _ => ⟨rfl, rfl, .status tenantId conversationId status db⟩

theorem aiProgram_quiet (unicode : Unicode)
    (h : ∀ trigger chunks result, call ≠ .handle trigger chunks result) : QuietProg (aiProgram unicode call) := by
  cases call with
  | handle trigger chunks result => exact absurd rfl (h trigger chunks result)
  | requestFromAgent => exact (requestFromAgent_quiet _ _ _).bind fun _ => trivial
  | claim => exact (claimConversation_quiet _ _ _).bind fun _ => trivial
  | assign => exact (assignConversation_quiet _ _ _ _ _).bind fun _ => trivial
  | send => exact (sendMessage_quiet _ _ _ _).bind fun _ => trivial
  | setStatus => exact (setStatus_quiet _ _ _ _).bind fun _ => trivial
  | event event => exact (Prog.Within.stmt fun db _ => ⟨rfl, rfl, .event event db⟩).bind fun _ => trivial

theorem aiProgram_within (unicode : Unicode) (call : AiCall) :
    (aiProgram unicode call).Within (fun _ => True) AiEffect := by
  cases call with
  | handle trigger chunks result => exact (handle_within unicode trigger chunks result).bind fun _ => trivial
  | _ => exact (aiProgram_quiet unicode (by simp)).silent.effect

theorem recordHandoff_ok (h : db.recordHandoff event = .ok db') : db.handoffEvents.any (·.id = event.id) = false ∧
      db' = { db with
        handoffEvents := db.handoffEvents ++ [event]
        conversations := updateWhere (BotConversation.unlessHuman event.tenantId event.conversationId)
          BotConversation.handOff db.conversations
        log := db.log ++ [.handedOff event.tenantId event.conversationId event.id] } := by
  obtain ⟨hfresh, h⟩ := ok_of_ite h
  cases h
  exact ⟨by simpa using hfresh, rfl⟩

theorem pauseSla_records (db : AiDb) (tenantId : Uuid) (ticketId : Option Uuid) :
    SameRecords db (db.pauseSla tenantId ticketId) := by
  cases ticketId <;> exact ⟨rfl, rfl, rfl, rfl⟩

structure Replied (trigger : BotInboundTrigger) (id : Uuid) (db db' : AiDb) : Prop where
  fresh : db.messages.any (·.id = id) = false
  conversations : ∃ stamp, db'.conversations = updateWhere
    (BotConversation.unlessHuman trigger.tenantId trigger.conversationId) (BotConversation.engage stamp) db.conversations
  botTurns : ∃ p scores, db'.botTurns = updateWhere p (BotTurn.reply scores id) db.botTurns
  handoffEvents : db'.handoffEvents = db.handoffEvents
  log : db'.log = db.log ++ AiRecord.replied trigger.tenantId trigger.messageId id ::
    (if db.conversations.any (BotConversation.unlessHuman trigger.tenantId trigger.conversationId) then
      [AiRecord.engaged trigger.tenantId trigger.conversationId] else [])

theorem commitReply_ok {snapshot : BotGateSnapshot} {id : Uuid}
    (h : db.commitReply trigger snapshot turnId id body scores sentAt = .ok db') : Replied trigger id db db' := by
  simp only [AiDb.commitReply, AiDb.writeOutboundText] at h
  split at h
  · cases h
  · rename_i hfresh
    cases h
    obtain ⟨hconversations, hturns, hevents, hlog⟩ := pauseSla_records _ trigger.tenantId trigger.ticketId
    exact ⟨by simpa using hfresh, ⟨_, hconversations⟩, ⟨_, _, hturns⟩, hevents, hlog⟩

/-- What a handoff leaves behind; the message is the turn's, where the tenant has one. -/
structure HandedOff (event : HandoffEvent) (db db' : AiDb) : Prop where
  fresh : db.handoffEvents.any (·.id = event.id) = false
  conversations : db'.conversations = updateWhere
    (BotConversation.unlessHuman event.tenantId event.conversationId) BotConversation.handOff db.conversations
  botTurns : ∃ p reason, db'.botTurns = updateWhere p (BotTurn.handOff reason) db.botTurns
  handoffEvents : db'.handoffEvents = db.handoffEvents ++ [event]
  log : ∃ message, (message = [] ∨ message = [AiRecord.handoffMessage event.tenantId event.conversationId event.id]) ∧
    db'.log = db.log ++ AiRecord.handedOff event.tenantId event.conversationId event.id :: message

theorem recordHandoff_handedOff (h : db.recordHandoff event = .ok db') : HandedOff event db db' := by
  obtain ⟨hfresh, rfl⟩ := recordHandoff_ok h
  refine ⟨hfresh, rfl, ⟨fun _ => false, .botError, ?_⟩, rfl, [], .inl rfl, rfl⟩
  rw [updateWhere_of_none fun _ _ => rfl]

theorem commitHandoff_ok {trigger : BotInboundTrigger} (htenant : event.tenantId = trigger.tenantId)
    (hconversation : event.conversationId = trigger.conversationId)
    (h : db.commitHandoff trigger event message sentAt = .ok db') : HandedOff event db db' := by
  obtain ⟨turns, db₁, hturn, hrecord, hmessage⟩ := AiDb.commitHandoff_cases h
  have hturns : ∃ p reason, turns = updateWhere p (BotTurn.handOff reason) db.botTurns := by
    rcases hturn with ⟨-, rfl⟩ | ⟨turnId, -, rfl⟩
    · exact ⟨fun _ => false, .botError, (updateWhere_of_none fun _ _ => rfl).symm⟩
    · exact ⟨_, _, rfl⟩
  obtain ⟨hfresh, rfl⟩ := recordHandoff_ok hrecord
  obtain ⟨messages, records, rfl, hrecords⟩ := AiDb.writeHandoffMessage_ok hmessage
  rw [← htenant, ← hconversation] at hrecords
  exact ⟨hfresh, rfl, hturns, rfl, records, hrecords, List.append_assoc _ _ _⟩

inductive Recorded : AiStmt → List AiRecord → Prop
  | nothing (tag : AiStmt) : Recorded tag []
  | replied (tenantId conversationId messageId replyMessageId : Uuid) (engaged : Bool) :
      Recorded (.commitReply tenantId conversationId replyMessageId)
        (.replied tenantId messageId replyMessageId :: if engaged then [.engaged tenantId conversationId] else [])
  | handedOff (tenantId conversationId eventId : Uuid) (message : Bool) :
      Recorded (.commitHandoff tenantId conversationId eventId)
        (.handedOff tenantId conversationId eventId ::
          if message then [.handoffMessage tenantId conversationId eventId] else [])
  | requested (tenantId conversationId eventId : Uuid) :
      Recorded (.requestRouting tenantId conversationId eventId) [.routingRequested tenantId conversationId eventId]
  | reset (tenantId conversationId : Uuid) (status : ConversationStatus) (hresets : status.resets = true) :
      Recorded (.setStatus tenantId conversationId status) [.reset tenantId conversationId]

theorem HandedOff.recorded (h : HandedOff event db db') :
    ∃ records, Recorded (.commitHandoff event.tenantId event.conversationId event.id) records ∧
      db'.log = db.log ++ records := by
  obtain ⟨message, rfl | rfl, hlog⟩ := h.log
  · exact ⟨_, .handedOff _ _ _ false, hlog⟩
  · exact ⟨_, .handedOff _ _ _ true, hlog⟩

theorem AiEffect.recorded (heffect : AiEffect tag db db') :
    ∃ records, Recorded tag records ∧ db'.log = db.log ++ records := by
  cases heffect with
  | same _ h | people _ _ h => exact ⟨[], .nothing _, by rw [h.log, List.append_nil]⟩
  | insertTurn h =>
    refine ⟨[], .nothing _, ?_⟩
    subst h
    rw [List.append_nil, AiDb.insertTurn]
    split
    · rfl
    · split <;> rfl
  | updateTurn => exact ⟨[], .nothing _, (List.append_nil _).symm⟩
  | reply h =>
    have hreplied := commitReply_ok h
    exact ⟨_, .replied _ _ _ _ _, hreplied.log⟩
  | turnHandoff h => exact (commitHandoff_ok rfl rfl h).recorded
  | agentHandoff h => exact (recordHandoff_handedOff h).recorded
  | request => exact ⟨_, .requested _ _ _, rfl⟩
  | status tenantId conversationId status =>
    cases hresets : status.resets with
    | true => exact ⟨_, .reset _ _ _ hresets, rfl⟩
    | false => exact ⟨[], .nothing _, rfl⟩
  | event event =>
    refine ⟨[], .nothing _, ?_⟩
    cases event <;> exact (List.append_nil _).symm

end WhatsappCrm.Ai
