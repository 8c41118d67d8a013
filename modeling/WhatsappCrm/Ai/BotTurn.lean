/-
Purpose: `BotTurnService` (`ai/bot-turn.service.ts`): one inbound message considered by the bot.
-/
import WhatsappCrm.Ai.Store

namespace WhatsappCrm.Ai

open Interleaving Table

variable (db : AiDb) (trigger : BotInboundTrigger)

def snapshot (now : Millis) : AiProg BotGateSnapshot := do
  let settings ← .read .read fun db => toSettings (db.aiConfigs.lookup trigger.tenantId)
  let message ← .read .read fun db =>
    (db.findMessage trigger.tenantId trigger.messageId).map fun m => GateMessage.mk m.direction m.body
  let conversation ← .read .read fun db =>
    (db.findConversation trigger.tenantId trigger.conversationId).map fun c =>
      (GateConversation.mk c.botState c.botEngagedAt c.serviceWindowExpiresAt, db.optedOut trigger.tenantId c.contactId)
  let hasIndexedKnowledge ← .read .read fun db => db.indexedTenants.contains trigger.tenantId
  let providerConfigured ← .read .read fun db => db.providerConfigured
  let featureIncluded ← .read .read fun db => db.featureTenants.contains trigger.tenantId
  let botReplyCount ← countRepliesThisEngagement trigger.tenantId trigger.conversationId
    (conversation.bind (·.1.botEngagedAt))
  pure
    { now
      providerConfigured
      featureIncluded
      settings
      hasIndexedKnowledge
      message
      conversation := conversation.map (·.1)
      optedOut := (conversation.map (·.2)).getD false
      botReplyCount }

def claimedTurn (id : Uuid) (createdAt : Millis) : BotTurn where
  id
  tenantId := trigger.tenantId
  conversationId := trigger.conversationId
  inboundMessageId := trigger.messageId
  outcome := .handedOff
  handoffReason := some .botError
  error := some "claimed"
  createdAt

def suppressedTurn (reason : BotSuppressionReason) (id : Uuid) (createdAt : Millis) : BotTurn where
  id
  tenantId := trigger.tenantId
  conversationId := trigger.conversationId
  inboundMessageId := trigger.messageId
  outcome := .suppressed
  handoffReason := none
  error := some reason.label
  createdAt

/-- `botTurn.create`: `none` when the message already has a turn. -/
def AiDb.insertTurn (turn : BotTurn) : Except AiError (Option Uuid) × AiDb :=
  if db.botTurns.any (·.id = turn.id) then (.error .uniqueViolation, db)
  else if db.botTurns.any (fun t => t.inboundEntry = turn.inboundEntry) then (.ok none, db)
  else (.ok (some turn.id), { db with botTurns := db.botTurns ++ [turn] })

def insertTurn (make : Uuid → Millis → BotTurn) : AiProg (Except AiError (Option Uuid)) := do
  let id ← drawId
  .stmt .insertTurn fun db => db.insertTurn (make id db.now)

def claimTurn : AiProg (Except AiError (Option Uuid)) := insertTurn (claimedTurn trigger)

def suppress (reason : BotSuppressionReason) : AiProg (Except AiError BotTurnOutcome) :=
  if reason.tenantLevel then pure (.ok .suppressed)
  else do
    let inserted ← insertTurn (suppressedTurn trigger reason)
    pure (inserted.map fun _ => .suppressed)

def BotTurn.withId (tenantId turnId : Uuid) (t : BotTurn) : Bool := t.tenantId = tenantId ∧ t.id = turnId

def updateTurn (tenantId turnId : Uuid) (f : BotTurn → BotTurn) : AiProg Unit :=
  .stmt .updateTurn fun db => ((), { db with botTurns := updateWhere (BotTurn.withId tenantId turnId) f db.botTurns })

def BotTurn.fail (error : Option String) (t : BotTurn) : BotTurn := { t with error }

def BotTurn.score (scores : TurnScores) (error : Option String) (t : BotTurn) : BotTurn :=
  { t with scores := some scores, error }

def BotTurn.suppress (t : BotTurn) : BotTurn :=
  { t with
    outcome := .suppressed
    handoffReason := none
    error := some BotSuppressionReason.noAnswerUnengaged.label }

def BotTurn.handOff (reason : HandoffReason) (t : BotTurn) : BotTurn :=
  { t with outcome := .handedOff, handoffReason := some reason }

def BotTurn.reply (scores : TurnScores) (replyMessageId : Uuid) (t : BotTurn) : BotTurn :=
  { t with
    scores := some scores
    outcome := .replied
    handoffReason := none
    replyMessageId := some replyMessageId
    error := none }

def suppressUnanswered : Option Uuid → AiProg (Except AiError BotTurnOutcome)
  | none => suppress trigger .noAnswerUnengaged
  | some turnId => do
    updateTurn trigger.tenantId turnId BotTurn.suppress
    pure (.ok .suppressed)

def AiDb.writeOutboundText (id tenantId conversationId : Uuid) (body : String) (sentAt : Millis) : Except AiError AiDb :=
  if db.messages.any (·.id = id) then .error .uniqueViolation
  else
    .ok { db with
      messages := db.messages ++
        [{ id, tenantId, conversationId, direction := .outbound, origin := .bot, body := some body, sentAt }] }

def handoffText (settings : AiSettings) : Option String :=
  settings.handoffMessage.filter fun message => trim message.toList ≠ []

def AiDb.writeHandoffMessage (eventId : Uuid) (sentAt : Millis) : Option (Uuid × String) → Except AiError AiDb
  | none => .ok db
  | some (id, body) => do
    let db ← db.writeOutboundText id trigger.tenantId trigger.conversationId body sentAt
    pure { db with log := db.log ++ [.handoffMessage trigger.tenantId trigger.conversationId eventId] }

def handoffEvent (snapshot : BotGateSnapshot) (reason : HandoffReason)
    (turnId : Option Uuid) (id : Uuid) : HandoffEvent where
  id
  tenantId := trigger.tenantId
  conversationId := trigger.conversationId
  ticketId := trigger.ticketId
  reason
  triggerMessageId := trigger.messageId
  botTurnId := turnId
  botEngagedAt := snapshot.conversation.bind (·.botEngagedAt)
  botReplyCount := snapshot.botReplyCount

def AiDb.commitHandoff (event : HandoffEvent)
    (message : Option (Uuid × String)) (sentAt : Millis) : Except AiError AiDb := do
  let botTurns :=
    match event.botTurnId with
    | none => db.botTurns
    | some turnId => updateWhere (BotTurn.withId trigger.tenantId turnId) (BotTurn.handOff event.reason) db.botTurns
  let db ← { db with botTurns }.recordHandoff event
  db.writeHandoffMessage trigger event.id sentAt message

theorem AiDb.commitHandoff_cases {db db' : AiDb} {trigger : BotInboundTrigger} {event : HandoffEvent}
    {message : Option (Uuid × String)} {sentAt : Millis}
    (h : db.commitHandoff trigger event message sentAt = .ok db') :
    ∃ turns db₁, (event.botTurnId = none ∧ turns = db.botTurns ∨
        ∃ turnId, event.botTurnId = some turnId ∧ turns =
          updateWhere (BotTurn.withId trigger.tenantId turnId) (BotTurn.handOff event.reason) db.botTurns) ∧
      AiDb.recordHandoff { db with botTurns := turns } event = .ok db₁ ∧
      db₁.writeHandoffMessage trigger event.id sentAt message = .ok db' := by
  simp only [AiDb.commitHandoff] at h
  cases hrecord : AiDb.recordHandoff { db with botTurns := _ } event with
  | error =>
    rw [hrecord] at h
    cases h
  | ok db₁ =>
    rw [hrecord] at h
    refine ⟨_, db₁, ?_, hrecord, h⟩
    cases event.botTurnId with
    | none => exact .inl ⟨rfl, rfl⟩
    | some turnId => exact .inr ⟨turnId, rfl, rfl⟩

theorem AiDb.writeHandoffMessage_ok {db db' : AiDb} {trigger : BotInboundTrigger} {eventId : Uuid} {sentAt : Millis}
    {message : Option (Uuid × String)} (h : db.writeHandoffMessage trigger eventId sentAt message = .ok db') :
    ∃ messages records, db' = { db with messages, log := db.log ++ records } ∧
      (records = [] ∨ records = [.handoffMessage trigger.tenantId trigger.conversationId eventId]) := by
  cases message with
  | none =>
    cases h
    exact ⟨db.messages, [], by rw [List.append_nil], .inl rfl⟩
  | some message =>
    simp only [bind, Except.bind, AiDb.writeHandoffMessage, AiDb.writeOutboundText] at h
    split at h
    · cases h
    · rename_i hwritten
      split at hwritten
      · cases hwritten
      · cases hwritten
        cases h
        exact ⟨_, _, rfl, .inr rfl⟩

def drawMessage : Option String → AiProg (Option (Uuid × String))
  | none => pure none
  | some body => do
    let id ← drawId
    pure (some (id, body))

def handOff (snapshot : BotGateSnapshot) (reason : HandoffReason)
    (turnId : Option Uuid) : AiProg (Except AiError BotTurnOutcome) :=
  if reason.suppressedWhenUnengaged ∧ hasNeverEngaged snapshot then suppressUnanswered trigger turnId
  else do
    let sentAt ← readNow
    let eventId ← drawId
    let message ← drawMessage (handoffText snapshot.settings)
    let committed ← .stmt (.commitHandoff trigger.tenantId trigger.conversationId eventId) fun db =>
      match db.commitHandoff trigger (handoffEvent trigger snapshot reason turnId eventId) message sentAt with
      | .error e => (Except.error e, db)
      | .ok db' => (.ok (), db')
    match committed with
    | .error e => pure (.error e)
    | .ok () => do
      requestRoutingIfUnowned trigger.tenantId trigger.conversationId eventId trigger.ticketId
      pure (.ok .handedOff)

def BotConversation.engage (botEngagedAt : Option Millis) (c : BotConversation) : BotConversation :=
  { c with botState := .botActive, botEngagedAt := botEngagedAt.or c.botEngagedAt }

def engagementStamp (snapshot : BotGateSnapshot) (sentAt : Millis) : Option Millis :=
  match snapshot.conversation with
  | some { botEngagedAt := none, .. } => some sentAt
  | _ => none

def AiDb.pauseSla (tenantId : Uuid) : Option Uuid → AiDb
  | none => db
  | some ticketId =>
    { db with
      tickets := updateWhere (fun t => t.tenantId = tenantId ∧ t.id = ticketId ∧ t.status = .open)
        (fun t => { t with status := .pending }) db.tickets }

def AiDb.commitReply (snapshot : BotGateSnapshot)
    (turnId replyMessageId : Uuid) (body : String) (scores : TurnScores) (sentAt : Millis) : Except AiError AiDb := do
  let db ← db.writeOutboundText replyMessageId trigger.tenantId trigger.conversationId body sentAt
  let selected := BotConversation.unlessHuman trigger.tenantId trigger.conversationId
  let db := { db with
    botTurns := updateWhere (BotTurn.withId trigger.tenantId turnId) (BotTurn.reply scores replyMessageId) db.botTurns
    conversations := updateWhere selected (BotConversation.engage (engagementStamp snapshot sentAt)) db.conversations
    log := db.log ++ AiRecord.replied trigger.tenantId trigger.messageId replyMessageId ::
      (if db.conversations.any selected then [AiRecord.engaged trigger.tenantId trigger.conversationId] else []) }
  pure (db.pauseSla trigger.tenantId trigger.ticketId)

def reply (snapshot : BotGateSnapshot) (turnId : Uuid) (body : String)
    (scores : TurnScores) : AiProg (Except AiError BotTurnOutcome) := do
  let sentAt ← readNow
  let replyMessageId ← drawId
  .stmt (.commitReply trigger.tenantId trigger.conversationId replyMessageId) fun db =>
    match db.commitReply trigger snapshot turnId replyMessageId body scores sentAt with
    | .error e => (.error e, db)
    | .ok db' => (.ok .replied, db')

def resolve (snapshot : BotGateSnapshot) (chunks : List RetrievedChunk)
    (turnId : Uuid) : BotCallResult → AiProg (Except AiError BotTurnOutcome)
  | .failed error => do
    updateTurn trigger.tenantId turnId (BotTurn.fail (some error))
    handOff trigger snapshot .botError (some turnId)
  | .answered answer =>
    match scoreAnswer snapshot.settings chunks answer with
    | (scores, .refuse error) => do
      updateTurn trigger.tenantId turnId (BotTurn.score scores error)
      handOff trigger snapshot .lowConfidence (some turnId)
    | (scores, .reply body) => reply trigger snapshot turnId body scores

/-- `handle`, once the gate has let the turn start. -/
def takeTurn (unicode : Unicode) (trigger : BotInboundTrigger) (snapshot : BotGateSnapshot) (question : String)
    (chunks : List RetrievedChunk) (result : BotCallResult) : AiProg (Except AiError BotTurnOutcome) :=
  match matchHandoffKeyword unicode question snapshot.settings.handoffKeywords with
  | some _ => handOff trigger snapshot .customerRequested none
  | none =>
    if chunks = [] then handOff trigger snapshot .noMatch none
    else do
      let claimed ← claimTurn trigger
      match claimed with
      | .error e => pure (.error e)
      | .ok none => pure (.ok .suppressed)
      | .ok (some turnId) => resolve trigger snapshot chunks turnId result

def handle (unicode : Unicode) (trigger : BotInboundTrigger) (chunks : List RetrievedChunk) (result : BotCallResult) :
    AiProg (Except AiError BotTurnOutcome) := do
  let now ← readNow
  let gate ← snapshot trigger now
  match decideEligibility gate with
  | .suppress reason => suppress trigger reason
  | .handoff reason => handOff trigger gate reason none
  | .admitted question => takeTurn unicode trigger gate question chunks result

end WhatsappCrm.Ai
