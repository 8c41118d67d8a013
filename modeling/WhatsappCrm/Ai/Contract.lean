/-
Purpose: What the chatbot decides without touching a table.
-/
import WhatsappCrm.Tickets.Store
import Mathlib.Algebra.Order.Field.Rat

namespace WhatsappCrm.Ai

inductive ConversationBotState where
  | off
  | botActive
  | handedOff
  | humanActive
deriving DecidableEq

/-- A person has been asked for, or is there. -/
def ConversationBotState.released : ConversationBotState → Bool
  | .handedOff | .humanActive => true
  | .off | .botActive => false

inductive HandoffReason where
  | lowConfidence
  | noMatch
  | customerRequested
  | maxTurns
  | agentRequested
  | botError

inductive BotTurnOutcome where
  | replied
  | handedOff
  | suppressed
deriving DecidableEq

inductive BotSuppressionReason where
  | providerNotConfigured
  | featureNotInPlan
  | disabled
  | noKnowledgeBase
  | optedOut
  | noAnswerUnengaged
  | notInbound
  | emptyMessage
  | alreadyReleased
  | windowClosed
  | unreadable

def BotSuppressionReason.label : BotSuppressionReason → String
  | .providerNotConfigured => "provider_not_configured"
  | .featureNotInPlan => "feature_not_in_plan"
  | .disabled => "disabled"
  | .noKnowledgeBase => "no_knowledge_base"
  | .optedOut => "opted_out"
  | .noAnswerUnengaged => "no_answer_unengaged"
  | .notInbound => "not_inbound"
  | .emptyMessage => "empty_message"
  | .alreadyReleased => "already_released"
  | .windowClosed => "window_closed"
  | .unreadable => "unreadable"

/-- `BotInboundTriggerSchema`: the job of one inbound message. -/
structure BotInboundTrigger where
  tenantId : Uuid
  conversationId : Uuid
  contactId : Uuid
  messageId : Uuid
  ticketId : Option Uuid

structure AiSettings where
  isEnabled : Bool
  handoffKeywords : List String
  minConfidence : Rat
  maxBotTurns : Nat
  handoffMessage : Option String

/-- `AI_CONFIG_DEFAULTS`, which a tenant without a row has. -/
def aiConfigDefaults : AiSettings where
  isEnabled := false
  handoffKeywords := []
  minConfidence := 3 / 5
  maxBotTurns := 5
  handoffMessage := none

def toSettings (stored : Option AiSettings) : AiSettings := stored.getD aiConfigDefaults

structure GateMessage where
  direction : MessageDirection
  body : Option String

structure GateConversation where
  botState : ConversationBotState
  botEngagedAt : Option Millis
  serviceWindowExpiresAt : Option Millis

structure BotGateSnapshot where
  now : Millis
  providerConfigured : Bool
  featureIncluded : Bool
  settings : AiSettings
  hasIndexedKnowledge : Bool
  message : Option GateMessage
  conversation : Option GateConversation
  optedOut : Bool
  botReplyCount : Nat

/-- What the gate decides: the bot may answer, stays silent, or hands the conversation to a person. -/
inductive BotGateDecision where
  | admitted (question : String)
  | suppress (reason : BotSuppressionReason)
  | handoff (reason : HandoffReason)

/-- The characters `trim` and `\s` take for space: `WhiteSpace` and `LineTerminator`. -/
def isSpace (c : Char) : Bool :=
  [0x9, 0xA, 0xB, 0xC, 0xD, 0x20, 0xA0, 0x1680, 0x2028, 0x2029, 0x202F, 0x205F, 0x3000, 0xFEFF].contains c.toNat ||
    (0x2000 ≤ c.toNat && c.toNat ≤ 0x200A)

/-- `String.prototype.trim`, on the characters. -/
def trim (text : List Char) : List Char :=
  ((text.dropWhile isSpace).reverse.dropWhile isSpace).reverse

theorem isSpace_of_digit (h : '0' ≤ c ∧ c ≤ '9') : isSpace c = false := by
  have hlow : 48 ≤ c.toNat := h.1
  have hhigh : c.toNat ≤ 57 := h.2
  rw [isSpace]
  generalize c.toNat = n at hlow hhigh
  simp
  omega

def isWindowOpen (expiresAt : Option Millis) (now : Millis) : Bool := expiresAt.any fun t => now < t

def decideEligibility (snapshot : BotGateSnapshot) : BotGateDecision :=
  if !snapshot.providerConfigured then .suppress .providerNotConfigured
  else if !snapshot.featureIncluded then .suppress .featureNotInPlan
  else if !snapshot.settings.isEnabled then .suppress .disabled
  else if !snapshot.hasIndexedKnowledge then .suppress .noKnowledgeBase
  else
    match snapshot.message, snapshot.conversation with
    | some message, some conversation =>
      -- Before the turn cap: that one is a handoff, which may send a message.
      if snapshot.optedOut then .suppress .optedOut
      else if message.direction ≠ .inbound then .suppress .notInbound
      else
        let question := String.ofList (trim (message.body.getD "").toList)
        if question = "" then .suppress .emptyMessage
        else if conversation.botState = .humanActive ∨ conversation.botState = .handedOff then
          .suppress .alreadyReleased
        else if !isWindowOpen conversation.serviceWindowExpiresAt snapshot.now then .suppress .windowClosed
        else if snapshot.settings.maxBotTurns ≤ snapshot.botReplyCount then .handoff .maxTurns
        else .admitted question
    | _, _ => .suppress .unreadable

/-- Refusals that are the tenant's rather than the conversation's. -/
def BotSuppressionReason.tenantLevel : BotSuppressionReason → Bool
  | .providerNotConfigured | .featureNotInPlan | .disabled | .noKnowledgeBase | .notInbound | .unreadable => true
  | .optedOut | .noAnswerUnengaged | .emptyMessage | .alreadyReleased | .windowClosed => false

def HandoffReason.suppressedWhenUnengaged : HandoffReason → Bool
  | .noMatch | .lowConfidence => true
  | .customerRequested | .maxTurns | .agentRequested | .botError => false

/-- `hasNeverEngaged`, in this engagement. -/
def hasNeverEngaged (snapshot : BotGateSnapshot) : Bool :=
  (snapshot.conversation.bind (·.botEngagedAt)).isNone && snapshot.botReplyCount = 0

/-- The Unicode tables of the keyword rule. -/
structure Unicode where
  nfkc : List Char → List Char
  toLowerCase : List Char → List Char
  /-- `\p{Mn}`. -/
  nonspacingMark : Char → Bool

def collapseSpaces : Bool → List Char → List Char
  | _, [] => []
  | inRun, c :: cs =>
    if isSpace c then (if inRun then collapseSpaces true cs else ' ' :: collapseSpaces true cs)
    else c :: collapseSpaces false cs

def normaliseForKeywordMatch (unicode : Unicode) (value : String) : List Char :=
  trim (collapseSpaces false
    ((unicode.toLowerCase (unicode.nfkc value.toList)).filter fun c => c.toNat ≠ 0x640 ∧ !unicode.nonspacingMark c))

def includes (haystack needle : List Char) : Bool := haystack.tails.any fun rest => needle.isPrefixOf rest

/-- `matchHandoffKeyword`: the first keyword that matches. -/
def matchHandoffKeyword (unicode : Unicode) (body : String) (keywords : List String) : Option String :=
  let haystack := normaliseForKeywordMatch unicode body
  if haystack = [] then none
  else keywords.find? fun keyword =>
    let needle := normaliseForKeywordMatch unicode keyword
    needle ≠ [] ∧ includes haystack needle

inductive BotModelConfidenceLevel where
  | high
  | medium
  | low

def BotModelConfidenceLevel.confidence : BotModelConfidenceLevel → Rat
  | .high => 1
  | .medium => 3 / 5
  | .low => 3 / 10

/-- A retrieved chunk, best first. What it says only goes to the provider. -/
structure RetrievedChunk where
  id : String
  rank : Rat

structure BotAnswer where
  answered : Bool
  answer : Option String
  confidence : BotModelConfidenceLevel
  citedChunkIds : List String

inductive BotCallResult where
  | answered (answer : BotAnswer)
  | failed (error : String)

def retrievalConfidence (topChunkRank : Rat) : Rat :=
  if topChunkRank ≤ 0 then 0 else min (topChunkRank / (1 / 10)) 1

def compositeConfidence (modelConfidence retrievalScore : Rat) : Rat := min modelConfidence retrievalScore

structure TurnScores where
  score : Rat
  modelConfidence : Rat
  retrievalScore : Rat
  citedChunkIds : List String

/-- What `resolve` makes of an answer: the scores, and a reply or the error text of a refusal. -/
inductive TurnVerdict where
  | reply (body : String)
  | refuse (error : Option String)

def scoreAnswer (settings : AiSettings) (chunks : List RetrievedChunk) (answer : BotAnswer) : TurnScores × TurnVerdict :=
  let retrieved := chunks.map (·.id)
  let cited := answer.citedChunkIds.filter retrieved.contains
  let grounded := cited ≠ [] ∧ cited.length = answer.citedChunkIds.length
  let modelConfidence := if answer.answered then answer.confidence.confidence else 0
  let retrievalScore := retrievalConfidence ((chunks.head?.map (·.rank)).getD 0)
  let score := compositeConfidence modelConfidence retrievalScore
  ({ score, modelConfidence, retrievalScore, citedChunkIds := cited },
    match answer.answered, answer.answer with
    | true, some body =>
      if ¬ grounded then .refuse (some "ungrounded_citation")
      else if score < settings.minConfidence then .refuse none
      else .reply body
    | _, _ => .refuse (if grounded then none else some "ungrounded_citation"))

end WhatsappCrm.Ai
