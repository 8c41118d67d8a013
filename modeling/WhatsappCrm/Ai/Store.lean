/-
Purpose: What the chatbot reads and writes, and `HandoffService` (`ai/handoff.service.ts`). A transaction of the chatbot
  reads nothing, so its writes and its commit are one statement.
-/
import WhatsappCrm.Ai.Contract
import WhatsappCrm.Lib.Numeral
import WhatsappCrm.Tickets.Command

namespace WhatsappCrm.Ai

open Interleaving Table

inductive ConversationStatus where
  | open
  | pending
  | resolved
  | closed
deriving DecidableEq

structure BotConversation where
  id : Uuid
  tenantId : Uuid
  contactId : Uuid
  status : ConversationStatus := .open
  assignedUserId : Option Uuid := none
  assignedTeamId : Option Uuid := none
  botState : ConversationBotState := .off
  botEngagedAt : Option Millis := none
  serviceWindowExpiresAt : Option Millis := none
deriving DecidableEq

def BotConversation.assignable (c : BotConversation) : AssignableRecord where
  assignedUserId := c.assignedUserId
  assignedTeamId := c.assignedTeamId

inductive MessageOrigin where
  | contact
  | agent
  | bot
  | system

structure BotMessage where
  id : Uuid
  tenantId : Uuid
  conversationId : Uuid
  direction : MessageDirection
  origin : MessageOrigin
  body : Option String
  senderUserId : Option Uuid := none
  sentAt : Millis

structure BotTurn where
  id : Uuid
  tenantId : Uuid
  conversationId : Uuid
  inboundMessageId : Uuid
  outcome : BotTurnOutcome
  handoffReason : Option HandoffReason
  scores : Option TurnScores := none
  replyMessageId : Option Uuid := none
  error : Option String
  createdAt : Millis

structure HandoffEvent where
  id : Uuid
  tenantId : Uuid
  conversationId : Uuid
  ticketId : Option Uuid
  reason : HandoffReason
  triggerMessageId : Uuid
  botTurnId : Option Uuid
  botEngagedAt : Option Millis
  botReplyCount : Nat

structure BotContact where
  id : Uuid
  tenantId : Uuid
  optedOutAt : Option Millis

/-- Where a job of the queue is. The jobs of a ticket's routing are kept when they are done: no `removeOnComplete`. -/
inductive JobState where
  | waiting
  | delayed
  | active
  | completed
  | failed

structure RoutingJob where
  jobId : String
  data : TicketRoutingTrigger
  state : JobState := .waiting

/-- No `REDIS_URL`, a Redis that does not answer, or one that does. -/
inductive QueueConnection where
  | disabled
  | down
  | up

/-- `ASSIGNMENT_QUEUE`. -/
structure JobQueue where
  connection : QueueConnection := .up
  jobs : List RoutingJob := []

/-- `EnqueueOutcome` of a call that does not ask about duplicates. -/
inductive EnqueueOutcome where
  | added
  | failed
  | unavailable

/-- `Queue.add`: an id that is still stored, in any state, is ignored without a sign. -/
def JobQueue.add (queue : JobQueue) (job : RoutingJob) : JobQueue :=
  if queue.jobs.any (·.jobId = job.jobId) then queue else { queue with jobs := queue.jobs ++ [job] }

def JobQueue.enqueue (queue : JobQueue) (job : RoutingJob) : EnqueueOutcome × JobQueue :=
  match queue.connection with
  | .disabled => (.unavailable, queue)
  | .down => (.failed, queue)
  | .up => (.added, queue.add job)

def assignmentRouteJobId (trigger : TicketRoutingTrigger) : String :=
  String.ofList ("assignment-route-".toList ++ UuidText.write trigger.tenantId ++ '-' :: UuidText.write trigger.ticketId)

inductive AiRecord where
  | replied (tenantId messageId replyMessageId : Uuid)
  | engaged (tenantId conversationId : Uuid)
  | reset (tenantId conversationId : Uuid)
  | handedOff (tenantId conversationId eventId : Uuid)
  | handoffMessage (tenantId conversationId eventId : Uuid)
  | routingRequested (tenantId conversationId eventId : Uuid)
deriving DecidableEq

structure AiDb where
  now : Millis := 0
  /-- `ANTHROPIC_API_KEY` is set. -/
  providerConfigured : Bool := true
  /-- The tenants whose plan has `ai_chatbot`, and those with an indexed document and a chunk. -/
  featureTenants : List Uuid := []
  indexedTenants : List Uuid := []
  aiConfigs : List (Uuid × AiSettings) := []
  contacts : List BotContact := []
  conversations : List BotConversation := []
  messages : List BotMessage := []
  botTurns : List BotTurn := []
  handoffEvents : List HandoffEvent := []
  tickets : List Ticket := []
  users : List User := []
  /-- The teams of each tenant. -/
  teams : List (Uuid × Uuid) := []
  /-- The ids the next inserts draw. -/
  uuids : List Uuid := []
  assignmentQueue : JobQueue := {}
  log : List AiRecord := []

namespace AiDb

def findConversation (db : AiDb) (tenantId conversationId : Uuid) : Option BotConversation :=
  db.conversations.find? fun c => c.tenantId = tenantId ∧ c.id = conversationId

def findMessage (db : AiDb) (tenantId messageId : Uuid) : Option BotMessage :=
  db.messages.find? fun m => m.tenantId = tenantId ∧ m.id = messageId

def optedOut (db : AiDb) (tenantId contactId : Uuid) : Bool :=
  db.contacts.any fun c => c.tenantId = tenantId ∧ c.id = contactId ∧ c.optedOutAt ≠ none

end AiDb

/-- `bot_turns_tenant_id_inbound_message_id_key`. -/
def BotTurn.inboundEntry (t : BotTurn) : Option (Uuid × Uuid) := some (t.tenantId, t.inboundMessageId)

def BotTurn.idEntry (t : BotTurn) : Option Uuid := some t.id

def BotConversation.idEntry (c : BotConversation) : Option Uuid := some c.id

inductive AiStmt where
  | draw
  | read
  | insertTurn
  | updateTurn
  | commitReply (tenantId conversationId replyMessageId : Uuid)
  | commitHandoff (tenantId conversationId eventId : Uuid)
  | requestRouting (tenantId conversationId eventId : Uuid)
  | claim (tenantId conversationId : Uuid) (principal : SessionPrincipal)
  | assign (tenantId conversationId : Uuid) (userId teamId : Option (Option Uuid))
  | send
  | setStatus (tenantId conversationId : Uuid) (status : ConversationStatus)
  | operate
deriving DecidableEq

abbrev AiProg := Prog AiStmt AiDb

inductive AiError where
  | uniqueViolation
  | conversationNotFound (conversationId : Uuid)
  | conversationUnclaimed (conversationId : Uuid)
  | conversationAlreadyClaimed (conversationId : Uuid)
  | unknownTenantMember (field : String) (id : Uuid)
  | recordNotFound
  | contactOptedOut
  | serviceWindowExpired

def drawId : AiProg Uuid := .stmt .draw fun db => (db.uuids.headD 0, { db with uuids := db.uuids.tail })

def readNow : AiProg Millis := .read .read (·.now)

variable (tenantId conversationId : Uuid)

/-- `countRepliesThisEngagement`: the reply that opened the engagement has no later `created_at` than its stamp. -/
def AiDb.repliesThisEngagement (db : AiDb) (tenantId conversationId : Uuid) : Option Millis → Nat
  | none => 0
  | some engagedAt =>
    db.botTurns.countP (fun t =>
      t.tenantId = tenantId ∧ t.conversationId = conversationId ∧ t.outcome = .replied ∧ engagedAt ≤ t.createdAt) + 1

def countRepliesThisEngagement (botEngagedAt : Option Millis) : AiProg Nat :=
  .read .read fun db => db.repliesThisEngagement tenantId conversationId botEngagedAt

def requireConversation (principal : SessionPrincipal) (conversationId : Uuid) :
    AiProg (Except AiError BotConversation) :=
  .read .read fun db =>
    match db.findConversation tenantId conversationId with
    | none => .error (.conversationNotFound conversationId)
    | some c =>
      if isVisibleOrUnclaimed c.assignable principal .conversationReadAll then .ok c
      else .error (.conversationNotFound conversationId)

def BotConversation.withId (c : BotConversation) : Bool :=
  c.tenantId = tenantId ∧ c.id = conversationId

/-- The guard of the bot's two moves: nobody has taken the conversation. -/
def BotConversation.unlessHuman (c : BotConversation) : Bool :=
  c.withId tenantId conversationId ∧ c.botState ≠ .humanActive

def BotConversation.handOff (c : BotConversation) : BotConversation := { c with botState := .handedOff }

def AiDb.recordHandoff (db : AiDb) (event : HandoffEvent) : Except AiError AiDb :=
  if db.handoffEvents.any (·.id = event.id) then .error .uniqueViolation
  else
    .ok { db with
      handoffEvents := db.handoffEvents ++ [event]
      conversations := updateWhere (BotConversation.unlessHuman event.tenantId event.conversationId)
        BotConversation.handOff db.conversations
      log := db.log ++ [.handedOff event.tenantId event.conversationId event.id] }

def AiDb.latestInbound (db : AiDb) (tenantId conversationId : Uuid) : Option BotMessage :=
  firstBy (fun m m' => decide (m'.sentAt < m.sentAt) || (m.sentAt = m'.sentAt && m'.id.toNat ≤ m.id.toNat))
    (db.messages.filter fun m => m.tenantId = tenantId ∧ m.conversationId = conversationId ∧ m.direction = .inbound)

def AiDb.activeTicketId (db : AiDb) (tenantId conversationId : Uuid) : Option Uuid :=
  (firstBy (fun t t' => decide (t'.createdAt < t.createdAt) || (t.createdAt = t'.createdAt && t'.id.toNat ≤ t.id.toNat))
    (db.tickets.filter fun t =>
      t.tenantId = tenantId ∧ t.conversationId = some conversationId ∧ t.status.isActive)).map (·.id)

/-- `requestFromAgent`. A conversation the bot is not answering in is left as it is. -/
def requestFromAgent (principal : SessionPrincipal) (conversationId : Uuid) : AiProg (Except AiError Unit) := do
  let required ← requireConversation tenantId principal conversationId
  match required with
  | .error e => pure (.error e)
  | .ok _ => do
    let state ← .read .read fun db => db.findConversation tenantId conversationId
    match state with
    | none => pure (.error (.conversationNotFound conversationId))
    | some state =>
      if state.botState ≠ .botActive then pure (.ok ())
      else do
        let trigger ← .read .read fun db => db.latestInbound tenantId conversationId
        match trigger with
        | none => pure (.ok ())
        | some trigger => do
          let ticketId ← .read .read fun db => db.activeTicketId tenantId conversationId
          let botReplyCount ← countRepliesThisEngagement tenantId conversationId state.botEngagedAt
          let id ← drawId
          .stmt (.commitHandoff tenantId conversationId id) fun db =>
            match db.recordHandoff
              { id
                tenantId
                conversationId
                ticketId
                reason := .agentRequested
                triggerMessageId := trigger.id
                botTurnId := none
                botEngagedAt := state.botEngagedAt
                botReplyCount } with
            | .error e => (.error e, db)
            | .ok db' => (.ok (), db')

def routingRequest (ticketId : Uuid) : RoutingJob where
  jobId := assignmentRouteJobId { tenantId, ticketId }
  data := { tenantId, ticketId }

/-- The ticket may be routed: `pending` or `deferred`, never placed by a person or a rule. -/
def routable (ticket : Ticket) : Bool := ticket.routing.state = .pending ∨ ticket.routing.state = .deferred

/-- `requestRoutingIfUnowned`, after the handoff `eventId`. -/
def requestRoutingIfUnowned (eventId : Uuid) : Option Uuid → AiProg Unit
  | none => pure ()
  | some ticketId => do
    let ticket ← .read .read fun db => db.tickets.find? fun t => t.tenantId = tenantId ∧ t.id = ticketId
    match ticket with
    | none => pure ()
    | some ticket =>
      if routable ticket then
        .stmt (.requestRouting tenantId conversationId eventId) fun db =>
          ((), { db with
            assignmentQueue := (db.assignmentQueue.enqueue (routingRequest tenantId ticket.id)).2
            log := db.log ++ [.routingRequested tenantId conversationId eventId] })
      else pure ()

end WhatsappCrm.Ai
