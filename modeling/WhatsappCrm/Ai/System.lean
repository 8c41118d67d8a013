/-
Purpose: Everyone who moves a conversation's bot state, interleaved, and whether the route a handoff requests is ever
  looked for.
-/
import WhatsappCrm.Ai.BotTurn

namespace WhatsappCrm.Ai

open Interleaving Table

variable (tenantId : Uuid) (principal : SessionPrincipal) (conversationId : Uuid) (c : BotConversation)

def BotConversation.take (userId : Uuid) (c : BotConversation) : BotConversation :=
  { c with assignedUserId := some userId, botState := .humanActive }

/-- `claimableFilter`. -/
def BotConversation.claimable : Bool :=
  c.withId tenantId conversationId ∧ c.assignedUserId = none

def reportLostClaim (userId : Uuid) : AiProg (Except AiError BotConversation) :=
  .read .read fun db =>
    match db.findConversation tenantId conversationId with
    | none => .error (.conversationNotFound conversationId)
    | some c => if c.assignedUserId = some userId then .ok c else .error (.conversationAlreadyClaimed conversationId)

def readConversation : AiProg (Except AiError BotConversation) :=
  .read .read fun db =>
    match db.findConversation tenantId conversationId with
    | none => .error .recordNotFound
    | some c => .ok c

def claimConversation : AiProg (Except AiError BotConversation) := do
  let required ← requireConversation tenantId principal conversationId
  match required with
  | .error e => pure (.error e)
  | .ok _ => do
    let claimed ← .stmt (.claim tenantId conversationId principal) fun db =>
      (db.conversations.any (BotConversation.claimable tenantId conversationId),
        { db with
          conversations := updateWhere (BotConversation.claimable tenantId conversationId)
            (BotConversation.take principal.userId) db.conversations })
    if claimed then readConversation tenantId conversationId
    else reportLostClaim tenantId conversationId principal.userId

/-- What `assign` writes: absent leaves the column alone, and a named person takes the conversation from the bot. -/
def BotConversation.assign (userId teamId : Option (Option Uuid)) (c : BotConversation) : BotConversation :=
  { c with
    assignedUserId := userId.getD c.assignedUserId
    assignedTeamId := teamId.getD c.assignedTeamId
    botState :=
      match userId with
      | some (some _) => .humanActive
      | _ => c.botState }

def assertAssigneeExists : Option (Option Uuid) → AiProg (Except AiError Unit)
  | some (some userId) =>
    .read .read fun db =>
      if db.users.any fun u => u.tenantId = tenantId ∧ u.id = userId ∧ u.active then .ok ()
      else .error (.unknownTenantMember "userId" userId)
  | _ => pure (.ok ())

def assertTeamExists : Option (Option Uuid) → AiProg (Except AiError Unit)
  | some (some teamId) =>
    .read .read fun db =>
      if db.teams.contains (tenantId, teamId) then .ok () else .error (.unknownTenantMember "teamId" teamId)
  | _ => pure (.ok ())

def assertAssigneesExist (userId teamId : Option (Option Uuid)) : AiProg (Except AiError Unit) := do
  let user ← assertAssigneeExists tenantId userId
  match user with
  | .error e => pure (.error e)
  | .ok () => assertTeamExists tenantId teamId

def assignConversation (userId teamId : Option (Option Uuid)) : AiProg (Except AiError BotConversation) := do
  let required ← requireConversation tenantId principal conversationId
  match required with
  | .error e => pure (.error e)
  | .ok _ => do
    let asserted ← assertAssigneesExist tenantId userId teamId
    match asserted with
    | .error e => pure (.error e)
    | .ok () =>
      .stmt (.assign tenantId conversationId userId teamId) fun db =>
        (((db.findConversation tenantId conversationId).map (BotConversation.assign userId teamId)).elim
            (.error .recordNotFound) .ok,
          { db with
            conversations := updateWhere (BotConversation.withId tenantId conversationId)
              (BotConversation.assign userId teamId) db.conversations })

def requireHeld : AiProg (Except AiError BotConversation) := do
  let required ← requireConversation tenantId principal conversationId
  match required with
  | .error e => pure (.error e)
  | .ok c =>
    if isUnclaimed c.assignable then pure (.error (.conversationUnclaimed conversationId)) else pure (.ok c)

def BotConversation.toHuman : BotConversation := { c with botState := .humanActive }

def sendMessage (body : String) : AiProg (Except AiError Uuid) := do
  let held ← requireHeld tenantId principal conversationId
  match held with
  | .error e => pure (.error e)
  | .ok c => do
    let optedOut ← .read .read fun db => db.optedOut tenantId c.contactId
    if optedOut then pure (.error .contactOptedOut)
    else do
      let sentAt ← readNow
      if !isWindowOpen c.serviceWindowExpiresAt sentAt then pure (.error .serviceWindowExpired)
      else do
        let id ← drawId
        .stmt .send fun db =>
          if db.messages.any (·.id = id) then (.error .uniqueViolation, db)
          else
            (.ok id, { db with
              messages := db.messages ++
                [{ id, tenantId, conversationId, direction := .outbound, origin := .agent, body := some body,
                   senderUserId := some principal.userId, sentAt }]
              conversations := updateWhere (BotConversation.unlessHuman tenantId conversationId)
                BotConversation.toHuman db.conversations })

def ConversationStatus.resets : ConversationStatus → Bool
  | .resolved | .closed => true
  | .open | .pending => false

def BotConversation.setStatus (status : ConversationStatus) (c : BotConversation) : BotConversation :=
  if status.resets then { c with status, botState := .off, botEngagedAt := none } else { c with status }

def setStatus (status : ConversationStatus) : AiProg (Except AiError Unit) := do
  let held ← requireHeld tenantId principal conversationId
  match held with
  | .error e => pure (.error e)
  | .ok _ =>
    .stmt (.setStatus tenantId conversationId status) fun db =>
      (.ok (), { db with
        conversations := updateWhere (BotConversation.withId tenantId conversationId)
          (BotConversation.setStatus status) db.conversations
        log := db.log ++ if status.resets then [.reset tenantId conversationId] else [] })

inductive AiEvent where
  /-- A customer writes: the message, a new thread where there is none, and the service window. -/
  | receive (message : BotMessage) (contactId : Uuid) (windowEnd : Millis)
  | optOut (tenantId contactId : Uuid)
  | configure (tenantId : Uuid) (settings : AiSettings)
  | provide (configured : Bool) (featureTenants indexedTenants : List Uuid)
  | elapse (ms : Nat)

def openedThread (message : BotMessage) (contactId : Uuid) (windowEnd : Millis) : BotConversation where
  id := message.conversationId
  tenantId := message.tenantId
  contactId
  serviceWindowExpiresAt := some windowEnd

def AiEvent.apply : AiEvent → AiDb → AiDb
  | .receive message contactId windowEnd, db =>
    let known := db.conversations.any (BotConversation.withId message.tenantId message.conversationId)
    { db with
      messages := db.messages ++ [message]
      conversations :=
        if known then
          updateWhere (BotConversation.withId message.tenantId message.conversationId)
            (fun c => { c with serviceWindowExpiresAt := some windowEnd }) db.conversations
        else if db.conversations.any (·.id = message.conversationId) then db.conversations
        else db.conversations ++ [openedThread message contactId windowEnd] }
  | .optOut tenantId contactId, db =>
    { db with
      contacts := updateWhere (fun c => c.tenantId = tenantId ∧ c.id = contactId)
        (fun c => { c with optedOutAt := some db.now }) db.contacts }
  | .configure tenantId settings, db => { db with aiConfigs := (tenantId, settings) :: db.aiConfigs }
  | .provide configured featureTenants indexedTenants, db =>
    { db with providerConfigured := configured, featureTenants, indexedTenants }
  | .elapse ms, db => { db with now := db.now + ms }

inductive AiCall where
  | handle (trigger : BotInboundTrigger) (chunks : List RetrievedChunk) (result : BotCallResult)
  | requestFromAgent (tenantId : Uuid) (principal : SessionPrincipal) (conversationId : Uuid)
  | claim (tenantId : Uuid) (principal : SessionPrincipal) (conversationId : Uuid)
  | assign (tenantId : Uuid) (principal : SessionPrincipal) (conversationId : Uuid) (userId teamId : Option (Option Uuid))
  | send (tenantId : Uuid) (principal : SessionPrincipal) (conversationId : Uuid) (body : String)
  | setStatus (tenantId : Uuid) (principal : SessionPrincipal) (conversationId : Uuid) (status : ConversationStatus)
  | event (event : AiEvent)

inductive AiReply where
  | turned (outcome : Except AiError BotTurnOutcome)
  | done (result : Except AiError Unit)
  | conversation (result : Except AiError BotConversation)
  | sent (result : Except AiError Uuid)

def aiProgram (unicode : Unicode) : AiCall → AiProg AiReply
  | .handle trigger chunks result => (handle unicode trigger chunks result).bind (.pure ∘ .turned)
  | .requestFromAgent tenantId principal conversationId =>
    (requestFromAgent tenantId principal conversationId).bind (.pure ∘ .done)
  | .claim tenantId principal conversationId =>
    (claimConversation tenantId principal conversationId).bind (.pure ∘ .conversation)
  | .assign tenantId principal conversationId userId teamId =>
    (assignConversation tenantId principal conversationId userId teamId).bind (.pure ∘ .conversation)
  | .send tenantId principal conversationId body =>
    (sendMessage tenantId principal conversationId body).bind (.pure ∘ .sent)
  | .setStatus tenantId principal conversationId status =>
    (setStatus tenantId principal conversationId status).bind (.pure ∘ .done)
  | .event event => (Prog.stmt .operate fun db => ((), event.apply db)).bind fun _ => .pure (.done (.ok ()))

abbrev AiSys := Sys AiStmt AiDb AiCall AiReply

abbrev AiRun (unicode : Unicode) (db : AiDb) (s : AiSys) : Prop :=
  Reachable (aiProgram unicode) anyStep (.idle db) s

def AiStep (s : AiSys) (tag : AiStmt) (s' : AiSys) : Prop :=
  ∃ (i : Nat) (call : AiCall) (β : Type) (act : AiDb → β × AiDb) (next : β → AiProg AiReply),
    s.calls[i]? = some (call, .atomic tag act next) ∧ s' = s.exec i call act next

/-- No letters beyond ASCII. -/
def asciiOnly : Unicode := ⟨id, id, fun _ => false⟩

def chattySettings : AiSettings where
  isEnabled := true
  handoffKeywords := ["agent"]
  minConfidence := 3 / 5
  maxBotTurns := 5
  handoffMessage := some "One moment."

def oneBotConversation : AiDb where
  featureTenants := [1]
  indexedTenants := [1]
  aiConfigs := [(1, chattySettings)]
  conversations := [{ id := 7, tenantId := 1, contactId := 3, botState := .botActive, botEngagedAt := some 0
                      serviceWindowExpiresAt := some 100 }]
  messages := [{ id := 9, tenantId := 1, conversationId := 7, direction := .inbound, origin := .contact
                 body := some "refund?", sentAt := 0 }]
  uuids := [21, 22, 23, 24, 25, 26]

theorem oneBotConversation_unique : UniqueBy BotConversation.idEntry oneBotConversation.conversations := by decide

def questionTrigger : BotInboundTrigger := ⟨1, 7, 3, 9, none⟩

def answeredQuestion : AiCall :=
  .handle questionTrigger [⟨"chunk", 1⟩] (.answered ⟨true, some "Within 30 days.", .high, ["chunk"]⟩)

def JobState.ahead : JobState → Bool
  | .waiting | .delayed => true
  | .active | .completed | .failed => false

def RoutingJob.complete (job : RoutingJob) : RoutingJob :=
  if job.state.ahead then { job with state := .completed } else job

def JobQueue.workOff (queue : JobQueue) : List TicketRoutingTrigger × JobQueue :=
  match queue.connection with
  | .disabled => ([], queue)
  | .down | .up =>
    ((queue.jobs.filter (·.state.ahead)).map (·.data), { queue with jobs := queue.jobs.map RoutingJob.complete })

def WillRun (trigger : TicketRoutingTrigger) (queue : JobQueue) : Prop := trigger ∈ queue.workOff.1

instance (trigger : TicketRoutingTrigger) (queue : JobQueue) : Decidable (WillRun trigger queue) :=
  inferInstanceAs (Decidable (trigger ∈ queue.workOff.1))

def JobQueue.requestRouting (queue : JobQueue) (tenantId ticketId : Uuid) : EnqueueOutcome × JobQueue :=
  queue.enqueue (routingRequest tenantId ticketId)

def JobQueue.holdsRoute (queue : JobQueue) (tenantId ticketId : Uuid) : Bool :=
  queue.jobs.any (·.jobId = assignmentRouteJobId { tenantId, ticketId })

section Queue

variable {job : RoutingJob} {tenantId ticketId : Uuid}

theorem willRun_iff : WillRun trigger queue ↔
    queue.connection ≠ .disabled ∧ ∃ job ∈ queue.jobs, job.data = trigger ∧ job.state.ahead = true := by
  rw [WillRun, JobQueue.workOff]
  cases queue.connection <;> simp [and_comm, and_left_comm]

theorem willRun_add : WillRun trigger (queue.add job) ↔
    (queue.connection ≠ .disabled ∧ queue.jobs.any (·.jobId = job.jobId) = false ∧ job.data = trigger ∧
      job.state.ahead = true) ∨ WillRun trigger queue := by
  rw [JobQueue.add]
  cases hstored : queue.jobs.any (·.jobId = job.jobId) with
  | true => simp
  | false =>
    simp only [Bool.false_eq_true, if_false, willRun_iff, List.mem_append, List.mem_singleton]
    constructor
    · rintro ⟨hconnection, stored, hmem | rfl, hdata, hahead⟩
      · exact .inr ⟨hconnection, stored, hmem, hdata, hahead⟩
      · exact .inl ⟨hconnection, trivial, hdata, hahead⟩
    · rintro (⟨hconnection, _, hdata, hahead⟩ | ⟨hconnection, stored, hmem, hdata, hahead⟩)
      · exact ⟨hconnection, job, .inr rfl, hdata, hahead⟩
      · exact ⟨hconnection, stored, .inl hmem, hdata, hahead⟩

theorem willRun_enqueue : WillRun { tenantId, ticketId } (queue.enqueue (routingRequest tenantId ticketId)).2 ↔
    (queue.connection = .up ∧ queue.holdsRoute tenantId ticketId = false) ∨ WillRun { tenantId, ticketId } queue := by
  rw [JobQueue.enqueue]
  cases hconnection : queue.connection with
  | disabled | down => simp
  | up => simp [willRun_add, hconnection, JobQueue.holdsRoute, routingRequest, JobState.ahead]

end Queue

/-- The request that follows a handoff leads to a run of the ticket's route exactly when the queue answers and no job is
    stored under the route's id, or when a stored job of the route has its run ahead. -/
theorem handoff_requests_routing_iff {db : AiDb} {tenantId ticketId : Uuid} {ticket : Ticket}
    (hticket : db.tickets.find? (fun t => t.tenantId = tenantId ∧ t.id = ticketId) = some ticket)
    (hroutable : routable ticket = true) (conversationId eventId : Uuid) : WillRun { tenantId, ticketId }
        ((requestRoutingIfUnowned tenantId conversationId eventId (some ticketId)).alone db).2.assignmentQueue ↔
      (db.assignmentQueue.connection = .up ∧ db.assignmentQueue.holdsRoute tenantId ticketId = false) ∨
        WillRun { tenantId, ticketId } db.assignmentQueue := by
  have hid : ticket.id = ticketId := by
    exact (of_find? hticket).2.2
  have hqueue : ((requestRoutingIfUnowned tenantId conversationId eventId (some ticketId)).alone db).2.assignmentQueue =
      (db.assignmentQueue.enqueue (routingRequest tenantId ticketId)).2 := by
    simp only [requestRoutingIfUnowned, Bind.bind, Prog.alone_bind, Prog.read, Prog.stmt, Prog.alone, hticket, hroutable,
      if_true, hid]
  rw [hqueue, willRun_enqueue]

def routedOnce : AiDb :=
  { tickets := [{ id := 5, tenantId := 1, number := 1, conversationId := some 7, contactId := some 3, createdAt := 0 }]
    assignmentQueue := (({} : JobQueue).requestRouting 1 5).2.workOff.2 }

theorem handoff_requests_routing_iff_routedOnce : ∃ ticket,
    routedOnce.tickets.find? (fun t => t.tenantId = 1 ∧ t.id = 5) = some ticket ∧
      (WillRun ⟨1, 5⟩ ((requestRoutingIfUnowned 1 7 11 (some 5)).alone routedOnce).2.assignmentQueue ↔
        (routedOnce.assignmentQueue.connection = .up ∧ routedOnce.assignmentQueue.holdsRoute 1 5 = false) ∨
          WillRun ⟨1, 5⟩ routedOnce.assignmentQueue) :=
  ⟨_, rfl, handoff_requests_routing_iff rfl rfl 7 11⟩

/-- The completed job of the ticket's creation swallows the request. -/
theorem completed_route_swallows_request :
    ¬ ∀ (db : AiDb) (tenantId ticketId conversationId eventId : Uuid) (ticket : Ticket),
      db.tickets.find? (fun t => t.tenantId = tenantId ∧ t.id = ticketId) = some ticket → routable ticket = true →
        ticket.assignedUserId = none → ticket.assignedTeamId = none → db.assignmentQueue.connection = .up →
          WillRun { tenantId, ticketId }
            ((requestRoutingIfUnowned tenantId conversationId eventId (some ticketId)).alone db).2.assignmentQueue := by
  intro hclaim
  have hlost : ¬ WillRun ⟨1, 5⟩ ((requestRoutingIfUnowned 1 7 11 (some 5)).alone routedOnce).2.assignmentQueue := by
    decide +kernel
  exact hlost (hclaim routedOnce 1 5 7 11 _ rfl rfl rfl rfl rfl)

end WhatsappCrm.Ai
