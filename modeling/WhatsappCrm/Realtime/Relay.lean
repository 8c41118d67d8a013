/-
Purpose: The rooms of the socket server (`packages/contracts/src/realtime.ts`), what `RealtimeRelayService` puts on the wire
  and which sockets get it.
-/
import WhatsappCrm.Common.KeysetCursor
import WhatsappCrm.Rbac.Visibility

namespace WhatsappCrm.Realtime

inductive RoomKind where
  /-- Every socket in the tenant. -/
  | tenant
  /-- Those of the tenant that hold `conversation:read_all`. -/
  | tenantReaders
  /-- Those of the tenant that hold `canned_response:read`. -/
  | tenantCannedResponse
  | conversation
  | user
  | team
deriving DecidableEq

/-- What a template string has before the id. -/
def RoomKind.before : RoomKind → String
  | .tenant => "tenant:"
  | .tenantReaders => "tenant:"
  | .tenantCannedResponse => "tenant:"
  | .conversation => "conversation:"
  | .user => "user:"
  | .team => "team:"

def RoomKind.after : RoomKind → String
  | .tenantReaders => ":conversation-readers"
  | .tenantCannedResponse => ":canned-response-readers"
  | _ => ""

structure Room where
  kind : RoomKind
  id : Uuid

def Room.name (room : Room) : String := room.kind.before ++ Uuid.text room.id ++ room.kind.after

def tenantRoom (tenantId : Uuid) : String := Room.name ⟨.tenant, tenantId⟩

def tenantReadersRoom (tenantId : Uuid) : String := Room.name ⟨.tenantReaders, tenantId⟩

def tenantCannedResponseRoom (tenantId : Uuid) : String := Room.name ⟨.tenantCannedResponse, tenantId⟩

def conversationRoom (conversationId : Uuid) : String := Room.name ⟨.conversation, conversationId⟩

def userRoom (userId : Uuid) : String := Room.name ⟨.user, userId⟩

def teamRoom (teamId : Uuid) : String := Room.name ⟨.team, teamId⟩

theorem length_write (id : Uuid) : (UuidText.write id).length = 36 := by
  simp only [UuidText.write, List.length_append, List.length_cons, Numeral.Alphabet.length_write]

theorem write_injective (h : UuidText.write a = UuidText.write b) : a = b := by
  have hread := congrArg UuidText.read h
  rw [UuidText.read_write, UuidText.read_write, Option.some.injEq] at hread
  rw [← UuidText.Groups.bits_ofBits a, hread, UuidText.Groups.bits_ofBits]

theorem RoomKind.before_of_take (k k' : RoomKind) :
    k.before.toList.take 3 = k'.before.toList.take 3 → k.before.toList = k'.before.toList := by
  cases k <;> cases k' <;> decide +kernel

theorem RoomKind.three_le_before (k : RoomKind) : 3 ≤ k.before.toList.length := by
  cases k <;> decide +kernel

theorem RoomKind.eq_of_ends (k k' : RoomKind) :
    k.before.toList = k'.before.toList → k.after.toList = k'.after.toList → k = k' := by
  cases k <;> cases k' <;> decide +kernel

variable {r : Room}

theorem Room.name_injective {r' : Room} (h : r.name = r'.name) : r = r' := by
  have htext := congrArg String.toList h
  simp only [name, String.toList_append, Uuid.text, String.toList_ofList, List.append_assoc] at htext
  have htake := congrArg (List.take 3) htext
  rw [List.take_append_of_le_length r.kind.three_le_before,
    List.take_append_of_le_length r'.kind.three_le_before] at htake
  have hbefore := RoomKind.before_of_take _ _ htake
  rw [hbefore, List.append_cancel_left_eq] at htext
  obtain ⟨hid, hafter⟩ := List.append_inj htext (by rw [length_write, length_write])
  cases r
  cases r'
  exact congrArg₂ Room.mk (RoomKind.eq_of_ends _ _ hbefore hafter) (write_injective hid)

@[simp] theorem Room.name_inj {r' : Room} : r.name = r'.name ↔ r = r' :=
  ⟨name_injective, congrArg name⟩

structure ConversationAudience where
  tenantId : Uuid
  record : AssignableRecord

def conversationAudienceRooms (audience : ConversationAudience) : List String :=
  [tenantReadersRoom audience.tenantId] ++
    (audience.record.assignedUserId.map fun userId => userRoom userId).toList ++
    (audience.record.assignedTeamId.map fun teamId => teamRoom teamId).toList ++
    (if audience.record.assignedUserId = none ∧ audience.record.assignedTeamId = none then
      [tenantRoom audience.tenantId]
    else [])

structure RealtimePrincipal extends SessionPrincipal where
  tenantId : Uuid
  sessionId : Uuid

/-- `handleConnection`: the rooms a socket joins. -/
def handleConnection (principal : RealtimePrincipal) : List String :=
  [tenantRoom principal.tenantId, userRoom principal.userId] ++
    principal.teamIds.map (fun teamId => teamRoom teamId) ++
    (if principal.permissions.contains .conversationReadAll then [tenantReadersRoom principal.tenantId] else []) ++
    (if principal.permissions.contains .cannedResponseRead then
      [tenantCannedResponseRoom principal.tenantId]
    else [])

structure RealtimeSocket where
  principal : RealtimePrincipal
  subscribed : List Uuid

def RealtimeSocket.rooms (socket : RealtimeSocket) : List String :=
  handleConnection socket.principal ++ socket.subscribed.map fun conversationId => conversationRoom conversationId

/-- `server.to(rooms).emit` reaches the sockets of the union. -/
def RealtimeSocket.gets (socket : RealtimeSocket) (rooms : List String) : Bool := rooms.any socket.rooms.contains

variable {socket : RealtimeSocket}

theorem RealtimeSocket.gets_iff {rooms : List String} :
    socket.gets rooms = true ↔ ∃ room ∈ rooms, room ∈ socket.rooms := by
  simp [gets]

theorem RealtimeSocket.gets_append (socket : RealtimeSocket) (rooms rooms' : List String) :
    socket.gets (rooms ++ rooms') = (socket.gets rooms || socket.gets rooms') := by
  simp [gets, List.any_append]

theorem RealtimeSocket.mem_rooms : r.name ∈ socket.rooms ↔
      match r.kind with
      | .tenant => r.id = socket.principal.tenantId
      | .tenantReaders => r.id = socket.principal.tenantId ∧ .conversationReadAll ∈ socket.principal.permissions
      | .tenantCannedResponse =>
        r.id = socket.principal.tenantId ∧ .cannedResponseRead ∈ socket.principal.permissions
      | .conversation => r.id ∈ socket.subscribed
      | .user => r.id = socket.principal.userId
      | .team => r.id ∈ socket.principal.teamIds := by
  obtain ⟨kind, id⟩ := r
  simp only [rooms, handleConnection, List.mem_append, List.mem_map, List.mem_cons, List.not_mem_nil, or_false,
    tenantRoom, tenantReadersRoom, tenantCannedResponseRoom, conversationRoom, userRoom, teamRoom, List.mem_ite_nil_right,
    List.contains_iff_mem, Room.name_inj, Room.mk.injEq]
  cases kind <;> simp [and_comm, eq_comm]

@[simp] theorem RealtimeSocket.tenantRoom_mem :
    tenantRoom tenantId ∈ socket.rooms ↔ tenantId = socket.principal.tenantId :=
  mem_rooms (r := ⟨.tenant, tenantId⟩)

@[simp] theorem RealtimeSocket.tenantReadersRoom_mem : tenantReadersRoom tenantId ∈ socket.rooms ↔
      tenantId = socket.principal.tenantId ∧ .conversationReadAll ∈ socket.principal.permissions :=
  mem_rooms (r := ⟨.tenantReaders, tenantId⟩)

@[simp] theorem RealtimeSocket.userRoom_mem : userRoom userId ∈ socket.rooms ↔ userId = socket.principal.userId :=
  mem_rooms (r := ⟨.user, userId⟩)

@[simp] theorem RealtimeSocket.teamRoom_mem : teamRoom teamId ∈ socket.rooms ↔ teamId ∈ socket.principal.teamIds :=
  mem_rooms (r := ⟨.team, teamId⟩)

theorem gets_conversationAudienceRooms (socket : RealtimeSocket) (audience : ConversationAudience) :
    socket.gets (conversationAudienceRooms audience) = true ↔
      (audience.tenantId = socket.principal.tenantId ∧ .conversationReadAll ∈ socket.principal.permissions) ∨
      audience.record.assignedUserId = some socket.principal.userId ∨
      (∃ teamId ∈ socket.principal.teamIds, audience.record.assignedTeamId = some teamId) ∨
      (audience.tenantId = socket.principal.tenantId ∧ isUnclaimed audience.record = true) := by
  rw [RealtimeSocket.gets_iff, isUnclaimed_iff]
  obtain ⟨tenantId, ⟨userId?, teamId?⟩⟩ := audience
  cases userId? <;> cases teamId? <;> simp [conversationAudienceRooms]

variable (principal : RealtimePrincipal)

inductive ServerEvent where
  | messageCreated (conversationId messageId : Uuid)
  | messageStatusChanged (conversationId messageId : Uuid)
  | conversationUpdated (conversationId : Uuid)
  | slaBreached (alertId ticketId : Uuid)
  | ticketUpdated (ticketId : Uuid)
deriving DecidableEq

structure Emission where
  rooms : List String
  event : ServerEvent

def received (socket : RealtimeSocket) (emissions : List Emission) : List ServerEvent :=
  (emissions.filter fun emission => socket.gets emission.rooms).map (·.event)

/-- A message as it is read back, with who may be shown it. -/
structure RelayableMessage where
  messageId : Uuid
  audience : ConversationAudience

/-- `relayMessage`, on what the read answered; `published` is the hostname's part of it. -/
def relayMessage (published : Bool) (found : Option RelayableMessage) (toEvent : Uuid → ServerEvent) : List Emission :=
  match if published then found else none with
  | none => []
  | some relayable =>
    [{ rooms := conversationAudienceRooms relayable.audience, event := toEvent relayable.messageId }]

def onMessageCreated (conversationId : Uuid) (published : Bool) (found : Option RelayableMessage) : List Emission :=
  relayMessage published found (.messageCreated conversationId)

def onMessageStatusChanged (conversationId : Uuid) (published : Bool) (found : Option RelayableMessage) : List Emission :=
  relayMessage published found (.messageStatusChanged conversationId)

/-- `ConversationAssignedEvent`: the assignment the thread had. -/
structure ConversationAssignedEvent where
  tenantId : Uuid
  conversationId : Uuid
  previous : AssignableRecord

structure ConversationResponse where
  id : Uuid
  record : AssignableRecord

def handoverRooms (event : ConversationAssignedEvent) (conversation : ConversationResponse) : List String :=
  (conversationAudienceRooms ⟨event.tenantId, event.previous⟩ ++
    conversationAudienceRooms ⟨event.tenantId, conversation.record⟩).eraseDups

/-- `onConversationAssigned`, on the row that was read back. -/
def onConversationAssigned (event : ConversationAssignedEvent) (found : Option ConversationResponse) : List Emission :=
  match found with
  | none => []
  | some conversation =>
    [{ rooms := handoverRooms event conversation, event := .conversationUpdated conversation.id }]

/-- The shared inbox shows a principal the record: row-level security and `isVisibleOrUnclaimed`. -/
def admits (audience : ConversationAudience) : Bool :=
  audience.tenantId = principal.tenantId &&
    isVisibleOrUnclaimed audience.record principal.toSessionPrincipal .conversationReadAll

def holds (record : AssignableRecord) : Bool :=
  record.assignedUserId == some principal.userId || record.assignedTeamId.any principal.teamIds.contains

theorem isVisible_eq (record : AssignableRecord) (principal : RealtimePrincipal) (readAll : Permission) :
    isVisible record principal.toSessionPrincipal readAll =
      (principal.permissions.contains readAll || holds principal record) := by
  rw [isVisible, holds, Bool.or_assoc]

def HeldInTenant (audience : ConversationAudience) : Prop :=
  holds principal audience.record = true → audience.tenantId = principal.tenantId

instance (principal : RealtimePrincipal) (audience : ConversationAudience) :
    Decidable (HeldInTenant principal audience) :=
  inferInstanceAs (Decidable (_ → _))

variable {socket : RealtimeSocket}

theorem gets_audience : socket.gets (conversationAudienceRooms audience) = true ↔
      (audience.tenantId = socket.principal.tenantId ∧ .conversationReadAll ∈ socket.principal.permissions) ∨
      holds socket.principal audience.record = true ∨
      (audience.tenantId = socket.principal.tenantId ∧ isUnclaimed audience.record = true) := by
  have hholds : holds socket.principal audience.record = true ↔
      audience.record.assignedUserId = some socket.principal.userId ∨
        ∃ teamId ∈ socket.principal.teamIds, audience.record.assignedTeamId = some teamId := by
    simp [holds, Option.any_eq_true, and_comm]
  rw [gets_conversationAudienceRooms, hholds]
  simp only [or_assoc]

theorem gets_eq_admits (hheld : HeldInTenant socket.principal audience) :
    socket.gets (conversationAudienceRooms audience) = admits socket.principal audience := by
  rw [Bool.eq_iff_iff, gets_audience]
  simp only [admits, isVisibleOrUnclaimed, isVisible_eq, Bool.and_eq_true, decide_eq_true_eq, Bool.or_eq_true,
    List.contains_iff_mem]
  constructor
  · rintro (⟨htenant, hall⟩ | hholds | ⟨htenant, hfree⟩)
    · exact ⟨htenant, .inl (.inl hall)⟩
    · exact ⟨hheld hholds, .inl (.inr hholds)⟩
    · exact ⟨htenant, .inr hfree⟩
  · rintro ⟨htenant, (hall | hholds) | hfree⟩
    · exact .inl ⟨htenant, hall⟩
    · exact .inr (.inl hholds)
    · exact .inr (.inr ⟨htenant, hfree⟩)

theorem gets_handoverRooms : socket.gets (handoverRooms event conversation) =
      (socket.gets (conversationAudienceRooms ⟨event.tenantId, event.previous⟩) ||
        socket.gets (conversationAudienceRooms ⟨event.tenantId, conversation.record⟩)) := by
  rw [← RealtimeSocket.gets_append, Bool.eq_iff_iff, RealtimeSocket.gets_iff, RealtimeSocket.gets_iff]
  simp only [handoverRooms, List.mem_eraseDups]

theorem received_singleton (socket : RealtimeSocket) (emission : Emission) :
    received socket [emission] = if socket.gets emission.rooms then [emission.event] else [] := by
  cases h : socket.gets emission.rooms <;> simp [received, h]

/-- A message, and a change of its status, reach a socket once when the shared inbox shows its principal the
    conversation, and not otherwise; a hand-over reaches it once when the conversation was shown before or is shown now. -/
theorem conversation_fanout_is_read_rule (socket : RealtimeSocket) :
    (∀ conversationId relayable, HeldInTenant socket.principal relayable.audience →
      (received socket (onMessageCreated conversationId true (some relayable)) =
        if admits socket.principal relayable.audience then [.messageCreated conversationId relayable.messageId]
        else []) ∧
      (received socket (onMessageStatusChanged conversationId true (some relayable)) =
        if admits socket.principal relayable.audience then [.messageStatusChanged conversationId relayable.messageId]
        else [])) ∧
    ∀ event conversation, HeldInTenant socket.principal ⟨event.tenantId, event.previous⟩ →
      HeldInTenant socket.principal ⟨event.tenantId, conversation.record⟩ →
        received socket (onConversationAssigned event (some conversation)) =
          if admits socket.principal ⟨event.tenantId, event.previous⟩ ||
              admits socket.principal ⟨event.tenantId, conversation.record⟩ then
            [.conversationUpdated conversation.id]
          else [] := by
  constructor
  · intro conversationId relayable hheld
    constructor
    · simp only [onMessageCreated, relayMessage, if_true, received_singleton, gets_eq_admits hheld]
    · simp only [onMessageStatusChanged, relayMessage, if_true, received_singleton, gets_eq_admits hheld]
  · intro event conversation hbefore hafter
    simp only [onConversationAssigned, received_singleton, gets_handoverRooms, gets_eq_admits hbefore,
      gets_eq_admits hafter]

def agentPrincipal : RealtimePrincipal where
  userId := 10
  permissions := [.ticketRead, .cannedResponseRead]
  teamIds := [20]
  tenantId := 1
  sessionId := 30

/-- A colleague takes a thread that was the team's; the agent is told, once. -/
theorem conversation_fanout_is_read_rule_handover :
    received ⟨agentPrincipal, []⟩ (onConversationAssigned ⟨1, 5, ⟨none, some 20⟩⟩ (some ⟨5, ⟨some 11, none⟩⟩)) =
      [.conversationUpdated 5] := by
  rw [(conversation_fanout_is_read_rule ⟨agentPrincipal, []⟩).2 ⟨1, 5, ⟨none, some 20⟩⟩ ⟨5, ⟨some 11, none⟩⟩
    (by decide +kernel) (by decide +kernel)]
  decide +kernel

structure AlertDelivery where
  alertId : Uuid
  recipientUserId : Uuid

/-- `SlaBreachResourceService.findForRelay`, with the alerts that resolve. -/
def findForRelay (tickets : List Ticket) (tenantId ticketId : Uuid) : Option Ticket :=
  tickets.find? fun t => t.tenantId = tenantId ∧ t.id = ticketId

/-- `onSlaBreached`: each alert to its recipient, the ticket to the audience of a conversation held as it is. -/
def onSlaBreached (tickets : List Ticket) (tenantId ticketId : Uuid) (deliveries : List AlertDelivery) : List Emission :=
  match findForRelay tickets tenantId ticketId with
  | none => []
  | some ticket =>
    deliveries.map (fun delivery =>
      { rooms := [userRoom delivery.recipientUserId], event := .slaBreached delivery.alertId ticket.id }) ++
    [{ rooms := conversationAudienceRooms ⟨tenantId, ticket.assignable⟩, event := .ticketUpdated ticket.id }]

/-- `PermissionGuard`. -/
def canActivate (required : List Permission) (principal : RealtimePrincipal) : Bool :=
  required.all principal.permissions.contains

/-- `GET /tickets/{id}` answers the ticket: the route's permission, row-level security and `isVisible`. -/
def ticketDetailAdmits (ticket : Ticket) : Bool :=
  canActivate [.ticketRead] principal && ticket.tenantId = principal.tenantId &&
    isVisible ticket.assignable principal.toSessionPrincipal .ticketReadAll

/-- Where the two rules say the same of a principal and a ticket of its tenant. -/
def SameRule (ticket : Ticket) : Prop :=
  ticket.tenantId = principal.tenantId →
    if holds principal ticket.assignable = true then .ticketRead ∈ principal.permissions
    else if isUnclaimed ticket.assignable = true then
      .ticketRead ∈ principal.permissions ∧ .ticketReadAll ∈ principal.permissions
    else .conversationReadAll ∈ principal.permissions ↔
      .ticketRead ∈ principal.permissions ∧ .ticketReadAll ∈ principal.permissions

theorem mem_received_ticketUpdated
    (hfound : findForRelay tickets tenantId ticketId = some ticket) (deliveries : List AlertDelivery) :
    .ticketUpdated ticketId ∈ received socket (onSlaBreached tickets tenantId ticketId deliveries) ↔
      socket.gets (conversationAudienceRooms ⟨ticket.tenantId, ticket.assignable⟩) = true := by
  have hticket := List.find?_some hfound
  simp only [decide_eq_true_eq] at hticket
  simp only [received, onSlaBreached, hfound, List.filter_append, List.map_append, List.mem_append, hticket.1]
  constructor
  · rintro (halert | hupdate)
    · obtain ⟨emission, hmem, hevent⟩ := List.mem_map.mp halert
      obtain ⟨delivery, _, rfl⟩ := List.mem_map.mp (List.mem_filter.mp hmem).1
      cases hevent
    · obtain ⟨emission, hmem, _⟩ := List.mem_map.mp hupdate
      obtain ⟨hmem, hgets⟩ := List.mem_filter.mp hmem
      rwa [List.mem_singleton.mp hmem] at hgets
  · intro hgets
    refine .inr (List.mem_map.mpr ⟨_, List.mem_filter.mpr ⟨List.mem_cons_self, hgets⟩, ?_⟩)
    rw [hticket.2]

/-- The push on a breach reaches a socket exactly when the ticket's detail read admits its principal, if and only if the
    two rules say the same of them. -/
theorem breach_push_is_read_rule {socket : RealtimeSocket} {tickets : List Ticket} {tenantId ticketId : Uuid}
    {ticket : Ticket} (hfound : findForRelay tickets tenantId ticketId = some ticket)
    (hheld : HeldInTenant socket.principal ⟨ticket.tenantId, ticket.assignable⟩) (deliveries : List AlertDelivery) :
    (.ticketUpdated ticketId ∈ received socket (onSlaBreached tickets tenantId ticketId deliveries) ↔
      ticketDetailAdmits socket.principal ticket = true) ↔ SameRule socket.principal ticket := by
  rw [mem_received_ticketUpdated hfound, gets_audience]
  simp only [ticketDetailAdmits, canActivate, List.all_cons, List.all_nil, Bool.and_true, Bool.and_eq_true,
    List.contains_iff_mem, decide_eq_true_eq, isVisible_eq, Bool.or_eq_true, SameRule]
  by_cases htenant : ticket.tenantId = socket.principal.tenantId
  · cases hholds : holds socket.principal ticket.assignable with
    | true => simp [htenant]
    | false =>
      cases hfree : isUnclaimed ticket.assignable with
      | true | false => simp [htenant]
  · have hnot : holds socket.principal ticket.assignable = false := by
      cases hholds : holds socket.principal ticket.assignable with
      | true => exact absurd (hheld hholds) htenant
      | false => rfl
    simp [htenant, hnot]

def unassignedTicket : Ticket where
  id := 7
  tenantId := 1
  number := 1
  conversationId := none
  contactId := none
  createdAt := 0

def teamTicket : Ticket := { unassignedTicket with assignedTeamId := some 20 }

/-- The agent gets what it may read. -/
theorem breach_push_is_read_rule_team :
    .ticketUpdated 7 ∈ received ⟨agentPrincipal, []⟩ (onSlaBreached [teamTicket] 1 7 []) ↔
      ticketDetailAdmits agentPrincipal teamTicket = true := by
  have hfound : findForRelay [teamTicket] 1 7 = some teamTicket := by decide +kernel
  have hheld : HeldInTenant agentPrincipal ⟨teamTicket.tenantId, teamTicket.assignable⟩ := by decide +kernel
  apply (breach_push_is_read_rule hfound hheld []).mpr
  exact fun _ => by decide +kernel

/-- A ticket nobody holds is pushed to every agent of the tenant, who may not read it. -/
theorem breach_push_beyond_read_rule :
    ¬ ∀ (socket : RealtimeSocket) (tickets : List Ticket) (tenantId ticketId : Uuid) (ticket : Ticket),
      findForRelay tickets tenantId ticketId = some ticket →
      HeldInTenant socket.principal ⟨ticket.tenantId, ticket.assignable⟩ →
        (.ticketUpdated ticketId ∈ received socket (onSlaBreached tickets tenantId ticketId []) ↔
          ticketDetailAdmits socket.principal ticket = true) := by
  intro hall
  have hpush : .ticketUpdated 7 ∈ received ⟨agentPrincipal, []⟩ (onSlaBreached [unassignedTicket] 1 7 []) := by
    decide +kernel
  have hread : ticketDetailAdmits agentPrincipal unassignedTicket = false := by decide +kernel
  have hadmitted := (hall ⟨agentPrincipal, []⟩ [unassignedTicket] 1 7 unassignedTicket (by decide +kernel)
    (by decide +kernel)).mp hpush
  rw [hread] at hadmitted
  cases hadmitted

end WhatsappCrm.Realtime
