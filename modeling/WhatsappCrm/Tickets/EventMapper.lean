/-
Purpose: The payload each writer of `ticket_events` leaves, and `tickets/ticket-event.mapper.ts`, which turns a row into
  the event a console renders.
-/
import WhatsappCrm.Tickets.Query

namespace WhatsappCrm

def enumParse {α : Type} (token : α → String) (values : List α) (text : String) : Option α :=
  values.find? fun value => token value = text

def TicketStatus.token : TicketStatus → String
  | .open => "open"
  | .pending => "pending"
  | .resolved => "resolved"
  | .closed => "closed"

def FallbackAssignmentReason.token : FallbackAssignmentReason → String
  | .allAtCapacity => "all_at_capacity"
  | .noneAvailable => "none_available"
  | .noCandidatePool => "no_candidate_pool"

def SlaTargetKind.token : SlaTargetKind → String
  | .firstResponse => "first_response"
  | .resolution => "resolution"

/-- `data.cause`, as the writers spell it: `INBOUND_MESSAGE_CAUSE`, `AGENT_CAUSE`, `WORKFLOW_CAUSE`. -/
def EventCause.token : EventCause → String
  | .inboundMessage => "inbound_message"
  | .agent => "agent"
  | .workflow _ => "workflow"

inductive TicketEventType where
  | created
  | conversationLinked
  | statusChanged
  | priorityChanged
  | assigned
  | unassigned
  | escalated
  | assignmentDeferred
  | firstResponse
  | slaBreached
  | reopened
  | botHandoff
deriving DecidableEq

def TicketEventType.token : TicketEventType → String
  | .created => "created"
  | .conversationLinked => "conversation_linked"
  | .statusChanged => "status_changed"
  | .priorityChanged => "priority_changed"
  | .assigned => "assigned"
  | .unassigned => "unassigned"
  | .escalated => "escalated"
  | .assignmentDeferred => "assignment_deferred"
  | .firstResponse => "first_response"
  | .slaBreached => "sla_breached"
  | .reopened => "reopened"
  | .botHandoff => "bot_handoff"

def ticketEventTypes : List TicketEventType :=
  [.created, .conversationLinked, .statusChanged, .priorityChanged, .assigned, .unassigned, .escalated,
    .assignmentDeferred, .firstResponse, .slaBreached, .reopened, .botHandoff]

inductive TicketEventCause where
  | agent
  | inboundMessage
  | automation
  | sla
deriving DecidableEq

def TicketEventCause.token : TicketEventCause → String
  | .agent => "agent"
  | .inboundMessage => "inbound_message"
  | .automation => "automation"
  | .sla => "sla"

def ticketEventCauses : List TicketEventCause := [.agent, .inboundMessage, .automation, .sla]

/-- An event as its writer has it: `escalated` is `TicketCommandService.writeEscalation`'s. -/
inductive TicketEventWrite where
  | logged (event : TicketEventData)
  | escalated (reason : String) (toUserId : Option Uuid)

abbrev Payload := List (List Char × Json)

def textJson (text : String) : Json := .string text.toList

def member (key text : String) : Payload := [(key.toList, textJson text)]

def idText (id : Uuid) : String := String.ofList (UuidText.write id)

def idJson : Option Uuid → Json
  | none => .null
  | some id => textJson (idText id)

def idMember (key : String) (id : Option Uuid) : Payload := [(key.toList, idJson id)]

/-- `...(value === undefined ? {} : { [key]: value })`. -/
def optionalMember (key : String) : Option String → Payload
  | none => []
  | some text => member key text

def instantMember (key : String) (t : Millis) : Payload :=
  member key (String.ofList (IsoDate.Fields.ofInstant t).text)

def EventCause.members (cause : EventCause) : Payload :=
  member "cause" cause.token ++
    match cause with
    | .workflow context =>
      member "workflowId" (idText context.workflowId) ++ member "workflowRunId" (idText context.workflowRunId)
    | _ => []

/-- The payload of an `assigned` or `unassigned` event of `TicketCommandService`. -/
def assignmentMembers (userId teamId previousUserId previousTeamId : Option Uuid) (cause : EventCause)
    (reason : Option String) : Payload :=
  idMember "assignedUserId" userId ++ idMember "assignedTeamId" teamId ++
    idMember "previousAssignedUserId" previousUserId ++ idMember "previousAssignedTeamId" previousTeamId ++
    cause.members ++ optionalMember "reason" reason

/-- `type` and `data` of the row a write inserts. -/
def TicketEventWrite.payload : TicketEventWrite → TicketEventType × Payload
  | .logged (.created conversationId cause) =>
    (.created, member "conversationId" (idText conversationId) ++ cause.members)
  | .logged (.statusChanged source target cause) =>
    (.statusChanged, member "from" source.token ++ member "to" target.token ++ cause.members)
  | .logged (.priorityChanged source target cause) =>
    (.priorityChanged, member "from" source.label ++ member "to" target.label ++ cause.members)
  | .logged (.conversationLinked conversationId messageId) =>
    (.conversationLinked,
      member "conversationId" (idText conversationId) ++ member "messageId" (idText messageId))
  | .logged (.assigned userId teamId previousUserId previousTeamId cause reason) =>
    (.assigned, assignmentMembers userId teamId previousUserId previousTeamId cause reason)
  | .logged (.unassigned previousUserId previousTeamId cause reason) =>
    (.unassigned, assignmentMembers none none previousUserId previousTeamId cause reason)
  | .logged (.routed reason ruleId userId teamId) =>
    (.assigned, member "reason" reason ++ optionalMember "ruleId" (ruleId.map idText) ++
      idMember "assignedUserId" userId ++ idMember "assignedTeamId" teamId)
  | .logged (.assignmentDeferred reason) => (.assignmentDeferred, member "reason" reason.token)
  | .logged (.firstResponse respondedAt) => (.firstResponse, instantMember "respondedAt" respondedAt)
  | .logged (.slaBreached kind dueAt) => (.slaBreached, member "kind" kind.token ++ instantMember "dueAt" dueAt)
  | .escalated reason toUserId =>
    (.escalated, member "reason" reason ++ member "cause" EventCause.agent.token ++
      optionalMember "escalatedToUserId" (toUserId.map idText))

structure TicketEventRow where
  id : Uuid
  ticketId : Uuid
  type : String
  actorUserId : Option Uuid
  data : Option Json
  createdAt : Millis

structure TicketEventAssignment where
  fromUserId : Option String := none
  fromTeamId : Option String := none
  toUserId : Option String := none
  toTeamId : Option String := none

structure TicketEventPayload where
  fromValue : Option String := none
  toValue : Option String := none
  assignment : Option TicketEventAssignment := none
  reason : Option String := none

structure TicketEventResponse extends TicketEventPayload where
  id : Uuid
  ticketId : Uuid
  type : TicketEventType
  actorUserId : Option Uuid
  cause : Option TicketEventCause
  createdAt : Millis

def asRecord : Option Json → Option Payload
  | some (.object members) => some members
  | _ => none

/-- `data[key]`; `none` is `undefined`. -/
def Payload.get (data : Payload) (key : String) : Option Json := Json.field? key.toList data

def asString : Json → Option String
  | .string text => some (String.ofList text)
  | _ => none

def stringIn (data : Option Payload) (key : String) : Option String := (data.bind (·.get key)).bind asString

def causeIn (data : Option Payload) : Option TicketEventCause :=
  (stringIn data "cause").bind (enumParse TicketEventCause.token ticketEventCauses)

def assignmentIn (data : Option Payload) : TicketEventAssignment where
  fromUserId := stringIn data "previousAssignedUserId"
  fromTeamId := stringIn data "previousAssignedTeamId"
  toUserId := stringIn data "assignedUserId"
  toTeamId := stringIn data "assignedTeamId"

def payloadOf (type : TicketEventType) (data : Option Payload) : TicketEventPayload :=
  match type with
  | .statusChanged | .priorityChanged => { fromValue := stringIn data "from", toValue := stringIn data "to" }
  | .assigned | .unassigned => { assignment := some (assignmentIn data), reason := stringIn data "reason" }
  | .escalated => { toValue := stringIn data "escalatedToUserId", reason := stringIn data "reason" }
  | .assignmentDeferred => { reason := stringIn data "reason" }
  | .slaBreached => { toValue := stringIn data "kind" }
  | .created | .conversationLinked | .firstResponse | .reopened | .botHandoff => {}

def toTicketEventResponse (row : TicketEventRow) : Except String TicketEventResponse :=
  match enumParse TicketEventType.token ticketEventTypes row.type with
  | none => .error ("ticket event " ++ idText row.id ++ " carries the unpublished type " ++ row.type)
  | some type =>
    let data := asRecord row.data
    .ok { payloadOf type data with
          id := row.id, ticketId := row.ticketId, type, actorUserId := row.actorUserId, cause := causeIn data
          createdAt := row.createdAt }

/-- What the writer recorded: the published fields, and the cause by the writer's own token. -/
def TicketEventWrite.recorded : TicketEventWrite → TicketEventPayload × Option String
  | .logged (.created _ cause) => ({}, some cause.token)
  | .logged (.statusChanged source target cause) =>
    ({ fromValue := some source.token, toValue := some target.token }, some cause.token)
  | .logged (.priorityChanged source target cause) =>
    ({ fromValue := some source.label, toValue := some target.label }, some cause.token)
  | .logged (.conversationLinked _ _) => ({}, none)
  | .logged (.assigned userId teamId previousUserId previousTeamId cause reason) =>
    ({ assignment := some { fromUserId := previousUserId.map idText, fromTeamId := previousTeamId.map idText
                            toUserId := userId.map idText, toTeamId := teamId.map idText }
       reason }, some cause.token)
  | .logged (.unassigned previousUserId previousTeamId cause reason) =>
    ({ assignment := some { fromUserId := previousUserId.map idText, fromTeamId := previousTeamId.map idText }
       reason }, some cause.token)
  | .logged (.routed reason _ userId teamId) =>
    ({ assignment := some { toUserId := userId.map idText, toTeamId := teamId.map idText }
       reason := some reason }, none)
  | .logged (.assignmentDeferred reason) => ({ reason := some reason.token }, none)
  | .logged (.firstResponse _) => ({}, none)
  | .logged (.slaBreached kind _) => ({ toValue := some kind.token }, none)
  | .escalated reason toUserId =>
    ({ toValue := toUserId.map idText, reason := some reason }, some EventCause.agent.token)

/-- The event is one of `TicketCommandService.applyAutomation`. -/
def TicketEventWrite.ByWorkflow : TicketEventWrite → Prop
  | .logged (.created _ cause) | .logged (.statusChanged _ _ cause) | .logged (.priorityChanged _ _ cause)
  | .logged (.assigned _ _ _ _ cause _) | .logged (.unassigned _ _ cause _) => ∃ context, cause = .workflow context
  | _ => False

def TicketEventWrite.row (write : TicketEventWrite) (id ticketId : Uuid) (actorUserId : Option Uuid)
    (createdAt : Millis) : TicketEventRow where
  id
  ticketId
  type := write.payload.1.token
  actorUserId
  data := some (.object write.payload.2)
  createdAt

structure Decodes (write : TicketEventWrite) (row : TicketEventRow) (response : TicketEventResponse) : Prop where
  columns : (response.id, response.ticketId, response.actorUserId, response.createdAt) =
    (row.id, row.ticketId, row.actorUserId, row.createdAt)
  type : response.type.token = row.type
  payload : response.toTicketEventPayload = write.recorded.1
  cause : response.cause.map TicketEventCause.token = write.recorded.2

section Payloads

variable (key name : String)

@[simp]
theorem stringIn_some (members : Payload) : stringIn (some members) key = (members.get key).bind asString := rfl

@[simp]
theorem asString_textJson (text : String) : asString (textJson text) = some text := by
  simp [asString, textJson]

@[simp]
theorem bind_textJson (text : Option String) : (text.map textJson).bind asString = text := by
  cases text <;> simp

@[simp]
theorem get_append (first later : Payload) : (first ++ later).get key = (later.get key).or (first.get key) := by
  simp only [Payload.get, Json.field?, List.reverse_append, List.find?_append]
  cases later.reverse.find? fun m => m.1 = key.toList <;> simp

@[simp]
theorem get_nil : Payload.get [] key = none := rfl

theorem get_singleton (value : Json) :
    Payload.get [(name.toList, value)] key = if name = key then some value else none := by
  by_cases h : name = key
  · simp [Payload.get, Json.field?, h]
  · have hchars : name.toList ≠ key.toList := fun heq => h (String.toList_injective heq)
    simp [Payload.get, Json.field?, h, hchars]

@[simp]
theorem get_member (text : String) : (member name text).get key = if name = key then some (textJson text) else none :=
  get_singleton key name _

@[simp]
theorem get_instantMember (t : Millis) : (instantMember name t).get key =
      if name = key then some (textJson (String.ofList (IsoDate.Fields.ofInstant t).text)) else none :=
  get_member key name _

@[simp]
theorem get_idMember (id : Option Uuid) : (idMember name id).get key = if name = key then some (idJson id) else none :=
  get_singleton key name _

@[simp]
theorem asString_idJson (id : Option Uuid) : asString (idJson id) = id.map idText := by
  cases id <;> simp only [idJson, asString_textJson, Option.map_some]; rfl

@[simp]
theorem get_optionalMember (text : Option String) :
    (optionalMember name text).get key = if name = key then text.map textJson else none := by
  cases text <;> simp [optionalMember]

@[simp]
theorem get_causeMembers (cause : EventCause) (hworkflow : "workflowId" ≠ key) (hrun : "workflowRunId" ≠ key) :
    cause.members.get key = if "cause" = key then some (textJson cause.token) else none := by
  cases cause <;> simp [EventCause.members, hworkflow, hrun]

end Payloads

theorem enumParse_type (type : TicketEventType) :
    enumParse TicketEventType.token ticketEventTypes type.token = some type := by
  cases type <;> decide

/-- The published fields of the type are the recorded ones, whoever wrote the row. -/
theorem payloadOf_payload (write : TicketEventWrite) :
    payloadOf write.payload.1 (some write.payload.2) = write.recorded.1 := by
  cases write with
  | escalated =>
    simp [TicketEventWrite.payload, TicketEventWrite.recorded, payloadOf, -Option.map_map]
  | logged event =>
    cases event <;>
      simp [TicketEventWrite.payload, TicketEventWrite.recorded, payloadOf, assignmentMembers, assignmentIn]

theorem causeIn_payload (write : TicketEventWrite) : causeIn (some write.payload.2) =
      write.recorded.2.bind (enumParse TicketEventCause.token ticketEventCauses) := by
  cases write with
  | escalated => simp [TicketEventWrite.payload, TicketEventWrite.recorded, causeIn]
  | logged event =>
    cases event <;>
      simp [TicketEventWrite.payload, TicketEventWrite.recorded, causeIn, assignmentMembers]

theorem causes_published_iff (write : TicketEventWrite) :
    (write.recorded.2.bind (enumParse TicketEventCause.token ticketEventCauses)).map TicketEventCause.token =
      write.recorded.2 ↔ ¬ write.ByWorkflow := by
  have hcause (cause : EventCause) :
      ((some cause.token).bind (enumParse TicketEventCause.token ticketEventCauses)).map TicketEventCause.token =
        some cause.token ↔ ¬ ∃ context, cause = .workflow context := by
    cases cause with
    | inboundMessage | agent => exact iff_of_true (by decide) (by simp)
    | workflow => exact iff_of_false (by rw [EventCause.token]; decide) (by simp)
  cases write with
  | escalated => exact iff_of_true rfl id
  | logged event =>
    cases event with
    | created _ cause | statusChanged _ _ cause | priorityChanged _ _ cause | assigned _ _ _ _ cause _
      | unassigned _ _ cause _ => exact hcause cause
    | _ =>
      exact iff_of_true rfl id

/-- Every event of every writer decodes to what the writer recorded, unless a workflow wrote it: the token of its
    cause is not one the contract publishes. -/
theorem event_decodes_iff (write : TicketEventWrite) (id ticketId : Uuid) (actorUserId : Option Uuid)
    (createdAt : Millis) :
    (∃ response, toTicketEventResponse (write.row id ticketId actorUserId createdAt) = .ok response ∧
      Decodes write (write.row id ticketId actorUserId createdAt) response) ↔ ¬ write.ByWorkflow := by
  have hok : toTicketEventResponse (write.row id ticketId actorUserId createdAt) =
      .ok { write.recorded.1 with
            id, ticketId, type := write.payload.1, actorUserId, createdAt
            cause := write.recorded.2.bind (enumParse TicketEventCause.token ticketEventCauses) } := by
    simp only [toTicketEventResponse, TicketEventWrite.row, enumParse_type, asRecord, payloadOf_payload,
      causeIn_payload]
  rw [hok, ← causes_published_iff write]
  constructor
  · rintro ⟨response, hresponse, hdecodes⟩
    obtain rfl := Except.ok.inj hresponse
    exact hdecodes.cause
  · intro hcause
    exact ⟨_, rfl, { columns := rfl, type := rfl, payload := rfl, cause := hcause }⟩

/-- A workflow resolves a ticket: the event comes out without a cause. -/
theorem workflow_event_causeless :
    let write : TicketEventWrite :=
      .logged (.statusChanged .open .resolved (.workflow { workflowId := 1, workflowRunId := 2 }))
    write.recorded.2 = some "workflow" ∧
      (toTicketEventResponse (write.row 3 4 none 0)).toOption.map TicketEventResponse.cause = some none := by
  decide +kernel

end WhatsappCrm
