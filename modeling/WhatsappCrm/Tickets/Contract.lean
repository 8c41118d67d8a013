/-
Purpose: The ticket vocabulary of `packages/contracts` (`tickets.ts`, `ticket-linking.ts`, `assignment.ts`), with the
  inputs and answers of the operations on tickets.
-/
import Mathlib.Tactic.Common

namespace WhatsappCrm

/-- A uuid column. Only ever compared, so its 128 bits stand for it. -/
abbrev Uuid := BitVec 128

instance : LawfulBEq Uuid := inferInstance

/-- An instant in milliseconds, the precision of the `timestamptz(3)` columns. -/
abbrev Millis := Int

/-- The largest value of a Postgres `integer`. A larger one is the error "integer out of range". -/
def int4Max : Int := 2147483647

inductive TicketStatus where
  | «open»
  | pending
  | resolved
  | closed
deriving DecidableEq

namespace TicketStatus

/-- `TICKET_STATUS_IS_ACTIVE`: live work on the contact. -/
def isActive : TicketStatus → Bool
  | .open => true
  | .pending => true
  | .resolved => false
  | .closed => false

/-- `TICKET_STATUS_TRANSITIONS`: the moves an agent may make from a status. -/
def transitions : TicketStatus → List TicketStatus
  | .open => [.pending, .resolved, .closed]
  | .pending => [.open, .resolved, .closed]
  | .resolved => [.closed]
  | .closed => []

/-- `TICKET_STATUS_REQUIRES_CLOSE`: entering these needs the permission `ticket:close`. -/
def requiresClose : TicketStatus → Bool
  | .open => false
  | .pending => false
  | .resolved => true
  | .closed => true

def pausesSla : TicketStatus → Bool
  | .open => false
  | .pending => true
  | .resolved => true
  | .closed => true

end TicketStatus

/-- True when an agent may make this move through `PATCH /tickets/{id}`. -/
def canAgentTransition (source target : TicketStatus) : Bool :=
  source.transitions.contains target

variable {source target : TicketStatus}

theorem canAgentTransition_inactive (h : canAgentTransition source target = true) (hs : source.isActive = false) :
    target.isActive = false := by
  revert h hs
  cases source <;> cases target <;> decide

theorem canAgentTransition_active (h : canAgentTransition source target = true) (ht : target.isActive = true) :
    source.isActive = true := by
  cases hs : source.isActive with
  | true => rfl
  | false => simp [canAgentTransition_inactive h hs] at ht

theorem canAgentTransition_resolved (h : canAgentTransition source .resolved = true) : source.isActive = true := by
  revert h
  cases source <;> decide

theorem canAgentTransition_closed (h : canAgentTransition source .closed = true) : source ≠ .closed := by
  revert h
  cases source <;> decide

theorem canAgentTransition_ne (h : canAgentTransition source target = true) : source ≠ target := by
  revert h
  cases source <;> cases target <;> decide

inductive TicketPriority where
  | low
  | normal
  | high
  | urgent
deriving DecidableEq

inductive FallbackAssignmentReason where
  | allAtCapacity
  | noneAvailable
  | noCandidatePool
deriving DecidableEq

inductive TicketRoutingState where
  | pending
  | assigned
  | deferred
  | manual
deriving DecidableEq

/-- The three routing columns. A row that breaks `tickets_routing_deferred_consistent` cannot be written down here. -/
inductive TicketRouting where
  | pending
  | assigned
  | deferred (reason : FallbackAssignmentReason) (since : Millis)
  | manual
deriving DecidableEq

namespace TicketRouting

def state : TicketRouting → TicketRoutingState
  | .pending => .pending
  | .assigned => .assigned
  | .deferred _ _ => .deferred
  | .manual => .manual

def deferredReason : TicketRouting → Option FallbackAssignmentReason
  | .deferred reason _ => some reason
  | _ => none

def deferredSince : TicketRouting → Option Millis
  | .deferred _ since => some since
  | _ => none

end TicketRouting

/-- A row of `tickets`: the columns the modelled operations read or write. -/
structure Ticket where
  id : Uuid
  tenantId : Uuid
  number : Int
  subject : Option String := none
  status : TicketStatus := .open
  priority : TicketPriority := .normal
  conversationId : Option Uuid
  contactId : Option Uuid
  assignedUserId : Option Uuid := none
  assignedTeamId : Option Uuid := none
  routing : TicketRouting := .pending
  firstRespondedAt : Option Millis := none
  firstResponseUserId : Option Uuid := none
  resolvedAt : Option Millis := none
  resolvedByUserId : Option Uuid := none
  closedAt : Option Millis := none
  createdAt : Millis
deriving DecidableEq

/-- `AssignableRecord`: the two columns the visibility rule reads. -/
structure AssignableRecord where
  assignedUserId : Option Uuid
  assignedTeamId : Option Uuid
deriving DecidableEq

def Ticket.assignable (t : Ticket) : AssignableRecord where
  assignedUserId := t.assignedUserId
  assignedTeamId := t.assignedTeamId

/-- Who is asking for a workflow's write, recorded on the event. -/
structure TicketAutomationContext where
  workflowId : Uuid
  workflowRunId : Uuid
deriving DecidableEq

/-- `data.cause` of an event, with the workflow context beside it when a workflow is the cause. -/
inductive EventCause where
  | inboundMessage
  | agent
  | workflow (context : TicketAutomationContext)
deriving DecidableEq

inductive SlaTargetKind where
  | firstResponse
  | resolution
deriving DecidableEq

inductive TicketEventData where
  | created (conversationId : Uuid) (cause : EventCause)
  | statusChanged (source target : TicketStatus) (cause : EventCause)
  | priorityChanged (source target : TicketPriority) (cause : EventCause)
  | conversationLinked (conversationId messageId : Uuid)
  | assigned (userId teamId previousUserId previousTeamId : Option Uuid) (cause : EventCause) (reason : Option String)
  | unassigned (previousUserId previousTeamId : Option Uuid) (cause : EventCause) (reason : Option String)
  | routed (reason : String) (ruleId : Option Uuid) (userId teamId : Option Uuid)
  | assignmentDeferred (reason : FallbackAssignmentReason)
  | firstResponse (respondedAt : Millis)
  | slaBreached (kind : SlaTargetKind) (dueAt : Millis)
deriving DecidableEq

def TicketEventData.isSla : TicketEventData → Bool
  | .firstResponse _ => true
  | .slaBreached _ _ => true
  | _ => false

def TicketEventData.statusChange : TicketEventData → Option (TicketStatus × TicketStatus)
  | .statusChanged source target _ => some (source, target)
  | _ => none

/-- A row of `ticket_events`. The log is kept in the order the rows were committed. -/
structure TicketEvent where
  tenantId : Uuid
  ticketId : Uuid
  actorUserId : Option Uuid := none
  data : TicketEventData
deriving DecidableEq

inductive UserRole where
  | agent
  | supervisor
  | admin
deriving DecidableEq

inductive UserStatus where
  | invited
  | active
  | suspended
  | removed
deriving DecidableEq

inductive Permission where
  | ticketReadAll
  | conversationReadAll
  | ticketClose
  | ticketAssign
  | userSetRole
  | assignmentRuleWrite
  | ticketRead
  | cannedResponseRead
deriving DecidableEq

structure SessionPrincipal where
  userId : Uuid
  role : UserRole := .agent
  permissions : List Permission
  teamIds : List Uuid
deriving DecidableEq

/-- `InboundMessageTicketTrigger`. The payload's contact and conversation are never read. -/
structure InboundMessageTicketTrigger where
  tenantId : Uuid
  messageId : Uuid
deriving DecidableEq

/-- The body of `PATCH /tickets/{id}`; `none` is an absent field. -/
structure TicketUpdateInput where
  subject : Option String := none
  status : Option TicketStatus := none
  priority : Option TicketPriority := none

/-- The body of `POST /tickets/{id}/assign`. Outer `none` is an absent field, `some none` an explicit null. -/
structure TicketAssignInput where
  userId : Option (Option Uuid) := none
  teamId : Option (Option Uuid) := none
  reason : Option String := none
deriving DecidableEq

inductive TicketAutomationChange where
  | status (status : TicketStatus)
  | priority (priority : TicketPriority)
  | assignment (assignedUserId assignedTeamId : Option Uuid)

inductive TicketAutomationOutcome where
  | applied
  | noOp
  | transitionRefused
  | ticketGone

inductive TicketLinkOutcome where
  | created
  | attached
  | skipped
deriving DecidableEq

/-- `TicketLinkResult`. Its `reason` is `not_inbound` exactly when the outcome is `skipped`. -/
structure TicketLinkResult where
  outcome : TicketLinkOutcome
  ticketId : Option Uuid
  ticketNumber : Option Int
  previousStatus : Option TicketStatus

/-- `TicketRoutingResult`, without its ids: which of the four outcomes it was. -/
inductive TicketRoutingOutcome where
  | routed
  | fallbackAssigned
  | deferred (reason : FallbackAssignmentReason)
  | skippedNotActive
  | skippedAlreadyAssigned

inductive DbError where
  | uniqueViolation
  | outOfRange
  | notNullViolation
  | serializationFailure
deriving DecidableEq

/-- Why a handoff was refused (`TicketHandoffNotPermittedError`). -/
inductive HandoffRefusal where
  | notHeld
  | notATeammate
  | releasing
deriving DecidableEq

inductive ApiError where
  | ticketNotFound (ticketId : Uuid)
  | ticketTransitionNotAllowed (ticketId : Uuid) (source target : TicketStatus)
  | ticketCloseNotPermitted (target : TicketStatus)
  | ticketStatusChangedConcurrently (ticketId : Uuid) (status : TicketStatus)
  | ticketReasonRequired
  | ticketHandoffNotPermitted (refusal : HandoffRefusal)
  | unknownTicketAssignee (field : String) (id : Uuid)
  | ticketTriggerMessageNotVisible (messageId : Uuid)
  | ticketLinkRaceUnresolved (contactId : Uuid) (attempts : Nat)
  | ticketNotVisible (ticketId : Uuid)
  | slaTicketNotVisible (ticketId : Uuid)
  | invalidTicketCursor (parameter : String)
  | ticketRoutingInconsistent (ticketId : Uuid)
  | invalidTimeValue
  | database (error : DbError)
deriving DecidableEq

end WhatsappCrm
