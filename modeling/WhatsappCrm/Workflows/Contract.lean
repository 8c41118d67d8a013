/-
Purpose: The vocabulary of workflows (`packages/contracts/src/workflows.ts`) with the bounds its schemas check and the
  key under which an occurrence is claimed; and the conditions, evaluated (`workflows/workflow-conditions.ts`,
  `workflow-facts.ts`).
-/
import WhatsappCrm.Lib.Numeral
import WhatsappCrm.Tickets.Contract

namespace WhatsappCrm.Workflows

/-- `WORKFLOW_LIMITS`. -/
def workflowsPerTenant : Nat := 50
def conditionsPerWorkflow : Nat := 10
def actionsPerWorkflow : Nat := 5
def valuesPerCondition : Nat := 25
def elapsedTriggerWorkflowsPerTenant : Nat := 10
def runsPerTicketPerHour : Nat := 20
def maxChainDepth : Nat := 3

/-- `WORKFLOW_ELAPSED_MINUTES`. -/
def elapsedMinutesMin : Nat := 5
def elapsedMinutesMax : Nat := 43200

/-- `WORKFLOW_FIELD_LENGTHS.notifyMessage`. -/
def notifyMessageLength : Nat := 280

inductive WorkflowTriggerType where
  | ticketCreated
  | ticketStatusChanged
  | ticketAssigned
  | ticketSlaBreached
  | ticketUnresolvedFor
deriving DecidableEq

/-- What a workflow waits for; the elapsed trigger alone carries a parameter. -/
inductive WorkflowTrigger where
  | ticketCreated
  | ticketStatusChanged
  | ticketAssigned
  | ticketSlaBreached
  | ticketUnresolvedFor (minutes : Nat)
deriving DecidableEq

def WorkflowTrigger.type : WorkflowTrigger → WorkflowTriggerType
  | .ticketCreated => .ticketCreated
  | .ticketStatusChanged => .ticketStatusChanged
  | .ticketAssigned => .ticketAssigned
  | .ticketSlaBreached => .ticketSlaBreached
  | .ticketUnresolvedFor _ => .ticketUnresolvedFor

def WorkflowTrigger.minutes? : WorkflowTrigger → Option Nat
  | .ticketUnresolvedFor minutes => some minutes
  | _ => none

def WorkflowTrigger.valid (trigger : WorkflowTrigger) : Bool :=
  trigger.minutes?.all fun minutes => elapsedMinutesMin ≤ minutes ∧ minutes ≤ elapsedMinutesMax

inductive WorkflowSetOperator where
  | «in»
  | notIn
deriving DecidableEq

inductive WorkflowMatchOperator where
  | any
  | all
  | none
deriving DecidableEq

inductive WorkflowNumberOperator where
  | gte
  | lte
deriving DecidableEq

inductive WorkflowAssignmentState where
  | unassigned
  | assignedToUser
  | assignedToTeam
deriving DecidableEq

inductive WorkflowCondition where
  | ticketStatus (operator : WorkflowSetOperator) (values : List TicketStatus)
  | ticketPriority (operator : WorkflowSetOperator) (values : List TicketPriority)
  | ticketAssignment (state : WorkflowAssignmentState) (teamId userId : Option Uuid)
  | ticketTag (operator : WorkflowMatchOperator) (tagIds : List Uuid)
  | contactTag (operator : WorkflowMatchOperator) (tagIds : List Uuid)
  | ticketAge (operator : WorkflowNumberOperator) (minutes : Nat)
  | businessHours (within : Bool)
deriving DecidableEq

/-- A non-empty list of at most `most` values. -/
def countWithin {α : Type} (most : Nat) (values : List α) : Bool := 1 ≤ values.length ∧ values.length ≤ most

def WorkflowCondition.valid : WorkflowCondition → Bool
  | .ticketStatus _ values => countWithin 4 values
  | .ticketPriority _ values => countWithin 4 values
  | .ticketAssignment state teamId userId =>
    match state with
    | .unassigned => teamId = none ∧ userId = none
    | .assignedToUser => teamId = none
    | .assignedToTeam => userId = none
  | .ticketTag _ tagIds => countWithin valuesPerCondition tagIds
  | .contactTag _ tagIds => countWithin valuesPerCondition tagIds
  | .ticketAge _ minutes => 1 ≤ minutes ∧ minutes ≤ elapsedMinutesMax
  | .businessHours _ => true

inductive WorkflowAssignee where
  | team (teamId : Uuid)
  | user (userId : Uuid)
deriving DecidableEq

inductive WorkflowNotifyAudience where
  | supervisors
  | user
  | team
deriving DecidableEq

inductive WorkflowAction where
  | addTicketTag (tagId : Uuid)
  | reassign (target : WorkflowAssignee)
  | notify (audience : WorkflowNotifyAudience) (userId teamId : Option Uuid) (message : Option String)
  | setStatus (status : TicketStatus)
  | setPriority (priority : TicketPriority)
deriving DecidableEq

def utf16Length (text : String) : Nat := (text.toList.map fun c => if c.toNat < 0x10000 then 1 else 2).sum

def WorkflowAction.valid : WorkflowAction → Bool
  | .notify audience userId teamId message =>
    (audience = .user ↔ userId.isSome) ∧ (audience = .team ↔ teamId.isSome) ∧
      message.all fun text => 1 ≤ utf16Length text ∧ utf16Length text ≤ notifyMessageLength
  | _ => true

structure WorkflowDefinition where
  trigger : WorkflowTrigger
  conditions : List WorkflowCondition := []
  actions : List WorkflowAction := []
deriving DecidableEq

/-- `WorkflowDefinitionSchema` accepts it. -/
def WorkflowDefinition.valid (definition : WorkflowDefinition) : Bool :=
  definition.trigger.valid ∧ definition.conditions.length ≤ conditionsPerWorkflow ∧
    definition.conditions.all WorkflowCondition.valid ∧ countWithin actionsPerWorkflow definition.actions ∧
      definition.actions.all WorkflowAction.valid

inductive WorkflowTaxonomyKind where
  | tag
  | team
  | user
deriving DecidableEq

/-- An entity a definition names, and the field it is named in. -/
structure WorkflowReferenceUse where
  kind : WorkflowTaxonomyKind
  id : Uuid
  path : String
deriving DecidableEq

def WorkflowCondition.uses (index : Nat) : WorkflowCondition → List WorkflowReferenceUse
  | .ticketAssignment _ teamId userId =>
    teamId.toList.map (⟨.team, ·, "conditions." ++ toString index ++ ".teamId"⟩) ++
      userId.toList.map (⟨.user, ·, "conditions." ++ toString index ++ ".userId"⟩)
  | .ticketTag _ tagIds => tagIds.map (⟨.tag, ·, "conditions." ++ toString index ++ ".tagIds"⟩)
  | .contactTag _ tagIds => tagIds.map (⟨.tag, ·, "conditions." ++ toString index ++ ".tagIds"⟩)
  | _ => []

def WorkflowAction.uses (index : Nat) : WorkflowAction → List WorkflowReferenceUse
  | .addTicketTag tagId => [⟨.tag, tagId, "actions." ++ toString index ++ ".tagId"⟩]
  | .reassign (.team teamId) => [⟨.team, teamId, "actions." ++ toString index ++ ".target.teamId"⟩]
  | .reassign (.user userId) => [⟨.user, userId, "actions." ++ toString index ++ ".target.userId"⟩]
  | .notify _ userId teamId _ =>
    userId.toList.map (⟨.user, ·, "actions." ++ toString index ++ ".userId"⟩) ++
      teamId.toList.map (⟨.team, ·, "actions." ++ toString index ++ ".teamId"⟩)
  | .setStatus _ | .setPriority _ => []

def workflowReferenceUses (conditions : List WorkflowCondition) (actions : List WorkflowAction) :
    List WorkflowReferenceUse :=
  (conditions.mapIdx WorkflowCondition.uses).flatten ++ (actions.mapIdx WorkflowAction.uses).flatten

def WorkflowDefinition.uses (definition : WorkflowDefinition) : List WorkflowReferenceUse :=
  workflowReferenceUses definition.conditions definition.actions

inductive WorkflowRunStatus where
  | pending
  | running
  | succeeded
  | skipped
  | failed
deriving DecidableEq

inductive WorkflowFailureReason where
  | referenceMissing
  | transitionRefused
  | ticketGone
  | runBudgetExceeded
  | internalError
deriving DecidableEq

inductive WorkflowActionOutcome where
  | applied
  | noOp
  | failed
  | skipped
deriving DecidableEq

structure WorkflowActionResult where
  index : Nat
  action : WorkflowAction
  outcome : WorkflowActionOutcome
  reason : Option WorkflowFailureReason
deriving DecidableEq

/-- `triggerIsTicketScoped`: the occurrence is the ticket itself. -/
def triggerIsTicketScoped : WorkflowTriggerType → Bool
  | .ticketCreated | .ticketUnresolvedFor => true
  | .ticketStatusChanged | .ticketAssigned | .ticketSlaBreached => false

structure WorkflowEvaluateTicketTrigger where
  tenantId : Uuid
  ticketId : Uuid
  triggerType : WorkflowTriggerType
  occurrenceId : Option Uuid
  depth : Nat
  causedByRunId : Option Uuid
deriving DecidableEq

/-- `WorkflowEvaluateTicketTriggerSchema` accepts it. -/
def WorkflowEvaluateTicketTrigger.valid (trigger : WorkflowEvaluateTicketTrigger) : Bool :=
  trigger.depth ≤ maxChainDepth + 1 ∧ (triggerIsTicketScoped trigger.triggerType ↔ trigger.occurrenceId = none)

/-- What is claimed of a ticket: its creation, its age, a recorded event, or a breached timer. -/
inductive Occurrence where
  | created
  | elapsed
  | event (id : Option Uuid)
  | timer (id : Option Uuid)

def WorkflowEvaluateTicketTrigger.occurrence (trigger : WorkflowEvaluateTicketTrigger) : Occurrence :=
  match trigger.triggerType with
  | .ticketCreated => .created
  | .ticketUnresolvedFor => .elapsed
  | .ticketStatusChanged | .ticketAssigned => .event trigger.occurrenceId
  | .ticketSlaBreached => .timer trigger.occurrenceId

def occurrenceText : Option Uuid → List Char
  | some id => UuidText.write id
  | none => "unknown".toList

def Occurrence.suffix : Occurrence → List Char
  | .created => ":created".toList
  | .elapsed => ":elapsed".toList
  | .event id => ":event:".toList ++ occurrenceText id
  | .timer id => ":timer:".toList ++ occurrenceText id

def Occurrence.key (o : Occurrence) (ticketId : Uuid) : String :=
  String.ofList ("ticket:".toList ++ (UuidText.write ticketId ++ o.suffix))

def workflowDedupeKey (trigger : WorkflowEvaluateTicketTrigger) : String := trigger.occurrence.key trigger.ticketId

theorem write_length (id : Uuid) : (UuidText.write id).length = 36 := by
  simp [UuidText.write]

theorem write_inj {id : Uuid} (h : UuidText.write id = UuidText.write id') : id = id' := by
  have hread : UuidText.read (UuidText.write id) = UuidText.read (UuidText.write id') := by rw [h]
  rw [UuidText.read_write, UuidText.read_write] at hread
  rw [← UuidText.Groups.bits_ofBits id, Option.some.inj hread, UuidText.Groups.bits_ofBits]

theorem occurrenceText_inj {id : Option Uuid} (h : occurrenceText id = occurrenceText id') : id = id' := by
  have hlength := congrArg List.length h
  cases id with
  | none =>
    cases id' with
    | none => rfl
    | some => simp [occurrenceText, write_length] at hlength
  | some =>
    cases id' with
    | none => simp [occurrenceText, write_length] at hlength
    | some => rw [write_inj h]

theorem Occurrence.suffix_eq (o : Occurrence) :
    o.suffix = match o with
      | .created => ':' :: 'c' :: ['r', 'e', 'a', 't', 'e', 'd']
      | .elapsed => ':' :: 'e' :: 'l' :: ['a', 'p', 's', 'e', 'd']
      | .event id => ':' :: 'e' :: 'v' :: (['e', 'n', 't', ':'] ++ occurrenceText id)
      | .timer id => ':' :: 't' :: (['i', 'm', 'e', 'r', ':'] ++ occurrenceText id) := by
  cases o <;> rfl

theorem Occurrence.suffix_inj {o o' : Occurrence} (h : o.suffix = o'.suffix) : o = o' := by
  rw [Occurrence.suffix_eq, Occurrence.suffix_eq] at h
  cases o with
  | created | elapsed => cases o' <;> simp at h ⊢
  | event id =>
    cases o' with
    | event id' =>
      have htext : occurrenceText id = occurrenceText id' := by simpa using h
      rw [occurrenceText_inj htext]
    | created | elapsed | timer => simp at h
  | timer id =>
    cases o' with
    | timer id' =>
      have htext : occurrenceText id = occurrenceText id' := by simpa using h
      rw [occurrenceText_inj htext]
    | created | elapsed | event => simp at h

theorem Occurrence.key_inj {o o' : Occurrence} (h : o.key ticketId = o'.key ticketId') :
    ticketId = ticketId' ∧ o = o' := by
  have htext := List.append_cancel_left (String.ofList_injective h)
  obtain ⟨hticket, hsuffix⟩ := List.append_inj htext (by rw [write_length, write_length])
  exact ⟨write_inj hticket, Occurrence.suffix_inj hsuffix⟩

theorem workflowDedupeKey_inj (h : workflowDedupeKey t = workflowDedupeKey t') :
    t.ticketId = t'.ticketId ∧ t.occurrence = t'.occurrence :=
  Occurrence.key_inj h

/-- Everything a condition can read about one ticket. -/
structure WorkflowFacts where
  status : TicketStatus
  priority : TicketPriority
  assignedUserId : Option Uuid
  assignedTeamId : Option Uuid
  ageMinutes : Int
  ticketTagIds : List Uuid
  /-- `none` when the ticket has no contact. -/
  contactTagIds : Option (List Uuid)
  /-- `none` when the question cannot be answered. -/
  withinBusinessHours : Option Bool

structure WorkflowFactsNeeded where
  ticketTags : Bool
  contactTags : Bool
  businessHours : Bool

def WorkflowCondition.readsTicketTags : WorkflowCondition → Bool
  | .ticketTag .. => true
  | _ => false

def WorkflowCondition.readsContactTags : WorkflowCondition → Bool
  | .contactTag .. => true
  | _ => false

def WorkflowCondition.readsBusinessHours : WorkflowCondition → Bool
  | .businessHours _ => true
  | _ => false

def factsNeededBy (conditions : List WorkflowCondition) : WorkflowFactsNeeded where
  ticketTags := conditions.any (·.readsTicketTags)
  contactTags := conditions.any (·.readsContactTags)
  businessHours := conditions.any (·.readsBusinessHours)

def mergeFactsNeeded (needed : List WorkflowFactsNeeded) : WorkflowFactsNeeded where
  ticketTags := needed.any (·.ticketTags)
  contactTags := needed.any (·.contactTags)
  businessHours := needed.any (·.businessHours)

inductive WorkflowConditionUnreadableReason where
  | noContact
  | businessHoursUnconfigured

structure ConditionVerdict where
  held : Bool
  unreadable : Option WorkflowConditionUnreadableReason

def held (value : Bool) : ConditionVerdict := ⟨value, none⟩

def inSet {α : Type} [DecidableEq α] (operator : WorkflowSetOperator) (values : List α) (value : α) : Bool :=
  match operator with
  | .in => values.contains value
  | .notIn => !values.contains value

/-- An absent id means any. -/
def assignmentMatches (state : WorkflowAssignmentState) (teamId userId : Option Uuid) (facts : WorkflowFacts) : Bool :=
  match state with
  | .unassigned => facts.assignedUserId = none ∧ facts.assignedTeamId = none
  | .assignedToUser => facts.assignedUserId.any fun assigned => userId = none ∨ userId = some assigned
  | .assignedToTeam => facts.assignedTeamId.any fun assigned => teamId = none ∨ teamId = some assigned

def tagMatches (operator : WorkflowMatchOperator) (tagIds carried : List Uuid) : Bool :=
  match operator with
  | .any => tagIds.any carried.contains
  | .all => tagIds.all carried.contains
  | .none => !tagIds.any carried.contains

def ageMatches (operator : WorkflowNumberOperator) (minutes : Nat) (ageMinutes : Int) : Bool :=
  match operator with
  | .gte => minutes ≤ ageMinutes
  | .lte => ageMinutes ≤ minutes

def evaluateCondition (condition : WorkflowCondition) (facts : WorkflowFacts) : ConditionVerdict :=
  match condition with
  | .ticketStatus operator values => held (inSet operator values facts.status)
  | .ticketPriority operator values => held (inSet operator values facts.priority)
  | .ticketAssignment state teamId userId => held (assignmentMatches state teamId userId facts)
  | .ticketTag operator tagIds => held (tagMatches operator tagIds facts.ticketTagIds)
  | .contactTag operator tagIds =>
    match facts.contactTagIds with
    | none => ⟨false, some .noContact⟩
    | some carried => held (tagMatches operator tagIds carried)
  | .ticketAge operator minutes => held (ageMatches operator minutes facts.ageMinutes)
  | .businessHours within =>
    match facts.withinBusinessHours with
    | none => ⟨false, some .businessHoursUnconfigured⟩
    | some value => held (value = within)

def workflowMatches (conditions : List WorkflowCondition) (facts : WorkflowFacts) : Bool :=
  conditions.all fun condition => (evaluateCondition condition facts).held

end WhatsappCrm.Workflows
