/-
Purpose: `WorkflowRunService.test` (`workflows/workflow-run.service.ts`): a workflow's conditions and actions foretold
  on a real ticket.
-/
import WhatsappCrm.Workflows.Outcomes

namespace WhatsappCrm.Workflows

open Interleaving Table

inductive WorkflowTestError where
  | workflowNotFound (workflowId : Uuid)
  | ticketNotFound (ticketId : Uuid)
  | malformedDefinition (workflowId : Uuid)
  | database (error : WorkflowError)

abbrev WorkflowTestM := Throwing WorkflowStmt WorkflowDb WorkflowTestError

structure WorkflowTestCondition where
  index : Nat
  condition : WorkflowCondition
  held : Bool
  reason : Option WorkflowConditionUnreadableReason

structure WorkflowTestAction where
  index : Nat
  action : WorkflowAction
  outcome : WorkflowActionOutcome
deriving DecidableEq

structure WorkflowTestResponse where
  matched : Bool
  conditions : List WorkflowTestCondition
  actions : List WorkflowTestAction

/-- `wouldChangeAnything`: of an assignment and of a notification it is not worked out. -/
def wouldChangeAnything (action : WorkflowAction) (facts : WorkflowFacts) : Bool :=
  match action with
  | .setStatus status => status ≠ facts.status
  | .setPriority priority => priority ≠ facts.priority
  | .addTicketTag tagId => !facts.ticketTagIds.contains tagId
  | .reassign _ | .notify .. => true

def predictedOutcome (facts : WorkflowFacts) (action : WorkflowAction) : WorkflowActionOutcome :=
  if wouldChangeAnything action facts then .applied else .noOp

def testResponse (definition : WorkflowDefinition) (facts : WorkflowFacts) : WorkflowTestResponse :=
  let matched := workflowMatches definition.conditions facts
  { matched
    conditions := definition.conditions.mapIdx fun index condition =>
      { index
        condition
        held := (evaluateCondition condition facts).held
        reason := (evaluateCondition condition facts).unreadable }
    actions :=
      if matched then definition.actions.mapIdx fun index action => ⟨index, action, predictedOutcome facts action⟩
      else [] }

/-- `loadFacts` of the dry run: whatever fails is the ticket not found. -/
def loadTestFacts (tenantId ticketId : Uuid) (conditions : List WorkflowCondition) : WorkflowTestM WorkflowFacts :=
  Throwing.rethrow (fun _ => .ticketNotFound ticketId)
    (loadFacts (rootTrigger tenantId ticketId .ticketCreated none) { factsNeededBy conditions with ticketTags := true })

def WorkflowDb.findWorkflow (db : WorkflowDb) (tenantId workflowId : Uuid) : Option Workflow :=
  db.workflows.find? fun w => w.tenantId = tenantId ∧ w.id = workflowId

def test (tenantId : Uuid) (principal : SessionPrincipal) (workflowId ticketId : Uuid) :
    WorkflowTestM WorkflowTestResponse := do
  let found ← Throwing.rethrow .database (query .loadCandidates fun db => db.findWorkflow tenantId workflowId)
  match found with
  | none => throw (.workflowNotFound workflowId)
  | some row =>
    if !principal.permissions.contains .ticketReadAll then throw (.ticketNotFound ticketId)
    else
      match readDefinition row with
      | none => throw (.malformedDefinition row.id)
      | some definition => do
        let facts ← loadTestFacts tenantId ticketId definition.conditions
        pure (testResponse definition facts)

def SameTables (db db' : WorkflowDb) : Prop := db' = { db with faults := db'.faults }

theorem SameTables.sent {db₀ db : WorkflowDb} (h : SameTables db₀ db) : SameTables db₀ db.sent := by
  rw [SameTables, WorkflowDb.sent, h]

section Reads

variable {α : Type} {tag : WorkflowStmt}

abbrev OnlyReads {ε : Type} (p : Throwing WorkflowStmt WorkflowDb ε α) : Prop :=
  p.run.Within (fun _ => True) fun _ db db' => db' = db.sent

theorem query_reads (f : WorkflowDb → α) : OnlyReads (query tag f) := within_query fun _ _ => rfl

theorem loadFacts_reads (trigger : WorkflowEvaluateTicketTrigger) (needed : WorkflowFactsNeeded) :
    OnlyReads (loadFacts trigger needed) := by
  apply Prog.Within.throwing_bind
  · apply Prog.Within.throwing_bind (query_reads _)
    intro found
    cases found <;> trivial
  · intro read
    apply Prog.Within.throwing_bind
    · unfold readTicketTagIds
      split
      · exact query_reads _
      · trivial
    · intro ticketTagIds
      apply Prog.Within.throwing_bind
      · unfold readContactTagIds
        split
        · trivial
        · split
          · exact query_reads _
          · trivial
      · intro contactTagIds
        apply Prog.Within.throwing_bind
        · unfold readWithinBusinessHours
          split
          · exact query_reads _
          · trivial
        · exact fun _ => trivial

theorem test_reads (tenantId : Uuid) (principal : SessionPrincipal) (workflowId ticketId : Uuid) :
    OnlyReads (test tenantId principal workflowId ticketId) := by
  apply Prog.Within.throwing_bind (Prog.Within.throwing_rethrow (query_reads _))
  intro found
  cases found with
  | none => trivial
  | some =>
    dsimp only
    split
    · trivial
    · split
      · trivial
      · apply Prog.Within.throwing_bind (Prog.Within.throwing_rethrow (loadFacts_reads _ _))
        exact fun _ => trivial

end Reads

theorem test_writes_nothing (tenantId : Uuid) (principal : SessionPrincipal) (workflowId ticketId : Uuid)
    (db : WorkflowDb) : SameTables db ((test tenantId principal workflowId ticketId).run.alone db).2 := by
  have hkeep : ∀ (tag : WorkflowStmt) (s s' : WorkflowDb), True → SameTables db s → s' = s.sent →
      True ∧ SameTables db s' := by
    rintro tag s _ _ hs rfl
    exact ⟨trivial, hs.sent⟩
  have hself : SameTables db db := rfl
  exact (Prog.Within.alone hkeep (test_reads tenantId principal workflowId ticketId) trivial hself).2

structure FactsOf (tenantId ticketId : Uuid) (db : WorkflowDb) (facts : WorkflowFacts) : Prop where
  ticket : ∃ t, db.findTicket tenantId ticketId = some t ∧ facts.status = t.status ∧ facts.priority = t.priority
  tags : ∀ tagId, tagId ∈ facts.ticketTagIds ↔ (⟨tenantId, ticketId, tagId⟩ : TicketTag) ∈ db.ticketTags

variable {before : Ticket}

section Alone

variable {α : Type} {tag : WorkflowStmt}

theorem transaction_alone (tag : WorkflowStmt) (body : WorkflowDb → Except WorkflowError (α × WorkflowDb)) (db : WorkflowDb) :
    (∃ e, (transaction tag body).run.alone db = (.error e, db.sent)) ∨
      ∃ a db', body db.sent = .ok (a, db') ∧ (transaction tag body).run.alone db = (.ok a, db') :=
  db.transact_cases body

theorem query_alone (tag : WorkflowStmt) (f : WorkflowDb → α) (db : WorkflowDb) :
    (∃ e, (query tag f).run.alone db = (.error e, db.sent)) ∨
      (query tag f).run.alone db = (.ok (f db.sent), db.sent) := by
  rcases transaction_alone tag (fun db => .ok (f db, db)) db with herror | ⟨a, db', hbody, halone⟩
  · exact .inl herror
  · cases hbody
    exact .inr halone

theorem of_query_alone {db db' : WorkflowDb}
    (h : (query tag f).run.alone db = (.ok a, db')) : a = f db.sent ∧ db' = db.sent := by
  rcases query_alone tag f db with ⟨e, herror⟩ | hfound
  · rw [herror] at h
    cases h
  · rw [hfound] at h
    cases h
    exact ⟨rfl, rfl⟩

theorem loadTicket_alone {db db' : WorkflowDb} {read : Ticket × Int}
    (h : (loadTicket trigger).run.alone db = (.ok read, db')) :
    db.findTicket trigger.tenantId trigger.ticketId = some read.1 ∧ db' = db.sent := by
  obtain ⟨found, db₁, hquery, hrest⟩ := Throwing.of_alone_bind h
  obtain ⟨rfl, rfl⟩ := of_query_alone hquery
  cases hfound : db.findTicket trigger.tenantId trigger.ticketId with
  | none =>
    rw [show db.sent.findTicket trigger.tenantId trigger.ticketId = none from hfound] at hrest
    cases hrest
  | some t =>
    rw [show db.sent.findTicket trigger.tenantId trigger.ticketId = some t from hfound] at hrest
    cases hrest
    exact ⟨rfl, rfl⟩

theorem loadFacts_alone {needed : WorkflowFactsNeeded} {db db' : WorkflowDb}
    {facts : WorkflowFacts} (hneeded : needed.ticketTags = true)
    (h : (loadFacts trigger needed).run.alone db = (.ok facts, db')) :
    FactsOf trigger.tenantId trigger.ticketId db facts := by
  obtain ⟨read, db₁, hread, h⟩ := Throwing.of_alone_bind h
  obtain ⟨hticket, rfl⟩ := loadTicket_alone hread
  obtain ⟨ticketTagIds, db₂, htags, h⟩ := Throwing.of_alone_bind h
  rw [readTicketTagIds, if_pos hneeded] at htags
  obtain ⟨rfl, rfl⟩ := of_query_alone htags
  obtain ⟨contactTagIds, db₃, _, h⟩ := Throwing.of_alone_bind h
  obtain ⟨withinBusinessHours, db₄, _, h⟩ := Throwing.of_alone_bind h
  have hid : read.1.id = trigger.ticketId := by
    exact (of_find? hticket).2.1
  cases h
  constructor
  · exact ⟨read.1, hticket, rfl, rfl⟩
  · intro tagId
    simp only [List.mem_map, List.mem_filter, decide_eq_true_eq, hid]
    constructor
    · rintro ⟨r, ⟨hmem, htenant, hticketId⟩, rfl⟩
      rw [← htenant, ← hticketId]
      exact hmem
    · intro hmem
      exact ⟨_, ⟨hmem, rfl, rfl⟩, rfl⟩

end Alone

inductive TicketField where
  | status
  | priority
  | tag (tagId : Uuid)
deriving DecidableEq

def WorkflowAction.field? : WorkflowAction → Option TicketField
  | .setStatus _ => some .status
  | .setPriority _ => some .priority
  | .addTicketTag tagId => some (.tag tagId)
  | .reassign _ | .notify .. => none

def SameField (tenantId ticketId : Uuid) (db db' : WorkflowDb) : TicketField → Prop
  | .status => (db'.findTicket tenantId ticketId).map Ticket.status = (db.findTicket tenantId ticketId).map Ticket.status
  | .priority =>
    (db'.findTicket tenantId ticketId).map Ticket.priority = (db.findTicket tenantId ticketId).map Ticket.priority
  | .tag tagId =>
    (⟨tenantId, ticketId, tagId⟩ : TicketTag) ∈ db'.ticketTags ↔ (⟨tenantId, ticketId, tagId⟩ : TicketTag) ∈ db.ticketTags

structure SameBut (except : TicketField → Prop) (tenantId ticketId : Uuid) (db db' : WorkflowDb) : Prop where
  present : (db'.findTicket tenantId ticketId).isSome = (db.findTicket tenantId ticketId).isSome
  lookups : db'.lookups = db.lookups
  field : ∀ field, ¬ except field → SameField tenantId ticketId db db' field

section Frame

variable {action : WorkflowAction} {tenantId ticketId : Uuid}

theorem SameField.refl (db : WorkflowDb) (field : TicketField) : SameField tenantId ticketId db db field := by
  cases field with
  | status | priority => exact rfl
  | tag => exact Iff.rfl

theorem SameField.trans {field : TicketField} (h : SameField tenantId ticketId db₁ db₂ field)
    (h' : SameField tenantId ticketId db₂ db₃ field) : SameField tenantId ticketId db₁ db₃ field := by
  cases field with
  | status | priority => exact Eq.trans h' h
  | tag => exact Iff.trans h' h

theorem SameBut.refl (db : WorkflowDb) : SameBut except tenantId ticketId db db :=
  ⟨rfl, rfl, fun field _ => .refl db field⟩

theorem SameBut.trans (h : SameBut except tenantId ticketId db₁ db₂)
    (h' : SameBut except tenantId ticketId db₂ db₃) : SameBut except tenantId ticketId db₁ db₃ where
  present := h'.present.trans h.present
  lookups := h'.lookups.trans h.lookups
  field field hnot := (h.field field hnot).trans (h'.field field hnot)

theorem SameBut.sent (db : WorkflowDb) : SameBut except tenantId ticketId db db.sent :=
  ⟨rfl, rfl, fun field _ => by
    cases field with
    | status | priority => exact rfl
    | tag => exact Iff.rfl⟩

theorem insertEvent_eq {db db' : WorkflowDb} {id : Uuid} (h : db.insertEvent event = .ok (id, db')) :
    db' = { db with ticketEvents := db'.ticketEvents, uuids := db'.uuids } := by
  unfold WorkflowDb.insertEvent at h
  split at h
  · cases h
  · split at h
    · cases h
    · cases h
      rfl

theorem writeAutomationField_eq {change : TicketChange} {db db' : WorkflowDb}
    (h : writeAutomationField before change context db = .ok (written, db')) : db' = { db with
      tickets := updateWhere (unchangedStatus before) (toUpdateData change none db.now) db.tickets
      ticketEvents := db'.ticketEvents
      uuids := db'.uuids } := by
  unfold writeAutomationField at h
  split at h
  · cases h
  · rename_i db₁ hupdate
    cases h
    obtain ⟨_, rfl, _⟩ := updateTickets_ok hupdate
    rfl
  · rename_i count db₁ _ hupdate
    obtain ⟨_, rfl, _⟩ := updateTickets_ok hupdate
    split at h
    · cases h
      rfl
    · split at h
      · cases h
      · rename_i hinsert
        cases h
        exact insertEvent_eq hinsert

theorem writeAutomationAssignment_eq {db db' : WorkflowDb}
    (h : writeAutomationAssignment before assignment context db = .ok (written, db')) : db' = { db with
      tickets := updateWhere (sameTicket before) (setAssignment assignment) db.tickets
      ticketEvents := db'.ticketEvents
      uuids := db'.uuids } := by
  unfold writeAutomationAssignment at h
  split at h
  · cases h
  · rename_i db₁ hupdate
    cases h
    obtain ⟨_, rfl, _⟩ := updateTickets_ok hupdate
    rfl
  · rename_i count db₁ _ hupdate
    obtain ⟨_, rfl, _⟩ := updateTickets_ok hupdate
    split at h
    · cases h
    · rename_i hinsert
      cases h
      exact insertEvent_eq hinsert

theorem map_findTicket_updateWhere {α : Type} {column : Ticket → α}
    {db db' : WorkflowDb} (hdb : db'.tickets = updateWhere p f db.tickets)
    (hid : ∀ t, (f t).id = t.id ∧ (f t).tenantId = t.tenantId) (hcolumn : ∀ t, column (f t) = column t) :
    (db'.findTicket tenantId ticketId).map column = (db.findTicket tenantId ticketId).map column := by
  have hkey : ∀ t, (decide ((f t).id = ticketId ∧ (f t).tenantId = tenantId)) =
      decide (t.id = ticketId ∧ t.tenantId = tenantId) := by
    intro t
    rw [(hid t).1, (hid t).2]
  rw [WorkflowDb.findTicket, hdb, find?_updateWhere hkey, Option.map_map]
  apply Option.map_congr
  intro t _
  simp only [Function.comp_apply]
  split
  · exact hcolumn t
  · rfl

theorem SameBut.of_update {p : Ticket → Bool} {db db' : WorkflowDb} (heq : db' = { db with
      tickets := updateWhere p f db.tickets
      ticketEvents := db'.ticketEvents
      uuids := db'.uuids })
    (hid : ∀ t, (f t).id = t.id ∧ (f t).tenantId = t.tenantId)
    (hstatus : ¬ except .status → ∀ t, (f t).status = t.status)
    (hpriority : ¬ except .priority → ∀ t, (f t).priority = t.priority) :
    SameBut except tenantId ticketId db db' := by
  have htickets : db'.tickets = updateWhere p f db.tickets := by rw [heq]
  constructor
  · have hsame : (db'.findTicket tenantId ticketId).map Ticket.id = (db.findTicket tenantId ticketId).map Ticket.id :=
      map_findTicket_updateWhere htickets hid fun t => (hid t).1
    rw [← Option.isSome_map, hsame, Option.isSome_map]
  · rw [heq]
  · intro field hnot
    cases field with
    | status => exact map_findTicket_updateWhere htickets hid (hstatus hnot)
    | priority => exact map_findTicket_updateWhere htickets hid (hpriority hnot)
    | tag => rw [SameField, heq]

theorem ActionWrite.sameBut {db db' : WorkflowDb} (h : ActionWrite action context db db') :
    SameBut (fun field => action.field? = some field) tenantId ticketId db db' := by
  cases h with
  | nothing => exact .sent db
  | ticket hchange h =>
    rename_i change before written
    apply (SameBut.sent db).trans
    cases change with
    | assignment =>
      exact .of_update (writeAutomationAssignment_eq h) (fun _ => ⟨rfl, rfl⟩) (fun _ _ => rfl) (fun _ _ => rfl)
    | priority priority =>
      have hset : action.field? = some .priority := by
        cases action with
        | setPriority => rfl
        | reassign target => cases target <;> cases hchange
        | _ => cases hchange
      exact .of_update (writeAutomationField_eq h) (fun _ => ⟨rfl, rfl⟩) (fun _ _ => rfl) (fun hnot => absurd hset hnot)
    | status status =>
      have hset : action.field? = some .status := by
        cases action with
        | setStatus => rfl
        | reassign target => cases target <;> cases hchange
        | _ => cases hchange
      exact .of_update (writeAutomationField_eq h) (fun _ => ⟨rfl, rfl⟩) (fun hnot => absurd hset hnot) (fun _ _ => rfl)
  | tag haction h =>
    rename_i tagId count
    apply (SameBut.sent db).trans
    unfold insertTicketTag at h
    split at h
    · cases h
      exact .refl db.sent
    · split at h
      · cases h
        refine ⟨rfl, rfl, ?_⟩
        intro field hnot
        cases field with
        | status | priority => exact rfl
        | tag other =>
          constructor
          · intro hmem
            rcases mem_snoc.mp hmem with hold | hnew
            · exact hold
            · have hother : other = tagId := congrArg TicketTag.tagId hnew
              exact absurd (by rw [haction, hother]; rfl) hnot
          · exact List.mem_append_left _
      · cases h
  | notifications =>
    obtain ⟨_, hadded⟩ := insertNotifications_adds _ db.sent
    rw [hadded]
    refine ⟨rfl, rfl, ?_⟩
    intro field _
    cases field with
    | status | priority => exact rfl
    | tag => exact Iff.rfl

end Frame

/-- What an action that sets a field answers when nobody writes beside it: what the ticket had decides. -/
inductive AnsweredAlone (action : WorkflowAction) (context : ActionContext) (db db' : WorkflowDb) : ActionOutcome → Prop
  | held (h : Holds action context db) (hsame : SameTables db db') : AnsweredAlone action context db db' ⟨.noOp, none, none⟩
  | applied {occurrence : Option RaisedOccurrence} (h : ¬ Holds action context db) :
      AnsweredAlone action context db db' ⟨.applied, none, occurrence⟩
  | refused {status : TicketStatus} {t : Ticket} (haction : action = .setStatus status)
      (hread : db.findTicket context.tenantId context.ticketId = some t) (hmoved : t.status ≠ status)
      (hrefused : canAgentTransition t.status status = false) :
      AnsweredAlone action context db db' ⟨.failed, some .transitionRefused, none⟩
  | missing {tagId : Uuid} (haction : action = .addTicketTag tagId) (h : ¬ Holds action context db)
      (htag : (context.tenantId, tagId) ∉ db.lookups.tags) :
      AnsweredAlone action context db db' ⟨.failed, some .referenceMissing, none⟩
  | raised : AnsweredAlone action context db db' ⟨.failed, some .internalError, none⟩

section AnsweredAlone

variable {db : WorkflowDb}

theorem applyAutomationField_alone (fields : TicketChange) (raises : Option WorkflowTriggerType)
    (hread : db.findTicket context.tenantId context.ticketId = some before)
    (hevents : changeEvents before fields none (.workflow context.automation) ≠ []) :
    (∃ e db', (applyAutomationField before fields context raises).run.alone db = (.error e, db')) ∨
      ∃ occurrence db', (applyAutomationField before fields context raises).run.alone db =
        (.ok ⟨.applied, occurrence⟩, db') := by
  rcases transaction_alone .action (writeAutomationField before fields context) db with
    ⟨e, herror⟩ | ⟨written, db', hbody, halone⟩
  · exact .inl ⟨e, _, Throwing.alone_bind_error herror⟩
  · rcases writeAutomationField_cases hevents hbody with ⟨_, _, hlost⟩ | ⟨⟨eventId, rfl⟩, _⟩
    · have hmissed := hlost before (List.mem_of_find?_eq_some hread)
      simp [unchangedStatus] at hmissed
    · exact .inr ⟨_, db', Throwing.alone_bind halone⟩

variable {change : TicketAutomationChange} {t : Ticket}

/-- The ticket service alone: what the ticket had decides between its answers, unless the database raises. -/
theorem applyAutomation_alone (hcompares : comparesStatus change = true)
    (hread : db.findTicket context.tenantId context.ticketId = some t) :
    (∃ e db', (applyAutomation change context).run.alone db = (.error e, db')) ∨
      ∃ result db', (applyAutomation change context).run.alone db = (.ok result, db') ∧
        (result = noOccurrence .noOp ∧ HeldBy t change ∧ SameTables db db' ∨
          (∃ occurrence, result = ⟨.applied, occurrence⟩) ∧ ¬ HeldBy t change ∨
            result = noOccurrence .transitionRefused ∧ ∃ status, change = .status status ∧ t.status ≠ status ∧
              canAgentTransition t.status status = false) := by
  have hsent : db.sent.findTicket context.tenantId context.ticketId = some t := hread
  rcases query_alone .action (fun db => db.findTicket context.tenantId context.ticketId) db with
    ⟨e, herror⟩ | hfound
  · exact .inl ⟨e, _, Throwing.alone_bind_error herror⟩
  · rw [applyAutomation, Throwing.alone_bind hfound, hsent]
    cases change with
    | assignment => cases hcompares
    | priority priority =>
      dsimp only
      split
      · rename_i hheld
        exact .inr ⟨_, _, rfl, .inl ⟨rfl, hheld.symm, rfl⟩⟩
      · rename_i hmoved
        rcases applyAutomationField_alone { priority := some priority } none hsent (by simp [changeEvents]) with
          herror | ⟨occurrence, db', happlied⟩
        · exact .inl herror
        · exact .inr ⟨_, db', happlied, .inr (.inl ⟨⟨occurrence, rfl⟩, fun heq => hmoved heq.symm⟩)⟩
    | status status =>
      dsimp only
      split
      · rename_i hheld
        exact .inr ⟨_, _, rfl, .inl ⟨rfl, hheld.symm, rfl⟩⟩
      · rename_i hmoved
        have hne : t.status ≠ status := fun heq => hmoved heq.symm
        split
        · rename_i hrefused
          exact .inr ⟨_, _, rfl, .inr (.inr ⟨rfl, status, rfl, hne, by simpa using hrefused⟩)⟩
        · rcases applyAutomationField_alone { status := some status } (some .ticketStatusChanged) hsent
            (by simp [changeEvents]) with herror | ⟨occurrence, db', happlied⟩
          · exact .inl herror
          · exact .inr ⟨_, db', happlied, .inr (.inl ⟨⟨occurrence, rfl⟩, hne⟩)⟩

theorem holdsChange_iff (hread : db.findTicket context.tenantId context.ticketId = some t) : HoldsChange change context db ↔ HeldBy t change := by
  constructor
  · rintro ⟨t', hfound, hheld⟩
    rw [hread] at hfound
    cases hfound
    exact hheld
  · exact fun hheld => ⟨t, hread, hheld⟩

theorem perform_change_alone {action : WorkflowAction} (hperform : perform action context = do
      let result ← applyAutomation change context
      pure (fromTicketOutcome result))
    (hcompares : comparesStatus change = true) (hholds : ∀ db, HoldsChange change context db ↔ Holds action context db)
    (hstatus : ∀ status, change = .status status → action = .setStatus status)
    (hread : db.findTicket context.tenantId context.ticketId = some t) :
    (∃ e db', (perform action context).run.alone db = (.error e, db')) ∨
      ∃ outcome db', (perform action context).run.alone db = (.ok outcome, db') ∧
        AnsweredAlone action context db db' outcome := by
  rw [hperform]
  rcases applyAutomation_alone hcompares hread with ⟨e, db', herror⟩ | ⟨result, db', hok, hresult⟩
  · exact .inl ⟨e, db', Throwing.alone_bind_error herror⟩
  · right
    refine ⟨_, db', Throwing.alone_bind hok, ?_⟩
    have hheld : Holds action context db ↔ HeldBy t change := (hholds db).symm.trans (holdsChange_iff hread)
    rcases hresult with ⟨rfl, h, hsame⟩ | ⟨⟨occurrence, rfl⟩, h⟩ | ⟨rfl, status, hchange, hne, hrefused⟩
    · exact .held (hheld.mpr h) hsame
    · exact .applied fun hholds => h (hheld.mp hholds)
    · exact .refused (hstatus status hchange) hread hne hrefused

theorem transact_error {α : Type} {body : WorkflowDb → Except WorkflowError (α × WorkflowDb)}
    {db' : WorkflowDb} (h : db.transact body = (.error e, db')) : e = .unavailable ∨ body db.sent = .error e := by
  unfold WorkflowDb.transact at h
  split at h
  · split at h
    · cases h
    · rename_i heq
      cases h
      exact .inr heq
  · cases h
    exact .inl rfl

theorem insertTicketTag_error {tagId : Uuid} (hticket : (db.findTicket context.tenantId context.ticketId).isSome)
    (h : insertTicketTag ⟨context.tenantId, context.ticketId, tagId⟩ db = .error e) :
    ¬ Holds (.addTicketTag tagId) context db ∧ (context.tenantId, tagId) ∉ db.lookups.tags := by
  unfold insertTicketTag at h
  split at h
  · cases h
  · rename_i hmissing
    split at h
    · cases h
    · rename_i hforeign
      constructor
      · exact fun hmem => hmissing (List.contains_iff_mem.mpr hmem)
      · intro htag
        apply hforeign
        rw [Bool.and_eq_true]
        exact ⟨List.contains_iff_mem.mpr htag, hticket⟩

theorem addTicketTag_alone {tagId : Uuid} (hticket : (db.findTicket context.tenantId context.ticketId).isSome) :
    (∃ e db', (addTicketTag tagId context).run.alone db = (.error e, db')) ∨
      ∃ outcome db', (addTicketTag tagId context).run.alone db = (.ok outcome, db') ∧
        AnsweredAlone (.addTicketTag tagId) context db db' outcome := by
  rcases transaction_alone .action (insertTicketTag ⟨context.tenantId, context.ticketId, tagId⟩) db with
    ⟨e, herror⟩ | ⟨count, db', hbody, halone⟩
  · have hrescued : (addTicketTag tagId context).run.alone db =
        (if e = .foreignKeyViolation then pure referenceMissing else throw e : WorkflowM ActionOutcome).run.alone db.sent :=
      Throwing.alone_rescue_error (Throwing.alone_bind_error herror)
    by_cases hforeign : e = .foreignKeyViolation
    · right
      rw [if_pos hforeign] at hrescued
      rcases transact_error herror with hunavailable | hbody
      · rw [hforeign] at hunavailable
        cases hunavailable
      · have hsent : (db.sent.findTicket context.tenantId context.ticketId).isSome := hticket
        obtain ⟨hunheld, htag⟩ := insertTicketTag_error hsent hbody
        exact ⟨_, _, hrescued, .missing rfl hunheld htag⟩
    · rw [if_neg hforeign] at hrescued
      exact .inl ⟨e, _, hrescued⟩
  · right
    have hok : (addTicketTag tagId context).run.alone db = (.ok (insertOutcome count), db') :=
      Throwing.alone_rescue (Throwing.alone_bind halone)
    refine ⟨_, db', hok, ?_⟩
    unfold insertTicketTag at hbody
    split at hbody
    · rename_i hcarried
      cases hbody
      exact .held (List.contains_iff_mem.mp hcarried) rfl
    · rename_i hmissing
      split at hbody
      · cases hbody
        exact .applied fun hmem => hmissing (List.contains_iff_mem.mpr hmem)
      · cases hbody

theorem execute_alone {action : WorkflowAction} {field : TicketField} (hfield : action.field? = some field)
    (hticket : (db.findTicket context.tenantId context.ticketId).isSome) :
    ∃ outcome db', (execute action context).run.alone db = (.ok outcome, db') ∧
      AnsweredAlone action context db db' outcome := by
  obtain ⟨t, hread⟩ := Option.isSome_iff_exists.mp hticket
  have hperform : (∃ e db', (perform action context).run.alone db = (.error e, db')) ∨
      ∃ outcome db', (perform action context).run.alone db = (.ok outcome, db') ∧
        AnsweredAlone action context db db' outcome := by
    cases action with
    | setStatus status =>
      exact perform_change_alone rfl rfl (fun _ => Iff.rfl) (fun status hchange => by cases hchange; rfl) hread
    | setPriority => exact perform_change_alone rfl rfl (fun _ => Iff.rfl) nofun hread
    | addTicketTag => exact addTicketTag_alone hticket
    | reassign | notify => cases hfield
  rcases hperform with ⟨e, db', herror⟩ | ⟨outcome, db', hok, hanswered⟩
  · exact ⟨_, db', Throwing.alone_rescue_error herror, .raised⟩
  · exact ⟨outcome, db', Throwing.alone_rescue hok, hanswered⟩

end AnsweredAlone

/-- The failures the dry run does not look for: the table refuses the transition, the tag is not there, the database
    raised. -/
def UnforeseenFailure (tenantId : Uuid) (facts : WorkflowFacts) (tags : List (Uuid × Uuid)) (r : WorkflowActionResult) :
    Prop :=
  (r.reason = some .transitionRefused ∧ ∃ status, r.action = .setStatus status ∧ status ≠ facts.status ∧
      canAgentTransition facts.status status = false) ∨
    (r.reason = some .referenceMissing ∧ ∃ tagId, r.action = .addTicketTag tagId ∧ tagId ∉ facts.ticketTagIds ∧
      (tenantId, tagId) ∉ tags) ∨
    r.reason = some .internalError

def AsForetold (tenantId : Uuid) (facts : WorkflowFacts) (tags : List (Uuid × Uuid)) (r : WorkflowActionResult) : Prop :=
  r.outcome = predictedOutcome facts r.action ∨ r.outcome = .skipped ∨
    r.outcome = .failed ∧ UnforeseenFailure tenantId facts tags r

section Actions

variable {action : WorkflowAction} {field : TicketField} {facts : WorkflowFacts} {db db' : WorkflowDb}

theorem holds_of_sameField (hfield : action.field? = some field)
    (h : SameField context.tenantId context.ticketId db₀ db field) : Holds action context db ↔ Holds action context db₀ := by
  have hcolumn : ∀ {α : Type} (column : Ticket → α) (value : α) (db : WorkflowDb),
      (∃ t, db.findTicket context.tenantId context.ticketId = some t ∧ column t = value) ↔
        (db.findTicket context.tenantId context.ticketId).map column = some value := by
    intro α column value db
    rw [Option.map_eq_some_iff]
  cases action with
  | setStatus | setPriority =>
    cases hfield
    rw [Holds, Holds, HoldsChange, HoldsChange]
    exact (hcolumn _ _ _).trans ((Eq.congr_left h).trans (hcolumn _ _ _).symm)
  | addTicketTag =>
    cases hfield
    exact h
  | reassign | notify => cases hfield

/-- The dry run looks at what decides an action that is executed alone. -/
theorem wouldChangeAnything_eq_false_iff (hfacts : FactsOf context.tenantId context.ticketId db₀ facts)
    (hfield : action.field? = some field) : wouldChangeAnything action facts = false ↔ Holds action context db₀ := by
  obtain ⟨t, hread, hstatus, hpriority⟩ := hfacts.ticket
  cases action with
  | setStatus =>
    rw [Holds, holdsChange_iff hread, HeldBy, ← hstatus, wouldChangeAnything, decide_eq_false_iff_not, not_not]
    exact eq_comm
  | setPriority =>
    rw [Holds, holdsChange_iff hread, HeldBy, ← hpriority, wouldChangeAnything, decide_eq_false_iff_not, not_not]
    exact eq_comm
  | addTicketTag =>
    rw [Holds, ← hfacts.tags]
    simp [wouldChangeAnything]
  | reassign | notify => cases hfield

theorem AnsweredAlone.asForetold (h : AnsweredAlone action context db db' outcome)
    (hfacts : FactsOf context.tenantId context.ticketId db₀ facts) (hfield : action.field? = some field)
    (hsame : SameField context.tenantId context.ticketId db₀ db field) (hlookups : db.lookups = db₀.lookups)
    (index : Nat) :
    AsForetold context.tenantId facts db₀.lookups.tags ⟨index, action, outcome.outcome, outcome.reason⟩ := by
  have hiff := (holds_of_sameField hfield hsame).trans (wouldChangeAnything_eq_false_iff hfacts hfield).symm
  cases h with
  | held h =>
    left
    simp [predictedOutcome, hiff.mp h]
  | applied h =>
    left
    rw [hiff, Bool.not_eq_false] at h
    simp [predictedOutcome, h]
  | refused haction hread hmoved hrefused =>
    rename_i status t
    subst haction
    cases hfield
    obtain ⟨t₀, hread₀, hstatus, _⟩ := hfacts.ticket
    have hcolumn : t.status = facts.status := by
      rw [SameField, hread, hread₀] at hsame
      rw [hstatus]
      exact Option.some.inj hsame
    rw [hcolumn] at hmoved hrefused
    exact .inr (.inr ⟨rfl, .inl ⟨rfl, status, rfl, Ne.symm hmoved, hrefused⟩⟩)
  | missing haction h htag =>
    rename_i tagId
    subst haction
    rw [hlookups] at htag
    refine .inr (.inr ⟨rfl, .inr (.inl ⟨rfl, tagId, rfl, ?_, htag⟩)⟩)
    intro hcarried
    apply h
    rw [holds_of_sameField hfield hsame]
    exact (hfacts.tags tagId).mp hcarried
  | raised => exact .inr (.inr ⟨rfl, .inr (.inr rfl)⟩)

theorem execute_sameBut (action : WorkflowAction) (context : ActionContext) (db : WorkflowDb) :
    SameBut (fun field => action.field? = some field) context.tenantId context.ticketId db
      ((execute action context).run.alone db).2 := by
  have hkeep : ∀ (tag : WorkflowStmt) (s s' : WorkflowDb), True →
      SameBut (fun field => action.field? = some field) context.tenantId context.ticketId db s →
        ActionWrite action context s s' →
          True ∧ SameBut (fun field => action.field? = some field) context.tenantId context.ticketId db s' :=
    fun _ _ _ _ hs hwrite => ⟨trivial, hs.trans hwrite.sameBut⟩
  exact (Prog.Within.alone hkeep (execute_writes action context) trivial (.refl db)).2

theorem execute_answers (action : WorkflowAction) (context : ActionContext) (db : WorkflowDb) :
    ∃ outcome db', (execute action context).run.alone db = (.ok outcome, db') := by
  cases hperform : (perform action context).run.alone db with
  | mk r db' =>
    cases r with
    | ok outcome => exact ⟨outcome, db', Throwing.alone_rescue hperform⟩
    | error => exact ⟨_, db', Throwing.alone_rescue_error hperform⟩

theorem sameBut_after (hfacts : FactsOf context.tenantId context.ticketId db₀ facts)
    (h : SameBut except context.tenantId context.ticketId db₀ db)
    (hexecute : (execute action context).run.alone db = (.ok outcome, db')) (hok : outcome.outcome ≠ .failed) :
    SameBut (fun field => except field ∨ action.field? = some field ∧ wouldChangeAnything action facts = true)
      context.tenantId context.ticketId db₀ db' := by
  have hframe := execute_sameBut action context db
  rw [hexecute] at hframe
  constructor
  · exact hframe.present.trans h.present
  · exact hframe.lookups.trans h.lookups
  · intro field hnot
    obtain ⟨hexcept, hown⟩ := not_or.mp hnot
    have hsame := h.field field hexcept
    by_cases hfield : action.field? = some field
    · have hunchanged : wouldChangeAnything action facts = false := by
        rw [Bool.eq_false_iff]
        exact fun hchanges => hown ⟨hfield, hchanges⟩
      have hholds : Holds action context db :=
        (holds_of_sameField hfield hsame).mpr ((wouldChangeAnything_eq_false_iff hfacts hfield).mp hunchanged)
      have hticket : (db.findTicket context.tenantId context.ticketId).isSome := by
        obtain ⟨t, hread, _⟩ := hfacts.ticket
        rw [h.present, hread]
        rfl
      obtain ⟨outcome', db'', hexecute', hanswered⟩ := execute_alone hfield hticket
      rw [hexecute] at hexecute'
      cases hexecute'
      -- the action found what it asked for, so it left the ticket as it was
      cases hanswered with
      | held _ hsame' =>
        rw [hsame']
        exact hsame.trans (by cases field <;> first | exact rfl | exact Iff.rfl)
      | applied hnot => exact absurd hholds hnot
      | refused | missing | raised => exact absurd rfl hok
    · exact hsame.trans (hframe.field field hfield)

end Actions

theorem executeFrom_alone (candidate : CandidateWorkflow) (runId : Uuid)
    {facts : WorkflowFacts} {db₀ : WorkflowDb} (hfacts : FactsOf trigger.tenantId trigger.ticketId db₀ facts)
    (actions : List WorkflowAction) (index : Nat) (done : ActionsDone) (db : WorkflowDb) (except : TicketField → Prop)
    (h : done.failure = none → SameBut except trigger.tenantId trigger.ticketId db₀ db) :
    ∃ done' db', (executeFrom trigger candidate runId index done actions).run.alone db = (.ok done', db') ∧
      ∃ results, done'.results = done.results ++ results ∧
        ∀ (k : Nat) (action : WorkflowAction) (field : TicketField), actions[k]? = some action →
          action.field? = some field → ¬ except field →
          (∀ (j : Nat) (earlier : WorkflowAction), j < k → actions[j]? = some earlier → earlier.field? = some field →
            wouldChangeAnything earlier facts = false) →
          ∃ r, results[k]? = some r ∧ r.index = index + k ∧ r.action = action ∧
            AsForetold trigger.tenantId facts db₀.lookups.tags r := by
  induction actions generalizing index done db except with
  | nil => exact ⟨done, db, rfl, [], by simp, nofun⟩
  | cons action actions ih =>
    cases hfailure : done.failure with
    | some =>
      have hskip : done.failure.isSome = true := by rw [hfailure]; rfl
      have hstill : (done.skip index action).failure = none → SameBut except trigger.tenantId trigger.ticketId db₀ db := by
        intro hnone
        exact absurd (hfailure.symm.trans hnone) nofun
      obtain ⟨done', db', halone, results, hresults, hforetold⟩ := ih (index + 1) _ _ _ hstill
      refine ⟨done', db', ?_, ⟨index, action, .skipped, none⟩ :: results, ?_, ?_⟩
      · rw [executeFrom, if_pos hskip]
        exact halone
      · rw [hresults, ActionsDone.skip, List.append_assoc, List.singleton_append]
      · intro k action' field hk hfield hexcept hearlier
        cases k with
        | zero =>
          cases hk
          exact ⟨_, rfl, rfl, rfl, .inr (.inl rfl)⟩
        | succ k =>
          obtain ⟨r, hr, hindex, haction, hr'⟩ := hforetold k action' field hk hfield hexcept
            fun j earlier hj => hearlier (j + 1) earlier (Nat.succ_lt_succ hj)
          exact ⟨r, hr, by omega, haction, hr'⟩
    | none =>
      have hrunning : ¬ done.failure.isSome = true := by rw [hfailure]; exact nofun
      let db₁ : WorkflowDb := { db with log := db.log ++ [.executed runId candidate.id trigger index] }
      let context : ActionContext :=
        { tenantId := trigger.tenantId
          ticketId := trigger.ticketId
          workflowId := candidate.id
          workflowRunId := runId
          actionIndex := index }
      have hbefore : SameBut except trigger.tenantId trigger.ticketId db₀ db₁ := by
        refine (h hfailure).trans ⟨rfl, rfl, ?_⟩
        intro field _
        cases field <;> first | exact rfl | exact Iff.rfl
      obtain ⟨outcome, db₂, hexecute⟩ := execute_answers action context db₁
      have hafter : (done.add index action outcome).failure = none →
          SameBut (fun field => except field ∨ action.field? = some field ∧ wouldChangeAnything action facts = true)
            trigger.tenantId trigger.ticketId db₀ db₂ := by
        intro hnone
        apply sameBut_after hfacts hbefore hexecute
        intro hfailed
        simp [ActionsDone.add, hfailed] at hnone
      obtain ⟨done', db', halone, results, hresults, hforetold⟩ := ih (index + 1) _ _ _ hafter
      refine ⟨done', db', ?_, ⟨index, action, outcome.outcome, outcome.reason⟩ :: results, ?_, ?_⟩
      · rw [executeFrom, if_neg hrunning]
        have hghost : (Throwing.ghost .execute fun db : WorkflowDb =>
            ((), { db with log := db.log ++ [.executed runId candidate.id trigger index] }) :
              WorkflowM Unit).run.alone db = (.ok (), db₁) := rfl
        exact (Throwing.alone_bind hghost).trans ((Throwing.alone_bind hexecute).trans halone)
      · rw [hresults, ActionsDone.add, List.append_assoc, List.singleton_append]
      · intro k action' field hk hfield hexcept hearlier
        cases k with
        | zero =>
          cases hk
          obtain ⟨t, hread, _⟩ := hfacts.ticket
          have hticket : (db₁.findTicket context.tenantId context.ticketId).isSome := by
            rw [hbefore.present, hread]
            rfl
          obtain ⟨outcome', db'', hexecute', hanswered⟩ := execute_alone hfield hticket
          rw [hexecute] at hexecute'
          cases hexecute'
          exact ⟨_, rfl, rfl, rfl,
            hanswered.asForetold hfacts hfield (hbefore.field field hexcept) hbefore.lookups index⟩
        | succ k =>
          have hstill : ¬ (except field ∨ action.field? = some field ∧ wouldChangeAnything action facts = true) := by
            rintro (hwas | ⟨hsame, hchanges⟩)
            · exact hexcept hwas
            · rw [hearlier 0 action (Nat.succ_pos k) rfl hsame] at hchanges
              cases hchanges
          obtain ⟨r, hr, hindex, haction, hr'⟩ := hforetold k action' field hk hfield hstill
            fun j earlier hj => hearlier (j + 1) earlier (Nat.succ_lt_succ hj)
          exact ⟨r, hr, by omega, haction, hr'⟩

theorem test_alone {tenantId : Uuid} {ticketId : Uuid} {db db' : WorkflowDb}
    (h : (test tenantId principal workflowId ticketId).run.alone db = (.ok response, db')) :
    ∃ definition facts, (db.findWorkflow tenantId workflowId).bind readDefinition = some definition ∧
      FactsOf tenantId ticketId db facts ∧ response = testResponse definition facts := by
  obtain ⟨found, db₁, hquery, h⟩ := Throwing.of_alone_bind h
  obtain ⟨rfl, rfl⟩ := of_query_alone (Throwing.of_alone_rethrow hquery)
  cases hfound : db.findWorkflow tenantId workflowId with
  | none =>
    rw [show db.sent.findWorkflow tenantId workflowId = none from hfound] at h
    cases h
  | some row =>
    rw [show db.sent.findWorkflow tenantId workflowId = some row from hfound] at h
    dsimp only at h
    split at h
    · cases h
    · split at h
      · cases h
      · rename_i definition hdefinition
        obtain ⟨facts, db₂, hfacts, h⟩ := Throwing.of_alone_bind h
        have hload := loadFacts_alone rfl (Throwing.of_alone_rethrow hfacts)
        cases h
        exact ⟨definition, facts, hdefinition, ⟨hload.ticket, hload.tags⟩, rfl⟩

theorem testResponse_action {facts : WorkflowFacts}
    {entry : WorkflowTestAction} (h : (testResponse definition facts).actions[k]? = some entry) :
    definition.actions[k]? = some entry.action ∧ entry.index = k ∧
      entry.outcome = predictedOutcome facts entry.action ∧
        ∀ (j : Nat) (action : WorkflowAction), definition.actions[j]? = some action →
          (testResponse definition facts).actions[j]? = some ⟨j, action, predictedOutcome facts action⟩ := by
  simp only [testResponse] at h ⊢
  split at h
  · rename_i hmatched
    rw [List.getElem?_mapIdx, Option.map_eq_some_iff] at h
    obtain ⟨action, haction, rfl⟩ := h
    refine ⟨haction, rfl, rfl, ?_⟩
    intro j action hj
    rw [if_pos hmatched, List.getElem?_mapIdx, hj]
    rfl
  · cases h

theorem predictedOutcome_eq_noOp {facts : WorkflowFacts} {action : WorkflowAction} :
    predictedOutcome facts action = .noOp ↔ wouldChangeAnything action facts = false := by
  rw [predictedOutcome]
  cases wouldChangeAnything action facts <;> simp

def testContext (tenantId ticketId : Uuid) : ActionContext where
  tenantId
  ticketId
  workflowId := 0
  workflowRunId := 0
  actionIndex := 0

def supervisor : SessionPrincipal := { userId := 2, role := .supervisor, permissions := [.ticketReadAll], teamIds := [] }

/-- The workflow of the database, as an evaluation would read it. -/
def armedCandidate : CandidateWorkflow := { id := 7, version := 1, definition := raiseNewTickets }

/-- The ticket is with a team already, and the workflow gives it to that team. -/
def heldByItsTeam : WorkflowDb where
  tickets := [setAssignment ⟨none, some 3⟩ quietTicket]
  workflows := [{ id := 7, tenantId := 1, isActive := true, triggerType := .ticketCreated
                  definition := some { trigger := .ticketCreated, actions := [.reassign (.team 3)] } }]
  lookups := { activeTenants := [1], teams := [(1, 3)] }
  jobs := [openedTrigger]
  uuids := [21, 22, 23, 24]

end WhatsappCrm.Workflows
