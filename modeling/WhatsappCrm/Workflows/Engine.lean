/-
Purpose: Every call keeps the records: what it queues has happened, what it claims was queued, and whatever else it does
  is quiet.
-/
import WhatsappCrm.Workflows.Records

namespace WhatsappCrm.Workflows

open Interleaving Table

variable (trigger : WorkflowEvaluateTicketTrigger) (candidate : CandidateWorkflow) (runId : Uuid)

variable (needed : WorkflowFactsNeeded)

abbrev Keeps {α : Type} (Q : α → WorkflowDb → Prop) (db : WorkflowDb) (p : WorkflowM α) : Prop :=
  Throwing.Ensures engine Q db p

section Rules

variable {α β : Type} {db : WorkflowDb} {tag : WorkflowStmt}

variable {p : WorkflowM α} {Q : α → WorkflowDb → Prop}

theorem QuietProgram.keeps (h : QuietProgram p) : Keeps (fun _ _ => True) db p :=
  Throwing.Ensures.of_within (Prog.Follows.weaken (fun _ _ => trivial) h) fun _ _ _ _ _ hquiet => .quiet hquiet

theorem Keeps.bind (h : Keeps Q db p) (hf : ∀ a db', Later db db' → Q a db' → Keeps R db' (f a)) : Keeps R db (p >>= f) :=
  Throwing.Ensures.bind engine_sound h hf

theorem Keeps.rescue (h : Keeps Q db p) (hhandler : ∀ e db', Later db db' → Keeps Q db' (handler e)) :
    Keeps Q db (Throwing.rescue p handler) :=
  Throwing.Ensures.rescue engine_sound h hhandler

theorem Keeps.transaction (h : ∀ db₁ a db', Later db db₁ → Sound db₁ → body db₁.sent = .ok (a, db') →
      WorkflowEffect tag db₁ db' ∧ Q a db') : Keeps Q db (transaction tag body) := by
  apply Throwing.Ensures.statement
  intro db₁ hlater hs _
  rcases db₁.transact_cases body with ⟨e, heq⟩ | ⟨a, db', hrun, heq⟩
  · rw [heq]
    exact ⟨.quiet db₁.sent_quiet, nofun⟩
  · rw [heq]
    obtain ⟨heffect, hQ⟩ := h db₁ a db' hlater hs hrun
    refine ⟨heffect, ?_⟩
    rintro a' ⟨⟩
    exact hQ

theorem Keeps.query (h : ∀ db₁, Later db db₁ → Sound db₁ → Q (f db₁.sent) db₁.sent) : Keeps Q db (query tag f) := by
  apply Keeps.transaction
  intro db₁ a db' hlater hs hrun
  cases hrun
  exact ⟨.quiet db₁.sent_quiet, h db₁ hlater hs⟩

end Rules

def Raised (ticketId : Uuid) (occurrence : Option RaisedOccurrence) (db : WorkflowDb) : Prop :=
  ∀ o, occurrence = some o → db.occurred ticketId o

theorem Raised.none (ticketId : Uuid) (db : WorkflowDb) : Raised ticketId .none db := nofun

variable {ticketId : Uuid} {before : Ticket} {change : TicketChange} {db' : WorkflowDb}

theorem findTicket_id {db : WorkflowDb} (h : db.findTicket tenantId ticketId = some t) : t.id = ticketId := by
  exact (of_find? h).2.1

theorem writeAutomationField_event
    {db : WorkflowDb} {id : Uuid} (h : writeAutomationField before change context db = .ok (some id, db')) :
    ∃ event ∈ changeEvents before change none (.workflow context.automation), ⟨id, event⟩ ∈ db'.ticketEvents ∧
      (changeEvents before change none (.workflow context.automation)).head? = some event := by
  unfold writeAutomationField at h
  split at h
  · cases h
  · cases h
  · split at h
    · cases h
    · rename_i event rest heq
      split at h
      · cases h
      · rename_i hinsert
        cases h
        refine ⟨event, by rw [heq]; exact List.mem_cons_self, ?_, by rw [heq]; rfl⟩
        rw [(insertEvent_spec hinsert).2]
        exact List.mem_concat_self

theorem applyAutomationField_keeps (context : ActionContext) (hid : before.id = context.ticketId)
    (hraises : ∀ triggerType, raises = some triggerType →
      triggerType = .ticketStatusChanged ∧ ∃ status, change.status = some status) (db : WorkflowDb) :
    Keeps (fun result => Raised context.ticketId result.occurrence) db
      (applyAutomationField before change context raises) := by
  apply Keeps.bind (Q := fun written db' => ∀ id, written = some id → ∃ event,
    ⟨id, event⟩ ∈ db'.ticketEvents ∧
      (changeEvents before change none (.workflow context.automation)).head? = some event)
  · apply Keeps.transaction
    intro db₁ written db' _ _ hrun
    refine ⟨.quiet (db₁.sent_quiet.trans (writeAutomationField_quiet hrun)), ?_⟩
    rintro id rfl
    obtain ⟨event, -, hmem, hhead⟩ := writeAutomationField_event hrun
    exact ⟨event, hmem, hhead⟩
  · intro written db' _ hwritten
    cases written with
    | none => exact Throwing.Ensures.of_pure (Raised.none _ _)
    | some id =>
      apply Throwing.Ensures.of_pure
      intro o ho
      obtain ⟨event, hmem, hhead⟩ := hwritten id rfl
      obtain ⟨triggerType, hraised, rfl⟩ := Option.map_eq_some_iff.mp ho
      obtain ⟨rfl, status, hstatus⟩ := hraises triggerType hraised
      simp only [changeEvents, hstatus, Option.map_some, Option.toList_some, List.singleton_append,
        List.head?_cons, Option.some.injEq] at hhead
      subst hhead
      exact ⟨_, hmem, rfl, hid, rfl⟩

theorem assignmentEvent_recorded (before : Ticket) (assignment : TicketAssignment) (actorUserId : Option Uuid)
    (cause : EventCause) (reason : Option String) :
    WorkflowTriggerType.ticketAssigned.recordedBy (assignmentEvent before assignment actorUserId cause reason).data =
      true := by
  simp only [assignmentEvent]
  split <;> rfl

theorem writeAutomationAssignment_event {db : WorkflowDb} {id : Uuid}
    (h : writeAutomationAssignment before assignment context db = .ok (some id, db')) :
    ⟨id, assignmentEvent before assignment none (.workflow context.automation) none⟩ ∈ db'.ticketEvents := by
  unfold writeAutomationAssignment at h
  split at h
  · cases h
  · cases h
  · split at h
    · cases h
    · rename_i hinsert
      cases h
      rw [(insertEvent_spec hinsert).2]
      exact List.mem_concat_self

theorem applyAutomationAssignment_keeps (assignment : TicketAssignment) (context : ActionContext)
    (hid : before.id = context.ticketId) (db : WorkflowDb) :
    Keeps (fun result => Raised context.ticketId result.occurrence) db
      (applyAutomationAssignment before assignment context) := by
  unfold applyAutomationAssignment
  split
  · exact Throwing.Ensures.of_pure (Raised.none _ _)
  · apply Keeps.bind (Q := fun written db' => ∀ id, written = some id →
      ⟨id, assignmentEvent before assignment none (.workflow context.automation) none⟩ ∈ db'.ticketEvents)
    · apply Keeps.transaction
      intro db₁ written db' _ _ hrun
      refine ⟨.quiet (db₁.sent_quiet.trans (writeAutomationAssignment_quiet hrun)), ?_⟩
      rintro id rfl
      exact writeAutomationAssignment_event hrun
    · intro written db' _ hwritten
      cases written with
      | none => exact Throwing.Ensures.of_pure (Raised.none _ _)
      | some id =>
        apply Throwing.Ensures.of_pure
        intro o ho
        obtain rfl := Option.some.inj ho
        exact ⟨_, hwritten id rfl, rfl, hid, assignmentEvent_recorded _ _ _ _ _⟩

theorem applyAutomation_keeps (change : TicketAutomationChange) (context : ActionContext) (db : WorkflowDb) :
    Keeps (fun result => Raised context.ticketId result.occurrence) db (applyAutomation change context) := by
  apply Keeps.bind (Q := fun found _ => ∀ t, found = some t → t.id = context.ticketId)
  · apply Keeps.query
    intro db₁ _ _ t ht
    exact findTicket_id ht
  · intro found db' _ hfound
    cases found with
    | none => exact Throwing.Ensures.of_pure (Raised.none _ _)
    | some before =>
      have hid := hfound before rfl
      cases change with
      | assignment => exact applyAutomationAssignment_keeps _ _ hid _
      | priority =>
        dsimp only
        split
        · exact Throwing.Ensures.of_pure (Raised.none _ _)
        · apply applyAutomationField_keeps _ hid
          intro triggerType hraises
          cases hraises
      | status status =>
        dsimp only
        split
        · exact Throwing.Ensures.of_pure (Raised.none _ _)
        · split
          · exact Throwing.Ensures.of_pure (Raised.none _ _)
          · apply applyAutomationField_keeps _ hid
            rintro triggerType ⟨⟩
            exact ⟨rfl, status, rfl⟩

theorem fromTicketOutcome_raised {result : TicketAutomationResult} {db : WorkflowDb}
    (h : Raised ticketId result.occurrence db) : Raised ticketId (fromTicketOutcome result).occurrence db := by
  obtain ⟨outcome, occurrence⟩ := result
  cases outcome with
  | applied => exact h
  | noOp | transitionRefused | ticketGone => exact Raised.none _ _

theorem applyAutomation_outcome (change : TicketAutomationChange) (context : ActionContext) (db : WorkflowDb) :
    Keeps (fun outcome => Raised context.ticketId outcome.occurrence) db
      (applyAutomation change context >>= fun result => pure (fromTicketOutcome result)) := by
  apply (applyAutomation_keeps change context db).bind
  intro result db' _ hresult
  exact Throwing.Ensures.of_pure (fromTicketOutcome_raised hresult)

theorem reassign_keeps (target : WorkflowAssignee) (context : ActionContext) (db : WorkflowDb) :
    Keeps (fun outcome => Raised context.ticketId outcome.occurrence) db (reassign target context) := by
  cases target with
  | team | user =>
    apply (quiet_query _).keeps.bind
    intro found db' _ _
    cases found with
    | false => exact Throwing.Ensures.of_pure (Raised.none _ _)
    | true => exact applyAutomation_outcome _ _ _

theorem insertOutcome_raised (ticketId : Uuid) (count : Nat) (db : WorkflowDb) :
    Raised ticketId (insertOutcome count).occurrence db := by
  unfold insertOutcome
  split <;> exact Raised.none _ _

theorem addTicketTag_keeps (tagId : Uuid) (context : ActionContext) (db : WorkflowDb) :
    Keeps (fun outcome => Raised context.ticketId outcome.occurrence) db (addTicketTag tagId context) := by
  apply Keeps.rescue
  · apply (quiet_transaction fun _ _ _ => insertTicketTag_quiet).keeps.bind
    exact fun count db' _ _ => Throwing.Ensures.of_pure (insertOutcome_raised _ _ _)
  · intro error db' _
    split
    · exact Throwing.Ensures.of_pure (Raised.none _ _)
    · exact Throwing.Ensures.of_throw _

theorem notify_keeps (audience : WorkflowNotifyAudience) (userId teamId : Option Uuid) (message : Option String)
    (context : ActionContext) (db : WorkflowDb) : Keeps (fun outcome => Raised context.ticketId outcome.occurrence) db
      (notify audience userId teamId message context) := by
  apply (resolveRecipients_quiet _ _ _ _).keeps.bind
  intro recipientUserIds db' _ _
  split
  · exact Throwing.Ensures.of_pure (Raised.none _ _)
  · apply (quiet_transaction (insertNotifications_written _)).keeps.bind
    exact fun count db'' _ _ => Throwing.Ensures.of_pure (insertOutcome_raised _ _ _)

theorem execute_keeps (action : WorkflowAction) (context : ActionContext) (db : WorkflowDb) :
    Keeps (fun outcome => Raised context.ticketId outcome.occurrence) db (execute action context) := by
  apply Keeps.rescue
  · cases action with
    | setStatus | setPriority => exact applyAutomation_outcome _ _ _
    | reassign => exact reassign_keeps _ _ _
    | addTicketTag => exact addTicketTag_keeps _ _ _
    | notify => exact notify_keeps _ _ _ _ _ _
  · exact fun _ _ _ => Throwing.Ensures.of_pure (Raised.none _ _)

def AllRaised (ticketId : Uuid) (occurrences : List RaisedOccurrence) (db : WorkflowDb) : Prop :=
  ∀ o ∈ occurrences, db.occurred ticketId o

theorem AllRaised.later {db : WorkflowDb} (h : Later db db')
    (hraised : AllRaised ticketId occurrences db) : AllRaised ticketId occurrences db' :=
  fun o ho => occurred_of_later h (hraised o ho)

theorem executeFrom_keeps (actions : List WorkflowAction) (index : Nat) (done : ActionsDone) (db : WorkflowDb)
    (hdone : AllRaised trigger.ticketId done.chained db) :
    Keeps (fun done => AllRaised trigger.ticketId done.chained) db
      (executeFrom trigger candidate runId index done actions) := by
  induction actions generalizing index done db with
  | nil => exact Throwing.Ensures.of_pure hdone
  | cons action actions ih =>
    rw [executeFrom]
    split
    · exact ih _ _ _ hdone
    · apply Keeps.bind (Q := fun _ _ => True)
      · apply Throwing.Ensures.statement
        exact fun db₁ _ _ _ => ⟨.executing runId candidate.id trigger index, fun _ _ => trivial⟩
      · intro _ db₁ hlater₁ _
        apply (execute_keeps action _ db₁).bind
        intro outcome db₂ hlater₂ hraised
        apply ih
        intro o ho
        rcases List.mem_append.mp ho with hold | hnew
        · exact (hdone.later hlater₁).later hlater₂ o hold
        · exact hraised o (Option.mem_toList.mp hnew)

theorem chainedTrigger_queueable {db : WorkflowDb} {runId : Uuid}
    (hclaimed : .claimed runId workflowId cause ∈ db.log)
    (hshallow : cause.depth ≤ maxChainDepth) (hoccurred : db.occurred cause.ticketId occurrence) :
    Queueable db (chainedTrigger cause runId occurrence) := by
  obtain ⟨row, hrow, hid, hticket, hevent⟩ := hoccurred
  refine ⟨?_, ?_, .inr ⟨runId, workflowId, cause, hclaimed, rfl, rfl, hshallow⟩⟩
  · have hdepth : cause.depth + 1 ≤ maxChainDepth + 1 := Nat.succ_le_succ hshallow
    rcases recordedBy_event hevent with htype | htype <;>
      simp [WorkflowEvaluateTicketTrigger.valid, chainedTrigger, htype, triggerIsTicketScoped, hdepth]
  · have hany : db.ticketEvents.any (fun row =>
        some occurrence.ticketEventId = some row.id ∧ row.event.ticketId = cause.ticketId ∧
          occurrence.triggerType.recordedBy row.event.data) = true := by
      refine List.any_eq_true.mpr ⟨row, hrow, ?_⟩
      simp [hid, hticket, hevent]
    rcases recordedBy_event hevent with htype | htype
    · simpa [WorkflowDb.recorded, chainedTrigger, htype] using hany
    · simpa [WorkflowDb.recorded, chainedTrigger, htype] using hany

theorem enqueue_apart (db : WorkflowDb) (trigger : WorkflowEvaluateTicketTrigger) :
    Apart db (db.enqueue trigger) ∧ ∃ triggers, (db.enqueue trigger).jobs = db.jobs ++ triggers ∧
      ∀ t ∈ triggers, t = trigger := by
  unfold WorkflowDb.enqueue
  split
  · refine ⟨?_, [trigger], rfl, by simp⟩
    exact ⟨rfl, rfl, rfl, List.suffix_refl _, List.prefix_refl _, List.prefix_refl _, id, id⟩
  · exact ⟨db.sent_quiet.toApart, [], (List.append_nil _).symm, by simp⟩

theorem queue_effect {db : WorkflowDb} {trigger : WorkflowEvaluateTicketTrigger} {tag : WorkflowStmt}
    (h : Quiet db db₁) (hq : Queueable db₁ trigger) (hroot : tag = .outside → trigger.causedByRunId = none) :
    WorkflowEffect tag db (db₁.enqueue trigger) := by
  obtain ⟨hapart, triggers, hjobs, hall⟩ := enqueue_apart db₁ trigger
  apply WorkflowEffect.queued (h.toApart.trans hapart) (by rw [hjobs, h.jobs])
  · intro t ht
    rw [hall t ht]
    apply hq.later
    exact ⟨hapart.ticketEvents, hapart.breachedTimers, hjobs ▸ List.prefix_append _ _, hapart.log ▸ List.prefix_refl _⟩
  · intro htag t ht
    rw [hall t ht]
    exact hroot htag

theorem raiseChained_keeps (cause : WorkflowEvaluateTicketTrigger) (runId workflowId : Uuid)
    (hshallow : cause.depth ≤ maxChainDepth) (occurrences : List RaisedOccurrence) (db : WorkflowDb)
    (hclaimed : .claimed runId workflowId cause ∈ db.log) (hraised : AllRaised cause.ticketId occurrences db) :
    Keeps (fun _ _ => True) db (raiseChained cause runId occurrences) := by
  induction occurrences generalizing db with
  | nil => exact Throwing.Ensures.of_pure trivial
  | cons occurrence occurrences ih =>
    apply Keeps.bind (Q := fun _ _ => True)
    · apply Throwing.Ensures.statement
      intro db₁ hlater _ _
      refine ⟨queue_effect (.refl db₁) ?_ nofun, fun _ _ => trivial⟩
      apply chainedTrigger_queueable (hlater.log.subset hclaimed) hshallow
      exact occurred_of_later hlater (hraised occurrence List.mem_cons_self)
    · intro _ db₁ hlater _
      apply ih db₁ (hlater.log.subset hclaimed)
      exact fun o ho => occurred_of_later hlater (hraised o (List.mem_cons_of_mem _ ho))

theorem finish_keeps (guarded : Bool) (tenantId runId : Uuid) (outcome : RunEnd) (db : WorkflowDb) :
    Keeps (fun _ _ => True) db (finish guarded tenantId runId outcome) := by
  apply Keeps.transaction
  intro db₁ u db' _ _ hrun
  cases hrun
  exact ⟨.closed guarded tenantId runId outcome, trivial⟩

theorem closeThrown_keeps (error : WorkflowError)
    (db : WorkflowDb) : Keeps (fun _ _ => True) db (closeThrown trigger runId error) :=
  (finish_keeps false _ _ _ db).bind fun _ _ _ _ => Throwing.Ensures.of_pure trivial

theorem executeActions_keeps (hshallow : trigger.depth ≤ maxChainDepth) (db : WorkflowDb)
    (hclaimed : .claimed runId candidate.id trigger ∈ db.log) :
    Keeps (fun _ _ => True) db (executeActions trigger candidate runId) := by
  apply (executeFrom_keeps trigger candidate runId _ 0 {} db nofun).bind
  intro done db₁ hlater₁ hdone
  apply (finish_keeps true trigger.tenantId runId _ db₁).bind
  intro _ db₂ hlater₂ _
  apply (deactivateIf_quiet _ trigger.tenantId candidate.id runId trigger.ticketId).keeps.bind
  intro _ db₃ hlater₃ _
  have hlater : Later db₁ db₃ := hlater₂.trans hlater₃
  apply Keeps.bind
    (raiseChained_keeps trigger runId candidate.id hshallow done.chained db₃
      ((hlater₁.trans hlater).log.subset hclaimed) (hdone.later hlater))
  exact fun _ _ _ _ => Throwing.Ensures.of_pure trivial

theorem runOne_keeps (facts : Option WorkflowFacts) (hshallow : trigger.depth ≤ maxChainDepth)
    (db : WorkflowDb) (hclaimed : .claimed runId candidate.id trigger ∈ db.log) :
    Keeps (fun _ _ => True) db (runOne trigger candidate runId needed facts) := by
  apply (tryFactSheet_quiet trigger needed facts).keeps.bind
  intro read db₁ hlater₁ _
  cases read with
  | error => exact (closeThrown_keeps _ _ _ _).bind fun _ _ _ _ => Throwing.Ensures.of_pure trivial
  | ok =>
    apply Keeps.bind (Q := fun _ _ => True)
    · apply Keeps.rescue
      · unfold runWith
        split
        · exact (finish_keeps true _ _ _ db₁).bind fun _ _ _ _ => Throwing.Ensures.of_pure trivial
        · exact executeActions_keeps trigger candidate runId hshallow db₁ (hlater₁.log.subset hclaimed)
      · exact fun _ _ _ => closeThrown_keeps _ _ _ _
    · exact fun _ _ _ _ => Throwing.Ensures.of_pure trivial

theorem claim_keeps (hshallow : trigger.depth ≤ maxChainDepth) (db : WorkflowDb) (hqueued : trigger ∈ db.jobs) :
    Keeps (fun claimed db' => ∀ id, claimed = some id → .claimed id candidate.id trigger ∈ db'.log) db
      (claim trigger candidate) := by
  apply Keeps.transaction
  intro db₁ claimed db' hlater _ hrun
  cases claimed with
  | none =>
    rw [insertClaim_none hrun]
    exact ⟨.quiet db₁.sent_quiet, nofun⟩
  | some =>
    refine ⟨.claimed hshallow (hlater.jobs.subset hqueued) hrun, ?_⟩
    rintro id' ⟨⟩
    obtain ⟨uuids, -, -, -, -, rfl⟩ := insertClaim_spec hrun
    exact List.mem_concat_self

theorem runClaimed_keeps (runId : Uuid) (memo : Memo) (report : WorkflowEvaluationReport)
    (hshallow : trigger.depth ≤ maxChainDepth) (db : WorkflowDb)
    (hclaimed : .claimed runId candidate.id trigger ∈ db.log) :
    Keeps (fun _ _ => True) db (runClaimed trigger candidate needed runId memo report) := by
  apply (budgetExceeded_quiet false trigger memo.overBudget).keeps.bind
  intro overBudget db₁ hlater _
  split
  · exact (finish_keeps false _ _ _ db₁).bind fun _ _ _ _ => Throwing.Ensures.of_pure trivial
  · exact (runOne_keeps trigger candidate runId needed memo.facts hshallow db₁ (hlater.log.subset hclaimed)).bind
      fun _ _ _ _ => Throwing.Ensures.of_pure trivial

theorem runEach_keeps (hshallow : trigger.depth ≤ maxChainDepth) (candidates : List CandidateWorkflow) (memo : Memo)
    (report : WorkflowEvaluationReport) (db : WorkflowDb) (hqueued : trigger ∈ db.jobs) :
    Keeps (fun _ _ => True) db (runEach trigger needed candidates memo report) := by
  induction candidates generalizing memo report db with
  | nil => exact Throwing.Ensures.of_pure trivial
  | cons candidate candidates ih =>
    apply (belowThreshold_quiet trigger candidate needed memo).keeps.bind
    intro below db₁ hlater₁ _
    have hqueued₁ := hlater₁.jobs.subset hqueued
    split
    · exact ih _ _ _ hqueued₁
    · apply (claim_keeps trigger candidate hshallow db₁ hqueued₁).bind
      intro claimed db₂ hlater₂ hclaimed
      have hqueued₂ := hlater₂.jobs.subset hqueued₁
      cases claimed with
      | none => exact ih _ _ _ hqueued₂
      | some runId =>
        apply (runClaimed_keeps trigger candidate needed runId _ _ hshallow db₂ (hclaimed runId rfl)).bind
        intro ran db₃ hlater₃ _
        exact ih _ _ _ (hlater₃.jobs.subset hqueued₂)

theorem evaluate_keeps (db : WorkflowDb) (hqueued : trigger ∈ db.jobs) :
    Keeps (fun _ _ => True) db (evaluate trigger) := by
  unfold evaluate
  split
  · exact Throwing.Ensures.of_pure trivial
  · rename_i hdepth
    have hshallow : trigger.depth ≤ maxChainDepth := Nat.le_of_not_lt hdepth
    apply (quiet_query _).keeps.bind
    intro candidates db₁ hlater₁ _
    split
    · exact Throwing.Ensures.of_pure trivial
    · have hqueued₁ := hlater₁.jobs.subset hqueued
      unfold runCandidates
      split
      · apply (budgetExceeded_quiet true trigger none).keeps.bind
        intro overBudget db₂ hlater₂ _
        split
        · exact Throwing.Ensures.of_pure trivial
        · exact runEach_keeps trigger _ hshallow _ _ _ _ (hlater₂.jobs.subset hqueued₁)
      · exact runEach_keeps trigger _ hshallow _ _ _ _ hqueued₁

theorem evaluateTicket_keeps (db : WorkflowDb)
    (hqueued : trigger ∈ db.jobs) : Keeps (fun _ _ => True) db (evaluateTicket trigger) := by
  unfold evaluateTicket
  split
  · exact Throwing.Ensures.of_throw _
  · exact evaluate_keeps trigger db hqueued

theorem deliver_keeps (db : WorkflowDb) : Keeps (fun _ _ => True) db (deliver trigger) := by
  apply Keeps.bind (Q := fun queued db' => queued = true → trigger ∈ db'.jobs)
  · apply Throwing.Ensures.statement
    intro db₁ _ _ _
    refine ⟨.quiet (.refl db₁), ?_⟩
    rintro queued ⟨⟩ hqueued
    simpa using hqueued
  · intro queued db₁ _ hqueued
    cases queued with
    | false => exact Throwing.Ensures.of_pure trivial
    | true => exact (evaluateTicket_keeps trigger db₁ (hqueued rfl)).bind fun _ _ _ _ => Throwing.Ensures.of_pure trivial

theorem elapsedTrigger_queueable (t : Ticket) (db : WorkflowDb) : Queueable db (elapsedTrigger t) :=
  ⟨rfl, rfl, .inl ⟨rfl, rfl⟩⟩

theorem enqueueAll_keeps (tickets : List Ticket) (db : WorkflowDb) : Keeps (fun _ _ => True) db (enqueueAll tickets) := by
  induction tickets generalizing db with
  | nil => exact Throwing.Ensures.of_pure trivial
  | cons t tickets ih =>
    apply Keeps.bind (Q := fun _ _ => True)
    · apply Throwing.Ensures.statement
      exact fun db₁ _ _ _ => ⟨queue_effect (.refl db₁) (elapsedTrigger_queueable t db₁) nofun, fun _ _ => trivial⟩
    · exact fun _ db₁ _ _ => ih db₁

theorem sweep_keeps (db : WorkflowDb) : Keeps (fun _ _ => True) db sweep := by
  apply (quiet_query _).keeps.bind
  intro threshold db₁ _ _
  cases threshold with
  | none => exact Throwing.Ensures.of_pure trivial
  | some => exact (quiet_query _).keeps.bind fun overdue db₂ _ _ => enqueueAll_keeps overdue db₂

theorem insertEvents_head {db : WorkflowDb} (h : db.insertEvents (event :: events) = .ok (ids, db')) :
    ∃ id, ids.head? = some id ∧ ⟨id, event⟩ ∈ db'.ticketEvents := by
  rw [WorkflowDb.insertEvents] at h
  split at h
  · cases h
  · rename_i id db₁ hinsert
    split at h
    · cases h
    · rename_i hrest
      cases h
      refine ⟨id, rfl, (insertEvents_quiet hrest).ticketEvents.subset ?_⟩
      rw [(insertEvent_spec hinsert).2]
      exact List.mem_concat_self

theorem rootTrigger_queueable {db : WorkflowDb} (hrow : row ∈ db.ticketEvents) (tenantId : Uuid)
    {triggerType : WorkflowTriggerType} (hevent : triggerType.recordedBy row.event.data = true) :
    Queueable db (rootTrigger tenantId row.event.ticketId triggerType (some row.id)) := by
  have hany : db.ticketEvents.any (fun row' =>
      some row.id = some row'.id ∧ row'.event.ticketId = row.event.ticketId ∧
        triggerType.recordedBy row'.event.data) = true := by
    refine List.any_eq_true.mpr ⟨row, hrow, ?_⟩
    simp [hevent]
  refine ⟨?_, ?_, .inl ⟨rfl, rfl⟩⟩
  · rcases recordedBy_event hevent with rfl | rfl <;> rfl
  · rcases recordedBy_event hevent with rfl | rfl
    · exact hany
    · exact hany

theorem writeThenQueue_effect {db : WorkflowDb}
    {tag : WorkflowStmt} (h : writeThenQueue before change actorUserId db.sent = .ok ((), db')) :
    WorkflowEffect tag db db' := by
  unfold writeThenQueue at h
  split at h
  · cases h
  · rename_i hupdate
    cases h
    exact .quiet (db.sent_quiet.trans (updateTickets_quiet hupdate))
  · rename_i hupdate
    split at h
    · cases h
    · rename_i ids db₂ hinsert
      have hquiet : Quiet db db₂ := (db.sent_quiet.trans (updateTickets_quiet hupdate)).trans (insertEvents_quiet hinsert)
      cases h
      cases hstatus : change.status with
      | none => exact .quiet hquiet
      | some =>
        simp only [changeEvents, hstatus, Option.map_some, Option.toList_some, List.singleton_append] at hinsert
        obtain ⟨id, hhead, hmem⟩ := insertEvents_head hinsert
        simp only [Option.isSome_some, if_true, hhead]
        exact queue_effect hquiet (rootTrigger_queueable hmem before.tenantId rfl) fun _ => rfl

theorem assignThenQueue_effect {db : WorkflowDb} {tag : WorkflowStmt}
    (h : assignThenQueue before assignment actorUserId reason db.sent = .ok ((), db')) : WorkflowEffect tag db db' := by
  unfold assignThenQueue at h
  split at h
  · cases h
  · rename_i hupdate
    cases h
    exact .quiet (db.sent_quiet.trans (updateTickets_quiet hupdate))
  · rename_i hupdate
    split at h
    · cases h
    · rename_i id db₂ hinsert
      obtain ⟨hquiet, hevents⟩ := insertEvent_spec hinsert
      cases h
      have hmem : ⟨id, assignmentEvent before assignment (some actorUserId) .agent reason⟩ ∈ db₂.ticketEvents := by
        rw [hevents]
        exact List.mem_concat_self
      exact queue_effect ((db.sent_quiet.trans (updateTickets_quiet hupdate)).trans hquiet)
        (rootTrigger_queueable hmem before.tenantId (assignmentEvent_recorded _ _ _ _ _)) fun _ => rfl

theorem createThenQueue_effect {db : WorkflowDb} {tag : WorkflowStmt}
    (h : createThenQueue ticket event db.sent = .ok ((), db')) : WorkflowEffect tag db db' := by
  unfold createThenQueue at h
  split at h
  · split at h
    · cases h
    · rename_i hinsert
      cases h
      refine queue_effect ?_ ⟨rfl, rfl, .inl ⟨rfl, rfl⟩⟩ fun _ => rfl
      have hquiet : Quiet db { db.sent with tickets := db.sent.tickets ++ [ticket] } :=
        ⟨⟨rfl, rfl, rfl, List.suffix_refl _, List.prefix_refl _, List.prefix_refl _, id, id⟩, rfl⟩
      exact hquiet.trans (insertEvent_spec hinsert).1
  · cases h

theorem breachThenQueue_effect {db : WorkflowDb} {tag : WorkflowStmt}
    (h : breachThenQueue timer db.sent = .ok ((), db')) : WorkflowEffect tag db db' := by
  unfold breachThenQueue at h
  split at h
  · cases h
    exact .quiet db.sent_quiet
  · rename_i hnew
    cases h
    apply queue_effect
    · refine ⟨⟨rfl, rfl, rfl, List.suffix_refl _, List.prefix_refl _, List.prefix_append _ _, id, ?_⟩, rfl⟩
      intro hids
      apply hids.concat
      intro timer' htimer' hclash
      apply hnew
      refine List.any_eq_true.mpr ⟨timer', htimer', ?_⟩
      simpa [timerEntry] using hclash.2
    · refine ⟨rfl, ?_, .inl ⟨rfl, rfl⟩⟩
      refine List.any_eq_true.mpr ⟨timer, List.mem_concat_self, ?_⟩
      simp [rootTrigger]
    · exact fun _ => rfl

theorem apply_effect {event : WorkflowEvent} {db : WorkflowDb} (h : event.apply db.sent = .ok ((), db')) :
    WorkflowEffect event.stmt db db' := by
  cases event with
  | createTicket => exact createThenQueue_effect h
  | updateTicket => exact writeThenQueue_effect h
  | assignTicket => exact assignThenQueue_effect h
  | writeTickets tickets events =>
    simp only [WorkflowEvent.apply] at h
    split at h
    · cases h
    · rename_i hinsert
      cases h
      have hquiet : Quiet db { db.sent with tickets } :=
        ⟨⟨rfl, rfl, rfl, List.suffix_refl _, List.prefix_refl _, List.prefix_refl _, id, id⟩, rfl⟩
      exact .quiet (hquiet.trans (insertEvents_quiet hinsert))
  | breach => exact breachThenQueue_effect h
  | amend | elapse =>
    cases h
    exact .quiet ⟨⟨rfl, rfl, rfl, List.suffix_refl _, List.prefix_refl _, List.prefix_refl _, id, id⟩, rfl⟩
  | createWorkflow | editWorkflow | deleteWorkflow => exact .edited rfl nofun h

theorem callBody_keeps (call : WorkflowCall) (db : WorkflowDb) : Keeps (fun _ _ => True) db (callBody call) := by
  cases call with
  | deliver trigger => exact deliver_keeps trigger db
  | sweep => exact sweep_keeps db
  | event =>
    apply Keeps.transaction
    intro db₁ u db' _ _ hrun
    exact ⟨apply_effect hrun, trivial⟩

theorem Reachable.sound {cond : WorkflowSys → WorkflowCall → WorkflowStmt → Prop} {db : WorkflowDb}
    (h₀ : Sound db) (hs : Reachable workflowProgram cond (.idle db) s) : Sound s.db := by
  have hguarded : s.Guarded engine := by
    apply Reachable.guards engine_sound (fun call db' => (callBody_keeps call db').guards) (fun _ _ _ _ => trivial)
      (Sys.guarded_idle h₀) hs
  exact hguarded.inv

end WhatsappCrm.Workflows
