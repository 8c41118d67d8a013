/-
Purpose: What each statement of the system does to the runs, to the queue and to the record of what was claimed and
  executed.
-/
import WhatsappCrm.Workflows.System

namespace WhatsappCrm.Workflows

open Interleaving Table

variable (trigger : WorkflowEvaluateTicketTrigger)

variable (rows : List WorkflowNotification) (audience : WorkflowNotifyAudience) (needed : WorkflowFactsNeeded)
  (userId teamId : Option Uuid)

def Workflow.disarmed (w : Workflow) : Workflow := { w with isActive := false, brokenReason := none }

def TicketEventRow.idEntry (row : TicketEventRow) : Option Uuid := some row.id

def timerEntry (timer : SlaTimer) : Option Uuid := some timer.id

/-- The runs, the record and the definitions are left alone; ids are drawn. -/
structure Apart (db db' : WorkflowDb) : Prop where
  runs : db'.runs = db.runs
  log : db'.log = db.log
  workflows : db'.workflows.map Workflow.disarmed = db.workflows.map Workflow.disarmed
  uuids : db'.uuids <:+ db.uuids
  ticketEvents : db.ticketEvents <+: db'.ticketEvents
  breachedTimers : db.breachedTimers <+: db'.breachedTimers
  eventIds : UniqueBy TicketEventRow.idEntry db.ticketEvents → UniqueBy TicketEventRow.idEntry db'.ticketEvents
  timerIds : UniqueBy timerEntry db.breachedTimers → UniqueBy timerEntry db'.breachedTimers

theorem Apart.refl (db : WorkflowDb) : Apart db db :=
  ⟨rfl, rfl, rfl, List.suffix_refl _, List.prefix_refl _, List.prefix_refl _, id, id⟩

theorem Apart.trans (h : Apart db₁ db₂) (h' : Apart db₂ db₃) : Apart db₁ db₃ where
  runs := h'.runs.trans h.runs
  log := h'.log.trans h.log
  workflows := h'.workflows.trans h.workflows
  uuids := h'.uuids.trans h.uuids
  ticketEvents := h.ticketEvents.trans h'.ticketEvents
  breachedTimers := h.breachedTimers.trans h'.breachedTimers
  eventIds := h'.eventIds ∘ h.eventIds
  timerIds := h'.timerIds ∘ h.timerIds

structure Quiet (db db' : WorkflowDb) : Prop extends Apart db db' where
  jobs : db'.jobs = db.jobs

theorem Quiet.refl (db : WorkflowDb) : Quiet db db := ⟨.refl db, rfl⟩

theorem Quiet.trans (h : Quiet db₁ db₂) (h' : Quiet db₂ db₃) : Quiet db₁ db₃ :=
  ⟨h.toApart.trans h'.toApart, h'.jobs.trans h.jobs⟩

theorem WorkflowDb.sent_quiet (db : WorkflowDb) : Quiet db db.sent :=
  ⟨⟨rfl, rfl, rfl, List.suffix_refl _, List.prefix_refl _, List.prefix_refl _, id, id⟩, rfl⟩

theorem WorkflowDb.transact_cases {α : Type} (db : WorkflowDb)
    (body : WorkflowDb → Except WorkflowError (α × WorkflowDb)) : (∃ e, db.transact body = (.error e, db.sent)) ∨
      ∃ a db', body db.sent = .ok (a, db') ∧ db.transact body = (.ok a, db') := by
  unfold WorkflowDb.transact
  cases db.available with
  | false => exact .inl ⟨.unavailable, rfl⟩
  | true =>
    cases hbody : body db.sent with
    | error e => exact .inl ⟨e, by simp⟩
    | ok answer => exact .inr ⟨answer.1, answer.2, rfl, by simp⟩

section Programs

variable {α : Type} {tag : WorkflowStmt}

theorem within_transaction {body : WorkflowDb → Except WorkflowError (α × WorkflowDb)}
    (hsent : ∀ db, I db → W tag db db.sent) (hbody : ∀ db a db', I db → body db.sent = .ok (a, db') → W tag db db') :
    (transaction tag body).run.Within I W := by
  apply Prog.Within.statement
  intro db hI
  rcases db.transact_cases body with ⟨e, heq⟩ | ⟨a, db', hrun, heq⟩
  · rw [heq]
    exact hsent db hI
  · rw [heq]
    exact hbody db a db' hI hrun

theorem within_query {f : WorkflowDb → α} (hsent : ∀ db, I db → W tag db db.sent) : (query tag f).run.Within I W := by
  apply within_transaction hsent
  intro db a db' hI hrun
  cases hrun
  exact hsent db hI

end Programs

abbrev QuietProgram {α : Type} (p : WorkflowM α) : Prop := p.run.Within (fun _ => True) fun _ => Quiet

section QuietPrograms

variable {α β : Type} {tag : WorkflowStmt}

theorem quiet_pure (a : α) : QuietProgram (pure a : WorkflowM α) := trivial

theorem quiet_throw (e : WorkflowError) : QuietProgram (throw e : WorkflowM α) := trivial

theorem quiet_query (f : WorkflowDb → α) : QuietProgram (query tag f) := within_query fun db _ => db.sent_quiet

theorem quiet_transaction {body : WorkflowDb → Except WorkflowError (α × WorkflowDb)}
    (h : ∀ db a db', body db = .ok (a, db') → Quiet db db') : QuietProgram (transaction tag body) := by
  apply within_transaction fun db _ => db.sent_quiet
  intro db a db' _ hrun
  exact db.sent_quiet.trans (h _ _ _ hrun)

theorem QuietProgram.bind (h : QuietProgram p) (hf : ∀ a, QuietProgram (f a)) : QuietProgram (p >>= f) :=
  Prog.Within.throwing_bind h hf

theorem QuietProgram.rescue (h : QuietProgram p)
    (hhandler : ∀ e, QuietProgram (handler e)) : QuietProgram (Throwing.rescue p handler) :=
  Prog.Within.throwing_rescue h hhandler

end QuietPrograms

variable {db : WorkflowDb} {before : Ticket} {written : Option Uuid} {change : TicketAutomationChange}

theorem updateTickets_quiet (h : db.updateTickets p f = .ok (count, db')) : Quiet db db' := by
  simp only [WorkflowDb.updateTickets] at h
  split at h
  · cases h
    exact ⟨⟨rfl, rfl, rfl, List.suffix_refl _, List.prefix_refl _, List.prefix_refl _, id, id⟩, rfl⟩
  · cases h

theorem insertEvent_spec {id : Uuid} (h : db.insertEvent event = .ok (id, db')) :
    Quiet db db' ∧ db'.ticketEvents = db.ticketEvents ++ [⟨id, event⟩] := by
  unfold WorkflowDb.insertEvent at h
  split at h
  · cases h
  · rename_i head uuids huuids
    obtain ⟨hunused, h⟩ := ok_of_ite h
    cases h
    refine ⟨⟨⟨rfl, rfl, rfl, ?_, List.prefix_append _ _, List.prefix_refl _, ?_, fun hids => hids⟩, rfl⟩, rfl⟩
    · rw [huuids]
      exact List.suffix_cons _ _
    · intro hids
      apply hids.concat
      intro row hrow hclash
      apply hunused
      rw [List.any_eq_true]
      refine ⟨row, hrow, ?_⟩
      simpa [TicketEventRow.idEntry] using hclash.2

theorem insertEvents_quiet (h : db.insertEvents events = .ok (ids, db')) : Quiet db db' := by
  induction events generalizing db ids with
  | nil =>
    cases h
    exact .refl _
  | cons event events ih =>
    rw [WorkflowDb.insertEvents] at h
    split at h
    · cases h
    · rename_i hinsert
      split at h
      · cases h
      · rename_i hrest
        cases h
        exact (insertEvent_spec hinsert).1.trans (ih hrest)

theorem insertNotifications_adds (db : WorkflowDb) : ∃ added, insertNotifications rows db =
    (added.length, { db with notifications := db.notifications ++ added }) := by
  have hfold : ∀ (rows : List WorkflowNotification) (acc : Nat × WorkflowDb), ∃ added, rows.foldl
      (fun (acc : Nat × WorkflowDb) row =>
        if acc.2.notifications.any (·.reservation = row.reservation) then (acc.1, acc.2)
        else (acc.1 + 1, { acc.2 with notifications := acc.2.notifications ++ [row] })) acc =
      (acc.1 + added.length, { acc.2 with notifications := acc.2.notifications ++ added }) := by
    intro rows
    induction rows with
    | nil => exact fun acc => ⟨[], by simp⟩
    | cons row rows ih =>
      intro acc
      rw [List.foldl_cons]
      split
      · exact ih acc
      · obtain ⟨added, hadded⟩ := ih (acc.1 + 1, { acc.2 with notifications := acc.2.notifications ++ [row] })
        exact ⟨row :: added, hadded.trans (by simp [Nat.add_right_comm, Nat.add_assoc])⟩
  obtain ⟨added, hadded⟩ := hfold rows (0, db)
  exact ⟨added, by simpa [insertNotifications] using hadded⟩

theorem insertNotifications_quiet (db : WorkflowDb) : Quiet db (insertNotifications rows db).2 := by
  obtain ⟨added, hadded⟩ := insertNotifications_adds rows db
  rw [hadded]
  exact ⟨⟨rfl, rfl, rfl, List.suffix_refl _, List.prefix_refl _, List.prefix_refl _, id, id⟩, rfl⟩

theorem insertNotifications_written (db : WorkflowDb) (count : Nat)
    (db' : WorkflowDb) (h : (.ok (insertNotifications rows db) : Except WorkflowError (Nat × WorkflowDb)) = .ok (count, db')) :
    Quiet db db' := by
  have hdb : (insertNotifications rows db).2 = db' := congrArg Prod.snd (Except.ok.inj h)
  rw [← hdb]
  exact insertNotifications_quiet rows db

theorem writeAutomationField_quiet {change : TicketChange}
    (h : writeAutomationField before change context db = .ok (written, db')) : Quiet db db' := by
  unfold writeAutomationField at h
  split at h
  · cases h
  · rename_i hupdate
    cases h
    exact updateTickets_quiet hupdate
  · rename_i db₁ _ hupdate
    split at h
    · cases h
      exact updateTickets_quiet hupdate
    · split at h
      · cases h
      · rename_i hinsert
        cases h
        exact (updateTickets_quiet hupdate).trans (insertEvent_spec hinsert).1

theorem writeAutomationAssignment_quiet
    (h : writeAutomationAssignment before assignment context db = .ok (written, db')) : Quiet db db' := by
  unfold writeAutomationAssignment at h
  split at h
  · cases h
  · rename_i hupdate
    cases h
    exact updateTickets_quiet hupdate
  · rename_i hupdate
    split at h
    · cases h
    · rename_i hinsert
      cases h
      exact (updateTickets_quiet hupdate).trans (insertEvent_spec hinsert).1

theorem insertTicketTag_quiet (h : insertTicketTag row db = .ok (count, db')) : Quiet db db' := by
  unfold insertTicketTag at h
  split at h
  · cases h
    exact .refl db
  · split at h
    · cases h
      exact ⟨⟨rfl, rfl, rfl, List.suffix_refl _, List.prefix_refl _, List.prefix_refl _, id, id⟩, rfl⟩
    · cases h

def reassignment : WorkflowAssignee → TicketAutomationChange
  | .team teamId => .assignment none (some teamId)
  | .user userId => .assignment (some userId) none

def WorkflowAction.change? : WorkflowAction → Option TicketAutomationChange
  | .setStatus status => some (.status status)
  | .setPriority priority => some (.priority priority)
  | .reassign target => some (reassignment target)
  | .addTicketTag _ | .notify .. => none

def automationWrite (change : TicketAutomationChange) (before : Ticket) (context : ActionContext) :
    WorkflowDb → Except WorkflowError (Option Uuid × WorkflowDb) :=
  match change with
  | .assignment assignedUserId assignedTeamId => writeAutomationAssignment before ⟨assignedUserId, assignedTeamId⟩ context
  | .priority priority => writeAutomationField before { priority := some priority } context
  | .status status => writeAutomationField before { status := some status } context

/-- A statement of an action leaves everything as it is, or is one of the writes the action asks for. -/
inductive ActionWrite (action : WorkflowAction) (context : ActionContext) (db : WorkflowDb) : WorkflowDb → Prop
  | nothing : ActionWrite action context db db.sent
  | ticket {change : TicketAutomationChange} {before : Ticket} {written : Option Uuid} {db' : WorkflowDb}
      (hchange : action.change? = some change)
      (h : automationWrite change before context db.sent = .ok (written, db')) : ActionWrite action context db db'
  | tag {tagId : Uuid} {count : Nat} {db' : WorkflowDb} (haction : action = .addTicketTag tagId)
      (h : insertTicketTag ⟨context.tenantId, context.ticketId, tagId⟩ db.sent = .ok (count, db')) :
      ActionWrite action context db db'
  | notifications {audience : WorkflowNotifyAudience} {userId teamId : Option Uuid} {message : Option String}
      (haction : action = .notify audience userId teamId message) (rows : List WorkflowNotification) :
      ActionWrite action context db (insertNotifications rows db.sent).2

theorem automationWrite_quiet (h : automationWrite change before context db = .ok (written, db')) : Quiet db db' := by
  cases change with
  | assignment => exact writeAutomationAssignment_quiet h
  | priority | status => exact writeAutomationField_quiet h

theorem ActionWrite.quiet {action : WorkflowAction} {context : ActionContext} (h : ActionWrite action context db db') : Quiet db db' := by
  cases h with
  | nothing => exact db.sent_quiet
  | ticket _ h => exact db.sent_quiet.trans (automationWrite_quiet h)
  | tag _ h => exact db.sent_quiet.trans (insertTicketTag_quiet h)
  | notifications _ rows => exact db.sent_quiet.trans (insertNotifications_quiet rows db.sent)

section Actions

variable {action : WorkflowAction}

abbrev WritesFor (action : WorkflowAction) (context : ActionContext) {α : Type} (p : WorkflowM α) : Prop :=
  p.run.Within (fun _ => True) fun _ => ActionWrite action context

theorem writes_pure {α : Type} (a : α) : WritesFor action context (pure a : WorkflowM α) := trivial

theorem writes_query {α : Type} {tag : WorkflowStmt} (f : WorkflowDb → α) : WritesFor action context (query tag f) :=
  within_query fun _ _ => .nothing

theorem writes_transaction {α : Type} {tag : WorkflowStmt} {body : WorkflowDb → Except WorkflowError (α × WorkflowDb)}
    (h : ∀ db a db', body db.sent = .ok (a, db') → ActionWrite action context db db') :
    WritesFor action context (transaction tag body) :=
  within_transaction (fun _ _ => .nothing) fun db a db' _ hrun => h db a db' hrun

theorem applyAutomationField_writes {fields : TicketChange} (raises : Option WorkflowTriggerType)
    (h : ∀ db written db', writeAutomationField before fields context db.sent = .ok (written, db') →
      ActionWrite action context db db') :
    WritesFor action context (applyAutomationField before fields context raises) := by
  apply Prog.Within.throwing_bind (writes_transaction h)
  intro written
  cases written <;> exact writes_pure _

theorem applyAutomation_writes (hchange : action.change? = some change) :
    WritesFor action context (applyAutomation change context) := by
  apply Prog.Within.throwing_bind (writes_query _)
  intro found
  cases found with
  | none => exact writes_pure _
  | some before =>
    have hwrite : ∀ (db : WorkflowDb) (written : Option Uuid) (db' : WorkflowDb),
        automationWrite change before context db.sent = .ok (written, db') → ActionWrite action context db db' :=
      fun _ _ _ h => .ticket hchange h
    cases change with
    | assignment =>
      dsimp only [applyAutomationAssignment]
      split
      · exact writes_pure _
      · apply Prog.Within.throwing_bind (writes_transaction hwrite)
        intro eventId
        cases eventId <;> exact writes_pure _
    | priority =>
      dsimp only
      split
      · exact writes_pure _
      · exact applyAutomationField_writes none hwrite
    | status =>
      dsimp only
      split
      · exact writes_pure _
      · split
        · exact writes_pure _
        · exact applyAutomationField_writes (some .ticketStatusChanged) hwrite

theorem applyAutomation_outcome_writes (hchange : action.change? = some change) : WritesFor action context (do
      let result ← applyAutomation change context
      pure (fromTicketOutcome result)) :=
  Prog.Within.throwing_bind (applyAutomation_writes hchange) fun _ => writes_pure _

theorem reassign_writes (target : WorkflowAssignee) : WritesFor (.reassign target) context (reassign target context) := by
  cases target with
  | team | user =>
    apply Prog.Within.throwing_bind (writes_query _)
    intro found
    split
    · exact writes_pure _
    · exact applyAutomation_outcome_writes rfl

theorem addTicketTag_writes (tagId : Uuid) : WritesFor (.addTicketTag tagId) context (addTicketTag tagId context) := by
  apply Prog.Within.throwing_rescue
  · apply Prog.Within.throwing_bind (writes_transaction fun _ _ _ h => .tag rfl h)
    exact fun _ => writes_pure _
  · intro error
    split
    · exact writes_pure _
    · trivial

theorem resolveRecipients_writes : WritesFor action context (resolveRecipients audience userId teamId context) := by
  cases audience with
  | user =>
    cases userId with
    | none => exact writes_pure _
    | some => exact writes_query _
  | team =>
    cases teamId with
    | none => exact writes_pure _
    | some => exact writes_query _
  | supervisors =>
    apply Prog.Within.throwing_bind (writes_query _)
    intro ticket
    cases ticket with
    | none => exact writes_pure _
    | some ticket =>
      apply Prog.Within.throwing_bind (writes_query _)
      intro candidates
      apply Prog.Within.throwing_bind
      · cases ticket.assignedUserId with
        | none => exact writes_pure _
        | some => exact writes_query _
      · exact fun _ => writes_pure _

theorem notify_writes (message : Option String) :
    WritesFor (.notify audience userId teamId message) context (notify audience userId teamId message context) := by
  apply Prog.Within.throwing_bind (resolveRecipients_writes _ _ _)
  intro recipientUserIds
  split
  · exact writes_pure _
  · apply Prog.Within.throwing_bind
    · apply writes_transaction
      intro db count db' hrun
      have hdb : (insertNotifications _ db.sent).2 = db' := congrArg Prod.snd (Except.ok.inj hrun)
      rw [← hdb]
      exact .notifications rfl _
    · exact fun _ => writes_pure _

theorem execute_writes (action : WorkflowAction) (context : ActionContext) :
    WritesFor action context (execute action context) := by
  apply Prog.Within.throwing_rescue
  · cases action with
    | setStatus | setPriority => exact applyAutomation_outcome_writes rfl
    | reassign target => exact reassign_writes target
    | addTicketTag tagId => exact addTicketTag_writes tagId
    | notify audience userId teamId message => exact notify_writes audience userId teamId message
  · exact fun _ => writes_pure _

end Actions

theorem resolveRecipients_quiet (context : ActionContext) : QuietProgram (resolveRecipients audience userId teamId context) :=
  Prog.Follows.mono (fun _ _ _ _ _ h => ActionWrite.quiet h)
    (show WritesFor (.notify audience userId teamId none) context _ from resolveRecipients_writes audience userId teamId)

theorem execute_quiet (action : WorkflowAction) (context : ActionContext) : QuietProgram (execute action context) :=
  Prog.Follows.mono (fun _ _ _ _ _ h => h.quiet) (execute_writes action context)

theorem loadTicket_quiet : QuietProgram (loadTicket trigger) := by
  apply QuietProgram.bind (quiet_query _)
  intro found
  cases found with
  | none => exact quiet_throw _
  | some => exact quiet_pure _

theorem readTicketTagIds_quiet (ticketId : Uuid) (needed : Bool) :
    QuietProgram (readTicketTagIds trigger ticketId needed) := by
  cases needed with
  | true => exact quiet_query _
  | false => exact quiet_pure _

theorem readContactTagIds_quiet (contactId : Option Uuid) (needed : Bool) :
    QuietProgram (readContactTagIds trigger contactId needed) := by
  cases contactId with
  | none => exact quiet_pure _
  | some =>
    cases needed with
    | true => exact quiet_query _
    | false => exact quiet_pure _

theorem readWithinBusinessHours_quiet (needed : Bool) : QuietProgram (readWithinBusinessHours trigger needed) := by
  cases needed with
  | true => exact quiet_query _
  | false => exact quiet_pure _

theorem loadFacts_quiet : QuietProgram (loadFacts trigger needed) := by
  apply QuietProgram.bind (loadTicket_quiet trigger)
  intro read
  apply QuietProgram.bind (readTicketTagIds_quiet _ _ _)
  intro ticketTagIds
  apply QuietProgram.bind (readContactTagIds_quiet _ _ _)
  intro contactTagIds
  apply QuietProgram.bind (readWithinBusinessHours_quiet _ _)
  exact fun _ => quiet_pure _

theorem factSheet_quiet (facts : Option WorkflowFacts) : QuietProgram (factSheet trigger needed facts) := by
  cases facts with
  | none => exact loadFacts_quiet _ _
  | some => exact quiet_pure _

theorem tryFactSheet_quiet (facts : Option WorkflowFacts) : QuietProgram (tryFactSheet trigger needed facts) := by
  apply QuietProgram.rescue
  · exact (factSheet_quiet trigger needed facts).bind fun _ => quiet_pure _
  · exact fun _ => quiet_pure _

theorem budgetExceeded_quiet (deferring : Bool) (trigger : WorkflowEvaluateTicketTrigger) (overBudget : Option Bool) :
    QuietProgram (budgetExceeded deferring trigger overBudget) := by
  cases overBudget with
  | none => exact quiet_query _
  | some => exact quiet_pure _

theorem belowThreshold_quiet (candidate : CandidateWorkflow)
    (needed : WorkflowFactsNeeded) (memo : Memo) : QuietProgram (belowThreshold trigger candidate needed memo) := by
  unfold belowThreshold
  split
  · exact quiet_pure _
  · exact (factSheet_quiet _ _ _).bind fun _ => quiet_pure _

theorem breakMissing_quiet (db : WorkflowDb) (tenantId workflowId : Uuid) :
    Quiet db (db.breakMissing tenantId workflowId) := by
  refine ⟨⟨rfl, rfl, ?_, List.suffix_refl _, List.prefix_refl _, List.prefix_refl _, id, id⟩, rfl⟩
  apply map_updateWhere
  intro w
  rfl

theorem disarm_quiet {tenantId : Uuid}
    (h : disarm tenantId workflowId runId ticketId db = .ok (u, db')) : Quiet db db' := by
  unfold disarm at h
  split at h
  · cases h
    exact .refl db
  · cases h
    exact (breakMissing_quiet db tenantId workflowId).trans (insertNotifications_quiet _ _)

theorem deactivateIf_quiet (missing : Bool) (tenantId workflowId runId ticketId : Uuid) :
    QuietProgram (deactivateIf missing tenantId workflowId runId ticketId) := by
  cases missing with
  | true => exact quiet_transaction fun _ _ _ => disarm_quiet
  | false => exact quiet_pure _

end WhatsappCrm.Workflows
