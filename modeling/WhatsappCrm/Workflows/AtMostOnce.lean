/-
Purpose: What a claim pays for: a workflow runs at most once for an occurrence.
-/
import WhatsappCrm.Workflows.Engine

namespace WhatsappCrm.Workflows

open Interleaving Table

variable (trigger : WorkflowEvaluateTicketTrigger)

/-- Nothing is recorded, and what is queued is no part of a chain. -/
structure Beside (db db' : WorkflowDb) : Prop where
  log : db'.log = db.log
  jobs : ∃ triggers, db'.jobs = db.jobs ++ triggers ∧ ∀ t ∈ triggers, t.causedByRunId = none

variable {db db' : WorkflowDb}

theorem Beside.of_jobs (hlog : db'.log = db.log) (hjobs : db'.jobs = db.jobs) : Beside db db' :=
  ⟨hlog, [], by rw [hjobs, List.append_nil], nofun⟩

theorem Quiet.beside (h : Quiet db db') : Beside db db' := .of_jobs h.log h.jobs

theorem enqueue_beside {trigger : WorkflowEvaluateTicketTrigger} (hroot : trigger.causedByRunId = none) :
    Beside db (db.enqueue trigger) := by
  obtain ⟨hapart, triggers, hjobs, hall⟩ := enqueue_apart db trigger
  refine ⟨hapart.log, triggers, hjobs, ?_⟩
  intro t ht
  rw [hall t ht, hroot]

theorem outside_beside (h : WorkflowEffect .outside db db') : Beside db db' := by
  cases h with
  | quiet h => exact h.beside
  | queued h hjobs _ hroots => exact ⟨h.log, _, hjobs, hroots rfl⟩
  | edited htag hedit => exact absurd htag.symm hedit

theorem apply_beside {event : WorkflowEvent} (h : event.apply db.sent = .ok ((), db')) : Beside db db' := by
  cases event with
  | createWorkflow =>
    obtain ⟨id, uuids, -, rfl⟩ := insertWorkflow_spec h
    exact .of_jobs rfl rfl
  | editWorkflow | deleteWorkflow =>
    cases h
    exact .of_jobs rfl rfl
  | _ =>
    exact outside_beside (apply_effect h)

variable {α β : Type}

abbrev Pays (L : Ledger WorkflowDb) (n : Nat) (p : WorkflowM α) : Prop := p.run.Affords (fun _ => True) L n

abbrev IdleProgram (L : Ledger WorkflowDb) (p : WorkflowM α) : Prop := p.run.Within (fun _ => True) fun _ => L.Idle

theorem QuietProgram.idle (h : QuietProgram p) (hidle : ∀ {db db'}, Beside db db' → L.Idle db db') : IdleProgram L p :=
  Prog.Follows.mono (fun _ _ _ _ _ hquiet => hidle hquiet.beside) h

theorem idle_transaction {body : WorkflowDb → Except WorkflowError (α × WorkflowDb)}
    (hidle : ∀ {db db'}, Beside db db' → L.Idle db db')
    (h : ∀ (db : WorkflowDb) a db', body db.sent = .ok (a, db') → Beside db db') : IdleProgram L (transaction tag body) := by
  apply within_transaction fun db _ => hidle db.sent_quiet.beside
  intro db a db' _ hrun
  exact hidle (h db a db' hrun)

theorem finish_idle (hidle : ∀ {db db'}, Beside db db' → L.Idle db db') (guarded : Bool) (tenantId runId : Uuid)
    (outcome : RunEnd) : IdleProgram L (finish guarded tenantId runId outcome) := by
  apply idle_transaction hidle
  intro db u db' hrun
  cases hrun
  exact .of_jobs rfl rfl

theorem closeThrown_idle (hidle : ∀ {db db'}, Beside db db' → L.Idle db db') (trigger : WorkflowEvaluateTicketTrigger)
    (runId : Uuid) (error : WorkflowError) : IdleProgram L (closeThrown trigger runId error) :=
  Prog.Within.throwing_bind (finish_idle hidle false _ _ _) fun _ => trivial

theorem pays_transaction_bind {f : α → WorkflowM β} (hidle : ∀ {db db'}, Beside db db' → L.Idle db db')
    (h : ∀ db a db', body db.sent = .ok (a, db') → ∃ n', L.Settles db db' n n' ∧ Pays L n' (f a)) :
    Pays L n (transaction tag body >>= f) := by
  apply Prog.Affords.statement_bind
  intro db _
  rcases db.transact_cases body with ⟨e, heq⟩ | ⟨a, db', hrun, heq⟩
  · rw [heq]
    exact ⟨n, (hidle db.sent_quiet.beside).settles n, nofun⟩
  · rw [heq]
    obtain ⟨n', hsettles, hnext⟩ := h db a db' hrun
    refine ⟨n', hsettles, ?_⟩
    rintro a' ⟨⟩
    exact hnext

theorem loadCandidates_valid :
    Throwing.Answers (fun candidates => ∀ candidate ∈ candidates, candidate.definition.valid = true)
      (loadCandidates trigger) := by
  apply Throwing.Answers.statement
  intro db candidates hanswer candidate hmem
  rcases db.transact_cases fun db => .ok
      ((db.armedWorkflows trigger.tenantId trigger.triggerType).filterMap Workflow.candidate, db) with
    ⟨e, heq⟩ | ⟨answer, db', hrun, heq⟩
  · rw [heq] at hanswer
    cases hanswer
  · rw [heq] at hanswer
    cases hrun
    cases hanswer
    obtain ⟨w, _, hcandidate⟩ := List.mem_filterMap.mp hmem
    obtain ⟨definition, hread, rfl⟩ := Option.map_eq_some_iff.mp hcandidate
    have haccepted := (Option.filter_eq_some_iff.mp hread).2
    simp only [decide_eq_true_eq] at haccepted
    exact haccepted.1

structure Funded (L : Ledger WorkflowDb) (grant : WorkflowEvaluateTicketTrigger → CandidateWorkflow → Uuid → Nat) :
    Prop where
  idle : ∀ {db db'}, Beside db db' → L.Idle db db'
  claims : ∀ {trigger candidate id db db'}, insertClaim trigger candidate db = .ok (some id, db') →
    L.Settles db db' 0 (grant trigger candidate id)
  runs : ∀ trigger candidate runId n, candidate.definition.valid = true → grant trigger candidate runId ≤ n →
    Pays L n (executeActions trigger candidate runId)

namespace Funded

variable (hL : Funded L grant)

include hL

theorem runClaimed_pays {trigger : WorkflowEvaluateTicketTrigger} {candidate : CandidateWorkflow}
    (hvalid : candidate.definition.valid = true) (hgrant : grant trigger candidate runId ≤ n)
    (needed : WorkflowFactsNeeded) (memo : Memo) (report : WorkflowEvaluationReport) :
    Pays L n (runClaimed trigger candidate needed runId memo report) := by
  apply Prog.Within.affords_throwing_bind ((budgetExceeded_quiet false trigger memo.overBudget).idle hL.idle)
  intro overBudget
  split
  · apply Prog.Within.affords_throwing_bind (finish_idle hL.idle false _ _ _)
    exact fun _ => trivial
  · apply Prog.Affords.throwing_bind
    · apply Prog.Within.affords_throwing_bind ((tryFactSheet_quiet trigger needed memo.facts).idle hL.idle)
      intro read
      cases read with
      | error =>
        apply Prog.Within.affords_throwing_bind (closeThrown_idle hL.idle _ _ _)
        exact fun _ => trivial
      | ok =>
        apply Prog.Affords.throwing_bind
        · apply Prog.Affords.throwing_rescue
          · unfold runWith
            split
            · apply Prog.Within.affords_throwing_bind (finish_idle hL.idle true _ _ _)
              exact fun _ => trivial
            · exact hL.runs trigger candidate runId n hvalid hgrant
          · exact fun error n' => (closeThrown_idle hL.idle _ _ _).affords n'
        · exact fun _ _ => trivial
    · exact fun _ _ => trivial

theorem runEach_pays (needed : WorkflowFactsNeeded)
    (candidates : List CandidateWorkflow) (hvalid : ∀ candidate ∈ candidates, candidate.definition.valid = true)
    (memo : Memo) (report : WorkflowEvaluationReport) (n : Nat) :
    Pays L n (runEach trigger needed candidates memo report) := by
  induction candidates generalizing memo report n with
  | nil => trivial
  | cons candidate candidates ih =>
    have hrest := ih fun c hc => hvalid c (List.mem_cons_of_mem _ hc)
    apply Prog.Within.affords_throwing_bind ((belowThreshold_quiet trigger candidate needed memo).idle hL.idle)
    intro below
    split
    · exact hrest _ _ _
    · apply pays_transaction_bind hL.idle
      intro db claimed db' hrun
      cases claimed with
      | none =>
        rw [insertClaim_none hrun]
        exact ⟨n, (hL.idle db.sent_quiet.beside).settles n, hrest _ _ _⟩
      | some runId =>
        have hsettles := hL.claims hrun
        have hsent := (hL.idle db.sent_quiet.beside).settles n
        refine ⟨n + grant trigger candidate runId, ?_, ?_⟩
        · unfold Ledger.Settles at hsettles hsent ⊢
          omega
        · apply (hL.runClaimed_pays (hvalid candidate List.mem_cons_self) (Nat.le_add_left _ n) _ _ _).throwing_bind
          exact fun _ _ => hrest _ _ _

theorem evaluateTicket_pays (n : Nat) : Pays L n (evaluateTicket trigger) := by
  unfold evaluateTicket
  split
  · trivial
  · unfold evaluate
    split
    · trivial
    · apply Prog.Within.affords_throwing_bind_of ((quiet_query _).idle hL.idle) (loadCandidates_valid trigger)
      intro candidates hvalid
      split
      · trivial
      · unfold runCandidates
        split
        · apply Prog.Within.affords_throwing_bind ((budgetExceeded_quiet true trigger none).idle hL.idle)
          intro overBudget
          split
          · trivial
          · exact hL.runEach_pays _ _ _ hvalid _ _ _
        · exact hL.runEach_pays _ _ _ hvalid _ _ _

theorem deliver_pays : Pays L 0 (deliver trigger) := by
  apply Prog.Affords.statement_bind
  intro db _
  refine ⟨0, (Ledger.Idle.refl db).settles 0, ?_⟩
  intro queued _
  cases queued with
  | false => trivial
  | true => exact (hL.evaluateTicket_pays trigger 0).throwing_bind fun _ _ => trivial

theorem sweep_idle : IdleProgram L sweep := by
  have henqueueAll : ∀ tickets, IdleProgram L (enqueueAll tickets) := by
    intro tickets
    induction tickets with
    | nil => trivial
    | cons t tickets ih =>
      apply Prog.Within.throwing_bind
      · exact Prog.Within.ghost fun db _ => hL.idle (enqueue_beside rfl)
      · exact fun _ => ih
  apply Prog.Within.throwing_bind ((quiet_query _).idle hL.idle)
  intro threshold
  cases threshold with
  | none => trivial
  | some => exact Prog.Within.throwing_bind ((quiet_query _).idle hL.idle) henqueueAll

theorem callBody_pays (call : WorkflowCall) : (workflowProgram call).Affords (fun _ => True) L 0 := by
  cases call with
  | deliver trigger => exact hL.deliver_pays trigger
  | sweep => exact hL.sweep_idle.affords 0
  | event => exact (idle_transaction hL.idle fun db _ db' hrun => apply_beside hrun).affords 0

end Funded

end WhatsappCrm.Workflows

namespace WhatsappCrm.Workflows

open Interleaving Table

def WorkflowEvaluateTicketTrigger.occurs (t : WorkflowEvaluateTicketTrigger) : Uuid × WorkflowTriggerType × Option Uuid :=
  (t.ticketId, t.triggerType, t.occurrenceId)

variable {t t' : WorkflowEvaluateTicketTrigger} {db : WorkflowDb}

theorem occurs_eq_iff : t.occurs = t'.occurs ↔
      t.ticketId = t'.ticketId ∧ t.triggerType = t'.triggerType ∧ t.occurrenceId = t'.occurrenceId := by
  simp [WorkflowEvaluateTicketTrigger.occurs]

theorem workflowDedupeKey_congr (h : t.occurs = t'.occurs) : workflowDedupeKey t = workflowDedupeKey t' := by
  obtain ⟨hticket, htype, hid⟩ := occurs_eq_iff.mp h
  have hoccurrence : t.occurrence = t'.occurrence := by
    simp only [WorkflowEvaluateTicketTrigger.occurrence, htype, hid]
  simp only [workflowDedupeKey, hticket, hoccurrence]

theorem recorded_event {id : Option Uuid} (h : db.recorded t = true) (hevent : t.occurrence = .event id) :
    ∃ row ∈ db.ticketEvents, t.occurrenceId = some row.id ∧ t.triggerType.recordedBy row.event.data = true := by
  cases htype : t.triggerType with
  | ticketCreated | ticketUnresolvedFor | ticketSlaBreached =>
    simp [WorkflowEvaluateTicketTrigger.occurrence, htype] at hevent
  | ticketStatusChanged | ticketAssigned =>
    simp only [WorkflowDb.recorded, htype] at h
    obtain ⟨row, hrow, hrest⟩ := List.any_eq_true.mp h
    obtain ⟨hid, -, hdata⟩ := of_decide_eq_true hrest
    exact ⟨row, hrow, hid, hdata⟩

theorem recordedBy_inj {a b : WorkflowTriggerType} (ha : a.recordedBy data = true)
    (hb : b.recordedBy data = true) : a = b := by
  cases data <;> simp only [WorkflowTriggerType.recordedBy, decide_eq_true_eq, Bool.false_eq_true] at ha hb
  all_goals rw [ha, hb]

/-- Two occurrences on record never share a key: a status change and an assignment are never one event. -/
theorem recorded_key_inj (hs : Sound db) (h : db.recorded t = true) (h' : db.recorded t' = true) (hkey : workflowDedupeKey t = workflowDedupeKey t') :
    t.occurs = t'.occurs := by
  obtain ⟨hticket, hoccurrence⟩ := workflowDedupeKey_inj hkey
  apply occurs_eq_iff.mpr
  refine ⟨hticket, ?_⟩
  cases hcase : t.occurrence with
  | event id =>
    obtain ⟨row, hrow, hid, hdata⟩ := recorded_event h hcase
    obtain ⟨row', hrow', hid', hdata'⟩ := recorded_event h' (hoccurrence ▸ hcase)
    have hids : t.occurrenceId = t'.occurrenceId := by
      rw [hcase] at hoccurrence
      cases htype : t.triggerType <;> cases htype' : t'.triggerType <;>
        simp_all [WorkflowEvaluateTicketTrigger.occurrence]
    have hsame : row = row' := by
      apply hs.eventIds.eq_of_entry hrow hrow' (k := row.id) rfl
      rw [hid, hid'] at hids
      rw [TicketEventRow.idEntry, hids]
    exact ⟨recordedBy_inj hdata (hsame ▸ hdata'), hids⟩
  | created | elapsed | timer =>
    rw [hcase] at hoccurrence
    cases htype : t.triggerType <;> cases htype' : t'.triggerType <;>
      simp_all [WorkflowEvaluateTicketTrigger.occurrence, WorkflowDb.recorded]

theorem Sound.run_unique (hs : Sound db) (hr : r ∈ db.runs) (hr' : r' ∈ db.runs)
    (htenant : r.tenantId = r'.tenantId) (hworkflow : r.workflowId = r'.workflowId)
    (hoccurs : r.trigger.occurs = r'.trigger.occurs) : r = r' := by
  obtain ⟨⟨-, -, -, hkey⟩, -⟩ := hs.runs r hr
  obtain ⟨⟨-, -, -, hkey'⟩, -⟩ := hs.runs r' hr'
  have hkeys : r.dedupeKey = r'.dedupeKey := by rw [hkey, hkey', workflowDedupeKey_congr hoccurs]
  have hentry : r.claimEntry = r'.claimEntry := by simp only [WorkflowRun.claimEntry, htenant, hworkflow, hkeys]
  exact hs.claims.eq_of_entry hr hr' hentry rfl

/-- The record is an execution of the action at `index`, on behalf of a claim under this entry. -/
def WorkflowRecord.spends (entry : Uuid × Uuid × String) (index : Nat) : WorkflowRecord → Bool
  | .executed _ workflowId trigger i => (trigger.tenantId, workflowId, workflowDedupeKey trigger) = entry ∧ i = index
  | .claimed .. => false

def Executions (entry : Uuid × Uuid × String) (index : Nat) : Ledger WorkflowDb where
  granted db := db.log.countP (WorkflowRecord.claims entry)
  spent db := db.log.countP (WorkflowRecord.spends entry index)

variable {entry : Uuid × Uuid × String} {index : Nat}

theorem idle_of_log (h : db'.log = db.log) : (Executions entry index).Idle db db' := by
  simp [Ledger.Idle, Executions, h]

theorem executions_idle (h : Beside db db') : (Executions entry index).Idle db db' := idle_of_log h.log

theorem raiseChained_idle (cause : WorkflowEvaluateTicketTrigger) (runId : Uuid) (occurrences : List RaisedOccurrence) :
    (raiseChained cause runId occurrences).run.Within (fun _ => True) fun _ => (Executions entry index).Idle := by
  induction occurrences with
  | nil => trivial
  | cons occurrence occurrences ih =>
    apply Prog.Within.throwing_bind
    · exact Prog.Within.ghost fun db _ => idle_of_log (enqueue_apart db _).1.log
    · exact fun _ => ih

theorem settles_record (hlog : db'.log = db.log ++ [record])
    (h : (if record.spends entry index then 1 else 0) + n' ≤ n + (if record.claims entry then 1 else 0)) :
    (Executions entry index).Settles db db' n n' := by
  simp only [Ledger.Settles, Executions, hlog, List.countP_append, List.countP_singleton]
  omega

/-- From `first` on, the actions need a credit only when the one in question is still to come. -/
theorem executeFrom_pays (trigger : WorkflowEvaluateTicketTrigger) (candidate : CandidateWorkflow) (runId : Uuid)
    (actions : List WorkflowAction) (first : Nat) (done : ActionsDone) (n : Nat)
    (hcredit : (trigger.tenantId, candidate.id, workflowDedupeKey trigger) = entry → first ≤ index → 1 ≤ n) :
    Pays (Executions entry index) n (executeFrom trigger candidate runId first done actions) := by
  induction actions generalizing first done n with
  | nil => trivial
  | cons action actions ih =>
    rw [executeFrom]
    split
    · exact ih _ _ _ fun heq hfirst => hcredit heq (by omega)
    · apply Prog.Affords.statement_bind
      intro db _
      by_cases hspend : (trigger.tenantId, candidate.id, workflowDedupeKey trigger) = entry ∧ first = index
      · obtain ⟨heq, rfl⟩ := hspend
        have hpositive := hcredit heq (Nat.le_refl _)
        refine ⟨n - 1, settles_record rfl ?_, ?_⟩
        · simp only [WorkflowRecord.spends, heq, and_self, decide_true, if_true]
          omega
        · intro _ _
          apply Prog.Within.affords_throwing_bind ((execute_quiet action _).idle executions_idle)
          intro outcome
          exact ih _ _ _ fun _ hfirst => absurd hfirst (by omega)
      · refine ⟨n, settles_record rfl ?_, ?_⟩
        · simp only [WorkflowRecord.spends, hspend, decide_false, Bool.false_eq_true, if_false]
          omega
        · intro _ _
          apply Prog.Within.affords_throwing_bind ((execute_quiet action _).idle executions_idle)
          intro outcome
          apply ih
          intro heq hfirst
          exact hcredit heq (by omega)

theorem executeActions_pays (trigger : WorkflowEvaluateTicketTrigger) (candidate : CandidateWorkflow) (runId : Uuid)
    (n : Nat) (hcredit : (trigger.tenantId, candidate.id, workflowDedupeKey trigger) = entry → 1 ≤ n) :
    Pays (Executions entry index) n (executeActions trigger candidate runId) := by
  apply Prog.Affords.throwing_bind (executeFrom_pays trigger candidate runId _ 0 {} n fun heq _ => hcredit heq)
  intro done n'
  apply Prog.Within.affords_throwing_bind (finish_idle executions_idle true _ _ _)
  intro _
  apply Prog.Within.affords_throwing_bind ((deactivateIf_quiet _ _ _ _ _).idle executions_idle)
  intro _
  apply Prog.Within.affords_throwing_bind (raiseChained_idle trigger runId _)
  exact fun _ => trivial

theorem executions_funded : Funded (Executions entry index) fun trigger candidate _ =>
    if (trigger.tenantId, candidate.id, workflowDedupeKey trigger) = entry then 1 else 0 where
  idle := executions_idle
  claims := by
    intro trigger candidate id db db' hrun
    obtain ⟨uuids, -, -, -, -, rfl⟩ := insertClaim_spec hrun
    apply settles_record rfl
    by_cases hentry : (trigger.tenantId, candidate.id, workflowDedupeKey trigger) = entry <;>
      simp [WorkflowRecord.spends, WorkflowRecord.claims, hentry]
  runs := by
    intro trigger candidate runId n _ hgrant
    apply executeActions_pays
    intro hentry
    simpa [hentry] using hgrant

theorem Reachable.spends_le (h₀ : Sound db) (hlog : db.log = [])
    (hs : WorkflowsRun db s) : s.db.log.countP (WorkflowRecord.spends entry index) ≤ 1 := by
  have hinitial : (Executions entry index).spent db ≤ (Executions entry index).granted db := by
    simp [Executions, hlog]
  have hspent := (Reachable.solvent executions_funded.callBody_pays hinitial (fun _ _ => trivial) hs).spent_le
  exact Nat.le_trans hspent ((Reachable.sound h₀ hs).once entry)

/-- The record is an execution of the action at `index` of a workflow, on behalf of an occurrence. -/
def WorkflowRecord.executes (tenantId workflowId : Uuid) (occurs : Uuid × WorkflowTriggerType × Option Uuid)
    (index : Nat) : WorkflowRecord → Bool
  | .executed _ wid trigger i =>
    trigger.tenantId = tenantId ∧ wid = workflowId ∧ trigger.occurs = occurs ∧ i = index
  | .claimed .. => false

theorem executes_le_spends (log : List WorkflowRecord) (tenantId workflowId : Uuid)
    (occurs : Uuid × WorkflowTriggerType × Option Uuid) (index : Nat)
    (hle : ∀ entry, log.countP (WorkflowRecord.spends entry index) ≤ 1) :
    log.countP (WorkflowRecord.executes tenantId workflowId occurs index) ≤ 1 := by
  by_cases hnone : ∀ record ∈ log, record.executes tenantId workflowId occurs index = false
  · have hzero : log.countP (WorkflowRecord.executes tenantId workflowId occurs index) = 0 := by
      apply List.countP_eq_zero.mpr
      intro record hrecord
      simp [hnone record hrecord]
    omega
  · push Not at hnone
    obtain ⟨record, _, hexecutes⟩ := hnone
    cases record with
    | claimed => exact absurd rfl hexecutes
    | executed runId wid trigger =>
      simp only [WorkflowRecord.executes, ne_eq, Bool.not_eq_false, decide_eq_true_eq] at hexecutes
      obtain ⟨-, -, hoccurs, -⟩ := hexecutes
      apply Nat.le_trans _ (hle (tenantId, workflowId, workflowDedupeKey trigger))
      apply List.countP_mono_left
      intro record' _ h'
      cases record' with
      | claimed => cases h'
      | executed =>
        simp only [WorkflowRecord.executes, decide_eq_true_eq] at h'
        obtain ⟨htenant, rfl, hoccurs', rfl⟩ := h'
        have hkey := workflowDedupeKey_congr (hoccurs'.trans hoccurs.symm)
        simp [WorkflowRecord.spends, htenant, hkey]

/-- Whatever is delivered, swept, edited or broken in between: a workflow and an occurrence have at most one run,
    each action is executed at most once for it, and no two occurrences on record share a key. -/
theorem each_occurrence_runs_once {db : WorkflowDb} {s : WorkflowSys} (h₀ : Sound db) (hlog : db.log = [])
    (hs : WorkflowsRun db s) :
    (∀ r ∈ s.db.runs, ∀ r' ∈ s.db.runs, r.tenantId = r'.tenantId → r.workflowId = r'.workflowId →
        r.trigger.occurs = r'.trigger.occurs → r = r') ∧
      (∀ tenantId workflowId occurs index,
        s.db.log.countP (WorkflowRecord.executes tenantId workflowId occurs index) ≤ 1) ∧
      (∀ t ∈ s.db.jobs, s.db.recorded t = true) ∧
      ∀ t t', s.db.recorded t = true → s.db.recorded t' = true → workflowDedupeKey t = workflowDedupeKey t' →
        t.occurs = t'.occurs := by
  have hsound := Reachable.sound h₀ hs
  refine ⟨?_, ?_, fun t ht => (hsound.jobs t ht).recorded, fun t t' => recorded_key_inj hsound⟩
  · intro r hr r' hr'
    exact hsound.run_unique hr hr'
  · intro tenantId workflowId occurs index
    apply executes_le_spends
    exact fun entry => Reachable.spends_le h₀ hlog hs

theorem oneArmedWorkflow_sound : Sound oneArmedWorkflow :=
  Sound.fresh rfl rfl (by decide) (by decide) (by decide) (by decide) (by decide)

def redeliveredOpening : List (Move WorkflowCall) :=
  [.spawn (.deliver openedTrigger), .spawn (.deliver openedTrigger)] ++
    (List.replicate 3 [Move.step 0, Move.step 1]).flatten ++ List.replicate 6 (.step 0)

theorem each_occurrence_runs_once_redelivered : ∃ s, WorkflowsRun oneArmedWorkflow s ∧
    s.db.runs.map (·.status) = [.succeeded] ∧
      s.db.log.countP (WorkflowRecord.executes 1 7 openedTrigger.occurs 0) = 1 ∧
      (∀ r ∈ s.db.runs, ∀ r' ∈ s.db.runs, r.tenantId = r'.tenantId → r.workflowId = r'.workflowId →
        r.trigger.occurs = r'.trigger.occurs → r = r') ∧
      ∀ tenantId workflowId occurs index,
        s.db.log.countP (WorkflowRecord.executes tenantId workflowId occurs index) ≤ 1 := by
  have hrun : ((run workflowProgram (fun _ _ _ => true) redeliveredOpening (.idle oneArmedWorkflow)).map fun s =>
      decide (s.db.runs.map (·.status) = [.succeeded] ∧
        s.db.log.countP (WorkflowRecord.executes 1 7 openedTrigger.occurs 0) = 1)) = some true := by
    decide +kernel
  obtain ⟨s, hreached, hfinal⟩ := ends_of_run_any hrun
  obtain ⟨hstatus, hexecuted⟩ := of_decide_eq_true hfinal
  obtain ⟨hunique, honce, -, -⟩ := each_occurrence_runs_once oneArmedWorkflow_sound rfl hreached
  exact ⟨s, hreached, hstatus, hexecuted, hunique, honce⟩

end WhatsappCrm.Workflows
