/-
Purpose: A chain of workflows ends.
-/
import WhatsappCrm.Lib.Cascade
import WhatsappCrm.Workflows.AtMostOnce

namespace WhatsappCrm.Workflows

open Interleaving Table

/-- The job was queued by this run. -/
def WorkflowEvaluateTicketTrigger.causedBy (runId : Uuid) (t : WorkflowEvaluateTicketTrigger) : Bool :=
  t.causedByRunId = some runId

def WorkflowRecord.runOf (t : WorkflowEvaluateTicketTrigger) : WorkflowRecord → Option (Uuid × Uuid)
  | .claimed runId workflowId trigger => if trigger = t then some (runId, workflowId) else none
  | .executed .. => none

def runsFor (db : WorkflowDb) (t : WorkflowEvaluateTicketTrigger) : List (Uuid × Uuid) :=
  db.log.filterMap (WorkflowRecord.runOf t)

def chainedFrom (db : WorkflowDb) (t : WorkflowEvaluateTicketTrigger) : List WorkflowEvaluateTicketTrigger :=
  (runsFor db t).flatMap fun run => db.jobs.filter (WorkflowEvaluateTicketTrigger.causedBy run.1)

variable {t : WorkflowEvaluateTicketTrigger} {db : WorkflowDb}

theorem runOf_eq_some {record : WorkflowRecord} {run : Uuid × Uuid} :
    record.runOf t = some run ↔ record = .claimed run.1 run.2 t := by
  cases record with
  | executed => simp [WorkflowRecord.runOf]
  | claimed runId workflowId trigger =>
    obtain ⟨runId', workflowId'⟩ := run
    by_cases htrigger : trigger = t <;> simp [WorkflowRecord.runOf, htrigger]

theorem mem_runsFor {run : Uuid × Uuid} : run ∈ runsFor db t ↔ .claimed run.1 run.2 t ∈ db.log := by
  simp [runsFor, List.mem_filterMap, runOf_eq_some]

theorem mem_chainedFrom : t' ∈ chainedFrom db t ↔
      t' ∈ db.jobs ∧ ∃ runId workflowId, .claimed runId workflowId t ∈ db.log ∧ t'.causedByRunId = some runId := by
  constructor
  · intro h
    obtain ⟨run, hrun, hjob⟩ := List.mem_flatMap.mp h
    obtain ⟨hmem, hcaused⟩ := List.mem_filter.mp hjob
    exact ⟨hmem, run.1, run.2, mem_runsFor.mp hrun, of_decide_eq_true hcaused⟩
  · rintro ⟨hmem, runId, workflowId, hclaimed, hcaused⟩
    apply List.mem_flatMap.mpr
    exact ⟨(runId, workflowId), mem_runsFor.mpr hclaimed, List.mem_filter.mpr ⟨hmem, decide_eq_true hcaused⟩⟩

theorem Sound.claim_unique (hs : Sound db) {runId : Uuid} (h : .claimed runId workflowId t ∈ db.log)
    (h' : .claimed runId workflowId' t' ∈ db.log) : t = t' := by
  have hsame := eq_of_countP_le_one (hs.runOnce runId) h h' (decide_eq_true rfl) (decide_eq_true rfl)
  cases hsame
  rfl

theorem chained_depth (hs : Sound db) (t : WorkflowEvaluateTicketTrigger) :
    ∀ t' ∈ chainedFrom db t, t'.depth = t.depth + 1 := by
  intro t' h
  obtain ⟨hjob, runId, workflowId, hclaimed, hcaused⟩ := mem_chainedFrom.mp h
  rcases (hs.jobs t' hjob).origin with ⟨-, hroot⟩ | ⟨runId', workflowId', cause, hclaimed', hcaused', hdepth, -⟩
  · rw [hroot] at hcaused
    cases hcaused
  · rw [hcaused] at hcaused'
    cases hcaused'
    rw [hdepth, hs.claim_unique hclaimed hclaimed']

theorem chained_shallow (hs : Sound db) (t : WorkflowEvaluateTicketTrigger) :
    ∀ t' ∈ chainedFrom db t, t'.depth ≤ maxChainDepth + 1 := by
  intro t' h
  have hvalid := (hs.jobs t' (mem_chainedFrom.mp h).1).valid
  simp only [WorkflowEvaluateTicketTrigger.valid, decide_eq_true_eq] at hvalid
  exact hvalid.1

structure WorkflowsAmong (ids : List Uuid) (db : WorkflowDb) : Prop where
  present : ∀ w ∈ db.workflows, w.id ∈ ids
  claimed : ∀ runId workflowId t, .claimed runId workflowId t ∈ db.log → workflowId ∈ ids

theorem WorkflowsAmong.apart (h : WorkflowsAmong ids db) (hapart : Apart db db') : WorkflowsAmong ids db' where
  present := by
    intro w hw
    obtain ⟨w₀, hw₀, heq⟩ := mem_of_disarmed hapart.workflows hw
    rw [← (disarmed_ids heq).2]
    exact h.present w₀ hw₀
  claimed := hapart.log ▸ h.claimed

theorem WorkflowsAmong.apply (h : WorkflowsAmong ids db) {event : WorkflowEvent}
    (hedit : event.stmt = .edit) (hrun : event.apply db.sent = .ok ((), db')) : WorkflowsAmong ids db' := by
  cases event with
  | editWorkflow =>
    cases hrun
    refine ⟨?_, h.claimed⟩
    intro w' hw'
    obtain ⟨w₀, hw₀, ⟨hsame, rfl⟩ | ⟨-, rfl⟩⟩ := mem_updateWhere hw'
    · simp only [decide_eq_true_eq] at hsame
      rw [← hsame.2]
      exact h.present w₀ hw₀
    · exact h.present w' hw₀
  | deleteWorkflow =>
    cases hrun
    exact ⟨fun w hw => h.present w (List.mem_filter.mp hw).1, h.claimed⟩
  | _ => cases hedit

theorem WorkflowsAmong.effect (htag : tag ≠ .create)
    (heffect : WorkflowEffect tag db db') (h : WorkflowsAmong ids db) : WorkflowsAmong ids db' := by
  cases heffect with
  | quiet hquiet => exact h.apart hquiet.toApart
  | queued hapart => exact h.apart hapart
  | claimed _ _ hclaim =>
    obtain ⟨uuids, -, -, -, ⟨w, hw, -, hid⟩, rfl⟩ := insertClaim_spec hclaim
    refine ⟨h.present, ?_⟩
    intro runId workflowId t hmem
    rcases List.mem_append.mp hmem with hold | hnew
    · exact h.claimed runId workflowId t hold
    · cases List.mem_singleton.mp hnew
      exact hid ▸ h.present w hw
  | closed => exact ⟨h.present, h.claimed⟩
  | executing =>
    refine ⟨h.present, ?_⟩
    intro runId workflowId t hmem
    rcases List.mem_append.mp hmem with hold | hnew
    · exact h.claimed runId workflowId t hold
    · cases List.mem_singleton.mp hnew
  | @edited _ _ _ event heq hedit hrun =>
    apply h.apply _ hrun
    subst heq
    cases event with
    | createWorkflow => exact absurd rfl htag
    | editWorkflow | deleteWorkflow => rfl
    | _ => exact absurd rfl hedit

def noneAdded (_ : WorkflowSys) (_ : WorkflowCall) (tag : WorkflowStmt) : Prop := tag ≠ .create

theorem Reachable.workflowsAmong (h₀ : Sound db) (hlog : db.log = [])
    (hs : Reachable workflowProgram noneAdded (.idle db) s) : WorkflowsAmong (db.workflows.map (·.id)) s.db := by
  apply Reachable.effect (engine_sound.under fun tag _ => tag ≠ .create)
    (fun call db' => ((callBody_keeps call db').guards).under _) (fun _ _ _ hcond => ⟨trivial, hcond⟩)
    (fun _ _ _ _ hcond heffect hamong => WorkflowsAmong.effect hcond.2 heffect hamong) (Sys.guarded_idle h₀) ?_ hs
  exact ⟨fun w hw => List.mem_map_of_mem hw, by simp [Sys.idle, hlog]⟩

theorem runsFor_length_le (hs : Sound db) (hamong : WorkflowsAmong ids db)
    (t : WorkflowEvaluateTicketTrigger) : (runsFor db t).length ≤ ids.length := by
  have hcount : ∀ workflowId, ((runsFor db t).map (·.2)).count workflowId ≤ 1 := by
    intro workflowId
    rw [List.count, List.countP_map, runsFor, List.countP_filterMap]
    apply Nat.le_trans _ (hs.once (t.tenantId, workflowId, workflowDedupeKey t))
    apply List.countP_mono_left
    intro record _ hrecord
    cases hrun : record.runOf t with
    | none => simp [hrun] at hrecord
    | some =>
      obtain rfl := runOf_eq_some.mp hrun
      simpa [hrun, WorkflowRecord.claims] using hrecord
  have hsubset : (runsFor db t).map (·.2) ⊆ ids := by
    intro workflowId hmem
    obtain ⟨run, hrun, rfl⟩ := List.mem_map.mp hmem
    exact hamong.claimed _ _ _ (mem_runsFor.mp hrun)
  have hsubperm := List.subperm_of_subset (List.nodup_iff_count_le_one.mpr hcount) hsubset
  simpa using hsubperm.length_le

def Chained (runId : Uuid) : Ledger WorkflowDb where
  granted db := actionsPerWorkflow * db.log.countP (WorkflowRecord.claimsRun runId)
  spent db := db.jobs.countP (WorkflowEvaluateTicketTrigger.causedBy runId)

variable {runId : Uuid}

theorem chained_idle (h : Beside db db') : (Chained runId).Idle db db' := by
  obtain ⟨triggers, hjobs, hroots⟩ := h.jobs
  have hnone : triggers.countP (WorkflowEvaluateTicketTrigger.causedBy runId) = 0 := by
    apply List.countP_eq_zero.mpr
    intro t ht
    simp [WorkflowEvaluateTicketTrigger.causedBy, hroots t ht]
  simp [Ledger.Idle, Chained, h.log, hjobs, hnone]

theorem executeFrom_idle (trigger : WorkflowEvaluateTicketTrigger) (candidate : CandidateWorkflow) (id : Uuid)
    (actions : List WorkflowAction) (index : Nat) (done : ActionsDone) :
    IdleProgram (Chained runId) (executeFrom trigger candidate id index done actions) := by
  induction actions generalizing index done with
  | nil => trivial
  | cons action actions ih =>
    rw [executeFrom]
    split
    · exact ih _ _
    · apply Prog.Within.throwing_bind
      · apply Prog.Within.ghost
        intro db _
        simp [Ledger.Idle, Chained, WorkflowRecord.claimsRun]
      · intro _
        exact Prog.Within.throwing_bind ((execute_quiet action _).idle chained_idle) fun outcome => ih _ _

/-- An action raises one occurrence at most. -/
theorem executeFrom_chained (trigger : WorkflowEvaluateTicketTrigger) (candidate : CandidateWorkflow) (id : Uuid)
    (actions : List WorkflowAction) (index : Nat) (done : ActionsDone) :
    Throwing.Answers (fun done' => done'.chained.length ≤ done.chained.length + actions.length)
      (executeFrom trigger candidate id index done actions) := by
  induction actions generalizing index done with
  | nil => exact Throwing.Answers.of_pure (Nat.le_refl _)
  | cons action actions ih =>
    rw [executeFrom]
    split
    · apply (ih (index + 1) (done.skip index action)).mono
      intro done' hlength
      simp only [ActionsDone.skip, List.length_cons] at hlength ⊢
      omega
    · apply (Throwing.Answers.any _).bind
      intro _ _
      apply (Throwing.Answers.any _).bind
      intro outcome _
      apply (ih (index + 1) (done.add index action outcome)).mono
      intro done' hlength
      have hone : outcome.occurrence.toList.length ≤ 1 := by cases outcome.occurrence <;> simp
      simp only [ActionsDone.add, List.length_append, List.length_cons] at hlength ⊢
      omega

theorem enqueue_causedBy (runId : Uuid) (db : WorkflowDb) (cause : WorkflowEvaluateTicketTrigger) (id : Uuid)
    (occurrence : RaisedOccurrence) :
    (db.enqueue (chainedTrigger cause id occurrence)).jobs.countP (WorkflowEvaluateTicketTrigger.causedBy runId) ≤
      db.jobs.countP (WorkflowEvaluateTicketTrigger.causedBy runId) + if id = runId then 1 else 0 := by
  unfold WorkflowDb.enqueue
  split
  · simp [List.countP_append, WorkflowEvaluateTicketTrigger.causedBy, chainedTrigger]
  · exact Nat.le_add_right _ _

theorem raiseChained_pays (cause : WorkflowEvaluateTicketTrigger) (id : Uuid) (occurrences : List RaisedOccurrence)
    (n : Nat) (hcredit : id = runId → occurrences.length ≤ n) :
    Pays (Chained runId) n (raiseChained cause id occurrences) := by
  induction occurrences generalizing n with
  | nil => trivial
  | cons occurrence occurrences ih =>
    apply Prog.Affords.statement_bind
    intro db _
    have hcount := enqueue_causedBy runId db cause id occurrence
    have hlog := (enqueue_apart db (chainedTrigger cause id occurrence)).1.log
    by_cases hid : id = runId
    · have hpositive := hcredit hid
      rw [if_pos hid] at hcount
      rw [List.length_cons] at hpositive
      refine ⟨n - 1, ?_, fun _ _ => ih _ fun _ => by omega⟩
      simp only [Ledger.Settles, Chained, hlog]
      omega
    · rw [if_neg hid] at hcount
      refine ⟨n, ?_, fun _ _ => ih _ fun h => absurd h hid⟩
      simp only [Ledger.Settles, Chained, hlog]
      omega

theorem executeActions_chained {candidate : CandidateWorkflow} {id : Uuid}
    (hcredit : id = runId → candidate.definition.actions.length ≤ n) :
    Pays (Chained runId) n (executeActions trigger candidate id) := by
  apply Prog.Within.affords_throwing_bind_of (executeFrom_idle trigger candidate id _ 0 {})
    (executeFrom_chained trigger candidate id _ 0 {})
  intro done hlength
  apply Prog.Within.affords_throwing_bind (finish_idle chained_idle true _ _ _)
  intro _
  apply Prog.Within.affords_throwing_bind ((deactivateIf_quiet _ _ _ _ _).idle chained_idle)
  intro _
  apply Prog.Affords.throwing_bind
  · apply raiseChained_pays
    intro hid
    have hactions := hcredit hid
    simp only [List.length_nil, Nat.zero_add] at hlength
    exact Nat.le_trans hlength hactions
  · exact fun _ _ => trivial

theorem chained_funded : Funded (Chained runId) fun _ _ id => if id = runId then actionsPerWorkflow else 0 where
  idle := chained_idle
  claims := by
    intro trigger candidate id db db' hrun
    obtain ⟨uuids, -, -, -, -, rfl⟩ := insertClaim_spec hrun
    by_cases hid : id = runId
    · simp only [Ledger.Settles, Chained, WorkflowRecord.claimsRun, hid, List.countP_append, List.countP_singleton,
        decide_true, if_true, Nat.mul_add]
      omega
    · simp [Ledger.Settles, Chained, WorkflowRecord.claimsRun, hid]
  runs := by
    intro trigger candidate id n hvalid hgrant
    apply executeActions_chained
    intro hid
    rw [if_pos hid] at hgrant
    simp only [WorkflowDefinition.valid, countWithin, decide_eq_true_eq] at hvalid
    exact Nat.le_trans hvalid.2.2.2.1.2 hgrant

theorem Reachable.caused_le (h₀ : Sound db) (hlog : db.log = []) (hs : WorkflowsRun db s) (runId : Uuid) :
    (s.db.jobs.filter (WorkflowEvaluateTicketTrigger.causedBy runId)).length ≤ actionsPerWorkflow := by
  have hinitial : (Chained runId).spent db ≤ (Chained runId).granted db := by
    have hnone : db.jobs.countP (WorkflowEvaluateTicketTrigger.causedBy runId) = 0 := by
      apply List.countP_eq_zero.mpr
      intro t ht
      rcases (h₀.jobs t ht).origin with ⟨-, hroot⟩ | ⟨_, _, _, hclaimed, _⟩
      · simp [WorkflowEvaluateTicketTrigger.causedBy, hroot]
      · rw [hlog] at hclaimed
        cases hclaimed
    simp [Chained, hnone]
  have hspent := (Reachable.solvent chained_funded.callBody_pays hinitial (fun _ _ => trivial) hs).spent_le
  have honce := (Reachable.sound h₀ hs).runOnce runId
  rw [← List.countP_eq_length_filter]
  calc s.db.jobs.countP (WorkflowEvaluateTicketTrigger.causedBy runId)
      ≤ actionsPerWorkflow * s.db.log.countP (WorkflowRecord.claimsRun runId) := hspent
    _ ≤ actionsPerWorkflow * 1 := Nat.mul_le_mul_left _ honce
    _ = actionsPerWorkflow := Nat.mul_one _

/-- The most evaluations one occurrence can set off, with itself, among so many workflows. -/
def chainBound (workflows : Nat) : Nat :=
  ((List.range (maxChainDepth + 2)).map fun k => (workflows * actionsPerWorkflow) ^ k).sum

theorem chainedFrom_length_le (hs : Sound db) (hamong : WorkflowsAmong ids db)
    (hcaused : ∀ runId, (db.jobs.filter (WorkflowEvaluateTicketTrigger.causedBy runId)).length ≤ actionsPerWorkflow)
    (t : WorkflowEvaluateTicketTrigger) : (chainedFrom db t).length ≤ ids.length * actionsPerWorkflow := by
  rw [chainedFrom, List.length_flatMap]
  have hsum := List.sum_le_card_nsmul
    ((runsFor db t).map fun run => (db.jobs.filter (WorkflowEvaluateTicketTrigger.causedBy run.1)).length)
    actionsPerWorkflow (by
      intro n hn
      obtain ⟨run, _, rfl⟩ := List.mem_map.mp hn
      exact hcaused run.1)
  rw [List.length_map] at hsum
  exact Nat.le_trans hsum (Nat.mul_le_mul_right _ (runsFor_length_le hs hamong t))

/-- Whatever the workflows trigger: what an evaluation sets off is among a number of evaluations that is bounded
    however long the run goes on, no run is deeper than the bound, and every payload is one the consumer accepts. -/
theorem chains_are_finite {db : WorkflowDb} {s : WorkflowSys} (h₀ : Sound db) (hlog : db.log = [])
    (hs : Reachable workflowProgram noneAdded (.idle db) s) :
    (∀ root, ∃ evaluations : List WorkflowEvaluateTicketTrigger, (∀ t, Cascade.Leads (chainedFrom s.db) root t → t ∈ evaluations) ∧
        evaluations.length ≤ chainBound db.workflows.length) ∧
      (∀ r ∈ s.db.runs, r.trigger.depth ≤ maxChainDepth) ∧ ∀ t ∈ s.db.jobs, t.valid = true := by
  have hany : WorkflowsRun db s := hs.mono fun _ _ _ _ => trivial
  have hsound := Reachable.sound h₀ hs
  refine ⟨?_, fun r hr => (hsound.runs r hr).2.2, fun t ht => (hsound.jobs t ht).valid⟩
  intro root
  refine ⟨Cascade.upTo (chainedFrom s.db) root (maxChainDepth + 1), ?_, ?_⟩
  · intro t hleads
    apply Cascade.mem_upTo (chained_depth hsound) _ hleads
    intro a b hb
    exact Nat.le_trans (chained_shallow hsound a b hb) (Nat.le_add_left _ _)
  · have hamong := Reachable.workflowsAmong h₀ hlog hs
    have hchildren := chainedFrom_length_le hsound hamong (Reachable.caused_le h₀ hlog hany)
    rw [List.length_map] at hchildren
    exact Cascade.length_upTo_le hchildren root _

def parkOpen : WorkflowDefinition where
  trigger := .ticketStatusChanged
  conditions := [.ticketStatus .in [.open]]
  actions := [.setStatus .pending]

def openParked : WorkflowDefinition where
  trigger := .ticketStatusChanged
  conditions := [.ticketStatus .in [.pending]]
  actions := [.setStatus .open]

def restlessTicket : WorkflowDb where
  tickets := [quietTicket]
  ticketEvents := [⟨20, { tenantId := 1, ticketId := 5, actorUserId := some 3
                          data := .statusChanged .pending .open .agent }⟩]
  workflows := [{ id := 7, tenantId := 1, isActive := true, triggerType := .ticketStatusChanged
                  definition := some parkOpen },
                { id := 8, tenantId := 1, isActive := true, triggerType := .ticketStatusChanged
                  definition := some openParked }]
  jobs := [rootTrigger 1 5 .ticketStatusChanged (some 20)]
  uuids := [21, 22, 23, 24, 25, 26, 27, 28, 29, 30, 31, 32]

theorem restlessTicket_sound : Sound restlessTicket :=
  Sound.fresh rfl rfl (by decide) (by decide) (by decide) (by decide) (by decide)

def restlessTrigger (eventId : Uuid) (depth : Nat) (causedByRunId : Option Uuid) : WorkflowEvaluateTicketTrigger :=
  ⟨1, 5, .ticketStatusChanged, some eventId, depth, causedByRunId⟩

def restlessSchedule : List (Move WorkflowCall) :=
  .spawn (.deliver (restlessTrigger 20 0 none)) :: List.replicate 12 (.step 0) ++
    .spawn (.deliver (restlessTrigger 22 1 (some 21))) :: List.replicate 12 (.step 1) ++
    .spawn (.deliver (restlessTrigger 26 2 (some 25))) :: List.replicate 12 (.step 2) ++
    .spawn (.deliver (restlessTrigger 28 3 (some 27))) :: List.replicate 12 (.step 3) ++
    [.spawn (.deliver (restlessTrigger 32 4 (some 31))), .step 4]

/-- The two workflows go back and forth as far as the bound. -/
theorem chains_are_finite_restless : ∃ s, Reachable workflowProgram noneAdded (.idle restlessTicket) s ∧
    s.db.jobs.map (·.depth) = [0, 1, 2, 3, 4] ∧ s.db.runs.map (·.trigger.depth) = [0, 0, 1, 1, 2, 2, 3, 3] ∧
      (∀ root, ∃ evaluations : List WorkflowEvaluateTicketTrigger,
        (∀ t, Cascade.Leads (chainedFrom s.db) root t → t ∈ evaluations) ∧ evaluations.length ≤ chainBound 2) ∧
      (∀ r ∈ s.db.runs, r.trigger.depth ≤ maxChainDepth) ∧ ∀ t ∈ s.db.jobs, t.valid = true := by
  have hrun : ((run workflowProgram (fun _ _ tag => decide (tag ≠ .create)) restlessSchedule (.idle restlessTicket)).map
      fun s => decide (s.db.jobs.map (·.depth) = [0, 1, 2, 3, 4] ∧
        s.db.runs.map (·.trigger.depth) = [0, 0, 1, 1, 2, 2, 3, 3])) = some true := by
    decide +kernel
  obtain ⟨s, hreached, hfinal⟩ := ends_of_run hrun
  obtain ⟨hjobs, hruns⟩ := of_decide_eq_true hfinal
  exact ⟨s, hreached, hjobs, hruns, chains_are_finite restlessTicket_sound rfl hreached⟩

theorem Sound.descends (hs : Sound db) (ht : t ∈ db.jobs) :
    ∃ root ∈ db.jobs, root.depth = 0 ∧ root.causedByRunId = none ∧ db.recorded root = true ∧
      t ∈ Cascade.level (chainedFrom db) root t.depth := by
  induction hdepth : t.depth generalizing t with
  | zero =>
    rcases (hs.jobs t ht).origin with ⟨hzero, hroot⟩ | ⟨_, _, _, _, _, hdeeper, _⟩
    · exact ⟨t, ht, hzero, hroot, (hs.jobs t ht).recorded, List.mem_singleton_self t⟩
    · omega
  | succ depth ih =>
    rcases (hs.jobs t ht).origin with ⟨hzero, _⟩ | ⟨runId, workflowId, cause, hclaimed, hcaused, hdeeper, _⟩
    · omega
    · obtain ⟨root, hroot, hzero, huncaused, hrecorded, hlevel⟩ :=
        ih (hs.claimed runId workflowId cause hclaimed).queued (by omega)
      have hchained := mem_chainedFrom.mpr ⟨ht, runId, workflowId, hclaimed, hcaused⟩
      exact ⟨root, hroot, hzero, huncaused, hrecorded, List.mem_flatMap.mpr ⟨cause, hlevel, hchained⟩⟩

/-- Every evaluation comes down, in as many steps as its depth says, from one that no run caused and whose occurrence is
    recorded. -/
theorem evaluations_have_a_recorded_root {cond : WorkflowSys → WorkflowCall → WorkflowStmt → Prop} {db : WorkflowDb}
    (h₀ : Sound db) {s : WorkflowSys} (hs : Reachable workflowProgram cond (.idle db) s) :
    ∀ t ∈ s.db.jobs, ∃ root ∈ s.db.jobs, root.depth = 0 ∧ root.causedByRunId = none ∧ s.db.recorded root = true ∧
      t ∈ Cascade.level (chainedFrom s.db) root t.depth :=
  fun _ ht => (Reachable.sound h₀ hs).descends ht

theorem evaluations_have_a_recorded_root_restless : ∃ s : WorkflowSys, s.db.jobs.map (·.depth) = [0, 1, 2, 3, 4] ∧
    ∀ t ∈ s.db.jobs, ∃ root ∈ s.db.jobs, root.depth = 0 ∧ root.causedByRunId = none ∧ s.db.recorded root = true ∧
      t ∈ Cascade.level (chainedFrom s.db) root t.depth := by
  have hrun : (run workflowProgram (fun _ _ _ => true) restlessSchedule (.idle restlessTicket)).map
      (·.db.jobs.map (·.depth)) = some [0, 1, 2, 3, 4] := by
    decide +kernel
  obtain ⟨s, hreached, hjobs⟩ := ends_of_run_any hrun
  exact ⟨s, hjobs, evaluations_have_a_recorded_root restlessTicket_sound hreached⟩

end WhatsappCrm.Workflows
