/-
Purpose: What is on record, and stays so: queued evaluations happened, a claimed run has its row, and no claim is made
  twice.
-/
import WhatsappCrm.Workflows.Effects

namespace WhatsappCrm.Workflows

open Interleaving Table

structure Later (db db' : WorkflowDb) : Prop where
  ticketEvents : db.ticketEvents <+: db'.ticketEvents
  breachedTimers : db.breachedTimers <+: db'.breachedTimers
  jobs : db.jobs <+: db'.jobs
  log : db.log <+: db'.log

theorem Later.refl (db : WorkflowDb) : Later db db :=
  ⟨List.prefix_refl _, List.prefix_refl _, List.prefix_refl _, List.prefix_refl _⟩

theorem Later.trans (h : Later db₁ db₂) (h' : Later db₂ db₃) : Later db₁ db₃ where
  ticketEvents := h.ticketEvents.trans h'.ticketEvents
  breachedTimers := h.breachedTimers.trans h'.breachedTimers
  jobs := h.jobs.trans h'.jobs
  log := h.log.trans h'.log

def WorkflowDb.occurred (db : WorkflowDb) (ticketId : Uuid) (occurrence : RaisedOccurrence) : Prop :=
  ∃ row ∈ db.ticketEvents,
    row.id = occurrence.ticketEventId ∧ row.event.ticketId = ticketId ∧
      occurrence.triggerType.recordedBy row.event.data = true

variable {db : WorkflowDb} {trigger : WorkflowEvaluateTicketTrigger} {w : Workflow} {workflowId id : Uuid}
  {candidate : CandidateWorkflow}

theorem occurred_of_later (h : Later db db')
    (hoccurred : db.occurred ticketId occurrence) : db'.occurred ticketId occurrence := by
  obtain ⟨row, hrow, hrest⟩ := hoccurred
  exact ⟨row, h.ticketEvents.subset hrow, hrest⟩

theorem recorded_of_later (h : Later db db') (hrecorded : db.recorded trigger = true) : db'.recorded trigger = true := by
  unfold WorkflowDb.recorded at hrecorded ⊢
  split at hrecorded
  · exact hrecorded
  · exact hrecorded
  · obtain ⟨row, hrow, hevent⟩ := List.any_eq_true.mp hrecorded
    exact List.any_eq_true.mpr ⟨row, h.ticketEvents.subset hrow, hevent⟩
  · obtain ⟨row, hrow, hevent⟩ := List.any_eq_true.mp hrecorded
    exact List.any_eq_true.mpr ⟨row, h.ticketEvents.subset hrow, hevent⟩
  · obtain ⟨timer, htimer, hbreach⟩ := List.any_eq_true.mp hrecorded
    exact List.any_eq_true.mpr ⟨timer, h.breachedTimers.subset htimer, hbreach⟩

theorem recordedBy_event {triggerType : WorkflowTriggerType} (h : triggerType.recordedBy data = true) :
    triggerType = .ticketStatusChanged ∨ triggerType = .ticketAssigned := by
  cases data <;> simp [WorkflowTriggerType.recordedBy] at h
  · exact .inl h
  · exact .inr h
  · exact .inr h

def Origin (db : WorkflowDb) (trigger : WorkflowEvaluateTicketTrigger) : Prop :=
  trigger.depth = 0 ∧ trigger.causedByRunId = none ∨
    ∃ runId workflowId cause, .claimed runId workflowId cause ∈ db.log ∧ trigger.causedByRunId = some runId ∧
      trigger.depth = cause.depth + 1 ∧ cause.depth ≤ maxChainDepth

structure Queueable (db : WorkflowDb) (trigger : WorkflowEvaluateTicketTrigger) : Prop where
  valid : trigger.valid = true
  recorded : db.recorded trigger = true
  origin : Origin db trigger

theorem Queueable.later (h : Later db db') (hq : Queueable db trigger) : Queueable db' trigger where
  valid := hq.valid
  recorded := recorded_of_later h hq.recorded
  origin := by
    rcases hq.origin with hroot | ⟨runId, workflowId, cause, hclaimed, hrest⟩
    · exact .inl hroot
    · exact .inr ⟨runId, workflowId, cause, h.log.subset hclaimed, hrest⟩

def WorkflowRun.runs (r : WorkflowRun) (trigger : WorkflowEvaluateTicketTrigger) : Prop :=
  r.trigger = trigger ∧ r.tenantId = trigger.tenantId ∧ r.ticketId = trigger.ticketId ∧
    r.dedupeKey = workflowDedupeKey trigger

def WorkflowRecord.claims (entry : Uuid × Uuid × String) : WorkflowRecord → Bool
  | .claimed _ workflowId trigger => (trigger.tenantId, workflowId, workflowDedupeKey trigger) = entry
  | .executed .. => false

def WorkflowRecord.claimsRun (runId : Uuid) : WorkflowRecord → Bool
  | .claimed id _ _ => id = runId
  | .executed .. => false

def WorkflowDb.deleted (db : WorkflowDb) (tenantId workflowId : Uuid) : Prop :=
  (∀ w ∈ db.workflows, ¬ (w.tenantId = tenantId ∧ w.id = workflowId)) ∧ workflowId ∉ db.uuids

structure ClaimKept (db : WorkflowDb) (runId workflowId : Uuid) (trigger : WorkflowEvaluateTicketTrigger) : Prop where
  shallow : trigger.depth ≤ maxChainDepth
  queued : trigger ∈ db.jobs
  used : runId ∉ db.uuids
  row : (∃ r ∈ db.runs, r.id = runId ∧ r.workflowId = workflowId ∧ r.runs trigger) ∨
    db.deleted trigger.tenantId workflowId

structure Sound (db : WorkflowDb) : Prop where
  claims : UniqueBy WorkflowRun.claimEntry db.runs
  runIds : UniqueBy WorkflowRun.idEntry db.runs
  eventIds : UniqueBy TicketEventRow.idEntry db.ticketEvents
  timerIds : UniqueBy timerEntry db.breachedTimers
  uuids : db.uuids.Nodup
  runFresh : ∀ r ∈ db.runs, r.id ∉ db.uuids ∧ r.workflowId ∉ db.uuids
  workflowFresh : ∀ w ∈ db.workflows, w.id ∉ db.uuids
  runs : ∀ r ∈ db.runs, r.runs r.trigger ∧ r.trigger ∈ db.jobs ∧ r.trigger.depth ≤ maxChainDepth
  jobs : ∀ trigger ∈ db.jobs, Queueable db trigger
  claimed : ∀ runId workflowId trigger, .claimed runId workflowId trigger ∈ db.log →
    ClaimKept db runId workflowId trigger
  once : ∀ entry, db.log.countP (WorkflowRecord.claims entry) ≤ 1
  runOnce : ∀ runId, db.log.countP (WorkflowRecord.claimsRun runId) ≤ 1

theorem Sound.fresh (hruns : db.runs = []) (hlog : db.log = [])
    (heventIds : UniqueBy TicketEventRow.idEntry db.ticketEvents) (htimerIds : UniqueBy timerEntry db.breachedTimers)
    (huuids : db.uuids.Nodup) (hworkflows : ∀ w ∈ db.workflows, w.id ∉ db.uuids)
    (hjobs : ∀ t ∈ db.jobs, t.valid = true ∧ db.recorded t = true ∧ t.depth = 0 ∧ t.causedByRunId = none) : Sound db where
  claims := by
    rw [hruns]
    exact List.Pairwise.nil
  runIds := by
    rw [hruns]
    exact List.Pairwise.nil
  eventIds := heventIds
  timerIds := htimerIds
  uuids := huuids
  runFresh := by simp [hruns]
  workflowFresh := hworkflows
  runs := by simp [hruns]
  jobs := by
    intro t ht
    obtain ⟨hvalid, hrecorded, hroot⟩ := hjobs t ht
    exact ⟨hvalid, hrecorded, .inl hroot⟩
  claimed := by simp [hlog]
  once := by simp [hlog]
  runOnce := by simp [hlog]

inductive WorkflowEffect : WorkflowStmt → WorkflowDb → WorkflowDb → Prop
  | quiet {tag : WorkflowStmt} {db db' : WorkflowDb} (h : Quiet db db') : WorkflowEffect tag db db'
  | queued {tag : WorkflowStmt} {db db' : WorkflowDb} {triggers : List WorkflowEvaluateTicketTrigger}
      (h : Apart db db') (hjobs : db'.jobs = db.jobs ++ triggers) (hqueue : ∀ trigger ∈ triggers, Queueable db' trigger)
      (hroots : tag = .outside → ∀ trigger ∈ triggers, trigger.causedByRunId = none) : WorkflowEffect tag db db'
  | claimed {db db' : WorkflowDb} {id : Uuid} {trigger : WorkflowEvaluateTicketTrigger} {candidate : CandidateWorkflow}
      (hshallow : trigger.depth ≤ maxChainDepth) (hqueued : trigger ∈ db.jobs)
      (h : insertClaim trigger candidate db.sent = .ok (some id, db')) : WorkflowEffect .claim db db'
  | closed {db : WorkflowDb} (guarded : Bool) (tenantId runId : Uuid) (outcome : RunEnd) :
      WorkflowEffect (.finish guarded) db
        { db.sent with runs := updateWhere (WorkflowRun.withId tenantId runId) (WorkflowRun.close outcome db.now) db.runs }
  | executing {db : WorkflowDb} (runId workflowId : Uuid) (trigger : WorkflowEvaluateTicketTrigger) (index : Nat) :
      WorkflowEffect .execute db { db with log := db.log ++ [.executed runId workflowId trigger index] }
  | edited {tag : WorkflowStmt} {db db' : WorkflowDb} {event : WorkflowEvent} (htag : tag = event.stmt)
      (hedit : event.stmt ≠ .outside) (h : event.apply db.sent = .ok ((), db')) : WorkflowEffect tag db db'

theorem mem_of_disarmed {ws ws' : List Workflow} (h : ws'.map Workflow.disarmed = ws.map Workflow.disarmed)
    (hw : w ∈ ws') : ∃ w₀ ∈ ws, w₀.disarmed = w.disarmed := by
  have hmem : w.disarmed ∈ ws.map Workflow.disarmed := by
    rw [← h]
    exact List.mem_map_of_mem hw
  exact List.mem_map.mp hmem

theorem disarmed_ids {w₀ : Workflow} (h : w₀.disarmed = w.disarmed) : w₀.tenantId = w.tenantId ∧ w₀.id = w.id :=
  ⟨show w₀.disarmed.tenantId = w.disarmed.tenantId by rw [h], show w₀.disarmed.id = w.disarmed.id by rw [h]⟩

theorem Apart.deleted (h : Apart db db')
    (hdeleted : db.deleted tenantId workflowId) : db'.deleted tenantId workflowId := by
  refine ⟨?_, fun hmem => hdeleted.2 (h.uuids.mem hmem)⟩
  intro w hw hids
  obtain ⟨w₀, hw₀, heq⟩ := mem_of_disarmed h.workflows hw
  obtain ⟨htenant, hid⟩ := disarmed_ids heq
  exact hdeleted.1 w₀ hw₀ ⟨htenant.trans hids.1, hid.trans hids.2⟩

theorem Sound.apart (hs : Sound db) (h : Apart db db')
    (hjobs : db'.jobs = db.jobs ++ triggers) (hqueue : ∀ trigger ∈ triggers, Queueable db' trigger) :
    Sound db' ∧ Later db db' := by
  have hlater : Later db db' :=
    ⟨h.ticketEvents, h.breachedTimers, hjobs ▸ List.prefix_append _ _, h.log ▸ List.prefix_refl _⟩
  refine ⟨?_, hlater⟩
  exact
    { claims := h.runs ▸ hs.claims
      runIds := h.runs ▸ hs.runIds
      eventIds := h.eventIds hs.eventIds
      timerIds := h.timerIds hs.timerIds
      uuids := hs.uuids.sublist h.uuids.sublist
      runFresh := by
        intro r hr
        rw [h.runs] at hr
        obtain ⟨hid, hworkflow⟩ := hs.runFresh r hr
        exact ⟨fun hmem => hid (h.uuids.mem hmem), fun hmem => hworkflow (h.uuids.mem hmem)⟩
      workflowFresh := by
        intro w hw hmem
        obtain ⟨w₀, hw₀, heq⟩ := mem_of_disarmed h.workflows hw
        rw [← (disarmed_ids heq).2] at hmem
        exact hs.workflowFresh w₀ hw₀ (h.uuids.mem hmem)
      runs := by
        intro r hr
        rw [h.runs] at hr
        obtain ⟨hruns, hmem, hdepth⟩ := hs.runs r hr
        exact ⟨hruns, hlater.jobs.subset hmem, hdepth⟩
      jobs := by
        intro trigger htrigger
        rw [hjobs] at htrigger
        rcases List.mem_append.mp htrigger with hold | hnew
        · exact (hs.jobs trigger hold).later hlater
        · exact hqueue trigger hnew
      claimed := by
        intro runId workflowId trigger hmem
        rw [h.log] at hmem
        have hkept := hs.claimed runId workflowId trigger hmem
        refine ⟨hkept.shallow, hlater.jobs.subset hkept.queued, fun hused => hkept.used (h.uuids.mem hused), ?_⟩
        rcases hkept.row with hrow | hdeleted
        · exact .inl (h.runs ▸ hrow)
        · exact .inr (h.deleted hdeleted)
      once := h.log ▸ hs.once
      runOnce := h.log ▸ hs.runOnce }

theorem Sound.quiet (hs : Sound db) (h : Quiet db db') : Sound db' ∧ Later db db' :=
  hs.apart h.toApart (by rw [h.jobs, List.append_nil]) (by simp)

theorem insertClaim_spec (h : insertClaim trigger candidate db = .ok (some id, db')) :
    ∃ uuids, db.uuids = id :: uuids ∧ db.spent trigger.tenantId candidate.id (workflowDedupeKey trigger) = false ∧
      (∀ r ∈ db.runs, r.id ≠ id) ∧ (∃ w ∈ db.workflows, w.tenantId = trigger.tenantId ∧ w.id = candidate.id) ∧
      db' = { db with
        runs := db.runs ++ [claimedRun trigger candidate id db.now]
        uuids
        log := db.log ++ [.claimed id candidate.id trigger] } := by
  unfold insertClaim at h
  split at h
  · cases h
  · rename_i hspent
    split at h
    · cases h
    · rename_i head uuids huuids
      split at h
      · cases h
      · rename_i hunused
        split at h
        · rename_i hkeys
          cases h
          refine ⟨uuids, huuids, by simpa using hspent, ?_, ?_, rfl⟩
          · intro r hr hid
            exact hunused (List.any_eq_true.mpr ⟨r, hr, by simpa using hid⟩)
          · obtain ⟨w, hw, hids⟩ := List.any_eq_true.mp (Bool.and_eq_true_iff.mp hkeys).1
            exact ⟨w, hw, by simpa using hids⟩
        · cases h

theorem insertClaim_none (h : insertClaim trigger candidate db = .ok (none, db')) : db' = db := by
  unfold insertClaim at h
  split at h
  · cases h
    rfl
  · split at h
    · cases h
    · split at h
      · cases h
      · split at h <;> cases h

theorem claimedRun_runs (trigger : WorkflowEvaluateTicketTrigger) (candidate : CandidateWorkflow) (id : Uuid)
    (now : Millis) : (claimedRun trigger candidate id now).runs trigger := ⟨rfl, rfl, rfl, rfl⟩

theorem Sound.unclaimed (hs : Sound db) (hspent : db.spent trigger.tenantId workflowId (workflowDedupeKey trigger) = false)
    (hworkflow : ∃ w ∈ db.workflows, w.tenantId = trigger.tenantId ∧ w.id = workflowId) :
    db.log.countP (WorkflowRecord.claims (trigger.tenantId, workflowId, workflowDedupeKey trigger)) = 0 := by
  apply List.countP_eq_zero.mpr
  intro record hrecord hclaims
  cases record with
  | executed => cases hclaims
  | claimed runId wid t =>
    simp only [WorkflowRecord.claims, decide_eq_true_eq, Prod.mk.injEq] at hclaims
    obtain ⟨htenant, rfl, hkey⟩ := hclaims
    rcases (hs.claimed runId wid t hrecord).row with ⟨r, hr, hid, hwid, hruns⟩ | hdeleted
    · have hentry : r.claimEntry = some (trigger.tenantId, wid, workflowDedupeKey trigger) := by
        obtain ⟨-, htenant', -, hkey'⟩ := hruns
        simp [WorkflowRun.claimEntry, htenant', htenant, hwid, hkey', hkey]
      have hany : db.spent trigger.tenantId wid (workflowDedupeKey trigger) = true :=
        List.any_eq_true.mpr ⟨r, hr, by simpa using hentry⟩
      rw [hspent] at hany
      cases hany
    · obtain ⟨w, hw, hids⟩ := hworkflow
      exact hdeleted.1 w hw ⟨hids.1.trans htenant.symm, hids.2⟩

theorem Sound.unusedRun (hs : Sound db) (hid : id ∈ db.uuids) : db.log.countP (WorkflowRecord.claimsRun id) = 0 := by
  apply List.countP_eq_zero.mpr
  intro record hrecord hclaims
  cases record with
  | executed => cases hclaims
  | claimed runId wid t =>
    simp only [WorkflowRecord.claimsRun, decide_eq_true_eq] at hclaims
    subst hclaims
    exact (hs.claimed runId wid t hrecord).used hid

theorem countP_concat_le {log : List WorkflowRecord}
    (hle : log.countP p ≤ 1) (hzero : p record = true → log.countP p = 0) : (log ++ [record]).countP p ≤ 1 := by
  rw [List.countP_append, List.countP_singleton]
  split
  · rename_i hp
    rw [hzero hp]
  · simpa using hle

theorem Sound.claim (hs : Sound db) (hshallow : trigger.depth ≤ maxChainDepth) (hqueued : trigger ∈ db.jobs)
    (h : insertClaim trigger candidate db = .ok (some id, db')) : Sound db' ∧ Later db db' := by
  obtain ⟨uuids, huuids, hspent, hunused, hworkflow, rfl⟩ := insertClaim_spec h
  have hnodup : (id :: uuids).Nodup := huuids ▸ hs.uuids
  have hidUuids : id ∈ db.uuids := huuids ▸ List.mem_cons_self
  have hfewer : ∀ {x}, x ∈ uuids → x ∈ db.uuids := fun hx => huuids ▸ List.mem_cons_of_mem _ hx
  have hlater : Later db
      { db with
        runs := db.runs ++ [claimedRun trigger candidate id db.now]
        uuids
        log := db.log ++ [.claimed id candidate.id trigger] } :=
    ⟨List.prefix_refl _, List.prefix_refl _, List.prefix_refl _, List.prefix_append _ _⟩
  refine ⟨?_, hlater⟩
  exact
    { claims := by
        apply hs.claims.concat
        intro r hr hclash
        have hentry : r.claimEntry = some (trigger.tenantId, candidate.id, workflowDedupeKey trigger) := hclash.2
        have hany : db.spent trigger.tenantId candidate.id (workflowDedupeKey trigger) = true :=
          List.any_eq_true.mpr ⟨r, hr, by simpa using hentry⟩
        rw [hspent] at hany
        cases hany
      runIds := by
        apply hs.runIds.concat
        intro r hr hclash
        exact hunused r hr (Option.some.inj hclash.2)
      eventIds := hs.eventIds
      timerIds := hs.timerIds
      uuids := (List.nodup_cons.mp hnodup).2
      runFresh := by
        intro r hr
        rcases mem_snoc.mp hr with hold | rfl
        · obtain ⟨hid, hwid⟩ := hs.runFresh r hold
          exact ⟨fun hmem => hid (hfewer hmem), fun hmem => hwid (hfewer hmem)⟩
        · refine ⟨(List.nodup_cons.mp hnodup).1, fun hmem => ?_⟩
          obtain ⟨w, hw, -, hwid⟩ := hworkflow
          apply hs.workflowFresh w hw
          rw [hwid]
          exact hfewer hmem
      workflowFresh := fun w hw hmem => hs.workflowFresh w hw (hfewer hmem)
      runs := by
        intro r hr
        rcases mem_snoc.mp hr with hold | rfl
        · exact hs.runs r hold
        · exact ⟨claimedRun_runs _ _ _ _, hqueued, hshallow⟩
      jobs := fun t ht => (hs.jobs t ht).later hlater
      claimed := by
        intro runId workflowId t hmem
        rcases List.mem_append.mp hmem with hold | hnew
        · have hkept := hs.claimed runId workflowId t hold
          refine ⟨hkept.shallow, hkept.queued, fun hused => hkept.used (hfewer hused), ?_⟩
          rcases hkept.row with ⟨r, hr, hrest⟩ | hdeleted
          · exact .inl ⟨r, List.mem_append_left _ hr, hrest⟩
          · exact .inr ⟨hdeleted.1, fun hused => hdeleted.2 (hfewer hused)⟩
        · cases List.mem_singleton.mp hnew
          refine ⟨hshallow, hqueued, (List.nodup_cons.mp hnodup).1, .inl ?_⟩
          exact ⟨_, List.mem_concat_self, rfl, rfl, claimedRun_runs _ _ _ _⟩
      once := by
        intro entry
        apply countP_concat_le (hs.once entry)
        intro hclaims
        simp only [WorkflowRecord.claims, decide_eq_true_eq] at hclaims
        subst hclaims
        exact hs.unclaimed hspent hworkflow
      runOnce := by
        intro runId
        apply countP_concat_le (hs.runOnce runId)
        intro hclaims
        simp only [WorkflowRecord.claimsRun, decide_eq_true_eq] at hclaims
        subst hclaims
        exact hs.unusedRun hidUuids }

theorem Sound.close (hs : Sound db) (p : WorkflowRun → Bool) (outcome : RunEnd) :
    Sound { db.sent with runs := updateWhere p (WorkflowRun.close outcome db.now) db.runs } ∧
      Later db { db.sent with runs := updateWhere p (WorkflowRun.close outcome db.now) db.runs } := by
  have hlater : Later db { db.sent with runs := updateWhere p (WorkflowRun.close outcome db.now) db.runs } :=
    ⟨List.prefix_refl _, List.prefix_refl _, List.prefix_refl _, List.prefix_refl _⟩
  refine ⟨?_, hlater⟩
  exact
    { hs with
      claims := hs.claims.updateWhere fun _ _ _ => .inr rfl
      runIds := hs.runIds.updateWhere fun _ _ _ => .inr rfl
      runFresh := by
        intro r hr
        obtain ⟨r₀, hr₀, ⟨-, rfl⟩ | ⟨-, rfl⟩⟩ := mem_updateWhere hr
        · exact hs.runFresh r₀ hr₀
        · exact hs.runFresh r hr₀
      runs := by
        intro r hr
        obtain ⟨r₀, hr₀, ⟨-, rfl⟩ | ⟨-, rfl⟩⟩ := mem_updateWhere hr
        · exact hs.runs r₀ hr₀
        · exact hs.runs r hr₀
      jobs := fun t ht => (hs.jobs t ht).later hlater
      claimed := by
        intro runId workflowId t hmem
        have hkept := hs.claimed runId workflowId t hmem
        refine ⟨hkept.shallow, hkept.queued, hkept.used, ?_⟩
        rcases hkept.row with ⟨r, hr, hrest⟩ | hdeleted
        · refine .inl ⟨_, mem_updateWhere_of_mem hr, ?_⟩
          split
          · exact hrest
          · exact hrest
        · exact .inr hdeleted }

theorem Sound.execute (hs : Sound db) (runId workflowId : Uuid)
    (trigger : WorkflowEvaluateTicketTrigger) (index : Nat) :
    Sound { db with log := db.log ++ [.executed runId workflowId trigger index] } ∧
      Later db { db with log := db.log ++ [.executed runId workflowId trigger index] } := by
  have hlater : Later db { db with log := db.log ++ [.executed runId workflowId trigger index] } :=
    ⟨List.prefix_refl _, List.prefix_refl _, List.prefix_refl _, List.prefix_append _ _⟩
  refine ⟨?_, hlater⟩
  exact
    { hs with
      jobs := fun t ht => (hs.jobs t ht).later hlater
      claimed := by
        intro runId' workflowId' t hmem
        rcases List.mem_append.mp hmem with hold | hnew
        · have hkept := hs.claimed runId' workflowId' t hold
          exact ⟨hkept.shallow, hkept.queued, hkept.used, hkept.row⟩
        · cases List.mem_singleton.mp hnew
      once := fun entry => countP_concat_le (hs.once entry) fun h => nomatch h
      runOnce := fun runId' => countP_concat_le (hs.runOnce runId') fun h => nomatch h }

theorem Sound.edit (hs : Sound db) {uuids : List Uuid}
    (hdb : db' = { db with workflows, uuids }) (huuids : uuids <:+ db.uuids) (hfresh : ∀ w ∈ workflows, w.id ∉ uuids)
    (hids : ∀ w ∈ workflows, (∃ w₀ ∈ db.workflows, w₀.tenantId = w.tenantId ∧ w₀.id = w.id) ∨ w.id ∈ db.uuids) :
    Sound db' ∧ Later db db' := by
  subst hdb
  have hlater : Later db { db with workflows, uuids } :=
    ⟨List.prefix_refl _, List.prefix_refl _, List.prefix_refl _, List.prefix_refl _⟩
  refine ⟨?_, hlater⟩
  exact
    { hs with
      uuids := hs.uuids.sublist huuids.sublist
      runFresh := by
        intro r hr
        obtain ⟨hid, hwid⟩ := hs.runFresh r hr
        exact ⟨fun hmem => hid (huuids.mem hmem), fun hmem => hwid (huuids.mem hmem)⟩
      workflowFresh := hfresh
      jobs := fun t ht => (hs.jobs t ht).later hlater
      claimed := by
        intro runId workflowId t hmem
        have hkept := hs.claimed runId workflowId t hmem
        refine ⟨hkept.shallow, hkept.queued, fun hused => hkept.used (huuids.mem hused), ?_⟩
        rcases hkept.row with hrow | ⟨hgone, hunused⟩
        · exact .inl hrow
        · refine .inr ⟨?_, fun hmem' => hunused (huuids.mem hmem')⟩
          rintro w hw ⟨htenant, hid⟩
          rcases hids w hw with ⟨w₀, hw₀, htenant₀, hid₀⟩ | hnew
          · exact hgone w₀ hw₀ ⟨htenant₀.trans htenant, hid₀.trans hid⟩
          · exact hunused (hid ▸ hnew) }

theorem insertWorkflow_spec (h : insertWorkflow w db = .ok ((), db')) :
    ∃ id uuids, db.uuids = id :: uuids ∧ db' = { db with workflows := db.workflows ++ [{ w with id }], uuids } := by
  unfold insertWorkflow at h
  split at h
  · cases h
  · rename_i id uuids huuids
    cases (ok_of_ite h).2
    exact ⟨id, uuids, huuids, rfl⟩

theorem Sound.insertWorkflow (hs : Sound db) (h : insertWorkflow w db = .ok ((), db')) : Sound db' ∧ Later db db' := by
  obtain ⟨id, uuids, huuids, hdb⟩ := insertWorkflow_spec h
  have hnodup : (id :: uuids).Nodup := huuids ▸ hs.uuids
  apply hs.edit hdb (huuids ▸ List.suffix_cons _ _)
  · intro w' hw' hmem
    rcases mem_snoc.mp hw' with hold | rfl
    · exact hs.workflowFresh w' hold (huuids ▸ List.mem_cons_of_mem _ hmem)
    · exact (List.nodup_cons.mp hnodup).1 hmem
  · intro w' hw'
    rcases mem_snoc.mp hw' with hold | rfl
    · exact .inl ⟨w', hold, rfl, rfl⟩
    · exact .inr (huuids ▸ List.mem_cons_self)

theorem Sound.rewriteWorkflow (hs : Sound db) (h : rewriteWorkflow w db = .ok ((), db')) : Sound db' ∧ Later db db' := by
  cases h
  have hids : ∀ w' ∈ updateWhere (fun w' => w'.tenantId = w.tenantId ∧ w'.id = w.id) (fun _ => w) db.workflows,
      ∃ w₀ ∈ db.workflows, w₀.tenantId = w'.tenantId ∧ w₀.id = w'.id := by
    intro w' hw'
    obtain ⟨w₀, hw₀, ⟨hsame, rfl⟩ | ⟨-, rfl⟩⟩ := mem_updateWhere hw'
    · exact ⟨w₀, hw₀, by simpa using hsame⟩
    · exact ⟨w', hw₀, rfl, rfl⟩
  apply hs.edit rfl (List.suffix_refl _)
  · intro w' hw' hmem
    obtain ⟨w₀, hw₀, -, hid⟩ := hids w' hw'
    exact hs.workflowFresh w₀ hw₀ (hid ▸ hmem)
  · exact fun w' hw' => .inl (hids w' hw')

theorem Sound.dropWorkflow (hs : Sound db)
    (h : dropWorkflow tenantId workflowId db = .ok ((), db')) : Sound db' ∧ Later db db' := by
  cases h
  have hlater : Later db { db with
      workflows := db.workflows.filter fun w => ¬ (w.tenantId = tenantId ∧ w.id = workflowId)
      runs := db.runs.filter fun r => ¬ (r.tenantId = tenantId ∧ r.workflowId = workflowId) } :=
    ⟨List.prefix_refl _, List.prefix_refl _, List.prefix_refl _, List.prefix_refl _⟩
  refine ⟨?_, hlater⟩
  exact
    { hs with
      claims := List.Pairwise.filter _ hs.claims
      runIds := List.Pairwise.filter _ hs.runIds
      runFresh := fun r hr => hs.runFresh r ((List.mem_filter.mp hr).1)
      workflowFresh := fun w hw => hs.workflowFresh w ((List.mem_filter.mp hw).1)
      runs := fun r hr => hs.runs r ((List.mem_filter.mp hr).1)
      jobs := fun t ht => (hs.jobs t ht).later hlater
      claimed := by
        intro runId wid t hmem
        have hkept := hs.claimed runId wid t hmem
        refine ⟨hkept.shallow, hkept.queued, hkept.used, ?_⟩
        rcases hkept.row with ⟨r, hr, hid, hwid, hruns⟩ | ⟨hgone, hunused⟩
        · by_cases hdrop : r.tenantId = tenantId ∧ r.workflowId = workflowId
          · refine .inr ⟨?_, hwid ▸ (hs.runFresh r hr).2⟩
            rintro w hw ⟨htenant, hwid'⟩
            have hkeep := (List.mem_filter.mp hw).2
            obtain ⟨-, htenant', -⟩ := hruns
            simp only [decide_eq_true_eq] at hkeep
            apply hkeep
            exact ⟨by rw [htenant, ← htenant', hdrop.1], by rw [hwid', ← hwid, hdrop.2]⟩
          · exact .inl ⟨r, List.mem_filter.mpr ⟨hr, decide_eq_true hdrop⟩, hid, hwid, hruns⟩
        · exact .inr ⟨fun w hw => hgone w ((List.mem_filter.mp hw).1), hunused⟩ }

theorem Sound.apply (hs : Sound db) {event : WorkflowEvent} (hedit : event.stmt ≠ .outside)
    (h : event.apply db = .ok ((), db')) : Sound db' ∧ Later db db' := by
  cases event with
  | createWorkflow => exact hs.insertWorkflow h
  | editWorkflow => exact hs.rewriteWorkflow h
  | deleteWorkflow => exact hs.dropWorkflow h
  | _ => exact absurd rfl hedit

theorem WorkflowEffect.keeps (hs : Sound db) (h : WorkflowEffect tag db db') : Sound db' ∧ Later db db' := by
  have hsent := hs.quiet db.sent_quiet
  cases h with
  | quiet h => exact hs.quiet h
  | queued h hjobs hqueue => exact hs.apart h hjobs hqueue
  | claimed hshallow hqueued h =>
    obtain ⟨hsound, hlater⟩ := hsent.1.claim hshallow hqueued h
    exact ⟨hsound, hsent.2.trans hlater⟩
  | closed => exact hs.close _ _
  | executing => exact hs.execute _ _ _ _
  | edited _ hedit h =>
    obtain ⟨hsound, hlater⟩ := hsent.1.apply hedit h
    exact ⟨hsound, hsent.2.trans hlater⟩

def engine : Rely WorkflowStmt WorkflowDb where
  inv := Sound
  later := Later
  cond _ _ := True
  effect := WorkflowEffect

theorem engine_sound : engine.Sound where
  refl := Later.refl
  trans h h' := h.trans h'
  keeps hs _ h := h.keeps hs

end WhatsappCrm.Workflows
