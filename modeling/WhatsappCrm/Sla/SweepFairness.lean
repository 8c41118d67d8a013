/-
Purpose: One tick of the breach sweep (`sla/sla-sweep.service.ts`).
-/
import WhatsappCrm.Lib.Batches
import WhatsappCrm.Lib.Keyset
import WhatsappCrm.Sla.InTime

namespace WhatsappCrm

open Interleaving Batches Table

/-- `SLA_SWEEP_BATCH`, `SLA_SWEEP_TENANT_BATCH` and `SLA_SWEEP_TENANT_CHUNK`. -/
def slaSweepBatch : Nat := 200
def slaSweepTenantBatch : Nat := 50
def slaSweepTenantChunk : Nat := 25

/-- `ORDER BY due_at`: timers that are due at the same time come in whatever order the database returns them. -/
structure DueOrder where
  sort : List SlaTimer → List SlaTimer
  perm : ∀ timers, (sort timers).Perm timers
  sorted : ∀ timers, (sort timers).Pairwise fun a b => a.dueAt ≤ b.dueAt

structure ActiveTenants where
  ids : List Uuid
  nodup : ids.Nodup

structure DueTimerRow where
  tenantId : Uuid
  id : Uuid

def SlaTimer.dueRow (t : SlaTimer) : DueTimerRow where
  tenantId := t.tenantId
  id := t.id

namespace SlaDb

variable (db : SlaDb)

def dueOf (tenantId : Uuid) : List SlaTimer :=
  db.slaTimers.filter fun t => t.tenantId = tenantId ∧ t.isDue db.base.now

/-- The `LATERAL` subquery: those of one tenant. -/
def shareOf (order : DueOrder) (tenantId : Uuid) : List SlaTimer :=
  (order.sort (db.dueOf tenantId)).take slaSweepTenantBatch

/-- The rows of all tenants before the outer `LIMIT`. -/
def candidates (order : DueOrder) (tenants : ActiveTenants) : List SlaTimer :=
  order.sort (tenants.ids.flatMap (db.shareOf order))

def findDueTimers (order : DueOrder) (tenants : ActiveTenants) : List DueTimerRow :=
  ((db.candidates order tenants).take slaSweepBatch).map SlaTimer.dueRow

def dueTenants (tenants : ActiveTenants) : List Uuid := tenants.ids.filter fun tenantId => db.dueOf tenantId ≠ []

end SlaDb

def groupByTenant (rows : List DueTimerRow) : List (Uuid × List Uuid) :=
  groupBy DueTimerRow.tenantId DueTimerRow.id rows

/-- What a chunk's transaction ended with, if not with its commit. -/
inductive ChunkError where
  | tenantNotActive
  | other

structure CommittedChunk where
  breached : Nat
  alerted : Nat

inductive StoppedBy where
  | nothing
  | deactivation
  | failure
deriving DecidableEq

def ChunkError.stops : ChunkError → StoppedBy
  | .tenantNotActive => .deactivation
  | .other => .failure

structure TenantSweepOutcome where
  breached : Nat := 0
  alerted : Nat := 0
  stoppedBy : StoppedBy := .nothing

structure SlaSweepReport where
  due : Nat := 0
  breached : Nat := 0
  alerted : Nat := 0
  skippedTenants : Nat := 0
  failedTenants : Nat := 0

/-- One `breachChunk`: whose, what came of it, and the state it left. -/
structure ChunkAttempt (σ : Type*) where
  tenantId : Uuid
  timerIds : List Uuid
  outcome : Except ChunkError CommittedChunk
  after : σ

def ChunkAttempt.failed {σ : Type*} (a : ChunkAttempt σ) : Bool :=
  match a.outcome with
  | .ok _ => false
  | .error _ => true

section Phase2

variable {σ : Type*} (attempt : Uuid → List Uuid → σ → Except ChunkError CommittedChunk × σ)

def breachForTenant (tenantId : Uuid) : List (List Uuid) → σ → TenantSweepOutcome × List (ChunkAttempt σ) × σ
  | [], s => ({}, [], s)
  | timerIds :: chunks, s =>
    let (outcome, after) := attempt tenantId timerIds s
    match outcome with
    | .error error => ({ stoppedBy := error.stops }, [{ tenantId, timerIds, outcome, after }], after)
    | .ok committed =>
      let (rest, log, s') := breachForTenant tenantId chunks after
      ({ rest with breached := committed.breached + rest.breached, alerted := committed.alerted + rest.alerted },
        { tenantId, timerIds, outcome, after } :: log, s')

def SlaSweepReport.add (report : SlaSweepReport) (timerIds : List Uuid) (outcome : TenantSweepOutcome) :
    SlaSweepReport where
  due := timerIds.length + report.due
  breached := outcome.breached + report.breached
  alerted := outcome.alerted + report.alerted
  skippedTenants := report.skippedTenants + (if outcome.stoppedBy = .deactivation then 1 else 0)
  failedTenants := report.failedTenants + (if outcome.stoppedBy = .failure then 1 else 0)

def breachByTenant : List (Uuid × List Uuid) → σ → SlaSweepReport × List (ChunkAttempt σ) × σ
  | [], s => ({}, [], s)
  | (tenantId, timerIds) :: groups, s =>
    let (outcome, log, s₁) := breachForTenant attempt tenantId (chunked slaSweepTenantChunk timerIds) s
    let (report, log', s₂) := breachByTenant groups s₁
    (report.add timerIds outcome, log ++ log', s₂)

theorem breachForTenant_log (tenantId : Uuid) (chunks : List (List Uuid)) (s : σ) :
    UpToFailure ChunkAttempt.timerIds ChunkAttempt.failed chunks (breachForTenant attempt tenantId chunks s).2.1 ∧
      ∀ a ∈ (breachForTenant attempt tenantId chunks s).2.1, a.tenantId = tenantId := by
  induction chunks generalizing s with
  | nil => exact ⟨rfl, nofun⟩
  | cons timerIds chunks ih =>
    cases hattempt : attempt tenantId timerIds s with
    | mk outcome after =>
      cases outcome with
      | error =>
        simp only [breachForTenant, hattempt]
        exact ⟨⟨rfl, rfl⟩, fun a ha => by rw [List.mem_singleton.mp ha]⟩
      | ok =>
        obtain ⟨hlog, htenant⟩ := ih after
        simp only [breachForTenant, hattempt]
        refine ⟨⟨rfl, hlog⟩, fun a ha => ?_⟩
        rcases List.mem_cons.mp ha with rfl | hrest
        · rfl
        · exact htenant a hrest

/-- Every state the loop passes through lies between the first and the last. -/
theorem breachForTenant_states {R : σ → σ → Prop} (hrefl : ∀ s, R s s) (htrans : ∀ {a b c}, R a b → R b c → R a c)
    (hattempt : ∀ tenantId timerIds s, R s (attempt tenantId timerIds s).2) (tenantId : Uuid)
    (chunks : List (List Uuid)) (s : σ) : R s (breachForTenant attempt tenantId chunks s).2.2 ∧
      ∀ a ∈ (breachForTenant attempt tenantId chunks s).2.1,
        R s a.after ∧ R a.after (breachForTenant attempt tenantId chunks s).2.2 := by
  induction chunks generalizing s with
  | nil => exact ⟨hrefl s, nofun⟩
  | cons timerIds chunks ih =>
    have hfirst := hattempt tenantId timerIds s
    cases hrun : attempt tenantId timerIds s with
    | mk outcome after =>
      rw [hrun] at hfirst
      cases outcome with
      | error =>
        simp only [breachForTenant, hrun]
        refine ⟨hfirst, fun a ha => ?_⟩
        rw [List.mem_singleton.mp ha]
        exact ⟨hfirst, hrefl after⟩
      | ok =>
        obtain ⟨hlast, hlog⟩ := ih after
        simp only [breachForTenant, hrun]
        refine ⟨htrans hfirst hlast, fun a ha => ?_⟩
        rcases List.mem_cons.mp ha with rfl | hrest
        · exact ⟨hfirst, hlast⟩
        · exact ⟨htrans hfirst (hlog a hrest).1, (hlog a hrest).2⟩

theorem breachByTenant_tenants (groups : List (Uuid × List Uuid)) (s : σ) :
    ∀ a ∈ (breachByTenant attempt groups s).2.1, a.tenantId ∈ groups.map Prod.fst := by
  induction groups generalizing s with
  | nil => exact nofun
  | cons group groups ih =>
    intro a ha
    rcases List.mem_append.mp ha with hfirst | hrest
    · rw [(breachForTenant_log attempt _ _ s).2 a hfirst]
      exact List.mem_cons_self
    · exact List.mem_cons_of_mem _ (ih _ a hrest)

theorem breachByTenant_log {groups : List (Uuid × List Uuid)} (hnodup : (groups.map Prod.fst).Nodup) (s : σ)
    (hgroup : group ∈ groups) :
    UpToFailure ChunkAttempt.timerIds ChunkAttempt.failed (chunked slaSweepTenantChunk group.2)
      ((breachByTenant attempt groups s).2.1.filter fun a => a.tenantId = group.1) := by
  induction groups generalizing s with
  | nil => cases hgroup
  | cons head groups ih =>
    rw [List.map_cons, List.nodup_cons] at hnodup
    obtain ⟨hlog, htenant⟩ :=
      breachForTenant_log attempt head.1 (chunked slaSweepTenantChunk head.2) s
    simp only [breachByTenant, List.filter_append]
    rcases List.mem_cons.mp hgroup with rfl | hrest
    · -- its own turn, and nothing of it later
      rw [List.filter_eq_self.mpr fun a ha => decide_eq_true (htenant a ha), List.filter_eq_nil_iff.mpr ?_]
      · rw [List.append_nil]
        exact hlog
      · intro a ha heq
        apply hnodup.1
        rw [← of_decide_eq_true heq]
        exact breachByTenant_tenants attempt groups _ a ha
    · -- the turns before it are others'
      rw [List.filter_eq_nil_iff.mpr ?_, List.nil_append]
      · exact ih hnodup.2 _ hrest
      · intro a ha heq
        apply hnodup.1
        rw [← htenant a ha, of_decide_eq_true heq]
        exact List.mem_map_of_mem hrest

theorem breachByTenant_states {R : σ → σ → Prop} (hrefl : ∀ s, R s s) (htrans : ∀ {a b c}, R a b → R b c → R a c)
    (hattempt : ∀ tenantId timerIds s, R s (attempt tenantId timerIds s).2) (groups : List (Uuid × List Uuid)) (s : σ) :
    R s (breachByTenant attempt groups s).2.2 ∧
      ∀ a ∈ (breachByTenant attempt groups s).2.1,
        R s a.after ∧ R a.after (breachByTenant attempt groups s).2.2 := by
  induction groups generalizing s with
  | nil => exact ⟨hrefl s, nofun⟩
  | cons group groups ih =>
    obtain ⟨hturn, hlog⟩ :=
      breachForTenant_states attempt hrefl htrans hattempt group.1 (chunked slaSweepTenantChunk group.2) s
    obtain ⟨hlast, hlog'⟩ := ih (breachForTenant attempt group.1 (chunked slaSweepTenantChunk group.2) s).2.2
    refine ⟨htrans hturn hlast, fun a ha => ?_⟩
    rcases List.mem_append.mp ha with hfirst | hrest
    · exact ⟨(hlog a hfirst).1, htrans (hlog a hfirst).2 hlast⟩
    · exact ⟨htrans hturn (hlog' a hrest).1, (hlog' a hrest).2⟩

end Phase2

section Selection

variable {db : SlaDb} (order : DueOrder) (tenants : ActiveTenants)

theorem mem_shareOf (h : t ∈ db.shareOf order tenantId) : t ∈ db.slaTimers ∧ t.tenantId = tenantId := by
  have hdue := (order.perm _).mem_iff.mp (List.mem_of_mem_take h)
  obtain ⟨ht, hp⟩ := List.mem_filter.mp hdue
  exact ⟨ht, (of_decide_eq_true hp).1⟩

theorem candidates_perm (db : SlaDb) :
    (db.candidates order tenants).Perm (tenants.ids.flatMap (db.shareOf order)) := order.perm _

theorem shares_of_tenant {ids : List Uuid} (hnodup : ids.Nodup) (tenantId : Uuid) :
    ((ids.flatMap (db.shareOf order)).filter fun t => t.tenantId = tenantId).length ≤ slaSweepTenantBatch := by
  induction ids with
  | nil => exact Nat.zero_le _
  | cons first ids ih =>
    obtain ⟨hnot, hrest⟩ := List.nodup_cons.mp hnodup
    rw [List.flatMap_cons, List.filter_append, List.length_append]
    by_cases hfirst : first = tenantId
    · have hnone : ((ids.flatMap (db.shareOf order)).filter fun t => t.tenantId = tenantId) = [] := by
        apply List.filter_eq_nil_iff.mpr
        intro t ht heq
        obtain ⟨other, hother, hshare⟩ := List.mem_flatMap.mp ht
        rw [← (mem_shareOf order hshare).2, of_decide_eq_true heq, ← hfirst] at hother
        exact hnot hother
      rw [hnone, List.length_nil, Nat.add_zero]
      exact (List.length_filter_le _ _).trans (List.length_take_le _ _)
    · have hnone : ((db.shareOf order first).filter fun t => t.tenantId = tenantId) = [] := by
        apply List.filter_eq_nil_iff.mpr
        intro t ht heq
        exact hfirst ((mem_shareOf order ht).2.symm.trans (of_decide_eq_true heq))
      rw [hnone, List.length_nil, Nat.zero_add]
      exact ih hrest

theorem filter_dueRow (timers : List SlaTimer) (tenantId : Uuid) :
    ((timers.map SlaTimer.dueRow).filter fun r => r.tenantId = tenantId).length =
      (timers.filter fun t => t.tenantId = tenantId).length := by
  rw [List.filter_map, List.length_map]
  rfl

theorem findDueTimers_perTenant (tenantId : Uuid) :
    ((db.findDueTimers order tenants).filter fun r => r.tenantId = tenantId).length ≤ slaSweepTenantBatch := by
  rw [SlaDb.findDueTimers, filter_dueRow]
  have hsub := (List.take_sublist slaSweepBatch (db.candidates order tenants)).filter fun t => t.tenantId = tenantId
  have hperm := ((candidates_perm order tenants db).filter fun t => t.tenantId = tenantId).length_eq
  exact hsub.length_le.trans (hperm.le.trans (shares_of_tenant order tenants.nodup tenantId))

theorem findDueTimers_length : (db.findDueTimers order tenants).length ≤ slaSweepBatch := by
  rw [SlaDb.findDueTimers, List.length_map]
  exact List.length_take_le _ _

theorem findDueTimers_nodup (hdb : db.Ok) : ((db.findDueTimers order tenants).map DueTimerRow.id).Nodup := by
  have hids : (db.slaTimers.map SlaTimer.id).Nodup := hdb.id.nodup_map fun _ => rfl
  have hshare : ∀ tenantId, (db.shareOf order tenantId).Nodup := fun tenantId =>
    (List.take_sublist _ _).nodup ((order.perm _).nodup_iff.mpr ((List.Nodup.of_map _ hids).filter _))
  have hshares : (tenants.ids.flatMap (db.shareOf order)).Nodup := by
    apply List.nodup_flatMap.mpr
    refine ⟨fun tenantId _ => hshare tenantId, tenants.nodup.imp fun {a b} hne => ?_⟩
    intro t ha hb
    exact hne ((mem_shareOf order ha).2.symm.trans (mem_shareOf order hb).2)
  have htaken : ((db.candidates order tenants).take slaSweepBatch).Nodup :=
    (List.take_sublist _ _).nodup ((candidates_perm order tenants db).nodup_iff.mpr hshares)
  have hmem : ∀ t ∈ (db.candidates order tenants).take slaSweepBatch, t ∈ db.slaTimers := by
    intro t ht
    obtain ⟨tenantId, _, hshare⟩ :=
      List.mem_flatMap.mp ((candidates_perm order tenants db).mem_iff.mp (List.mem_of_mem_take ht))
    exact (mem_shareOf order hshare).1
  rw [SlaDb.findDueTimers, List.map_map]
  exact htaken.map_on fun a ha b hb hid => hdb.eq_of_id (hmem a ha) (hmem b hb) hid

theorem exists_candidate (h : tenantId ∈ db.dueTenants tenants) :
    ∃ t ∈ db.candidates order tenants, t.tenantId = tenantId := by
  obtain ⟨hmem, hdue⟩ := List.mem_filter.mp h
  have hpos : 0 < (db.shareOf order tenantId).length := by
    rw [SlaDb.shareOf, List.length_take, (order.perm _).length_eq]
    exact Nat.lt_min.mpr ⟨by decide, List.length_pos_of_ne_nil (of_decide_eq_true hdue)⟩
  obtain ⟨t, ht⟩ := List.exists_mem_of_length_pos hpos
  exact ⟨t, (candidates_perm order tenants db).mem_iff.mpr (List.mem_flatMap.mpr ⟨tenantId, hmem, ht⟩),
    (mem_shareOf order ht).2⟩

theorem grouped_due (rows : List DueTimerRow) :
    Grouped DueTimerRow.tenantId DueTimerRow.id rows (groupByTenant rows) := grouped_groupBy _ _ rows

/-- The batch is not cut, and every tenant is in it, or it is full, and takes four to fill. -/
theorem served_le : min (db.dueTenants tenants).length 4 ≤ (groupByTenant (db.findDueTimers order tenants)).length := by
  have hgroups := grouped_due (db.findDueTimers order tenants)
  by_cases hcut : (db.candidates order tenants).length ≤ slaSweepBatch
  · apply (Nat.min_le_left _ _).trans
    rw [← List.length_map (f := Prod.fst)]
    apply List.Subperm.length_le
    apply List.subperm_of_subset (tenants.nodup.filter _)
    intro tenantId htenant
    obtain ⟨t, ht, rfl⟩ := exists_candidate order tenants htenant
    apply hgroups.covers t.dueRow
    rw [SlaDb.findDueTimers, List.take_of_length_le hcut]
    exact List.mem_map_of_mem ht
  · apply (Nat.min_le_right _ _).trans
    have hfull : (db.findDueTimers order tenants).length = slaSweepBatch := by
      rw [SlaDb.findDueTimers, List.length_map, List.length_take]
      exact Nat.min_eq_left (Nat.le_of_not_le hcut)
    have hle := hgroups.length_le (groupBy_perm _ _ _) (findDueTimers_perTenant order tenants)
    rw [hfull] at hle
    exact Nat.le_of_mul_le_mul_right hle (by decide : 0 < slaSweepTenantBatch)

end Selection

def sweepChunks (rows : List DueTimerRow) : List (Uuid × List Uuid) :=
  (groupByTenant rows).flatMap fun group => (chunked slaSweepTenantChunk group.2).map fun chunk => (group.1, chunk)

theorem sweepChunks_perm (rows : List DueTimerRow) :
    ((sweepChunks rows).flatMap Prod.snd).Perm (rows.map DueTimerRow.id) := by
  have hflat : (sweepChunks rows).flatMap Prod.snd = (groupByTenant rows).flatMap Prod.snd := by
    rw [sweepChunks, List.flatMap_assoc]
    congr 1
    funext group
    rw [List.flatMap_map]
    show (chunked slaSweepTenantChunk group.2).flatMap id = group.2
    rw [List.flatMap_id]
    exact flatten_chunked (by decide) group.2
  rw [hflat]
  exact groupBy_perm _ _ rows

/-- What came of one chunk: the database has moved on, with the chunk's call among the others. -/
def ChunkRun (tenantId : Uuid) (timerIds : List Uuid) (s : SlaSys) (outcome : Except ChunkError CommittedChunk)
    (s' : SlaSys) : Prop :=
  Reachable slaProgram anyStep s s' ∧ ∀ committed, outcome = .ok committed →
    ∃ ids skipped s₁ p records, Reachable slaProgram anyStep s s₁ ∧
      Reachable slaProgram anyStep (s₁.spawn slaProgram (.breachChunk tenantId ids timerIds skipped)) s' ∧
        s'.calls[s₁.calls.length]? = some (.breachChunk tenantId ids timerIds skipped, p) ∧
          p.result? = some (.breached (.ok records)) ∧ committed.breached = records.length

structure SweepRun where
  attempt : Uuid → List Uuid → SlaSys → Except ChunkError CommittedChunk × SlaSys
  runs : ∀ tenantId timerIds s, ChunkRun tenantId timerIds s (attempt tenantId timerIds s).1 (attempt tenantId timerIds s).2

def sweep (order : DueOrder) (tenants : ActiveTenants) (run : SweepRun) (s : SlaSys) :
    SlaSweepReport × List (ChunkAttempt SlaSys) × SlaSys :=
  let due := s.db.findDueTimers order tenants
  if due = [] then ({}, [], s) else breachByTenant run.attempt (groupByTenant due) s

/-- What a tick guarantees of the timers it selects and of the chunks it tries. -/
structure FairTick (tenants : ActiveTenants) (s : SlaSys) (due : List DueTimerRow) (log : List (ChunkAttempt SlaSys))
    (s' : SlaSys) : Prop where
  perTenant : ∀ tenantId, (due.filter fun r => r.tenantId = tenantId).length ≤ 50
  total : due.length ≤ 200
  served : min (s.db.dueTenants tenants).length 4 ≤ (log.map ChunkAttempt.tenantId).dedup.length
  partition : ((sweepChunks due).flatMap Prod.snd).Perm (due.map DueTimerRow.id) ∧ (due.map DueTimerRow.id).Nodup
  chunk : ∀ chunk ∈ sweepChunks due, chunk.2 ≠ [] ∧ chunk.2.length ≤ 25 ∧ ∀ id ∈ chunk.2, ⟨chunk.1, id⟩ ∈ due
  attempted : ∀ group ∈ groupByTenant due, UpToFailure ChunkAttempt.timerIds ChunkAttempt.failed
    (chunked slaSweepTenantChunk group.2) (log.filter fun a => a.tenantId = group.1)
  isolated : ∀ group ∈ groupByTenant due, (∀ a ∈ log, a.tenantId = group.1 → a.failed = false) →
    (log.filter fun a => a.tenantId = group.1).map ChunkAttempt.timerIds = chunked slaSweepTenantChunk group.2
  durable : ∀ a ∈ log, Reachable slaProgram anyStep a.after s' ∧ a.after.db.Frozen s'.db

theorem served_of_log {due : List DueTimerRow} {log : List (ChunkAttempt SlaSys)}
    (hattempted : ∀ group ∈ groupByTenant due, UpToFailure ChunkAttempt.timerIds ChunkAttempt.failed
      (chunked slaSweepTenantChunk group.2) (log.filter fun a => a.tenantId = group.1)) :
    (groupByTenant due).length ≤ (log.map ChunkAttempt.tenantId).dedup.length := by
  have hgroups := grouped_due due
  rw [← List.length_map (f := Prod.fst)]
  apply List.Subperm.length_le
  apply List.subperm_of_subset hgroups.nodup
  intro tenantId htenant
  obtain ⟨group, hgroup, rfl⟩ := List.mem_map.mp htenant
  have hchunks : chunked slaSweepTenantChunk group.2 ≠ [] := by
    intro hnil
    apply hgroups.nonempty group hgroup
    rw [← flatten_chunked (by decide : 0 < slaSweepTenantChunk) group.2, hnil]
    rfl
  obtain ⟨a, ha⟩ := List.exists_mem_of_ne_nil _ ((hattempted group hgroup).ne_nil hchunks)
  obtain ⟨hmem, htenant⟩ := List.mem_filter.mp ha
  rw [List.mem_dedup, ← of_decide_eq_true htenant]
  exact List.mem_map_of_mem hmem

theorem mem_sweepChunks {due : List DueTimerRow} (h : chunk ∈ sweepChunks due) :
    chunk.2 ≠ [] ∧ chunk.2.length ≤ slaSweepTenantChunk ∧ ∀ id ∈ chunk.2, ⟨chunk.1, id⟩ ∈ due := by
  obtain ⟨group, hgroup, hchunk⟩ := List.mem_flatMap.mp h
  obtain ⟨timerIds, htimerIds, rfl⟩ := List.mem_map.mp hchunk
  obtain ⟨hne, hlength⟩ := mem_chunked (by decide) htimerIds
  refine ⟨hne, hlength, fun id hid => ?_⟩
  have hmem : id ∈ group.2 := by
    rw [← flatten_chunked (by decide : 0 < slaSweepTenantChunk) group.2]
    exact List.mem_flatten.mpr ⟨timerIds, htimerIds, hid⟩
  rw [(grouped_due due).values group hgroup] at hmem
  obtain ⟨row, hrow, rfl⟩ := List.mem_map.mp hmem
  obtain ⟨hdue, htenant⟩ := List.mem_filter.mp hrow
  rw [← of_decide_eq_true htenant]
  exact hdue

/-- The sort of the standard library. -/
def stableOrder : DueOrder where
  sort timers := Keyset.sortBy (fun a b => a.dueAt ≤ b.dueAt) timers
  perm timers := Keyset.sortBy_perm _ timers
  sorted timers :=
    have hle : Keyset.SortsBy (fun a b : SlaTimer => decide (a.dueAt ≤ b.dueAt)) SlaTimer.dueAt :=
      fun _ _ => decide_eq_true_iff
    Keyset.pairwise_sortBy hle timers

def refusedRun : SweepRun where
  attempt _ _ s := (.error .tenantNotActive, s)
  runs _ _ _ := ⟨.refl, nofun⟩

def oneActiveTenant : ActiveTenants where
  ids := [1]
  nodup := List.nodup_singleton 1

end WhatsappCrm
