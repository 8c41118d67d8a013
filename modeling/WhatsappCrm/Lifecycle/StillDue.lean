/-
Purpose: What a purge destroys, and whether the tenant is still due at that moment.
-/
import WhatsappCrm.Lifecycle.Effects

namespace WhatsappCrm.Lifecycle

open Interleaving Table

/-- The tenant was suspended with an elapsed retention window when this was destroyed. -/
def Destruction.Due (d : Destruction) : Prop := d.tenant.any (·.due d.instant) = true

structure PurgedSafely (db : LifecycleDb) : Prop where
  due : ∀ d ∈ db.destroyed, d.Due
  closed : ∀ d ∈ db.destroyed, ∀ t ∈ db.tenants, t.id = d.tenantId → t.status = .suspended ∨ t.status = .deleted

def StartedDue (db : LifecycleDb) : Prop :=
  ∀ t ∈ db.tenants, t.purgeStartedAt.isSome = true → t.due db.now = true ∨ t.status = .deleted

/-- The condition on a step: a tenant is not taken out of `suspended` while a purge has started, a purge starts on a
    tenant still due, and none goes on once another is through. -/
def undisturbed (db : LifecycleDb) : LifecycleStmt → Bool
  | .commit tenantId target =>
    target = .deleted || target = .suspended ||
      (db.findTenant tenantId).all fun t => t.status ≠ .suspended || t.purgeStartedAt.isNone
  | .begin tenantId => (db.findTenant tenantId).any (·.due db.now)
  | .destroyRows tenantId table =>
    db.purgeBatch tenantId table = [] || (db.findTenant tenantId).all (·.status ≠ .deleted)
  | .destroyObject tenantId _ => (db.findTenant tenantId).all (·.status ≠ .deleted)
  | _ => true

variable {t : Tenant}

theorem Tenant.due_iff :
    t.due now = true ↔ t.status = .suspended ∧ ∃ purgeAt, t.purgeAt = some purgeAt ∧ purgeAt ≤ now := by
  simp [Tenant.due, Option.any_eq_true]

theorem Tenant.due_later (h : t.due now = true) (hnow : now ≤ now') : t.due now' = true := by
  obtain ⟨hstatus, purgeAt, hpurgeAt, hle⟩ := Tenant.due_iff.mp h
  exact Tenant.due_iff.mpr ⟨hstatus, purgeAt, hpurgeAt, hle.trans hnow⟩

theorem StartedDue.status {db : LifecycleDb} (hdb : StartedDue db) (ht : t ∈ db.tenants)
    (hstarted : t.purgeStartedAt.isSome = true) : t.status = .suspended ∨ t.status = .deleted :=
  (hdb t ht hstarted).imp_left fun h => (Tenant.due_iff.mp h).1

theorem startedDue_updateTenants {db : LifecycleDb} (hdb : StartedDue db) {guard : Tenant → Bool}
    (hf : ∀ t ∈ db.tenants, guard t = true → (f t).purgeStartedAt.isSome = true →
      (f t).due db.now = true ∨ (f t).status = .deleted) : StartedDue (db.updateTenants guard f) := by
  intro t ht hstarted
  obtain ⟨t₀, ht₀, ⟨hguard, rfl⟩ | ⟨_, rfl⟩⟩ := mem_updateWhere ht
  · exact hf t₀ ht₀ hguard hstarted
  · exact hdb _ ht₀ hstarted

namespace LifecycleEffect

variable {db : LifecycleDb} {tag : LifecycleStmt}

theorem startedDue (hdb : db.Indexed) (hcond : undisturbed db tag = true) (hstarted : StartedDue db)
    (h : LifecycleEffect db tag db') : StartedDue db' := by
  cases h with
  | same h =>
    intro t ht hpurge
    rw [h.tenants] at ht
    exact (hstarted t ht hpurge).imp_left (Tenant.due_later · h.now)
  | moved input eventId now u hu hid hlegal =>
    refine startedDue_updateTenants hstarted fun t ht hguard hpurge => ?_
    have htu := Tenant.eq_of_id hdb ht hu (by simpa using hguard)
    rw [htu] at hpurge
    have hfind : db.findTenant input.tenantId = some u := hid ▸ findTenant_of_mem hdb hu
    obtain ⟨hundeleted, _, hmoves⟩ := not_refused_ne hlegal
    -- a started purge is of a suspended tenant, and the only way on is to `deleted`
    have hsuspended := (hstarted.status hu hpurge).resolve_right hundeleted
    simp only [undisturbed, hfind, Option.all_some, hsuspended, Bool.or_eq_true, decide_eq_true_eq, ne_eq,
      not_true, decide_false, Bool.false_eq_true, false_or] at hcond
    rcases hcond with (hdeleted | hsame) | hnone
    · exact .inr hdeleted
    · exact absurd (hsuspended.trans hsame.symm) hmoves
    · rw [Tenant.write_purgeStartedAt, Option.isNone_iff_eq_none.mp hnone] at hpurge
      cases hpurge
  | provisioned =>
    intro t ht hpurge
    rcases mem_snoc.mp ht with ht | rfl
    · exact hstarted t ht hpurge
    · cases hpurge
  | expedited tenantId now hnow =>
    refine startedDue_updateTenants hstarted fun t ht hguard hpurge => .inl ?_
    simp only [expeditable, Bool.and_eq_true, decide_eq_true_eq] at hguard
    exact Tenant.due_iff.mpr ⟨hguard.2, now, rfl, hnow⟩
  | stamped guard f hf =>
    refine startedDue_updateTenants hstarted fun t ht _ hpurge => ?_
    obtain ⟨trial, deletion, heq⟩ := hf t
    rw [heq] at hpurge ⊢
    exact hstarted t ht hpurge
  | begun tenantId =>
    refine startedDue_updateTenants hstarted fun t ht hguard _ => .inl ?_
    have hid : t.id = tenantId := by simpa using hguard
    rw [undisturbed, ← hid, findTenant_of_mem hdb ht] at hcond
    exact hcond
  | destroyedRows tenantId table _ hbatch =>
    simp only [LifecycleDb.deleteBatch, hbatch, if_false]
    exact hstarted
  | destroyedObject => exact hstarted

theorem destroyed (h : LifecycleEffect db tag db') : db'.destroyed = db.destroyed ∨
      ∃ tenantId what, PurgeStarted db tenantId ∧ db'.destroyed = db.destroying tenantId what ∧
        (undisturbed db tag = true → (db.findTenant tenantId).all (·.status ≠ .deleted) = true) := by
  cases h with
  | same h => exact .inl h.destroyed
  | destroyedRows tenantId table hstarted hbatch =>
    refine .inr ⟨tenantId, _, hstarted, by simp [LifecycleDb.deleteBatch, hbatch]; rfl, fun hcond => ?_⟩
    simpa [undisturbed, hbatch] using hcond
  | destroyedObject tenantId storageKey hstarted => exact .inr ⟨tenantId, _, hstarted, rfl, fun hcond => hcond⟩
  | _ => exact .inl rfl

end LifecycleEffect

structure PurgeSafe (db : LifecycleDb) : Prop where
  started : StartedDue db
  due : ∀ d ∈ db.destroyed, d.Due
  owner : ∀ d ∈ db.destroyed, PurgeStarted db d.tenantId

theorem LifecycleEffect.purgeSafe {db : LifecycleDb} {tag : LifecycleStmt} (hdb : db.Indexed)
    (hcond : undisturbed db tag = true) (hsafe : PurgeSafe db) (h : LifecycleEffect db tag db') : PurgeSafe db' := by
  have hlater := h.later hdb
  have hstarted := h.startedDue hdb hcond hsafe.started
  rcases h.destroyed with hsame | ⟨tenantId, what, howner, hdestroyed, hundeleted⟩
  · refine ⟨hstarted, fun d hd => hsafe.due d ?_, fun d hd => (hsafe.owner d ?_).later hlater⟩
    · rwa [← hsame]
    · rwa [← hsame]
  · obtain ⟨t, hfind, hpurge⟩ := howner
    have hdue : t.due db.now = true := by
      have hlives := hundeleted hcond
      simp only [hfind, Option.all_some, ne_eq, decide_eq_true_eq] at hlives
      exact (hsafe.started t (findTenant_some hfind).1 hpurge).resolve_right hlives
    refine ⟨hstarted, fun d hd => ?_, fun d hd => ?_⟩
    all_goals
      rw [hdestroyed, LifecycleDb.destroying] at hd
      rcases List.mem_append.mp hd with hd | hd
    · exact hsafe.due d hd
    · rw [List.mem_singleton.mp hd, Destruction.Due, hfind]
      exact hdue
    · exact (hsafe.owner d hd).later hlater
    · rw [List.mem_singleton.mp hd]
      exact PurgeStarted.later ⟨t, hfind, hpurge⟩ hlater

theorem PurgeSafe.purgedSafely {db : LifecycleDb} (hdb : db.Indexed) (h : PurgeSafe db) : PurgedSafely db where
  due := h.due
  closed d hd t ht hid := by
    obtain ⟨u, hfind, hpurge⟩ := h.owner d hd
    obtain ⟨hu, huid⟩ := findTenant_some hfind
    rw [Tenant.eq_of_id hdb ht hu (hid.trans huid.symm)]
    exact h.started.status hu hpurge

/-- In every run that meets the condition a purge destroys only what belongs to a tenant suspended and due at that
    moment, and none it has begun to destroy is back in service. -/
theorem purge_destroys_only_due_tenants {db : LifecycleDb} (hdb : db.Indexed) (hstarted : StartedDue db)
    (hnone : db.destroyed = []) {s : LifecycleSys}
    (hr : Reachable lifecycleProgram (fun s _ tag => undisturbed s.db tag = true) (.idle db) s) :
    PurgedSafely s.db := by
  let L := lifecycleRely.under fun tag db => undisturbed db tag = true
  have hL : L.Sound := lifecycleRely_sound.under _
  have hprog : ∀ call db₀, Prog.Guards L db₀ (lifecycleProgram call) :=
    fun call db₀ => (lifecycleProgram_guards call db₀).under _
  have hcond : ∀ (s : LifecycleSys) (c : LifecycleCall) tag, undisturbed s.db tag = true → L.cond tag s.db :=
    fun _ _ _ h => ⟨trivial, h⟩
  have hsafe : PurgeSafe db := ⟨hstarted, by simp [hnone], by simp [hnone]⟩
  have hkept : PurgeSafe s.db :=
    Reachable.effect hL hprog hcond
      (fun _ _ _ hinv hallowed heffect hsafe => LifecycleEffect.purgeSafe hinv hallowed.2 hsafe heffect)
      (Sys.guarded_idle hdb) hsafe hr
  exact hkept.purgedSafely (Reachable.guards hL hprog hcond (Sys.guarded_idle hdb) hr).inv

def dueTenant : LifecycleDb where
  now := 100
  tenants := [{ id := 1, slug := "acme", name := "Acme", status := .suspended, purgeAt := some 40 }]
  rows := [{ id := 5, table := .messages, tenantId := 1 }, { id := 6, table := .conversations, tenantId := 1 }]

theorem dueTenant_indexed : dueTenant.Indexed := ⟨List.pairwise_singleton _ _, List.pairwise_singleton _ _⟩

theorem dueTenant_startedDue : StartedDue dueTenant := by
  simp [StartedDue, dueTenant]

/-- A purge dies after its second table; the window is brought forward, and another purge does the rest. -/
def resumedPurge : List (Move LifecycleCall) :=
  .spawn (.purge 1 3 [] 21) :: List.replicate 7 (.step 0) ++
    [.spawn (.expedite 1), .step 1, .step 1] ++
    .spawn (.purge 1 3 [] 22) :: List.replicate 56 (.step 2)

theorem purge_destroys_only_due_tenants_resumedPurge : ∃ s : LifecycleSys,
    s.db.tenants.map (·.status) = [.deleted] ∧ s.db.destroyed.length = 2 ∧ PurgedSafely s.db := by
  have hrun : (run lifecycleProgram (fun s _ tag => undisturbed s.db tag) resumedPurge (.idle dueTenant)).map
      (fun s => decide (s.db.tenants.map (·.status) = [.deleted] ∧ s.db.destroyed.length = 2)) = some true := by
    decide +kernel
  obtain ⟨s, hs, hfinal⟩ := Option.map_eq_some_iff.mp hrun
  obtain ⟨htenants, hdestroyed⟩ := of_decide_eq_true hfinal
  exact ⟨s, htenants, hdestroyed, purge_destroys_only_due_tenants dueTenant_indexed dueTenant_startedDue rfl
    (reachable_of_run hs)⟩

def reactivatedMeanwhile : List (Move LifecycleCall) :=
  .spawn (.purge 1 3 [] 21) :: List.replicate 7 (.step 0) ++
    .spawn (.transition { tenantId := 1, target := .active, trigger := .operatorAction } 22) ::
      List.replicate 6 (.step 1) ++
    List.replicate 5 (.step 0)

theorem reactivated_tenant_goes_on_losing_rows :
    ¬ ∀ db : LifecycleDb, db.Indexed → StartedDue db → db.destroyed = [] → ∀ s, LifecycleRun db s →
      PurgedSafely s.db := by
  intro hclaim
  have hrun : (run lifecycleProgram (fun _ _ _ => true) reactivatedMeanwhile (.idle dueTenant)).map
      (fun s => s.db.destroyed.map fun d => d.tenant.map (·.status)) = some [some .suspended, some .active] := by
    decide +kernel
  obtain ⟨s, hreach, hdestroyed⟩ := ends_of_run_any hrun
  have hsafe := hclaim dueTenant dueTenant_indexed dueTenant_startedDue rfl s hreach
  obtain ⟨d, hd, hactive⟩ : ∃ d ∈ s.db.destroyed, d.tenant.map (·.status) = some .active :=
    List.mem_map.mp (by rw [hdestroyed]; simp)
  obtain ⟨t, htenant, hstatus⟩ := Option.map_eq_some_iff.mp hactive
  have hdue := hsafe.due d hd
  rw [Destruction.Due, htenant] at hdue
  have hsuspended := (Tenant.due_iff.mp hdue).1
  rw [hstatus] at hsuspended
  cases hsuspended

end WhatsappCrm.Lifecycle
