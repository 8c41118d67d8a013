/-
Purpose: What a statement of the lifecycle does to the tenants, the trail and the record of what was destroyed, and what
  follows in every run: of a purge, of `deleted`, of the timers of a status.
-/
import WhatsappCrm.Lifecycle.System

namespace WhatsappCrm.Lifecycle

open Interleaving Table

variable {t : Tenant} {tenantId : Uuid} {guard : Tenant → Bool} {f : Tenant → Tenant}

theorem Tenant.eq_of_id {db : LifecycleDb} (hdb : db.Indexed) (ht : t ∈ db.tenants)
    (hu : u ∈ db.tenants) (h : t.id = u.id) : t = u :=
  hdb.id.eq_of_entry ht hu rfl (by simp [h])

theorem findTenant_some {db : LifecycleDb} (h : db.findTenant tenantId = some t) : t ∈ db.tenants ∧ t.id = tenantId :=
  ⟨List.mem_of_find?_eq_some h, by simpa using List.find?_some h⟩

theorem findTenant_of_mem {db : LifecycleDb} (hdb : db.Indexed) (ht : t ∈ db.tenants) : db.findTenant t.id = some t :=
  hdb.id.find?_eq_some ht (decide_eq_true rfl) fun _ _ hu => congrArg some (of_decide_eq_true hu)

/-- What a tenant's row keeps of what was seen of it. -/
structure Tenant.Later (t t' : Tenant) : Prop where
  id : t'.id = t.id
  started : t.purgeStartedAt.isSome = true → t'.purgeStartedAt.isSome = true
  deleted : t.status = .deleted → t'.status = .deleted

/-- The clock goes on, and no tenant disappears. -/
structure Later (db db' : LifecycleDb) : Prop where
  now : db.now ≤ db'.now
  found : ∀ tenantId t, db.findTenant tenantId = some t → ∃ t', db'.findTenant tenantId = some t' ∧ t.Later t'

theorem Tenant.Later.refl (t : Tenant) : t.Later t := ⟨rfl, fun h => h, fun h => h⟩

theorem Tenant.Later.trans {t₁ : Tenant} (h₁ : t₁.Later t₂) (h₂ : t₂.Later t₃) : t₁.Later t₃ where
  id := h₂.id.trans h₁.id
  started h := h₂.started (h₁.started h)
  deleted h := h₂.deleted (h₁.deleted h)

theorem Later.refl (db : LifecycleDb) : Later db db where
  now := le_refl _
  found _ t h := ⟨t, h, .refl t⟩

theorem Later.trans (h₁ : Later db₁ db₂) (h₂ : Later db₂ db₃) : Later db₁ db₃ where
  now := h₁.now.trans h₂.now
  found tenantId t h := by
    obtain ⟨t', h', hlater⟩ := h₁.found tenantId t h
    obtain ⟨t'', h'', hlater'⟩ := h₂.found tenantId t' h'
    exact ⟨t'', h'', hlater.trans hlater'⟩

theorem Later.of_tenants {db db' : LifecycleDb} (hnow : db.now ≤ db'.now) (h : db'.tenants = db.tenants) :
    Later db db' where
  now := hnow
  found tenantId t hfind := by
    refine ⟨t, ?_, .refl t⟩
    rw [LifecycleDb.findTenant, h]
    exact hfind

def PurgeStarted (db : LifecycleDb) (tenantId : Uuid) : Prop :=
  ∃ t, db.findTenant tenantId = some t ∧ t.purgeStartedAt.isSome = true

theorem PurgeStarted.later {db db' : LifecycleDb} (h : PurgeStarted db tenantId)
    (hlater : Later db db') : PurgeStarted db' tenantId := by
  obtain ⟨t, hfind, hstarted⟩ := h
  obtain ⟨t', hfind', ht⟩ := hlater.found tenantId t hfind
  exact ⟨t', hfind', ht.started hstarted⟩

structure SameTenants (db db' : LifecycleDb) : Prop where
  now : db.now ≤ db'.now
  tenants : db'.tenants = db.tenants
  lifecycleEvents : db'.lifecycleEvents = db.lifecycleEvents
  destroyed : db'.destroyed = db.destroyed

theorem SameTenants.refl (db : LifecycleDb) : SameTenants db db := ⟨le_refl _, rfl, rfl, rfl⟩

def StampsOnly (f : Tenant → Tenant) : Prop :=
  ∀ t, ∃ trial deletion, f t = { t with trialEndingNotifiedAt := trial, deletionReminderNotifiedAt := deletion }

inductive LifecycleEffect (db : LifecycleDb) : LifecycleStmt → LifecycleDb → Prop where
  | same {tag db'} (h : SameTenants db db') : LifecycleEffect db tag db'
  | moved (input : TenantTransition) (eventId : Uuid) (now : Millis) (t : Tenant) (ht : t ∈ db.tenants)
      (hid : t.id = input.tenantId) (hlegal : refuseTransition t.status input.target input.trigger = none) :
      LifecycleEffect db (.commit input.tenantId input.target)
        { db.updateTenants (·.id = t.id) (·.write input.target (timerColumnsFor t.status input.target now)) with
          lifecycleEvents := db.lifecycleEvents ++ [input.event eventId t now] }
  | provisioned (command : ProvisionTenantCommand) (tenantId eventId : Uuid) (now : Millis)
      (hnew : ∀ t ∈ db.tenants, t.id ≠ tenantId ∧ t.slug ≠ command.slug) :
      LifecycleEffect db .provision
        { db with
          tenants := db.tenants ++ [startingTenant command tenantId now]
          lifecycleEvents := db.lifecycleEvents ++ [genesisEvent (startingTenant command tenantId now) eventId now] }
  | expedited (tenantId : Uuid) (now : Millis) (hnow : now ≤ db.now) :
      LifecycleEffect db (.expedite tenantId) (db.updateTenants (expeditable tenantId) ({ · with purgeAt := some now }))
  | stamped (guard : Tenant → Bool) (f : Tenant → Tenant) (hf : StampsOnly f) :
      LifecycleEffect db .stamp (db.updateTenants guard f)
  | begun (tenantId : Uuid) (now : Millis) :
      LifecycleEffect db (.begin tenantId) (db.updateTenants (·.id = tenantId) ({ · with purgeStartedAt := some now }))
  | destroyedRows (tenantId : Uuid) (table : PurgeTable) (hstarted : PurgeStarted db tenantId)
      (hbatch : db.purgeBatch tenantId table ≠ []) :
      LifecycleEffect db (.destroyRows tenantId table) (db.deleteBatch tenantId table).2
  | destroyedObject (tenantId : Uuid) (storageKey : String) (hstarted : PurgeStarted db tenantId) :
      LifecycleEffect db (.destroyObject tenantId storageKey) (db.deleteObject tenantId storageKey)

theorem findTenant_updateTenants {db : LifecycleDb} (hid : ∀ t, (f t).id = t.id) (tenantId : Uuid) :
    (db.updateTenants guard f).findTenant tenantId =
      (db.findTenant tenantId).map fun t => if guard t then f t else t :=
  find?_updateWhere (fun t => by rw [hid]) db.tenants

theorem updateTenants_later {db : LifecycleDb} (hf : ∀ t ∈ db.tenants, guard t = true → t.Later (f t)) (hid : ∀ t, (f t).id = t.id) :
    Later db (db.updateTenants guard f) where
  now := le_refl _
  found tenantId t h := by
    refine ⟨if guard t then f t else t, ?_, ?_⟩
    · rw [findTenant_updateTenants hid, h]
      rfl
    · split
      · exact hf t (findTenant_some h).1 ‹_›
      · exact .refl t

theorem updateTenants_indexed {db : LifecycleDb} (hdb : db.Indexed) (hid : ∀ t, (f t).id = t.id) (hslug : ∀ t, (f t).slug = t.slug) : (db.updateTenants guard f).Indexed where
  id := hdb.id.updateWhere fun t _ _ => .inr (by rw [hid])
  slug := hdb.slug.updateWhere fun t _ _ => .inr (by rw [hslug])

theorem stampsOnly_id (hf : StampsOnly f) (t : Tenant) : (f t).id = t.id := by
  obtain ⟨trial, deletion, h⟩ := hf t
  rw [h]

theorem stampsOnly_slug (hf : StampsOnly f) (t : Tenant) : (f t).slug = t.slug := by
  obtain ⟨trial, deletion, h⟩ := hf t
  rw [h]

theorem stampsOnly_later (hf : StampsOnly f) (t : Tenant) : t.Later (f t) := by
  obtain ⟨trial, deletion, h⟩ := hf t
  rw [h]
  exact ⟨rfl, fun h => h, fun h => h⟩

namespace LifecycleEffect

variable {db db' : LifecycleDb} {tag : LifecycleStmt}

theorem indexed (hdb : db.Indexed) (h : LifecycleEffect db tag db') : db'.Indexed := by
  cases h with
  | same h => exact ⟨by rw [h.tenants]; exact hdb.id, by rw [h.tenants]; exact hdb.slug⟩
  | moved input eventId now t =>
    have hwritten : (db.updateTenants (·.id = t.id)
        (·.write input.target (timerColumnsFor t.status input.target now))).Indexed :=
      updateTenants_indexed hdb (fun _ => rfl) (fun _ => rfl)
    exact ⟨hwritten.id, hwritten.slug⟩
  | provisioned command tenantId eventId now hnew =>
    refine ⟨hdb.id.concat fun r hr hclash => ?_, hdb.slug.concat fun r hr hclash => ?_⟩
    · exact (hnew r hr).1 (Option.some.inj hclash.2)
    · exact (hnew r hr).2 (Option.some.inj hclash.2)
  | expedited | begun => exact updateTenants_indexed hdb (fun _ => rfl) (fun _ => rfl)
  | stamped guard f hf => exact updateTenants_indexed hdb (stampsOnly_id hf) (stampsOnly_slug hf)
  | destroyedRows tenantId table hstarted hbatch =>
    simp only [LifecycleDb.deleteBatch, hbatch, if_false]
    exact ⟨hdb.id, hdb.slug⟩
  | destroyedObject => exact ⟨hdb.id, hdb.slug⟩

theorem later (hdb : db.Indexed) (h : LifecycleEffect db tag db') : Later db db' := by
  cases h with
  | same h => exact .of_tenants h.now h.tenants
  | moved input eventId now t ht hid hlegal =>
    have hwritten : Later db (db.updateTenants (·.id = t.id)
        (·.write input.target (timerColumnsFor t.status input.target now))) := by
      refine updateTenants_later (fun u hu hguard => ?_) fun _ => rfl
      have hut := Tenant.eq_of_id hdb hu ht (by simpa using hguard)
      rw [hut]
      exact ⟨rfl, fun h => h, fun h => absurd h (not_refused_ne hlegal).1⟩
    exact ⟨hwritten.now, hwritten.found⟩
  | provisioned =>
    refine ⟨le_refl _, fun id t hfind => ⟨t, ?_, .refl t⟩⟩
    rw [LifecycleDb.findTenant] at hfind
    simp [LifecycleDb.findTenant, List.find?_append, hfind]
  | expedited => exact updateTenants_later (fun t _ _ => ⟨rfl, fun h => h, fun h => h⟩) fun _ => rfl
  | stamped guard f hf => exact updateTenants_later (fun t _ _ => stampsOnly_later hf t) (stampsOnly_id hf)
  | begun => exact updateTenants_later (fun t _ _ => ⟨rfl, fun _ => rfl, fun h => h⟩) fun _ => rfl
  | destroyedRows tenantId table hstarted hbatch =>
    simp only [LifecycleDb.deleteBatch, hbatch, if_false]
    exact .of_tenants (le_refl _) rfl
  | destroyedObject => exact .of_tenants (le_refl _) rfl

end LifecycleEffect

def lifecycleRely : Rely LifecycleStmt LifecycleDb where
  inv := LifecycleDb.Indexed
  later := Later
  cond _ _ := True
  effect tag db db' := LifecycleEffect db tag db'

theorem lifecycleRely_sound : lifecycleRely.Sound where
  refl := Later.refl
  trans := Later.trans
  keeps hinv _ heffect := ⟨LifecycleEffect.indexed hinv heffect, LifecycleEffect.later hinv heffect⟩

/-- The writes a transition holds: the lock alone, or the lock and the two writes of a legal edge from the status
    under the lock. -/
inductive TransitionWrites (input : TenantTransition) : List (LifecycleWrite × List LifecycleRow) → Prop where
  | nothing : TransitionWrites input []
  | locked (statuses : List TenantStatus) : TransitionWrites input [(.lockTenant input.tenantId, [.lock statuses])]
  | moved (statuses : List TenantStatus) (eventId : Uuid) (now : Millis) (existing : Tenant)
      (rows rows' : List LifecycleRow) (hid : existing.id = input.tenantId) (hstatus : existing.status ∈ statuses)
      (hlegal : refuseTransition existing.status input.target input.trigger = none) :
      TransitionWrites input
        [(.lockTenant input.tenantId, [.lock statuses]),
          (.updateTenant existing.id input.target (timerColumnsFor existing.status input.target now), rows),
          (.createEvent (input.event eventId existing now), rows')]

theorem applyTransition_gathers (input : TenantTransition) (eventId : Uuid) (now : Millis) :
    (applyTransition input eventId now).Gathers lifecycleWrites lifecycleRely.cond
      (fun _ ws => TransitionWrites input ws) [] := by
  intro db v rows v' _ hv hlock
  cases hv
  cases hlock
  simp only [reduceCtorEq, if_false, List.nil_append]
  intro db₁ v₁ _ hv₁
  have happly := applyAll_single.mp hv₁
  simp only [lifecycleWrites, LifecycleWrite.apply, Except.ok.injEq, Prod.mk.injEq, List.cons.injEq,
    LifecycleRow.lock.injEq, and_true] at happly
  obtain ⟨hstatuses, rfl⟩ := happly
  simp only [Tx.bind_pure_left]
  split
  · trivial
  · rename_i existing hfind
    obtain ⟨hmem, hid⟩ := findTenant_some hfind
    split
    · exact .locked _
    · split
      · trivial
      · rename_i hlegal
        have hstatus : existing.status ∈ (db.tenants.filter (·.id = input.tenantId)).map (·.status) := by
          rw [← hstatuses]
          exact List.mem_map_of_mem (List.mem_filter.mpr ⟨hmem, by simp [hid]⟩)
        intro db₃ v₃ rows₃ v₃' _ _ hupdate
        cases rows₃ with
        | nil => trivial
        | cons row =>
          cases row with
          | tenant =>
            intro db₄ v₄ rows₄ v₄' _ _ hcreate
            cases (ok_of_ite hcreate).2
            exact .moved _ _ _ _ _ _ hid hstatus hlegal
          | lock | event => trivial

theorem commit_transition (hws : TransitionWrites input ws) {db db' : LifecycleDb}
    (h : applyAll lifecycleWrites ws db = .ok db') :
    LifecycleEffect db (.commit input.tenantId input.target) db' := by
  cases hws with
  | nothing =>
    cases h
    exact .same (.refl db)
  | locked =>
    have hlock := applyAll_single.mp h
    cases hlock
    exact .same (.refl db)
  | moved statuses eventId now existing rows rows' hid hstatus hlegal =>
    obtain ⟨db₁, hlock, hrest⟩ := applyAll_cons_ok.mp h
    obtain ⟨db₂, hupdate, hrest⟩ := applyAll_cons_ok.mp hrest
    have hcreate := applyAll_single.mp hrest
    cases hlock
    cases hupdate
    cases (ok_of_ite hcreate).2
    -- the row under the lock is still the one the transition read the status of
    obtain ⟨t, ht, hts⟩ := List.mem_map.mp hstatus
    obtain ⟨hmem, hguard⟩ := List.mem_filter.mp ht
    have htid : t.id = existing.id := by simpa [hid] using hguard
    have hallowed : refuseTransition t.status input.target input.trigger = none := by
      rw [hts]
      exact hlegal
    have heffect := @LifecycleEffect.moved db input eventId now t hmem (htid.trans hid) hallowed
    simpa [LifecycleDb.updateTenants, TenantTransition.event, htid, hts] using heffect

inductive ProvisionWrites (command : ProvisionTenantCommand) : List (LifecycleWrite × List LifecycleRow) → Prop where
  | nothing : ProvisionWrites command []
  | made (tenantId eventId : Uuid) (now : Millis) (rows rows' : List LifecycleRow) :
      ProvisionWrites command
        [(.createTenant (startingTenant command tenantId now), rows),
          (.createEvent (genesisEvent (startingTenant command tenantId now) eventId now), rows')]

theorem createTenant_gathers (command : ProvisionTenantCommand) (tenantId eventId : Uuid) (now : Millis) :
    (createTenant command tenantId eventId now).Gathers lifecycleWrites lifecycleRely.cond
      (fun _ ws => ProvisionWrites command ws) [] := by
  intro db v rows v' _ _ hcreate
  cases (ok_of_ite hcreate).2
  intro db₁ v₁ rows₁ v₁' _ _ hevent
  cases (ok_of_ite hevent).2
  exact .made tenantId eventId now _ _

theorem commit_provision
    (hws : ProvisionWrites command ws) {db db' : LifecycleDb} (h : applyAll lifecycleWrites ws db = .ok db') :
    LifecycleEffect db .provision db' := by
  cases hws with
  | nothing =>
    cases h
    exact .same (.refl db)
  | made =>
    obtain ⟨db₁, hcreate, hrest⟩ := applyAll_cons_ok.mp h
    have hevent := applyAll_single.mp hrest
    obtain ⟨hnew, hcreate⟩ := ok_of_ite hcreate
    cases hcreate
    cases (ok_of_ite hevent).2
    apply LifecycleEffect.provisioned
    intro t ht
    simp only [List.any_eq_true, decide_eq_true_eq, not_exists, not_and, not_or] at hnew
    exact hnew t ht

theorem transition_guards (input : TenantTransition) (eventId : Uuid) (db₀ : LifecycleDb) :
    Prog.Guards lifecycleRely db₀ (transition input eventId) := by
  have hgathers : (transitionTransaction input eventId).Gathers lifecycleWrites lifecycleRely.cond
      (fun _ ws => TransitionWrites input ws) [] := by
    intro db v _ _
    exact applyTransition_gathers input eventId v.now
  apply Tx.Gathers.guards _ _ (hgathers.narrow fun _ _ h => h.2)
  · exact fun tag db _ _ => .same (.refl db)
  · exact fun _ ws db db' _ _ hws h => commit_transition hws h

theorem provision_guards (command : ProvisionTenantCommand) (tenantId eventId : Uuid) (db₀ : LifecycleDb) :
    Prog.Guards lifecycleRely db₀ (provision command tenantId eventId) := by
  apply Tx.Gathers.guards (P := fun _ ws => ProvisionWrites command ws)
  · exact fun tag db _ _ => .same (.refl db)
  · exact fun _ ws db db' _ _ hws h => commit_provision hws h
  · intro db v _ _ db₁ v₁ _ _
    simp only [Tx.bind_pure_left]
    cases v₁.findBySlug command.slug with
    | none => exact (createTenant_gathers command tenantId eventId v.now).narrow fun _ _ h => h.2
    | some => exact .nothing

theorem read_guards {tag : LifecycleStmt} {f : LifecycleDb → β}
    (h : ∀ db, Later db₀ db → db.Indexed → Prog.Guards lifecycleRely db (next (f db))) :
    Prog.Guards lifecycleRely db₀ ((Prog.read tag f).bind next) :=
  fun db hlater hinv _ => ⟨.same (.refl db), h db hlater hinv⟩

theorem state_guards (tenantId : Uuid) (db₀ : LifecycleDb) : Prog.Guards lifecycleRely db₀ (state tenantId) :=
  fun db _ _ _ => ⟨.same (.refl db), trivial⟩

theorem transitionBySlug_guards (slug : String) (target : TenantStatus) (actor : AuditActor)
    (reason : Option String) (eventId : Uuid) (db₀ : LifecycleDb) :
    Prog.Guards lifecycleRely db₀ (transitionBySlug slug target actor reason eventId) := by
  apply read_guards
  intro db _ _
  cases db.findBySlug slug with
  | none => trivial
  | some =>
    apply (transition_guards _ eventId db).bind lifecycleRely_sound
    intro outcome db' _
    cases outcome <;> trivial

theorem expedite_guards (tenantId : Uuid) (db₀ : LifecycleDb) : Prog.Guards lifecycleRely db₀ (expedite tenantId) := by
  apply read_guards
  intro db _ _ db₁ hlater _ _
  refine ⟨.expedited tenantId db.now hlater.now, ?_⟩
  simp only [Prog.bind_pure_left]
  split
  · trivial
  · exact state_guards tenantId _

theorem forceDelete_guards (slug : String) (actor : AuditActor) (reason : Option String) (eventId : Uuid)
    (db₀ : LifecycleDb) : Prog.Guards lifecycleRely db₀ (forceDelete slug actor reason eventId) := by
  apply (transitionBySlug_guards slug .suspended actor reason eventId db₀).bind lifecycleRely_sound
  intro outcome db _
  cases outcome with
  | error => trivial
  | ok tenant => exact expedite_guards tenant.id db

theorem transitionEach_guards (target : TenantStatus) (eventId : Uuid → Uuid) (due : List Uuid)
    (db₀ : LifecycleDb) : Prog.Guards lifecycleRely db₀ (transitionEach target eventId due) := by
  induction due generalizing db₀ with
  | nil => trivial
  | cons tenantId due ih =>
    apply (transition_guards _ _ db₀).bind lifecycleRely_sound
    intro outcome db _
    apply (ih db).bind lifecycleRely_sound
    intro moved db' _
    cases outcome <;> trivial

theorem sweep_guards (now : Millis) (eventId : Uuid → Uuid) (db₀ : LifecycleDb) :
    Prog.Guards lifecycleRely db₀ (sweep now eventId) := by
  apply read_guards
  intro db _ _
  apply (transitionEach_guards _ _ _ db).bind lifecycleRely_sound
  intro expired db₁ _
  apply read_guards
  intro db₂ _ _
  apply (transitionEach_guards _ _ _ db₂).bind lifecycleRely_sound
  intro elapsed db₃ _
  trivial

theorem claimTrialEnding_guards (tenantId : Uuid) (db₀ : LifecycleDb) :
    Prog.Guards lifecycleRely db₀ (claimTrialEnding tenantId) :=
  fun db _ _ _ => ⟨.stamped _ _ fun t => ⟨some db.now, t.deletionReminderNotifiedAt, rfl⟩, trivial⟩

theorem claimDeletionReminder_guards (tenantId : Uuid) (db₀ : LifecycleDb) :
    Prog.Guards lifecycleRely db₀ (claimDeletionReminder tenantId) :=
  fun db _ _ _ => ⟨.stamped _ _ fun t => ⟨t.trialEndingNotifiedAt, some db.now, rfl⟩, trivial⟩

theorem deleteObjects_guards (tenantId : Uuid) (unreachable keys : List String) (h₀ : PurgeStarted db₀ tenantId) : Prog.Guards lifecycleRely db₀ (deleteObjects tenantId unreachable keys) := by
  induction keys generalizing db₀ with
  | nil => trivial
  | cons key keys ih =>
    simp only [deleteObjects]
    split
    · exact ih h₀
    · intro db hlater hinv _
      have heffect : LifecycleEffect db (.destroyObject tenantId key) (db.deleteObject tenantId key) :=
        .destroyedObject tenantId key (h₀.later hlater)
      refine ⟨heffect, (ih (h₀.later (hlater.trans (heffect.later hinv)))).bind lifecycleRely_sound ?_⟩
      intro deleted db' _
      trivial

theorem deleteBlobs_guards (tenantId : Uuid) (unreachable : List String) (pages : Nat) (cursor : Option Uuid)
    (h₀ : PurgeStarted db₀ tenantId) :
    Prog.Guards lifecycleRely db₀ (deleteBlobs tenantId unreachable pages cursor) := by
  induction pages generalizing db₀ cursor with
  | zero => trivial
  | succ pages ih =>
    apply read_guards
    intro db hlater _
    cases (db.mediaPage tenantId cursor).getLast? with
    | none => trivial
    | some last =>
      have hdb := h₀.later hlater
      apply (deleteObjects_guards tenantId unreachable _ hdb).bind lifecycleRely_sound
      intro deleted db₁ hlater₁
      apply (ih (some last.id) (hdb.later hlater₁)).bind lifecycleRely_sound
      intro rest db₂ _
      trivial

theorem deleteBatch_effect {db : LifecycleDb} (table : PurgeTable) (h : PurgeStarted db tenantId) :
    LifecycleEffect db (.destroyRows tenantId table) (db.deleteBatch tenantId table).2 := by
  by_cases hbatch : db.purgeBatch tenantId table = []
  · rw [LifecycleDb.deleteBatch, if_pos hbatch]
    exact .same (.refl db)
  · exact .destroyedRows tenantId table h hbatch

theorem deleteTable_guards (tenantId : Uuid) (table : PurgeTable) (batches : Nat) (h₀ : PurgeStarted db₀ tenantId) : Prog.Guards lifecycleRely db₀ (deleteTable tenantId table batches) := by
  induction batches generalizing db₀ with
  | zero => trivial
  | succ batches ih =>
    intro db hlater hinv _
    have heffect := deleteBatch_effect table (h₀.later hlater)
    refine ⟨heffect, ?_⟩
    simp only [Prog.bind_pure_left]
    split
    · trivial
    · apply (ih (h₀.later (hlater.trans (heffect.later hinv)))).bind lifecycleRely_sound
      intro rest db' _
      trivial

theorem deleteTables_guards (tenantId : Uuid) (batches : Nat) (tables : List PurgeTable) (h₀ : PurgeStarted db₀ tenantId) : Prog.Guards lifecycleRely db₀ (deleteTables tenantId batches tables) := by
  induction tables generalizing db₀ with
  | nil => trivial
  | cons table tables ih =>
    apply (deleteTable_guards tenantId table batches h₀).bind lifecycleRely_sound
    intro deleted db hlater
    cases deleted with
    | none => trivial
    | some =>
      apply (ih (h₀.later hlater)).bind lifecycleRely_sound
      intro rest db' _
      trivial

theorem unlinkWebhookEvents_guards (tenantId : Uuid) (batches : Nat) (db₀ : LifecycleDb) :
    Prog.Guards lifecycleRely db₀ (unlinkWebhookEvents tenantId batches) := by
  induction batches generalizing db₀ with
  | zero => trivial
  | succ batches ih =>
    intro db _ _ _
    refine ⟨.same ⟨le_refl _, rfl, rfl, rfl⟩, ?_⟩
    simp only [Prog.bind_pure_left]
    split
    · trivial
    · exact ih _

theorem deleteRows_guards (tenantId : Uuid) (batches : Nat) (h₀ : PurgeStarted db₀ tenantId) : Prog.Guards lifecycleRely db₀ (deleteRows tenantId batches) := by
  apply (deleteTables_guards tenantId batches purgeOrder h₀).bind lifecycleRely_sound
  intro total db _
  cases total with
  | none => trivial
  | some =>
    apply (unlinkWebhookEvents_guards tenantId batches db).bind lifecycleRely_sound
    intro done db' _
    cases done <;> trivial

theorem finishPurge_guards (tenantId : Uuid) (rowsDeleted blobsDeleted : Nat) (eventId : Uuid) (db₀ : LifecycleDb) :
    Prog.Guards lifecycleRely db₀ (finishPurge tenantId rowsDeleted blobsDeleted eventId) := by
  apply (transition_guards _ eventId db₀).bind lifecycleRely_sound
  intro outcome db _
  cases outcome <;> trivial

theorem purgeStarted_guards (tenantId : Uuid) (batches : Nat) (unreachable : List String) (eventId : Uuid)
    (h₀ : PurgeStarted db₀ tenantId) :
    Prog.Guards lifecycleRely db₀ (purgeDue tenantId true batches unreachable eventId) := by
  apply (deleteBlobs_guards tenantId unreachable batches none h₀).bind lifecycleRely_sound
  intro blobs db hlater
  cases blobs with
  | none => trivial
  | some blobs =>
    apply (deleteRows_guards tenantId batches (h₀.later hlater)).bind lifecycleRely_sound
    intro rows db' _
    cases rows with
    | none => trivial
    | some rows => exact finishPurge_guards tenantId rows blobs eventId db'

theorem purgeStarted_begun {db : LifecycleDb} (h : db.findTenant tenantId = some t) (now : Millis) :
    PurgeStarted (db.updateTenants (·.id = tenantId) ({ · with purgeStartedAt := some now })) tenantId := by
  refine ⟨{ t with purgeStartedAt := some now }, ?_, rfl⟩
  rw [findTenant_updateTenants (by intro t; rfl), h]
  simp [(findTenant_some h).2]

theorem purge_guards (tenantId : Uuid) (batches : Nat) (unreachable : List String) (eventId : Uuid)
    (db₀ : LifecycleDb) : Prog.Guards lifecycleRely db₀ (purge tenantId batches unreachable eventId) := by
  apply read_guards
  intro db _ _
  apply read_guards
  intro db₁ _ _
  cases hfind : db₁.findTenant tenantId with
  | none => trivial
  | some t =>
    dsimp only
    split
    · cases hstarted : t.purgeStartedAt.isSome with
      | true => exact purgeStarted_guards tenantId batches unreachable eventId ⟨t, hfind, hstarted⟩
      | false =>
        apply read_guards
        intro db₂ hlater₂ _ db₃ hlater₃ hinv₃ _
        have heffect : LifecycleEffect db₃ (.begin tenantId)
            (db₃.updateTenants (·.id = tenantId) ({ · with purgeStartedAt := some db₂.now })) :=
          .begun tenantId db₂.now
        refine ⟨heffect, ?_⟩
        obtain ⟨t₃, hfind₃, _⟩ := (hlater₂.trans hlater₃).found tenantId t hfind
        exact purgeStarted_guards tenantId batches unreachable eventId (purgeStarted_begun hfind₃ db₂.now)
    · trivial

theorem lifecycleProgram_guards (call : LifecycleCall) (db₀ : LifecycleDb) :
    Prog.Guards lifecycleRely db₀ (lifecycleProgram call) := by
  have hreply : ∀ {α : Type} (p : LifecycleProg α) (f : α → LifecycleReply),
      Prog.Guards lifecycleRely db₀ p → Prog.Guards lifecycleRely db₀ (p.bind (.pure ∘ f)) := by
    intro α p f hp
    apply hp.bind lifecycleRely_sound
    exact fun _ _ _ => trivial
  cases call with
  | provision command tenantId eventId => exact hreply _ _ (provision_guards command tenantId eventId db₀)
  | transition input eventId => exact hreply _ _ (transition_guards input eventId db₀)
  | transitionBySlug slug target actor reason eventId =>
    exact hreply _ _ (transitionBySlug_guards slug target actor reason eventId db₀)
  | forceDelete slug actor reason eventId => exact hreply _ _ (forceDelete_guards slug actor reason eventId db₀)
  | expedite tenantId => exact hreply _ _ (expedite_guards tenantId db₀)
  | sweep now eventId => exact hreply _ _ (sweep_guards now eventId db₀)
  | claimTrialEnding tenantId => exact hreply _ _ (claimTrialEnding_guards tenantId db₀)
  | claimDeletionReminder tenantId => exact hreply _ _ (claimDeletionReminder_guards tenantId db₀)
  | purge tenantId batches unreachable eventId =>
    exact hreply _ _ (purge_guards tenantId batches unreachable eventId db₀)
  | storeRow | storeObject | linkEvent => exact fun db _ _ _ => ⟨.same ⟨le_refl _, rfl, rfl, rfl⟩, trivial⟩
  | tick milliseconds =>
    intro db _ _ _
    have hnow : db.now ≤ db.now + milliseconds := Int.le_add_of_nonneg_right (Int.natCast_nonneg _)
    exact ⟨.same ⟨hnow, rfl, rfl, rfl⟩, trivial⟩

/-- The clocks that run are those of the status. -/
structure Tenant.TimersMatch (t : Tenant) : Prop where
  grace : t.gracePeriodEndsAt.isSome = true ↔ t.status = .pastDue ∨ t.status = .cancelled
  purge : t.purgeAt.isSome = true ↔ t.status = .suspended
  trial : t.trialEndsAt.isSome = true → t.status = .trialing
  deleted : t.deletedAt.isSome = true ↔ t.status = .deleted

variable {t : Tenant} {f : Tenant → Tenant}

theorem timersMatch_write (h : t.TimersMatch)
    (hlegal : refuseTransition t.status target trigger = none) (now : Millis) :
    (t.write target (timerColumnsFor t.status target now)).TimersMatch := by
  obtain ⟨hgrace, hpurge, htrial, hdeleted⟩ := h
  obtain ⟨triggers, hedge, _⟩ := refuseTransition_eq_none.mp hlegal
  -- one case for each edge of the graph
  cases hstatus : t.status <;> cases target <;> simp only [edgeTriggers, hstatus, reduceCtorEq] at hedge <;>
    simp only [hstatus, reduceCtorEq, or_false, or_true, iff_false, iff_true, imp_false,
      Bool.not_eq_true, Option.isSome_eq_false_iff, Option.isNone_iff_eq_none] at hgrace hpurge htrial hdeleted <;>
    constructor <;> simp [Tenant.write, timerColumnsFor, stoppedClocks, hgrace, hpurge, htrial, hdeleted]

theorem timersMatch_startingTenant (command : ProvisionTenantCommand) (tenantId : Uuid) (now : Millis) :
    (startingTenant command tenantId now).TimersMatch := by
  cases hpath : command.path <;> constructor <;> simp [startingTenant, startingState, hpath]

theorem timersMatch_expedited {tenantId : Uuid} (h : t.TimersMatch)
    (hguard : expeditable tenantId t = true) (now : Millis) : { t with purgeAt := some now }.TimersMatch := by
  have hsuspended : t.status = .suspended := by
    simp only [expeditable, Bool.and_eq_true, decide_eq_true_eq] at hguard
    exact hguard.2
  exact { h with purge := by simp [hsuspended] }

theorem timersMatch_stamped (hf : StampsOnly f) (h : t.TimersMatch) : (f t).TimersMatch := by
  obtain ⟨trial, deletion, heq⟩ := hf t
  rw [heq]
  exact { h with }

/-- Every row of `tenants` has the clocks of its status. -/
def LifecycleDb.TimersMatch (db : LifecycleDb) : Prop := ∀ t ∈ db.tenants, t.TimersMatch

theorem timersMatch_updateTenants {db : LifecycleDb} (hdb : db.TimersMatch) {guard : Tenant → Bool}
    (hf : ∀ t ∈ db.tenants, guard t = true → t.TimersMatch → (f t).TimersMatch) :
    (db.updateTenants guard f).TimersMatch := by
  intro t ht
  obtain ⟨t₀, ht₀, ⟨hguard, rfl⟩ | ⟨_, rfl⟩⟩ := mem_updateWhere ht
  · exact hf t₀ ht₀ hguard (hdb t₀ ht₀)
  · exact hdb _ ht₀

namespace LifecycleEffect

variable {db : LifecycleDb} {tag : LifecycleStmt}

theorem timersMatch (hdb : db.Indexed) (htimers : db.TimersMatch) (h : LifecycleEffect db tag db') :
    db'.TimersMatch := by
  cases h with
  | same h =>
    rw [LifecycleDb.TimersMatch, h.tenants]
    exact htimers
  | moved input eventId now t ht hid hlegal =>
    refine timersMatch_updateTenants htimers fun u hu hguard hmatch => ?_
    have hut := Tenant.eq_of_id hdb hu ht (by simpa using hguard)
    rw [hut] at hmatch ⊢
    exact timersMatch_write hmatch hlegal now
  | provisioned command tenantId eventId now =>
    intro t ht
    rcases mem_snoc.mp ht with ht | rfl
    · exact htimers t ht
    · exact timersMatch_startingTenant command tenantId now
  | expedited tenantId now =>
    exact timersMatch_updateTenants htimers fun t _ hguard hmatch => timersMatch_expedited hmatch hguard now
  | stamped guard f hf => exact timersMatch_updateTenants htimers fun t _ _ => timersMatch_stamped hf
  | begun => exact timersMatch_updateTenants htimers fun t _ _ hmatch => { hmatch with }
  | destroyedRows tenantId table hstarted hbatch =>
    simp only [LifecycleDb.deleteBatch, hbatch, if_false]
    exact htimers
  | destroyedObject => exact htimers

end LifecycleEffect

def EdgeRecorded (db db' : LifecycleDb) (t : Tenant) : Prop :=
  ∃ t' ∈ db'.tenants, t'.id = t.id ∧ (t.status = .deleted → t'.status = .deleted) ∧
    (t'.status ≠ t.status → ∃ event triggers, db'.lifecycleEvents = db.lifecycleEvents ++ [event] ∧
      event.tenantId = t.id ∧ event.fromState = some t.status ∧ event.toState = t'.status ∧
        edgeTriggers t.status t'.status = some triggers ∧ event.trigger ∈ triggers)

theorem EdgeRecorded.of_mem {db db' : LifecycleDb} (h : t ∈ db'.tenants) : EdgeRecorded db db' t :=
  ⟨t, h, rfl, fun h => h, fun hne => absurd rfl hne⟩

theorem EdgeRecorded.of_update {db : LifecycleDb} {guard : Tenant → Bool} (hf : ∀ t, (f t).id = t.id ∧ (f t).status = t.status) (ht : t ∈ db.tenants) :
    EdgeRecorded db (db.updateTenants guard f) t := by
  refine ⟨_, mem_updateWhere_of_mem ht, ?_⟩
  split
  · exact ⟨(hf t).1, fun h => (hf t).2.trans h, fun hne => absurd (hf t).2 hne⟩
  · exact ⟨rfl, fun h => h, fun hne => absurd rfl hne⟩

theorem LifecycleEffect.edgeRecorded {db db' : LifecycleDb} {tag : LifecycleStmt} (hdb : db.Indexed)
    (h : LifecycleEffect db tag db') (ht : t ∈ db.tenants) : EdgeRecorded db db' t := by
  cases h with
  | same h => exact .of_mem (by rw [h.tenants]; exact ht)
  | moved input eventId now u hu hid hlegal =>
    refine ⟨_, mem_updateWhere_of_mem ht, ?_⟩
    split
    · rename_i hguard
      have htu := Tenant.eq_of_id hdb ht hu (by simpa using hguard)
      obtain ⟨triggers, hedge, htrigger⟩ := refuseTransition_eq_none.mp hlegal
      rw [htu]
      refine ⟨rfl, fun hdeleted => absurd hdeleted (not_refused_ne hlegal).1, fun _ => ?_⟩
      exact ⟨_, triggers, rfl, rfl, rfl, rfl, hedge, htrigger⟩
    · exact ⟨rfl, fun h => h, fun hne => absurd rfl hne⟩
  | provisioned => exact .of_mem (List.mem_append_left _ ht)
  | expedited | begun => exact .of_update (by exact fun _ => ⟨rfl, rfl⟩) ht
  | stamped guard f hf =>
    refine .of_update (fun u => ?_) ht
    obtain ⟨trial, deletion, heq⟩ := hf u
    rw [heq]
    exact ⟨rfl, rfl⟩
  | destroyedRows tenantId table hstarted hbatch =>
    simp only [LifecycleDb.deleteBatch, hbatch, if_false]
    exact .of_mem ht
  | destroyedObject => exact .of_mem ht

theorem LifecycleRun.guarded {db : LifecycleDb} (hdb : db.Indexed) (hr : LifecycleRun db s) : s.Guarded lifecycleRely :=
  Reachable.guards lifecycleRely_sound lifecycleProgram_guards (fun _ _ _ _ => trivial) (Sys.guarded_idle hdb) hr

/-- In every reachable state every tenant has the clocks of its status, and whatever step follows, it leaves no
    deleted tenant and takes an edge only under a trigger the edge has, recorded in the trail. -/
theorem timers_match_the_state {db : LifecycleDb} (hdb : db.Indexed) (htimers : db.TimersMatch) {s : LifecycleSys}
    (hr : LifecycleRun db s) : s.db.TimersMatch ∧
      ∀ s', Step lifecycleProgram anyStep s s' → ∀ t ∈ s.db.tenants, EdgeRecorded s.db s'.db t := by
  refine ⟨?_, fun s' hstep t ht => ?_⟩
  · exact Reachable.effect lifecycleRely_sound lifecycleProgram_guards (fun _ _ _ _ => trivial)
      (fun _ _ _ hinv _ heffect hmatch => LifecycleEffect.timersMatch hinv hmatch heffect) (Sys.guarded_idle hdb) htimers hr
  · have hguarded := hr.guarded hdb
    have hmoves := (hstep.guarded lifecycleRely_sound lifecycleProgram_guards (fun _ _ _ _ => trivial) hguarded).2
    rcases hmoves with hsame | ⟨tag, _, heffect⟩
    · exact .of_mem (by rw [hsame]; exact ht)
    · exact LifecycleEffect.edgeRecorded hguarded.inv heffect ht

/-- A workspace signs up, its trial and its grace period run out, and an operator brings its deletion forward. -/
def unpaidTrial : List (Move LifecycleCall) :=
  [.spawn (.provision { slug := "acme", name := "Acme", path := .selfSignup } 1 10),
    .step 0, .step 0, .step 0, .step 0, .step 0,
    .spawn (.transition { tenantId := 1, target := .pastDue, trigger := .timer } 11),
    .step 1, .step 1, .step 1, .step 1, .step 1, .step 1,
    .spawn (.transition { tenantId := 1, target := .suspended, trigger := .timer } 12),
    .step 2, .step 2, .step 2, .step 2, .step 2, .step 2,
    .spawn (.tick 5), .step 3, .spawn (.expedite 1), .step 4, .step 4]

theorem timers_match_the_state_unpaidTrial : ∃ s : LifecycleSys,
    s.db.tenants.map (fun t => (t.status, t.trialEndsAt, t.gracePeriodEndsAt, t.purgeAt)) =
        [(.suspended, none, none, some 5)] ∧
      s.db.TimersMatch ∧
        ∀ s', Step lifecycleProgram anyStep s s' → ∀ t ∈ s.db.tenants, EdgeRecorded s.db s'.db t := by
  have hrun : (run lifecycleProgram (fun _ _ _ => true) unpaidTrial (.idle {})).map
      (fun s => s.db.tenants.map fun t => (t.status, t.trialEndsAt, t.gracePeriodEndsAt, t.purgeAt)) =
        some [(.suspended, none, none, some 5)] := by
    decide +kernel
  obtain ⟨s, hreach, htenants⟩ := ends_of_run_any hrun
  have hindexed : ({} : LifecycleDb).Indexed := ⟨.nil, .nil⟩
  exact ⟨s, htenants, timers_match_the_state hindexed (by simp [LifecycleDb.TimersMatch]) hreach⟩

/-- One entry of a trail, read at the status the earlier ones have led to. The genesis row takes an edge of `created`. -/
def LifecycleEvent.follow (status : Option TenantStatus) (event : LifecycleEvent) : Option (Option TenantStatus) :=
  if event.fromState = status ∧ (refuseTransition (status.getD .created) event.toState event.trigger).isNone then
    some (some event.toState)
  else none

def LifecycleDb.trail (db : LifecycleDb) (tenantId : Uuid) : List LifecycleEvent :=
  db.lifecycleEvents.filter (·.tenantId = tenantId)

/-- The trail leads from no tenant to the status of the row. -/
def LifecycleDb.Accounted (db : LifecycleDb) (tenantId : Uuid) : Prop :=
  (db.trail tenantId).foldlM LifecycleEvent.follow none = some ((db.findTenant tenantId).map (·.status))

theorem accounted_updateTenants {db : LifecycleDb} (hid : ∀ t, (f t).id = t.id) (hstatus : ∀ t, (f t).status = t.status)
    (h : db.Accounted tenantId) : (db.updateTenants guard f).Accounted tenantId := by
  have hsame : ∀ t : Tenant, (if guard t then f t else t).status = t.status := by
    intro t
    split
    · exact hstatus t
    · rfl
  rw [LifecycleDb.Accounted, findTenant_updateTenants hid, Option.map_map]
  simp only [Function.comp_def, hsame]
  exact h

theorem accounted_snoc {db db' : LifecycleDb} (h : db.Accounted tenantId)
    (hevents : db'.lifecycleEvents = db.lifecycleEvents ++ [event])
    (hother : event.tenantId ≠ tenantId → db'.findTenant tenantId = db.findTenant tenantId)
    (hself : db'.findTenant event.tenantId = some t)
    (hfollow : event.follow ((db.findTenant event.tenantId).map (·.status)) = some (some t.status)) :
    db'.Accounted tenantId := by
  have htrail : db'.trail tenantId = db.trail tenantId ++ [event].filter (·.tenantId = tenantId) := by
    rw [LifecycleDb.trail, hevents, List.filter_append, LifecycleDb.trail]
  rw [LifecycleDb.Accounted, htrail, List.foldlM_append, show _ = some _ from h]
  by_cases hevent : event.tenantId = tenantId
  · subst hevent
    simp [hself, hfollow]
  · simp [hevent, hother hevent]

theorem LifecycleEffect.accounted {db db' : LifecycleDb} {tag : LifecycleStmt} (hdb : db.Indexed)
    (h : LifecycleEffect db tag db') (htrail : db.Accounted tenantId) : db'.Accounted tenantId := by
  cases h with
  | same h =>
    rw [LifecycleDb.Accounted, LifecycleDb.trail, LifecycleDb.findTenant, h.tenants, h.lifecycleEvents]
    exact htrail
  | moved input eventId now t ht hid hlegal =>
    have hfind : ∀ id, (db.updateTenants (·.id = t.id)
        (·.write input.target (timerColumnsFor t.status input.target now))).findTenant id = _ :=
      findTenant_updateTenants fun _ => rfl
    have hself := (hfind t.id).trans (by rw [findTenant_of_mem hdb ht, Option.map_some, if_pos (by simp)])
    refine accounted_snoc htrail rfl (fun hne => ?_) hself ?_
    · refine (hfind tenantId).trans ?_
      cases hfound : db.findTenant tenantId with
      | none => rfl
      | some u =>
        have hother : u.id ≠ t.id := fun h => hne (h.symm.trans (findTenant_some hfound).2)
        simp [hother]
    · simp [LifecycleEvent.follow, TenantTransition.event, Tenant.write, findTenant_of_mem hdb ht, hlegal]
  | provisioned command id eventId now hnew =>
    have hnone : db.findTenant id = none := List.find?_eq_none.mpr fun t ht => by simpa using (hnew t ht).1
    have hself : (db.tenants ++ [startingTenant command id now]).find? (·.id = id) = some (startingTenant command id now) := by
      rw [List.find?_append, show db.tenants.find? (·.id = id) = none from hnone]
      simp [startingTenant]
    refine accounted_snoc htrail rfl (fun hne => ?_) hself ?_
    · have hskip : ¬ (startingTenant command id now).id = tenantId := hne
      simp [LifecycleDb.findTenant, List.find?_append, hskip]
    · cases hpath : command.path <;>
        simp [LifecycleEvent.follow, genesisEvent, startingTenant, startingState, hpath, hnone, refuseTransition,
          canTransitionTenant, TenantStatus.transitions, edgeTriggers]
  | expedited | begun => exact accounted_updateTenants (by exact fun _ => rfl) (by exact fun _ => rfl) htrail
  | stamped guard f hf =>
    refine accounted_updateTenants (stampsOnly_id hf) (fun t => ?_) htrail
    obtain ⟨trial, deletion, heq⟩ := hf t
    rw [heq]
  | destroyedRows id table hstarted hbatch =>
    simp only [LifecycleDb.deleteBatch, hbatch, if_false]
    exact htrail
  | destroyedObject => exact htrail

/-- In every run the trail of each tenant, read in the order of the commits, starts with its genesis row, takes edges of
    the graph only, each from where the one before ended and under a trigger it has, and ends at the tenant's status. -/
theorem trail_leads_to_the_status {db : LifecycleDb} (hdb : db.Indexed) (htrail : ∀ tenantId, db.Accounted tenantId)
    {s : LifecycleSys} (hr : LifecycleRun db s) (tenantId : Uuid) : s.db.Accounted tenantId :=
  Reachable.effect lifecycleRely_sound lifecycleProgram_guards (fun _ _ _ _ => trivial)
    (fun _ _ _ hinv _ heffect => heffect.accounted hinv) (Sys.guarded_idle hdb) (htrail tenantId) hr

theorem trail_leads_to_the_status_unpaidTrial : ∃ s : LifecycleSys,
    (s.db.trail 1).map (·.toState) = [.trialing, .pastDue, .suspended] ∧ s.db.Accounted 1 := by
  have hrun : (run lifecycleProgram (fun _ _ _ => true) unpaidTrial (.idle {})).map
      (fun s => (s.db.trail 1).map (·.toState)) = some [.trialing, .pastDue, .suspended] := by
    decide +kernel
  obtain ⟨s, hreach, htrail⟩ := ends_of_run_any hrun
  have hindexed : ({} : LifecycleDb).Indexed := ⟨.nil, .nil⟩
  exact ⟨s, htrail, trail_leads_to_the_status hindexed (fun _ => rfl) hreach 1⟩

end WhatsappCrm.Lifecycle
