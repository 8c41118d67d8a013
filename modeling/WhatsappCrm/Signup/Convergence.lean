/-
Purpose: Provisioning converges.
-/
import WhatsappCrm.Signup.Effects

namespace WhatsappCrm.Signup

open Interleaving Table Lifecycle
open Auth (Crypto)
open Domains (TenantDomain citext)

variable {config : SignupConfig} {found : Option ExistingTenant → Prop}

def platformOf (tenantId : Uuid) (d : TenantDomain) : Bool := d.tenantId = tenantId && d.kind = .platform

def genesisOf (tenantId : Uuid) (e : LifecycleEvent) : Bool := e.tenantId = tenantId && e.fromState = none

def HasGenesis (db : SignupDb) (t : Tenant) : Prop :=
  (db.lifecycleEvents.filter (genesisOf t.id)).map (·.occurredAt) = [t.createdAt]

structure Complete (db : SignupDb) (t : Tenant) : Prop where
  settings : ∃ s ∈ db.settings, s.tenantId = t.id
  domain : ∃ d ∈ db.domains, platformOf t.id d = true ∧ d.isPrimary = true
  slaPolicy : ∃ p ∈ db.slaPolicies, p.tenantId = t.id
  entitlements : ∃ e ∈ db.entitlements, e.tenantId = t.id

def Fills {ρ : Type} (kind : ρ → Bool) (rows rows' : List ρ) : Prop :=
  if rows.any kind then rows' = rows else ∃ row, kind row = true ∧ rows' = rows ++ [row]

structure AddsMissing (t : Tenant) (db db' : SignupDb) : Prop where
  tenants : db'.tenants = db.tenants
  settings : Fills (fun s => s.tenantId = t.id) db.settings db'.settings
  domains : Fills (platformOf t.id) db.domains db'.domains
  slaPolicies : Fills (fun p => p.tenantId = t.id) db.slaPolicies db'.slaPolicies
  entitlements : Fills (fun e => e.tenantId = t.id) db.entitlements db'.entitlements
  lifecycleEvents : db'.lifecycleEvents = db.lifecycleEvents

structure AddsTenant (t : Tenant) (db db' : SignupDb) : Prop where
  tenants : db'.tenants = db.tenants ++ [t]
  settings : ∃ row, row.tenantId = t.id ∧ db'.settings = db.settings ++ [row]
  domains : ∃ row, platformOf t.id row = true ∧ row.isPrimary = true ∧ db'.domains = db.domains ++ [row]
  slaPolicies : ∃ row, row.tenantId = t.id ∧ db'.slaPolicies = db.slaPolicies ++ [row]
  entitlements : ∃ row, row.tenantId = t.id ∧ db'.entitlements = db.entitlements ++ [row]
  lifecycleEvents : ∃ row, genesisOf t.id row = true ∧ row.occurredAt = t.createdAt ∧
    db'.lifecycleEvents = db.lifecycleEvents ++ [row]
  fresh : ∀ t' ∈ db.tenants, t'.id ≠ t.id

structure ProvisionedRows where
  tenants : List Tenant := []
  settings : List TenantSettings := []
  domains : List TenantDomain := []
  slaPolicies : List SlaPolicy := []
  entitlements : List TenantEntitlements := []
  lifecycleEvents : List LifecycleEvent := []

variable (a : ProvisionedRows)

def SignupDb.rows (db : SignupDb) : ProvisionedRows where
  tenants := db.tenants
  settings := db.settings
  domains := db.domains
  slaPolicies := db.slaPolicies
  entitlements := db.entitlements
  lifecycleEvents := db.lifecycleEvents

inductive ProvisionStep (db db' : SignupDb) : Prop
  | same (h : db'.rows = db.rows)
  | create (slug : TenantSlug) (t : Tenant) (hslug : citext t.slug = slug.value) (hnone : findTenant slug db = none)
      (h : AddsTenant t db db')
  | complete (slug : TenantSlug) (t : Tenant) (hfound : findTenant slug db = some t) (h : AddsMissing t db db')

def HostnameTaken (config : SignupConfig) (slug : TenantSlug) (t : Tenant) (db : SignupDb) : Prop :=
  ∃ d ∈ db.domains, citext d.hostname = citext (platformHostnameFor config slug) ∧ d.tenantId ≠ t.id

/-- A repeat call succeeds and adds exactly what is missing, or the hostname is another tenant's and nothing changes. -/
def Converges (config : SignupConfig) (command : ProvisionTenantCommand) (draw : ProvisionDraw) (t : Tenant)
    (db : SignupDb) : Prop :=
  let outcome := (provision config command draw false).alone db
  ((∃ result, outcome.1 = .ok result ∧ result.created = false ∧ result.tenant.id = t.id) ∧
      AddsMissing t db outcome.2) ∨
    (HostnameTaken config command.slug t db ∧ outcome.2.rows = db.rows)

def Repairable (config : SignupConfig) (slug : TenantSlug) (t : Tenant) (db : SignupDb) : Prop :=
  db.domains.any (platformOf t.id) = true ∨ HostnameTaken config slug t db ∨
    ∀ d ∈ db.domains, d.tenantId = t.id →
      d.isPrimary = false ∧ citext d.hostname ≠ citext (platformHostnameFor config slug)

structure FreshDraw (draw : ProvisionDraw) (db : SignupDb) : Prop where
  domain : ∀ d ∈ db.domains, d.id ≠ draw.domainId
  slaPolicy : ∀ p ∈ db.slaPolicies, p.id ≠ draw.policyId

structure StoredTenants (db : SignupDb) : Prop where
  indexed : db.Indexed
  trail : ∀ e ∈ db.lifecycleEvents, ∃ t ∈ db.tenants, t.id = e.tenantId

namespace ProvisionedRows

instance : Append ProvisionedRows where
  append a b :=
    { tenants := a.tenants ++ b.tenants
      settings := a.settings ++ b.settings
      domains := a.domains ++ b.domains
      slaPolicies := a.slaPolicies ++ b.slaPolicies
      entitlements := a.entitlements ++ b.entitlements
      lifecycleEvents := a.lifecycleEvents ++ b.lifecycleEvents }

theorem append_def (b : ProvisionedRows) : a ++ b =
    ⟨a.tenants ++ b.tenants, a.settings ++ b.settings, a.domains ++ b.domains, a.slaPolicies ++ b.slaPolicies,
      a.entitlements ++ b.entitlements, a.lifecycleEvents ++ b.lifecycleEvents⟩ := rfl

@[simp] theorem append_none : a ++ ({} : ProvisionedRows) = a := by
  simp [append_def]

@[simp] theorem none_append : ({} : ProvisionedRows) ++ a = a := by
  simp [append_def]

theorem append_assoc (b c : ProvisionedRows) : a ++ b ++ c = a ++ (b ++ c) := by
  simp [append_def]

end ProvisionedRows

def SignupWrite.adds : SignupWrite → ProvisionedRows
  | .tenant row => { tenants := [row] }
  | .settings row => { settings := [row] }
  | .domain row => { domains := [row] }
  | .slaPolicy row => { slaPolicies := [row] }
  | .entitlements row => { entitlements := [row] }
  | .lifecycleEvent row => { lifecycleEvents := [row] }
  | _ => {}

def addedBy : List SignupWrite → ProvisionedRows
  | [] => {}
  | w :: ws => w.adds ++ addedBy ws

theorem addedBy_append (ws ws' : List SignupWrite) : addedBy (ws ++ ws') = addedBy ws ++ addedBy ws' := by
  induction ws with
  | nil => simp [addedBy]
  | cons w ws ih => rw [List.cons_append, addedBy, addedBy, ih, ProvisionedRows.append_assoc]

variable {db' : SignupDb} {ρ : Type}

theorem SignupWrite.apply_rows {w : SignupWrite} {db : SignupDb} (h : w.apply db = .ok db') :
    db'.rows = db.rows ++ w.adds := by
  cases w with
  | user row | session row | signup row =>
    obtain ⟨rows, _, rfl⟩ := map_ok h
    exact (ProvisionedRows.append_none _).symm
  | releaseSlug slug instant | provisionedTenant id tenantId =>
    cases h
    exact (ProvisionedRows.append_none _).symm
  | consume =>
    simp only [SignupWrite.apply] at h
    split at h
    · cases h
      exact (ProvisionedRows.append_none _).symm
    · cases h
  | _ =>
    obtain ⟨rows, hinsert, rfl⟩ := map_ok h
    simp [SignupDb.rows, SignupWrite.adds, ProvisionedRows.append_def, (insertRow_ok.mp hinsert).2]

theorem applyWrites_rows {db : SignupDb} (h : applyWrites ws db = .ok db') : db'.rows = db.rows ++ addedBy ws := by
  induction ws generalizing db with
  | nil =>
    cases h
    exact (ProvisionedRows.append_none _).symm
  | cons w ws ih =>
    obtain ⟨db₁, hw, hws⟩ := applyWrites_cons.mp h
    rw [ih hws, SignupWrite.apply_rows hw, addedBy, ProvisionedRows.append_assoc]

variable {command : ProvisionTenantCommand} {draw : ProvisionDraw} {now : Millis}

theorem addedBy_creation : addedBy (creationWrites config command draw startedAt now) =
    { tenants := [tenantRow command draw startedAt now]
      settings := [settingsRow command draw.tenantId]
      domains := [platformDomainRow draw.domainId draw.tenantId (platformHostnameFor config command.slug) now startedAt]
      slaPolicies := [defaultSlaPolicy draw.policyId draw.tenantId startedAt]
      entitlements := [(startingState command.path draw.tenantId now).entitlements]
      lifecycleEvents := [genesisEvent (tenantRow command draw startedAt now) command.path draw.eventRandom] } := rfl

theorem addedBy_completion (existing : ExistingTenant) :
    addedBy (completionWrites config command draw existing startedAt now) =
      { settings := if existing.settings = none then [settingsRow command existing.tenant.id] else []
        domains :=
          if existing.domain = none then
            [platformDomainRow draw.domainId existing.tenant.id (platformHostnameFor config command.slug) now startedAt]
          else []
        slaPolicies :=
          if existing.slaPolicy = none then [defaultSlaPolicy draw.policyId existing.tenant.id startedAt] else []
        entitlements := if existing.entitlements = none then [operatorEntitlements existing.tenant.id] else [] } := by
  unfold completionWrites
  by_cases hsettings : existing.settings = none <;> by_cases hdomain : existing.domain = none <;>
    by_cases hpolicy : existing.slaPolicy = none <;> by_cases hentitlements : existing.entitlements = none <;>
    simp [hsettings, hdomain, hpolicy, hentitlements, addedBy, SignupWrite.adds, ProvisionedRows.append_def]

theorem addedBy_verify (signup : TenantSignup) (tokenHash : String) (tenantId : Uuid) (draw : VerifyDraw)
    (ws : List SignupWrite) :
    addedBy (verifyWrites crypto signup tokenHash startedAt tenantId draw ws) = addedBy ws := by
  rw [verifyWrites, addedBy, addedBy_append]
  simp [addedBy, SignupWrite.adds]

theorem Fills.of_none [Decidable missing] (h : rows' = rows ++ if missing then [row] else []) (hrow : kind row = true)
    (hmissing : missing ↔ rows.any kind = false) : Fills kind rows rows' := by
  subst h
  unfold Fills
  by_cases h : missing
  · rw [if_pos h, if_neg (by simp [hmissing.mp h])]
    exact ⟨row, hrow, rfl⟩
  · have hany : rows.any kind = true := Bool.eq_true_of_not_eq_false fun hnone => h (hmissing.mpr hnone)
    rw [if_neg h, if_pos hany, List.append_nil]

theorem find?_missing (kind : ρ → Bool) (rows : List ρ) : rows.find? kind = none ↔ rows.any kind = false := by
  simp [List.find?_eq_none]

theorem existingTenant_domain (db : SignupDb) (t : Tenant) :
    (existingTenant db t).domain = none ↔ db.domains.any (platformOf t.id) = false := by
  simp only [existingTenant, firstBy_eq_none, platformDomains, List.filter_eq_nil_iff, List.any_eq_false, platformOf]

theorem AddsTenant.of_creation {db : SignupDb}
    (hrows : db'.rows = db.rows ++ addedBy (creationWrites config command draw startedAt now))
    (hfresh : ∀ t ∈ db.tenants, t.id ≠ draw.tenantId) : AddsTenant (tenantRow command draw startedAt now) db db' := by
  rw [addedBy_creation] at hrows
  have htable := fun {α : Type} (f : ProvisionedRows → α) => congrArg f hrows
  constructor
  · exact htable ProvisionedRows.tenants
  · exact ⟨_, rfl, htable ProvisionedRows.settings⟩
  · exact ⟨_, by simp [platformOf, platformDomainRow, tenantRow], rfl, htable ProvisionedRows.domains⟩
  · exact ⟨_, rfl, htable ProvisionedRows.slaPolicies⟩
  · refine ⟨_, ?_, htable ProvisionedRows.entitlements⟩
    cases command.path <;> rfl
  · exact ⟨_, by simp [genesisOf, genesisEvent], rfl, htable ProvisionedRows.lifecycleEvents⟩
  · exact hfresh

theorem AddsMissing.of_completion {t : Tenant} {db : SignupDb} (hrows : db'.rows =
      db.rows ++ addedBy (completionWrites config command draw (existingTenant db t) startedAt now)) :
    AddsMissing t db db' := by
  rw [addedBy_completion] at hrows
  have htable := fun {α : Type} (f : ProvisionedRows → α) => congrArg f hrows
  constructor
  · exact (htable ProvisionedRows.tenants).trans (List.append_nil _)
  · apply Fills.of_none (htable ProvisionedRows.settings)
    · simp [settingsRow, existingTenant]
    · exact find?_missing _ _
  · apply Fills.of_none (htable ProvisionedRows.domains)
    · simp [platformOf, platformDomainRow, existingTenant]
    · exact existingTenant_domain db t
  · apply Fills.of_none (htable ProvisionedRows.slaPolicies)
    · simp [defaultSlaPolicy, existingTenant]
    · exact find?_missing _ _
  · apply Fills.of_none (htable ProvisionedRows.entitlements)
    · simp [operatorEntitlements, existingTenant]
    · exact find?_missing _ _
  · exact (htable ProvisionedRows.lifecycleEvents).trans (List.append_nil _)

theorem provisioned_step {db : SignupDb}
    (hrows : db'.rows = db.rows ++ addedBy (provisioned config command draw startedAt now db).2)
    (hfresh : ∀ row, SignupWrite.tenant row ∈ (provisioned config command draw startedAt now db).2 →
      ∀ t ∈ db.tenants, t.id ≠ row.id) : ProvisionStep db db' := by
  simp only [provisioned, findProvisionedTenant] at hrows hfresh
  cases hfind : findTenant command.slug db with
  | none =>
    rw [hfind] at hrows hfresh
    refine .create command.slug (tenantRow command draw startedAt now) (citext_slug _) hfind ?_
    exact AddsTenant.of_creation hrows (hfresh _ List.mem_cons_self)
  | some t =>
    rw [hfind] at hrows
    exact .complete command.slug t hfind (AddsMissing.of_completion hrows)

theorem SignupEffect.provisionStep {db : SignupDb}
    (heffect : SignupEffect config crypto found tag db db') : ProvisionStep db db' := by
  cases heffect with
  | refresh email tokenHash =>
    rcases refreshNewest_cases email tokenHash db with ⟨_, _, heq⟩ | ⟨row, _, _, _, heq⟩
    all_goals
      rw [heq]
      exact .same rfl
  | commit locks hws happly =>
    have hrows := applyWrites_rows happly
    cases hws with
    | request =>
      exact .same (hrows.trans (ProvisionedRows.append_none _))
    | provision =>
      exact provisioned_step hrows fun row hrow => applyWrites_fresh hrow happly
    | verify =>
      rw [addedBy_verify] at hrows
      refine provisioned_step hrows fun row hrow => applyWrites_fresh ?_ happly
      exact List.mem_cons_of_mem _ (List.mem_append_left _ hrow)
  | _ => exact .same rfl

structure Lasting (P : SignupDb → Tenant → Prop) : Prop where
  keep : ∀ db db', StoredTenants db → ProvisionStep db db' → ∀ t ∈ db.tenants, P db t → P db' t
  new : ∀ db db', StoredTenants db → ∀ t, AddsTenant t db db' → P db' t

theorem Fills.mem {rows : List ρ} (h : Fills kind rows rows') (hr : r ∈ rows) : r ∈ rows' := by
  unfold Fills at h
  split at h
  · rwa [h]
  · obtain ⟨row, _, rfl⟩ := h
    exact List.mem_append_left _ hr

theorem Complete.keep {db : SignupDb} {t : Tenant} (h : Complete db t) (hsettings : db.settings ⊆ db'.settings)
    (hdomains : db.domains ⊆ db'.domains) (hpolicies : db.slaPolicies ⊆ db'.slaPolicies)
    (hentitlements : db.entitlements ⊆ db'.entitlements) : Complete db' t where
  settings := h.settings.imp fun _ h => ⟨hsettings h.1, h.2⟩
  domain := h.domain.imp fun _ h => ⟨hdomains h.1, h.2⟩
  slaPolicy := h.slaPolicy.imp fun _ h => ⟨hpolicies h.1, h.2⟩
  entitlements := h.entitlements.imp fun _ h => ⟨hentitlements h.1, h.2⟩

theorem ProvisionStep.keepsComplete {db : SignupDb} (hstep : ProvisionStep db db') {t : Tenant}
    (h : Complete db t) : Complete db' t := by
  cases hstep with
  | same hrows =>
    have hsettings : db'.settings = db.settings := congrArg ProvisionedRows.settings hrows
    have hdomains : db'.domains = db.domains := congrArg ProvisionedRows.domains hrows
    have hpolicies : db'.slaPolicies = db.slaPolicies := congrArg ProvisionedRows.slaPolicies hrows
    have hentitlements : db'.entitlements = db.entitlements := congrArg ProvisionedRows.entitlements hrows
    apply h.keep
    · exact hsettings ▸ List.Subset.refl _
    · exact hdomains ▸ List.Subset.refl _
    · exact hpolicies ▸ List.Subset.refl _
    · exact hentitlements ▸ List.Subset.refl _
  | create slug t' hslug hnone hadds =>
    obtain ⟨_, _, hsettings⟩ := hadds.settings
    obtain ⟨_, _, _, hdomains⟩ := hadds.domains
    obtain ⟨_, _, hpolicies⟩ := hadds.slaPolicies
    obtain ⟨_, _, hentitlements⟩ := hadds.entitlements
    apply h.keep
    · exact hsettings ▸ List.subset_append_left _ _
    · exact hdomains ▸ List.subset_append_left _ _
    · exact hpolicies ▸ List.subset_append_left _ _
    · exact hentitlements ▸ List.subset_append_left _ _
  | complete slug t' hfound hadds =>
    exact h.keep (fun _ => hadds.settings.mem) (fun _ => hadds.domains.mem) (fun _ => hadds.slaPolicies.mem)
      fun _ => hadds.entitlements.mem

theorem AddsTenant.complete {db : SignupDb} {t : Tenant} (h : AddsTenant t db db') : Complete db' t := by
  obtain ⟨settings, hsettings, heq⟩ := h.settings
  obtain ⟨domain, hdomain, hprimary, heq'⟩ := h.domains
  obtain ⟨policy, hpolicy, hpolicies⟩ := h.slaPolicies
  obtain ⟨entitlements, hentitlements, hrows⟩ := h.entitlements
  constructor
  · exact ⟨settings, by simp [heq], hsettings⟩
  · exact ⟨domain, by simp [heq'], hdomain, hprimary⟩
  · exact ⟨policy, by simp [hpolicies], hpolicy⟩
  · exact ⟨entitlements, by simp [hrows], hentitlements⟩

theorem lasting_complete : Lasting Complete where
  keep _ _ _ hstep _ _ h := hstep.keepsComplete h
  new _ _ _ _ h := h.complete

theorem ProvisionStep.keepsGenesis {db : SignupDb} (hstep : ProvisionStep db db') {t : Tenant}
    (ht : t ∈ db.tenants) (h : HasGenesis db t) : HasGenesis db' t := by
  unfold HasGenesis at h ⊢
  cases hstep with
  | same hrows =>
    have hevents : db'.lifecycleEvents = db.lifecycleEvents := congrArg ProvisionedRows.lifecycleEvents hrows
    rwa [hevents]
  | create slug t' hslug hnone hadds =>
    obtain ⟨event, hevent, _, heq⟩ := hadds.lifecycleEvents
    simp only [genesisOf, Bool.and_eq_true, decide_eq_true_eq] at hevent
    have hother : genesisOf t.id event = false := by
      simp [genesisOf, hevent.1, (hadds.fresh t ht).symm]
    simpa [heq, hother] using h
  | complete slug t' hfound hadds =>
    rw [hadds.lifecycleEvents]
    exact h

theorem AddsTenant.genesis {db : SignupDb} {t : Tenant} (hdb : StoredTenants db) (h : AddsTenant t db db') :
    HasGenesis db' t := by
  obtain ⟨event, hevent, hcreated, heq⟩ := h.lifecycleEvents
  have hnone : db.lifecycleEvents.filter (genesisOf t.id) = [] := by
    apply List.filter_eq_nil_iff.mpr
    intro e he hgenesis
    obtain ⟨t', ht', hnames⟩ := hdb.trail e he
    simp only [genesisOf, Bool.and_eq_true, decide_eq_true_eq] at hgenesis
    exact h.fresh t' ht' (hnames.trans hgenesis.1)
  simp [HasGenesis, heq, hnone, hevent, hcreated]

theorem lasting_genesis : Lasting HasGenesis where
  keep _ _ _ hstep _ ht h := hstep.keepsGenesis ht h
  new _ _ hdb _ h := h.genesis hdb

theorem ProvisionStep.trail {db : SignupDb} (hstep : ProvisionStep db db')
    (h : ∀ e ∈ db.lifecycleEvents, ∃ t ∈ db.tenants, t.id = e.tenantId) :
    ∀ e ∈ db'.lifecycleEvents, ∃ t ∈ db'.tenants, t.id = e.tenantId := by
  cases hstep with
  | same hrows =>
    have htenants : db'.tenants = db.tenants := congrArg ProvisionedRows.tenants hrows
    have hevents : db'.lifecycleEvents = db.lifecycleEvents := congrArg ProvisionedRows.lifecycleEvents hrows
    rwa [htenants, hevents]
  | create slug t hslug hnone hadds =>
    obtain ⟨event, hevent, _, heq⟩ := hadds.lifecycleEvents
    simp only [genesisOf, Bool.and_eq_true, decide_eq_true_eq] at hevent
    rw [heq, hadds.tenants]
    intro e he
    rcases mem_snoc.mp he with he | rfl
    · obtain ⟨t', ht', hnames⟩ := h e he
      exact ⟨t', List.mem_append_left _ ht', hnames⟩
    · exact ⟨t, List.mem_concat_self, hevent.1.symm⟩
  | complete slug t hfound hadds =>
    rw [hadds.lifecycleEvents, hadds.tenants]
    exact h

theorem Lasting.step (hP : Lasting P) {db₀ db : SignupDb} (hdb : StoredTenants db)
    (hstep : ProvisionStep db db') (h : ∀ t ∈ db.tenants, t ∈ db₀.tenants ∧ ¬ P db₀ t ∨ P db t) :
    ∀ t ∈ db'.tenants, t ∈ db₀.tenants ∧ ¬ P db₀ t ∨ P db' t := by
  have hkept : ∀ t ∈ db.tenants, t ∈ db₀.tenants ∧ ¬ P db₀ t ∨ P db' t := fun t ht =>
    (h t ht).imp_right (hP.keep db db' hdb hstep t ht)
  intro t ht
  cases hstep with
  | same hrows =>
    have htenants : db'.tenants = db.tenants := congrArg ProvisionedRows.tenants hrows
    exact hkept t (htenants ▸ ht)
  | create slug t' hslug hnone hadds =>
    rw [hadds.tenants] at ht
    rcases mem_snoc.mp ht with ht | rfl
    · exact hkept t ht
    · exact .inr (hP.new db db' hdb t hadds)
  | complete slug t' hfound hadds => exact hkept t (hadds.tenants ▸ ht)

section Runs

variable {db : SignupDb}

variable {s : SignupSys}

theorem SignupRun.provisionStep (hdb : db.Indexed) (hs : SignupRun config crypto db s)
    (hstep : Step (signupProgram config crypto) granted s s') : ProvisionStep s.db s'.db := by
  rcases Reachable.signupEffect (fun _ _ _ h => h) hdb hs hstep with hsame | ⟨_, _, _, heffect⟩
  · exact .same (congrArg SignupDb.rows hsame)
  · exact heffect.provisionStep

theorem SignupRun.stored (hdb : StoredTenants db) (hs : SignupRun config crypto db s) : StoredTenants s.db := by
  refine ⟨(Reachable.signupOwned (fun _ _ _ h => h) hdb.indexed hs).inv, ?_⟩
  induction hs with
  | refl => exact hdb.trail
  | tail hs hstep ih => exact (SignupRun.provisionStep hdb.indexed hs hstep).trail ih

theorem Lasting.run (hP : Lasting P) (hdb : StoredTenants db) (hs : SignupRun config crypto db s) : ∀ t ∈ s.db.tenants, t ∈ db.tenants ∧ ¬ P db t ∨ P s.db t := by
  induction hs with
  | refl =>
    intro t ht
    by_cases h : P db t
    · exact .inr h
    · exact .inl ⟨ht, h⟩
  | tail hs hstep ih =>
    exact hP.step (SignupRun.stored hdb hs) (SignupRun.provisionStep hdb.indexed hs hstep) ih

end Runs

section Alone

variable (config : SignupConfig) (command : ProvisionTenantCommand) (draw : ProvisionDraw) (db : SignupDb)

def soleProvision : ProvisionTenantResult × List SignupWrite := provisioned config command draw db.now db.now db

def soleOutcome : Except DbError SignupDb :=
  applyWrites (soleProvision config command draw db).2 { db with locks := lockKey command :: db.locks }

theorem provision_alone : ((provision config command draw false).alone db).1 =
        (match soleOutcome config command draw db with
        | .ok _ => .ok (soleProvision config command draw db).1
        | .error e => .error (translated config command e)) ∧
      ((provision config command draw false).alone db).2.rows =
        match soleOutcome config command draw db with
        | .ok db' => db'.rows
        | .error _ => db.rows := by
  let locked : SignupDb := { db with locks := lockKey command :: db.locks }
  let released := locked.locks.filter fun held => some (lockKey command) ≠ some held
  have hwork : (work config command draw db.now).alone db = (soleProvision config command draw db, locked) := rfl
  have hcommit : (commit (some (lockKey command)) (soleProvision config command draw db).2 false).alone locked =
      match soleOutcome config command draw db with
      | .ok db' => (.ok db.recorded, { db' with locks := released })
      | .error e => (.error e, { locked with locks := released }) := rfl
  unfold provision
  rw [Prog.bind_def, Prog.alone_bind, show clock.alone db = (db.now, db) from rfl, Prog.bind_def, Prog.alone_bind,
    hwork]
  dsimp only
  rw [Prog.bind_def, Prog.alone_bind, hcommit]
  cases soleOutcome config command draw db with
  | ok | error => exact ⟨rfl, rfl⟩

end Alone

section Repeat

variable {db : SignupDb} {t : Tenant}

theorem soleProvision_found (hfound : findTenant command.slug db = some t) : soleProvision config command draw db =
    completeTenant config command draw (existingTenant db t) db.now db.now := by
  simp [soleProvision, provisioned, findProvisionedTenant, hfound, provisioning]

def repairRow (config : SignupConfig) (command : ProvisionTenantCommand) (draw : ProvisionDraw) (t : Tenant)
    (instant : Millis) : TenantDomain :=
  platformDomainRow draw.domainId t.id (platformHostnameFor config command.slug) instant instant

theorem insert_repairRow (hfresh : FreshDraw draw db) (instant : Millis) :
    (∃ rows, insertRow domainIndexes (repairRow config command draw t instant) db.domains = .ok rows) ↔
      ∀ d ∈ db.domains, citext d.hostname ≠ citext (platformHostnameFor config command.slug) ∧
        (d.tenantId = t.id → d.isPrimary = false) := by
  rw [exists_insertRow]
  constructor
  · intro hclear d hd
    have hhostname := hclear _ (List.mem_cons_of_mem _ List.mem_cons_self) d hd
    have hprimary := hclear _ (List.mem_cons_of_mem _ (List.mem_cons_of_mem _ List.mem_cons_self)) d hd
    refine ⟨fun heq => of_decide_eq_false hhostname ⟨nofun, congrArg some heq.symm⟩, fun hown => ?_⟩
    apply Bool.eq_false_iff.mpr
    intro hisPrimary
    refine of_decide_eq_false hprimary ⟨nofun, ?_⟩
    simp [TenantDomain.primaryEntry, hisPrimary, hown, repairRow, platformDomainRow]
  · intro hclear index hindex d hd
    simp only [domainIndexes, List.mem_cons, List.not_mem_nil, or_false] at hindex
    rcases hindex with rfl | rfl | rfl
    · exact decide_eq_false fun hclash => hfresh.domain d hd (Option.some.inj hclash.2).symm
    · exact decide_eq_false fun hclash => (hclear d hd).1 (Option.some.inj hclash.2).symm
    · refine decide_eq_false fun hclash => ?_
      have hentry : some t.id = d.primaryEntry := hclash.2
      simp only [TenantDomain.primaryEntry] at hentry
      split at hentry
      · rename_i hisPrimary
        have hnot := (hclear d hd).2 (Option.some.inj hentry).symm
        rw [hisPrimary] at hnot
        cases hnot
      · cases hentry

theorem clear_of_missing [DecidableEq ι] {entry : ρ → Option ι}
    {rows : List ρ} (hnone : rows.find? kind = none) (hkind : ∀ r, entry row = entry r → kind r = true) :
    ∀ r ∈ rows, (uniqueIndex name entry).clash row r = false := by
  intro r hr
  have hother := List.find?_eq_none.mp hnone r hr
  exact decide_eq_false fun hclash => hother (hkind r hclash.2)

theorem insert_settings (hnone : (existingTenant db t).settings = none) :
    insertRow settingsIndexes (settingsRow command t.id) db.settings =
      .ok (db.settings ++ [settingsRow command t.id]) := by
  refine insertRow_ok.mpr ⟨fun index hindex => ?_, rfl⟩
  cases List.mem_singleton.mp hindex
  exact clear_of_missing hnone fun s hentry => decide_eq_true (Option.some.inj hentry).symm

theorem insert_slaPolicy (hfresh : FreshDraw draw db) (instant : Millis)
    (hnone : (existingTenant db t).slaPolicy = none) :
    insertRow slaPolicyIndexes (defaultSlaPolicy draw.policyId t.id instant) db.slaPolicies =
      .ok (db.slaPolicies ++ [defaultSlaPolicy draw.policyId t.id instant]) := by
  refine insertRow_ok.mpr ⟨fun index hindex => ?_, rfl⟩
  simp only [slaPolicyIndexes, List.mem_cons, List.not_mem_nil, or_false] at hindex
  rcases hindex with rfl | rfl
  · intro p hp
    exact decide_eq_false fun hclash => hfresh.slaPolicy p hp (Option.some.inj hclash.2).symm
  · refine clear_of_missing hnone fun p hentry => decide_eq_true ?_
    exact (congrArg Prod.fst (Option.some.inj hentry)).symm

theorem insert_entitlements (hnone : (existingTenant db t).entitlements = none) :
    insertRow entitlementsIndexes (operatorEntitlements t.id) db.entitlements =
      .ok (db.entitlements ++ [operatorEntitlements t.id]) := by
  refine insertRow_ok.mpr ⟨fun index hindex => ?_, rfl⟩
  cases List.mem_singleton.mp hindex
  exact clear_of_missing hnone fun e hentry => decide_eq_true (Option.some.inj hentry).symm

/-- What is written after the domain is written where the domain is. -/
theorem applyWrites_policyAndEntitlements (hfresh : FreshDraw draw db) {db₁ : SignupDb}
    (hpolicies : db₁.slaPolicies = db.slaPolicies) (hentitled : db₁.entitlements = db.entitlements) :
    ∃ db', applyWrites
      ((if (existingTenant db t).slaPolicy = none then
          [.slaPolicy (defaultSlaPolicy draw.policyId t.id db.now)] else []) ++
        if (existingTenant db t).entitlements = none then [.entitlements (operatorEntitlements t.id)] else []) db₁ =
      .ok db' := by
  rw [applyWrites_optional (fun slaPolicies => { db₁ with slaPolicies }) rfl rfl
    (hpolicies ▸ insert_slaPolicy hfresh db.now)]
  split
  · rename_i hnone
    have hinsert := insert_entitlements hnone
    rw [← hentitled] at hinsert
    exact ⟨_, applyWrites_cons.mpr ⟨_, congrArg (Except.map _) hinsert, rfl⟩⟩
  · exact ⟨_, rfl⟩

/-- Where the indexes take the domain, they take whatever else is missing. -/
theorem soleOutcome_found (hfound : findTenant command.slug db = some t) (hfresh : FreshDraw draw db) :
    (∃ db', soleOutcome config command draw db = .ok db') ↔
      db.domains.any (platformOf t.id) = true ∨
        ∃ rows, insertRow domainIndexes (repairRow config command draw t db.now) db.domains = .ok rows := by
  rw [soleOutcome, soleProvision_found hfound]
  simp only [completeTenant, completionWrites]
  rw [applyWrites_optional (fun settings => { db with settings, locks := lockKey command :: db.locks }) rfl rfl
    insert_settings]
  cases hany : db.domains.any (platformOf t.id) with
  | true =>
    have hdomain : (existingTenant db t).domain ≠ none := by
      rw [Ne, existingTenant_domain, hany]
      exact Bool.noConfusion
    rw [if_neg hdomain, List.nil_append]
    exact iff_of_true (applyWrites_policyAndEntitlements hfresh rfl rfl) (.inl rfl)
  | false =>
    rw [if_pos ((existingTenant_domain db t).mpr hany), List.singleton_append]
    simp only [applyWrites, Bool.false_eq_true, false_or]
    split
    · rename_i db₁ hdomain
      obtain ⟨rows, hrows, rfl⟩ := map_ok hdomain
      exact iff_of_true (applyWrites_policyAndEntitlements hfresh rfl rfl) ⟨rows, hrows⟩
    · rename_i e hdomain
      apply iff_of_false
      · rintro ⟨db', hok⟩
        cases hok
      · rintro ⟨rows, hrows⟩
        change Except.map _ (insertRow domainIndexes (repairRow config command draw t db.now) db.domains) = _ at hdomain
        rw [hrows] at hdomain
        cases hdomain

theorem converges_iff (hfound : findTenant command.slug db = some t) (hfresh : FreshDraw draw db) :
    Converges config command draw t db ↔ Repairable config command.slug t db := by
  obtain ⟨hanswer, hrows⟩ := provision_alone config command draw db
  have hok : (∃ db', soleOutcome config command draw db = .ok db') ↔ _ := soleOutcome_found hfound hfresh
  have hclear : (∃ rows, insertRow domainIndexes (repairRow config command draw t db.now) db.domains = .ok rows) ↔ _ :=
    insert_repairRow hfresh db.now
  cases houtcome : soleOutcome config command draw db with
  | ok db' =>
    rw [houtcome, soleProvision_found hfound] at hanswer
    rw [houtcome] at hrows
    have happlied := applyWrites_rows houtcome
    rw [soleProvision_found hfound] at happlied
    apply iff_of_true
    · exact .inl ⟨⟨_, hanswer, rfl, rfl⟩, AddsMissing.of_completion (hrows.trans happlied)⟩
    · rcases hok.mp ⟨db', houtcome⟩ with hplatform | hinsert
      · exact .inl hplatform
      · exact .inr (.inr fun d hd hown => ⟨(hclear.mp hinsert d hd).2 hown, (hclear.mp hinsert d hd).1⟩)
  | error =>
    rw [houtcome] at hanswer hrows
    have hfailed : ∀ db', soleOutcome config command draw db ≠ .ok db' := fun _ h => by
      rw [houtcome] at h
      cases h
    constructor
    · rintro (⟨⟨result, hresult, _⟩, _⟩ | ⟨htaken, _⟩)
      · rw [hanswer] at hresult
        cases hresult
      · exact .inr (.inl htaken)
    · intro hrepairable
      refine .inr ⟨?_, hrows⟩
      rcases hrepairable with hplatform | htaken | hown
      · obtain ⟨db', hdb'⟩ := hok.mpr (.inl hplatform)
        exact absurd hdb' (hfailed db')
      · exact htaken
      · by_contra htaken
        have hinsert := hclear.mpr fun d hd => ⟨fun hhostname => ?_, fun htenant => (hown d hd htenant).1⟩
        · obtain ⟨db', hdb'⟩ := hok.mpr (.inr hinsert)
          exact hfailed db' hdb'
        · by_cases htenant : d.tenantId = t.id
          · exact (hown d hd htenant).2 hhostname
          · exact htaken ⟨d, hd, hhostname, htenant⟩

end Repeat

/-- In every run a slug has one tenant at most and a tenant every row; and a repeat call converges exactly where the
    tenant can be repaired. -/
theorem provisioning_converges (config : SignupConfig) (crypto : Crypto) {db : SignupDb} (hdb : StoredTenants db) :
    (∀ s, SignupRun config crypto db s → UniqueBy Tenant.slugEntry s.db.tenants ∧
        ∀ t ∈ s.db.tenants, (t ∈ db.tenants ∧ ¬ HasGenesis db t ∨ HasGenesis s.db t) ∧
          (t ∈ db.tenants ∧ ¬ Complete db t ∨ Complete s.db t)) ∧
      (∀ s s', SignupRun config crypto db s → Step (signupProgram config crypto) granted s s' →
        ProvisionStep s.db s'.db) ∧
      ∀ s, SignupRun config crypto db s → ∀ command draw t, findTenant command.slug s.db = some t →
        FreshDraw draw s.db → (Converges config command draw t s.db ↔ Repairable config command.slug t s.db) := by
  refine ⟨fun s hs => ⟨?_, fun t ht => ⟨?_, ?_⟩⟩, fun s s' hs hstep => ?_, fun s _ command draw t hfound hfresh => ?_⟩
  · exact (SignupRun.stored hdb hs).indexed.tenantSlug
  · exact lasting_genesis.run hdb hs t ht
  · exact lasting_complete.run hdb hs t ht
  · exact SignupRun.provisionStep hdb.indexed hs hstep
  · exact converges_iff hfound hfresh

instance (db : SignupDb) : Decidable (StoredTenants db) :=
  decidable_of_iff (db.Indexed ∧ ∀ e ∈ db.lifecycleEvents, ∃ t ∈ db.tenants, t.id = e.tenantId)
    ⟨fun h => ⟨h.1, h.2⟩, fun h => ⟨h.indexed, h.trail⟩⟩

instance (draw : ProvisionDraw) (db : SignupDb) : Decidable (FreshDraw draw db) :=
  decidable_of_iff ((∀ d ∈ db.domains, d.id ≠ draw.domainId) ∧ ∀ p ∈ db.slaPolicies, p.id ≠ draw.policyId)
    ⟨fun h => ⟨h.1, h.2⟩, fun h => ⟨h.domain, h.slaPolicy⟩⟩

instance (slug : TenantSlug) (t : Tenant) (db : SignupDb) : Decidable (HostnameTaken config slug t db) := by
  unfold HostnameTaken
  infer_instance

instance (slug : TenantSlug) (t : Tenant) (db : SignupDb) : Decidable (Repairable config slug t db) := by
  unfold Repairable
  infer_instance

def acme : Tenant where
  id := 1
  slug := "acme"
  name := "Acme"
  status := .active
  trialEndsAt := none
  createdAt := 0

def acmeCall : ProvisionTenantCommand where
  slug := ⟨"acme", by decide⟩
  name := "Acme"

def acmeDraw : ProvisionDraw where
  tenantId := 2
  domainId := 3
  policyId := 4
  eventRandom := 5

/-- A tenant without any other row. -/
theorem provisioning_converges_bare : Converges appTest acmeCall acmeDraw acme { tenants := [acme] } := by
  have hdb : StoredTenants { tenants := [acme] } := by decide +kernel
  have hconverges := (provisioning_converges appTest Crypto.transparent hdb).2.2 (.idle { tenants := [acme] }) .refl
    acmeCall acmeDraw acme
  apply (hconverges _ _).mpr
  · decide +kernel
  · decide +kernel
  · decide +kernel

def acmeOnItsOwnDomain : SignupDb where
  tenants := [acme]
  domains :=
    [{ id := 6
       tenantId := 1
       hostname := "desk.acme.test"
       kind := .custom
       isPrimary := true
       verifiedAt := some 0
       activatedAt := some 0
       createdAt := 0 }]

/-- The repeat call would make the platform domain primary too, and fails. -/
theorem custom_primary_blocks_repair :
    StoredTenants acmeOnItsOwnDomain ∧ findTenant acmeCall.slug acmeOnItsOwnDomain = some acme ∧
      FreshDraw acmeDraw acmeOnItsOwnDomain ∧ ¬ Converges appTest acmeCall acmeDraw acme acmeOnItsOwnDomain := by
  have hrefused : ((provision appTest acmeCall acmeDraw false).alone acmeOnItsOwnDomain).1.toOption = none := by
    decide +kernel
  refine ⟨by decide +kernel, by decide +kernel, by decide +kernel, ?_⟩
  rintro (⟨⟨result, hresult, _⟩, _⟩ | ⟨htaken, _⟩)
  · rw [hresult] at hrefused
    cases hrefused
  · exact absurd htaken (by decide +kernel)

end WhatsappCrm.Signup
