/-
Purpose: What the writes of a transaction do.
-/
import WhatsappCrm.Signup.Service

namespace WhatsappCrm.Signup

open Interleaving Table Lifecycle
open Domains (TenantDomain citext)

theorem toLower_slugChar (h : slugChar c = true) : c.toLower = c := by
  simp only [slugChar, Bool.or_eq_true, Bool.and_eq_true, decide_eq_true_eq] at h
  have hupper : ¬ (c.val ≥ 'A'.val ∧ c.val ≤ 'Z'.val) := by
    rintro ⟨hlow, hhigh⟩
    rcases h with (⟨ha, _⟩ | ⟨_, h9⟩) | rfl
    · have hcontra : 'a'.val ≤ 'Z'.val := UInt32.le_trans ha hhigh
      exact absurd hcontra (by decide)
    · have hcontra : 'A'.val ≤ '9'.val := UInt32.le_trans hlow h9
      exact absurd hcontra (by decide)
    · exact absurd hlow (by decide)
  exact dif_neg hupper

theorem citext_slug (slug : TenantSlug) : citext slug.value = slug.value := by
  have hall : slug.value.toList.all slugChar = true := by
    have hslug := slug.wellFormed
    simp only [isTenantSlug, Bool.and_eq_true] at hslug
    exact hslug.1.1.2
  apply String.toList_inj.mp
  have hmap : citext slug.value = slug.value.map Char.toLower := rfl
  rw [hmap, String.toList_map]
  refine (List.map_congr_left fun c hc => ?_).trans (List.map_id _)
  exact toLower_slugChar (List.all_eq_true.mp hall c hc)

theorem TenantSlug.ext_value {a b : TenantSlug} (h : a.value = b.value) : a = b := by
  cases a
  cases b
  cases h
  rfl

theorem lockKey_injective (h : lockKey a = lockKey b) : a.slug = b.slug := by
  have hlists := congrArg String.toList h
  simp only [lockKey, String.toList_append, List.append_cancel_left_eq] at hlists
  exact TenantSlug.ext_value (String.toList_inj.mp hlists)

variable {ρ : Type} {w : SignupWrite} {ws : List SignupWrite} {db db' : SignupDb}

variable {rows : List ρ} {row : ρ}

theorem insertRow_ok : insertRow indexes row rows = .ok rows' ↔
      (∀ index ∈ indexes, ∀ r ∈ rows, index.clash row r = false) ∧ rows' = rows ++ [row] := by
  unfold insertRow
  cases hfind : indexes.find? fun index => rows.any (index.clash row) with
  | some index =>
    simp only [reduceCtorEq, false_iff, not_and]
    intro hclear
    exfalso
    have hany : rows.any (index.clash row) = true := List.find?_some (p := fun i : UniqueIndex ρ => rows.any (i.clash row)) hfind
    obtain ⟨r, hr, hclash⟩ := List.any_eq_true.mp hany
    rw [hclear index (List.mem_of_find?_eq_some hfind) r hr] at hclash
    cases hclash
  | none =>
    simp only [Except.ok.injEq, eq_comm (b := rows')]
    refine (and_iff_right fun index hindex r hr => ?_).symm
    have hnone := List.find?_eq_none.mp hfind index hindex
    exact Bool.eq_false_iff.mpr fun hclash => hnone (List.any_eq_true.mpr ⟨r, hr, hclash⟩)

theorem exists_insertRow : (∃ rows', insertRow indexes row rows = .ok rows') ↔
      ∀ index ∈ indexes, ∀ r ∈ rows, index.clash row r = false := by
  simp [insertRow_ok]

theorem insertRow_fresh {ι : Type} [DecidableEq ι] {name : String}
    {entry : ρ → Option ι} (h : insertRow indexes row rows = .ok rows')
    (hindex : uniqueIndex name entry ∈ indexes) : ∀ r ∈ rows, ¬ Clash entry row r := by
  intro r hr
  exact of_decide_eq_false ((insertRow_ok.mp h).1 _ hindex r hr)

theorem insertRow_unique {ι : Type} [DecidableEq ι] {name : String}
    {entry : ρ → Option ι} (h : insertRow indexes row rows = .ok rows')
    (hindex : uniqueIndex name entry ∈ indexes) (hrows : UniqueBy entry rows) : UniqueBy entry rows' := by
  rw [(insertRow_ok.mp h).2]
  exact hrows.concat fun r hr hclash => insertRow_fresh h hindex r hr hclash.symm

theorem map_ok {ε α β : Type} {x : Except ε α} {f : α → β} {b : β} (h : x.map f = .ok b) : ∃ a, x = .ok a ∧ f a = b := by
  cases x with
  | error => cases h
  | ok a =>
    cases h
    exact ⟨a, rfl, rfl⟩

theorem applyWrites_cons :
    applyWrites (w :: ws) db = .ok db' ↔ ∃ db₁, w.apply db = .ok db₁ ∧ applyWrites ws db₁ = .ok db' := by
  simp only [applyWrites]
  cases w.apply db with
  | error | ok => simp

theorem applyWrites_append {ws' : List SignupWrite} :
    applyWrites (ws ++ ws') db = .ok db' ↔ ∃ db₁, applyWrites ws db = .ok db₁ ∧ applyWrites ws' db₁ = .ok db' := by
  induction ws generalizing db with
  | nil => simp [applyWrites]
  | cons w ws ih =>
    simp only [List.cons_append, applyWrites_cons, ih]
    constructor
    · rintro ⟨db₂, hw, db₁, hws, hws'⟩
      exact ⟨db₁, ⟨db₂, hw, hws⟩, hws'⟩
    · rintro ⟨db₁, ⟨db₂, hw, hws⟩, hws'⟩
      exact ⟨db₂, hw, db₁, hws, hws'⟩

theorem applyWrites_optional [Decidable missing] (put : List ρ → SignupDb)
    (hput : put rows = db) (hw : w.apply db = (insertRow indexes row rows).map put)
    (hinsert : missing → insertRow indexes row rows = .ok (rows ++ [row])) :
    applyWrites ((if missing then [w] else []) ++ ws) db =
      applyWrites ws (put (rows ++ if missing then [row] else [])) := by
  by_cases h : missing
  · rw [hinsert h] at hw
    rw [if_pos h, if_pos h, List.singleton_append, applyWrites, hw]
    rfl
  · rw [if_neg h, if_neg h, List.nil_append, List.append_nil, hput]

theorem applyWrites_keeps {K : SignupDb → Prop} (hkeep : ∀ w ∈ ws, ∀ db db', K db → w.apply db = .ok db' → K db') (hdb : K db)
    (h : applyWrites ws db = .ok db') : K db' := by
  induction ws generalizing db with
  | nil =>
    cases h
    exact hdb
  | cons w ws ih =>
    obtain ⟨db₁, hw, hws⟩ := applyWrites_cons.mp h
    exact ih (fun w' hw' => hkeep w' (List.mem_cons_of_mem _ hw')) (hkeep w List.mem_cons_self db db₁ hdb hw) hws

structure SignupDb.Indexed (db : SignupDb) : Prop where
  tenantId : UniqueBy Tenant.idEntry db.tenants
  tenantSlug : UniqueBy Tenant.slugEntry db.tenants
  signupId : UniqueBy TenantSignup.idEntry db.signups
  signupToken : UniqueBy TenantSignup.tokenEntry db.signups

instance (db : SignupDb) : Decidable db.Indexed :=
  decidable_of_iff (UniqueBy Tenant.idEntry db.tenants ∧ UniqueBy Tenant.slugEntry db.tenants ∧
      UniqueBy TenantSignup.idEntry db.signups ∧ UniqueBy TenantSignup.tokenEntry db.signups)
    ⟨fun h => ⟨h.1, h.2.1, h.2.2.1, h.2.2.2⟩, fun h => ⟨h.tenantId, h.tenantSlug, h.signupId, h.signupToken⟩⟩

theorem SignupDb.Indexed.of_same (hdb : db.Indexed) (htenants : db'.tenants = db.tenants)
    (hsignups : db'.signups = db.signups) : db'.Indexed where
  tenantId := htenants ▸ hdb.tenantId
  tenantSlug := htenants ▸ hdb.tenantSlug
  signupId := hsignups ▸ hdb.signupId
  signupToken := hsignups ▸ hdb.signupToken

theorem SignupDb.Indexed.update (hdb : db.Indexed) {p : TenantSignup → Bool}
    {f : TenantSignup → TenantSignup} (hid : ∀ s, (f s).id = s.id) (htoken : ∀ s, (f s).tokenHash = s.tokenHash)
    (htenants : db'.tenants = db.tenants) (hsignups : db'.signups = updateWhere p f db.signups) : db'.Indexed where
  tenantId := htenants ▸ hdb.tenantId
  tenantSlug := htenants ▸ hdb.tenantSlug
  signupId := by
    rw [hsignups]
    exact hdb.signupId.updateWhere fun s _ _ => .inr (congrArg some (hid s))
  signupToken := by
    rw [hsignups]
    exact hdb.signupToken.updateWhere fun s _ _ => .inr (congrArg some (htoken s))

theorem SignupWrite.apply_indexed (hdb : db.Indexed) (h : w.apply db = .ok db') : db'.Indexed := by
  cases w with
  | tenant =>
    obtain ⟨rows, hinsert, rfl⟩ := map_ok h
    exact
      { hdb with
        tenantId := insertRow_unique hinsert List.mem_cons_self hdb.tenantId
        tenantSlug := insertRow_unique hinsert (List.mem_cons_of_mem _ List.mem_cons_self) hdb.tenantSlug }
  | signup =>
    obtain ⟨rows, hinsert, rfl⟩ := map_ok h
    exact
      { hdb with
        signupId := insertRow_unique hinsert List.mem_cons_self hdb.signupId
        signupToken := insertRow_unique hinsert (List.mem_cons_of_mem _ List.mem_cons_self) hdb.signupToken }
  | releaseSlug =>
    cases h
    exact { hdb with signupId := hdb.signupId.filter _, signupToken := hdb.signupToken.filter _ }
  | consume tokenHash instant =>
    simp only [SignupWrite.apply] at h
    split at h
    · cases h
      exact hdb.update (f := ({ · with consumedAt := some instant })) (fun _ => rfl) (fun _ => rfl) rfl rfl
    · cases h
  | provisionedTenant id tenantId =>
    cases h
    exact hdb.update (f := ({ · with provisionedTenantId := some tenantId })) (fun _ => rfl) (fun _ => rfl) rfl rfl
  | _ =>
    obtain ⟨rows, _, rfl⟩ := map_ok h
    exact hdb.of_same rfl rfl

theorem applyWrites_indexed (hdb : db.Indexed) (h : applyWrites ws db = .ok db') : db'.Indexed :=
  applyWrites_keeps (fun _ _ _ _ hdb hw => SignupWrite.apply_indexed hdb hw) hdb h

theorem newestLive_some {row : TenantSignup} (h : newestLive email db = some row) :
    row ∈ db.signups ∧ citext row.email = citext email ∧ row.live db.now = true := by
  obtain ⟨hrow, hguard⟩ := List.mem_filter.mp (firstBy_mem h)
  simp only [Bool.and_eq_true, decide_eq_true_eq] at hguard
  exact ⟨hrow, hguard⟩

theorem refreshNewest_cases (email tokenHash : String) (db : SignupDb) :
    (∃ answer, (∀ row, answer ≠ .ok (some row)) ∧ refreshNewest email tokenHash db = (answer, db)) ∨
      ∃ row, newestLive email db = some row ∧ row.resendCount < resendsPerSignup ∧
        tokenTaken row tokenHash db = false ∧
        refreshNewest email tokenHash db = (.ok (some row),
          { db with
            signups := updateWhere (fun s => s.id = row.id) (TenantSignup.refresh tokenHash) db.signups
            issued := db.issued ++ [{ serial := row.serial, email := row.email }] }) := by
  unfold refreshNewest
  cases hnewest : newestLive email db with
  | none => exact .inl ⟨_, by simp, rfl⟩
  | some row =>
    dsimp only
    split
    · rename_i hguard
      cases htaken : tokenTaken row tokenHash db with
      | true => exact .inl ⟨_, by simp, rfl⟩
      | false =>
        simp only [Bool.and_eq_true, decide_eq_true_eq] at hguard
        exact .inr ⟨row, rfl, hguard.2, htaken, rfl⟩
    · exact .inl ⟨_, by simp, rfl⟩

theorem refreshNewest_indexed (email tokenHash : String) (hdb : db.Indexed) :
    (refreshNewest email tokenHash db).2.Indexed := by
  rcases refreshNewest_cases email tokenHash db with ⟨answer, _, heq⟩ | ⟨row, _, _, htaken, heq⟩
  · rw [heq]
    exact hdb
  · rw [heq]
    refine { hdb with
      signupId := hdb.signupId.updateWhere fun _ _ _ => .inr rfl
      signupToken := ?_ }
    apply hdb.signupToken.updateOne hdb.signupId
    · intro a _ b _ ha hb
      simp only [decide_eq_true_eq] at ha hb
      exact ⟨by simp [TenantSignup.idEntry], congrArg some (ha.trans hb.symm)⟩
    · intro a _ b hb _ hpb hclash
      simp only [decide_eq_false_iff_not] at hpb
      have hother := List.any_eq_false.mp htaken b hb
      simp only [Bool.and_eq_true, decide_eq_true_eq, not_and] at hother
      exact hother hpb (Option.some.inj hclash.2).symm

theorem findTenant_some (h : findTenant slug db = some t) : t ∈ db.tenants ∧ citext t.slug = slug.value := by
  have hguard := List.find?_some h
  simp only [decide_eq_true_eq, citext_slug] at hguard
  exact ⟨List.mem_of_find?_eq_some h, hguard⟩

/-- The write is none of a row that is found under the slug, where `found` is its tenant. -/
def SignupWrite.Aside (found : Option Tenant) (slug : TenantSlug) : SignupWrite → Prop
  | .tenant row => citext row.slug ≠ slug.value
  | .settings row => ∀ t, found = some t → row.tenantId ≠ t.id
  | .domain row => ∀ t, found = some t → row.tenantId ≠ t.id
  | .slaPolicy row => ∀ t, found = some t → row.tenantId ≠ t.id
  | .entitlements row => ∀ t, found = some t → row.tenantId ≠ t.id
  | _ => True

theorem find?_inserted (hinsert : insertRow indexes row rows = .ok rows') {p : ρ → Bool} (h : p row = false) :
    rows'.find? p = rows.find? p := by
  rw [(insertRow_ok.mp hinsert).2, List.find?_append, List.find?_singleton, h]
  simp

theorem findProvisionedTenant_congr (htenants : db'.tenants = db.tenants)
    (hchildren : ∀ t, findTenant slug db = some t → existingTenant db' t = existingTenant db t) :
    findProvisionedTenant slug db' = findProvisionedTenant slug db := by
  have hfind : findTenant slug db' = findTenant slug db := by rw [findTenant, htenants, findTenant]
  unfold findProvisionedTenant
  rw [hfind]
  cases h : findTenant slug db with
  | none => rfl
  | some t => exact congrArg some (hchildren t h)

theorem SignupWrite.Aside.find (haside : w.Aside (findTenant slug db) slug) (h : w.apply db = .ok db') :
    findProvisionedTenant slug db' = findProvisionedTenant slug db := by
  cases w with
  | tenant row =>
    obtain ⟨rows, hinsert, rfl⟩ := map_ok h
    have hguard : decide (citext row.slug = citext slug.value) = false := by
      rw [citext_slug]
      exact decide_eq_false haside
    have hfind : findTenant slug { db with tenants := rows } = findTenant slug db := find?_inserted hinsert hguard
    unfold findProvisionedTenant
    rw [hfind]
    rfl
  | settings =>
    obtain ⟨rows, hinsert, rfl⟩ := map_ok h
    refine findProvisionedTenant_congr ?_ fun t ht => ?_
    · rfl
    · have hfind := find?_inserted hinsert (p := fun s => decide (s.tenantId = t.id)) (decide_eq_false (haside t ht))
      simp only [existingTenant, platformDomains, hfind]
  | domain row =>
    obtain ⟨rows, hinsert, rfl⟩ := map_ok h
    refine findProvisionedTenant_congr ?_ fun t ht => ?_
    · rfl
    · have hplatform : platformDomains t.id { db with domains := rows } = platformDomains t.id db := by
        have hguard : decide (row.tenantId = t.id) = false := decide_eq_false (haside t ht)
        simp [platformDomains, (insertRow_ok.mp hinsert).2, hguard]
      simp only [existingTenant, hplatform]
  | slaPolicy =>
    obtain ⟨rows, hinsert, rfl⟩ := map_ok h
    refine findProvisionedTenant_congr ?_ fun t ht => ?_
    · rfl
    · have hfind := find?_inserted hinsert (p := fun p => decide (p.tenantId = t.id)) (decide_eq_false (haside t ht))
      simp only [existingTenant, platformDomains, hfind]
  | entitlements =>
    obtain ⟨rows, hinsert, rfl⟩ := map_ok h
    refine findProvisionedTenant_congr ?_ fun t ht => ?_
    · rfl
    · have hfind := find?_inserted hinsert (p := fun e => decide (e.tenantId = t.id)) (decide_eq_false (haside t ht))
      simp only [existingTenant, platformDomains, hfind]
  | releaseSlug slug instant | provisionedTenant id tenantId =>
    cases h
    rfl
  | consume =>
    simp only [SignupWrite.apply] at h
    split at h
    · cases h
      rfl
    · cases h
  | _ =>
    obtain ⟨rows, _, rfl⟩ := map_ok h
    rfl

theorem findTenant_eq_of_find (h : findProvisionedTenant slug db' = findProvisionedTenant slug db) : findTenant slug db' = findTenant slug db := by
  have htenant : ∀ db, (findProvisionedTenant slug db).map (·.tenant) = findTenant slug db := by
    intro db
    unfold findProvisionedTenant
    cases findTenant slug db <;> rfl
  rw [← htenant db', h, htenant db]

theorem applyWrites_aside (haside : ∀ w ∈ ws, w.Aside (findTenant slug db) slug) (h : applyWrites ws db = .ok db') :
    findProvisionedTenant slug db' = findProvisionedTenant slug db := by
  refine applyWrites_keeps (K := fun db₁ => findProvisionedTenant slug db₁ = findProvisionedTenant slug db)
    (fun w hw db₁ db₂ hdb₁ happly => ?_) rfl h
  rw [SignupWrite.Aside.find _ happly, hdb₁]
  rw [findTenant_eq_of_find hdb₁]
  exact haside w hw

theorem SignupWrite.apply_tenants (h : w.apply db = .ok db') :
    db'.tenants = db.tenants ∨ ∃ row, w = .tenant row ∧ db'.tenants = db.tenants ++ [row] ∧
      ∀ t ∈ db.tenants, t.id ≠ row.id := by
  cases w with
  | tenant row =>
    obtain ⟨rows, hinsert, rfl⟩ := map_ok h
    refine .inr ⟨row, rfl, (insertRow_ok.mp hinsert).2, fun t ht heq => ?_⟩
    have hfresh : ¬ Clash Tenant.idEntry row t := insertRow_fresh hinsert List.mem_cons_self t ht
    exact hfresh ⟨by simp [Tenant.idEntry], congrArg some heq.symm⟩
  | releaseSlug slug instant | provisionedTenant id tenantId =>
    cases h
    exact .inl rfl
  | consume =>
    simp only [SignupWrite.apply] at h
    split at h
    · cases h
      exact .inl rfl
    · cases h
  | _ =>
    obtain ⟨rows, _, rfl⟩ := map_ok h
    exact .inl rfl

theorem applyWrites_tenants_mono (h : applyWrites ws db = .ok db') : ∀ t ∈ db.tenants, t ∈ db'.tenants := by
  intro t ht
  refine applyWrites_keeps (K := fun db => t ∈ db.tenants) (fun w _ db₁ db₂ ht₁ happly => ?_) ht h
  rcases SignupWrite.apply_tenants happly with heq | ⟨row, _, heq, _⟩
  · rwa [heq]
  · rw [heq]
    exact List.mem_append_left _ ht₁

theorem applyWrites_fresh {row : Tenant} (hrow : .tenant row ∈ ws) (h : applyWrites ws db = .ok db') : ∀ t ∈ db.tenants, t.id ≠ row.id := by
  intro t ht
  obtain ⟨before, after, rfl⟩ := List.append_of_mem hrow
  obtain ⟨db₁, hbefore, hafter⟩ := applyWrites_append.mp h
  obtain ⟨db₂, hw, _⟩ := applyWrites_cons.mp hafter
  rcases SignupWrite.apply_tenants hw with hsame | ⟨row', hrow', _, hfresh⟩
  · obtain ⟨rows, hinsert, rfl⟩ := map_ok hw
    have hlength := congrArg List.length (hsame.symm.trans (insertRow_ok.mp hinsert).2)
    simp at hlength
  · cases hrow'
    exact hfresh t (applyWrites_tenants_mono hbefore t ht)

theorem applyWrites_tenant_mem {row : Tenant} (hrow : .tenant row ∈ ws) (h : applyWrites ws db = .ok db') : row ∈ db'.tenants := by
  obtain ⟨before, after, rfl⟩ := List.append_of_mem hrow
  obtain ⟨db₁, _, hafter⟩ := applyWrites_append.mp h
  obtain ⟨db₂, hw, hws⟩ := applyWrites_cons.mp hafter
  obtain ⟨rows, hinsert, rfl⟩ := map_ok hw
  apply applyWrites_tenants_mono hws
  rw [(insertRow_ok.mp hinsert).2]
  exact List.mem_concat_self

def SignupWrite.provisions : SignupWrite → Bool
  | .tenant _ | .settings _ | .domain _ | .slaPolicy _ | .entitlements _ | .lifecycleEvent _ => true
  | _ => false

theorem provisioning_provisions (config : SignupConfig) (command : ProvisionTenantCommand) (draw : ProvisionDraw)
    (startedAt now : Millis) (existing : Option ExistingTenant) :
    ∀ w ∈ (provisioning config command draw startedAt now existing).2, w.provisions = true := by
  cases existing with
  | none =>
    simp only [provisioning, createTenant, creationWrites, List.forall_mem_cons]
    simp [SignupWrite.provisions]
  | some =>
    simp only [provisioning, completeTenant, completionWrites, List.forall_mem_append]
    refine ⟨?_, ?_, ?_, ?_⟩ <;> split <;> simp [SignupWrite.provisions]

end WhatsappCrm.Signup
