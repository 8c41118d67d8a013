/-
Purpose: The hostname a tenant's links are mailed with.
-/
import WhatsappCrm.Domains.Effects

namespace WhatsappCrm.Domains

open Interleaving Table

def Usable (d : TenantDomain) : Prop := d.verifiedAt ≠ none ∧ (d.kind = .custom → d.activatedAt ≠ none)

instance (d : TenantDomain) : Decidable (Usable d) := inferInstanceAs (Decidable (_ ∧ _))

def UsablePrimary (tenantId : Uuid) (db : DomainDb) : Prop :=
  ∃ d, db.domains.filter (TenantDomain.primaryOf tenantId) = [d] ∧ Usable d

/-- The write takes the row away, or detaches it without unmarking it. -/
def DomainWrite.loses (d : TenantDomain) : DomainWrite → Bool
  | .delete tenantId id => d.named tenantId id
  | .setActivation tenantId id none false => d.named tenantId id
  | _ => false

def DomainWrite.promotes (d : TenantDomain) : DomainWrite → Bool
  | .makePrimary tenantId id => d.named tenantId id
  | _ => false

def DomainWrite.isPromotion : DomainWrite → Bool
  | .makePrimary _ _ => true
  | _ => false

def CommitsAsRead (tenantId : Uuid) (ws : List DomainWrite) (db : DomainDb) : Prop :=
  (∀ w ∈ ws, ∀ d ∈ db.domains, d.tenantId = tenantId → w.promotes d = true → Usable d) ∧
    ((∀ w ∈ ws, w.isPromotion = false) →
      ∀ w ∈ ws, ∀ d ∈ db.domains, d.tenantId = tenantId → w.loses d = true → d.isPrimary = false)

instance (tenantId : Uuid) (ws : List DomainWrite) (db : DomainDb) : Decidable (CommitsAsRead tenantId ws db) :=
  inferInstanceAs (Decidable (_ ∧ _))

def StillAsRead (tenantId : Uuid) (tag : DomainStmt) (db : DomainDb) : Prop :=
  match tag with
  | .commit ws => CommitsAsRead tenantId ws db
  | .record id _ _ (.unproved _) => ∀ d ∈ db.domains, d.named tenantId id = true → d.isPrimary = false
  | _ => True

instance (tenantId : Uuid) (tag : DomainStmt) (db : DomainDb) : Decidable (StillAsRead tenantId tag db) :=
  match tag with
  | .commit ws => inferInstanceAs (Decidable (CommitsAsRead tenantId ws db))
  | .record id _ _ (.unproved _) =>
    inferInstanceAs (Decidable (∀ d ∈ db.domains, d.named tenantId id = true → d.isPrimary = false))
  | .record _ _ _ .proved => isTrue trivial
  | .read => isTrue trivial
  | .lookup => isTrue trivial
  | .refresh _ => isTrue trivial
  | .release => isTrue trivial
  | .surroundings => isTrue trivial

def PrimaryKept (tenantId : Uuid) (db : DomainDb) : Prop :=
  ∃ d ∈ db.domains, d.primaryOf tenantId = true ∧ Usable d

theorem TenantDomain.primaryOf_iff {tenantId : Uuid} {d : TenantDomain} :
    d.primaryOf tenantId = true ↔ d.tenantId = tenantId ∧ d.isPrimary = true := by
  simp [primaryOf]

variable {db : DomainDb} {rows : List Uuid}

theorem PrimaryKept.usablePrimary {tenantId : Uuid} (hdb : db.Indexed) (h : PrimaryKept tenantId db) :
    UsablePrimary tenantId db := by
  obtain ⟨d, hd, hprimary, husable⟩ := h
  refine ⟨d, hdb.primary.filter_eq_singleton (k := tenantId) hd hprimary fun r _ hr => ?_, husable⟩
  obtain ⟨htenant, hrprimary⟩ := TenantDomain.primaryOf_iff.mp hr
  simp [TenantDomain.primaryEntry, htenant, hrprimary]

theorem UsablePrimary.primaryKept (h : UsablePrimary tenantId db) : PrimaryKept tenantId db := by
  obtain ⟨d, hfilter, husable⟩ := h
  have hd : d ∈ db.domains.filter (TenantDomain.primaryOf tenantId) := by
    rw [hfilter]
    exact List.mem_cons_self
  exact ⟨d, (List.mem_filter.mp hd).1, (List.mem_filter.mp hd).2, husable⟩

theorem PrimaryKept.of_update (hdomains : db'.domains = updateWhere p f db.domains)
    (hf : ∀ d ∈ db.domains, p d = true → d.primaryOf tenantId = true → Usable d →
      (f d).primaryOf tenantId = true ∧ Usable (f d)) (h : PrimaryKept tenantId db) : PrimaryKept tenantId db' := by
  obtain ⟨d, hd, hprimary, husable⟩ := h
  rw [PrimaryKept, hdomains]
  refine ⟨_, mem_updateWhere_of_mem hd, ?_⟩
  split
  · rename_i hp
    exact hf d hd hp hprimary husable
  · exact ⟨hprimary, husable⟩

theorem PrimaryKept.of_filter (hdomains : db'.domains = db.domains.filter q)
    (hq : ∀ d ∈ db.domains, d.primaryOf tenantId = true → Usable d → q d = true) (h : PrimaryKept tenantId db) :
    PrimaryKept tenantId db' := by
  obtain ⟨d, hd, hprimary, husable⟩ := h
  refine ⟨d, ?_, hprimary, husable⟩
  rw [hdomains]
  exact List.mem_filter.mpr ⟨hd, hq d hd hprimary husable⟩

def DomainWrite.tenantId : DomainWrite → Uuid
  | .create row => row.tenantId
  | .clearPrimary tenantId => tenantId
  | .makePrimary tenantId _ => tenantId
  | .delete tenantId _ => tenantId
  | .setActivation tenantId _ _ _ => tenantId

theorem apply_elsewhere {w : DomainWrite} {d : TenantDomain}
    (hw : w.tenantId ≠ d.tenantId) (hd : d ∈ db.domains) (h : w.apply db = .ok (rows, db')) : d ∈ db'.domains := by
  have hnamed : ∀ id, d.named w.tenantId id = false := by
    intro id
    by_contra hnamed
    exact hw (TenantDomain.named_iff.mp (by simpa using hnamed)).1.symm
  cases w with
  | create =>
    obtain ⟨rfl, rfl, _⟩ := create_ok h
    exact List.mem_append_left _ hd
  | clearPrimary =>
    cases h
    apply mem_updateWhere_of_not hd
    by_contra hprimary
    exact hw (TenantDomain.primaryOf_iff.mp (Bool.not_eq_false _ ▸ hprimary)).1.symm
  | makePrimary tenantId id =>
    obtain ⟨rfl, rfl, _⟩ := makePrimary_ok h
    exact mem_updateWhere_of_not hd (hnamed id)
  | delete tenantId id =>
    cases h
    have hkept : d.named tenantId id = false := hnamed id
    exact List.mem_filter.mpr ⟨hd, by simp [hkept]⟩
  | setActivation tenantId id =>
    cases h
    exact mem_updateWhere_of_not hd (hnamed id)

theorem makePrimary_kept {id : Uuid} (h : (DomainWrite.makePrimary tenantId id).apply db = .ok (rows, db')) (hrows : rows ≠ [])
    (husable : ∀ d ∈ db.domains, d.named tenantId id = true → Usable d) : PrimaryKept tenantId db' := by
  obtain ⟨rfl, rfl, _⟩ := makePrimary_ok h
  obtain ⟨rowId, hrowId⟩ := List.exists_mem_of_ne_nil _ hrows
  obtain ⟨d, hd, _⟩ := List.mem_map.mp hrowId
  obtain ⟨hd, hnamed⟩ := List.mem_filter.mp hd
  have hmem := mem_updateWhere_of_mem (p := TenantDomain.named tenantId id)
    (f := fun d => { d with isPrimary := true }) hd
  rw [hnamed, if_pos rfl] at hmem
  refine ⟨_, hmem, TenantDomain.primaryOf_iff.mpr ⟨(TenantDomain.named_iff.mp hnamed).1, rfl⟩, ?_⟩
  exact husable d hd hnamed

theorem promotion_kept {id : Uuid} (happly : applyAll domainWrites [(w, held), (.makePrimary tenantId id, rows)] db = .ok db')
    (hheld : ∀ e ∈ [(w, held), (DomainWrite.makePrimary tenantId id, rows)], e.2 ≠ [])
    (husable : ∀ v, w.apply db = .ok (held, v) → ∀ d ∈ v.domains, d.named tenantId id = true → Usable d) :
    PrimaryKept tenantId db' := by
  obtain ⟨v, hw, hrest⟩ := applyAll_cons_ok.mp happly
  have hmake := applyAll_single.mp hrest
  exact makePrimary_kept hmake (hheld _ (List.mem_cons_of_mem _ List.mem_cons_self)) (husable v hw)

theorem alone_of_map {ws : List (DomainWrite × List Uuid)} (hshape : ws.map (·.1) = [w])
    (happly : applyAll domainWrites ws db = .ok db') : ∃ rows, ws = [(w, rows)] ∧ w.apply db = .ok (rows, db') := by
  obtain ⟨⟨_, rows⟩, rfl, rfl⟩ := List.map_eq_singleton_iff.mp hshape
  exact ⟨rows, rfl, applyAll_single.mp happly⟩

theorem pair_of_map {xs : List (α × β)} (h : xs.map (·.1) = [a, b]) : ∃ x y : α × β, xs = [x, y] ∧ x.1 = a ∧ y.1 = b := by
  match xs, h with
  | [x, y], h =>
    simp only [List.map_cons, List.map_nil, List.cons.injEq, and_true] at h
    exact ⟨x, y, rfl, h⟩

theorem Committed.oneTenant (h : Committed platforms ws) : ∃ tenantId, ∀ w ∈ ws, w.tenantId = tenantId := by
  cases h with
  | nothing => exact ⟨0, by simp⟩
  | claimed id tenantId => exact ⟨tenantId, by simp [DomainWrite.tenantId, claimedRow]⟩
  | promoted tenantId | moved tenantId | removed tenantId | replaced tenantId | attached tenantId
  | detached tenantId | orphaned tenantId | reverted tenantId => exact ⟨tenantId, by simp [DomainWrite.tenantId]⟩

theorem Committed.primaryKept_own {ws : List (DomainWrite × List Uuid)}
    (hplatform : ∃ id, (tenantId, id) ∈ db.platforms) (hws : Committed db.platforms (ws.map (·.1)))
    (htenant : ∀ w ∈ ws.map (·.1), w.tenantId = tenantId) (hheld : ∀ e ∈ ws, e.2 ≠ [])
    (happly : applyAll domainWrites ws db = .ok db') (hread : StillAsRead tenantId (.commit (ws.map (·.1))) db)
    (h : PrimaryKept tenantId db) : PrimaryKept tenantId db' := by
  obtain ⟨hpromoted, hlost⟩ := hread
  have hsecond : ∀ {a b : DomainWrite}, b ∈ [a, b] := List.mem_cons_of_mem _ List.mem_cons_self
  generalize hshape : ws.map (·.1) = shape at hws htenant hpromoted hlost
  cases hws with
  | nothing =>
    rw [List.map_eq_nil_iff.mp hshape] at happly
    cases happly
    exact h
  | claimed =>
    obtain ⟨rows, rfl, hw⟩ := alone_of_map hshape happly
    obtain ⟨rfl, rfl, _⟩ := create_ok hw
    obtain ⟨d, hd, hprimary, husable⟩ := h
    exact ⟨d, List.mem_append_left _ hd, hprimary, husable⟩
  | promoted ofTenant =>
    obtain ⟨rows, rfl, hw⟩ := alone_of_map hshape happly
    obtain rfl : ofTenant = tenantId := htenant _ List.mem_cons_self
    refine makePrimary_kept hw (hheld _ List.mem_cons_self) fun d hd hnamed => ?_
    exact hpromoted _ List.mem_cons_self d hd (TenantDomain.named_iff.mp hnamed).1 hnamed
  | moved ofTenant =>
    obtain ⟨⟨w, held⟩, ⟨w', rows⟩, rfl, rfl, rfl⟩ := pair_of_map hshape
    obtain rfl : ofTenant = tenantId := htenant _ List.mem_cons_self
    refine promotion_kept happly hheld fun v hw d hd hnamed => ?_
    cases hw
    -- The mark that was cleared is not what makes a hostname usable.
    obtain ⟨d₀, hd₀, ⟨_, rfl⟩ | ⟨_, rfl⟩⟩ := mem_updateWhere hd
    · exact hpromoted _ hsecond d₀ hd₀ (TenantDomain.named_iff.mp hnamed).1 hnamed
    · exact hpromoted _ hsecond d hd₀ (TenantDomain.named_iff.mp hnamed).1 hnamed
  | removed ofTenant id =>
    obtain ⟨rows, rfl, hw⟩ := alone_of_map hshape happly
    cases hw
    obtain rfl : ofTenant = tenantId := htenant _ List.mem_cons_self
    refine h.of_filter rfl fun d hd hprimary _ => ?_
    cases hnamed : d.named ofTenant id with
    | false => rfl
    | true =>
      have hnot := hlost (by simp [DomainWrite.isPromotion]) _ List.mem_cons_self d hd
        (TenantDomain.named_iff.mp hnamed).1 hnamed
      rw [(TenantDomain.primaryOf_iff.mp hprimary).2] at hnot
      cases hnot
  | replaced ofTenant =>
    obtain ⟨⟨w, held⟩, ⟨w', rows⟩, rfl, rfl, rfl⟩ := pair_of_map hshape
    obtain rfl : ofTenant = tenantId := htenant _ List.mem_cons_self
    refine promotion_kept happly hheld fun v hw d hd hnamed => ?_
    cases hw
    exact hpromoted _ hsecond d (List.mem_filter.mp hd).1 (TenantDomain.named_iff.mp hnamed).1 hnamed
  | attached =>
    obtain ⟨rows, rfl, hw⟩ := alone_of_map hshape happly
    cases hw
    refine h.of_update rfl fun d _ _ hprimary husable => ⟨hprimary, husable.1, fun _ => ?_⟩
    simp [TenantDomain.activate]
  | detached ofTenant =>
    obtain ⟨rows, rfl, hw⟩ := alone_of_map hshape happly
    cases hw
    obtain rfl : ofTenant = tenantId := htenant _ List.mem_cons_self
    refine h.of_update rfl fun d hd hnamed hprimary _ => ?_
    have hnot := hlost (by simp [DomainWrite.isPromotion]) _ List.mem_cons_self d hd
      (TenantDomain.named_iff.mp hnamed).1 hnamed
    rw [(TenantDomain.primaryOf_iff.mp hprimary).2] at hnot
    cases hnot
  | orphaned ofTenant id hnone =>
    obtain ⟨platform, hmem⟩ := hplatform
    have hown : ofTenant = tenantId := htenant _ List.mem_cons_self
    exact absurd hown.symm (hnone _ hmem)
  | reverted ofTenant id fallback hcustom hfallback =>
    obtain ⟨⟨w, held⟩, ⟨w', rows⟩, rfl, rfl, rfl⟩ := pair_of_map hshape
    obtain rfl : ofTenant = tenantId := htenant _ List.mem_cons_self
    refine promotion_kept happly hheld fun v hw d hd hnamed => ?_
    cases hw
    obtain ⟨d₀, hd₀, ⟨hdetached, rfl⟩ | ⟨_, rfl⟩⟩ := mem_updateWhere hd
    · -- What is detached is a custom row, and the fallback is none.
      have hid : fallback = id :=
        (TenantDomain.named_iff.mp hnamed).2.symm.trans (TenantDomain.named_iff.mp hdetached).2
      exact absurd hid (hcustom _ hfallback)
    · exact hpromoted _ hsecond d hd₀ (TenantDomain.named_iff.mp hnamed).1 hnamed

theorem Effect.primaryKept
    (hplatform : ∃ id, (tenantId, id) ∈ db.platforms) (hread : StillAsRead tenantId tag db) (heffect : Effect tag db db')
    (h : PrimaryKept tenantId db) : PrimaryKept tenantId db' := by
  cases heffect with
  | none | looked | surrounded => exact h
  | recorded scope rowId hostname token outcome now _ _ _ =>
    refine h.of_update rfl fun d hd hnamed hprimary husable => ⟨hprimary, ?_, husable.2⟩
    cases outcome with
    | proved => simp [TenantDomain.recordOutcome]
    | unproved =>
      obtain ⟨htenant, hmarked⟩ := TenantDomain.primaryOf_iff.mp hprimary
      have hnot := hread d hd (TenantDomain.named_iff.mpr ⟨htenant, TenantDomain.named_id hnamed⟩)
      rw [hmarked] at hnot
      cases hnot
  | refreshed => exact h.of_update rfl fun d _ _ hprimary husable => ⟨hprimary, husable⟩
  | released =>
    refine h.of_filter rfl fun d _ _ husable => ?_
    simp [TenantDomain.lapsed, husable.1]
  | committed ws _ _ hws hheld happly =>
    obtain ⟨ofTenant, htenant⟩ := hws.oneTenant
    by_cases hown : ofTenant = tenantId
    · subst hown
      exact Committed.primaryKept_own hplatform hws htenant hheld happly hread h
    · obtain ⟨d, hd, hprimary, husable⟩ := h
      have hkept : d ∈ db'.domains := by
        refine applyAll_induct (Q := fun w _ => w.tenantId = ofTenant) (K := fun v : DomainDb => d ∈ v.domains) ?_
          (fun e he => htenant _ (List.mem_map_of_mem he)) hd happly
        intro w rows v v' hw hv happly
        refine apply_elsewhere ?_ hv happly
        rw [hw, (TenantDomain.primaryOf_iff.mp hprimary).1]
        exact hown
      exact ⟨d, hkept, hprimary, husable⟩

def stillAsRead (tenantId : Uuid) (s : DomainSys) (_ : DomainCall) (tag : DomainStmt) : Prop :=
  StillAsRead tenantId tag s.db

/-- A tenant with a platform subdomain and a usable primary has exactly one primary in every state of a run that meets
    the condition, and it is usable. -/
theorem primary_stays_usable {config : DomainConfig} {db : DomainDb} (hdb : db.Indexed) {tenantId : Uuid}
    (hplatform : ∃ id, (tenantId, id) ∈ db.platforms) (hprimary : UsablePrimary tenantId db) {s : DomainSys}
    (hs : Reachable (domainProgram config) (stillAsRead tenantId) (.idle db) s) : UsablePrimary tenantId s.db := by
  have hsound := domainRely_sound.under (StillAsRead tenantId)
  have hprog : ∀ c db, Prog.Guards (domainRely.under (StillAsRead tenantId)) db (domainProgram config c) :=
    fun c db => (domainProgram_guards config c db).under (StillAsRead tenantId)
  have hcond : ∀ (s : DomainSys) c tag, stillAsRead tenantId s c tag →
      (domainRely.under (StillAsRead tenantId)).cond tag s.db := fun _ _ _ h => ⟨trivial, h⟩
  have hinv := (Reachable.guards hsound hprog hcond (Sys.guarded_idle hdb) hs).inv
  have hkept := Reachable.effect hsound hprog hcond
    (K := fun db => (∃ id, (tenantId, id) ∈ db.platforms) ∧ PrimaryKept tenantId db) ?_ (Sys.guarded_idle hdb)
    ⟨hplatform, hprimary.primaryKept⟩ hs
  · exact hkept.2.usablePrimary hinv
  · intro tag db₁ db₂ hdb₁ hread heffect h
    have hlater := (domainRely_sound.keeps hdb₁ trivial heffect).2
    exact ⟨hlater.platforms ▸ h.1, Effect.primaryKept h.1 hread.2 heffect h.2⟩

def primaryConfig : DomainConfig where
  platformDomain := "whatsappcrm.app"
  edgeHostname := some "edge.whatsappcrm.app"
  verificationTtlMs := 1000000

/-- A tenant with its platform subdomain and a live hostname of its own; `customFirst` is primary there. -/
def twoDomains (customFirst : Bool) : DomainDb where
  now := 60000
  serviceable := [1]
  domains := [
    { id := 1, tenantId := 1, hostname := "acme.whatsappcrm.app", verifiedAt := some 0, isPrimary := !customFirst,
      createdAt := 0 },
    { id := 7, tenantId := 1, hostname := "help.acme.com", kind := .custom, verifiedAt := some 500,
      isPrimary := customFirst, activatedAt := some 600, createdAt := 400 }]

def removedMoves : List (Move DomainCall) :=
  [.spawn (.remove 1 7), .step 0, .step 0, .step 0, .step 0, .step 0, .step 0]

/-- Its platform subdomain takes over. -/
theorem primary_stays_usable_removed :
    ∃ s : DomainSys, s.db.removed = [7] ∧ s.db.domains.map (·.isPrimary) = [true] ∧ UsablePrimary 1 s.db := by
  have hrun : (run (domainProgram primaryConfig) (fun s _ tag => decide (StillAsRead 1 tag s.db)) removedMoves
      (.idle (twoDomains true))).map (fun s => (s.db.removed, s.db.domains.map (·.isPrimary))) =
        some ([7], [true]) := by
    decide +kernel
  obtain ⟨s, hreach, heq⟩ := ends_of_run hrun
  simp only [Prod.mk.injEq] at heq
  have hprimary : UsablePrimary 1 (twoDomains true) :=
    PrimaryKept.usablePrimary (by decide +kernel) ⟨_, List.mem_cons_of_mem _ List.mem_cons_self, rfl, by decide⟩
  exact ⟨s, heq.1, heq.2, primary_stays_usable (by decide +kernel) ⟨1, by decide +kernel⟩ hprimary hreach⟩

def lostMoves : List (Move DomainCall) :=
  [.spawn (.remove 1 7), .step 0,
    .spawn (.setPrimary 1 7), .step 1, .step 1, .step 1, .step 1, .step 1, .step 1,
    .step 0, .step 0, .step 0]

/-- Not in every run: the tenant is left without a primary. -/
theorem primary_lost :
    ¬ ∀ (config : DomainConfig) (db : DomainDb), db.Indexed → ∀ tenantId : Uuid, (∃ id, (tenantId, id) ∈ db.platforms) →
      UsablePrimary tenantId db → ∀ s : DomainSys, Reachable (domainProgram config) anyStep (.idle db) s →
        UsablePrimary tenantId s.db := by
  intro hall
  have hrun : (run (domainProgram primaryConfig) (fun _ _ _ => true) lostMoves (.idle (twoDomains false))).map
      (fun s => s.db.domains.filter (TenantDomain.primaryOf 1)) = some [] := by
    decide +kernel
  obtain ⟨s, hreach, hnone⟩ := ends_of_run_any hrun
  have hprimary : UsablePrimary 1 (twoDomains false) :=
    PrimaryKept.usablePrimary (by decide +kernel) ⟨_, List.mem_cons_self, rfl, by decide⟩
  obtain ⟨d, hd, _⟩ := hall primaryConfig (twoDomains false) (by decide +kernel) 1 ⟨1, by decide +kernel⟩ hprimary s
    hreach
  rw [hnone] at hd
  cases hd

end WhatsappCrm.Domains
