/-
Purpose: What each statement on `tenant_domains` can do, whichever call it belongs to.
-/
import WhatsappCrm.Domains.Service

namespace WhatsappCrm.Domains

open Interleaving Table

def TenantDomain.platformKey (d : TenantDomain) : Option (Uuid × Uuid) :=
  if d.kind = .platform then some (d.tenantId, d.id) else none

def DomainDb.platforms (db : DomainDb) : List (Uuid × Uuid) := db.domains.filterMap TenantDomain.platformKey

variable {d row : TenantDomain} {db db' : DomainDb} {tenantId id : Uuid} {p : TenantDomain → Bool}
  {f : TenantDomain → TenantDomain} {w : DomainWrite} {α : Type}

theorem TenantDomain.platformKey_eq_some :
    d.platformKey = some key ↔ d.kind = .platform ∧ (d.tenantId, d.id) = key := by
  simp [platformKey]

theorem DomainDb.mem_platforms :
    (tenantId, id) ∈ db.platforms ↔ ∃ d ∈ db.domains, d.kind = .platform ∧ d.tenantId = tenantId ∧ d.id = id := by
  simp [platforms, TenantDomain.platformKey_eq_some, Prod.ext_iff]

theorem filterMap_updateWhere {ρ κ : Type} {k : ρ → Option κ} {p : ρ → Bool} {f : ρ → ρ} (hf : ∀ r, k (f r) = k r)
    (rows : List ρ) : (updateWhere p f rows).filterMap k = rows.filterMap k := by
  induction rows with
  | nil => rfl
  | cons r rows ih =>
    have hr : k (if p r then f r else r) = k r := by
      split
      · exact hf r
      · rfl
    simp only [updateWhere, List.map_cons, List.filterMap_cons, hr]
    simp only [updateWhere] at ih
    rw [ih]

theorem filterMap_filter_of_none {ρ κ : Type} {k : ρ → Option κ} {q : ρ → Bool} {rows : List ρ}
    (h : ∀ r ∈ rows, q r = false → k r = none) : (rows.filter q).filterMap k = rows.filterMap k := by
  induction rows with
  | nil => rfl
  | cons r rows ih =>
    have hrest := ih fun r' hr' => h r' (List.mem_cons_of_mem _ hr')
    cases hq : q r with
    | true => rw [List.filter_cons_of_pos hq, List.filterMap_cons, List.filterMap_cons, hrest]
    | false =>
      rw [List.filter_cons_of_neg (by simp [hq]), List.filterMap_cons, h r List.mem_cons_self hq, hrest]

theorem DomainDb.platforms_update (hf : ∀ d, (f d).platformKey = d.platformKey) (hdb' : db'.domains = updateWhere p f db.domains) :
    db'.platforms = db.platforms := by
  rw [platforms, hdb']
  exact filterMap_updateWhere hf db.domains

theorem TenantDomain.named_iff : d.named tenantId id = true ↔ d.tenantId = tenantId ∧ d.id = id := by
  simp [named, and_comm]

theorem TenantDomain.named_id (h : d.named scope id = true) : d.id = id := by
  simp only [named, Bool.and_eq_true, decide_eq_true_eq] at h
  exact h.1

def DomainWrite.onPlatforms (w : DomainWrite) (keys : List (Uuid × Uuid)) : List (Uuid × Uuid) :=
  match w with
  | .create row => keys ++ row.platformKey.toList
  | .delete tenantId id => keys.filter (· ≠ (tenantId, id))
  | _ => keys

theorem platforms_delete (rows : List TenantDomain) (tenantId id : Uuid) :
    (rows.filter fun d => !d.named tenantId id).filterMap TenantDomain.platformKey =
      (rows.filterMap TenantDomain.platformKey).filter (· ≠ (tenantId, id)) := by
  induction rows with
  | nil => rfl
  | cons d rows ih =>
    by_cases hkind : d.kind = .platform
    · have hkey : d.platformKey = some (d.tenantId, d.id) := TenantDomain.platformKey_eq_some.mpr ⟨hkind, rfl⟩
      cases hnamed : d.named tenantId id with
      | true =>
        obtain ⟨rfl, rfl⟩ := TenantDomain.named_iff.mp hnamed
        rw [List.filter_cons_of_neg (by simp [hnamed]), ih, List.filterMap_cons, hkey]
        exact (List.filter_cons_of_neg (by simp)).symm
      | false =>
        have hne : (d.tenantId, d.id) ≠ (tenantId, id) := by
          intro heq
          rw [TenantDomain.named_iff.mpr (Prod.ext_iff.mp heq)] at hnamed
          cases hnamed
        rw [List.filter_cons_of_pos (by simp [hnamed]), List.filterMap_cons, List.filterMap_cons, hkey, ih]
        exact (List.filter_cons_of_pos (by simp [hne])).symm
    · have hkey : d.platformKey = none := by simp [TenantDomain.platformKey, hkind]
      rw [List.filterMap_cons, hkey, ← ih]
      cases hnamed : d.named tenantId id with
      | true => rw [List.filter_cons_of_neg (by simp [hnamed])]
      | false => rw [List.filter_cons_of_pos (by simp [hnamed]), List.filterMap_cons, hkey]

theorem create_ok {row : TenantDomain} (h : (DomainWrite.create row).apply db = .ok (rows, db')) :
    rows = [row.id] ∧ db' = { db with domains := db.domains ++ [row] } ∧
      ∀ d ∈ db.domains, ¬ Clash TenantDomain.hostnameEntry row d ∧ ¬ Clash TenantDomain.idEntry row d ∧
        ¬ Clash TenantDomain.primaryEntry row d := by
  simp only [DomainWrite.apply, List.any_eq_true, decide_eq_true_eq] at h
  obtain ⟨hhostname, h⟩ := ok_of_ite h
  obtain ⟨hid, h⟩ := ok_of_ite h
  obtain ⟨hprimary, h⟩ := ok_of_ite h
  cases h
  exact ⟨rfl, rfl, fun d hd => ⟨fun hc => hhostname ⟨d, hd, hc⟩, fun hc => hid ⟨d, hd, hc⟩, fun hc => hprimary ⟨d, hd, hc⟩⟩⟩

theorem makePrimary_ok {tenantId id : Uuid} (h : (DomainWrite.makePrimary tenantId id).apply db = .ok (rows, db')) :
    rows = (db.domains.filter (TenantDomain.named tenantId id)).map (·.id) ∧
      db' = { db with
        domains := updateWhere (TenantDomain.named tenantId id) (fun d => { d with isPrimary := true }) db.domains } ∧
      ¬ (db.domains.any fun d => d.primaryOf tenantId ∧ d.id ≠ id ∧ db.domains.any (·.named tenantId id)) = true := by
  obtain ⟨hother, h⟩ := ok_of_ite h
  cases h
  exact ⟨rfl, rfl, hother⟩

theorem platforms_apply (h : w.apply db = .ok (rows, db')) :
    db'.platforms = w.onPlatforms db.platforms ∧ db'.answers = db.answers := by
  cases w with
  | create row =>
    obtain ⟨rfl, rfl, _⟩ := create_ok h
    refine ⟨?_, rfl⟩
    simp only [DomainDb.platforms, DomainWrite.onPlatforms, List.filterMap_append]
    cases hkey : row.platformKey <;> simp [hkey]
  | clearPrimary =>
    cases h
    exact ⟨DomainDb.platforms_update (f := fun d => { d with isPrimary := false }) (fun _ => rfl) rfl, rfl⟩
  | makePrimary =>
    obtain ⟨rfl, rfl, _⟩ := makePrimary_ok h
    exact ⟨DomainDb.platforms_update (f := fun d => { d with isPrimary := true }) (fun _ => rfl) rfl, rfl⟩
  | delete tenantId id =>
    cases h
    exact ⟨platforms_delete db.domains tenantId id, rfl⟩
  | setActivation tenantId id activatedAt clearsPrimary =>
    cases h
    exact ⟨DomainDb.platforms_update (f := TenantDomain.activate activatedAt clearsPrimary) (fun _ => rfl) rfl, rfl⟩

theorem DomainDb.Indexed.update (hdb : db.Indexed) (hid : ∀ d, (f d).id = d.id) (hhostname : ∀ d, (f d).hostname = d.hostname)
    (hprimary : ∀ d ∈ db.domains, p d = true →
      (f d).primaryEntry = none ∨ (f d).primaryEntry = d.primaryEntry) (hdb' : db'.domains = updateWhere p f db.domains) : db'.Indexed where
  id := by
    rw [hdb']
    exact hdb.id.updateWhere fun d _ _ => .inr (congrArg some (hid d))
  hostname := by
    rw [hdb']
    exact hdb.hostname.updateWhere fun d _ _ => .inr (congrArg (fun h => some (citext h)) (hhostname d))
  primary := by
    rw [hdb']
    exact hdb.primary.updateWhere hprimary

theorem DomainDb.Indexed.filter (hdb : db.Indexed) (hdb' : db'.domains = db.domains.filter p) : db'.Indexed where
  id := by
    rw [hdb']
    exact List.Pairwise.filter p hdb.id
  hostname := by
    rw [hdb']
    exact List.Pairwise.filter p hdb.hostname
  primary := by
    rw [hdb']
    exact List.Pairwise.filter p hdb.primary

theorem makePrimary_indexed (hdb : db.Indexed) (hother : ¬ (db.domains.any fun d =>
      d.primaryOf tenantId ∧ d.id ≠ id ∧ db.domains.any (·.named tenantId id)) = true) : ({ db with
        domains := updateWhere (TenantDomain.named tenantId id) (fun d => { d with isPrimary := true }) db.domains } :
      DomainDb).Indexed where
  id := hdb.id.updateWhere fun _ _ _ => .inr rfl
  hostname := hdb.hostname.updateWhere fun _ _ _ => .inr rfl
  primary := by
    apply hdb.primary.updateOne hdb.id
    · intro a _ b _ ha hb
      exact ⟨by simp [TenantDomain.idEntry], congrArg some
        ((TenantDomain.named_iff.mp ha).2.trans (TenantDomain.named_iff.mp hb).2.symm)⟩
    · intro a ha b hb hpa hpb hclash
      have htenant := (TenantDomain.named_iff.mp hpa).1
      simp only [Clash, TenantDomain.primaryEntry, if_true] at hclash
      have hprimary : b.isPrimary = true ∧ b.tenantId = tenantId := by
        cases hbp : b.isPrimary with
        | false => simp [hbp] at hclash
        | true => exact ⟨rfl, by simpa [hbp, htenant, eq_comm] using hclash⟩
      have hid : b.id ≠ id := by
        intro hid
        rw [TenantDomain.named_iff.mpr ⟨hprimary.2, hid⟩] at hpb
        cases hpb
      apply hother
      simp only [List.any_eq_true, decide_eq_true_eq]
      exact ⟨b, hb, by simp [TenantDomain.primaryOf, hprimary], hid, a, ha, hpa⟩

theorem indexed_apply (hdb : db.Indexed) (h : w.apply db = .ok (rows, db')) : db'.Indexed := by
  cases w with
  | create =>
    obtain ⟨rfl, rfl, hfree⟩ := create_ok h
    constructor
    · exact hdb.id.concat fun d hd hclash => (hfree d hd).2.1 hclash.symm
    · exact hdb.hostname.concat fun d hd hclash => (hfree d hd).1 hclash.symm
    · exact hdb.primary.concat fun d hd hclash => (hfree d hd).2.2 hclash.symm
  | clearPrimary =>
    cases h
    exact hdb.update (f := fun d => { d with isPrimary := false }) (fun _ => rfl) (fun _ => rfl) (fun _ _ _ => .inl rfl)
      rfl
  | makePrimary =>
    obtain ⟨rfl, rfl, hother⟩ := makePrimary_ok h
    exact makePrimary_indexed hdb hother
  | delete =>
    cases h
    exact hdb.filter rfl
  | setActivation tenantId id activatedAt clearsPrimary =>
    cases h
    refine hdb.update (f := TenantDomain.activate activatedAt clearsPrimary) (fun _ => rfl) (fun _ => rfl)
      (fun d _ _ => ?_) rfl
    cases clearsPrimary with
    | true => exact .inl rfl
    | false => exact .inr rfl

/-- The platform rows are the same ones, and no answer is forgotten. -/
structure Later (db db' : DomainDb) : Prop where
  platforms : db'.platforms = db.platforms
  answers : ∀ a ∈ db.answers, a ∈ db'.answers

theorem Later.refl (db : DomainDb) : Later db db := ⟨rfl, fun _ ha => ha⟩

theorem Later.trans (h : Later a b) (h' : Later b c) : Later a c :=
  ⟨h'.platforms.trans h.platforms, fun x hx => h'.answers x (h.answers x hx)⟩

def Custom (platforms : List (Uuid × Uuid)) (id : Uuid) : Prop := ∀ key ∈ platforms, key.2 ≠ id

inductive Committed (platforms : List (Uuid × Uuid)) : List DomainWrite → Prop where
  | nothing : Committed platforms []
  | claimed (id tenantId : Uuid) (hostname token : String) (now : Millis) :
      Committed platforms [.create (claimedRow id tenantId hostname token now)]
  /-- A promotion of a tenant that has no primary. -/
  | promoted (tenantId id : Uuid) : Committed platforms [.makePrimary tenantId id]
  | moved (tenantId id : Uuid) : Committed platforms [.clearPrimary tenantId, .makePrimary tenantId id]
  | removed (tenantId id : Uuid) (hcustom : Custom platforms id) : Committed platforms [.delete tenantId id]
  /-- The row was the primary when its removal read it. -/
  | replaced (tenantId id fallback : Uuid) (hcustom : Custom platforms id) (hfallback : (tenantId, fallback) ∈ platforms) :
      Committed platforms [.delete tenantId id, .makePrimary tenantId fallback]
  | attached (tenantId id : Uuid) (activatedAt : Millis) :
      Committed platforms [.setActivation tenantId id (some activatedAt) false]
  | detached (tenantId id : Uuid) : Committed platforms [.setActivation tenantId id none false]
  /-- There was nothing to fall back to. -/
  | orphaned (tenantId id : Uuid) (hnone : ∀ key ∈ platforms, key.1 ≠ tenantId) :
      Committed platforms [.setActivation tenantId id none true]
  | reverted (tenantId id fallback : Uuid) (hcustom : Custom platforms id) (hfallback : (tenantId, fallback) ∈ platforms) :
      Committed platforms [.setActivation tenantId id none true, .makePrimary tenantId fallback]

inductive Effect : DomainStmt → DomainDb → DomainDb → Prop where
  | none (tag : DomainStmt) (db : DomainDb) : Effect tag db db
  | looked (hostname : String) (reply : DnsReply) (db : DomainDb) :
      Effect .lookup db { db with answers := db.answers ++ [{ hostname, reply }] }
  | recorded (scope : Option Uuid) (id : Uuid) (hostname token : String) (outcome : OwnershipOutcome) (now : Millis)
      (db : DomainDb) (hcustom : Custom db.platforms id)
      (hanswer : ∃ a ∈ db.answers, a.hostname = hostname ∧ check token a.reply = outcome) :
      Effect (.record id hostname token outcome) db
        { db with
          domains := updateWhere (TenantDomain.named scope id) (TenantDomain.recordOutcome now outcome) db.domains }
  | refreshed (scope : Option Uuid) (id : Uuid) (token : String) (now : Millis) (db : DomainDb) :
      Effect (.refresh id) db
        { db with domains := updateWhere (TenantDomain.named scope id) (TenantDomain.refresh token now) db.domains }
  | released (cutoff : Millis) (db : DomainDb) :
      Effect .release db { db with domains := db.domains.filter fun d => !d.lapsed cutoff }
  | committed (ws : List (DomainWrite × List Uuid)) (db db' : DomainDb)
      (hws : Committed db.platforms (ws.map (·.1))) (hheld : ∀ e ∈ ws, e.2 ≠ []) (happly : applyAll domainWrites ws db = .ok db') :
      Effect (.commit (ws.map (·.1))) db db'
  | surrounded (now : Millis) (serviceable : List Uuid) (dns : List (String × DnsReply)) (db : DomainDb) :
      Effect .surroundings db { db with now, serviceable, dns }

def domainRely : Rely DomainStmt DomainDb where
  inv := DomainDb.Indexed
  later := Later
  cond _ _ := True
  effect := Effect

theorem platforms_release (cutoff : Millis) (db : DomainDb) :
    ({ db with domains := db.domains.filter fun d => !d.lapsed cutoff } : DomainDb).platforms = db.platforms := by
  apply filterMap_filter_of_none
  intro d _ hlapsed
  have hkind : d.kind = .custom := by
    have h : d.lapsed cutoff = true := by simpa using hlapsed
    simp only [TenantDomain.lapsed, decide_eq_true_eq] at h
    exact h.1
  simp [TenantDomain.platformKey, hkind]

theorem Committed.created {ws : List DomainWrite} {row : TenantDomain}
    (h : Committed platforms ws) (hw : .create row ∈ ws) :
    ∃ id tenantId hostname token now, row = claimedRow id tenantId hostname token now := by
  cases h with
  | claimed id tenantId hostname token now =>
    cases List.mem_singleton.mp hw
    exact ⟨id, tenantId, hostname, token, now, rfl⟩
  | nothing => cases hw
  | promoted | removed | attached | detached | orphaned => cases List.mem_singleton.mp hw
  | moved | replaced | reverted => rcases List.mem_pair.mp hw with h | h <;> cases h

theorem Committed.fixed {ws : List DomainWrite} (h : Committed platforms ws)
    (hw : w ∈ ws) : w.onPlatforms platforms = platforms := by
  have hdelete : ∀ tenantId id : Uuid, Custom platforms id →
      (DomainWrite.delete tenantId id).onPlatforms platforms = platforms := by
    intro tenantId id hcustom
    apply List.filter_eq_self.mpr
    intro key hkey
    simpa using fun heq : key = (tenantId, id) => hcustom key hkey (congrArg Prod.snd heq)
  cases h with
  | nothing => cases hw
  | claimed =>
    rw [List.mem_singleton.mp hw]
    exact List.append_nil platforms
  | promoted | attached | detached | orphaned =>
    rw [List.mem_singleton.mp hw]
    rfl
  | moved | reverted =>
    rcases List.mem_pair.mp hw with rfl | rfl
    · rfl
    · rfl
  | removed tenantId id hcustom =>
    rw [List.mem_singleton.mp hw]
    exact hdelete tenantId id hcustom
  | replaced tenantId id fallback hcustom =>
    rcases List.mem_pair.mp hw with rfl | rfl
    · exact hdelete tenantId id hcustom
    · rfl

theorem applyAll_later {ws : List (DomainWrite × List Uuid)} (hws : ∀ e ∈ ws, e.1.onPlatforms platforms = platforms) (hdb : db.Indexed) (hplatforms : db.platforms = platforms)
    (h : applyAll domainWrites ws db = .ok db') : db'.Indexed ∧ Later db db' := by
  have hkeeps : db'.Indexed ∧ db'.platforms = platforms ∧ db'.answers = db.answers := by
    refine applyAll_induct (Q := fun w _ => w.onPlatforms platforms = platforms)
      (K := fun v : DomainDb => v.Indexed ∧ v.platforms = platforms ∧ v.answers = db.answers) ?_ hws
      ⟨hdb, hplatforms, rfl⟩ h
    intro w rows v v' hw hv happly
    obtain ⟨hplatforms', hanswers⟩ := platforms_apply happly
    rw [hv.2.1, hw] at hplatforms'
    exact ⟨indexed_apply hv.1 happly, hplatforms', hanswers.trans hv.2.2⟩
  exact ⟨hkeeps.1, hkeeps.2.1.trans hplatforms.symm, fun a ha => hkeeps.2.2 ▸ ha⟩

theorem domainRely_sound : domainRely.Sound where
  refl := Later.refl
  trans := Later.trans
  keeps := by
    intro tag db db' hdb _ h
    cases h with
    | none => exact ⟨hdb, Later.refl db⟩
    | looked hostname =>
      exact ⟨⟨hdb.id, hdb.hostname, hdb.primary⟩, rfl, fun a ha => List.mem_append_left _ ha⟩
    | recorded scope id hostname token outcome now =>
      refine ⟨hdb.update (f := TenantDomain.recordOutcome now outcome) (fun _ => rfl) (fun _ => rfl)
        (fun _ _ _ => .inr rfl) rfl, ?_, fun _ ha => ha⟩
      exact DomainDb.platforms_update (f := TenantDomain.recordOutcome now outcome) (fun _ => rfl) rfl
    | refreshed scope id token now =>
      refine ⟨hdb.update (f := TenantDomain.refresh token now) (fun _ => rfl) (fun _ => rfl)
        (fun _ _ _ => .inr rfl) rfl, ?_, fun _ ha => ha⟩
      exact DomainDb.platforms_update (f := TenantDomain.refresh token now) (fun _ => rfl) rfl
    | released cutoff => exact ⟨hdb.filter rfl, platforms_release cutoff db, fun _ ha => ha⟩
    | committed ws _ _ hws _ happly =>
      exact applyAll_later (fun e he => hws.fixed (List.mem_map_of_mem he)) hdb rfl happly
    | surrounded => exact ⟨⟨hdb.id, hdb.hostname, hdb.primary⟩, rfl, fun _ ha => ha⟩

theorem Custom.of_row (hdb : db.Indexed) (hd : d ∈ db.domains) (hkind : d.kind = .custom) : Custom db.platforms d.id := by
  intro key hkey hid
  obtain ⟨d', hd', hkind', _, hid'⟩ := DomainDb.mem_platforms.mp (show (key.1, key.2) ∈ db.platforms from hkey)
  have hsame : d' = d := hdb.id.eq_of_entry hd' hd (congrArg some hid') (congrArg some hid.symm)
  rw [hsame, hkind] at hkind'
  cases hkind'

theorem steady_domainWrites : domainWrites.Steady domainRely where
  nothing := by
    intro w db db' h
    have hmap : ∀ (p : TenantDomain → Bool), (db.domains.filter p).map (·.id) = [] → db.domains.filter p = [] :=
      fun p hp => List.map_eq_nil_iff.mp hp
    cases w with
    | create =>
      cases (create_ok h).1
    | clearPrimary | setActivation =>
      simp only [domainWrites, DomainWrite.apply, Except.ok.injEq, Prod.mk.injEq] at h
      rw [← h.2, updateWhere_of_filter_eq_nil (hmap _ h.1)]
    | makePrimary =>
      obtain ⟨hrows, rfl, _⟩ := makePrimary_ok h
      rw [updateWhere_of_filter_eq_nil (hmap _ hrows.symm)]
    | delete tenantId id =>
      simp only [domainWrites, DomainWrite.apply, Except.ok.injEq, Prod.mk.injEq] at h
      have hkept : (db.domains.filter fun d => !d.named tenantId id) = db.domains := by
        apply List.filter_eq_self.mpr
        intro d hd
        simpa using List.filter_eq_nil_iff.mp (hmap _ h.1) d hd
      rw [← h.2, h.1, hkept, List.append_nil]
  valid hdb happly := indexed_apply hdb happly
  mono := by
    intro w db₁ db₂ rows db₁' db₂' _ _ hlater _ h₁ h₂
    obtain ⟨hplatforms₁, hanswers₁⟩ := platforms_apply h₁
    obtain ⟨hplatforms₂, hanswers₂⟩ := platforms_apply h₂
    constructor
    · rw [hplatforms₁, hplatforms₂, hlater.platforms]
    · rw [hanswers₁, hanswers₂]
      exact hlater.answers

abbrev Collects {α : Type} (db : DomainDb) (tx : DomainTx α) : Prop :=
  tx.Tracks domainWrites domainRely (fun _ ws _ => Committed db.platforms (ws.map (·.1))) [] db

theorem tenantTransaction_ensures (h : ∀ db', Later db db' → Collects db' tx) :
    Prog.Ensures domainRely (fun _ _ => True) db (tenantTransaction tenantId tx) := by
  refine Tx.Tracks.ensures_from domainRely_sound steady_domainWrites (fun _ db' _ => .none _ db')
    (fun _ db' _ => .none _ db') (fun _ _ => trivial)
    (P := fun _ ws _ => Committed db.platforms (ws.map (·.1))) ?_ (Later.refl db) ?_ (Tx.Holds.nil db)
  · intro _ ws v db₁ db₁' hws hheld hlater hdb₁ _ happly _
    rw [← hlater.platforms] at hws
    exact ⟨.committed ws db₁ db₁' hws hheld happly, trivial⟩
  · intro db₁ hdb₁ hinv₁
    simp only [Tx.bind_pure_left]
    split
    · exact (h db₁ hdb₁).mono fun _ ws _ hws => hdb₁.platforms ▸ hws
    · trivial

variable {υ : Type} {ws : List (DomainWrite × List Uuid)} {v₀ : DomainDb}

theorem executeOne_tracks (w : DomainWrite) : (executeOne w).Tracks domainWrites domainRely
      (fun _ ws' v => ws'.map (·.1) = ws.map (·.1) ++ [w] ∧ v.platforms = w.onPlatforms v₀.platforms) ws v₀ := by
  intro v rows v' hv _ happly
  simp only [Tx.bind_pure_left]
  split
  · trivial
  · refine ⟨?_, hv.platforms ▸ (platforms_apply happly).1⟩
    rw [List.map_append, List.map_cons, List.map_nil]

theorem platformFallback_some (h : platformFallback tenantId db = some row) : (tenantId, row.id) ∈ db.platforms := by
  have hrow := firstBy_mem h
  simp only [List.mem_filter, decide_eq_true_eq] at hrow
  exact DomainDb.mem_platforms.mpr ⟨row, hrow.1, hrow.2.2, hrow.2.1, rfl⟩

theorem platformFallback_none (h : platformFallback tenantId db = none) : ∀ key ∈ db.platforms, key.1 ≠ tenantId := by
  have hnone := List.filter_eq_nil_iff.mp (firstBy_eq_none.mp h)
  intro key hkey htenant
  obtain ⟨d, hd, hkind, htenant', _⟩ := DomainDb.mem_platforms.mp (show (key.1, key.2) ∈ db.platforms from hkey)
  exact hnone d hd (by simp [hkind, htenant', htenant])

theorem fallBack_tracks (hv₀ : v₀.platforms = pl) (hws : ws.map (·.1) = held)
    (hnone : (∀ key ∈ pl, key.1 ≠ tenantId) → Committed pl held)
    (hsome : ∀ fallback, (tenantId, fallback) ∈ pl → Committed pl (held ++ [.makePrimary tenantId fallback])) :
    (fallBack tenantId).Tracks domainWrites domainRely (fun _ ws _ => Committed pl (ws.map (·.1))) ws v₀ := by
  intro v hv _
  have hplatforms : v.platforms = pl := hv.platforms.trans hv₀
  cases hfallback : platformFallback tenantId v with
  | none =>
    show Committed pl (ws.map (·.1))
    rw [hws]
    exact hnone (hplatforms ▸ platformFallback_none hfallback)
  | some row =>
    simp only [Tx.bind_pure_left]
    refine Tx.Tracks.bind (executeOne_tracks _) fun _ ws' _ h => ?_
    show Committed pl (ws'.map (·.1))
    rw [h.1, hws]
    exact hsome row.id (hplatforms ▸ platformFallback_some hfallback)

theorem claim_collects (tenantId id : Uuid) (hostname token : String) (db : DomainDb) : Collects db (do
      assertUnderDomainCap tenantId
      let now ← .query () fun db => db.now
      executeOne (.create (claimedRow id tenantId hostname token now))
      pure (claimedRow id tenantId hostname token now) : DomainTx TenantDomain) := by
  have hcap : (assertUnderDomainCap tenantId).Tracks domainWrites domainRely (fun _ ws _ => ws = []) [] db := by
    intro v _ _
    simp only [Tx.bind_pure_left]
    split
    · trivial
    · rfl
  refine Tx.Tracks.bind hcap fun _ ws v hws => ?_
  subst hws
  intro v' _ _
  simp only [Tx.bind_pure_left]
  refine Tx.Tracks.bind (executeOne_tracks _) fun _ ws' _ h => ?_
  show Committed db.platforms (ws'.map (·.1))
  rw [h.1]
  exact .claimed id tenantId hostname token v'.now

theorem setPrimary_collects (tenantId id : Uuid) (db : DomainDb) : Collects db (do
      let _ ← .execute () (.clearPrimary tenantId)
      executeOne (.makePrimary tenantId id)
      let updated ← .query () fun db => db.domains.find? (TenantDomain.named tenantId id)
      match updated with
      | some updated => pure updated
      | none => .abort recordNotFound : DomainTx TenantDomain) := by
  intro v rows v' _ _ _
  simp only [Tx.bind_pure_left]
  have hread : ∀ ws v, Committed db.platforms (ws.map (·.1)) →
      Tx.Tracks domainWrites domainRely (fun _ ws _ => Committed db.platforms (ws.map (·.1))) ws v (do
        let updated ← Tx.query () fun db : DomainDb => db.domains.find? (TenantDomain.named tenantId id)
        match updated with
        | some updated => pure updated
        | none => .abort recordNotFound : DomainTx TenantDomain) := by
    intro ws v hws v' _ _
    simp only [Tx.bind_pure_left]
    split
    · exact hws
    · trivial
  refine Tx.Tracks.bind (executeOne_tracks _) fun _ ws' v'' h => hread ws' v'' ?_
  rw [h.1]
  split
  · exact .promoted tenantId id
  · exact .moved tenantId id

theorem remove_collects (hrow : Custom db.platforms row.id) : Collects db (do
      executeOne (.delete tenantId row.id)
      if row.isPrimary then do
        let _ ← fallBack tenantId
        pure ()
      else pure () : DomainTx Unit) := by
  refine Tx.Tracks.bind (executeOne_tracks _) fun _ ws v h => ?_
  have hplatforms : v.platforms = db.platforms :=
    h.2.trans (Committed.fixed (.removed tenantId row.id hrow) List.mem_cons_self)
  split
  · have hfall := fallBack_tracks hplatforms h.1 (fun _ => .removed tenantId row.id hrow)
      fun fallback hfallback => .replaced tenantId row.id fallback hrow hfallback
    exact Tx.Tracks.bind hfall fun _ _ _ h => h
  · show Committed db.platforms (ws.map (·.1))
    rw [h.1]
    exact .removed tenantId row.id hrow

theorem attachable_spec (h : attachable tenantId hostname db = some row) : row ∈ db.domains ∧ row.kind = .custom := by
  have hrow := (of_find? h).2
  exact ⟨List.mem_of_find?_eq_some h, hrow.2.2.1⟩

theorem setActivation_ensures (tenantId : Uuid) (hostname : String) (activatedAt : Option Millis) (db : DomainDb) :
    Prog.Ensures domainRely (fun _ _ => True) db (setActivation tenantId hostname activatedAt) := by
  refine tenantTransaction_ensures fun db₁ _ => ?_
  intro v hv hinv
  simp only [Tx.bind_pure_left]
  cases hrow : attachable tenantId hostname v with
  | none => trivial
  | some row =>
    obtain ⟨hmem, hkind⟩ := attachable_spec hrow
    have hcustom : Custom db₁.platforms row.id := hv.platforms ▸ Custom.of_row hinv hmem hkind
    dsimp only
    split
    · exact .nothing
    · refine Tx.Tracks.bind (executeOne_tracks _) fun _ ws v' h => ?_
      have hplatforms : v'.platforms = db₁.platforms := h.2.trans hv.platforms
      cases activatedAt with
      | some at_ =>
        show Committed db₁.platforms (ws.map (·.1))
        rw [h.1]
        exact .attached tenantId row.id at_
      | none =>
        cases hprimary : row.isPrimary with
        | false =>
          simp only [hprimary, Bool.and_false] at h
          show Committed db₁.platforms (ws.map (·.1))
          rw [h.1]
          exact .detached tenantId row.id
        | true =>
          simp only [hprimary, Option.isNone_none, Bool.and_true] at h
          have hfall := fallBack_tracks hplatforms h.1 (fun hnone => .orphaned tenantId row.id hnone)
            fun fallback hfallback => .reverted tenantId row.id fallback hcustom hfallback
          exact Tx.Tracks.bind hfall fun _ _ _ h => h

theorem systemWrite_guards {act : DomainDb → Except DomainError (α × DomainDb)}
    (h : ∀ db' a db'', Later db db' → act db' = .ok (a, db'') → Effect tag db' db'') :
    Prog.Guards domainRely db (systemWrite tag act) := by
  intro db' hdb' _ _
  refine ⟨?_, trivial⟩
  dsimp only
  split
  · rename_i a db'' hact
    exact h db' a db'' hdb' hact
  · exact .none tag db'

theorem tenantWrite_guards {act : DomainDb → Except DomainError (α × DomainDb)} (h : ∀ db' a db'', Later db db' → act db' = .ok (a, db'') → Effect tag db' db'') :
    Prog.Guards domainRely db (tenantWrite tag tenantId act) := by
  apply systemWrite_guards
  intro db' a db'' hdb' hact
  split at hact
  · exact h db' a db'' hdb' hact
  · cases hact

theorem updateById_ok (h : updateById scope id f db = .ok (row, db')) :
    db' = { db with domains := updateWhere (TenantDomain.named scope id) f db.domains } := by
  simp only [updateById] at h
  split at h
  · cases h
    rfl
  · cases h

theorem read_ensures {f : DomainDb → α} (h : ∀ db', Later db db' → db'.Indexed → Q (f db') db') : Prog.Ensures domainRely Q db (.read .read f) :=
  Prog.Ensures.stmt fun db' hdb' hinv _ => ⟨.none _ db', h db' hdb' hinv⟩

theorem clock_ensures (db : DomainDb) : Prog.Ensures domainRely (fun _ _ => True) db clock :=
  read_ensures fun _ _ _ => trivial

theorem lookup_ensures (hostname token : String) (db : DomainDb) :
    Prog.Ensures domainRely (fun outcome db' => ∃ a ∈ db'.answers, a.hostname = hostname ∧ check token a.reply = outcome) db
      (lookup hostname token) := by
  refine Prog.Ensures.stmt fun db' _ _ _ => ⟨.looked _ _ db', ?_⟩
  exact ⟨_, List.mem_append_right _ List.mem_cons_self, rfl, rfl⟩

def Found (answer : Except DomainError TenantDomain) (db : DomainDb) : Prop :=
  ∀ row, answer = .ok row → row.kind = .custom → Custom db.platforms row.id

theorem require_ensures (tenantId id : Uuid) (db : DomainDb) :
    Prog.Ensures domainRely Found db (require tenantId id) := by
  intro db' _ hinv _
  refine ⟨.none _ db', ?_⟩
  by_cases hserviceable : db'.serviceable.contains tenantId = true
  · cases hfound : db'.domains.find? (TenantDomain.named tenantId id) with
    | none =>
      simp only [hserviceable, if_true, hfound]
      intro row hrow
      cases hrow
    | some =>
      simp only [hserviceable, if_true, hfound]
      intro row' hrow hkind
      cases hrow
      exact Custom.of_row hinv (List.mem_of_find?_eq_some hfound) hkind
  · simp only [hserviceable]
    intro row hrow
    cases hrow

theorem recorded_guards {now : Millis} (hcustom : Custom db.platforms id)
    (hanswer : ∃ a ∈ db.answers, a.hostname = hostname ∧ check token a.reply = outcome) (hlater : Later db db')
    (h : updateById tenantId? id (TenantDomain.recordOutcome now outcome) db' = .ok (row, db'')) :
    Effect (.record id hostname token outcome) db' db'' := by
  rw [updateById_ok h]
  obtain ⟨a, ha, hproves⟩ := hanswer
  exact .recorded tenantId? id hostname token outcome now db' (hlater.platforms ▸ hcustom)
    ⟨a, hlater.answers a ha, hproves⟩

theorem verifyClaim_guards {token : String} (hcustom : Custom db.platforms row.id) : Prog.Guards domainRely db (verifyClaim tenantId row token) := by
  refine Prog.Ensures.guards (Prog.Ensures.bind domainRely_sound (clock_ensures db) (R := fun _ _ => True) ?_)
  intro now db₁ hdb₁ _
  split
  · trivial
  · refine Prog.Ensures.bind domainRely_sound (lookup_ensures row.hostname token db₁) ?_
    intro outcome db₂ hdb₂ hanswer
    refine Prog.Ensures.bind domainRely_sound (clock_ensures db₂) ?_
    intro now db₃ hdb₃ _
    refine Prog.Ensures.of_guards (tenantWrite_guards fun db₄ a db₅ hdb₄ hact => ?_) fun _ _ => trivial
    have hlater : Later db₂ db₄ := Later.trans hdb₃ hdb₄
    exact recorded_guards (by rw [hdb₂.platforms, hdb₁.platforms]; exact hcustom) hanswer hlater hact

theorem verify_guards (tenantId id : Uuid) (db : DomainDb) : Prog.Guards domainRely db (verify tenantId id) := by
  refine Prog.Ensures.guards (Prog.Ensures.bind domainRely_sound (require_ensures tenantId id db) (R := fun _ _ => True) ?_)
  intro found db₁ _ hfound
  cases found with
  | error => trivial
  | ok row =>
    dsimp only
    split
    · rename_i token hkind _ _
      exact Prog.Ensures.of_guards (verifyClaim_guards (hfound row rfl hkind)) fun _ _ => trivial
    · trivial

theorem claim_guards (config : DomainConfig) (tenantId id : Uuid) (hostname token : String) (db : DomainDb) :
    Prog.Guards domainRely db (claim config tenantId hostname id token) := by
  rw [claim]
  split
  · trivial
  · split
    · trivial
    · split
      · trivial
      · refine Prog.Ensures.guards (Prog.Ensures.bind domainRely_sound (R := fun _ _ => True)
          (read_ensures (Q := fun _ _ => True) fun _ _ _ => trivial) ?_)
        intro existing db₁ _ _
        split
        · trivial
        · rename_i row
          refine Prog.Ensures.bind domainRely_sound (clock_ensures db₁) ?_
          intro now db₂ _ _
          split
          · refine Prog.Ensures.of_guards (tenantWrite_guards fun db₃ a db₄ _ hact => ?_) fun _ _ => trivial
            rw [updateById_ok hact]
            exact .refreshed _ _ _ _ _
          · trivial
        · exact Prog.Ensures.bind domainRely_sound
            (tenantTransaction_ensures fun db₂ _ => claim_collects tenantId id hostname token db₂) fun _ _ _ _ => trivial

theorem setPrimary_guards (tenantId id : Uuid) (db : DomainDb) : Prog.Guards domainRely db (setPrimary tenantId id) := by
  refine Prog.Ensures.guards (Prog.Ensures.bind domainRely_sound (require_ensures tenantId id db) (R := fun _ _ => True) ?_)
  intro found db₁ _ _
  cases found with
  | error => trivial
  | ok row =>
    dsimp only
    split
    · trivial
    · split
      · trivial
      · split
        · trivial
        · exact tenantTransaction_ensures fun db₂ _ => setPrimary_collects tenantId row.id db₂

theorem remove_guards (tenantId id : Uuid) (db : DomainDb) : Prog.Guards domainRely db (remove tenantId id) := by
  refine Prog.Ensures.guards (Prog.Ensures.bind domainRely_sound (require_ensures tenantId id db) (R := fun _ _ => True) ?_)
  intro found db₁ _ hfound
  cases found with
  | error => trivial
  | ok row =>
    dsimp only
    split
    · trivial
    · rename_i hkind
      have hcustom : row.kind = .custom := by
        cases hrow : row.kind with
        | platform => exact absurd hrow hkind
        | custom => rfl
      refine tenantTransaction_ensures fun db₂ hdb₂ => remove_collects ?_
      rw [hdb₂.platforms]
      exact hfound row rfl hcustom

theorem recheckAll_ensures (now : Millis) : ∀ (rows : List TenantDomain) (checked verified : Nat) (db : DomainDb),
    (∀ row ∈ rows, Custom db.platforms row.id) →
      Prog.Ensures domainRely (fun _ _ => True) db (recheckAll now rows checked verified)
  | [], _, _, _, _ => trivial
  | row :: rows, checked, verified, db, hrows => by
    have hrest : ∀ db', Later db db' → ∀ row' ∈ rows, Custom db'.platforms row'.id := by
      intro db' hdb' row' hrow'
      rw [hdb'.platforms]
      exact hrows row' (List.mem_cons_of_mem _ hrow')
    rw [recheckAll]
    split
    · exact recheckAll_ensures now rows checked verified db (hrest db (Later.refl db))
    · rename_i token _
      refine Prog.Ensures.bind domainRely_sound (Q := fun _ _ => True) ?_ ?_
      · refine Prog.Ensures.bind domainRely_sound (lookup_ensures row.hostname token db) ?_
        intro outcome db₁ hdb₁ hanswer
        refine Prog.Ensures.bind domainRely_sound (Q := fun _ _ => True) ?_ fun _ _ _ _ => trivial
        refine Prog.Ensures.of_guards (systemWrite_guards fun db₂ a db₃ hdb₂ hact => ?_) fun _ _ => trivial
        exact recorded_guards (by rw [hdb₁.platforms]; exact hrows row List.mem_cons_self) hanswer hdb₂ hact
      · intro proved db₁ hdb₁ _
        cases proved with
        | error => trivial
        | ok => exact recheckAll_ensures now rows _ _ db₁ (hrest db₁ hdb₁)

theorem pendingClaims_custom (hdb : db.Indexed) (h : row ∈ pendingClaims now db) : Custom db.platforms row.id := by
  have hrow := (Keyset.sortBy_perm _ _).mem_iff.mp (List.mem_of_mem_take h)
  simp only [List.mem_filter, decide_eq_true_eq] at hrow
  exact Custom.of_row hdb hrow.1 hrow.2.1

theorem sweep_guards (config : DomainConfig) (db : DomainDb) : Prog.Guards domainRely db (sweep config) := by
  refine Prog.Ensures.guards (Prog.Ensures.bind domainRely_sound (clock_ensures db) (R := fun _ _ => True) ?_)
  intro now db₁ _ _
  refine Prog.Ensures.bind domainRely_sound (Q := fun _ _ => True) ?_ ?_
  · exact Prog.Ensures.stmt fun db' _ _ _ => ⟨.released _ db', trivial⟩
  · intro expired db₂ _ _
    refine Prog.Ensures.bind domainRely_sound (Q := fun _ _ => True) ?_ fun _ _ _ _ => trivial
    refine Prog.Ensures.bind domainRely_sound
      (read_ensures (Q := fun pending db' => ∀ row ∈ pending, Custom db'.platforms row.id)
        fun db' _ hinv row hrow => pendingClaims_custom hinv hrow) ?_
    intro pending db₃ _ hpending
    exact recheckAll_ensures now pending 0 0 db₃ hpending

theorem domainProgram_guards (config : DomainConfig) (c : DomainCall) (db : DomainDb) :
    Prog.Guards domainRely db (domainProgram config c) := by
  cases c with
  | claim tenantId hostname id token =>
    exact (claim_guards config tenantId id hostname token db).bind domainRely_sound fun _ _ _ => trivial
  | verify tenantId id => exact (verify_guards tenantId id db).bind domainRely_sound fun _ _ _ => trivial
  | setPrimary tenantId id => exact (setPrimary_guards tenantId id db).bind domainRely_sound fun _ _ _ => trivial
  | remove tenantId id => exact (remove_guards tenantId id db).bind domainRely_sound fun _ _ _ => trivial
  | sweep => exact (sweep_guards config db).bind domainRely_sound fun _ _ _ => trivial
  | activate tenantId hostname =>
    refine Prog.Guards.bind domainRely_sound ?_ fun _ _ _ => trivial
    refine Prog.Ensures.guards (Prog.Ensures.bind domainRely_sound (clock_ensures db) ?_ (R := fun _ _ => True))
    exact fun now db₁ _ _ => setActivation_ensures tenantId hostname (some now) db₁
  | deactivate tenantId hostname =>
    exact (setActivation_ensures tenantId hostname none db).guards.bind domainRely_sound fun _ _ _ => trivial
  | publish | advance | operate => exact fun db' _ _ _ => ⟨.surrounded _ _ _ db', trivial⟩

end WhatsappCrm.Domains
