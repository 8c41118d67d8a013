/-
Purpose: The round robin of the sweep.
-/
import Mathlib.Data.Finset.Card
import Mathlib.Data.Int.ConditionallyCompleteOrder
import Mathlib.Order.WithBot
import WhatsappCrm.Domains.Verification

namespace WhatsappCrm.Domains

open Interleaving Table

def TenantDomain.pending (d : TenantDomain) : Bool :=
  d.kind = .custom ∧ d.verifiedAt = none ∧ d.verificationRequestedAt ≠ none

/-- The wait after so many attempts; past the end of the table it is the last one. -/
def backoffMs (attempts : Nat) : Millis := recheckBackoffMs.getD (min attempts (recheckBackoffMs.length - 1)) 0

theorem backoffMs_pos (h : attempts ≠ 0) : 0 < backoffMs attempts := by
  have hattempts : attempts = 1 ∨ attempts = 2 ∨ attempts = 3 ∨ attempts = 4 ∨ 5 ≤ attempts := by omega
  rcases hattempts with rfl | rfl | rfl | rfl | hlast
  · decide
  · decide
  · decide
  · decide
  · rw [backoffMs, show min attempts (recheckBackoffMs.length - 1) = 5 from Nat.min_eq_right hlast]
    decide

def Rested (now : Millis) (d : TenantDomain) : Prop :=
  d.verificationLastCheckedAt = none ∨
    ∃ t, d.verificationLastCheckedAt = some t ∧ t + backoffMs d.verificationAttempts ≤ now

/-- The clauses of the table, one for each count of attempts and one for all counts from the last on, are one wait. -/
theorem isDue_iff (now : Millis) (d : TenantDomain) : isDue now d = true ↔ Rested now d := by
  unfold isDue Rested
  cases d.verificationLastCheckedAt with
  | none => simp
  | some t =>
    have hshift : ∀ wait : Millis, t ≤ now - wait ↔ t + wait ≤ now := fun wait => Int.add_le_iff_le_sub.symm
    have hattempts : d.verificationAttempts = 0 ∨ d.verificationAttempts = 1 ∨ d.verificationAttempts = 2 ∨
        d.verificationAttempts = 3 ∨ d.verificationAttempts = 4 ∨ 5 ≤ d.verificationAttempts := by omega
    rcases hattempts with h | h | h | h | h | h
    · simp [recheckBackoffMs, backoffMs, h]
    · simp [recheckBackoffMs, backoffMs, h, hshift]
    · simp [recheckBackoffMs, backoffMs, h, hshift]
    · simp [recheckBackoffMs, backoffMs, h, hshift]
    · simp [recheckBackoffMs, backoffMs, h, hshift]
    · have hover : ∀ n < 5, d.verificationAttempts ≠ n := fun n hn => by omega
      simp [recheckBackoffMs, backoffMs, hshift, h, hover]

def dueClaims (now : Millis) (db : DomainDb) : List TenantDomain :=
  db.domains.filter fun d =>
    d.kind = .custom ∧ d.verifiedAt = none ∧ d.verificationRequestedAt ≠ none ∧ isDue now d

variable {now : Millis} {d : TenantDomain}

theorem mem_dueClaims {db : DomainDb} : d ∈ dueClaims now db ↔ d ∈ db.domains ∧ d.pending = true ∧ Rested now d := by
  rw [dueClaims, List.mem_filter, decide_eq_true_eq, TenantDomain.pending, decide_eq_true_eq, ← isDue_iff]
  tauto

/-- When a claim was last checked; never comes before every instant. -/
def TenantDomain.lastCheck (d : TenantDomain) : WithBot Millis := d.verificationLastCheckedAt

theorem checkedFirst_sorts : Keyset.SortsBy checkedFirst TenantDomain.lastCheck := by
  intro a b
  unfold checkedFirst TenantDomain.lastCheck
  cases a.verificationLastCheckedAt with
  | none => exact iff_of_true rfl bot_le
  | some s =>
    cases b.verificationLastCheckedAt with
    | none => exact iff_of_false nofun (WithBot.bot_lt_coe s).not_ge
    | some => exact decide_eq_true_iff.trans WithBot.coe_le_coe.symm

/-- `tenant_domains_custom_needs_token`; and a check that is recorded is counted. -/
structure RowKept (d : TenantDomain) : Prop where
  token : d.kind = .custom → d.verificationToken.isSome
  counted : d.verificationAttempts = 0 → d.verificationLastCheckedAt = none

structure Stored (db : DomainDb) : Prop where
  indexed : db.Indexed
  rows : ∀ d ∈ db.domains, RowKept d

theorem RowKept.of_update {db : DomainDb} (h : ∀ d ∈ db.domains, RowKept d) (hf : ∀ d, RowKept d → RowKept (f d)) :
    ∀ d ∈ updateWhere p f db.domains, RowKept d := by
  intro d' hd'
  obtain ⟨d, hd, ⟨_, rfl⟩ | ⟨_, rfl⟩⟩ := mem_updateWhere hd'
  · exact hf d (h d hd)
  · exact h d' hd

theorem RowKept.recordOutcome (h : RowKept d) (now : Millis) (outcome : OwnershipOutcome) :
    RowKept (d.recordOutcome now outcome) where
  token := h.token
  counted := nofun

theorem apply_rowsKept {w : DomainWrite} {db db' : DomainDb} (hdb : ∀ d ∈ db.domains, RowKept d)
    (hw : ∀ row, w = .create row → RowKept row) (h : w.apply db = .ok (rows, db')) : ∀ d ∈ db'.domains, RowKept d := by
  cases w with
  | create row =>
    obtain ⟨rfl, rfl, _⟩ := create_ok h
    intro d hd
    rcases mem_snoc.mp hd with hold | rfl
    · exact hdb d hold
    · exact hw d rfl
  | clearPrimary | setActivation =>
    cases h
    exact RowKept.of_update hdb fun d hd => ⟨hd.token, hd.counted⟩
  | makePrimary =>
    obtain ⟨rfl, rfl, _⟩ := makePrimary_ok h
    exact RowKept.of_update hdb fun d hd => ⟨hd.token, hd.counted⟩
  | delete =>
    cases h
    exact fun d hd => hdb d (List.mem_filter.mp hd).1

theorem Committed.createsKept (h : Committed platforms ws) (hw : w ∈ ws) (hrow : w = .create row) : RowKept row := by
  subst hrow
  obtain ⟨_, _, _, _, _, rfl⟩ := h.created hw
  exact ⟨fun _ => rfl, fun _ => rfl⟩

theorem Effect.rowsKept {tag : DomainStmt} {db db' : DomainDb} (h : Effect tag db db')
    (hdb : ∀ d ∈ db.domains, RowKept d) : ∀ d ∈ db'.domains, RowKept d := by
  cases h with
  | none | looked | surrounded => exact hdb
  | recorded scope id hostname token outcome now => exact RowKept.of_update hdb fun d hd => hd.recordOutcome now outcome
  | refreshed => exact RowKept.of_update hdb fun d hd => ⟨fun _ => rfl, fun _ => rfl⟩
  | released => exact fun d hd => hdb d (List.mem_filter.mp hd).1
  | committed ws _ _ hws _ happly =>
    exact applyAll_induct (Q := fun w _ => ∀ row, w = .create row → RowKept row)
      (K := fun db => ∀ d ∈ db.domains, RowKept d) (fun _ _ _ _ hw hrows happly => apply_rowsKept hrows hw happly)
      (fun _ he row hrow => hws.createsKept (List.mem_map_of_mem he) hrow) hdb happly

/-- In every run the indexes hold, a custom domain has its token, and a row whose checks are not counted was not checked. -/
theorem stored_of_run {config : DomainConfig} {db : DomainDb} (hdb : Stored db)
    (hs : Reachable (domainProgram config) anyStep (.idle db) s) : Stored s.db := by
  have hcond : ∀ (s : DomainSys) (c : DomainCall) (tag : DomainStmt), anyStep s c tag → domainRely.cond tag s.db :=
    fun _ _ _ _ => trivial
  have hguarded : Sys.Guarded domainRely (Sys.idle db : DomainSys) := Sys.guarded_idle hdb.indexed
  have hindexed := (Reachable.guards domainRely_sound (domainProgram_guards config) hcond hguarded hs).inv
  have hrows := Reachable.effect domainRely_sound (domainProgram_guards config) hcond
    (K := fun db => ∀ d ∈ db.domains, RowKept d) (fun _ _ _ _ _ heffect hrows => heffect.rowsKept hrows) hguarded hdb.rows hs
  exact ⟨hindexed, hrows⟩

/-- A claim is verified while a sweep still waits for its answer. -/
theorem stored_of_run_undone : ∃ s : DomainSys, s.db.domains.map (·.verifiedAt) = [some 60000] ∧ Stored s.db := by
  have hstored : Stored (claimedDb []) := by
    refine ⟨by decide +kernel, ?_⟩
    intro d hd
    cases List.mem_singleton.mp hd
    exact ⟨fun _ => rfl, fun _ => rfl⟩
  have hrun : (run (domainProgram (domainConfig 1000000)) (fun _ _ _ => true) undoneMoves (.idle (claimedDb []))).map
      (·.db.domains.map (·.verifiedAt)) = some [some 60000] := by
    decide +kernel
  obtain ⟨s, hreach, hverified⟩ := ends_of_run_any hrun
  exact ⟨s, hverified, stored_of_run hstored hreach⟩

theorem Rested.before (hd : RowKept d) (h : Rested now d) : d.lastCheck < (now : WithBot Millis) := by
  rcases h with hnever | ⟨t, hlast, hwaited⟩
  · rw [TenantDomain.lastCheck, hnever]
    exact WithBot.bot_lt_coe now
  · rw [TenantDomain.lastCheck, hlast]
    apply WithBot.coe_lt_coe.mpr
    have hchecked : d.verificationAttempts ≠ 0 := by
      intro hzero
      rw [hd.counted hzero] at hlast
      cases hlast
    have hwaits := backoffMs_pos hchecked
    exact Int.lt_of_lt_of_le (Int.lt_add_of_pos_right t hwaits) hwaited

/-- The rows of a table, each as the sweep at `now` leaves it: checked if its id is one of these. -/
structure CheckedBy (now : Millis) (ids : List Uuid) (f : TenantDomain → TenantDomain) : Prop where
  checked : ∀ d, d.id ∈ ids → ∃ outcome, f d = d.recordOutcome now outcome
  left : ∀ d, d.id ∉ ids → f d = d

theorem recheck_alone (now : Millis) (row : TenantDomain) (token : String) {db : DomainDb}
    (hrow : ∃ d ∈ db.domains, d.id = row.id) : ∃ outcome db',
      (recheck now row token).alone db = (.ok (decide (outcome = .proved)), db') ∧ db'.now = db.now ∧
        db'.domains = updateWhere (TenantDomain.named none row.id) (TenantDomain.recordOutcome now outcome) db.domains := by
  obtain ⟨d, hd, hid⟩ := hrow
  have hnamed : TenantDomain.named none row.id d = true := by simp [TenantDomain.named, hid]
  cases hfound : db.domains.find? (TenantDomain.named none row.id) with
  | none => exact absurd hnamed (List.find?_eq_none.mp hfound d hd)
  | some found =>
    let reply := (db.dns.lookup (domainChallengeRecordName row.hostname)).getD (.failed "ENOTFOUND")
    let db' : DomainDb :=
      { db with
        answers := db.answers ++ [{ hostname := row.hostname, reply }]
        domains := updateWhere (TenantDomain.named none row.id) (TenantDomain.recordOutcome now (check token reply))
          db.domains }
    have hrecord : (systemWrite (.record row.id row.hostname token (check token reply))
        (updateById none row.id (TenantDomain.recordOutcome now (check token reply)))).alone
          { db with answers := db.answers ++ [{ hostname := row.hostname, reply }] } =
        (.ok (found.recordOutcome now (check token reply)), db') := by
      simp only [systemWrite, updateById, Prog.stmt, Prog.alone, hfound]
      rfl
    refine ⟨check token reply, db', ?_, rfl, rfl⟩
    rw [recheck, Prog.bind_def, Prog.alone_bind, show (lookup row.hostname token).alone db =
      (check token reply, { db with answers := db.answers ++ [{ hostname := row.hostname, reply }] }) from rfl]
    rw [Prog.bind_def, Prog.alone_bind, hrecord]
    rfl

/-- A loop over rows with distinct ids checks each of them, and leaves the others. -/
theorem recheckAll_alone (now : Millis) (rows : List TenantDomain) : ∀ (checked verified : Nat) (db : DomainDb),
    (rows.map (·.id)).Nodup → (∀ row ∈ rows, row.verificationToken.isSome) →
    (∀ row ∈ rows, ∃ d ∈ db.domains, d.id = row.id) →
    ∃ counts db' f, (recheckAll now rows checked verified).alone db = (.ok counts, db') ∧
      db'.now = db.now ∧ db'.domains = db.domains.map f ∧ CheckedBy now (rows.map (·.id)) f := by
  induction rows with
  | nil =>
    intro checked verified db _ _ _
    exact ⟨_, db, id, rfl, rfl, (List.map_id _).symm, fun _ hd => absurd hd List.not_mem_nil, fun _ _ => rfl⟩
  | cons row rows ih =>
    intro checked verified db hnodup htokens hrows
    rw [List.map_cons, List.nodup_cons] at hnodup
    obtain ⟨token, htoken⟩ := Option.isSome_iff_exists.mp (htokens row List.mem_cons_self)
    obtain ⟨outcome, db₁, halone, hnow, hdomains⟩ := recheck_alone now row token (hrows row List.mem_cons_self)
    have hrest : ∀ row' ∈ rows, ∃ d ∈ db₁.domains, d.id = row'.id := by
      intro row' hrow'
      obtain ⟨d, hd, hid⟩ := hrows row' (List.mem_cons_of_mem _ hrow')
      rw [hdomains]
      refine ⟨_, mem_updateWhere_of_mem hd, ?_⟩
      rw [← hid]
      split <;> rfl
    obtain ⟨counts, db₂, f, hloop, hnow', hdomains', hf⟩ := ih (checked + 1)
      (if decide (outcome = .proved) then verified + 1 else verified) db₁ hnodup.2
      (fun row' hrow' => htokens row' (List.mem_cons_of_mem _ hrow')) hrest
    let g : TenantDomain → TenantDomain := fun d =>
      if TenantDomain.named none row.id d then d.recordOutcome now outcome else d
    refine ⟨counts, db₂, f ∘ g, ?_, hnow'.trans hnow, ?_, ?_⟩
    · rw [recheckAll, htoken]
      dsimp only
      rw [Prog.bind_def, Prog.alone_bind, halone]
      exact hloop
    · rw [hdomains', hdomains, updateWhere, List.map_map]
    · have hnamed : ∀ d : TenantDomain, TenantDomain.named none row.id d = true ↔ d.id = row.id := by
        intro d
        simp [TenantDomain.named]
      constructor
      · intro d hd
        by_cases hid : d.id = row.id
        · -- a row checked here is none of the rest
          refine ⟨outcome, ?_⟩
          have hg : g d = d.recordOutcome now outcome := if_pos ((hnamed d).mpr hid)
          have hnotin : (g d).id ∉ rows.map (·.id) := by
            rw [hg, show (d.recordOutcome now outcome).id = row.id from hid]
            exact hnodup.1
          rw [Function.comp_apply, hf.left _ hnotin, hg]
        · have hg : g d = d := if_neg fun h => hid ((hnamed d).mp h)
          rw [Function.comp_apply, hg]
          exact hf.checked d ((List.mem_cons.mp hd).resolve_left hid)
      · intro d hd
        rw [List.map_cons, List.mem_cons, not_or] at hd
        have hg : g d = d := if_neg fun h => hd.1 ((hnamed d).mp h)
        rw [Function.comp_apply, hg]
        exact hf.left d hd.2

def released (config : DomainConfig) (db : DomainDb) : DomainDb :=
  { db with domains := db.domains.filter fun d => !d.lapsed (db.now - config.verificationTtlMs) }

def selected (config : DomainConfig) (db : DomainDb) : List TenantDomain := pendingClaims db.now (released config db)

theorem mem_due_of_selected {db : DomainDb} (h : d ∈ selected config db) :
    d ∈ dueClaims db.now (released config db) :=
  (Keyset.sortBy_perm _ _).mem_iff.mp (List.mem_of_mem_take h)

theorem mem_selected {db : DomainDb} (h : d ∈ selected config db) : d ∈ db.domains ∧ d.pending = true := by
  obtain ⟨hmem, hpending, _⟩ := mem_dueClaims.mp (mem_due_of_selected h)
  exact ⟨(List.mem_filter.mp hmem).1, hpending⟩

theorem selected_nodup {db : DomainDb} (hdb : Stored db) : ((selected config db).map TenantDomain.id).Nodup := by
  have hids : (db.domains.map TenantDomain.id).Nodup := hdb.indexed.id.nodup_map fun _ => rfl
  have hdue : ((dueClaims db.now (released config db)).map TenantDomain.id).Nodup :=
    ((List.filter_sublist.trans List.filter_sublist).map TenantDomain.id).nodup hids
  have hsorted := ((Keyset.sortBy_perm checkedFirst (dueClaims db.now (released config db))).map TenantDomain.id).nodup_iff.mpr
    hdue
  exact ((List.take_sublist _ _).map TenantDomain.id).nodup hsorted

theorem sweep_alone (config : DomainConfig) {db : DomainDb} (hdb : Stored db) :
    ∃ report db' f, (sweep config).alone db = (.ok report, db') ∧ db'.now = db.now ∧
      db'.domains = (released config db).domains.map f ∧ CheckedBy db.now ((selected config db).map TenantDomain.id) f := by
  have htokens : ∀ row ∈ selected config db, row.verificationToken.isSome := by
    intro row hrow
    obtain ⟨hmem, hpending⟩ := mem_selected hrow
    simp only [TenantDomain.pending, decide_eq_true_eq] at hpending
    exact (hdb.rows row hmem).token hpending.1
  have hrows : ∀ row ∈ selected config db, ∃ d ∈ (released config db).domains, d.id = row.id :=
    fun row hrow => ⟨row, (mem_dueClaims.mp (mem_due_of_selected hrow)).1, rfl⟩
  obtain ⟨counts, db', f, hloop, hnow, hdomains, hf⟩ := recheckAll_alone db.now (selected config db) 0 0
    (released config db) (selected_nodup hdb) htokens hrows
  refine ⟨{ checked := counts.1, verified := counts.2, expired := db.domains.countP (TenantDomain.lapsed
    (db.now - config.verificationTtlMs)) }, db', f, ?_, hnow, hdomains, hf⟩
  have hrecheck : (recheckPendingClaims db.now).alone (released config db) = (.ok counts, db') := by
    rw [recheckPendingClaims, Prog.bind_def, Prog.alone_bind]
    exact hloop
  rw [sweep, Prog.bind_def, Prog.alone_bind, show clock.alone db = (db.now, db) from rfl, Prog.bind_def, Prog.alone_bind,
    show (releaseLapsedClaims config db.now).alone db = (db.domains.countP (TenantDomain.lapsed
      (db.now - config.verificationTtlMs)), released config db) from rfl]
  rw [Prog.bind_def, Prog.alone_bind, hrecheck]
  rfl

/-- Between two sweeps time passes. The claim is left alone; another may be removed, verified or checked, and none is
    made. -/
structure Meanwhile (claim : TenantDomain) (db db' : DomainDb) : Prop where
  now : db.now ≤ db'.now
  kept : claim ∈ db.domains → claim ∈ db'.domains
  others : ∀ d' ∈ db'.domains, d'.pending = true → d'.id ≠ claim.id → ∃ d ∈ db.domains, d.id = d'.id ∧ d.pending = true ∧
    (d'.lastCheck = d.lastCheck ∨ (db.now : WithBot Millis) ≤ d'.lastCheck)

theorem Meanwhile.refl (claim : TenantDomain) (db : DomainDb) : Meanwhile claim db db :=
  ⟨le_rfl, id, fun d' hd' hp _ => ⟨d', hd', rfl, hp, .inl rfl⟩⟩

def ahead (claim : TenantDomain) (db : DomainDb) : Finset Uuid :=
  ((db.domains.filter fun d => d.pending && d.id ≠ claim.id && checkedFirst d claim).map TenantDomain.id).toFinset

theorem mem_ahead {claim : TenantDomain} {db : DomainDb} {id : Uuid} :
    id ∈ ahead claim db ↔ ∃ d ∈ db.domains, d.pending = true ∧ d.id ≠ claim.id ∧ d.lastCheck ≤ claim.lastCheck ∧ d.id = id := by
  simp only [ahead, List.mem_toFinset, List.mem_map, List.mem_filter, Bool.and_eq_true, decide_eq_true_eq,
    checkedFirst_sorts _ claim, and_assoc]

def DomainDb.pendingCount (db : DomainDb) : Nat := db.domains.countP TenantDomain.pending

theorem card_ahead_lt {claim : TenantDomain} {db : DomainDb} (hclaim : claim ∈ db.domains)
    (hpending : claim.pending = true) : (ahead claim db).card < db.pendingCount := by
  have hnot : claim.id ∉ ahead claim db := by
    rw [mem_ahead]
    rintro ⟨d, _, _, hne, _, hid⟩
    exact hne hid
  have hsubset : insert claim.id (ahead claim db) ⊆ ((db.domains.filter TenantDomain.pending).map TenantDomain.id).toFinset := by
    intro id hid
    rw [List.mem_toFinset, List.mem_map]
    rcases Finset.mem_insert.mp hid with rfl | hid
    · exact ⟨claim, List.mem_filter.mpr ⟨hclaim, hpending⟩, rfl⟩
    · obtain ⟨d, hd, hp, _, _, rfl⟩ := mem_ahead.mp hid
      exact ⟨d, List.mem_filter.mpr ⟨hd, hp⟩, rfl⟩
  have hcard := (Finset.card_le_card hsubset).trans (List.toFinset_card_le _)
  rw [Finset.card_insert_of_notMem hnot, List.length_map, ← List.countP_eq_length_filter] at hcard
  exact hcard

section Round

variable {claim : TenantDomain} {db db' : DomainDb}

theorem passed_over (hdb : Stored db) (hclaim : claim ∈ (released config db).domains) (hpending : claim.pending = true)
    (hrested : Rested db.now claim) (hpassed : claim ∉ selected config db) :
    (selected config db).length = sweepBatchSize ∧
      ∀ d ∈ selected config db, d.id ≠ claim.id ∧ d.lastCheck ≤ claim.lastCheck := by
  have hdue := mem_dueClaims.mpr ⟨hclaim, hpending, hrested⟩
  obtain ⟨hlength, hbefore⟩ := Keyset.take_before checkedFirst_sorts hdue hpassed
  refine ⟨hlength, fun d hd => ⟨?_, hbefore d hd⟩⟩
  intro hid
  have hsame := hdb.indexed.id.eq_of_entry (mem_selected hd).1 (List.mem_filter.mp hclaim).1 (k := claim.id)
    (congrArg some hid) rfl
  exact hpassed (hsame ▸ hd)

theorem ahead_after (hdb : Stored db) (hclaim : claim ∈ (released config db).domains) (hpending : claim.pending = true)
    (hrested : Rested db.now claim) (hbefore : claim.lastCheck < (db.now : WithBot Millis))
    (hpassed : claim ∉ selected config db) (hmeanwhile : Meanwhile claim ((sweep config).alone db).2 db') :
    db.now ≤ db'.now ∧ claim ∈ db'.domains ∧ (ahead claim db').card + sweepBatchSize ≤ (ahead claim db).card := by
  obtain ⟨hlength, hbatch⟩ := passed_over hdb hclaim hpending hrested hpassed
  obtain ⟨report, db₁, f, halone, hnow, hdomains, hf⟩ := sweep_alone config hdb
  rw [halone] at hmeanwhile
  let batch : Finset Uuid := ((selected config db).map TenantDomain.id).toFinset
  have hbatchCard : batch.card = sweepBatchSize := by
    rw [List.toFinset_card_of_nodup (selected_nodup hdb), List.length_map, hlength]
  have hunchecked : claim.id ∉ (selected config db).map TenantDomain.id := by
    intro hmem
    obtain ⟨d, hd, hid⟩ := List.mem_map.mp hmem
    exact (hbatch d hd).1 hid
  refine ⟨hnow ▸ hmeanwhile.now, ?_, ?_⟩
  · apply hmeanwhile.kept
    rw [hdomains]
    exact List.mem_map.mpr ⟨claim, hclaim, hf.left claim hunchecked⟩
  · -- who is still before the claim was before it, and was not checked
    have hstill : ∀ id ∈ ahead claim db', id ∈ ahead claim db ∧ id ∉ batch := by
      intro id hid
      obtain ⟨d', hd', hp', hne, hle, rfl⟩ := mem_ahead.mp hid
      obtain ⟨d, hd, hid, hp, hlast⟩ := hmeanwhile.others d' hd' hp' hne
      have hsame : d'.lastCheck = d.lastCheck := by
        rcases hlast with hsame | hlater
        · exact hsame
        · rw [hnow] at hlater
          exact absurd (hlater.trans hle) hbefore.not_ge
      rw [hdomains] at hd
      obtain ⟨d₀, hd₀, rfl⟩ := List.mem_map.mp hd
      have hout : d₀.id ∉ (selected config db).map TenantDomain.id := by
        intro hin
        obtain ⟨outcome, hchecked⟩ := hf.checked d₀ hin
        rw [hsame, hchecked] at hle
        exact absurd hle hbefore.not_ge
      rw [hf.left d₀ hout] at hid hp hsame
      rw [← hid]
      constructor
      · rw [mem_ahead]
        exact ⟨d₀, (List.mem_filter.mp hd₀).1, hp, hid ▸ hne, hsame ▸ hle, rfl⟩
      · rw [List.mem_toFinset]
        exact hout
    have hdisjoint : Disjoint (ahead claim db') batch :=
      Finset.disjoint_left.mpr fun id hid => (hstill id hid).2
    have hsubset : ahead claim db' ∪ batch ⊆ ahead claim db := by
      intro id hid
      rcases Finset.mem_union.mp hid with hid | hid
      · exact (hstill id hid).1
      · rw [List.mem_toFinset] at hid
        obtain ⟨d, hd, rfl⟩ := List.mem_map.mp hid
        obtain ⟨hmem, hp⟩ := mem_selected hd
        exact mem_ahead.mpr ⟨d, hmem, hp, (hbatch d hd).1, (hbatch d hd).2, rfl⟩
    calc (ahead claim db').card + sweepBatchSize = (ahead claim db' ∪ batch).card := by
          rw [Finset.card_union_of_disjoint hdisjoint, hbatchCard]
      _ ≤ (ahead claim db).card := Finset.card_le_card hsubset

end Round

theorem Rested.later (h : Rested now d) (hle : now ≤ now') : Rested now' d := by
  rcases h with hnever | ⟨t, hlast, hwaited⟩
  · exact .inl hnever
  · exact .inr ⟨t, hlast, hwaited.trans hle⟩

/-- The sweeps in which as many claims as there are can be checked: `n / 100`, rounded up. -/
def batches (db : DomainDb) : Nat := (db.pendingCount + (sweepBatchSize - 1)) / sweepBatchSize

theorem pendingCount_le_batches (db : DomainDb) : db.pendingCount ≤ batches db * sweepBatchSize := by
  unfold batches sweepBatchSize
  omega

/-- A sequence of sweeps over a fixed set of claims: the first begins on the tables `tables 0`, and so on; the claim is
    not released. -/
structure Sweeps (config : DomainConfig) (claim : TenantDomain) (tables : Nat → DomainDb) (count : Nat) : Prop where
  stored : ∀ i < count, Stored (tables i)
  meanwhile : ∀ i, i + 1 < count → Meanwhile claim ((sweep config).alone (tables i)).2 (tables (i + 1))
  unreleased : ∀ i < count, claim.lapsed ((tables i).now - config.verificationTtlMs) = false

theorem Sweeps.passed {claim : TenantDomain}
    (h : Sweeps config claim tables count) (hclaim : claim ∈ (tables 0).domains) (hpending : claim.pending = true)
    (hrested : Rested (tables 0).now claim) (hpassed : ∀ i < count, claim ∉ selected config (tables i)) (i : Nat)
    (hi : i < count) :
    ∀ db', Meanwhile claim ((sweep config).alone (tables i)).2 db' → (tables 0).now ≤ db'.now ∧ claim ∈ db'.domains ∧
      (ahead claim db').card + (i + 1) * sweepBatchSize ≤ (ahead claim (tables 0)).card := by
  have hcount : 0 < count := Nat.lt_of_le_of_lt (Nat.zero_le i) hi
  have hbefore := hrested.before ((h.stored 0 hcount).rows claim hclaim)
  have hround : ∀ j < count, (tables 0).now ≤ (tables j).now → claim ∈ (tables j).domains →
      ∀ db', Meanwhile claim ((sweep config).alone (tables j)).2 db' → (tables 0).now ≤ db'.now ∧ claim ∈ db'.domains ∧
        (ahead claim db').card + sweepBatchSize ≤ (ahead claim (tables j)).card := by
    intro j hj hnow hmem db' hmeanwhile
    have hkept : claim ∈ (released config (tables j)).domains := by
      rw [released, List.mem_filter, h.unreleased j hj]
      exact ⟨hmem, rfl⟩
    obtain ⟨hnow', hmem', hcard⟩ := ahead_after (h.stored j hj) hkept hpending (hrested.later hnow)
      (hbefore.trans_le (WithBot.coe_le_coe.mpr hnow)) (hpassed j hj) hmeanwhile
    exact ⟨hnow.trans hnow', hmem', hcard⟩
  induction i with
  | zero =>
    intro db' hmeanwhile
    obtain ⟨hnow, hmem, hcard⟩ := hround 0 hi le_rfl hclaim db' hmeanwhile
    exact ⟨hnow, hmem, by omega⟩
  | succ i ih =>
    intro db' hmeanwhile
    obtain ⟨hnow, hmem, hcard⟩ := ih (Nat.lt_of_succ_lt hi) _ (h.meanwhile i hi)
    obtain ⟨hnow', hmem', hcard'⟩ := hround (i + 1) hi hnow hmem db' hmeanwhile
    refine ⟨hnow', hmem', ?_⟩
    rw [Nat.succ_mul]
    omega

end WhatsappCrm.Domains
