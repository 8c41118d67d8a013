/-
Purpose: Tables as lists of rows, the two statements that change them (an `UPDATE … WHERE` and an `INSERT`), and unique
  indexes, partial ones included.
-/
import Mathlib.Data.List.Pairwise
import Mathlib.Order.Lattice
import Mathlib.Tactic.Common

namespace Table

variable {ρ ι : Type}

/-- A row of a table after an insert. -/
theorem mem_snoc {r : ρ} {rows : List ρ} : r ∈ rows ++ [row] ↔ r ∈ rows ∨ r = row := by
  rw [List.mem_append, List.mem_singleton]

/-- A `SELECT` answers with a row that is there and meets its condition. -/
theorem of_find? [DecidablePred P] (h : List.find? (fun r => decide (P r)) rows = some row) : row ∈ rows ∧ P row := by
  have hp := List.find?_some h
  exact ⟨List.mem_of_find?_eq_some h, of_decide_eq_true hp⟩

/-- `UPDATE … SET … WHERE`: every row the predicate selects is rewritten in place. -/
def updateWhere (p : ρ → Bool) (f : ρ → ρ) (rows : List ρ) : List ρ :=
  rows.map fun r => if p r then f r else r

@[simp] theorem length_updateWhere (p : ρ → Bool) (f : ρ → ρ) (rows : List ρ) :
    (updateWhere p f rows).length = rows.length := by
  simp [updateWhere]

variable {p : ρ → Bool} {f : ρ → ρ} {r : ρ}

theorem mem_updateWhere {rows : List ρ} (h : r ∈ updateWhere p f rows) :
    ∃ r₀ ∈ rows, (p r₀ = true ∧ r = f r₀) ∨ (p r₀ = false ∧ r = r₀) := by
  obtain ⟨r₀, hmem, rfl⟩ := List.mem_map.mp h
  refine ⟨r₀, hmem, ?_⟩
  cases hp : p r₀ <;> simp

/-- A row that is there before an update is there afterwards, rewritten exactly when it is selected. -/
theorem mem_updateWhere_of_mem {rows : List ρ} (h : r ∈ rows) : (if p r then f r else r) ∈ updateWhere p f rows :=
  List.mem_map.mpr ⟨r, h, rfl⟩

theorem mem_updateWhere_of_not {rows : List ρ} (h : r ∈ rows) (hp : p r = false) : r ∈ updateWhere p f rows := by
  simpa [hp] using mem_updateWhere_of_mem (p := p) (f := f) h

variable {κ : Type}

theorem map_updateWhere (hf : ∀ r, key (f r) = key r)
    (rows : List ρ) : (updateWhere p f rows).map key = rows.map key := by
  rw [updateWhere, List.map_map]
  apply List.map_congr_left
  intro r _
  simp only [Function.comp_apply]
  split
  · exact hf r
  · rfl

theorem find?_updateWhere (hq : ∀ r, q (f r) = q r) (rows : List ρ) :
    (updateWhere p f rows).find? q = (rows.find? q).map fun r => if p r then f r else r := by
  induction rows with
  | nil => rfl
  | cons r rows ih =>
    have hqr : q (if p r then f r else r) = q r := by
      split
      · exact hq r
      · rfl
    simp only [updateWhere, List.map_cons, List.find?_cons, hqr]
    cases q r with
    | true => rfl
    | false => exact ih

theorem updateWhere_of_fixed {rows : List ρ} (h : ∀ r ∈ rows, p r = true → f r = r) : updateWhere p f rows = rows := by
  refine (List.map_congr_left fun r hr => ?_).trans (List.map_id rows)
  split
  · rename_i hp
    exact h r hr hp
  · rfl

theorem updateWhere_of_none {rows : List ρ} (h : ∀ r ∈ rows, p r = false) : updateWhere p f rows = rows := by
  apply updateWhere_of_fixed
  intro r hr hp
  rw [h r hr] at hp
  cases hp

theorem updateWhere_of_filter_eq_nil {rows : List ρ} (h : rows.filter p = []) : updateWhere p f rows = rows :=
  updateWhere_of_none fun r hr => by simpa using List.filter_eq_nil_iff.mp h r hr

theorem updateWhere_of_countP_eq_zero {rows : List ρ} (h : rows.countP p = 0) : updateWhere p f rows = rows :=
  updateWhere_of_none fun r hr => by simpa using List.countP_eq_zero.mp h r hr

theorem filter_updateWhere {rows : List ρ} (hp : ∀ r ∈ rows, q r = true → p (f r) = p r) :
    (updateWhere q f rows).filter p = updateWhere q f (rows.filter p) := by
  rw [updateWhere, List.filter_map, updateWhere]
  congr 1
  apply List.filter_congr
  intro r hr
  simp only [Function.comp_apply]
  split
  · rename_i hq
    exact hp r hr hq
  · rfl

theorem filter_updateWhere_of_not {rows : List ρ} (h : ∀ r ∈ rows, q r = true → p r = false ∧ p (f r) = false) :
    (updateWhere q f rows).filter p = rows.filter p := by
  induction rows with
  | nil => rfl
  | cons r rows ih =>
    have hrest := ih fun r' hr' => h r' (List.mem_cons_of_mem _ hr')
    rw [updateWhere] at hrest
    rw [updateWhere, List.map_cons, List.filter_cons, List.filter_cons, hrest]
    cases hq : q r with
    | false => simp
    | true =>
      obtain ⟨hbefore, hafter⟩ := h r List.mem_cons_self hq
      simp [hbefore, hafter]

theorem filter_updateWhere_selected {rows : List ρ}
    (hin : ∀ r ∈ rows, q r = true → p (f r) = true) (hout : ∀ r ∈ rows, q r = false → p r = false) :
    (updateWhere q f rows).filter p = (rows.filter q).map f := by
  induction rows with
  | nil => rfl
  | cons r rows ih =>
    have hrest := ih (fun r' hr' => hin r' (List.mem_cons_of_mem _ hr'))
      fun r' hr' => hout r' (List.mem_cons_of_mem _ hr')
    rw [updateWhere] at hrest
    rw [updateWhere, List.map_cons, List.filter_cons, List.filter_cons, hrest]
    cases hq : q r with
    | false => simp [hout r List.mem_cons_self hq]
    | true => simp [hin r List.mem_cons_self hq]

/-- How often `q` holds after an update: as often as before, the selected rows being told by what they became. -/
theorem countP_updateWhere_add (p q : ρ → Bool) (f : ρ → ρ) (rows : List ρ) :
    (updateWhere p f rows).countP q + (rows.filter p).countP q =
      rows.countP q + (rows.filter p).countP fun r => q (f r) := by
  induction rows with
  | nil => rfl
  | cons r rows ih =>
    rw [updateWhere] at ih
    rw [updateWhere, List.map_cons, List.countP_cons, List.countP_cons]
    cases hp : p r with
    | false =>
      rw [List.filter_cons_of_neg (by simp [hp])]
      simp only [Bool.false_eq_true, if_false]
      omega
    | true =>
      rw [List.filter_cons_of_pos hp, List.countP_cons, List.countP_cons]
      simp only [if_true]
      omega

theorem lookup_map_key [DecidableEq κ] (k : κ) (f : ν → ν) (rows : List (κ × ν)) (x : κ) :
    (rows.map fun e => if e.1 = k then (e.1, f e.2) else e).lookup x =
      if x = k then (rows.lookup x).map f else rows.lookup x := by
  induction rows with
  | nil => simp
  | cons e es ih =>
    obtain ⟨k', v⟩ := e
    by_cases hk' : k' = k
    · by_cases hx : x = k
      · simp [hk', hx]
      · have hbeq : (x == k) = false := by simpa using hx
        simpa [hk', List.lookup_cons, hbeq, hx] using ih
    · by_cases hx : x = k'
      · simp [hk', hx]
      · have hbeq : (x == k') = false := by simpa using hx
        simpa [hk', List.lookup_cons, hbeq] using ih

/-- `ORDER BY … LIMIT 1`: the first of the least rows. -/
def firstBy (le : ρ → ρ → Bool) : List ρ → Option ρ
  | [] => none
  | a :: as =>
    match firstBy le as with
    | none => some a
    | some b => if le a b then some a else some b

variable {le : ρ → ρ → Bool}

theorem firstBy_mem {rows : List ρ} (h : firstBy le rows = some r) : r ∈ rows := by
  induction rows generalizing r with
  | nil => cases h
  | cons a as ih =>
    simp only [firstBy] at h
    split at h
    · cases h
      exact List.mem_cons_self
    · rename_i b hb
      split at h
      · cases h
        exact List.mem_cons_self
      · cases h
        exact List.mem_cons_of_mem _ (ih hb)

theorem firstBy_eq_none {rows : List ρ} : firstBy le rows = none ↔ rows = [] := by
  cases rows with
  | nil => simp [firstBy]
  | cons =>
    simp only [firstBy, reduceCtorEq, iff_false]
    split
    · simp
    · split <;> simp

variable {a : ρ}

/-- The row it answers is no later than any other, in any order the comparison refines. -/
theorem firstBy_le [LinearOrder κ] (key : ρ → κ) {rows : List ρ}
    (htrue : ∀ a b, le a b = true → key a ≤ key b) (hfalse : ∀ a b, le a b = false → key b ≤ key a)
    (h : firstBy le rows = some r) (ha : a ∈ rows) : key r ≤ key a := by
  induction rows generalizing r with
  | nil => cases ha
  | cons b bs ih =>
    simp only [firstBy] at h
    split at h
    · rename_i hnone
      cases h
      rw [firstBy_eq_none.mp hnone] at ha
      rw [List.mem_singleton.mp ha]
    · rename_i c hc
      split at h
      · rename_i hle
        cases h
        rcases List.mem_cons.mp ha with rfl | ha
        · exact le_refl _
        · exact le_trans (htrue _ _ hle) (ih hc ha)
      · rename_i hle
        cases h
        rcases List.mem_cons.mp ha with rfl | ha
        · exact hfalse _ _ (by simpa using hle)
        · exact ih hc ha

/-- `INSERT … ON CONFLICT DO NOTHING` of several rows: the ones written, each checked against those before it. -/
def skipDuplicates {δ : Type} (clash : ρ → ρ → Bool) (make : δ → ρ) : List ρ → List δ → List δ
  | _, [] => []
  | rows, d :: ds =>
    if rows.any (clash (make d)) then skipDuplicates clash make rows ds
    else d :: skipDuplicates clash make (rows ++ [make d]) ds

variable {δ : Type}

theorem mem_of_mem_skipDuplicates {rows : List ρ} (h : d ∈ skipDuplicates clash make rows ds) : d ∈ ds := by
  induction ds generalizing rows with
  | nil => cases h
  | cons d' ds ih =>
    simp only [skipDuplicates] at h
    split at h
    · exact List.mem_cons_of_mem _ (ih h)
    · rcases List.mem_cons.mp h with rfl | h
      · exact List.mem_cons_self
      · exact List.mem_cons_of_mem _ (ih h)

theorem not_clash_of_mem_skipDuplicates {rows : List ρ} (h : d ∈ skipDuplicates clash make rows ds) (hr : r ∈ rows) :
    clash (make d) r = false := by
  induction ds generalizing rows with
  | nil => cases h
  | cons d' ds ih =>
    simp only [skipDuplicates] at h
    split at h
    · exact ih h hr
    · rename_i hnone
      rcases List.mem_cons.mp h with rfl | h
      · by_contra hclash
        exact hnone (List.any_eq_true.mpr ⟨r, hr, by simpa using hclash⟩)
      · exact ih h (List.mem_append_left _ hr)

theorem skipDuplicates_eq_self {rows : List ρ} (hrows : ∀ d ∈ ds, ∀ r ∈ rows, clash (make d) r = false)
    (hds : ds.Pairwise fun d d' => clash (make d') (make d) = false) : skipDuplicates clash make rows ds = ds := by
  induction ds generalizing rows with
  | nil => rfl
  | cons d ds ih =>
    obtain ⟨hd, hds⟩ := List.pairwise_cons.mp hds
    have hnone : ¬ rows.any (clash (make d)) = true := by
      intro hany
      obtain ⟨r, hr, hclash⟩ := List.any_eq_true.mp hany
      rw [hrows d List.mem_cons_self r hr] at hclash
      cases hclash
    have hrest : ∀ d' ∈ ds, ∀ r ∈ rows ++ [make d], clash (make d') r = false := by
      intro d' hd' r hr
      rcases mem_snoc.mp hr with hr | rfl
      · exact hrows d' (List.mem_cons_of_mem _ hd') r hr
      · exact hd d' hd'
    simp only [skipDuplicates, if_neg hnone, ih hrest hds]

variable {b : ρ}

theorem eq_of_countP_le_one {rows : List ρ} (h : rows.countP p ≤ 1) (ha : a ∈ rows)
    (hb : b ∈ rows) (hpa : p a = true) (hpb : p b = true) : a = b := by
  rw [List.countP_eq_length_filter] at h
  have ha' : a ∈ rows.filter p := List.mem_filter.mpr ⟨ha, hpa⟩
  have hb' : b ∈ rows.filter p := List.mem_filter.mpr ⟨hb, hpb⟩
  match hfilter : rows.filter p, h with
  | [], _ =>
    rw [hfilter] at ha'
    cases ha'
  | [x], _ =>
    rw [hfilter] at ha' hb'
    rw [List.mem_singleton.mp ha', List.mem_singleton.mp hb']

theorem forall_before_concat {P : List ρ → ρ → Prop} {rows : List ρ}
    (h : ∀ before a after, rows = before ++ a :: after → P before a) (hr : P rows r) :
    ∀ before a after, rows ++ [r] = before ++ a :: after → P before a := by
  intro before a after heq
  rcases List.eq_nil_or_concat after with rfl | ⟨init, last, rfl⟩
  · obtain ⟨hbefore, hlast⟩ := List.append_inj' heq rfl
    rw [List.cons.injEq] at hlast
    rw [← hbefore, ← hlast.1]
    exact hr
  · rw [List.concat_eq_append, ← List.cons_append, ← List.append_assoc] at heq
    exact h before a init (List.append_inj' heq rfl).1

/-- Two rows clash in an index when both are in it under the same entry. -/
def Clash (entry : ρ → Option ι) (a b : ρ) : Prop := entry a ≠ none ∧ entry a = entry b

instance [DecidableEq ι] (entry : ρ → Option ι) (a b : ρ) : Decidable (Clash entry a b) :=
  inferInstanceAs (Decidable (_ ∧ _))

theorem Clash.symm {entry : ρ → Option ι} (h : Clash entry a b) : Clash entry b a :=
  ⟨h.2 ▸ h.1, h.2.symm⟩

/-- No two rows clash: what a unique index over `entry` enforces. -/
def UniqueBy (entry : ρ → Option ι) (rows : List ρ) : Prop :=
  rows.Pairwise fun a b => ¬ Clash entry a b

instance [DecidableEq ι] (entry : ρ → Option ι) (rows : List ρ) : Decidable (UniqueBy entry rows) :=
  inferInstanceAs (Decidable (List.Pairwise _ rows))

namespace UniqueBy

variable {entry : ρ → Option ι} {rows : List ρ}

variable {k : ι}

theorem eq_of_entry (h : UniqueBy entry rows) (ha : a ∈ rows) (hb : b ∈ rows)
    (hka : entry a = some k) (hkb : entry b = some k) : a = b := by
  by_contra hne
  have : Std.Symm fun a b : ρ => ¬ Clash entry a b := ⟨fun _ _ h₁ h₂ => h₁ h₂.symm⟩
  exact h.forall ha hb hne ⟨by simp [hka], by rw [hka, hkb]⟩

theorem nodup_map (h : UniqueBy entry rows) (hkey : ∀ r, entry r = some (key r)) : (rows.map key).Nodup := by
  rw [List.Nodup, List.pairwise_map]
  apply List.Pairwise.imp _ h
  intro a b hne hsame
  exact hne ⟨by simp [hkey], by rw [hkey, hkey, hsame]⟩

theorem length_filter_le_one [DecidableEq ι] (h : UniqueBy entry rows) (k : ι) :
    (rows.filter fun r => entry r = some k).length ≤ 1 := by
  have hpair : UniqueBy entry (rows.filter fun r => entry r = some k) := List.Pairwise.filter _ h
  have hentry : ∀ r ∈ rows.filter fun r => entry r = some k, entry r = some k := by
    intro r hr
    simpa using (List.mem_filter.mp hr).2
  match hrows : rows.filter fun r => entry r = some k with
  | [] => simp
  | [_] => simp
  | a :: b :: rest =>
    rw [hrows] at hpair hentry
    have ha : entry a = some k := hentry a (by simp)
    have hb : entry b = some k := hentry b (by simp)
    have hclash : Clash entry a b := ⟨by simp [ha], by rw [ha, hb]⟩
    exact absurd hclash (List.rel_of_pairwise_cons hpair List.mem_cons_self)

theorem filter_eq_singleton (h : UniqueBy entry rows) (ha : a ∈ rows) (hpa : p a = true)
    (hp : ∀ r ∈ rows, p r = true → entry r = some k) : rows.filter p = [a] := by
  have hpair : UniqueBy entry (rows.filter p) := List.Pairwise.filter _ h
  have hentry : ∀ r ∈ rows.filter p, entry r = some k := by
    intro r hr
    obtain ⟨hr, hpr⟩ := List.mem_filter.mp hr
    exact hp r hr hpr
  have hmem : a ∈ rows.filter p := List.mem_filter.mpr ⟨ha, hpa⟩
  match hrows : rows.filter p with
  | [] => simp [hrows] at hmem
  | [b] =>
    rw [hrows, List.mem_singleton] at hmem
    rw [hmem]
  | b :: c :: rest =>
    rw [hrows] at hpair hentry
    have hb : entry b = some k := hentry b (by simp)
    have hc : entry c = some k := hentry c (by simp)
    have hclash : Clash entry b c := ⟨by simp [hb], by rw [hb, hc]⟩
    exact absurd hclash (List.rel_of_pairwise_cons hpair List.mem_cons_self)

theorem find?_eq_some (h : UniqueBy entry rows) (ha : a ∈ rows) (hpa : p a = true)
    (hp : ∀ r ∈ rows, p r = true → entry r = some k) : rows.find? p = some a := by
  rw [← List.head?_filter, h.filter_eq_singleton ha hpa hp, List.head?_singleton]

/-- An update that leaves every row's entry alone or takes it out of the index cannot be rejected. -/
theorem updateWhere (h : UniqueBy entry rows)
    (hf : ∀ r ∈ rows, p r = true → entry (f r) = none ∨ entry (f r) = entry r) :
    UniqueBy entry (updateWhere p f rows) := by
  have hentry : ∀ r ∈ rows, entry (if p r then f r else r) = none ∨
      entry (if p r then f r else r) = entry r := by
    intro r hr
    cases hp : p r with
    | false => simp
    | true => simpa using hf r hr hp
  refine List.pairwise_map.mpr (List.Pairwise.imp_of_mem ?_ h)
  rintro a b ha hb hclash ⟨hsome, heq⟩
  rcases hentry a ha with hea | hea
  · exact hsome hea
  · rcases hentry b hb with heb | heb
    · exact hsome (heq.trans heb)
    · exact hclash ⟨hea ▸ hsome, by rw [← hea, heq, heb]⟩

theorem congr {rows' : List ρ} (h : UniqueBy entry rows) (heq : rows'.map entry = rows.map entry) :
    UniqueBy entry rows' := by
  have hentries : (rows.map entry).Pairwise fun a b => ¬ (a ≠ none ∧ a = b) := List.pairwise_map.mpr h
  rw [← heq] at hentries
  exact List.pairwise_map.mp hentries

theorem updateOne (h : UniqueBy entry rows) (hkey : UniqueBy key rows)
    (hone : ∀ a ∈ rows, ∀ b ∈ rows, p a = true → p b = true → Clash key a b)
    (hfree : ∀ a ∈ rows, ∀ b ∈ rows, p a = true → p b = false → ¬ Clash entry (f a) b) :
    UniqueBy entry (Table.updateWhere p f rows) := by
  refine List.pairwise_map.mpr (List.Pairwise.imp_of_mem ?_ (List.pairwise_and_iff.mpr ⟨h, hkey⟩))
  rintro a b ha hb ⟨hentry, hrow⟩ hclash
  cases hpa : p a <;> cases hpb : p b <;> simp only [hpa, hpb] at hclash
  · exact hentry hclash
  · exact hfree b hb a ha hpb hpa hclash.symm
  · exact hfree a ha b hb hpa hpb hclash
  · exact hrow (hone a ha b hb hpa hpb)

theorem eq_updated (h : UniqueBy entry rows) (hf : ∀ r, entry (f r) = entry r)
    (ha : a ∈ rows) (hb : b ∈ Table.updateWhere p f rows) (hka : entry a = some k)
    (hkb : entry b = some k) : b = if p a then f a else a := by
  obtain ⟨b₀, hb₀, hcase⟩ := mem_updateWhere hb
  have hentry : entry b = entry b₀ := by
    rcases hcase with ⟨_, rfl⟩ | ⟨_, rfl⟩
    · exact hf b₀
    · rfl
  rw [h.eq_of_entry ha hb₀ hka (hentry ▸ hkb)]
  rcases hcase with ⟨hp, rfl⟩ | ⟨hp, rfl⟩ <;> simp [hp]

theorem nodup_keys (h : UniqueBy (fun r => some (key r)) rows) (q : ρ → Bool) : ((rows.filter q).map key).Nodup := by
  apply List.pairwise_map.mpr
  refine List.Pairwise.imp ?_ (List.Pairwise.filter q h)
  exact fun hclash heq => hclash ⟨by simp, congrArg some heq⟩

theorem mem_keys_updateWhere (h : UniqueBy (fun r => some (key r)) rows) (hkey : ∀ r, key (f r) = key r) (k : κ) :
    k ∈ ((Table.updateWhere p f rows).filter q).map key ↔
      (∃ r ∈ rows, p r = true ∧ q (f r) = true ∧ key r = k) ∨
        k ∈ (rows.filter q).map key ∧ ∀ r ∈ rows, p r = true → key r ≠ k := by
  constructor
  · intro hk
    obtain ⟨r', hr', rfl⟩ := List.mem_map.mp hk
    obtain ⟨hr', hq⟩ := List.mem_filter.mp hr'
    obtain ⟨r, hr, ⟨hp, rfl⟩ | ⟨hp, rfl⟩⟩ := mem_updateWhere hr'
    · exact .inl ⟨r, hr, hp, hq, (hkey r).symm⟩
    · refine .inr ⟨List.mem_map_of_mem (List.mem_filter.mpr ⟨hr, hq⟩), fun s hs hps heq => ?_⟩
      rw [h.eq_of_entry hs hr (congrArg some heq) rfl, hp] at hps
      cases hps
  · rintro (⟨r, hr, hp, hq, rfl⟩ | ⟨hk, hother⟩)
    · have hmem := mem_updateWhere_of_mem (p := p) (f := f) hr
      rw [hp, if_pos rfl] at hmem
      exact List.mem_map.mpr ⟨f r, List.mem_filter.mpr ⟨hmem, hq⟩, hkey r⟩
    · obtain ⟨r, hr, rfl⟩ := List.mem_map.mp hk
      obtain ⟨hr, hq⟩ := List.mem_filter.mp hr
      have hp : p r = false := by
        by_contra hp
        exact hother r hr (by simpa using hp) rfl
      exact List.mem_map_of_mem (List.mem_filter.mpr ⟨mem_updateWhere_of_not hr hp, hq⟩)

theorem concat (h : UniqueBy entry rows) (hnew : ∀ r ∈ rows, ¬ Clash entry r new) :
    UniqueBy entry (rows ++ [new]) := by
  refine List.pairwise_append.mpr ⟨h, List.pairwise_singleton _ _, ?_⟩
  intro a ha b hb
  rw [List.mem_singleton.mp hb]
  exact hnew a ha

theorem skipDuplicates (hclash : ∀ a b, Clash entry a b → clash b a = true) (h : UniqueBy entry rows) (ds : List δ) :
    UniqueBy entry (rows ++ (skipDuplicates clash make rows ds).map make) := by
  induction ds generalizing rows with
  | nil => simpa [Table.skipDuplicates] using h
  | cons d ds ih =>
    simp only [Table.skipDuplicates]
    split
    · exact ih h
    · rename_i hnone
      have hnew : ∀ r ∈ rows, ¬ Clash entry r (make d) := by
        intro r hr hentry
        exact hnone (List.any_eq_true.mpr ⟨r, hr, hclash r (make d) hentry⟩)
      simpa using ih (h.concat hnew)

end UniqueBy

section Replaced

variable {α : Type} [DecidableEq α] {held wanted : List α}

/-- `[...new Set(held)].filter((x) => !wanted.has(x))`: what goes. -/
def removed (held wanted : List α) : List α := held.eraseDups.filter (· ∉ wanted)

/-- What comes. -/
def added (held wanted : List α) : List α := wanted.eraseDups.filter (· ∉ held)

/-- The rows without those that go, and with those that come. -/
def replaced (held wanted : List α) : List α := held.filter (· ∉ removed held wanted) ++ added held wanted

theorem mem_added {a : α} : a ∈ added held wanted ↔ a ∈ wanted ∧ a ∉ held := by
  simp [added, List.mem_filter, List.mem_eraseDups]

theorem mem_removed {a : α} : a ∈ removed held wanted ↔ a ∈ held ∧ a ∉ wanted := by
  simp [removed, List.mem_filter, List.mem_eraseDups]

theorem mem_replaced {a : α} : a ∈ replaced held wanted ↔ a ∈ wanted := by
  simp only [replaced, List.mem_append, List.mem_filter, mem_removed, mem_added, decide_eq_true_eq]
  tauto

theorem nodup_eraseDups (rows : List α) : rows.eraseDups.Nodup := by
  induction hlength : rows.length using Nat.strongRecOn generalizing rows with
  | _ n ih =>
    cases rows with
    | nil => simp
    | cons =>
      rw [List.eraseDups_cons, List.nodup_cons]
      refine ⟨by simp [List.mem_eraseDups], ih _ ?_ _ rfl⟩
      subst hlength
      exact Nat.lt_succ_of_le (List.length_filter_le _ _)

theorem nodup_added : (added held wanted).Nodup := (nodup_eraseDups wanted).filter _

theorem nodup_replaced (h : held.Nodup) : (replaced held wanted).Nodup := by
  refine List.nodup_append.mpr ⟨h.filter _, nodup_added, ?_⟩
  rintro a hheld _ hadded rfl
  exact (mem_added.mp hadded).2 (List.mem_filter.mp hheld).1

end Replaced

/-- What a guarded write that goes through has passed. -/
theorem ok_of_ite [Decidable c] {x : Except ε β} (h : (if c then .error e else x) = .ok out) : ¬ c ∧ x = .ok out := by
  split at h
  · cases h
  · exact ⟨‹¬ c›, h⟩

end Table
