/-
Purpose: Keyset pagination. A list is read in pages, each asked for with the cursor the page before it ended with.
-/
import Mathlib.Data.List.Sort

namespace Keyset

variable {ρ κ γ ε : Type}

/-- `ORDER BY`: the rows sorted by a comparison. -/
def sortBy (le : ρ → ρ → Bool) (rows : List ρ) : List ρ := rows.insertionSort fun a b => le a b

def SortsBy [LinearOrder κ] (le : ρ → ρ → Bool) (key : ρ → κ) : Prop := ∀ a b, le a b = true ↔ key a ≤ key b

theorem sortBy_perm (le : ρ → ρ → Bool) (rows : List ρ) : (sortBy le rows).Perm rows :=
  List.perm_insertionSort _ rows

variable [LinearOrder κ] {le : ρ → ρ → Bool} {key : ρ → κ}

theorem pairwise_sortBy (hle : SortsBy le key) (rows : List ρ) : (sortBy le rows).Pairwise fun a b => key a ≤ key b := by
  have htotal : Std.Total fun a b => le a b = true := by
    constructor
    intro a b
    rw [hle, hle]
    exact le_total (key a) (key b)
  have htrans : IsTrans ρ fun a b => le a b = true := by
    constructor
    intro a b c hab hbc
    rw [hle] at hab hbc ⊢
    exact hab.trans hbc
  exact (List.pairwise_insertionSort (fun a b => le a b = true) rows).imp fun h => (hle _ _).mp h

/-- A row that is not among the first `n` has `n` rows before it, none of them after it in the order. -/
theorem take_before (hle : SortsBy le key) (hr : r ∈ rows) (hout : r ∉ (sortBy le rows).take n) :
    ((sortBy le rows).take n).length = n ∧ ∀ r' ∈ (sortBy le rows).take n, key r' ≤ key r := by
  have hsorted := pairwise_sortBy hle rows
  have hmem := (sortBy_perm le rows).mem_iff.mpr hr
  rw [← List.take_append_drop n (sortBy le rows)] at hsorted hmem
  have hdrop := (List.mem_append.mp hmem).resolve_left hout
  constructor
  · have hlength := List.length_pos_of_mem hdrop
    rw [List.length_drop] at hlength
    rw [List.length_take]
    omega
  · intro r' hr'
    exact (List.pairwise_append.mp hsorted).2.2 r' hr' r hdrop

theorem eq_of_perm {rows : List ρ} (hkeys : (rows.map key).Nodup) (hperm : rows.Perm rows')
    (h : rows.Pairwise fun a b => key a ≤ key b) (h' : rows'.Pairwise fun a b => key a ≤ key b) : rows = rows' := by
  refine List.Perm.eq_of_pairwise ?_ h h' hperm
  intro a b ha hb hab hba
  exact List.inj_on_of_nodup_map hkeys ha (hperm.mem_iff.mpr hb) (le_antisymm hab hba)

theorem sortBy_filter (hle : SortsBy le key) {rows : List ρ} (hkeys : (rows.map key).Nodup) (p : ρ → Bool) :
    sortBy le (rows.filter p) = (sortBy le rows).filter p := by
  have hperm : (sortBy le (rows.filter p)).Perm ((sortBy le rows).filter p) :=
    (sortBy_perm le _).trans ((sortBy_perm le rows).symm.filter p)
  have hnodup : ((sortBy le (rows.filter p)).map key).Nodup :=
    (((sortBy_perm le _).map key).nodup_iff).mpr ((List.filter_sublist.map key).nodup hkeys)
  exact eq_of_perm hnodup hperm (pairwise_sortBy hle _) ((pairwise_sortBy hle rows).filter p)

theorem sortBy_after (hle : SortsBy le key) {rows : List ρ} (hkeys : (rows.map key).Nodup)
    (hsorted : sortBy le rows = before ++ r :: after) : sortBy le (rows.filter fun r' => key r < key r') = after := by
  have hpair := pairwise_sortBy hle rows
  have hnodup : ((before ++ r :: after).map key).Nodup := by
    rw [← hsorted]
    exact ((sortBy_perm le rows).map key).nodup_iff.mpr hkeys
  rw [sortBy_filter hle hkeys, hsorted]
  rw [hsorted] at hpair
  obtain ⟨-, hrest, hcross⟩ := List.pairwise_append.mp hpair
  obtain ⟨hr, -⟩ := List.pairwise_cons.mp hrest
  have hbefore : before.filter (fun r' => key r < key r') = [] := by
    refine List.filter_eq_nil_iff.mpr fun r' hr' => ?_
    simpa using hcross r' hr' r List.mem_cons_self
  have hafter : after.filter (fun r' => key r < key r') = after := by
    refine List.filter_eq_self.mpr fun r' hr' => ?_
    have hne : key r ≠ key r' := by
      intro heq
      rw [List.map_append, List.map_cons] at hnodup
      have hnotin := (List.nodup_cons.mp hnodup.of_append_right).1
      exact hnotin (heq ▸ List.mem_map_of_mem hr')
    simpa using lt_of_le_of_ne (hr r' hr') hne
  rw [List.filter_append, List.filter_cons, hbefore, hafter]
  simp

/-- The pages from a cursor on until there is no next one; `none` when the fuel ends first or a request fails. -/
def follow (fetch : Option γ → Except ε (List ρ × Option γ)) : Nat → Option γ → Option (List (List ρ))
  | 0, _ => none
  | fuel + 1, cursor =>
    match fetch cursor with
    | .error _ => none
    | .ok (items, none) => some [items]
    | .ok (items, some next) => (follow fetch fuel (some next)).map (items :: ·)

omit [LinearOrder κ] in
theorem follow_eq {fetch : Option γ → Except ε (List ρ × Option γ)} {Stands : Option γ → List ρ → Prop}
    (hlimit : 1 ≤ limit)
    (hfetch : ∀ cursor rows, Stands cursor rows → ∃ next, fetch cursor = .ok (rows.take limit, next) ∧
      (rows.length ≤ limit → next = none) ∧
      (limit < rows.length → next ≠ none ∧ Stands next (rows.drop limit)))
    (hcursor : Stands cursor rows) (hfuel : rows.length < fuel) :
    ∃ pages, follow fetch fuel cursor = some pages ∧ pages.flatten = rows := by
  induction fuel generalizing cursor rows with
  | zero => omega
  | succ fuel ih =>
    obtain ⟨next, hok, hlast, hmore⟩ := hfetch cursor rows hcursor
    by_cases hlength : rows.length ≤ limit
    · rw [hlast hlength] at hok
      refine ⟨[rows.take limit], by simp only [follow, hok], ?_⟩
      rw [List.flatten_singleton, List.take_of_length_le hlength]
    · obtain ⟨hnext, hstands⟩ := hmore (by omega)
      obtain ⟨c, rfl⟩ := Option.ne_none_iff_exists'.mp hnext
      have hdrop : (rows.drop limit).length < fuel := by
        rw [List.length_drop]
        omega
      obtain ⟨pages, hpages, hflatten⟩ := ih hstands hdrop
      refine ⟨rows.take limit :: pages, by simp only [follow, hok, hpages, Option.map_some], ?_⟩
      rw [List.flatten_cons, hflatten, List.take_append_drop]

/-- The page cut from sorted rows: as many as are asked for, and the cursor of the last of them when there are more. -/
def window (limit : Nat) (mint : ρ → Option γ) (sorted : List ρ) : List ρ × Option γ :=
  (sorted.take limit, if limit < sorted.length then (sorted.take limit).getLast?.bind mint else none)

omit [LinearOrder κ] in
theorem window_take (limit : Nat) (mint : ρ → Option γ) (sorted : List ρ) :
    window limit mint (sorted.take (limit + 1)) = window limit mint sorted := by
  have hlonger : limit < (sorted.take (limit + 1)).length ↔ limit < sorted.length := by
    rw [List.length_take]
    omega
  simp only [window, List.take_take, Nat.min_eq_left (Nat.le_succ limit), hlonger]

theorem follow_window (hle : SortsBy le key) {rows : List ρ} (hkeys : (rows.map key).Nodup) {limit : Nat}
    (hlimit : 1 ≤ limit) {mint : ρ → Option γ} (hmint : ∀ r ∈ rows, mint r ≠ none)
    {fetch : Option γ → Except ε (List ρ × Option γ)} (hfirst : fetch none = .ok (window limit mint (sortBy le rows)))
    (hafter : ∀ r ∈ rows, ∀ c, mint r = some c →
      fetch (some c) = .ok (window limit mint (sortBy le (rows.filter fun r' => key r < key r'))))
    (hfuel : rows.length < fuel) : ∃ pages, follow fetch fuel none = some pages ∧ pages.flatten = sortBy le rows := by
  let Stands (cursor : Option γ) (rest : List ρ) : Prop :=
    fetch cursor = .ok (window limit mint rest) ∧ rest <:+ sortBy le rows
  have hstands : Stands none (sortBy le rows) := ⟨hfirst, List.suffix_rfl⟩
  refine follow_eq hlimit ?_ hstands (by rwa [(sortBy_perm le rows).length_eq])
  rintro cursor rest ⟨hfetch, before, hbefore⟩
  refine ⟨_, hfetch, fun hle => if_neg (by omega), fun hlt => ?_⟩
  have hne : rest.take limit ≠ [] := List.ne_nil_of_length_pos (by rw [List.length_take]; omega)
  obtain ⟨init, last, hinit⟩ : ∃ init last, rest.take limit = init ++ [last] :=
    ⟨_, _, (List.dropLast_append_getLast hne).symm⟩
  have hsorted : sortBy le rows = (before ++ init) ++ last :: rest.drop limit := by
    calc sortBy le rows = before ++ (rest.take limit ++ rest.drop limit) := by rw [List.take_append_drop, hbefore]
      _ = before ++ init ++ last :: rest.drop limit := by rw [hinit]; simp
  have hlast : last ∈ rows := (sortBy_perm le rows).mem_iff.mp (by rw [hsorted]; simp)
  obtain ⟨c, hc⟩ := Option.ne_none_iff_exists'.mp (hmint last hlast)
  have hnext : (if limit < rest.length then (rest.take limit).getLast?.bind mint else none) = some c := by
    simp [hlt, hinit, hc]
  rw [hnext]
  refine ⟨by simp, ?_, before ++ init ++ [last], by rw [hsorted]; simp⟩
  rw [hafter last hlast c hc, sortBy_after hle hkeys hsorted]

end Keyset
