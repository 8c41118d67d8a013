/-
Purpose: Work in batches. Rows are grouped by a key, in the order in which the keys first come, and a group is cut into
  chunks. Neither loses a row nor repeats one.
-/
import Mathlib.Algebra.Group.Action.Defs
import Mathlib.Algebra.Order.BigOperators.Group.List
import Mathlib.Algebra.Order.Group.Nat
import Mathlib.Data.List.Induction
import Mathlib.Data.List.Nodup

namespace Batches

variable {ρ κ α : Type} [DecidableEq κ]

/-- The value joins those of its key, or opens a group behind the others. -/
def addTo (key : κ) (value : α) : List (κ × List α) → List (κ × List α)
  | [] => [(key, [value])]
  | (k, values) :: rest =>
    if k = key then (k, values ++ [value]) :: rest else (k, values) :: addTo key value rest

def groupBy (key : ρ → κ) (value : ρ → α) (rows : List ρ) : List (κ × List α) :=
  rows.foldl (fun groups r => addTo (key r) (value r) groups) []

structure Grouped (key : ρ → κ) (value : ρ → α) (rows : List ρ) (groups : List (κ × List α)) : Prop where
  nodup : (groups.map Prod.fst).Nodup
  values : ∀ group ∈ groups, group.2 = (rows.filter fun r => key r = group.1).map value
  nonempty : ∀ group ∈ groups, group.2 ≠ []
  covers : ∀ r ∈ rows, key r ∈ groups.map Prod.fst

variable {key : ρ → κ} {value : ρ → α} {rows : List ρ} {groups : List (κ × List α)}

theorem groupBy_concat (rows : List ρ) (r : ρ) :
    groupBy key value (rows ++ [r]) = addTo (key r) (value r) (groupBy key value rows) := by
  rw [groupBy, List.foldl_append]
  rfl

theorem mem_keys_addTo : k' ∈ (addTo k v groups).map Prod.fst ↔ k' = k ∨ k' ∈ groups.map Prod.fst := by
  induction groups with
  | nil => simp [addTo]
  | cons group rest ih =>
    obtain ⟨k₁, values⟩ := group
    simp only [addTo, List.map_cons, List.mem_cons]
    by_cases hk : k₁ = k
    · rw [if_pos hk, List.map_cons, List.mem_cons]
      constructor
      · exact .inr
      · rintro (h | h)
        · exact .inl (h.trans hk.symm)
        · exact h
    · rw [if_neg hk, List.map_cons, List.mem_cons, ih]
      exact or_left_comm

theorem nodup_addTo (h : (groups.map Prod.fst).Nodup) : ((addTo k v groups).map Prod.fst).Nodup := by
  induction groups with
  | nil => simp [addTo]
  | cons group rest ih =>
    obtain ⟨k₁, values⟩ := group
    rw [List.map_cons, List.nodup_cons] at h
    by_cases hk : k₁ = k
    · simp only [addTo, if_pos hk, List.map_cons]
      exact List.nodup_cons.mpr h
    · simp only [addTo, if_neg hk, List.map_cons]
      apply List.nodup_cons.mpr
      refine ⟨fun hmem => ?_, ih h.2⟩
      rcases mem_keys_addTo.mp hmem with h₁ | h₁
      · exact hk h₁
      · exact h.1 h₁

/-- A group afterwards: another's, as it was, or the key's, one value longer. -/
theorem mem_addTo (h : (groups.map Prod.fst).Nodup) (hgroup : group ∈ addTo k v groups) :
    (group.1 ≠ k ∧ group ∈ groups) ∨ (group.1 = k ∧ ∃ values, (k, values) ∈ groups ∧ group.2 = values ++ [v]) ∨
      (group.1 = k ∧ k ∉ groups.map Prod.fst ∧ group.2 = [v]) := by
  induction groups with
  | nil =>
    cases List.mem_singleton.mp hgroup
    exact .inr (.inr ⟨rfl, List.not_mem_nil, rfl⟩)
  | cons head rest ih =>
    obtain ⟨k₁, values⟩ := head
    rw [List.map_cons, List.nodup_cons] at h
    by_cases hk : k₁ = k
    · subst hk
      rw [addTo, if_pos rfl] at hgroup
      rcases List.mem_cons.mp hgroup with rfl | hrest
      · exact .inr (.inl ⟨rfl, values, List.mem_cons_self, rfl⟩)
      · refine .inl ⟨fun heq => h.1 ?_, List.mem_cons_of_mem _ hrest⟩
        have hkey : group.1 ∈ rest.map Prod.fst := List.mem_map_of_mem hrest
        rw [heq] at hkey
        exact hkey
    · rw [addTo, if_neg hk] at hgroup
      rcases List.mem_cons.mp hgroup with rfl | hrest
      · exact .inl ⟨hk, List.mem_cons_self⟩
      · rcases ih h.2 hrest with ⟨hne, hmem⟩ | ⟨heq, values', hmem, hvalues⟩ | ⟨heq, hnot, hvalues⟩
        · exact .inl ⟨hne, List.mem_cons_of_mem _ hmem⟩
        · exact .inr (.inl ⟨heq, values', List.mem_cons_of_mem _ hmem, hvalues⟩)
        · refine .inr (.inr ⟨heq, fun hmem => ?_, hvalues⟩)
          rcases List.mem_cons.mp hmem with h₁ | h₁
          · exact hk h₁.symm
          · exact hnot h₁

theorem Grouped.concat (h : Grouped key value rows groups) (r : ρ) :
    Grouped key value (rows ++ [r]) (addTo (key r) (value r) groups) where
  nodup := nodup_addTo h.nodup
  values group hgroup := by
    rw [List.filter_append, List.map_append]
    rcases mem_addTo h.nodup hgroup with ⟨hne, hmem⟩ | ⟨heq, values, hmem, hvalues⟩ | ⟨heq, hnot, hvalues⟩
    · rw [List.filter_cons_of_neg fun heq => hne (of_decide_eq_true heq).symm, h.values group hmem]
      exact (List.append_nil _).symm
    · have hself : [r].filter (fun r => key r = group.1) = [r] := by simp [heq]
      have hold : values = (rows.filter fun r' => key r' = key r).map value := h.values _ hmem
      rw [hself, hvalues, hold, heq]
      rfl
    · have hnone : rows.filter (fun r' => key r' = group.1) = [] := by
        apply List.filter_eq_nil_iff.mpr
        intro r' hr' hkey
        have hmem := h.covers r' hr'
        rw [of_decide_eq_true hkey, heq] at hmem
        exact hnot hmem
      have hself : [r].filter (fun r => key r = group.1) = [r] := by simp [heq]
      rw [hself, hnone, hvalues]
      rfl
  nonempty group hgroup := by
    rcases mem_addTo h.nodup hgroup with ⟨_, hmem⟩ | ⟨_, values, _, hvalues⟩ | ⟨_, _, hvalues⟩
    · exact h.nonempty group hmem
    · rw [hvalues]
      exact List.concat_ne_nil _ _
    · rw [hvalues]
      exact List.cons_ne_nil _ _
  covers r' hr' := by
    apply mem_keys_addTo.mpr
    rcases List.mem_append.mp hr' with hold | hnew
    · exact .inr (h.covers r' hold)
    · rw [List.mem_singleton.mp hnew]
      exact .inl rfl

theorem grouped_groupBy (key : ρ → κ) (value : ρ → α) (rows : List ρ) :
    Grouped key value rows (groupBy key value rows) := by
  induction rows using List.reverseRecOn with
  | nil => exact { nodup := List.nodup_nil, values := nofun, nonempty := nofun, covers := nofun }
  | append_singleton rows r ih =>
    rw [groupBy_concat]
    exact ih.concat r

theorem addTo_perm (k : κ) (v : α) (groups : List (κ × List α)) :
    ((addTo k v groups).flatMap Prod.snd).Perm (v :: groups.flatMap Prod.snd) := by
  induction groups with
  | nil => exact .refl _
  | cons group rest ih =>
    obtain ⟨k₁, values⟩ := group
    simp only [addTo]
    split
    · simp only [List.flatMap_cons, List.append_assoc]
      exact List.perm_middle
    · exact (ih.append_left values).trans List.perm_middle

theorem groupBy_perm (key : ρ → κ) (value : ρ → α) (rows : List ρ) :
    ((groupBy key value rows).flatMap Prod.snd).Perm (rows.map value) := by
  induction rows using List.reverseRecOn with
  | nil => exact .refl _
  | append_singleton rows r ih =>
    rw [groupBy_concat, List.map_append]
    refine (addTo_perm _ _ _).trans ((ih.cons (value r)).trans ?_)
    exact (List.perm_append_singleton (value r) (rows.map value)).symm

/-- Where no key has more than `k` rows there is a group for every `k` of them. -/
theorem Grouped.length_le (h : Grouped key value rows groups)
    (hperm : (groups.flatMap Prod.snd).Perm (rows.map value))
    (hk : ∀ x, (rows.filter fun r => key r = x).length ≤ k) : rows.length ≤ groups.length * k := by
  have hsum : rows.length = (groups.map fun group => group.2.length).sum := by
    rw [← List.length_map (f := value), ← hperm.length_eq, List.length_flatMap]
  have hle : (groups.map fun group => group.2.length).sum ≤ (groups.map fun group => group.2.length).length • k := by
    apply List.sum_le_card_nsmul
    intro n hn
    obtain ⟨group, hgroup, rfl⟩ := List.mem_map.mp hn
    rw [h.values group hgroup, List.length_map]
    exact hk group.1
  rw [List.length_map, smul_eq_mul] at hle
  rw [hsum]
  exact hle

def slices (size : Nat) : Nat → List α → List (List α)
  | 0, _ => []
  | _ + 1, [] => []
  | turns + 1, v :: values => (v :: values).take size :: slices size turns ((v :: values).drop size)

def chunked (size : Nat) (values : List α) : List (List α) := slices size values.length values

theorem flatten_slices (hsize : 0 < size) (turns : Nat) (values : List α) (hturns : values.length ≤ turns) :
    (slices size turns values).flatten = values := by
  induction turns generalizing values with
  | zero =>
    rw [List.eq_nil_of_length_eq_zero (Nat.le_zero.mp hturns)]
    rfl
  | succ turns ih =>
    cases values with
    | nil => rfl
    | cons v values =>
      have hshort : ((v :: values).drop size).length ≤ turns := by
        rw [List.length_drop]
        omega
      rw [slices, List.flatten_cons, ih _ hshort]
      exact List.take_append_drop size (v :: values)

theorem mem_slices (hsize : 0 < size) (turns : Nat) (h : chunk ∈ slices size turns values) :
    chunk ≠ [] ∧ chunk.length ≤ size := by
  induction turns generalizing values with
  | zero => cases h
  | succ turns ih =>
    cases values with
    | nil => cases h
    | cons =>
      rcases List.mem_cons.mp h with rfl | hrest
      · constructor
        · intro hnil
          rcases List.take_eq_nil_iff.mp hnil with h₁ | h₁
          · exact hsize.ne' h₁
          · exact List.cons_ne_nil _ _ h₁
        · rw [List.length_take]
          exact Nat.min_le_left _ _
      · exact ih hrest

theorem flatten_chunked (hsize : 0 < size) (values : List α) : (chunked size values).flatten = values :=
  flatten_slices hsize values.length values (Nat.le_refl _)

theorem mem_chunked (hsize : 0 < size) (h : chunk ∈ chunked size values) : chunk ≠ [] ∧ chunk.length ≤ size :=
  mem_slices hsize values.length h

variable {χ : Type} {β : Type*}

def UpToFailure (chunkOf : β → χ) (failed : β → Bool) : List χ → List β → Prop
  | [], log => log = []
  | _ :: _, [] => False
  | chunk :: chunks, a :: log =>
    chunkOf a = chunk ∧ if failed a then log = [] else UpToFailure chunkOf failed chunks log

theorem UpToFailure.all
    (h : UpToFailure chunkOf failed chunks log) (hnone : ∀ a ∈ log, failed a = false) : log.map chunkOf = chunks := by
  induction chunks generalizing log with
  | nil =>
    cases h
    rfl
  | cons chunk chunks ih =>
    cases log with
    | nil => exact absurd h id
    | cons a =>
      obtain ⟨hchunk, hrest⟩ := h
      rw [hnone a List.mem_cons_self, if_neg Bool.false_ne_true] at hrest
      rw [List.map_cons, hchunk, ih hrest fun b hb => hnone b (List.mem_cons_of_mem _ hb)]

theorem UpToFailure.ne_nil (h : UpToFailure chunkOf failed chunks log) (hne : chunks ≠ []) : log ≠ [] := by
  cases chunks with
  | nil => exact absurd rfl hne
  | cons =>
    cases log with
    | nil => exact absurd h id
    | cons => exact List.cons_ne_nil _ _

end Batches
