/-
Purpose: What one thing sets off, and what that sets off in turn. A cascade is read level by level.
-/
import Mathlib.Algebra.GroupWithZero.Nat
import Mathlib.Algebra.Order.BigOperators.Group.List
import Mathlib.Algebra.Order.Group.Nat
import Mathlib.Logic.Relation

namespace Cascade

variable {α : Type} {children : α → List α}

/-- `b` is among what `a` sets off, at once or in the end. -/
abbrev Leads (children : α → List α) (a b : α) : Prop := Relation.ReflTransGen (fun a b => b ∈ children a) a b

/-- What is `k` steps below the root. -/
def level (children : α → List α) (root : α) : Nat → List α
  | 0 => [root]
  | k + 1 => (level children root k).flatMap children

/-- The cascade down to a depth. -/
def upTo (children : α → List α) (root : α) (depth : Nat) : List α :=
  (List.range (depth + 1)).flatMap (level children root)

theorem exists_level (h : Leads children root a) : ∃ k, a ∈ level children root k := by
  induction h with
  | refl => exact ⟨0, List.mem_singleton.mpr rfl⟩
  | tail _ hchild ih =>
    obtain ⟨k, hk⟩ := ih
    exact ⟨k + 1, List.mem_flatMap.mpr ⟨_, hk, hchild⟩⟩

section Ranks

variable {rank : α → Nat} (hrank : ∀ a, ∀ b ∈ children a, rank b = rank a + 1)

include hrank

theorem rank_of_mem_level (h : a ∈ level children root k) : rank a = rank root + k := by
  induction k generalizing a with
  | zero => rw [List.mem_singleton.mp h, Nat.add_zero]
  | succ k ih =>
    obtain ⟨b, hb, hchild⟩ := List.mem_flatMap.mp h
    rw [hrank b a hchild, ih hb, Nat.add_assoc]

theorem mem_upTo (hbound : ∀ a, ∀ b ∈ children a, rank b ≤ rank root + depth)
    (h : Leads children root a) : a ∈ upTo children root depth := by
  have hle : rank a ≤ rank root + depth := by
    rcases h.cases_tail with rfl | ⟨b, _, hchild⟩
    · exact Nat.le_add_right _ _
    · exact hbound b a hchild
  obtain ⟨k, hk⟩ := exists_level h
  have hrankOf := rank_of_mem_level hrank hk
  exact List.mem_flatMap.mpr ⟨k, List.mem_range.mpr (by omega), hk⟩

end Ranks

section Sizes

variable {b : Nat} (hchildren : ∀ a, (children a).length ≤ b)

include hchildren

theorem length_level_le (root : α) (k : Nat) : (level children root k).length ≤ b ^ k := by
  induction k with
  | zero => exact Nat.le_refl _
  | succ k ih =>
    calc (level children root (k + 1)).length
        = ((level children root k).map fun a => (children a).length).sum := List.length_flatMap
      _ ≤ (level children root k).length * b := by
          have hsum := List.sum_le_card_nsmul ((level children root k).map fun a => (children a).length) b (by
            intro n hn
            obtain ⟨a, _, rfl⟩ := List.mem_map.mp hn
            exact hchildren a)
          simpa using hsum
      _ ≤ b ^ k * b := Nat.mul_le_mul_right b ih
      _ = b ^ (k + 1) := (Nat.pow_succ b k).symm

theorem length_upTo_le (root : α) (depth : Nat) :
    (upTo children root depth).length ≤ ((List.range (depth + 1)).map fun k => b ^ k).sum := by
  rw [upTo, List.length_flatMap]
  apply List.sum_le_sum
  intro k _
  exact length_level_le hchildren root k

end Sizes

end Cascade
