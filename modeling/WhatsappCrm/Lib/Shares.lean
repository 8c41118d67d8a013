/-
Purpose: Counting rows by their holder. When every row of a kind has one of `n` holders, none of whom has more than `k` such
  rows, there are at most `k` for each holder that has any.
-/
import Mathlib.Data.List.Count
import Mathlib.Tactic.Common

namespace Shares

variable {ρ : Type}

theorem countP_or_le (p q : ρ → Bool) (rows : List ρ) :
    rows.countP (fun r => p r || q r) ≤ rows.countP p + rows.countP q := by
  induction rows with
  | nil => simp
  | cons r =>
    simp only [List.countP_cons]
    cases p r <;> cases q r <;> simp <;> omega

/-- The holders below `n` among which the rows are counted. -/
theorem countP_le_below {rows : List ρ} {holder : ρ → Nat} {p : ρ → Bool}
    (hactive : ∀ r ∈ rows, p r = true → active (holder r) = true)
    (hshare : ∀ x, rows.countP (fun r => p r && holder r = x) ≤ k) (n : Nat) :
    rows.countP (fun r => p r && decide (holder r < n)) ≤ (List.range n).countP active * k := by
  induction n with
  | zero => simp
  | succ n =>
    have hsplit : rows.countP (fun r => p r && decide (holder r < n + 1)) ≤
        rows.countP (fun r => p r && decide (holder r < n)) + rows.countP (fun r => p r && holder r = n) := by
      refine Nat.le_trans (List.countP_mono_left fun r _ hr => ?_) (countP_or_le _ _ rows)
      simp only [Bool.and_eq_true, decide_eq_true_eq, Bool.or_eq_true] at hr ⊢
      obtain ⟨hp, hlt⟩ := hr
      rcases Nat.lt_succ_iff_lt_or_eq.mp hlt with hlt | heq
      · exact .inl ⟨hp, hlt⟩
      · exact .inr ⟨hp, heq⟩
    rw [List.range_succ, List.countP_append, List.countP_singleton, Nat.add_mul]
    cases hn : active n with
    | true =>
      have := hshare n
      simp only [if_true, Nat.one_mul]
      omega
    | false =>
      have hnone : rows.countP (fun r => p r && holder r = n) = 0 := by
        refine List.countP_eq_zero.mpr fun r hr hrow => ?_
        simp only [Bool.and_eq_true, decide_eq_true_eq] at hrow
        have := hactive r hr hrow.1
        rw [hrow.2, hn] at this
        cases this
      omega

theorem countP_le_mul {rows : List ρ} (holder : ρ → Nat) {p : ρ → Bool} (active : Nat → Bool)
    (hholder : ∀ r ∈ rows, p r = true → holder r < n) (hactive : ∀ r ∈ rows, p r = true → active (holder r) = true)
    (hshare : ∀ x, rows.countP (fun r => p r && holder r = x) ≤ k) (hm : (List.range n).countP active ≤ m) :
    rows.countP p ≤ m * k := by
  have hbelow : rows.countP p ≤ rows.countP (fun r => p r && decide (holder r < n)) := by
    refine List.countP_mono_left fun r hr hp => ?_
    simp [hp, hholder r hr hp]
  exact Nat.le_trans hbelow (Nat.le_trans (countP_le_below hactive hshare n) (Nat.mul_le_mul_right k hm))

end Shares
