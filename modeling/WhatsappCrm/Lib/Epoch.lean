/-
Purpose: A log that some of its records divide into epochs. What happens at most once in an epoch is decided by the
  current one.
-/
import Mathlib.Data.List.DropRight

namespace Epoch

variable {α : Type} {opens p : α → Bool} {stretch records : List α} {r : α}

/-- The records since the last opening. -/
def current (opens : α → Bool) (log : List α) : List α := log.rtakeWhile fun r => !opens r

/-- No two records of a stretch without an opening satisfy `p`. -/
def AtMostOnce (opens p : α → Bool) (log : List α) : Prop :=
  ∀ stretch, stretch <:+: log → (∀ r ∈ stretch, opens r = false) → stretch.countP p ≤ 1

@[simp] theorem current_nil : current opens ([] : List α) = [] := List.rtakeWhile_nil _

theorem current_concat_opening (h : opens r = true) : current opens (log ++ [r]) = [] := by
  apply List.rtakeWhile_concat_neg
  simp [h]

theorem current_concat (h : opens r = false) : current opens (log ++ [r]) = current opens log ++ [r] := by
  apply List.rtakeWhile_concat_pos
  simp [h]

theorem current_append (h : ∀ r ∈ records, opens r = false) :
    current opens (log ++ records) = current opens log ++ records := by
  induction records using List.reverseRecOn with
  | nil => simp
  | append_singleton records r ih =>
    have hrest := ih fun r' hr' => h r' (List.mem_append_left _ hr')
    rw [← List.append_assoc, current_concat (h r (by simp)), hrest, List.append_assoc]

theorem mem_of_current (h : r ∈ current opens log) : r ∈ log := (List.rtakeWhile_suffix _ _).mem h

theorem suffix_current (hsuffix : stretch <:+ log) (h : ∀ r ∈ stretch, opens r = false) :
    stretch <:+ current opens log := by
  obtain ⟨before, rfl⟩ := hsuffix
  rw [current_append h]
  exact List.suffix_append _ _

/-- At most `n` records of a stretch without an opening satisfy `p`. -/
def AtMost (n : Nat) (opens p : α → Bool) (log : List α) : Prop :=
  ∀ stretch, stretch <:+: log → (∀ r ∈ stretch, opens r = false) → stretch.countP p ≤ n

section AtMost

variable {n : Nat}

theorem AtMost.nil : AtMost n opens p [] := by
  intro stretch hstretch _
  rw [List.infix_nil.mp hstretch]
  exact Nat.zero_le n

theorem AtMost.concat (h : AtMost n opens p log) (hcurrent : (current opens (log ++ [r])).countP p ≤ n) :
    AtMost n opens p (log ++ [r]) := by
  intro stretch hstretch hnone
  rcases List.infix_concat_iff.mp hstretch with hsuffix | hinfix
  · exact Nat.le_trans ((suffix_current hsuffix hnone).sublist.countP_le) hcurrent
  · exact h stretch hinfix hnone

theorem AtMost.append (h : AtMost n opens p log) (hnone : ∀ r ∈ records, opens r = false)
    (hcurrent : (current opens log ++ records).countP p ≤ n) : AtMost n opens p (log ++ records) := by
  induction records using List.reverseRecOn with
  | nil => simpa using h
  | append_singleton records r ih =>
    have hrecords : ∀ r' ∈ records, opens r' = false := fun r' hr' => hnone r' (List.mem_append_left _ hr')
    have hfewer : (current opens log ++ records).countP p ≤ n := by
      refine Nat.le_trans (List.Sublist.countP_le ?_) hcurrent
      exact (List.sublist_append_left records [r]).append_left _
    rw [← List.append_assoc]
    apply (ih hrecords hfewer).concat
    rwa [List.append_assoc, current_append hnone]

theorem AtMost.open (h : AtMost n opens p log) (hr : opens r = true) : AtMost n opens p (log ++ [r]) := by
  apply h.concat
  rw [current_concat_opening hr]
  exact Nat.zero_le n

theorem AtMost.congr (h : AtMost n opens p log) (hpq : ∀ r ∈ log, q r = p r) : AtMost n opens q log := by
  intro stretch hstretch hnone
  rw [List.countP_congr fun r hr => by rw [hpq r (hstretch.mem hr)]]
  exact h stretch hstretch hnone

theorem AtMost.current_le (h : AtMost n opens p log) : (current opens log).countP p ≤ n := by
  apply h _ (List.rtakeWhile_suffix _ _).isInfix
  intro r hr
  simpa using List.mem_rtakeWhile_imp hr

end AtMost

theorem AtMostOnce.nil : AtMostOnce opens p [] := AtMost.nil

theorem AtMostOnce.append (h : AtMostOnce opens p log) (hnone : ∀ r ∈ records, opens r = false)
    (hcurrent : (current opens log ++ records).countP p ≤ 1) : AtMostOnce opens p (log ++ records) :=
  AtMost.append h hnone hcurrent

theorem AtMostOnce.concat (h : AtMostOnce opens p log) (hcurrent : (current opens (log ++ [r])).countP p ≤ 1) :
    AtMostOnce opens p (log ++ [r]) :=
  AtMost.concat h hcurrent

theorem AtMostOnce.current_le (h : AtMostOnce opens p log) : (current opens log).countP p ≤ 1 := AtMost.current_le h

end Epoch
