/-
Purpose: A store whose entries lapse: an entry stands under its key up to and including its deadline. A count of failures
  that locks for one period at every multiple of a threshold.
-/
import Mathlib.Tactic.Common

namespace Expiring

variable {κ ν : Type}

structure Entry (κ ν : Type) where
  key : κ
  value : ν
  deadline : Int

abbrev Store (κ ν : Type) := List (Entry κ ν)

def Entry.live (e : Entry κ ν) (now : Int) : Bool := now ≤ e.deadline

variable [DecidableEq κ]

def find (s : Store κ ν) (now : Int) (k : κ) : Option (Entry κ ν) :=
  List.find? (fun e => e.key = k && e.live now) s

/-- How long the key still stands; negative when nothing does. -/
def remaining (s : Store κ ν) (now : Int) (k : κ) : Int :=
  match find s now k with
  | none => -2
  | some e => e.deadline - now

def put (s : Store κ ν) (k : κ) (v : ν) (deadline : Int) : Store κ ν :=
  { key := k, value := v, deadline } :: s.filter fun e => e.key ≠ k

def erase (s : Store κ ν) (p : κ → Bool) : Store κ ν := s.filter fun e => !p e.key

theorem find_some {now : Int} {e : Entry κ ν} (h : find s now k = some e) :
    e ∈ s ∧ e.key = k ∧ e.live now = true := by
  have hfound := List.find?_some h
  simp only [Bool.and_eq_true, decide_eq_true_eq] at hfound
  exact ⟨List.mem_of_find?_eq_some h, hfound.1, hfound.2⟩

theorem mem_put {e : Entry κ ν} :
    e ∈ put s k v deadline ↔ e = { key := k, value := v, deadline } ∨ e ∈ s ∧ e.key ≠ k := by
  simp [put]

omit [DecidableEq κ] in
theorem mem_erase : e ∈ erase s p ↔ e ∈ s ∧ p e.key = false := by
  simp [erase]

theorem find_none_later {now : Int} {k : κ} (h : find s now k = none) (hlater : now ≤ later) :
    find s later k = none := by
  apply List.find?_eq_none.mpr
  intro e he
  have hnone := List.find?_eq_none.mp h e he
  simp only [Entry.live, Bool.and_eq_true, decide_eq_true_eq, not_and] at hnone ⊢
  intro hkey
  have := hnone hkey
  omega

/-- What stands under a key after a write. -/
theorem find_put (s : Store κ ν) (k : κ) (v : ν) (deadline now : Int) (k' : κ) : find (put s k v deadline) now k' =
      if k' = k then (if now ≤ deadline then some { key := k, value := v, deadline } else none)
      else find s now k' := by
  by_cases hk : k' = k
  · subst hk
    rw [if_pos rfl]
    by_cases hnow : now ≤ deadline
    · simp [find, put, Entry.live, hnow]
    · rw [if_neg hnow]
      apply List.find?_eq_none.mpr
      intro e he
      rcases mem_put.mp he with rfl | ⟨_, hother⟩
      · simp [Entry.live, hnow]
      · simp [hother]
  · rw [if_neg hk, find, put, List.find?_cons, List.find?_filter]
    have hother : (decide (k = k') && (Entry.mk k v deadline).live now) = false := by
      simp [Ne.symm hk]
    simp only [hother]
    refine congrArg (fun p => List.find? p s) (funext fun e => ?_)
    by_cases he : e.key = k'
    · simp [he, hk]
    · simp [he]

theorem remaining_put_self (s : Store κ ν) (k : κ) (v : ν) (deadline now : Int) :
    (remaining (put s k v deadline) now k).toNat = (deadline - now).toNat := by
  rw [remaining, find_put, if_pos rfl]
  by_cases hnow : now ≤ deadline
  · rw [if_pos hnow]
  · rw [if_neg hnow]
    have hpast : deadline - now ≤ 0 := by omega
    simp [Int.toNat_of_nonpos hpast]

end Expiring

namespace Lockout

/-- On which failures it locks, and for how long; it forgets a run of failures after the same time. -/
structure Policy where
  threshold : Nat
  period : Int

/-- What is shown at each instant: the failures that count, and how long the lock still holds. -/
@[ext]
structure Tally where
  count : Int → Nat
  wait : Int → Nat

namespace Tally

/-- Nothing counts and nothing is locked. -/
def rested : Tally := { count := fun _ => 0, wait := fun _ => 0 }

/-- One more failure. -/
def fail (P : Policy) (now : Int) (t : Tally) : Tally where
  count later := if later ≤ now + P.period then t.count now + 1 else 0
  wait later := if (t.count now + 1) % P.threshold = 0 then (now + P.period - later).toNat else t.wait later

/-- Two tallies show the same from now on. -/
def Agrees (now : Int) (t t' : Tally) : Prop :=
  ∀ later, now ≤ later → t.count later = t'.count later ∧ t.wait later = t'.wait later

variable {now : Int} {t : Tally}

theorem Agrees.trans (h : Agrees now t t') (h' : Agrees now t' t'') : Agrees now t t'' :=
  fun later hlater =>
    ⟨(h later hlater).1.trans (h' later hlater).1, (h later hlater).2.trans (h' later hlater).2⟩

theorem Agrees.later (h : Agrees now t t') (hnow : now ≤ now') : Agrees now' t t' :=
  fun later hlater => h later (Int.le_trans hnow hlater)

theorem Agrees.fail (P : Policy) (h : Agrees now t t') : Agrees now (t.fail P now) (t'.fail P now) := by
  intro later hlater
  have hcount := (h now (Int.le_refl now)).1
  have hwait := (h later hlater).2
  simp only [Tally.fail, hcount, hwait, and_self]

end Tally

end Lockout
