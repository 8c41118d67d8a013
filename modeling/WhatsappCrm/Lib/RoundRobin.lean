/-
Purpose: Taking turns: the next after a position is the least member of the pool beyond it, or the least of all when there
  is none.
-/
import Mathlib.Data.List.Sort
import Mathlib.Data.List.Rotate

namespace WhatsappCrm.RoundRobin

variable {α : Type} [LinearOrder α]

/-- `a` comes before `b` in the order that starts after the position: what lies beyond it first, then the members in
    order. -/
def Before (position : Option α) (a b : α) : Prop :=
  ((∃ p ∈ position, p < b) → ∃ p ∈ position, p < a) ∧
    (((∃ p ∈ position, p < a) → ∃ p ∈ position, p < b) → a ≤ b)

/-- The member of the ring that comes first after the position. -/
def IsNext (ring : List α) (position : Option α) (a : α) : Prop := a ∈ ring ∧ ∀ b ∈ ring, Before position a b

variable {ring : List α}

/-- After a member that is not the last one, the next is the one behind it; after the last, the first. -/
theorem IsNext.eq_getElem (hring : ring.Pairwise (· < ·)) (hi : i < ring.length)
    (h : IsNext ring (some ring[i]) a) (hnext : (i + 1) % ring.length < ring.length) :
    a = ring[(i + 1) % ring.length] := by
  have hlt : ∀ {j k : Nat} (hj : j < ring.length) (hk : k < ring.length), ring[j] < ring[k] ↔ j < k := by
    intro j k hj hk
    have hstrict := hring.sortedLT.strictMono_get
    exact hstrict.lt_iff_lt (a := ⟨j, hj⟩) (b := ⟨k, hk⟩)
  obtain ⟨hmem, hfirst⟩ := h
  obtain ⟨k, hk, rfl⟩ := List.getElem_of_mem hmem
  have hbefore : ∀ {j : Nat} (hj : j < ring.length),
      (i < j → i < k) ∧ ((i < k → i < j) → k ≤ j) := by
    intro j hj
    have hb := hfirst ring[j] (List.getElem_mem hj)
    simp only [Before, Option.mem_def, Option.some.injEq, exists_eq_left', hlt hi hj, hlt hi hk] at hb
    refine ⟨hb.1, fun himp => ?_⟩
    rw [← Nat.not_lt, ← hlt hj hk, not_lt]
    exact hb.2 himp
  congr 1
  by_cases hlast : i + 1 < ring.length
  · have hbehind := hbefore hlast
    have hbeyond : i < k := hbehind.1 (Nat.lt_succ_self i)
    rw [Nat.mod_eq_of_lt hlast]
    exact Nat.le_antisymm (hbehind.2 fun _ => Nat.lt_succ_self i) hbeyond
  · have hend : i + 1 = ring.length := Nat.le_antisymm hi (Nat.not_lt.mp hlast)
    have hnone : ¬i < k := by omega
    have hfirst := (hbefore (Nat.zero_lt_of_lt hi)).2 fun h => absurd h hnone
    rw [hend, Nat.mod_self]
    exact Nat.le_zero.mp hfirst

/-- Each turn goes to the next member after the one before it. -/
inductive Turns (ring : List α) : Option α → List α → Prop where
  | nil (position : Option α) : Turns ring position []
  | cons {position : Option α} {a : α} {turns : List α} (next : IsNext ring position a) (rest : Turns ring (some a) turns) :
      Turns ring position (a :: turns)

/-- Turns that begin after the member at `i` go on with the member behind it. -/
theorem Turns.getElem_of_member (hring : ring.Pairwise (· < ·)) (hi : i < ring.length)
    (h : Turns ring (some ring[i]) turns) (hk : k < turns.length)
    (hnext : (i + 1 + k) % ring.length < ring.length) : turns[k] = ring[(i + 1 + k) % ring.length] := by
  induction turns generalizing i k with
  | nil => cases hk
  | cons a turns ih =>
    cases h with
    | cons next rest =>
      have hpos : 0 < ring.length := Nat.zero_lt_of_lt hi
      have ha := next.eq_getElem hring hi (Nat.mod_lt _ hpos)
      cases k with
      | zero => exact ha
      | succ k =>
        subst ha
        have hk' : k < turns.length := Nat.lt_of_succ_lt_succ hk
        have hrest := ih (Nat.mod_lt (i + 1) hpos) rest hk' (Nat.mod_lt _ hpos)
        rw [List.getElem_cons_succ, hrest]
        congr 1
        rw [Nat.add_assoc, Nat.mod_add_mod]
        congr 1
        omega

/-- Turns go round the ring, from wherever the first one falls. -/
theorem Turns.getElem (hring : ring.Pairwise (· < ·)) (h : Turns ring position turns) (hpos : 0 < ring.length) :
    ∃ start, ∀ {k : Nat} (hk : k < turns.length) (hnext : (start + k) % ring.length < ring.length),
      turns[k] = ring[(start + k) % ring.length] := by
  cases h with
  | nil => exact ⟨0, nofun⟩
  | @cons _ a turns next rest =>
    obtain ⟨start, hstart, rfl⟩ := List.getElem_of_mem next.1
    refine ⟨start, fun {k} hk hnext => ?_⟩
    cases k with
    | zero =>
      simp only [List.getElem_cons_zero, Nat.add_zero, Nat.mod_eq_of_lt hstart]
    | succ =>
      have hrest := rest.getElem_of_member hring hstart (Nat.lt_of_succ_lt_succ hk) (Nat.mod_lt _ hpos)
      rw [List.getElem_cons_succ, hrest]
      congr 2
      omega

/-- As many consecutive turns as the ring has members are the ring, read round from some member. -/
theorem Turns.window (hring : ring.Pairwise (· < ·))
    (h : Turns ring position turns) (hfit : start + ring.length ≤ turns.length) :
    (turns.drop start).take ring.length ~r ring := by
  rcases Nat.eq_zero_or_pos ring.length with hempty | hpos
  · rw [hempty, List.take_zero, List.length_eq_zero_iff.mp hempty]
  · obtain ⟨offset, hturns⟩ := h.getElem hring hpos
    have hlength : ((turns.drop start).take ring.length).length = ring.length := by
      rw [List.length_take, List.length_drop]
      omega
    have hrotate : (turns.drop start).take ring.length = ring.rotate (offset + start) := by
      apply List.ext_getElem
      · rw [hlength, List.length_rotate]
      · intro k hk hk'
        have hk₀ : start + k < turns.length := by
          rw [hlength] at hk
          omega
        rw [List.getElem_take, List.getElem_drop, hturns hk₀ (Nat.mod_lt _ hpos), List.getElem_rotate]
        congr 2
        omega
    rw [hrotate]
    exact List.IsRotated.symm ⟨_, rfl⟩

section Loads

variable {β : Type}

def Level (pool : List β) (load : β → Nat) : Prop := ∀ a ∈ pool, ∀ b ∈ pool, load a ≤ load b + 1

theorem Level.of_equal (h : ∀ a ∈ pool, ∀ b ∈ pool, load a = load b) : Level pool load :=
  fun a ha b hb => (h a ha b hb).le.trans (Nat.le_succ _)

/-- One more for a member with the least load. -/
theorem Level.add [DecidableEq β] {load : β → Nat} (h : Level pool load)
    (hleast : ∀ b ∈ pool, load a ≤ load b) (hload : ∀ b, load' b = if b = a then load b + 1 else load b) :
    Level pool load' := by
  intro b hb c hc
  have hbc := h b hb c hc
  have hac := hleast c hc
  rw [hload b, hload c]
  by_cases hba : b = a
  · subst hba
    rw [if_pos rfl]
    split <;> omega
  · rw [if_neg hba]
    split <;> omega

end Loads

end WhatsappCrm.RoundRobin
