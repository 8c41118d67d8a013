/-
Purpose: A sequence cut in order: the words of a text at its breaks, and ranges that follow each other, each reaching back
  over at most the last element of the one before.
-/
import Mathlib.Tactic.Common

namespace Cuts

variable {α : Type} {p : α → Bool}

def words (p : α → Bool) (text : List α) : List (List α) := (text.splitOnP p).filter (! ·.isEmpty)

@[simp]
theorem words_nil : words p [] = [] := by simp [words, List.splitOnP_nil]

/-- The equation from which the others follow. -/
theorem words_append_break (hs : p s = true) (x y : List α) : words p (x ++ s :: y) = words p x ++ words p y := by
  rw [words, List.splitOnP_append_cons x y hs, List.filter_append]
  rfl

theorem words_cons_break (hs : p s = true) (y : List α) : words p (s :: y) = words p y := by
  simpa using words_append_break hs [] y

theorem words_breaks (hs : ∀ c ∈ s, p c = true) (y : List α) : words p (s ++ y) = words p y := by
  induction s with
  | nil => rfl
  | cons c s ih =>
    rw [List.cons_append, words_cons_break (hs c List.mem_cons_self)]
    exact ih fun d hd => hs d (List.mem_cons_of_mem c hd)

/-- A text is cut by any number of breaks, but not by none. -/
theorem words_append_breaks (hne : s ≠ []) (hs : ∀ c ∈ s, p c = true) (x y : List α) :
    words p (x ++ (s ++ y)) = words p x ++ words p y := by
  obtain ⟨c, s, rfl⟩ := List.exists_cons_of_ne_nil hne
  rw [List.cons_append, words_append_break (hs c List.mem_cons_self),
    words_breaks fun d hd => hs d (List.mem_cons_of_mem c hd)]

theorem words_append_end (hs : ∀ c ∈ s, p c = true) (x : List α) : words p (x ++ s) = words p x := by
  by_cases hne : s = []
  · rw [hne, List.append_nil]
  · simpa using words_append_breaks hne hs x []

/-- A text without a break is one word. -/
theorem words_unbroken (hne : w ≠ []) (hw : ∀ c ∈ w, p c = false) : words p w = [w] := by
  rw [words, List.splitOnP_eq_singleton hw]
  simp [hne]

theorem words_ne_nil (hc : c ∈ text) (hp : p c = false) : words p text ≠ [] := by
  induction text with
  | nil => cases hc
  | cons d text ih =>
    cases hd : p d with
    | true =>
      rw [words_cons_break hd]
      rcases List.mem_cons.mp hc with rfl | hc
      · exact absurd hd (by simp [hp])
      · exact ih hc
    | false =>
      obtain ⟨w, ws, hsplit⟩ := List.exists_cons_of_ne_nil (List.splitOnP_ne_nil p text)
      simp [words, List.splitOnP_cons_eq_if_modifyHead, hd, hsplit]

theorem words_intercalate (hne : s ≠ []) (hs : ∀ c ∈ s, p c = true) (texts : List (List α)) :
    words p (s.intercalate texts) = texts.flatMap (words p) := by
  induction texts with
  | nil => simp
  | cons x texts ih =>
    cases texts with
    | nil => simp
    | cons =>
      rw [List.intercalate_cons_cons, List.append_assoc, words_append_breaks hne hs, ih]
      rfl

/-- A range of a sequence. What stands before `fresh` it shares with the range before it. -/
structure Cut where
  first : Nat
  fresh : Nat
  stop : Nat

namespace Cut

def elements (c : Cut) (xs : List α) : List α := (xs.take c.stop).drop c.first

/-- The elements the range does not share with the one before it. -/
def own (c : Cut) (xs : List α) : List α := (xs.take c.stop).drop c.fresh

def Holds (c : Cut) (k : Nat) : Bool := c.first ≤ k && k < c.stop

/-- The ranges follow each other from `start` to `stop`. -/
def Tiles (start : Nat) : List Cut → Nat → Prop
  | [], stop => start = stop
  | c :: cuts, stop => (c.fresh = start ∧ c.fresh < c.stop) ∧ (c.first ≤ c.fresh ∧ c.fresh ≤ c.first + 1) ∧
      Tiles c.stop cuts stop

variable {start stop k : Nat} {cuts : List Cut}

theorem Tiles.le (h : Tiles start cuts stop) : start ≤ stop := by
  induction cuts generalizing start with
  | nil => exact Nat.le_of_eq h
  | cons c cuts ih =>
    obtain ⟨⟨rfl, hlt⟩, -, htiles⟩ := h
    exact Nat.le_trans (Nat.le_of_lt hlt) (ih htiles)

/-- Every range has elements of its own, and one at most that it shares. -/
theorem Tiles.reach (h : Tiles start cuts stop) :
    ∀ c ∈ cuts, (c.fresh < c.stop ∧ c.stop ≤ stop) ∧ (c.first ≤ c.fresh ∧ c.fresh ≤ c.first + 1) := by
  induction cuts generalizing start with
  | nil => nofun
  | cons c cuts ih =>
    obtain ⟨⟨rfl, hlt⟩, hshared, htiles⟩ := h
    intro d hd
    rcases List.mem_cons.mp hd with rfl | hd
    · exact ⟨⟨hlt, htiles.le⟩, hshared⟩
    · exact ih htiles d hd

theorem own_ne_nil {c : Cut} {xs : List α} (hfresh : c.fresh < c.stop) (hstop : c.stop ≤ xs.length) : c.own xs ≠ [] := by
  rw [own, ne_eq, List.drop_eq_nil_iff, List.length_take]
  omega

theorem own_subset (c : Cut) (xs : List α) : c.own xs ⊆ xs :=
  fun _ hx => List.mem_of_mem_take (List.mem_of_mem_drop hx)

/-- Without what they share, the ranges are the sequence. -/
theorem Tiles.flatMap_own (h : Tiles start cuts stop) (xs : List α) :
    cuts.flatMap (·.own xs) = (xs.take stop).drop start := by
  induction cuts generalizing start with
  | nil =>
    have hstop : start = stop := h
    rw [hstop, List.flatMap_nil, List.drop_eq_nil_of_le (List.length_take_le _ _)]
  | cons c cuts ih =>
    obtain ⟨⟨rfl, hlt⟩, -, htiles⟩ := h
    have hle := htiles.le
    have htake : xs.take c.stop = (xs.take stop).take c.stop := by rw [List.take_take, Nat.min_eq_left hle]
    rw [List.flatMap_cons, ih htiles, own, htake, List.drop_take]
    conv_rhs => rw [← List.take_append_drop (c.stop - c.fresh) ((xs.take stop).drop c.fresh)]
    rw [List.drop_drop, Nat.add_sub_cancel' (Nat.le_of_lt hlt)]

theorem Tiles.before (h : Tiles start cuts stop) (hk : k + 1 < start) : cuts.filter (·.Holds k) = [] := by
  induction cuts generalizing start with
  | nil => rfl
  | cons c cuts ih =>
    obtain ⟨⟨rfl, hlt⟩, ⟨-, hfirst⟩, htiles⟩ := h
    rw [List.filter_cons_of_neg (by simp [Holds]; omega)]
    exact ih htiles (by omega)

theorem Tiles.once (h : Tiles start cuts stop) (hk : k < start) : (cuts.filter (·.Holds k)).length ≤ 1 := by
  cases cuts with
  | nil => simp
  | cons =>
    obtain ⟨⟨rfl, hlt⟩, -, htiles⟩ := h
    rw [List.filter_cons, htiles.before (by omega)]
    split <;> simp

/-- No element is in more than two ranges. -/
theorem Tiles.twice (h : Tiles start cuts stop) (k : Nat) : (cuts.filter (·.Holds k)).length ≤ 2 := by
  induction cuts generalizing start with
  | nil => simp
  | cons c cuts ih =>
    obtain ⟨-, -, htiles⟩ := h
    by_cases hk : k < c.stop
    · have hrest := htiles.once hk
      rw [List.filter_cons]
      split
      · simpa using hrest
      · omega
    · rw [List.filter_cons_of_neg (by simp [Holds]; omega)]
      exact ih htiles

end Cut

end Cuts
