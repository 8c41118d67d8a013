/-
Purpose: An order kept as a number on each item, ties broken by the item's id, and the move of one item.
-/
import Mathlib.Data.Prod.Lex
import WhatsappCrm.Lib.Keyset
import WhatsappCrm.Lib.Table

namespace Positions

open Keyset Table

/-- An item's place in the order. -/
structure Seat (ι : Type) where
  position : Int
  id : ι

variable {ι : Type}

def Seat.key (s : Seat ι) : Int ×ₗ ι := toLex (s.position, s.id)

theorem Seat.key_inj {a b : Seat ι} (h : a.key = b.key) : a = b := by
  cases a
  cases b
  simpa [Seat.key] using h

variable [LinearOrder ι]

/-- `ORDER BY position, id`. -/
def inOrder (a b : Seat ι) : Bool := a.position < b.position || (a.position = b.position && a.id ≤ b.id)

theorem Seat.key_lt_iff {a b : Seat ι} : a.key < b.key ↔ a.position < b.position ∨ a.position = b.position ∧ a.id < b.id := by
  rw [Seat.key, Seat.key, Prod.Lex.toLex_lt_toLex]

theorem inOrder_sortsBy : SortsBy (inOrder (ι := ι)) Seat.key := by
  intro a b
  simp [inOrder, Seat.key, Prod.Lex.toLex_le_toLex]

def order (seats : List (Seat ι)) : List ι := (sortBy inOrder seats).map Seat.id

/-- One item comes before the other. -/
def Precedes (seats : List (Seat ι)) (a b : ι) : Prop := [a, b].Sublist (order seats)

instance (seats : List (Seat ι)) (a b : ι) : Decidable (Precedes seats a b) := by
  unfold Precedes
  infer_instance

/-- Which of two items comes first is a matter of their keys. -/
theorem precedes_iff {seats : List (Seat ι)} (hids : (seats.map Seat.id).Nodup) {a b : Seat ι} (ha : a ∈ seats)
    (hb : b ∈ seats) (hne : a.id ≠ b.id) : Precedes seats a.id b.id ↔ a.key < b.key := by
  have hkeys : a.key ≠ b.key := fun heq => hne (congrArg Seat.id (Seat.key_inj heq))
  constructor
  · intro h
    obtain ⟨pair, hpair, hmap⟩ := List.sublist_map_iff.mp h
    obtain ⟨x, rest, rfl, hx, hrest⟩ := List.map_eq_cons_iff.mp hmap.symm
    obtain ⟨y, nothing, rfl, hy, hnothing⟩ := List.map_eq_cons_iff.mp hrest
    cases List.map_eq_nil_iff.mp hnothing
    have hmem : ∀ s ∈ [x, y], s ∈ seats := fun s hs => (sortBy_perm inOrder seats).mem_iff.mp (hpair.subset hs)
    have hxa : x = a := List.inj_on_of_nodup_map hids (hmem x List.mem_cons_self) ha hx
    have hyb : y = b := List.inj_on_of_nodup_map hids (hmem y (List.mem_cons_of_mem x List.mem_cons_self)) hb hy
    subst hxa hyb
    have hle := List.pairwise_iff_forall_sublist.mp (pairwise_sortBy inOrder_sortsBy seats) hpair
    exact lt_of_le_of_ne hle hkeys
  · intro h
    have hle : inOrder a b = true := (inOrder_sortsBy a b).mpr (le_of_lt h)
    have hpair : [a, b].Subperm seats := by
      apply List.subperm_of_subset
      · simpa using fun heq : a = b => hne (congrArg Seat.id heq)
      · intro s hs
        rcases List.mem_cons.mp hs with rfl | hs
        · exact ha
        · rwa [List.mem_singleton.mp hs]
    have htotal : Std.Total fun a b : Seat ι => inOrder a b = true := by
      constructor
      intro a b
      rw [inOrder_sortsBy, inOrder_sortsBy]
      exact le_total a.key b.key
    have htrans : IsTrans (Seat ι) fun a b => inOrder a b = true := by
      constructor
      intro a b c hab hbc
      rw [inOrder_sortsBy] at hab hbc ⊢
      exact hab.trans hbc
    have hantisymm : Std.Antisymm fun a b : Seat ι => inOrder a b = true := by
      constructor
      intro a b hab hba
      rw [inOrder_sortsBy] at hab hba
      exact Seat.key_inj (le_antisymm hab hba)
    have hsorted : [a, b].Sublist (sortBy inOrder seats) :=
      List.pair_sublist_insertionSort' (r := fun a b => inOrder a b = true) hle hpair
    exact hsorted.map Seat.id

/-- Where an item the move passes goes. -/
def shifted (old new position : Int) : Int :=
  if old < new then (if old < position ∧ position ≤ new then position - 1 else position)
  else if new ≤ position ∧ position < old then position + 1 else position

def Seat.moved (id : ι) (old new : Int) (s : Seat ι) : Seat ι :=
  { s with position := if s.id = id then new else shifted old new s.position }

def move (id : ι) (old new : Int) (seats : List (Seat ι)) : List (Seat ι) := seats.map (Seat.moved id old new)

/-- An item sharing the old place is met there by its neighbour, with its id on the other side of the neighbour's. -/
def Overtaken (old new : Int) (a b : Seat ι) : Prop :=
  a.position = old ∧
    (old < new ∧ b.position = old + 1 ∧ b.id < a.id ∨ new < old ∧ b.position = old - 1 ∧ a.id < b.id)

instance (old new : Int) (a b : Seat ι) : Decidable (Overtaken old new a b) := by
  unfold Overtaken
  infer_instance

theorem shifted_lt_or (old new : Int) (h : p < q) : shifted old new p < shifted old new q ∨
      shifted old new p = shifted old new q ∧ (old < new ∧ p = old ∧ q = old + 1 ∨ new < old ∧ q = old ∧ p = old - 1) := by
  unfold shifted
  split
  · split <;> split <;> omega
  · split <;> split <;> omega

theorem map_id_move (id : ι) (old new : Int) (seats : List (Seat ι)) :
    (move id old new seats).map Seat.id = seats.map Seat.id := by
  rw [move, List.map_map]
  rfl

section Pair

variable {seats : List (Seat ι)} {id : ι} {new : Int} {a b : Seat ι}

theorem key_lt_moved (ha : a.id ≠ id) (hb : b.id ≠ id) (hne : a.id ≠ b.id) (hab : ¬Overtaken old new a b)
    (hba : ¬Overtaken old new b a) (h : a.key < b.key) : (a.moved id old new).key < (b.moved id old new).key := by
  rw [Seat.key_lt_iff] at h ⊢
  simp only [Seat.moved, if_neg ha, if_neg hb]
  rcases h with hlt | ⟨heq, hid⟩
  · rcases shifted_lt_or old new hlt with hlt' | ⟨heq', ⟨hdown, ha', hb'⟩ | ⟨hup, hb', ha'⟩⟩
    · exact Or.inl hlt'
    · have hid : ¬b.id < a.id := fun hid => hab ⟨ha', Or.inl ⟨hdown, hb', hid⟩⟩
      exact Or.inr ⟨heq', lt_of_le_of_ne (not_lt.mp hid) hne⟩
    · have hid : ¬b.id < a.id := fun hid => hba ⟨hb', Or.inr ⟨hup, ha', hid⟩⟩
      exact Or.inr ⟨heq', lt_of_le_of_ne (not_lt.mp hid) hne⟩
  · exact Or.inr ⟨by rw [heq], hid⟩

theorem Overtaken.meet (h : Overtaken old new a b) :
    shifted old new a.position = old ∧ shifted old new b.position = old := by
  obtain ⟨ha, hb⟩ := h
  unfold shifted
  constructor
  · split <;> split <;> omega
  · split <;> split <;> omega

theorem Overtaken.key_lt (h : Overtaken old new a b) : a.key < b.key ↔ old < new := by
  rw [Seat.key_lt_iff]
  obtain ⟨ha, ⟨hdown, hb, _⟩ | ⟨hup, hb, _⟩⟩ := h
  · exact iff_of_true (Or.inl (by omega)) hdown
  · exact iff_of_false (by omega) (by omega)

theorem Overtaken.key_lt_moved (ha : a.id ≠ id) (hb : b.id ≠ id) (h : Overtaken old new a b) :
    (a.moved id old new).key < (b.moved id old new).key ↔ new < old := by
  rw [Seat.key_lt_iff]
  simp only [Seat.moved, if_neg ha, if_neg hb, h.meet.1, h.meet.2, lt_irrefl, false_or, true_and]
  obtain ⟨_, ⟨hdown, _, hid⟩ | ⟨hup, _, hid⟩⟩ := h
  · exact iff_of_false (lt_asymm hid) (by omega)
  · exact iff_of_true hid hup

theorem Overtaken.not_kept (ha : a.id ≠ id) (hb : b.id ≠ id) (h : Overtaken old new a b) :
    ¬((a.moved id old new).key < (b.moved id old new).key ↔ a.key < b.key) := by
  rw [h.key_lt_moved ha hb, h.key_lt]
  have hmoves : old < new ∨ new < old := h.2.imp And.left And.left
  omega

theorem moved_mem_move (hs : s ∈ seats) (id : ι) (old new : Int) : s.moved id old new ∈ move id old new seats :=
  List.mem_map_of_mem hs

variable (hids : (seats.map Seat.id).Nodup) (ha : a ∈ seats) (hb : b ∈ seats)

include hids ha hb

theorem precedes_move (hne : a.id ≠ b.id) : Precedes (move id old new seats) a.id b.id ↔
    (a.moved id old new).key < (b.moved id old new).key := by
  have hids' : ((move id old new seats).map Seat.id).Nodup := by rwa [map_id_move]
  exact precedes_iff hids' (moved_mem_move ha id old new) (moved_mem_move hb id old new) hne

/-- Two items keep their order under the move of a third exactly when neither is overtaken by the other. -/
theorem precedes_move_iff (hida : a.id ≠ id) (hidb : b.id ≠ id) (hne : a.id ≠ b.id) :
    (Precedes (move id old new seats) a.id b.id ↔ Precedes seats a.id b.id) ↔
      ¬Overtaken old new a b ∧ ¬Overtaken old new b a := by
  rw [precedes_move hids ha hb hne, precedes_iff hids ha hb hne]
  have hkeys : a.key ≠ b.key := fun heq => hne (congrArg Seat.id (Seat.key_inj heq))
  constructor
  · intro hkept
    constructor
    · exact fun hover => hover.not_kept hida hidb hkept
    · intro hover
      apply hover.not_kept hidb hida
      have hkeys' : (a.moved id old new).key ≠ (b.moved id old new).key := by
        intro heq
        have hid : (a.moved id old new).id = (b.moved id old new).id := congrArg Seat.id (Seat.key_inj heq)
        exact hne hid
      rw [← hkeys.symm.le_iff_lt, ← hkeys'.symm.le_iff_lt, ← not_lt, ← not_lt, hkept]
  · rintro ⟨hab, hba⟩
    constructor
    · intro h
      rcases hkeys.lt_or_gt with hlt | hgt
      · exact hlt
      · exact absurd h (lt_asymm (key_lt_moved hidb hida hne.symm hba hab hgt))
    · exact key_lt_moved hida hidb hne hab hba

end Pair

/-- The item stands at the new place, and everything else stays on its side of it. -/
def Lands (id : ι) (old new : Int) (seats after : List (Seat ι)) : Prop :=
  (∀ s ∈ after, s.id = id → s.position = new) ∧
    ∀ s ∈ seats, s.id ≠ id →
      (Precedes after s.id id ↔
        if old < new then s.position ≤ new else if new < old then s.position < new else Precedes seats s.id id)

theorem shifted_self (position p : Int) : shifted position position p = p := by
  unfold shifted
  split <;> split <;> omega

theorem lands {seats : List (Seat ι)} (hids : (seats.map Seat.id).Nodup) (hs : s ∈ seats) (new : Int) :
    Lands s.id s.position new seats (move s.id s.position new seats) := by
  constructor
  · intro s' hs' hid
    obtain ⟨s₀, _, rfl⟩ := List.mem_map.mp hs'
    exact if_pos hid
  · intro a ha hne
    rw [precedes_move hids ha hs hne, Seat.key_lt_iff]
    simp only [Seat.moved, if_neg hne, if_true]
    split
    · unfold shifted
      split <;> split <;> constructor <;> intro h <;> omega
    · split
      · unfold shifted
        split <;> split <;> constructor <;> intro h <;> omega
      · have hsame : s.position = new := by omega
        rw [precedes_iff hids ha hs hne, Seat.key_lt_iff, ← hsame, shifted_self]

/-- Only the item moves: every other pair keeps its order, and the item lands where it was to go. -/
def MovesOnly (id : ι) (old new : Int) (seats after : List (Seat ι)) : Prop :=
  (∀ a ∈ seats, ∀ b ∈ seats, a.id ≠ id → b.id ≠ id → a.id ≠ b.id →
    (Precedes after a.id b.id ↔ Precedes seats a.id b.id)) ∧ Lands id old new seats after

theorem movesOnly_move_iff {seats : List (Seat ι)} (hids : (seats.map Seat.id).Nodup) (hs : s ∈ seats)
    (new : Int) : MovesOnly s.id s.position new seats (move s.id s.position new seats) ↔
      ∀ a ∈ seats, ∀ b ∈ seats, a.id ≠ s.id → b.id ≠ s.id → ¬Overtaken s.position new a b := by
  constructor
  · intro h a ha b hb hida hidb hover
    have hne : a.id ≠ b.id := by
      intro heq
      obtain ⟨_, ⟨_, _, hid⟩ | ⟨_, _, hid⟩⟩ := hover
      · exact absurd heq.symm (ne_of_lt hid)
      · exact absurd heq (ne_of_lt hid)
    exact ((precedes_move_iff hids ha hb hida hidb hne).mp (h.1 a ha b hb hida hidb hne)).1 hover
  · intro h
    refine ⟨fun a ha b hb hida hidb hne => ?_, lands hids hs new⟩
    exact (precedes_move_iff hids ha hb hida hidb hne).mpr ⟨h a ha b hb hida hidb, h b hb a ha hidb hida⟩

theorem find?_row {ρ κ : Type} {key : ρ → κ} {p : ρ → Bool} {rows : List ρ} {r : ρ} (hkeys : (rows.map key).Nodup)
    (hr : r ∈ rows) (hp : p r = true) (hkey : ∀ r', p r' = true → key r' = key r) : rows.find? p = some r := by
  cases hfound : rows.find? p with
  | none => exact absurd hp (List.find?_eq_none.mp hfound r hr)
  | some r' =>
    have hsame := hkey r' (List.find?_some hfound)
    rw [List.inj_on_of_nodup_map hkeys (List.mem_of_find?_eq_some hfound) hr hsame]

structure Seating (ρ ι : Type) where
  id : ρ → ι
  position : ρ → Int
  place : Int → ρ → ρ
  id_place : ∀ p r, id (place p r) = id r
  position_place : ∀ p r, position (place p r) = p

namespace Seating

variable {ρ : Type} (P : Seating ρ ι)

def seat (r : ρ) : Seat ι where
  position := P.position r
  id := P.id r

def seats (mine : ρ → Bool) (rows : List ρ) : List (Seat ι) := (rows.filter mine).map P.seat

/-- What the move passes is shifted by one, in one statement. -/
def shiftBetween (mine : ρ → Bool) (moved : ι) (old new : Int) (rows : List ρ) : List ρ :=
  if old < new then
    updateWhere (fun r => mine r ∧ P.id r ≠ moved ∧ old < P.position r ∧ P.position r ≤ new)
      (fun r => P.place (P.position r - 1) r) rows
  else
    updateWhere (fun r => mine r ∧ P.id r ≠ moved ∧ new ≤ P.position r ∧ P.position r < old)
      (fun r => P.place (P.position r + 1) r) rows

def rewrite (mine : ρ → Bool) (moved : ι) (write : ρ → ρ) (rows : List ρ) : List ρ :=
  updateWhere (fun r => mine r ∧ P.id r = moved) write rows

variable {P}

section Shift

variable {mine : ρ → Bool} {moved : ι} {new : Int}

structure ShiftOf (P : Seating ρ ι) (mine : ρ → Bool) (moved : ι) (old new : Int) (r r' : ρ) : Prop where
  visible : mine r' = mine r
  id : P.id r' = P.id r
  kept : P.id r = moved → r' = r
  position : mine r = true → P.id r ≠ moved → P.position r' = shifted old new (P.position r)

theorem shiftBetween_eq_map (moved : ι) (old new : Int) (hmine : ∀ p r, mine (P.place p r) = mine r) (rows : List ρ) :
    ∃ g : ρ → ρ, P.shiftBetween mine moved old new rows = rows.map g ∧ ∀ r, ShiftOf P mine moved old new r (g r) := by
  unfold shiftBetween
  split
  · rename_i hdown
    refine ⟨_, rfl, fun r => ?_⟩
    split
    · rename_i hsel
      have hbetween := of_decide_eq_true hsel
      refine ⟨hmine _ r, P.id_place _ r, fun hid => absurd hid hbetween.2.1, fun _ _ => ?_⟩
      rw [P.position_place, shifted, if_pos hdown, if_pos hbetween.2.2]
    · rename_i hsel
      refine ⟨rfl, rfl, fun _ => rfl, fun hr hid => ?_⟩
      have hout : ¬(old < P.position r ∧ P.position r ≤ new) := fun h => hsel (decide_eq_true ⟨hr, hid, h⟩)
      rw [shifted, if_pos hdown, if_neg hout]
  · rename_i hup
    refine ⟨_, rfl, fun r => ?_⟩
    split
    · rename_i hsel
      have hbetween := of_decide_eq_true hsel
      refine ⟨hmine _ r, P.id_place _ r, fun hid => absurd hid hbetween.2.1, fun _ _ => ?_⟩
      rw [P.position_place, shifted, if_neg hup, if_pos hbetween.2.2]
    · rename_i hsel
      refine ⟨rfl, rfl, fun _ => rfl, fun hr hid => ?_⟩
      have hout : ¬(new ≤ P.position r ∧ P.position r < old) := fun h => hsel (decide_eq_true ⟨hr, hid, h⟩)
      rw [shifted, if_neg hup, if_neg hout]

theorem shiftBetween_self (mine : ρ → Bool) (moved : ι) (position : Int) (rows : List ρ) :
    P.shiftBetween mine moved position position rows = rows := by
  rw [shiftBetween, if_neg (lt_irrefl position)]
  apply updateWhere_of_none
  intro r _
  apply decide_eq_false
  rintro ⟨_, _, hle, hlt⟩
  exact absurd hlt (not_lt.mpr hle)

theorem seats_rewrite (hmine : ∀ p r, mine (P.place p r) = mine r)
    (hwrite : ∀ r, mine (write r) = mine r ∧ P.id (write r) = P.id r ∧ P.position (write r) = new) (rows : List ρ) :
    P.seats mine (P.rewrite mine moved write (P.shiftBetween mine moved old new rows)) =
      move moved old new (P.seats mine rows) := by
  obtain ⟨g, hg, hshift⟩ := P.shiftBetween_eq_map moved old new hmine rows
  let written := fun r => if mine (g r) ∧ P.id (g r) = moved then write (g r) else g r
  have hwritten : P.rewrite mine moved write (P.shiftBetween mine moved old new rows) = rows.map written := by
    rw [hg, rewrite, updateWhere, List.map_map]
    apply List.map_congr_left
    intro r _
    simp only [Function.comp_apply, decide_eq_true_eq, written]
  have hkept : ∀ r, mine (written r) = mine r := by
    intro r
    simp only [written]
    split
    · rw [(hwrite (g r)).1, (hshift r).visible]
    · exact (hshift r).visible
  have hfilter : rows.filter (mine ∘ written) = rows.filter mine := List.filter_congr fun r _ => hkept r
  rw [hwritten, seats, List.filter_map, hfilter, List.map_map, move, seats, List.map_map]
  apply List.map_congr_left
  intro r hr
  have hmem : mine r = true := (List.mem_filter.mp hr).2
  simp only [Function.comp_apply, written, seat, Seat.moved, Seat.mk.injEq, (hshift r).visible, (hshift r).id, hmem, true_and]
  by_cases hid : P.id r = moved
  · simp only [hid, if_true]
    exact ⟨(hwrite (g r)).2.2, (hwrite (g r)).2.1.trans ((hshift r).id.trans hid)⟩
  · simp only [hid, if_false]
    exact ⟨(hshift r).position hmem hid, (hshift r).id⟩

end Shift

end Seating

end Positions
