/-
Purpose: The three-valued logic of a `WHERE` clause. A comparison with NULL is unknown, the connectives are Kleene's, and a
  row is selected exactly when its clause is true.
-/
import Mathlib.Tactic.Common

namespace Sql

/-- True, false, or unknown (`none`). -/
abbrev Truth := Option Bool

namespace Truth

/-- `AND`: false if either is, true if both are. -/
def and : Truth → Truth → Truth
  | some false, _ => some false
  | _, some false => some false
  | some true, some true => some true
  | _, _ => none

/-- `OR`: true if either is, false if both are. -/
def or : Truth → Truth → Truth
  | some true, _ => some true
  | _, some true => some true
  | some false, some false => some false
  | _, _ => none

/-- `NOT`: what is not known stays unknown. -/
def not : Truth → Truth
  | some b => some (!b)
  | none => none

/-- The row is selected. -/
def isTrue (t : Truth) : Bool := t = some true

/-- The clause is known not to hold. -/
def isFalse (t : Truth) : Bool := t = some false

@[simp] theorem isTrue_some (b : Bool) : isTrue (some b) = b := by cases b <;> rfl

@[simp] theorem isFalse_some (b : Bool) : isFalse (some b) = !b := by cases b <;> rfl

@[simp] theorem isTrue_none : isTrue none = false := rfl

@[simp] theorem isTrue_and (s t : Truth) : (s.and t).isTrue = (s.isTrue && t.isTrue) := by
  rcases s with _ | _ | _ <;> rcases t with _ | _ | _ <;> rfl

@[simp] theorem isTrue_or (s t : Truth) : (s.or t).isTrue = (s.isTrue || t.isTrue) := by
  rcases s with _ | _ | _ <;> rcases t with _ | _ | _ <;> rfl

/-- `NOT` selects the rows its clause is known to be false of, not those it is not true of. -/
@[simp] theorem isTrue_not (t : Truth) : t.not.isTrue = t.isFalse := by
  rcases t with _ | _ | _ <;> rfl

@[simp] theorem isFalse_and (s t : Truth) : (s.and t).isFalse = (s.isFalse || t.isFalse) := by
  rcases s with _ | _ | _ <;> rcases t with _ | _ | _ <;> rfl

def all (clauses : List Truth) : Truth := clauses.foldr and (some true)

def any (clauses : List Truth) : Truth := clauses.foldr or (some false)

@[simp] theorem isTrue_all (clauses : List Truth) : (all clauses).isTrue = clauses.all isTrue := by
  induction clauses with
  | nil => rfl
  | cons t ts ih =>
    have hcons : all (t :: ts) = t.and (all ts) := rfl
    rw [hcons, isTrue_and, ih, List.all_cons]

@[simp] theorem isTrue_any (clauses : List Truth) : (any clauses).isTrue = clauses.any isTrue := by
  induction clauses with
  | nil => rfl
  | cons t ts ih =>
    have hcons : any (t :: ts) = t.or (any ts) := rfl
    rw [hcons, isTrue_or, ih, List.any_cons]

end Truth

/-- A `WHERE` clause over the rows of a table. -/
abbrev Clause (ρ : Type) := ρ → Truth

def Clause.selects {ρ : Type} (clause : Clause ρ) (r : ρ) : Bool := (clause r).isTrue

/-- A clause that may be left out, and then restricts nothing. -/
def Clause.optional {ρ : Type} : Option (Clause ρ) → Clause ρ
  | none => fun _ => some true
  | some clause => clause

section Comparisons

variable {α : Type}

/-- `column = value`. -/
def eq [DecidableEq α] (column : Option α) (value : α) : Truth := column.map fun x => decide (x = value)

/-- `column IS NULL`. -/
def isNull (column : Option α) : Truth := some column.isNone

/-- `column IN (values)`. An empty list selects nothing, whatever the column holds. -/
def inList [DecidableEq α] (column : Option α) (values : List α) : Truth :=
  if values = [] then some false else column.map fun x => decide (x ∈ values)

/-- `column < value`. -/
def lt [LT α] [DecidableLT α] (column : Option α) (value : α) : Truth := column.map fun x => decide (x < value)

/-- `column <= value`. -/
def le [LE α] [DecidableLE α] (column : Option α) (value : α) : Truth := column.map fun x => decide (x ≤ value)

/-- `column >= value`. -/
def ge [LE α] [DecidableLE α] (column : Option α) (value : α) : Truth := column.map fun x => decide (value ≤ x)

@[simp] theorem isTrue_eq [DecidableEq α] (column : Option α) (value : α) :
    (eq column value).isTrue = true ↔ column = some value := by
  cases column <;> simp [eq]

@[simp] theorem isTrue_isNull (column : Option α) : (isNull column).isTrue = true ↔ column = none := by
  cases column <;> simp [isNull]

@[simp] theorem isTrue_inList [DecidableEq α] (column : Option α) (values : List α) :
    (inList column values).isTrue = true ↔ ∃ x ∈ values, column = some x := by
  by_cases hempty : values = []
  · simp [inList, hempty]
  · cases column with
    | none | some => simp [inList, hempty]

@[simp] theorem isTrue_lt [LT α] [DecidableLT α] (x value : α) : (lt (some x) value).isTrue = decide (x < value) := by
  simp [lt]

@[simp] theorem isTrue_ge [LE α] [DecidableLE α] (x value : α) : (ge (some x) value).isTrue = decide (value ≤ x) := by
  simp [ge]

@[simp] theorem isFalse_eq [DecidableEq α] (x value : α) : (eq (some x) value).isFalse = decide (x ≠ value) := by
  simp [eq]

@[simp] theorem isFalse_le [LE α] [DecidableLE α] (x value : α) : (le (some x) value).isFalse = !decide (x ≤ value) := by
  simp [le]

end Comparisons

end Sql
