/-
Purpose: RFC 4180: a reader of comma-separated values, and that it reads what a writer who quotes where needed has written,
  also after the text went through UTF-8.
-/
import WhatsappCrm.Lib.Utf16

namespace Csv

def comma : UInt16 := 0x2C

def dquote : UInt16 := 0x22

def cr : UInt16 := 0x0D

def lf : UInt16 := 0x0A

/-- What a field has to be quoted for. -/
def isSpecial (u : UInt16) : Bool := u = comma || u = dquote || u = cr || u = lf

/-- A quoted field from after its opening quote. -/
def readQuoted : List UInt16 → Option (List UInt16 × List UInt16)
  | [] => none
  | [u] => if u = dquote then some ([], []) else none
  | u :: v :: rest =>
    if u = dquote then
      if v = dquote then (readQuoted rest).map fun r => (dquote :: r.1, r.2) else some ([], v :: rest)
    else (readQuoted (v :: rest)).map fun r => (u :: r.1, r.2)

def readField (text : List UInt16) : Option (List UInt16 × List UInt16) :=
  if text.head? = some dquote then readQuoted text.tail
  else some (text.takeWhile (!isSpecial ·), text.dropWhile (!isSpecial ·))

/-- The fields up to the end of the line, and what follows them. -/
def readRecord : Nat → List UInt16 → Option (List (List UInt16) × List UInt16)
  | 0, _ => none
  | fuel + 1, text =>
    match readField text with
    | none => none
    | some (field, []) => some ([field], [])
    | some (field, u :: rest) =>
      if u = comma then (readRecord fuel rest).map fun r => (field :: r.1, r.2) else some ([field], u :: rest)

/-- The records; the last may end the line or not. -/
def readRecords : Nat → List UInt16 → Option (List (List (List UInt16)))
  | 0, _ => none
  | fuel + 1, text =>
    match readRecord text.length text with
    | none => none
    | some (record, []) => some [record]
    | some (record, u :: rest) =>
      if u = cr ∧ rest.head? = some lf then
        if rest.tail.isEmpty then some [record] else (readRecords fuel rest.tail).map (record :: ·)
      else none

/-- The reader's fuel bounds the number of fields of a line and of lines, of which a text has fewer than it is long. -/
def parse (text : List UInt16) : Option (List (List (List UInt16))) := readRecords text.length text

def double (value : List UInt16) : List UInt16 := value.flatMap fun u => if u = dquote then [dquote, dquote] else [u]

/-- A text that says a value: the value itself, or the value in quotes with its own doubled. -/
inductive Spells : List UInt16 → List UInt16 → Prop where
  | plain (h : ∀ u ∈ value, isSpecial u = false) : Spells value value
  | quoted (value : List UInt16) : Spells (dquote :: (double value ++ [dquote])) value

def line (fields : List (List UInt16)) : List UInt16 := List.intercalate [comma] fields

def render (rows : List (List (List UInt16))) : List UInt16 := rows.flatMap fun fields => line fields ++ [cr, lf]

/-- What can follow a field. -/
def Delimits (rest : List UInt16) : Prop := ∀ u ∈ rest.head?, u = comma ∨ u = cr

theorem readQuoted_double (value : List UInt16) (hrest : Delimits rest) :
    readQuoted (double value ++ dquote :: rest) = some (value, rest) := by
  induction value with
  | nil =>
    cases rest with
    | nil => rfl
    | cons u =>
      have hne : u ≠ dquote := by
        rcases hrest u rfl with rfl | rfl <;> decide
      simp [double, readQuoted, hne]
  | cons u value ih =>
    rw [double, List.flatMap_cons, ← double]
    by_cases hu : u = dquote
    · simp only [List.cons_append, List.nil_append, readQuoted, if_true, ih, Option.map_some, hu]
    · rw [if_neg hu, List.append_assoc, List.singleton_append]
      cases hmore : double value ++ dquote :: rest with
      | nil => simp at hmore
      | cons => rw [readQuoted, if_neg hu, ← hmore, ih, Option.map_some]

theorem readField_spells (h : Spells field value) (hrest : Delimits rest) : readField (field ++ rest) = some (value, rest) := by
  cases h with
  | plain h =>
    have hstop : ∀ u ∈ rest.head?, isSpecial u = true := by
      intro u hu
      rcases hrest u hu with rfl | rfl <;> rfl
    have hhead : (field ++ rest).head? ≠ some dquote := by
      cases field with
      | nil =>
        intro hd
        rcases hrest dquote hd with h | h <;> cases h
      | cons =>
        intro hd
        cases hd
        exact absurd (h dquote List.mem_cons_self) (by decide)
    have hplain : ∀ u ∈ field, (!isSpecial u) = true := fun u hu => by rw [h u hu]; rfl
    rw [readField, if_neg hhead, List.takeWhile_append_of_pos hplain, List.dropWhile_append_of_pos hplain]
    cases rest with
    | nil => simp
    | cons u => simp [hstop u rfl]
  | quoted =>
    rw [readField, List.cons_append, List.head?_cons, if_pos rfl, List.tail_cons, List.append_assoc,
      List.singleton_append, readQuoted_double value hrest]

theorem readRecord_line (hne : fields ≠ []) (h : List.Forall₂ Spells fields values) {rest : List UInt16}
    (hrest : ∀ u ∈ rest.head?, u = cr) (hfuel : fields.length ≤ fuel) :
    readRecord fuel (line fields ++ rest) = some (values, rest) := by
  induction h generalizing fuel with
  | nil => exact absurd rfl hne
  | @cons field value fields values hfield hfields ih =>
    obtain ⟨fuel, rfl⟩ : ∃ n, fuel = n + 1 := ⟨fuel - 1, by simp at hfuel; omega⟩
    cases hfields with
    | nil =>
      have hread := readField_spells hfield (fun u hu => .inr (hrest u hu))
      rw [readRecord, show line [field] ++ rest = field ++ rest by simp [line], hread]
      cases rest with
      | nil => rfl
      | cons u =>
        have hcr : u ≠ comma := by
          rw [hrest u rfl]
          decide
        simp [hcr]
    | @cons field' value' fields values hfield' hfields =>
      have hlater : readRecord fuel (line (field' :: fields) ++ rest) = some (value' :: values, rest) :=
        ih (List.cons_ne_nil _ _) (by simpa using hfuel)
      have hline : line (field :: field' :: fields) ++ rest = field ++ comma :: (line (field' :: fields) ++ rest) := by
        simp [line, List.intercalate]
      have hread : readField (field ++ comma :: (line (field' :: fields) ++ rest)) =
          some (value, comma :: (line (field' :: fields) ++ rest)) :=
        readField_spells hfield fun u hu => .inl (Option.some.inj hu).symm
      rw [readRecord, hline, hread]
      simp only [if_true, hlater, Option.map_some]

theorem length_le_line (fields : List (List UInt16)) : fields.length ≤ (line fields).length + 1 := by
  induction fields with
  | nil => exact Nat.zero_le _
  | cons field fields ih =>
    cases fields with
    | nil => exact Nat.le_add_left _ _
    | cons field' fields =>
      have hline : line (field :: field' :: fields) = field ++ comma :: line (field' :: fields) := by
        simp [line, List.intercalate]
      simp only [hline, List.length_append, List.length_cons] at ih ⊢
      omega

theorem readRecords_render (h : List.Forall₂ (List.Forall₂ Spells) rows records) (hne : rows ≠ [])
    (hrows : ∀ fields ∈ rows, fields ≠ []) (hfuel : (render rows).length ≤ fuel) :
    readRecords fuel (render rows) = some records := by
  induction h generalizing fuel with
  | nil => exact absurd rfl hne
  | @cons fields values rows records hfields hrest ih =>
    have hrender : render (fields :: rows) = line fields ++ cr :: lf :: render rows := by
      simp [render]
    have hlength : (render (fields :: rows)).length = (line fields).length + 2 + (render rows).length := by
      rw [hrender, List.length_append, List.length_cons, List.length_cons]
      omega
    obtain ⟨fuel, rfl⟩ : ∃ n, fuel = n + 1 := ⟨fuel - 1, by omega⟩
    have hle := length_le_line fields
    have hend : ∀ u ∈ (cr :: lf :: render rows).head?, u = cr := fun u hu => (Option.some.inj hu).symm
    have hread : readRecord (render (fields :: rows)).length (render (fields :: rows)) =
        some (values, cr :: lf :: render rows) := by
      conv_lhs => arg 2; rw [hrender]
      exact readRecord_line (hrows fields List.mem_cons_self) hfields hend (by omega)
    rw [readRecords, hread]
    simp only [List.head?_cons, and_self, if_true, List.tail_cons]
    cases hrest with
    | nil => rfl
    | @cons fields' values' rows records hfields' hrest =>
      have hmore : (render (fields' :: rows)).isEmpty = false := by
        simp [render]
      have hlater : readRecords fuel (render (fields' :: rows)) = some (values' :: records) :=
        ih (List.cons_ne_nil _ _) (fun f hf => hrows f (List.mem_cons_of_mem _ hf)) (by omega)
      simp only [hmore, Bool.false_eq_true, if_false, hlater, Option.map_some]

theorem parse_render (h : List.Forall₂ (List.Forall₂ Spells) rows records) (hne : rows ≠ [])
    (hrows : ∀ fields ∈ rows, fields ≠ []) : parse (render rows) = some records :=
  readRecords_render h hne hrows (Nat.le_refl _)

open Utf16 (codePoints isSurrogate toWellFormed toWellFormed_append)

theorem toWellFormed_cons (hc : isSurrogate c = false) (text : List UInt16) :
    toWellFormed (c :: text) = c :: toWellFormed text :=
  toWellFormed_append hc [] text

theorem mem_toWellFormed (h : u ∈ toWellFormed text) : u ∈ text ∨ u = 0xFFFD := by
  obtain ⟨p, hp, hu⟩ := List.mem_flatMap.mp h
  unfold Utf16.repaired at hu
  split at hu
  · exact .inr (List.mem_singleton.mp hu)
  · refine .inl ?_
    rw [← Utf16.flatten_codePoints text]
    exact List.mem_flatten.mpr ⟨p, hp, hu⟩

theorem double_eq_self (h : dquote ∉ value) : double value = value := by
  induction value with
  | nil => rfl
  | cons u value ih =>
    rw [List.mem_cons, not_or] at h
    rw [double, List.flatMap_cons, ← double, ih h.2, if_neg (Ne.symm h.1)]
    rfl

theorem double_append (a b : List UInt16) : double (a ++ dquote :: b) = double a ++ dquote :: dquote :: double b := by
  simp [double]

/-- Doubling changes nothing between two quotes, and repairing nothing across one. -/
theorem toWellFormed_double (value : List UInt16) : toWellFormed (double value) = double (toWellFormed value) := by
  have hnone : ∀ {v}, dquote ∉ v → dquote ∉ toWellFormed v := by
    intro v hv hmem
    rcases mem_toWellFormed hmem with h | h
    · exact hv h
    · cases h
  induction hlength : value.length using Nat.strong_induction_on generalizing value with
  | _ n ih =>
    by_cases hquote : dquote ∈ value
    · obtain ⟨a, b, rfl, ha⟩ := List.eq_append_cons_of_mem hquote
      have hb := ih b.length (by rw [List.length_append, List.length_cons] at hlength; omega) b rfl
      rw [double_append, toWellFormed_append (by decide), toWellFormed_cons (by decide), hb, double_eq_self ha,
        toWellFormed_append (by decide), double_append, double_eq_self (hnone ha)]
    · rw [double_eq_self hquote, double_eq_self (hnone hquote)]

/-- A repaired text says the repaired value. -/
theorem Spells.toWellFormed (h : Spells field value) : Spells (toWellFormed field) (toWellFormed value) := by
  cases h with
  | plain h =>
    apply Spells.plain
    intro u hu
    rcases mem_toWellFormed hu with hu | rfl
    · exact h u hu
    · rfl
  | quoted =>
    rw [toWellFormed_cons (by decide), toWellFormed_append (by decide), toWellFormed_double]
    exact .quoted _

theorem toWellFormed_line (fields : List (List UInt16)) :
    toWellFormed (line fields) = line (fields.map toWellFormed) := by
  induction fields with
  | nil => rfl
  | cons field fields ih =>
    cases fields with
    | nil => simp [line]
    | cons =>
      have hline : ∀ a b bs, line (a :: b :: bs) = a ++ comma :: line (b :: bs) := by
        intro a b bs
        simp [line, List.intercalate]
      rw [hline, toWellFormed_append (by decide), ih]
      exact (hline _ _ _).symm

theorem toWellFormed_render (rows : List (List (List UInt16))) :
    toWellFormed (render rows) = render (rows.map (List.map toWellFormed)) := by
  induction rows with
  | nil => rfl
  | cons fields rows ih =>
    have hrender : ∀ a as, render (a :: as) = line a ++ cr :: lf :: render as := by
      intro a as
      simp [render]
    rw [hrender, toWellFormed_append (by decide), toWellFormed_cons (by decide), ih, toWellFormed_line, List.map_cons,
      hrender]

end Csv
