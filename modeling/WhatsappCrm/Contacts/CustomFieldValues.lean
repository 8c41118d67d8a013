/-
Purpose: Which texts a custom field takes (`customFieldValueIssue`, contracts/contacts.ts), and the merge of a write
  into the stored values (`custom-field-values.ts`).
-/
import WhatsappCrm.Ai.Contract
import WhatsappCrm.Lib.IsoDate
import WhatsappCrm.Lib.Json
import Mathlib.Data.List.TakeWhile
import Mathlib.Tactic.IntervalCases

namespace WhatsappCrm.Contacts

open Ai (isSpace trim)

inductive CustomFieldType where
  | text
  | number
  | boolean
  | date
  | select
deriving DecidableEq

structure CustomFieldDefinition where
  id : Uuid
  key : String
  type : CustomFieldType
  options : List String
deriving DecidableEq

/-- `+` or `-` in front, and what follows it. -/
def readSign (text : List Char) : Int × List Char :=
  match text with
  | c :: rest => if c = '+' then (1, rest) else Json.readSign text
  | [] => (1, [])

/-- `StrDecimalLiteral` without `Infinity`, as `mantissa * 10 ^ exponent`. -/
def decimalLiteral? (text : List Char) : Option (Int × Int) :=
  let (sign, unsigned) := readSign text
  let whole := unsigned.takeWhile Json.isDigit
  let afterWhole := unsigned.dropWhile Json.isDigit
  let (fraction, rest) :=
    match afterWhole with
    | c :: more => if c = '.' then (more.takeWhile Json.isDigit, more.dropWhile Json.isDigit) else ([], afterWhole)
    | [] => ([], [])
  if whole ++ fraction = [] then none
  else
    match Json.readExponent rest with
    | some (exponent, []) => some (sign * Json.digitsValue (whole ++ fraction), exponent - fraction.length)
    | _ => none

def binary? (c : Char) : Option Nat := if c = '0' then some 0 else if c = '1' then some 1 else none

def octal? (c : Char) : Option Nat := if '0' ≤ c ∧ c ≤ '7' then some (c.toNat - 48) else none

def radixDigits (base : Nat) (digit? : Char → Option Nat) (digits : List Char) : Option Nat :=
  if digits = [] then none else (digits.mapM digit?).map (Numeral.value base)

/-- `NonDecimalIntegerLiteral`. -/
def radixLiteral? : List Char → Option Nat
  | zero :: mark :: digits =>
    if zero ≠ '0' then none
    else if mark = 'b' ∨ mark = 'B' then radixDigits 2 binary? digits
    else if mark = 'o' ∨ mark = 'O' then radixDigits 8 octal? digits
    else if mark = 'x' ∨ mark = 'X' then radixDigits 16 Numeral.hexadecimal.digit? digits
    else none
  | _ => none

/-- The number is rounded to a finite one: it lies below the middle between the largest and the next power of two. -/
def roundsToFinite (mantissa exponent : Int) : Bool :=
  if 0 ≤ exponent then mantissa.natAbs * 10 ^ exponent.toNat < 2 ^ 1024 - 2 ^ 970
  else mantissa.natAbs < (2 ^ 1024 - 2 ^ 970) * 10 ^ (-exponent).toNat

def isDecimal (text : List Char) : Bool := (decimalLiteral? text).any fun n => roundsToFinite n.1 n.2

def isRadix (text : List Char) : Bool := (radixLiteral? text).any fun n => roundsToFinite n 0

/-- `Number.isFinite(Number(text))`: the empty text is 0, and `Infinity` is none of these. -/
def isFiniteNumber (text : List Char) : Bool :=
  let literal := trim text
  literal = [] || isRadix literal || isDecimal literal

/-- `CUSTOM_FIELD_DATE_PATTERN`, with its numbers. -/
def dateFields? (text : List Char) : Option (Nat × Nat × Nat) := do
  let (year, rest) ← Numeral.decimal.readBefore 4 '-' text
  let (month, rest) ← Numeral.decimal.readBefore 2 '-' rest
  let (day, rest) ← Numeral.decimal.read 2 rest
  if rest = [] then some (year, month, day) else none

/-- `!Number.isNaN(Date.parse(text))`, of a text in that form: a day of any month is one from 1 to 31. -/
def parsesAsDate (month day : Nat) : Bool := (1 ≤ month ∧ month ≤ 12) ∧ 1 ≤ day ∧ day ≤ 31

def textValueLength : Nat := 500

def unitLength (text : String) : Nat := (text.toList.flatMap Json.units).length

def customFieldValueIssue (definition : CustomFieldDefinition) : Option String → Option String
  | none => none
  | some value =>
    match definition.type with
    | .text =>
      if textValueLength < unitLength value then some ("Must be at most " ++ toString textValueLength ++ " characters")
      else none
    | .number =>
      if trim value.toList = [] ∨ isFiniteNumber value.toList = false then some "Must be a number" else none
    | .boolean => if value = "true" ∨ value = "false" then none else some "Must be `true` or `false`"
    | .date =>
      if (dateFields? value.toList).any (fun d => parsesAsDate d.2.1 d.2.2) then none
      else some "Must be a calendar date, `YYYY-MM-DD`"
    | .select => if value ∈ definition.options then none else some "Must be one of the defined options"

/-- `CustomFieldValues`: the entries of the map, in no particular order; `none` is a `null`. -/
abbrev CustomFieldValues := List (String × Option String)

structure ApiErrorDetail where
  path : String
  message : String

def pathFor (key : String) : String := "customFields." ++ key

/-- One entry of the write, on the map and the issues so far. A later definition of a key takes the place of an earlier. -/
def mergeEntry (definitions : List CustomFieldDefinition) (state : CustomFieldValues × List ApiErrorDetail)
    (entry : String × Option String) : CustomFieldValues × List ApiErrorDetail :=
  let issue message := (state.1, state.2 ++ [{ path := pathFor entry.1, message }])
  match definitions.reverse.find? fun definition => definition.key = entry.1 with
  | none => issue "No custom field with this key is defined."
  | some definition =>
    match customFieldValueIssue definition entry.2 with
    | some message => issue message
    | none =>
      let others := state.1.filter fun e => e.1 ≠ entry.1
      if entry.2 = none then (others, state.2) else (others ++ [entry], state.2)

/-- `mergeCustomFieldValues`: the stored map with the write merged in, or all that is wrong with the write. -/
def mergeCustomFieldValues (stored incoming : CustomFieldValues) (definitions : List CustomFieldDefinition) :
    Except (List ApiErrorDetail) CustomFieldValues :=
  let (merged, issues) := incoming.foldl (mergeEntry definitions) (stored, [])
  if issues = [] then .ok merged else .error issues

theorem mem_merged : ∀ (incoming : CustomFieldValues) {state : CustomFieldValues × List ApiErrorDetail},
      e ∈ (incoming.foldl (mergeEntry definitions) state).1 → e ∈ state.1 ∨ e ∈ incoming ∧ e.2 ≠ none
  | [], _, h => .inl h
  | entry :: incoming, state, h => by
    rcases mem_merged incoming h with hstate | ⟨hmem, hvalue⟩
    · unfold mergeEntry at hstate
      split at hstate
      · exact .inl hstate
      · split at hstate
        · exact .inl hstate
        · split at hstate
          · exact .inl ((List.mem_filter.mp hstate).1)
          · rename_i hsome
            rcases Table.mem_snoc.mp hstate with hold | rfl
            · exact .inl ((List.mem_filter.mp hold).1)
            · exact .inr ⟨List.mem_cons_self, hsome⟩
    · exact .inr ⟨List.mem_cons_of_mem _ hmem, hvalue⟩

theorem mem_mergeCustomFieldValues
    (h : mergeCustomFieldValues stored incoming definitions = .ok merged) (he : e ∈ merged) :
    e ∈ stored ∨ e ∈ incoming ∧ e.2 ≠ none := by
  unfold mergeCustomFieldValues at h
  dsimp only at h
  split at h
  · cases h
    exact mem_merged incoming he
  · cases h

def monthLength (year month : Nat) : Int :=
  if month = 12 then 31
  else IsoDate.monthStart (IsoDate.leapDay year) (month + 1) - IsoDate.monthStart (IsoDate.leapDay year) month

/-- The value is one of its field's type: a decimal numeral, a day that exists, one of two words, an option, a text that is
    not too long. -/
def MeansItsType (definition : CustomFieldDefinition) (value : String) : Prop :=
  match definition.type with
  | .text => unitLength value ≤ textValueLength
  | .number => isDecimal value.toList = true
  | .boolean => value = "true" ∨ value = "false"
  | .date => ∃ d ∈ dateFields? value.toList, (1 ≤ d.2.1 ∧ d.2.1 ≤ 12) ∧ 1 ≤ d.2.2 ∧ (d.2.2 : Int) ≤ monthLength d.1 d.2.1
  | .select => value ∈ definition.options

/-- For a number: a numeral with space around it, or one that names its base. For a date: a day up to the 31st that its
    month does not have. -/
def Misread (definition : CustomFieldDefinition) (value : String) : Prop :=
  match definition.type with
  | .number => trim value.toList ≠ value.toList ∧ isDecimal (trim value.toList) = true ∨ isRadix (trim value.toList) = true
  | .date => ∃ d ∈ dateFields? value.toList, (1 ≤ d.2.1 ∧ d.2.1 ≤ 12) ∧ monthLength d.1 d.2.1 < d.2.2 ∧ d.2.2 ≤ 31
  | _ => False

variable {text : List Char} {c : Char}

theorem mem_readSign (h : c ∈ text) : c ∈ (readSign text).2 ∨ c = '+' ∨ c = '-' := by
  cases text with
  | nil => cases h
  | cons =>
    unfold readSign Json.readSign
    dsimp only
    rcases List.mem_cons.mp h with rfl | hrest
    · by_cases hplus : c = '+'
      · exact .inr (.inl hplus)
      · by_cases hminus : c = '-'
        · exact .inr (.inr hminus)
        · simp [hplus, hminus]
    · split
      · exact .inl hrest
      · split
        · exact .inl hrest
        · exact .inl h

theorem mem_digits (h : c ∈ text) : Json.isDigit c = true ∨ c ∈ text.dropWhile Json.isDigit := by
  rw [← List.takeWhile_append_dropWhile (p := Json.isDigit) (l := text)] at h
  rcases List.mem_append.mp h with h | h
  · exact .inl (List.mem_takeWhile_imp h)
  · exact .inr h

def Numeric (c : Char) : Prop := Json.isDigit c = true ∨ c ∈ ['+', '-', '.', 'e', 'E']

theorem numeric_exponent (h : Json.readExponent text = some (exponent, [])) (hc : c ∈ text) : Numeric c := by
  cases text with
  | nil => cases hc
  | cons d rest =>
    simp only [Json.readExponent] at h
    split at h
    · rename_i hmark
      have hsigned : (if (readSign rest).2.takeWhile Json.isDigit = [] then none
          else some ((readSign rest).1 * (Json.digitsValue ((readSign rest).2.takeWhile Json.isDigit) : Int),
            (readSign rest).2.dropWhile Json.isDigit)) = some (exponent, []) := by
        cases rest <;> exact h
      split at hsigned
      · cases hsigned
      · simp only [Option.some.injEq, Prod.mk.injEq] at hsigned
        rcases List.mem_cons.mp hc with rfl | hrest
        · rcases hmark with rfl | rfl <;> simp [Numeric]
        · rcases mem_readSign hrest with hunsigned | rfl | rfl
          · rcases mem_digits hunsigned with hdigit | hafter
            · exact .inl hdigit
            · rw [hsigned.2] at hafter
              cases hafter
          · simp [Numeric]
          · simp [Numeric]
    · cases h

theorem numeric_of_decimalLiteral? (h : decimalLiteral? text = some n) (hc : c ∈ text) : Numeric c := by
  simp only [decimalLiteral?] at h
  rcases mem_readSign hc with hc | rfl | rfl
  · rcases mem_digits hc with hdigit | hafter
    · exact .inl hdigit
    · generalize hrest : (readSign text).2.dropWhile Json.isDigit = afterWhole at h hafter
      cases afterWhole with
      | nil => cases hafter
      | cons d more =>
        by_cases hdot : d = '.'
        · simp only [hdot, if_true] at h
          split at h
          · cases h
          split at h
          · rename_i hexponent
            rcases List.mem_cons.mp hafter with rfl | hmore
            · simp [Numeric, hdot]
            · rcases mem_digits hmore with hdigit | hlast
              · exact .inl hdigit
              · exact numeric_exponent hexponent hlast
          · cases h
        · simp only [if_neg hdot] at h
          split at h
          · cases h
          split at h
          · rename_i hexponent
            exact numeric_exponent hexponent hafter
          · cases h
  · simp [Numeric]
  · simp [Numeric]

theorem trim_eq_self (h : ∀ c ∈ text, isSpace c = false) : trim text = text := by
  have hdrop : ∀ l : List Char, (∀ c ∈ l, isSpace c = false) → l.dropWhile isSpace = l := by
    intro l hl
    cases l with
    | nil => rfl
    | cons c => simp [hl c List.mem_cons_self]
  rw [trim, hdrop text h, hdrop _ fun c hc => h c (List.mem_reverse.mp hc), List.reverse_reverse]

theorem trim_of_isDecimal (h : isDecimal text = true) : trim text = text := by
  obtain ⟨n, hn, -⟩ := (Option.any_eq_true _ _).mp h
  refine trim_eq_self fun c hc => ?_
  rcases numeric_of_decimalLiteral? hn hc with hdigit | hmark
  · exact Ai.isSpace_of_digit (by simpa [Json.isDigit] using hdigit)
  · revert hmark
    simp only [List.mem_cons, List.not_mem_nil, or_false]
    rintro (rfl | rfl | rfl | rfl | rfl) <;> decide

theorem not_isDecimal_of_isRadix (h : isRadix text = true) : isDecimal text = false := by
  by_contra hdecimal
  obtain ⟨n, hn, -⟩ := (Option.any_eq_true _ _).mp (Bool.not_eq_false _ ▸ hdecimal)
  obtain ⟨k, hk, -⟩ := (Option.any_eq_true _ _).mp h
  match text, hk with
  | zero :: mark :: digits, hk =>
    have hnumeric := numeric_of_decimalLiteral? hn (c := mark) (by simp)
    have hmark : mark ∈ ['b', 'B', 'o', 'O', 'x', 'X'] := by
      by_contra hnot
      simp only [List.mem_cons, List.not_mem_nil, or_false, not_or] at hnot
      simp [radixLiteral?, hnot] at hk
    simp only [List.mem_cons, List.not_mem_nil, or_false] at hmark
    revert hnumeric
    rcases hmark with rfl | rfl | rfl | rfl | rfl | rfl <;> simp [Numeric, Json.isDigit]

theorem accepted_number {value : String} : ¬ (trim value.toList = [] ∨ isFiniteNumber value.toList = false) ↔
      isRadix (trim value.toList) = true ∨ isDecimal (trim value.toList) = true := by
  unfold isFiniteNumber
  generalize trim value.toList = literal
  cases literal with
  | nil => decide
  | cons c rest => by_cases h : isRadix (c :: rest) = true <;> simp [h]

theorem monthLength_bounds (year : Nat) (h : 1 ≤ month ∧ month ≤ 12) :
    28 ≤ monthLength year month ∧ monthLength year month ≤ 31 := by
  have hlow := IsoDate.leapDay_nonneg year
  have hhigh := IsoDate.leapDay_le year
  unfold monthLength
  generalize IsoDate.leapDay year = leap at hlow hhigh
  obtain ⟨hone, htwelve⟩ := h
  interval_cases month
  all_goals
    simp [IsoDate.monthStart]
    try omega

/-- A value is taken exactly when it means what its type says, but for the values that are misread. -/
theorem customFieldValueIssue_iff (definition : CustomFieldDefinition) (value : String) :
    (customFieldValueIssue definition (some value) = none ↔ MeansItsType definition value) ↔ ¬ Misread definition value := by
  unfold MeansItsType Misread customFieldValueIssue
  cases definition.type with
  | text | select => simp
  | boolean => simp [or_iff_not_imp_left]
  | number =>
    have haccepted : (if trim value.toList = [] ∨ isFiniteNumber value.toList = false then some "Must be a number"
        else none) = none ↔ isRadix (trim value.toList) = true ∨ isDecimal (trim value.toList) = true := by
      rw [← accepted_number]
      simp
    simp only [haccepted]
    by_cases hdecimal : isDecimal value.toList = true
    · have hradix : ¬ isRadix value.toList = true := fun h => by simp [not_isDecimal_of_isRadix h] at hdecimal
      simp [trim_of_isDecimal hdecimal, hdecimal, hradix]
    · have hpadded : isDecimal (trim value.toList) = true → trim value.toList ≠ value.toList :=
        fun h heq => hdecimal (heq ▸ h)
      rw [iff_false_right hdecimal, not_iff_not]
      constructor
      · rintro (h | h)
        · exact .inr h
        · exact .inl ⟨hpadded h, h⟩
      · rintro (⟨-, h⟩ | h)
        · exact .inr h
        · exact .inl h
  | date =>
    dsimp only
    cases dateFields? value.toList with
    | none => simp
    | some d =>
      obtain ⟨year, month, day⟩ := d
      simp only [Option.any_some, parsesAsDate, Option.mem_def, Option.some.injEq, exists_eq_left', decide_eq_true_eq,
        ite_eq_left_iff, reduceCtorEq, imp_false, not_not]
      by_cases hmonth : 1 ≤ month ∧ month ≤ 12
      · have hbounds := monthLength_bounds year hmonth
        omega
      · simp [hmonth]

/-- A number with space around it, one in hexadecimal, and a day that February does not have are taken. -/
theorem misread_values :
    (customFieldValueIssue { id := 1, key := "size", type := .number, options := [] } (some " 1 ") = none ∧
      ¬ MeansItsType { id := 1, key := "size", type := .number, options := [] } " 1 ") ∧
    (customFieldValueIssue { id := 1, key := "size", type := .number, options := [] } (some "0x10") = none ∧
      ¬ MeansItsType { id := 1, key := "size", type := .number, options := [] } "0x10") ∧
    customFieldValueIssue { id := 1, key := "born", type := .date, options := [] } (some "2026-02-30") = none ∧
      ¬ MeansItsType { id := 1, key := "born", type := .date, options := [] } "2026-02-30" := by
  refine ⟨⟨by decide +kernel, ?_⟩, ⟨by decide +kernel, ?_⟩, by decide +kernel, ?_⟩
  · exact show ¬ isDecimal " 1 ".toList = true by decide +kernel
  · exact show ¬ isDecimal "0x10".toList = true by decide +kernel
  · have hfields : dateFields? "2026-02-30".toList = some (2026, 2, 30) := by decide +kernel
    have hlength : monthLength 2026 2 = 28 := by decide
    rintro ⟨d, hd, -, -, hday⟩
    rw [hfields] at hd
    cases hd
    rw [hlength] at hday
    exact absurd hday (by decide)

end WhatsappCrm.Contacts
