/-
Purpose: The cursor of every list (`common/pagination/keyset-cursor.ts`), base64url of a JSON object, and the keyset of
  a timestamp and an id (`common/pagination/timestamp-keyset.ts`).
-/
import WhatsappCrm.Lib.IsoDate
import WhatsappCrm.Lib.Json
import WhatsappCrm.Tickets.Contract
import WhatsappCrm.Lib.Sql
import Mathlib.Order.Basic
import Mathlib.Algebra.Order.Ring.Int

namespace WhatsappCrm

/-- The ids `IdSchema` (`z.uuid()`) accepts the text of: versions 1 to 8 of the one variant, all zeros, all ones. -/
def idAccepted (g : UuidText.Groups) : Bool :=
  ((1 ≤ g.version ∧ g.version ≤ 8) ∧ 8 ≤ g.variant ∧ g.variant ≤ 11) ∨ g.bits = 0#128

def maxIdText : List Char := "ffffffff-ffff-ffff-ffff-ffffffffffff".toList

def idSchema (text : String) : Option Uuid :=
  match UuidText.read text.toList with
  | none => none
  | some g => if idAccepted g || text.toList = maxIdText then some g.bits else none

def Uuid.text (id : Uuid) : String := String.ofList (UuidText.write id)

/-- An id whose own text is accepted, as every id the database mints is (`uuid(7)`). -/
def IdAccepted (id : Uuid) : Prop := idSchema (Uuid.text id) = some id

instance (id : Uuid) : Decidable (IdAccepted id) := inferInstanceAs (Decidable (_ = _))

theorem idAccepted_of_version {id : Uuid}
    (hversion : 1 ≤ (UuidText.Groups.ofBits id).version ∧ (UuidText.Groups.ofBits id).version ≤ 8)
    (hvariant : 8 ≤ (UuidText.Groups.ofBits id).variant ∧ (UuidText.Groups.ofBits id).variant ≤ 11) :
    IdAccepted id := by
  have haccepted : idAccepted (UuidText.Groups.ofBits id) = true := by
    simp only [idAccepted, decide_eq_true_eq]
    exact .inl ⟨hversion, hvariant⟩
  simp only [IdAccepted, idSchema, Uuid.text, String.toList_ofList, UuidText.read_write, haccepted, Bool.true_or,
    if_true, UuidText.Groups.bits_ofBits]

structure KeysetCursor where
  sortValues : List String
  id : Uuid

variable (cursor : KeysetCursor)

/-- `JSON.stringify` of the cursor's object. The version is 1. -/
def cursorText : List Char :=
  Json.writeObject [(['v'], ['1']),
    (['k'], Json.writeArray (cursor.sortValues.map fun s => Json.quote s.toList)),
    (['i', 'd'], Json.quote (Uuid.text cursor.id).toList)]

def encodeKeysetCursor : String :=
  String.ofList (Base64.encode (Utf8.encode (cursorText cursor)))

/-- The number is read as the float 1: it lies no further from it than half the distance to the next one. -/
def roundsToOne (mantissa exponent : Int) : Bool :=
  if 0 ≤ exponent then mantissa * 10 ^ exponent.toNat = 1
  else
    let scale : Int := 10 ^ (-exponent).toNat
    (2 ^ 54 - 1) * scale ≤ mantissa * 2 ^ 54 ∧ mantissa * 2 ^ 53 ≤ (2 ^ 53 + 1) * scale

def isCursorVersion : Option Json → Bool
  | some (.number mantissa exponent) => roundsToOne mantissa exponent
  | _ => false

def stringArray? : Option Json → Option (List String)
  | some (.array items) => items.mapM fun item =>
    match item with
    | .string text => some (String.ofList text)
    | _ => none
  | _ => none

def idOf? : Option Json → Option Uuid
  | some (.string text) => idSchema (String.ofList text)
  | _ => none

def parseJson (text : List Char) : Option (List (List Char × Json)) :=
  match Json.parse text with
  | some (.object members) => some members
  | _ => none

def decodeKeysetCursor (value : String) : Option KeysetCursor :=
  match parseJson (Utf8.decode (Base64.decode value.toList)) with
  | none => none
  | some members =>
    match stringArray? (Json.field? ['k'] members), idOf? (Json.field? ['i', 'd'] members) with
    | some sortValues, some id =>
      if isCursorVersion (Json.field? ['v'] members) then some { sortValues, id } else none
    | _, _ => none

def cursorMembers : List Json.Member :=
  [{ key := ['v'], text := ['1'], value := .number 1 0 },
    { key := ['k']
      text := Json.writeArray (cursor.sortValues.map fun s => Json.quote s.toList)
      value := .array (cursor.sortValues.map fun s => .string s.toList) },
    { key := ['i', 'd']
      text := Json.quote (Uuid.text cursor.id).toList
      value := .string (Uuid.text cursor.id).toList }]

theorem reads_sortValues (sortValues : List String) :
    Json.Reads (Json.writeArray (sortValues.map fun s => Json.quote s.toList))
      (.array (sortValues.map fun s => .string s.toList)) := by
  have hreads := Json.Reads.array (sortValues.map fun s => (Json.quote s.toList, .string s.toList)) (by
    intro i hi
    obtain ⟨s, -, rfl⟩ := List.mem_map.mp hi
    exact Json.reads_quote s.toList)
  simpa only [List.map_map, Function.comp_def] using hreads

theorem parse_cursorText :
    Json.parse (cursorText cursor) = some (.object ((cursorMembers cursor).map fun m => (m.key, m.value))) := by
  have hmembers : ∀ m ∈ cursorMembers cursor, Json.Reads m.text m.value := by
    intro m hm
    simp only [cursorMembers, List.mem_cons, List.not_mem_nil, or_false] at hm
    rcases hm with rfl | rfl | rfl
    · exact Json.reads_one
    · exact reads_sortValues cursor.sortValues
    · exact Json.reads_quote _
  exact (Json.Reads.object hmembers).parse

theorem stringArray?_map (sortValues : List String) :
    stringArray? (some (.array (sortValues.map fun s => .string s.toList))) = some sortValues := by
  induction sortValues with
  | nil => rfl
  | cons s sortValues ih =>
    simp only [stringArray?] at ih
    simp [stringArray?, List.mapM_cons, ih]

theorem decodeKeysetCursor_encodeKeysetCursor (hid : IdAccepted cursor.id) :
    decodeKeysetCursor (encodeKeysetCursor cursor) = some cursor := by
  have hparse : parseJson (cursorText cursor) = some ((cursorMembers cursor).map fun m => (m.key, m.value)) := by
    simp only [parseJson, parse_cursorText]
  have hv : Json.field? ['v'] ((cursorMembers cursor).map fun m => (m.key, m.value)) = some (.number 1 0) := rfl
  have hk : Json.field? ['k'] ((cursorMembers cursor).map fun m => (m.key, m.value)) =
      some (.array (cursor.sortValues.map fun s => .string s.toList)) := rfl
  have hi : Json.field? ['i', 'd'] ((cursorMembers cursor).map fun m => (m.key, m.value)) =
      some (.string (Uuid.text cursor.id).toList) := rfl
  have hidOf : idOf? (some (.string (Uuid.text cursor.id).toList)) = some cursor.id := by
    rw [idOf?, String.ofList_toList]
    exact hid
  rw [decodeKeysetCursor, encodeKeysetCursor, String.toList_ofList, Base64.decode_encode,
    Utf8.decode_encode, hparse]
  simp only [hk, hi, hv, stringArray?_map, hidOf]
  rfl

/-- `Date.prototype.toISOString` of a column; `none` where it throws. -/
def isoString (t : Millis) : Option String := (IsoDate.toISOString t).map String.ofList

/-- `new Date(text)`, `none` where it is invalid. Other forms than `toISOString`'s are left to the runtime. -/
def parseDate (otherForms : String → Option Millis) (text : String) : Option Millis :=
  let instant := match IsoDate.readISOString text.toList with
    | some t => some t
    | none => otherForms text
  instant.filter fun t => IsoDate.InRange t

variable {t : Millis}

theorem parseDate_isoString (h : isoString t = some text)
    (otherForms : String → Option Millis) : parseDate otherForms text = some t := by
  obtain ⟨chars, hchars, rfl⟩ := Option.map_eq_some_iff.mp h
  have hrange := IsoDate.inRange_of_toISOString hchars
  simp only [parseDate, String.toList_ofList, IsoDate.readISOString_toISOString hchars, Option.filter_some,
    decide_eq_true hrange, if_true]

theorem isoString_of_inRange (h : IsoDate.InRange t) : ∃ text, isoString t = some text :=
  ⟨_, by rw [isoString, IsoDate.toISOString, if_pos h, Option.map_some]⟩

end WhatsappCrm

namespace WhatsappCrm

open Sql

/-- A cursor that was sent, or none, or one this build cannot act on. -/
inductive CursorRead (κ : Type) where
  | absent
  | invalid
  | cursor (cursor : κ)

structure TimestampCursor where
  «at» : Millis
  id : Uuid

/-- `encodeTimestampCursor`. A time no date can hold makes `toISOString` throw. -/
def encodeTimestampCursor (cursor : TimestampCursor) : Except ApiError String :=
  match isoString cursor.at with
  | none => .error .invalidTimeValue
  | some text => .ok (encodeKeysetCursor { sortValues := [text], id := cursor.id })

/-- `readTimestampCursor`: a cursor of another arity is not one of these. -/
def readTimestampCursor (otherForms : String → Option Millis) (value : Option String) : CursorRead TimestampCursor :=
  match value with
  | none => .absent
  | some value =>
    match decodeKeysetCursor value with
    | none => .invalid
    | some decoded =>
      match decoded.sortValues with
      | [text] =>
        match parseDate otherForms text with
        | none => .invalid
        | some parsed => .cursor { «at» := parsed, id := decoded.id }
      | _ => .invalid

inductive SortDirection where
  | asc
  | desc

/-- `TimestampResume`: the bound on the timestamp, and what to exclude by id among its equals. -/
structure TimestampResume where
  bound : Option Millis → Truth
  exclude : Uuid → Truth

def resumeAfter (cursor : TimestampCursor) : SortDirection → TimestampResume
  | .desc => { bound := fun «at» => le «at» cursor.at, exclude := fun id => ge (some id) cursor.id }
  | .asc => { bound := fun «at» => ge «at» cursor.at, exclude := fun id => le (some id) cursor.id }

/-- The clause a caller makes of it: `{ at: bound, NOT: { at: cursor.at, ...exclude } }`. -/
def TimestampResume.clause (resume : TimestampResume) (cursor : TimestampCursor) («at» : Option Millis) (id : Uuid) :
    Truth :=
  (resume.bound «at»).and ((eq «at» cursor.at).and (resume.exclude id)).not

/-- Ascending, the clause selects exactly what comes strictly later, ties broken by the id. -/
theorem selects_resumeAfter_asc (cursor : TimestampCursor) («at» : Millis) (id : Uuid) :
    ((resumeAfter cursor .asc).clause cursor (some «at») id).isTrue = true ↔
      cursor.at < «at» ∨ (cursor.at = «at» ∧ cursor.id < id) := by
  simp only [TimestampResume.clause, resumeAfter, Truth.isTrue_and, Truth.isTrue_not, Truth.isFalse_and, isTrue_ge,
    isFalse_eq, isFalse_le, Bool.and_eq_true, Bool.or_eq_true, decide_eq_true_eq, Bool.not_eq_true',
    decide_eq_false_iff_not, BitVec.not_le]
  constructor
  · rintro ⟨hle, hne | hid⟩
    · exact .inl (lt_of_le_of_ne hle (Ne.symm hne))
    · rcases lt_or_eq_of_le hle with hlt | heq
      · exact .inl hlt
      · exact .inr ⟨heq, hid⟩
  · rintro (hlt | ⟨heq, hid⟩)
    · exact ⟨le_of_lt hlt, .inl (ne_of_gt hlt)⟩
    · exact ⟨le_of_eq heq, .inr hid⟩

theorem readTimestampCursor_encodeTimestampCursor
    (h : encodeTimestampCursor cursor = .ok value) (hid : IdAccepted cursor.id)
    (otherForms : String → Option Millis) : readTimestampCursor otherForms (some value) = .cursor cursor := by
  unfold encodeTimestampCursor at h
  cases htext : isoString cursor.at with
  | none =>
    rw [htext] at h
    cases h
  | some text =>
    rw [htext] at h
    rw [← Except.ok.inj h]
    have hdecode := decodeKeysetCursor_encodeKeysetCursor { sortValues := [text], id := cursor.id } hid
    simp only [readTimestampCursor, hdecode, parseDate_isoString htext otherForms]

theorem readTimestampCursor_of_arity
    (h : decodeKeysetCursor value = some decoded) (harity : decoded.sortValues.length ≠ 1)
    (otherForms : String → Option Millis) : readTimestampCursor otherForms (some value) = .invalid := by
  simp only [readTimestampCursor, h]
  split
  · rename_i text hsort
    rw [hsort] at harity
    exact absurd rfl harity
  · rfl

end WhatsappCrm
