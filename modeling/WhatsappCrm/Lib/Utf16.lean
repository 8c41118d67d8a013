/-
Purpose: Strings as sequences of UTF-16 code units, where a surrogate need not be half of a pair.
-/
import Mathlib.Data.Bool.AllAny
import Mathlib.Data.List.DropRight
import WhatsappCrm.Lib.Numeral
import WhatsappCrm.Lib.Utf8

namespace Utf16

def isHigh (u : UInt16) : Bool := 0xD800 ≤ u.toNat ∧ u.toNat < 0xDC00

def isLow (u : UInt16) : Bool := 0xDC00 ≤ u.toNat ∧ u.toNat < 0xE000

def isSurrogate (u : UInt16) : Bool := isHigh u || isLow u

/-- What iterating over a string gives: a high surrogate with the low one after it, or a single unit. -/
def codePoints : List UInt16 → List (List UInt16)
  | [] => []
  | [u] => [[u]]
  | u :: v :: rest => if isHigh u && isLow v then [u, v] :: codePoints rest else [u] :: codePoints (v :: rest)

def isLone : List UInt16 → Bool
  | [u] => isSurrogate u
  | _ => false

/-- Every surrogate is half of a pair. -/
def isWellFormed (text : List UInt16) : Bool := (codePoints text).all (!isLone ·)

/-- A code point with U+FFFD for a lone surrogate. -/
def repaired (p : List UInt16) : List UInt16 := if isLone p then [0xFFFD] else p

def toWellFormed (text : List UInt16) : List UInt16 := (codePoints text).flatMap repaired

def character : List UInt16 → Char
  | [u, v] => Char.ofNat (0x10000 + (u.toNat - 0xD800) * 0x400 + (v.toNat - 0xDC00))
  | [u] => if isSurrogate u then Utf8.replacement else Char.ofNat u.toNat
  | _ => Utf8.replacement

/-- The characters an encoder is given. -/
def characters (text : List UInt16) : List Char := (codePoints text).map character

def units (c : Char) : List UInt16 :=
  if c.toNat < 0x10000 then [UInt16.ofNat c.toNat]
  else [UInt16.ofNat (0xD800 + (c.toNat - 0x10000) / 0x400), UInt16.ofNat (0xDC00 + (c.toNat - 0x10000) % 0x400)]

theorem flatten_codePoints (text : List UInt16) : (codePoints text).flatten = text := by
  induction text using codePoints.induct with
  | case1 | case2 => rfl
  | case3 u v rest hpair ih => rw [codePoints, if_pos hpair, List.flatten_cons, ih]; rfl
  | case4 u v rest hpair ih => rw [codePoints, if_neg hpair, List.flatten_cons, ih]; rfl

theorem mem_codePoints (h : p ∈ codePoints text) :
    (∃ u ∈ text, p = [u]) ∨ ∃ u v, isHigh u = true ∧ isLow v = true ∧ p = [u, v] := by
  induction text using codePoints.induct with
  | case1 => cases h
  | case2 u => exact .inl ⟨u, List.mem_singleton_self u, List.mem_singleton.mp h⟩
  | case3 u v rest hpair ih =>
    rw [codePoints, if_pos hpair, List.mem_cons] at h
    rcases h with rfl | h
    · rw [Bool.and_eq_true] at hpair
      exact .inr ⟨u, v, hpair.1, hpair.2, rfl⟩
    · exact (ih h).imp_left fun ⟨x, hx, hp⟩ => ⟨x, List.mem_cons_of_mem u (List.mem_cons_of_mem v hx), hp⟩
  | case4 u v rest hpair ih =>
    rw [codePoints, if_neg hpair, List.mem_cons] at h
    rcases h with rfl | h
    · exact .inl ⟨u, List.mem_cons_self, rfl⟩
    · exact (ih h).imp_left fun ⟨x, hx, hp⟩ => ⟨x, List.mem_cons_of_mem u hx, hp⟩

theorem codePoints_append (hc : isSurrogate c = false) (text rest : List UInt16) :
    codePoints (text ++ c :: rest) = codePoints text ++ [c] :: codePoints rest := by
  rw [isSurrogate, Bool.or_eq_false_iff] at hc
  induction text using codePoints.induct with
  | case1 => cases rest <;> simp [codePoints, hc.1]
  | case2 => cases rest <;> simp [codePoints, hc.1, hc.2]
  | case3 u v text hpair ih =>
    rw [List.cons_append, List.cons_append, codePoints, if_pos hpair, codePoints, if_pos hpair, ih, List.cons_append]
  | case4 u v text hpair ih =>
    rw [List.cons_append, List.cons_append, codePoints, if_neg hpair, codePoints, if_neg hpair, ← List.cons_append, ih,
      List.cons_append]

theorem toWellFormed_append (hc : isSurrogate c = false) (text rest : List UInt16) :
    toWellFormed (text ++ c :: rest) = toWellFormed text ++ c :: toWellFormed rest := by
  simp [toWellFormed, codePoints_append hc, repaired, isLone, hc]

theorem toWellFormed_eq_self (h : isWellFormed text = true) : toWellFormed text = text := by
  rw [isWellFormed, List.all_eq_true] at h
  calc toWellFormed text = (codePoints text).flatMap id := by
        apply List.flatMap_congr
        intro p hp
        rw [repaired, if_neg (by simpa using h p hp), id]
    _ = text := by rw [List.flatMap_id, flatten_codePoints]

theorem toWellFormed_of_plain (h : ∀ u ∈ text, isSurrogate u = false) : toWellFormed text = text := by
  apply toWellFormed_eq_self
  rw [isWellFormed, List.all_eq_true]
  intro p hp
  rcases mem_codePoints hp with ⟨u, hu, rfl⟩ | ⟨u, v, -, -, rfl⟩
  · simp [isLone, h u hu]
  · rfl

theorem head?_toWellFormed (h : u ∈ (toWellFormed text).head?) : u = 0xFFFD ∨ u ∈ text.head? := by
  cases text with
  | nil => cases h
  | cons v text =>
    have hfirst : (toWellFormed (v :: text)).head? = some v ∨ (toWellFormed (v :: text)).head? = some 0xFFFD := by
      cases text with
      | nil => cases hv : isSurrogate v <;> simp [toWellFormed, codePoints, repaired, isLone, hv]
      | cons w =>
        cases hpair : isHigh v && isLow w with
        | true => simp [toWellFormed, codePoints, hpair, repaired, isLone]
        | false => cases hv : isSurrogate v <;> simp [toWellFormed, codePoints, hpair, repaired, isLone, hv]
    rcases hfirst with hhead | hhead
    · rw [hhead] at h
      exact .inr h
    · rw [hhead] at h
      exact .inl (Option.some.inj h).symm

theorem toNat_ofNat (h : n.isValidChar) : (Char.ofNat n).toNat = n := by
  rw [Char.ofNat, dif_pos h]
  rfl

theorem units_character (h : p ∈ codePoints text) : units (character p) = repaired p := by
  rcases mem_codePoints h with ⟨u, -, rfl⟩ | ⟨u, v, hu, hv, rfl⟩
  · cases hlone : isSurrogate u with
    | true => simp [character, repaired, isLone, hlone, units, Utf8.replacement]
    | false =>
      have hlt : u.toNat < 0x10000 := u.toNat_lt
      have hvalid : u.toNat.isValidChar := by
        simp only [isSurrogate, isHigh, isLow, Bool.or_eq_false_iff, decide_eq_false_iff_not] at hlone
        omega
      have hchar : (Char.ofNat u.toNat).toNat = u.toNat := toNat_ofNat hvalid
      simp only [character, hlone, Bool.false_eq_true, if_false, units, hchar, if_pos hlt, repaired, isLone,
        UInt16.ofNat_toNat]
  · simp only [isHigh, isLow, decide_eq_true_eq] at hu hv
    have hvalid : (0x10000 + (u.toNat - 0xD800) * 0x400 + (v.toNat - 0xDC00)).isValidChar := by
      omega
    have hchar := toNat_ofNat hvalid
    have hhigh : 0xD800 + (0x10000 + (u.toNat - 0xD800) * 0x400 + (v.toNat - 0xDC00) - 0x10000) / 0x400 = u.toNat := by omega
    have hlow : 0xDC00 + (0x10000 + (u.toNat - 0xD800) * 0x400 + (v.toNat - 0xDC00) - 0x10000) % 0x400 = v.toNat := by omega
    have hastral : ¬ 0x10000 + (u.toNat - 0xD800) * 0x400 + (v.toNat - 0xDC00) < 0x10000 := by omega
    simp only [character, units, hchar, if_neg hastral, hhigh, hlow, UInt16.ofNat_toNat, repaired, isLone,
      Bool.false_eq_true, if_false]

/-- What an encoder is given says the text, but for its lone surrogates. -/
theorem flatMap_units_characters (text : List UInt16) : (characters text).flatMap units = toWellFormed text := by
  rw [characters, toWellFormed, List.flatMap_map]
  exact List.flatMap_congr fun p hp => units_character hp

/-- `WhiteSpace` and `LineTerminator`. -/
def isSpace (u : UInt16) : Bool :=
  [0x9, 0xA, 0xB, 0xC, 0xD, 0x20, 0xA0, 0x1680, 0x2028, 0x2029, 0x202F, 0x205F, 0x3000, 0xFEFF].contains u.toNat ||
    (0x2000 ≤ u.toNat && u.toNat ≤ 0x200A)

def trim (text : List UInt16) : List UInt16 := (text.dropWhile isSpace).rdropWhile isSpace

/-- Neither end satisfies the predicate. -/
def Trimmed (p : α → Bool) (l : List α) : Prop := (∀ a ∈ l.head?, p a = false) ∧ ∀ a ∈ l.getLast?, p a = false

theorem Trimmed.trim_eq (h : Trimmed p l) : (l.dropWhile p).rdropWhile p = l := by
  have hdrop : l.dropWhile p = l := by
    cases l with
    | nil => rfl
    | cons a => simp [h.1 a rfl]
  rw [hdrop, List.rdropWhile_eq_self_iff]
  intro hne
  simp [h.2 _ (List.getLast?_eq_some_getLast hne)]

theorem trimmed_trim (p : α → Bool) (l : List α) : Trimmed p ((l.dropWhile p).rdropWhile p) := by
  constructor
  · intro a ha
    obtain ⟨rest, hrest⟩ := List.rdropWhile_prefix p (l.dropWhile p)
    have hhead : (l.dropWhile p).head? = some a := by
      rw [← hrest, List.head?_append, ha, Option.some_or]
    have hnot := List.head?_dropWhile_not p l
    rwa [hhead] at hnot
  · intro a ha
    obtain ⟨hne, rfl⟩ := List.mem_getLast?_eq_getLast ha
    simpa using List.rdropWhile_last_not p _ hne

/-- `0` to `9` and `A` to `F`. -/
def upperHexadecimal : Numeral.Alphabet where
  base := 16
  char d := Char.ofNat (if d < 10 then 48 + d else 55 + d)
  digit? := Numeral.hexadecimal.digit?
  digit?_char := by decide

/-- The characters `encodeURIComponent` leaves as they are. -/
def isUnreserved (c : Char) : Bool := c.isAlphanum || "-_.!~*'()".toList.contains c

def percentByte (b : UInt8) : List Char :=
  ['%', upperHexadecimal.char (b.toNat / 16), upperHexadecimal.char (b.toNat % 16)]

def percentChar (c : Char) : List Char :=
  if isUnreserved c then [c] else (String.utf8EncodeChar c).flatMap percentByte

/-- `none` is the `URIError` a lone surrogate raises. -/
def encodeURIComponent (text : List UInt16) : Option (List Char) :=
  if isWellFormed text then some ((characters text).flatMap percentChar) else none

/-- The bytes of a text in which `%` stands before two digits of one. -/
def percentBytes : List Char → List UInt8
  | c :: h :: l :: rest =>
    if c = '%' then
      match upperHexadecimal.digit? h, upperHexadecimal.digit? l with
      | some high, some low => UInt8.ofNat (16 * high + low) :: percentBytes rest
      | _, _ => UInt8.ofNat c.toNat :: percentBytes (h :: l :: rest)
    else UInt8.ofNat c.toNat :: percentBytes (h :: l :: rest)
  | c :: rest => UInt8.ofNat c.toNat :: percentBytes rest
  | [] => []

def decodeURIComponent (text : List Char) : List UInt16 := (Utf8.decode (percentBytes text)).flatMap units

theorem percentBytes_cons (hc : c ≠ '%') (rest : List Char) :
    percentBytes (c :: rest) = UInt8.ofNat c.toNat :: percentBytes rest := by
  match rest with
  | [] => rfl
  | [_] => rfl
  | h :: l :: rest => rw [percentBytes, if_neg hc]

theorem percentBytes_percentByte (b : UInt8) (rest : List Char) :
    percentBytes (percentByte b ++ rest) = b :: percentBytes rest := by
  have hlt : b.toNat < 256 := b.toNat_lt
  have hhigh := upperHexadecimal.digit?_char (b.toNat / 16) (show b.toNat / 16 < 16 by omega)
  have hlow := upperHexadecimal.digit?_char (b.toNat % 16) (show b.toNat % 16 < 16 by omega)
  simp only [percentByte, List.cons_append, List.nil_append, percentBytes, if_true, hhigh, hlow,
    Nat.div_add_mod, UInt8.ofNat_toNat]

theorem isUnreserved_range (h : isUnreserved c = true) : 0x20 ≤ c.toNat ∧ c.toNat ≤ 0x7E := by
  unfold isUnreserved Char.isAlphanum Char.isAlpha Char.isUpper Char.isLower Char.isDigit at h
  simp only [Bool.or_eq_true, Bool.and_eq_true, decide_eq_true_eq, ge_iff_le, UInt32.le_iff_toNat_le] at h
  rcases h with ((h | h) | h) | h
  · exact ⟨Nat.le_trans (by decide) h.1, Nat.le_trans h.2 (by decide)⟩
  · exact ⟨Nat.le_trans (by decide) h.1, Nat.le_trans h.2 (by decide)⟩
  · exact ⟨Nat.le_trans (by decide) h.1, Nat.le_trans h.2 (by decide)⟩
  · have hall : ∀ d ∈ "-_.!~*'()".toList, 0x20 ≤ d.toNat ∧ d.toNat ≤ 0x7E :=
      List.all_iff_forall_prop.mp (by decide)
    exact hall c (List.contains_iff_mem.mp h)

/-- Everything that is written is visible ASCII. -/
theorem percentChar_range (h : d ∈ percentChar c) : 0x20 ≤ d.toNat ∧ d.toNat ≤ 0x7E := by
  unfold percentChar at h
  split at h
  · rename_i hc
    rw [List.mem_singleton.mp h]
    exact isUnreserved_range hc
  · have hdigit : ∀ n < 16, 0x20 ≤ (upperHexadecimal.char n).toNat ∧ (upperHexadecimal.char n).toNat ≤ 0x7E := by decide
    obtain ⟨b, -, hd⟩ := List.mem_flatMap.mp h
    have hlt : b.toNat < 256 := b.toNat_lt
    simp only [percentByte, List.mem_cons, List.not_mem_nil, or_false] at hd
    rcases hd with rfl | rfl | rfl
    · decide
    · exact hdigit _ (by omega)
    · exact hdigit _ (by omega)

theorem percentBytes_percentChar (c : Char) (rest : List Char) :
    percentBytes (percentChar c ++ rest) = String.utf8EncodeChar c ++ percentBytes rest := by
  unfold percentChar
  split
  · rename_i h
    have hrange := isUnreserved_range h
    have hne : c ≠ '%' := by
      rintro rfl
      exact absurd h (by decide)
    rw [List.singleton_append, percentBytes_cons hne]
    have hval : c.val.toNat = c.toNat := rfl
    simp only [String.utf8EncodeChar, hval, if_pos (show c.toNat ≤ 0x7F by omega), List.singleton_append]
  · induction String.utf8EncodeChar c with
    | nil => rfl
    | cons b bytes ih => rw [List.flatMap_cons, List.append_assoc, percentBytes_percentByte, ih, List.cons_append]

theorem decodeURI_encode (h : encodeURIComponent text = some encoded) : decodeURIComponent encoded = text := by
  unfold encodeURIComponent at h
  split at h
  · rename_i hwell
    have hbytes : percentBytes encoded = Utf8.encode (characters text) := by
      rw [← Option.some.inj h, Utf8.encode]
      induction characters text with
      | nil => rfl
      | cons c cs ih => rw [List.flatMap_cons, percentBytes_percentChar, ih, List.flatMap_cons]
    rw [decodeURIComponent, hbytes, Utf8.decode_encode, flatMap_units_characters, toWellFormed_eq_self hwell]
  · cases h

end Utf16
