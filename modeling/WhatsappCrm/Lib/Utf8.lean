/-
Purpose: UTF-8 as a decoder that never fails reads it: each sequence that can no longer become a character is one
  replacement character, and the byte that ruled it out is read afresh.
-/
import Mathlib.Tactic.Common

namespace Utf8

def encode (text : List Char) : List UInt8 := text.flatMap String.utf8EncodeChar

def replacement : Char := Char.ofNat 0xFFFD

/-- Within a sequence: the bits so far, how many bytes are owed, and the range of the next one. -/
structure Pending where
  codePoint : Nat
  needed : Nat
  lower : Nat := 0x80
  upper : Nat := 0xBF

/-- A byte that starts a sequence: what is emitted, and what is pending. -/
def start (b : Nat) : List Char × Option Pending :=
  if b ≤ 0x7F then ([Char.ofNat b], none)
  else if 0xC2 ≤ b ∧ b ≤ 0xDF then ([], some { codePoint := b % 32, needed := 1 })
  else if b = 0xE0 then ([], some { codePoint := 0, needed := 2, lower := 0xA0 })
  else if b = 0xED then ([], some { codePoint := 13, needed := 2, upper := 0x9F })
  else if 0xE1 ≤ b ∧ b ≤ 0xEF then ([], some { codePoint := b % 16, needed := 2 })
  else if b = 0xF0 then ([], some { codePoint := 0, needed := 3, lower := 0x90 })
  else if b = 0xF4 then ([], some { codePoint := 4, needed := 3, upper := 0x8F })
  else if 0xF1 ≤ b ∧ b ≤ 0xF3 then ([], some { codePoint := b % 8, needed := 3 })
  else ([replacement], none)

/-- One byte more. -/
def step (pending : Option Pending) (b : Nat) : List Char × Option Pending :=
  match pending with
  | none => start b
  | some p =>
    if p.lower ≤ b ∧ b ≤ p.upper then
      let codePoint := p.codePoint * 64 + b % 64
      if p.needed ≤ 1 then ([Char.ofNat codePoint], none)
      else ([], some { codePoint, needed := p.needed - 1 })
    else (replacement :: (start b).1, (start b).2)

/-- The characters of a sequence of bytes. A sequence that is cut short by the end is one replacement character. -/
def decodeFrom : Option Pending → List UInt8 → List Char
  | none, [] => []
  | some _, [] => [replacement]
  | pending, b :: bytes => (step pending b.toNat).1 ++ decodeFrom (step pending b.toNat).2 bytes

def decode (bytes : List UInt8) : List Char := decodeFrom none bytes

variable {b : Nat} {p : Pending}

theorem start_two (h : 2 ≤ q ∧ q < 32) : start (0xC0 + q) = ([], some { codePoint := q, needed := 1 }) := by
  have hmod : (0xC0 + q) % 32 = q := by omega
  simp only [start, hmod, if_neg (show ¬ 0xC0 + q ≤ 0x7F by omega),
    if_pos (show 0xC2 ≤ 0xC0 + q ∧ 0xC0 + q ≤ 0xDF by omega)]

theorem start_three (h : q < 16) : start (0xE0 + q) = ([], some
    { codePoint := q, needed := 2, lower := if q = 0 then 0xA0 else 0x80, upper := if q = 13 then 0x9F else 0xBF }) := by
  obtain rfl | rfl | hq : q = 0 ∨ q = 13 ∨ q ≠ 0 ∧ q ≠ 13 := by omega
  · rfl
  · rfl
  · have hmod : (0xE0 + q) % 16 = q := by omega
    simp only [start, hmod, if_neg hq.1, if_neg hq.2, if_neg (show ¬ 0xE0 + q ≤ 0x7F by omega),
      if_neg (show ¬ (0xC2 ≤ 0xE0 + q ∧ 0xE0 + q ≤ 0xDF) by omega), if_neg (show ¬ 0xE0 + q = 0xE0 by omega),
      if_neg (show ¬ 0xE0 + q = 0xED by omega), if_pos (show 0xE1 ≤ 0xE0 + q ∧ 0xE0 + q ≤ 0xEF by omega)]

theorem start_four (h : q < 5) : start (0xF0 + q) = ([], some
    { codePoint := q, needed := 3, lower := if q = 0 then 0x90 else 0x80, upper := if q = 4 then 0x8F else 0xBF }) := by
  obtain rfl | rfl | rfl | rfl | rfl : q = 0 ∨ q = 1 ∨ q = 2 ∨ q = 3 ∨ q = 4 := by omega
  all_goals rfl

theorem decodeFrom_start (hb : b < 256) (hstart : start b = ([], some p)) (bytes : List UInt8) :
    decodeFrom none (UInt8.ofNat b :: bytes) = decodeFrom (some p) bytes := by
  have hbyte : (UInt8.ofNat b).toNat = b := by rw [UInt8.toNat_ofNat', Nat.mod_eq_of_lt hb]
  simp only [decodeFrom, step, hbyte, hstart, List.nil_append]

theorem decodeFrom_more (hb : p.lower ≤ b ∧ b ≤ p.upper) (hlt : b < 256) (hneeded : 1 < p.needed) (bytes : List UInt8) :
    decodeFrom (some p) (UInt8.ofNat b :: bytes) =
      decodeFrom (some { codePoint := p.codePoint * 64 + b % 64, needed := p.needed - 1 }) bytes := by
  have hbyte : (UInt8.ofNat b).toNat = b := by rw [UInt8.toNat_ofNat', Nat.mod_eq_of_lt hlt]
  simp only [decodeFrom, step, hbyte, if_pos hb, if_neg (Nat.not_le.mpr hneeded), List.nil_append]

theorem decodeFrom_last (hb : p.lower ≤ b ∧ b ≤ p.upper) (hlt : b < 256) (hneeded : p.needed = 1) (bytes : List UInt8) :
    decodeFrom (some p) (UInt8.ofNat b :: bytes) = Char.ofNat (p.codePoint * 64 + b % 64) :: decodeFrom none bytes := by
  have hbyte : (UInt8.ofNat b).toNat = b := by rw [UInt8.toNat_ofNat', Nat.mod_eq_of_lt hlt]
  simp only [decodeFrom, step, hbyte, if_pos hb, hneeded, Nat.le_refl, if_true, List.cons_append, List.nil_append]

theorem valid_toNat (c : Char) : c.toNat < 0xD800 ∨ 0xDFFF < c.toNat ∧ c.toNat < 0x110000 := c.valid

/-- The cases are the four lengths of a sequence. -/
theorem decodeFrom_encodeChar (c : Char) (bytes : List UInt8) :
    decodeFrom none (String.utf8EncodeChar c ++ bytes) = c :: decodeFrom none bytes := by
  have hvalid := valid_toNat c
  have hchar : Char.ofNat c.toNat = c := Char.ofNat_toNat c
  have hval : c.val.toNat = c.toNat := rfl
  simp only [String.utf8EncodeChar, hval]
  generalize c.toNat = v at hvalid hchar ⊢
  by_cases hone : v ≤ 0x7F
  · have hbyte : (UInt8.ofNat v).toNat = v := by rw [UInt8.toNat_ofNat', Nat.mod_eq_of_lt (by omega)]
    simp only [if_pos hone, List.cons_append, List.nil_append, decodeFrom, step, start, hbyte, hchar]
  · by_cases htwo : v ≤ 0x7FF
    · have hlead : v / 64 % 0x20 + 0xC0 = 0xC0 + v / 64 := by omega
      have hsum : v / 64 * 64 + (v % 0x40 + 0x80) % 64 = v := by omega
      rw [if_neg hone, if_pos htwo, hlead, List.cons_append, List.cons_append, List.nil_append,
        decodeFrom_start (by omega) (start_two (by omega)),
        decodeFrom_last (show 0x80 ≤ v % 0x40 + 0x80 ∧ v % 0x40 + 0x80 ≤ 0xBF by omega) (by omega) rfl, hsum, hchar]
    · by_cases hthree : v ≤ 0xFFFF
      · have hlead : v / 4096 % 0x10 + 0xE0 = 0xE0 + v / 4096 := by omega
        have hsum : (v / 4096 * 64 + (v / 64 % 0x40 + 0x80) % 64) * 64 + (v % 0x40 + 0x80) % 64 = v := by omega
        have hrange : (if v / 4096 = 0 then 0xA0 else 0x80) ≤ v / 64 % 0x40 + 0x80 ∧
            v / 64 % 0x40 + 0x80 ≤ (if v / 4096 = 13 then 0x9F else 0xBF) := by
          constructor <;> split <;> omega
        rw [if_neg hone, if_neg htwo, if_pos hthree, hlead]
        simp only [List.cons_append, List.nil_append]
        rw [decodeFrom_start (by omega) (start_three (by omega)), decodeFrom_more hrange (by omega) (show 1 < 2 by decide),
          decodeFrom_last (show 0x80 ≤ v % 0x40 + 0x80 ∧ v % 0x40 + 0x80 ≤ 0xBF by omega) (by omega) rfl, hsum, hchar]
      · have hlead : v / 262144 % 0x08 + 0xF0 = 0xF0 + v / 262144 := by omega
        have hsum : ((v / 262144 * 64 + (v / 4096 % 0x40 + 0x80) % 64) * 64 + (v / 64 % 0x40 + 0x80) % 64) * 64 +
            (v % 0x40 + 0x80) % 64 = v := by omega
        have hrange : (if v / 262144 = 0 then 0x90 else 0x80) ≤ v / 4096 % 0x40 + 0x80 ∧
            v / 4096 % 0x40 + 0x80 ≤ (if v / 262144 = 4 then 0x8F else 0xBF) := by
          constructor <;> split <;> omega
        rw [if_neg hone, if_neg htwo, if_neg hthree, hlead]
        simp only [List.cons_append, List.nil_append]
        rw [decodeFrom_start (by omega) (start_four (by omega)), decodeFrom_more hrange (by omega) (show 1 < 3 by decide),
          decodeFrom_more (show 0x80 ≤ v / 64 % 0x40 + 0x80 ∧ v / 64 % 0x40 + 0x80 ≤ 0xBF by omega) (by omega)
            (show 1 < 3 - 1 by decide),
          decodeFrom_last (show 0x80 ≤ v % 0x40 + 0x80 ∧ v % 0x40 + 0x80 ≤ 0xBF by omega) (by omega) rfl, hsum, hchar]

/-- Every text is read back. -/
theorem decode_encode (text : List Char) : decode (encode text) = text := by
  induction text with
  | nil => rfl
  | cons c text ih =>
    calc decode (encode (c :: text))
        = decodeFrom none (String.utf8EncodeChar c ++ encode text) := by rw [decode, encode, List.flatMap_cons, encode]
      _ = c :: decode (encode text) := decodeFrom_encodeChar c _
      _ = c :: text := by rw [ih]

end Utf8
