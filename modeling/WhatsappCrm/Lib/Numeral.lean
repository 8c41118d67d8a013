/-
Purpose: Numbers written with a fixed number of digits, most significant first, in any base and any alphabet; the text
  of a 128-bit identifier; and base64url without padding, the way a lenient decoder reads it.
-/
import Mathlib.Data.List.Induction
import Mathlib.Tactic.Linarith

namespace Numeral

/-- The last `width` digits of a number. -/
def digits (base : Nat) : Nat → Nat → List Nat
  | 0, _ => []
  | width + 1, n => digits base width (n / base) ++ [n % base]

/-- The number a list of digits writes. -/
def value (base : Nat) (ds : List Nat) : Nat := ds.foldl (fun n d => n * base + d) 0

@[simp] theorem length_digits (base width n : Nat) : (digits base width n).length = width := by
  induction width generalizing n with
  | zero => rfl
  | succ width ih => simp [digits, ih]

theorem lt_of_mem_digits (hbase : 0 < base) (h : d ∈ digits base width n) : d < base := by
  induction width generalizing n with
  | zero => cases h
  | succ width ih =>
    rcases List.mem_append.mp h with h | h
    · exact ih h
    · rw [List.mem_singleton.mp h]
      exact Nat.mod_lt n hbase

@[simp] theorem value_nil (base : Nat) : value base [] = 0 := rfl

@[simp] theorem value_concat (base : Nat) (ds : List Nat) (d : Nat) :
    value base (ds ++ [d]) = value base ds * base + d := by
  simp [value]

theorem value_digits (hn : n < base ^ width) : value base (digits base width n) = n := by
  induction width generalizing n with
  | zero =>
    have hzero : n = 0 := by simpa using hn
    simp [digits, hzero]
  | succ width ih =>
    have hdiv : n / base < base ^ width := by
      apply Nat.div_lt_of_lt_mul
      rwa [Nat.pow_succ, Nat.mul_comm] at hn
    rw [digits, value_concat, ih hdiv]
    exact Nat.div_add_mod' n base

theorem value_lt (hds : ∀ d ∈ ds, d < base) : value base ds < base ^ ds.length := by
  induction ds using List.reverseRecOn with
  | nil => simp
  | append_singleton ds d ih =>
    have hd : d < base := hds d (by simp)
    have hrest : value base ds < base ^ ds.length := ih fun d' hd' => hds d' (by simp [hd'])
    have hmul : (value base ds + 1) * base ≤ base ^ ds.length * base := Nat.mul_le_mul_right base hrest
    rw [value_concat, List.length_append, List.length_singleton, Nat.pow_succ]
    linarith

theorem digits_value (hds : ∀ d ∈ ds, d < base) : digits base ds.length (value base ds) = ds := by
  induction ds using List.reverseRecOn with
  | nil => rfl
  | append_singleton ds d ih =>
    have hd : d < base := hds d (by simp)
    have hrest := ih fun d' hd' => hds d' (by simp [hd'])
    have hdiv : (value base ds * base + d) / base = value base ds := by
      rw [Nat.mul_comm, Nat.mul_add_div (by omega), Nat.div_eq_of_lt hd, Nat.add_zero]
    have hmod : (value base ds * base + d) % base = d := by
      rw [Nat.mul_comm, Nat.mul_add_mod, Nat.mod_eq_of_lt hd]
    rw [value_concat, List.length_append, List.length_singleton, digits, hdiv, hmod, hrest]

/-- A character for each digit. Reading may accept more characters than are written. -/
structure Alphabet where
  base : Nat
  char : Nat → Char
  digit? : Char → Option Nat
  digit?_char : ∀ d, d < base → digit? (char d) = some d

namespace Alphabet

variable (a : Alphabet)

/-- A number, with as many digits as asked for. -/
def write (width n : Nat) : List Char := (digits a.base width n).map a.char

/-- The number in the first `width` characters, all of which have to be digits, and what follows them. -/
def read (width : Nat) (text : List Char) : Option (Nat × List Char) :=
  if width ≤ text.length then
    match (text.take width).mapM a.digit? with
    | none => none
    | some ds => some (value a.base ds, text.drop width)
  else none

/-- A number that a given character has to follow. -/
def readBefore (width : Nat) (stop : Char) (text : List Char) : Option (Nat × List Char) :=
  match a.read width text with
  | none => none
  | some (_, []) => none
  | some (n, c :: rest) => if c = stop then some (n, rest) else none

@[simp] theorem length_write (width n : Nat) : (a.write width n).length = width := by
  simp [write]

theorem mapM_digit?_char {ds : List Nat} (hds : ∀ d ∈ ds, d < a.base) : (ds.map a.char).mapM a.digit? = some ds := by
  induction ds with
  | nil => rfl
  | cons d ds ih =>
    have hd := a.digit?_char d (hds d List.mem_cons_self)
    have hrest := ih fun d' hd' => hds d' (List.mem_cons_of_mem _ hd')
    simp [List.mapM_cons, hd, hrest]

theorem filterMap_digit?_char {ds : List Nat} (hds : ∀ d ∈ ds, d < a.base) : (ds.map a.char).filterMap a.digit? = ds := by
  induction ds with
  | nil => rfl
  | cons d ds ih =>
    have hd := a.digit?_char d (hds d List.mem_cons_self)
    have hrest := ih fun d' hd' => hds d' (List.mem_cons_of_mem _ hd')
    rw [List.map_cons, List.filterMap_cons_some hd, hrest]

theorem read_write {width n : Nat} (hbase : 0 < a.base) (hn : n < a.base ^ width) (rest : List Char) :
    a.read width (a.write width n ++ rest) = some (n, rest) := by
  have hlength : width ≤ (a.write width n ++ rest).length := by simp
  have htake : (a.write width n ++ rest).take width = a.write width n := by
    rw [List.take_append_of_le_length (by simp), List.take_of_length_le (by simp)]
  have hdrop : (a.write width n ++ rest).drop width = rest := by
    rw [List.drop_append_of_le_length (by simp), List.drop_of_length_le (by simp), List.nil_append]
  have hdigits : (a.write width n).mapM a.digit? = some (digits a.base width n) :=
    a.mapM_digit?_char fun d hd => lt_of_mem_digits hbase hd
  simp only [read, if_pos hlength, htake, hdigits, hdrop, value_digits hn]

theorem readBefore_write (hbase : 0 < a.base) (hn : n < a.base ^ width) (stop : Char)
    (rest : List Char) : a.readBefore width stop (a.write width n ++ stop :: rest) = some (n, rest) := by
  have hread := a.read_write hbase hn (stop :: rest)
  simp only [readBefore, hread, if_true]

end Alphabet

/-- `0` to `9`. -/
def decimal : Alphabet where
  base := 10
  char d := Char.ofNat (48 + d)
  digit? c := if '0' ≤ c ∧ c ≤ '9' then some (c.toNat - 48) else none
  digit?_char := by decide

/-- `0` to `9` and `a` to `f`; the capitals are read too. -/
def hexadecimal : Alphabet where
  base := 16
  char d := if d < 10 then Char.ofNat (48 + d) else Char.ofNat (87 + d)
  digit? c :=
    if '0' ≤ c ∧ c ≤ '9' then some (c.toNat - 48)
    else if 'a' ≤ c ∧ c ≤ 'f' then some (c.toNat - 87)
    else if 'A' ≤ c ∧ c ≤ 'F' then some (c.toNat - 55)
    else none
  digit?_char := by decide

end Numeral

namespace UuidText

open Numeral

structure Groups where
  timeLow : Nat
  timeMid : Nat
  timeHigh : Nat
  clock : Nat
  node : Nat

namespace Groups

def ofBits (id : BitVec 128) : Groups where
  timeLow := id.toNat / 2 ^ 96
  timeMid := id.toNat / 2 ^ 80 % 2 ^ 16
  timeHigh := id.toNat / 2 ^ 64 % 2 ^ 16
  clock := id.toNat / 2 ^ 48 % 2 ^ 16
  node := id.toNat % 2 ^ 48

def bits (g : Groups) : BitVec 128 :=
  BitVec.ofNat 128 (g.timeLow * 2 ^ 96 + g.timeMid * 2 ^ 80 + g.timeHigh * 2 ^ 64 + g.clock * 2 ^ 48 + g.node)

theorem bits_ofBits (id : BitVec 128) : (ofBits id).bits = id := by
  apply BitVec.eq_of_toNat_eq
  have hid : id.toNat < 2 ^ 128 := id.isLt
  simp only [bits, ofBits, BitVec.toNat_ofNat]
  omega

/-- The digit that names the version, and the one that names the variant. -/
def version (g : Groups) : Nat := g.timeHigh / 2 ^ 12

def variant (g : Groups) : Nat := g.clock / 2 ^ 12

end Groups

def write (id : BitVec 128) : List Char :=
  let g := Groups.ofBits id
  hexadecimal.write 8 g.timeLow ++ '-' :: (hexadecimal.write 4 g.timeMid ++ '-' ::
    (hexadecimal.write 4 g.timeHigh ++ '-' :: (hexadecimal.write 4 g.clock ++ '-' :: hexadecimal.write 12 g.node)))

def read (text : List Char) : Option Groups := do
  let (timeLow, rest) ← hexadecimal.readBefore 8 '-' text
  let (timeMid, rest) ← hexadecimal.readBefore 4 '-' rest
  let (timeHigh, rest) ← hexadecimal.readBefore 4 '-' rest
  let (clock, rest) ← hexadecimal.readBefore 4 '-' rest
  let (node, rest) ← hexadecimal.read 12 rest
  if rest = [] then some { timeLow, timeMid, timeHigh, clock, node } else none

theorem read_write (id : BitVec 128) : read (write id) = some (Groups.ofBits id) := by
  have hid : id.toNat < 2 ^ 128 := id.isLt
  have hpos : 0 < hexadecimal.base := by decide
  have hlow : (Groups.ofBits id).timeLow < 16 ^ 8 := by simp only [Groups.ofBits]; omega
  have hmid : (Groups.ofBits id).timeMid < 16 ^ 4 := by simp only [Groups.ofBits]; omega
  have hhigh : (Groups.ofBits id).timeHigh < 16 ^ 4 := by simp only [Groups.ofBits]; omega
  have hclock : (Groups.ofBits id).clock < 16 ^ 4 := by simp only [Groups.ofBits]; omega
  have hnode : (Groups.ofBits id).node < 16 ^ 12 := by simp only [Groups.ofBits]; omega
  have hend := hexadecimal.read_write hpos hnode []
  rw [List.append_nil] at hend
  simp only [read, write, hexadecimal.readBefore_write hpos hlow, hexadecimal.readBefore_write hpos hmid,
    hexadecimal.readBefore_write hpos hhigh, hexadecimal.readBefore_write hpos hclock, hend,
    Option.bind_eq_bind, Option.bind_some, if_true]

end UuidText

namespace Base64

open Numeral

/-- `A` to `Z`, `a` to `z`, `0` to `9`, `-` and `_`. -/
def base64url : Alphabet where
  base := 64
  char d :=
    if d < 26 then Char.ofNat (65 + d)
    else if d < 52 then Char.ofNat (71 + d)
    else if d < 62 then Char.ofNat (d - 4)
    else if d = 62 then '-'
    else '_'
  digit? c :=
    if 'A' ≤ c ∧ c ≤ 'Z' then some (c.toNat - 65)
    else if 'a' ≤ c ∧ c ≤ 'z' then some (c.toNat - 71)
    else if '0' ≤ c ∧ c ≤ '9' then some (c.toNat + 4)
    else if c = '-' ∨ c = '+' then some 62
    else if c = '_' ∨ c = '/' then some 63
    else none
  digit?_char := by decide

/-- Three bytes at a time as four digits; the bits missing at the end are zeros. -/
def sextets : List Nat → List Nat
  | a :: b :: c :: rest => digits 64 4 (value 256 [a, b, c]) ++ sextets rest
  | [a, b] => digits 64 3 (value 256 [a, b] * 4)
  | [a] => digits 64 2 (value 256 [a] * 16)
  | [] => []

/-- Four digits at a time as three bytes; bits that fill no byte at the end are dropped. -/
def octets : List Nat → List Nat
  | a :: b :: c :: d :: rest => digits 256 3 (value 64 [a, b, c, d]) ++ octets rest
  | [a, b, c] => digits 256 2 (value 64 [a, b, c] / 4)
  | [a, b] => digits 256 1 (value 64 [a, b] / 16)
  | [_] => []
  | [] => []

def encode (bytes : List UInt8) : List Char := (sextets (bytes.map UInt8.toNat)).map base64url.char

def decode (text : List Char) : List UInt8 := (octets (text.filterMap base64url.digit?)).map UInt8.ofNat

theorem lt_of_mem_sextets (h : d ∈ sextets bytes) : d < 64 := by
  induction bytes using sextets.induct with
  | case1 a b c rest ih =>
    rcases List.mem_append.mp h with h | h
    · exact lt_of_mem_digits (by decide) h
    · exact ih h
  | case2 | case3 => exact lt_of_mem_digits (by decide) h
  | case4 => cases h

theorem octets_digits (hn : n < 64 ^ 4) (rest : List Nat) :
    octets (digits 64 4 n ++ rest) = digits 256 3 n ++ octets rest := by
  have hvalue := value_digits hn
  obtain ⟨a, b, c, d, hds⟩ : ∃ a b c d, digits 64 4 n = [a, b, c, d] := ⟨_, _, _, _, rfl⟩
  rw [hds] at hvalue ⊢
  simp only [List.cons_append, List.nil_append, octets, hvalue]

theorem octets_sextets (hbytes : ∀ b ∈ bytes, b < 256) : octets (sextets bytes) = bytes := by
  induction bytes using sextets.induct with
  | case1 a b c rest ih =>
    have hgroup : ∀ x ∈ [a, b, c], x < 256 := fun x hx => hbytes x (List.mem_append_left rest hx)
    have hlt : value 256 [a, b, c] < 256 ^ 3 := value_lt hgroup
    have hvalue : value 256 [a, b, c] < 64 ^ 4 := by omega
    have hrest := ih fun x hx => hbytes x (List.mem_append_right [a, b, c] hx)
    rw [sextets, octets_digits hvalue, hrest]
    exact congrArg (· ++ rest) (digits_value hgroup)
  | case2 a b =>
    have hvalue : value 256 [a, b] < 256 ^ 2 := value_lt hbytes
    have hdigits : value 64 (digits 64 3 (value 256 [a, b] * 4)) = value 256 [a, b] * 4 :=
      value_digits (by omega)
    obtain ⟨x, y, z, hds⟩ : ∃ x y z, digits 64 3 (value 256 [a, b] * 4) = [x, y, z] := ⟨_, _, _, rfl⟩
    rw [hds] at hdigits
    rw [sextets, hds, octets, hdigits, Nat.mul_div_cancel _ (by decide)]
    exact digits_value hbytes
  | case3 a =>
    have hvalue : value 256 [a] < 256 ^ 1 := value_lt hbytes
    have hdigits : value 64 (digits 64 2 (value 256 [a] * 16)) = value 256 [a] * 16 :=
      value_digits (by omega)
    obtain ⟨x, y, hds⟩ : ∃ x y, digits 64 2 (value 256 [a] * 16) = [x, y] := ⟨_, _, rfl⟩
    rw [hds] at hdigits
    rw [sextets, hds, octets, hdigits, Nat.mul_div_cancel _ (by decide)]
    exact digits_value hbytes
  | case4 => rfl

theorem decode_encode (bytes : List UInt8) : decode (encode bytes) = bytes := by
  have hsextets : ((sextets (bytes.map UInt8.toNat)).map base64url.char).filterMap base64url.digit? =
      sextets (bytes.map UInt8.toNat) := by
    exact base64url.filterMap_digit?_char fun d hd => lt_of_mem_sextets hd
  have hbytes : ∀ b ∈ bytes.map UInt8.toNat, b < 256 := by
    intro b hb
    obtain ⟨byte, -, rfl⟩ := List.mem_map.mp hb
    exact byte.toNat_lt
  rw [decode, encode, hsextets, octets_sextets hbytes, List.map_map]
  exact (List.map_congr_left fun byte _ => UInt8.ofNat_toNat).trans (List.map_id bytes)

end Base64
