/-
Purpose: JSON text. The reader takes the grammar of RFC 8259 and keeps the value of a number exactly, as a decimal fraction;
  a string is what its UTF-16 units say.
-/
import WhatsappCrm.Lib.Numeral
import WhatsappCrm.Lib.Utf8

/-- A JSON value. A number is `mantissa * 10 ^ exponent`. -/
inductive Json where
  | null
  | bool (b : Bool)
  | number (mantissa exponent : Int)
  | string (text : List Char)
  | array (items : List Json)
  | object (members : List (List Char × Json))

namespace Json

open Numeral

/-- The UTF-16 units of a character. -/
def units (c : Char) : List Nat :=
  if c.toNat < 0x10000 then [c.toNat]
  else [0xD800 + (c.toNat - 0x10000) / 0x400, 0xDC00 + (c.toNat - 0x10000) % 0x400]

/-- A unit that stands alone. A surrogate without its other half is no character. -/
def ofUnit (unit : Nat) : Char :=
  if 0xD800 ≤ unit ∧ unit ≤ 0xDFFF then Utf8.replacement else Char.ofNat unit

def ofUnits : List Nat → List Char
  | [] => []
  | [a] => [ofUnit a]
  | a :: b :: rest =>
    if (0xD800 ≤ a ∧ a ≤ 0xDBFF) ∧ (0xDC00 ≤ b ∧ b ≤ 0xDFFF) then
      Char.ofNat (0x10000 + (a - 0xD800) * 0x400 + (b - 0xDC00)) :: ofUnits rest
    else ofUnit a :: ofUnits (b :: rest)

/-- The unit of a two-character escape. -/
def escape? (c : Char) : Option Nat :=
  if c = '"' then some 0x22
  else if c = '\\' then some 0x5C
  else if c = '/' then some 0x2F
  else if c = 'b' then some 0x08
  else if c = 'f' then some 0x0C
  else if c = 'n' then some 0x0A
  else if c = 'r' then some 0x0D
  else if c = 't' then some 0x09
  else none

/-- More units in front of those that were read. -/
def prepend (first : List Nat) (read : Option (List Nat × List Char)) : Option (List Nat × List Char) :=
  read.map fun r => (first ++ r.1, r.2)

/-- What stands between the quotes, and what follows. -/
def stringUnits : List Char → Option (List Nat × List Char)
  | [] => none
  | c :: rest =>
    if c = '"' then some ([], rest)
    else if c = '\\' then
      match rest with
      | [] => none
      | e :: rest =>
        if e = 'u' then
          match rest with
          | h₃ :: h₂ :: h₁ :: h₀ :: rest =>
            match hexadecimal.read 4 [h₃, h₂, h₁, h₀] with
            | none => none
            | some (unit, _) => prepend [unit] (stringUnits rest)
          | _ => none
        else
          match escape? e with
          | none => none
          | some unit => prepend [unit] (stringUnits rest)
    else if c.toNat < 0x20 then none
    else prepend (units c) (stringUnits rest)

/-- A string from after its opening quote. -/
def readString (text : List Char) : Option (List Char × List Char) :=
  (stringUnits text).map fun r => (ofUnits r.1, r.2)

def isDigit (c : Char) : Bool := '0' ≤ c ∧ c ≤ '9'

/-- The number a run of digits writes. -/
def digitsValue (ds : List Char) : Nat := value 10 (ds.filterMap decimal.digit?)

/-- `-` in front, and what follows it. -/
def readSign : List Char → Int × List Char
  | c :: rest => if c = '-' then (-1, rest) else (1, c :: rest)
  | [] => (1, [])

/-- `.` and at least one digit, or nothing. -/
def readFraction (text : List Char) : Option (List Char × List Char) :=
  match text with
  | c :: rest =>
    if c = '.' then
      if rest.takeWhile isDigit = [] then none else some (rest.takeWhile isDigit, rest.dropWhile isDigit)
    else some ([], text)
  | [] => some ([], [])

/-- `e` or `E`, a sign and at least one digit, or nothing. -/
def readExponent (text : List Char) : Option (Int × List Char) :=
  match text with
  | c :: rest =>
    if c = 'e' ∨ c = 'E' then
      let signed := match rest with
        | s :: rest' => if s = '+' then (1, rest') else readSign rest
        | [] => (1, [])
      if signed.2.takeWhile isDigit = [] then none
      else some (signed.1 * digitsValue (signed.2.takeWhile isDigit), signed.2.dropWhile isDigit)
    else some (0, text)
  | [] => some (0, [])

/-- A number. No digit follows a leading zero. -/
def readNumber (text : List Char) : Option (Json × List Char) := do
  let (sign, text) := readSign text
  let whole := text.takeWhile isDigit
  if whole = [] ∨ (whole.head? = some '0' ∧ 1 < whole.length) then none
  let (fraction, rest) ← readFraction (text.dropWhile isDigit)
  let (exponent, rest) ← readExponent rest
  pure (.number (sign * digitsValue (whole ++ fraction)) (exponent - fraction.length), rest)

def isSpace (c : Char) : Bool := c = ' ' ∨ c = '\t' ∨ c = '\n' ∨ c = '\r'

def skipSpace (text : List Char) : List Char := text.dropWhile isSpace

/-- `word`, and what follows it. -/
def readWord (word : List Char) (v : Json) (text : List Char) : Option (Json × List Char) :=
  if word.isPrefixOf text then some (v, text.drop word.length) else none

/-- A key and its colon. -/
def readKey (text : List Char) : Option (List Char × List Char) :=
  match skipSpace text with
  | [] => none
  | c :: rest =>
    if c = '"' then
      match readString rest with
      | none => none
      | some (key, rest) =>
        match skipSpace rest with
        | [] => none
        | c :: rest => if c = ':' then some (key, rest) else none
    else none

mutual

/-- A value, and what follows it. The fuel bounds the nesting, which is never deeper than the text is long. -/
def readValue : Nat → List Char → Option (Json × List Char)
  | 0, _ => none
  | fuel + 1, text =>
    match skipSpace text with
    | [] => none
    | c :: rest =>
      if c = '"' then (readString rest).map fun r => (.string r.1, r.2)
      else if c = '[' then
        match skipSpace rest with
        | [] => none
        | c' :: rest' =>
          if c' = ']' then some (.array [], rest')
          else (readItems fuel rest).map fun r => (.array r.1, r.2)
      else if c = '{' then
        match skipSpace rest with
        | [] => none
        | c' :: rest' =>
          if c' = '}' then some (.object [], rest')
          else (readMembers fuel rest).map fun r => (.object r.1, r.2)
      else if c = 'n' then readWord ['n', 'u', 'l', 'l'] .null (c :: rest)
      else if c = 't' then readWord ['t', 'r', 'u', 'e'] (.bool true) (c :: rest)
      else if c = 'f' then readWord ['f', 'a', 'l', 's', 'e'] (.bool false) (c :: rest)
      else readNumber (c :: rest)

/-- The items of an array that has some, to its closing bracket. -/
def readItems : Nat → List Char → Option (List Json × List Char)
  | 0, _ => none
  | fuel + 1, text =>
    match readValue fuel text with
    | none => none
    | some (item, rest) =>
      match skipSpace rest with
      | [] => none
      | c :: rest =>
        if c = ',' then (readItems fuel rest).map fun r => (item :: r.1, r.2)
        else if c = ']' then some ([item], rest)
        else none

/-- The members of an object that has some, to its closing brace. -/
def readMembers : Nat → List Char → Option (List (List Char × Json) × List Char)
  | 0, _ => none
  | fuel + 1, text =>
    match readKey text with
    | none => none
    | some (key, rest) =>
      match readValue fuel rest with
      | none => none
      | some (v, rest) =>
        match skipSpace rest with
        | [] => none
        | c :: rest =>
          if c = ',' then (readMembers fuel rest).map fun r => ((key, v) :: r.1, r.2)
          else if c = '}' then some ([(key, v)], rest)
          else none

end

/-- `JSON.parse`, `none` where it throws. -/
def parse (text : List Char) : Option Json :=
  match readValue (text.length + 1) text with
  | none => none
  | some (v, rest) => if skipSpace rest = [] then some v else none

def field? (key : List Char) (members : List (List Char × Json)) : Option Json :=
  (members.reverse.find? fun m => m.1 = key).map (·.2)

/-- A character of a string, as `JSON.stringify` writes it. -/
def quoteChar (c : Char) : List Char :=
  if c = '"' then ['\\', '"']
  else if c = '\\' then ['\\', '\\']
  else if c.toNat = 0x08 then ['\\', 'b']
  else if c.toNat = 0x09 then ['\\', 't']
  else if c.toNat = 0x0A then ['\\', 'n']
  else if c.toNat = 0x0C then ['\\', 'f']
  else if c.toNat = 0x0D then ['\\', 'r']
  else if c.toNat < 0x20 then '\\' :: 'u' :: hexadecimal.write 4 c.toNat
  else [c]

def quote (text : List Char) : List Char := '"' :: (text.flatMap quoteChar ++ ['"'])

/-- Texts with commas between them. -/
def commas : List (List Char) → List Char
  | [] => []
  | [t] => t
  | t :: t' :: ts => t ++ ',' :: commas (t' :: ts)

def writeArray (items : List (List Char)) : List Char := '[' :: (commas items ++ [']'])

def writeMember (key text : List Char) : List Char := quote key ++ ':' :: text

def writeObject (members : List (List Char × List Char)) : List Char :=
  '{' :: (commas (members.map fun m => writeMember m.1 m.2) ++ ['}'])

/-- Where a value can end inside another one. -/
def Ends (rest : List Char) : Prop := ∀ c ∈ rest.head?, c = ',' ∨ c = ']' ∨ c = '}'

structure Reads (text : List Char) (v : Json) : Prop where
  head : ∃ c rest, text = c :: rest ∧ isSpace c = false ∧ c ≠ ']'
  read : ∀ fuel rest, text.length ≤ fuel → Ends rest → readValue fuel (text ++ rest) = some (v, rest)

theorem stringUnits_quote (rest : List Char) : stringUnits ('"' :: rest) = some ([], rest) := by
  rw [stringUnits.eq_def]
  simp only [if_true]

theorem stringUnits_escape (hu : e ≠ 'u') (he : escape? e = some unit) (rest : List Char) :
    stringUnits ('\\' :: e :: rest) = prepend [unit] (stringUnits rest) := by
  have hquote : ¬ '\\' = '"' := by decide
  rw [stringUnits.eq_def]
  simp only [if_neg hquote, if_true, if_neg hu, he]

theorem stringUnits_hexadecimal (hunit : unit < 0x10000) (rest : List Char) :
    stringUnits ('\\' :: 'u' :: (hexadecimal.write 4 unit ++ rest)) = prepend [unit] (stringUnits rest) := by
  have hquote : ¬ '\\' = '"' := by decide
  have hread := hexadecimal.read_write (by decide) (show unit < hexadecimal.base ^ 4 from hunit) []
  rw [List.append_nil] at hread
  match hwrite : hexadecimal.write 4 unit, hexadecimal.length_write 4 unit with
  | [h₃, h₂, h₁, h₀], _ =>
    rw [hwrite] at hread
    rw [List.cons_append, List.cons_append, List.cons_append, List.cons_append, List.nil_append, stringUnits.eq_def]
    simp only [if_neg hquote, if_true, hread]

/-- A character is read as it was written, whichever way that was. -/
theorem stringUnits_quoteChar (c : Char) (rest : List Char) :
    stringUnits (quoteChar c ++ rest) = prepend (units c) (stringUnits rest) := by
  have hunits : c.toNat < 0x10000 → units c = [c.toNat] := fun hlt => if_pos hlt
  by_cases hquote : c = '"'
  · subst hquote
    exact stringUnits_escape (by decide) rfl rest
  by_cases hback : c = '\\'
  · subst hback
    exact stringUnits_escape (by decide) rfl rest
  rw [quoteChar, if_neg hquote, if_neg hback]
  split
  · rename_i h
    rw [hunits (by omega), h]
    exact stringUnits_escape (by decide) rfl rest
  split
  · rename_i h
    rw [hunits (by omega), h]
    exact stringUnits_escape (by decide) rfl rest
  split
  · rename_i h
    rw [hunits (by omega), h]
    exact stringUnits_escape (by decide) rfl rest
  split
  · rename_i h
    rw [hunits (by omega), h]
    exact stringUnits_escape (by decide) rfl rest
  split
  · rename_i h
    rw [hunits (by omega), h]
    exact stringUnits_escape (by decide) rfl rest
  split
  · rename_i h
    rw [hunits (by omega)]
    exact stringUnits_hexadecimal (by omega) rest
  · rename_i hlow
    rw [List.singleton_append, stringUnits.eq_def]
    simp only [if_neg hquote, if_neg hback, if_neg hlow]

theorem stringUnits_quoted (text rest : List Char) :
    stringUnits (text.flatMap quoteChar ++ '"' :: rest) = some (text.flatMap units, rest) := by
  induction text with
  | nil => exact stringUnits_quote rest
  | cons c text ih =>
    rw [List.flatMap_cons, List.flatMap_cons, List.append_assoc, stringUnits_quoteChar, ih]
    rfl

/-- Of the units of a character only a pair of surrogates is two. -/
theorem ofUnits_units (c : Char) (rest : List Nat) : ofUnits (units c ++ rest) = c :: ofUnits rest := by
  have hvalid := Utf8.valid_toNat c
  unfold units
  split
  · rename_i hlt
    have hone : ofUnit c.toNat = c := by rw [ofUnit, if_neg (by omega), Char.ofNat_toNat]
    cases rest with
    | nil => simp only [List.append_nil, ofUnits, hone]
    | cons => rw [List.singleton_append, ofUnits, if_neg (by omega), hone]
  · have hsum : 0x10000 + (0xD800 + (c.toNat - 0x10000) / 0x400 - 0xD800) * 0x400 +
        (0xDC00 + (c.toNat - 0x10000) % 0x400 - 0xDC00) = c.toNat := by omega
    rw [List.cons_append, List.singleton_append, ofUnits, if_pos (by omega), hsum, Char.ofNat_toNat]

theorem ofUnits_flatMap (text : List Char) : ofUnits (text.flatMap units) = text := by
  induction text with
  | nil => rfl
  | cons c text ih => rw [List.flatMap_cons, ofUnits_units, ih]

theorem readString_quoted (text rest : List Char) :
    readString (text.flatMap quoteChar ++ '"' :: rest) = some (text, rest) := by
  rw [readString, stringUnits_quoted, Option.map_some, ofUnits_flatMap]

theorem skipSpace_cons (hc : isSpace c = false) (rest : List Char) : skipSpace (c :: rest) = c :: rest := by
  simp [skipSpace, hc]

theorem reads_quote (text : List Char) : Reads (quote text) (.string text) where
  head := ⟨'"', _, rfl, rfl, by decide⟩
  read fuel rest hfuel _ := by
    obtain ⟨fuel, rfl⟩ : ∃ n, fuel = n + 1 := ⟨fuel - 1, by simp [quote] at hfuel; omega⟩
    have hstring : readString (text.flatMap quoteChar ++ ['"'] ++ rest) = some (text, rest) := by
      rw [List.append_assoc]
      exact readString_quoted text rest
    simp only [quote, List.cons_append, readValue, skipSpace_cons (c := '"') (by decide), if_true, hstring,
      Option.map_some]

theorem reads_one : Reads ['1'] (.number 1 0) where
  head := ⟨'1', [], rfl, by decide, by decide⟩
  read fuel rest hfuel hends := by
    obtain ⟨fuel, rfl⟩ : ∃ n, fuel = n + 1 := ⟨fuel - 1, by simp at hfuel; omega⟩
    have hnumber : readNumber ('1' :: rest) = some (.number 1 0, rest) := by
      cases rest with
      | nil => rfl
      | cons c =>
        rcases hends c rfl with rfl | rfl | rfl <;> rfl
    exact hnumber

theorem readItems_commas {items : List (List Char × Json)} (hne : items ≠ [])
    (hitems : ∀ i ∈ items, Reads i.1 i.2) (rest : List Char) (hfuel : (commas (items.map (·.1))).length < fuel) :
    readItems fuel (commas (items.map (·.1)) ++ ']' :: rest) = some (items.map (·.2), rest) := by
  induction items generalizing fuel with
  | nil => exact absurd rfl hne
  | cons i items ih =>
    obtain ⟨fuel, rfl⟩ : ∃ n, fuel = n + 1 := ⟨fuel - 1, by omega⟩
    have hi := hitems i List.mem_cons_self
    cases items with
    | nil =>
      have hread := hi.read fuel (']' :: rest) (by simp [commas] at hfuel; omega) (by simp [Ends])
      simp only [List.map_cons, List.map_nil, commas, readItems, hread, skipSpace_cons (c := ']') rfl]
      rfl
    | cons i' items =>
      have hcommas : commas ((i :: i' :: items).map (·.1)) = i.1 ++ ',' :: commas ((i' :: items).map (·.1)) := rfl
      rw [hcommas, List.length_append, List.length_cons] at hfuel
      have hlength : (commas ((i' :: items).map (·.1))).length < fuel := by omega
      have hrest := ih (List.cons_ne_nil i' items) (fun x hx => hitems x (List.mem_cons_of_mem i hx)) hlength
      have hread := hi.read fuel (',' :: (commas ((i' :: items).map (·.1)) ++ ']' :: rest)) (by omega) (by simp [Ends])
      rw [hcommas, List.append_assoc, List.cons_append]
      simp only [readItems, hread, skipSpace_cons (c := ',') rfl, if_true, hrest, Option.map_some]
      rfl

theorem commas_head {items : List (List Char × Json)} (hne : items ≠ []) (hitems : ∀ i ∈ items, Reads i.1 i.2)
    (rest : List Char) : ∃ c rest', commas (items.map (·.1)) ++ rest = c :: rest' ∧ isSpace c = false ∧ c ≠ ']' := by
  obtain ⟨i, items, rfl⟩ := List.exists_cons_of_ne_nil hne
  obtain ⟨c, text, htext, hc⟩ := (hitems i List.mem_cons_self).head
  cases items with
  | nil => exact ⟨c, text ++ rest, by simp [commas, htext], hc⟩
  | cons i' items => exact ⟨c, text ++ ',' :: commas ((i' :: items).map (·.1)) ++ rest, by simp [commas, htext], hc⟩

theorem Reads.array (items : List (List Char × Json)) (hitems : ∀ i ∈ items, Reads i.1 i.2) :
    Reads (writeArray (items.map (·.1))) (.array (items.map (·.2))) where
  head := ⟨'[', _, rfl, by decide, by decide⟩
  read fuel rest hfuel _ := by
    obtain ⟨fuel, rfl⟩ : ∃ n, fuel = n + 1 := ⟨fuel - 1, by simp [writeArray] at hfuel; omega⟩
    have hlength : (commas (items.map (·.1))).length < fuel := by simp [writeArray] at hfuel; omega
    have happend : writeArray (items.map (·.1)) ++ rest = '[' :: (commas (items.map (·.1)) ++ ']' :: rest) := by
      simp [writeArray]
    rw [happend, readValue, skipSpace_cons (c := '[') (by decide)]
    by_cases hne : items = []
    · subst hne
      rfl
    · obtain ⟨c, rest', hhead, hspace, hc⟩ := commas_head hne hitems (']' :: rest)
      have hread := readItems_commas hne hitems rest hlength
      rw [hhead] at hread ⊢
      have hbracket : ¬ '[' = '"' := by decide
      simp only [if_neg hbracket, if_true, skipSpace_cons hspace, if_neg hc, hread, Option.map_some]

structure Member where
  key : List Char
  text : List Char
  value : Json

theorem readKey_quote (key rest : List Char) : readKey (quote key ++ ':' :: rest) = some (key, rest) := by
  have happend : quote key ++ ':' :: rest = '"' :: (key.flatMap quoteChar ++ '"' :: (':' :: rest)) := by
    simp [quote]
  rw [happend, readKey, skipSpace_cons (c := '"') (by decide)]
  simp only [if_true, readString_quoted, skipSpace_cons (c := ':') rfl]

theorem readMembers_commas {members : List Member} (hne : members ≠ [])
    (hmembers : ∀ m ∈ members, Reads m.text m.value) (rest : List Char)
    (hfuel : (commas (members.map fun m => writeMember m.key m.text)).length < fuel) :
    readMembers fuel (commas (members.map fun m => writeMember m.key m.text) ++ '}' :: rest) =
      some (members.map fun m => (m.key, m.value), rest) := by
  induction members generalizing fuel with
  | nil => exact absurd rfl hne
  | cons m members ih =>
    obtain ⟨fuel, rfl⟩ : ∃ n, fuel = n + 1 := ⟨fuel - 1, by omega⟩
    have hm := hmembers m List.mem_cons_self
    cases members with
    | nil =>
      have hlength : m.text.length ≤ fuel := by
        simp [commas, writeMember] at hfuel
        omega
      have hread := hm.read fuel ('}' :: rest) hlength (by simp [Ends])
      have hnot : ¬ '}' = ',' := by decide
      simp only [List.map_cons, List.map_nil, commas, writeMember, List.append_assoc, List.cons_append, readMembers,
        readKey_quote, hread, skipSpace_cons (c := '}') (by decide), if_neg hnot, if_true]
    | cons m' members =>
      have hcommas : commas ((m :: m' :: members).map fun m => writeMember m.key m.text) =
          quote m.key ++ ':' :: (m.text ++ ',' :: commas ((m' :: members).map fun m => writeMember m.key m.text)) := by
        simp [commas, writeMember]
      rw [hcommas, List.length_append, List.length_cons, List.length_append, List.length_cons] at hfuel
      have hlength : (commas ((m' :: members).map fun m => writeMember m.key m.text)).length < fuel := by omega
      have hrest := ih (List.cons_ne_nil m' members) (fun x hx => hmembers x (List.mem_cons_of_mem m hx)) hlength
      have hread := hm.read fuel
        (',' :: (commas ((m' :: members).map fun m => writeMember m.key m.text) ++ '}' :: rest)) (by omega)
        (by simp [Ends])
      rw [hcommas]
      simp only [List.append_assoc, List.cons_append, readMembers, readKey_quote, hread,
        skipSpace_cons (c := ',') rfl, if_true, hrest, Option.map_some]
      rfl

theorem Reads.object {members : List Member} (hmembers : ∀ m ∈ members, Reads m.text m.value) :
    Reads (writeObject (members.map fun m => (m.key, m.text))) (.object (members.map fun m => (m.key, m.value))) where
  head := ⟨'{', _, rfl, by decide, by decide⟩
  read fuel rest hfuel _ := by
    have hwrite : writeObject (members.map fun m => (m.key, m.text)) =
        '{' :: (commas (members.map fun m => writeMember m.key m.text) ++ ['}']) := by
      simp [writeObject, Function.comp_def]
    rw [hwrite] at hfuel ⊢
    obtain ⟨fuel, rfl⟩ : ∃ n, fuel = n + 1 := ⟨fuel - 1, by simp at hfuel; omega⟩
    have hlength : (commas (members.map fun m => writeMember m.key m.text)).length < fuel := by simp at hfuel; omega
    rw [List.cons_append, List.append_assoc, List.singleton_append, readValue, skipSpace_cons (c := '{') (by decide)]
    by_cases hne : members = []
    · subst hne
      rfl
    · have hread := readMembers_commas hne hmembers rest hlength
      obtain ⟨m, members, rfl⟩ := List.exists_cons_of_ne_nil hne
      obtain ⟨rest', hhead⟩ : ∃ rest', commas ((m :: members).map fun m => writeMember m.key m.text) ++ '}' :: rest =
          '"' :: rest' := by
        cases members <;> simp [commas, writeMember, quote]
      rw [hhead] at hread ⊢
      have hquote : ¬ '{' = '"' := by decide
      have hbracket : ¬ '{' = '[' := by decide
      have hbrace : ¬ '"' = '}' := by decide
      simp only [if_neg hquote, if_neg hbracket, if_true, skipSpace_cons (c := '"') (by decide), if_neg hbrace, hread,
        Option.map_some]

theorem Reads.parse (h : Reads text v) : parse text = some v := by
  have hread := h.read (text.length + 1) [] (by omega) (by simp [Ends])
  rw [List.append_nil] at hread
  simp only [Json.parse, hread]
  rfl

end Json
