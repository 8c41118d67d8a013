/-
Purpose: What `JSON.stringify` writes, on values whose strings are UTF-16 code units: no two values are written alike.
-/
import WhatsappCrm.Lib.Json
import WhatsappCrm.Lib.Utf16

namespace Stringify

open Json (Ends commas)

def isNumberChar (c : Char) : Bool := "0123456789+-.e".toList.contains c

/-- A finite number, by the text that says it: each number has its own, which the two zeros share. -/
structure Number where
  text : List Char
  ne_nil : text ≠ []
  numeric : ∀ c ∈ text, isNumberChar c = true
deriving DecidableEq

/-- An object is the list of its own properties. -/
inductive Value where
  | null
  | bool (b : Bool)
  | number (n : Number)
  | string (text : List UInt16)
  | array (items : List Value)
  | object (members : List (List UInt16 × Value))

/-- A code point of a string: a surrogate that stands alone is escaped. -/
def quotePoint (p : List UInt16) : List Char :=
  match p with
  | [u] =>
    if Utf16.isSurrogate u then '\\' :: 'u' :: Numeral.hexadecimal.write 4 u.toNat else Json.quoteChar (Char.ofNat u.toNat)
  | p => [Utf16.character p]

def quoted (text : List UInt16) : List Char := (Utf16.codePoints text).flatMap quotePoint

def quote (text : List UInt16) : List Char := '"' :: (quoted text ++ ['"'])

mutual

def stringify : Value → List Char
  | .null => ['n', 'u', 'l', 'l']
  | .bool true => ['t', 'r', 'u', 'e']
  | .bool false => ['f', 'a', 'l', 's', 'e']
  | .number n => n.text
  | .string text => quote text
  | .array items => '[' :: (commas (stringifyItems items) ++ [']'])
  | .object members => '{' :: (commas (stringifyMembers members) ++ ['}'])

def stringifyItems : List Value → List (List Char)
  | [] => []
  | v :: items => stringify v :: stringifyItems items

def stringifyMembers : List (List UInt16 × Value) → List (List Char)
  | [] => []
  | (key, v) :: members => (quote key ++ ':' :: stringify v) :: stringifyMembers members

end

@[elab_as_elim]
theorem Value.induction {P : Value → Prop} (null : P .null) (bool : ∀ b, P (.bool b)) (number : ∀ n, P (.number n))
    (string : ∀ text, P (.string text)) (array : ∀ items, (∀ v ∈ items, P v) → P (.array items))
    (object : ∀ members, (∀ m ∈ members, P m.2) → P (.object members)) (v : Value) : P v :=
  @Value.rec P (fun items => ∀ v ∈ items, P v) (fun members => ∀ m ∈ members, P m.2) (fun m => P m.2) null bool number
    string array object nofun (fun _ _ hv hitems => List.forall_mem_cons.mpr ⟨hv, hitems⟩) nofun
    (fun _ _ hm hmembers => List.forall_mem_cons.mpr ⟨hm, hmembers⟩) (fun _ _ hv => hv) v

theorem units_eq (c : Char) : Json.units c = (Utf16.units c).map UInt16.toNat := by
  have hvalid := Utf8.valid_toNat c
  unfold Json.units Utf16.units
  split
  · simp only [List.map_cons, List.map_nil, UInt16.toNat_ofNat', List.cons.injEq, and_true]
    omega
  · simp only [List.map_cons, List.map_nil, UInt16.toNat_ofNat', List.cons.injEq, and_true]
    omega

theorem quoteChar_of_le (h : 0x80 ≤ c.toNat) : Json.quoteChar c = [c] := by
  have hne : ∀ d : Char, d.toNat < 0x80 → c ≠ d := by
    rintro d hd rfl
    omega
  simp only [Json.quoteChar, if_neg (hne '"' (by decide)), if_neg (hne '\\' (by decide))]
  repeat rw [if_neg (by omega)]

theorem stringUnits_quotePoint (h : p ∈ Utf16.codePoints text) (rest : List Char) :
    Json.stringUnits (quotePoint p ++ rest) = Json.prepend (p.map UInt16.toNat) (Json.stringUnits rest) := by
  have hunits := Utf16.units_character h
  rcases Utf16.mem_codePoints h with ⟨u, -, rfl⟩ | ⟨u, v, hu, hv, rfl⟩
  · cases hsurrogate : Utf16.isSurrogate u with
    | true =>
      simp only [quotePoint, hsurrogate, if_true, List.cons_append]
      exact Json.stringUnits_hexadecimal u.toNat_lt rest
    | false =>
      simp only [Utf16.repaired, Utf16.isLone, hsurrogate, Bool.false_eq_true, if_false, Utf16.character] at hunits
      simp only [quotePoint, hsurrogate, Bool.false_eq_true, if_false]
      rw [Json.stringUnits_quoteChar, units_eq, hunits]
  · simp only [Utf16.repaired, Utf16.isLone, Bool.false_eq_true, if_false] at hunits
    have hpair : Json.quoteChar (Utf16.character [u, v]) = [Utf16.character [u, v]] := by
      apply quoteChar_of_le
      by_contra hlt
      rw [Utf16.units, if_pos (by omega)] at hunits
      exact absurd (congrArg List.length hunits) (by simp)
    have hquote : quotePoint [u, v] = Json.quoteChar (Utf16.character [u, v]) := by
      simp only [quotePoint, hpair]
    rw [hquote, Json.stringUnits_quoteChar, units_eq, hunits]

theorem stringUnits_quoted (text : List UInt16) (rest : List Char) :
    Json.stringUnits (quoted text ++ '"' :: rest) = some (text.map UInt16.toNat, rest) := by
  have hpoints : ∀ ps : List (List UInt16), (∀ p ∈ ps, p ∈ Utf16.codePoints text) →
      Json.stringUnits (ps.flatMap quotePoint ++ '"' :: rest) = some (ps.flatten.map UInt16.toNat, rest) := by
    intro ps hps
    induction ps with
    | nil => exact Json.stringUnits_quote rest
    | cons p ps ih =>
      have hrest := ih fun q hq => hps q (List.mem_cons_of_mem p hq)
      rw [List.flatMap_cons, List.append_assoc, stringUnits_quotePoint (hps p List.mem_cons_self), hrest, List.flatten_cons,
        List.map_append]
      rfl
  have hall := hpoints (Utf16.codePoints text) fun _ h => h
  rwa [Utf16.flatten_codePoints] at hall

theorem quote_inj (h : quote a ++ r = quote b ++ r') : a = b ∧ r = r' := by
  have hread : Json.stringUnits (quoted a ++ '"' :: r) = Json.stringUnits (quoted b ++ '"' :: r') := by
    simp only [quote, List.cons_append, List.append_assoc, List.nil_append, List.cons.injEq, true_and] at h
    rw [h]
  rw [stringUnits_quoted, stringUnits_quoted, Option.some.injEq, Prod.mk.injEq] at hread
  exact ⟨List.map_injective_iff.mpr (fun _ _ => UInt16.toNat_inj.mp) hread.1, hread.2⟩

/-- What a value is, as its first character tells. -/
def shape : Value → Nat
  | .null => 0
  | .bool true => 1
  | .bool false => 2
  | .number _ => 3
  | .string _ => 4
  | .array _ => 5
  | .object _ => 6

def shapeOf (c : Char) : Nat :=
  if c = 'n' then 0 else if c = 't' then 1 else if c = 'f' then 2 else if c = '"' then 4 else if c = '[' then 5
  else if c = '{' then 6 else 3

theorem stringify_head (v : Value) : ∃ c rest, stringify v = c :: rest ∧ shapeOf c = shape v ∧ c ≠ ']' ∧ c ≠ '}' := by
  cases v with
  | null => exact ⟨_, _, by rw [stringify], by decide⟩
  | bool b =>
    cases b with
    | true | false => exact ⟨_, _, by rw [stringify], by decide⟩
  | number n =>
    obtain ⟨c, rest, htext⟩ := List.exists_cons_of_ne_nil n.ne_nil
    have hchars : ∀ c ∈ "0123456789+-.e".toList, shapeOf c = 3 ∧ c ≠ ']' ∧ c ≠ '}' :=
      List.all_iff_forall_prop.mp (by decide)
    have hc := n.numeric c (htext ▸ List.mem_cons_self)
    exact ⟨c, rest, by rw [stringify, htext], hchars c (List.contains_iff_mem.mp hc)⟩
  | string => exact ⟨_, _, by rw [stringify, quote], rfl, by decide, by decide⟩
  | array | object => exact ⟨_, _, by rw [stringify], rfl, by decide, by decide⟩

theorem shape_eq {v : Value} (h : stringify v ++ r = stringify w ++ r') : shape v = shape w := by
  obtain ⟨c, rest, hv, hshape, -⟩ := stringify_head v
  obtain ⟨d, rest', hw, hshape', -⟩ := stringify_head w
  rw [hv, hw, List.cons_append, List.cons_append, List.cons.injEq] at h
  rw [← hshape, ← hshape', h.1]

theorem takeWhile_number (n : Number) (hr : Ends r) : (n.text ++ r).takeWhile isNumberChar = n.text := by
  have hrest : r.takeWhile isNumberChar = [] := by
    cases r with
    | nil => rfl
    | cons c =>
      rcases hr c rfl with rfl | rfl | rfl <;> rfl
  rw [List.takeWhile_append_of_pos n.numeric, hrest, List.append_nil]

theorem number_inj {n m : Number} (hr : Ends r) (hr' : Ends r') (h : n.text ++ r = m.text ++ r') : n = m ∧ r = r' := by
  have htext : n.text = m.text := by rw [← takeWhile_number n hr, h, takeWhile_number m hr']
  rw [htext] at h
  cases n
  cases m
  cases htext
  exact ⟨rfl, List.append_cancel_left h⟩

/-- Texts that say what they were written from, with commas between them and a bracket behind. -/
theorem commas_inj {f : α → List Char} (hclose : Ends [close]) (hcomma : close ≠ ',')
    (hstart : ∀ a, ∃ c rest, f a = c :: rest ∧ c ≠ close)
    (hf : ∀ a ∈ as, ∀ b r r', Ends r → Ends r' → f a ++ r = f b ++ r' → a = b ∧ r = r') {bs : List α}
    (h : commas (as.map f) ++ close :: r = commas (bs.map f) ++ close :: r') : as = bs ∧ r = r' := by
  have hend : ∀ rest, Ends (close :: rest) := fun rest c hc => hclose c (Option.some.inj hc ▸ rfl)
  have hmore : ∀ rest, Ends (',' :: rest) := fun rest c hc => .inl (Option.some.inj hc).symm
  induction as generalizing bs with
  | nil =>
    cases bs with
    | nil => exact ⟨rfl, (List.cons.inj h).2⟩
    | cons b bs =>
      obtain ⟨c, rest, hb, hc⟩ := hstart b
      cases bs with
      | nil | cons => simp [commas, hb, Ne.symm hc] at h
  | cons a as ih =>
    have ha := hf a List.mem_cons_self
    have hrest := fun a' ha' => hf a' (List.mem_cons_of_mem a ha')
    cases bs with
    | nil =>
      obtain ⟨c, rest, hb, hc⟩ := hstart a
      cases as with
      | nil | cons => simp [commas, hb, hc] at h
    | cons b bs =>
      cases as with
      | nil =>
        cases bs with
        | nil =>
          obtain ⟨hab, htail⟩ := ha b _ _ (hend r) (hend r') h
          exact ⟨by rw [hab], (List.cons.inj htail).2⟩
        | cons =>
          simp only [List.map_cons, List.map_nil, commas, List.append_assoc, List.cons_append] at h
          exact absurd (List.cons.inj (ha b _ _ (hend r) (hmore _) h).2).1 hcomma
      | cons a' as =>
        cases bs with
        | nil =>
          simp only [List.map_cons, List.map_nil, commas, List.append_assoc, List.cons_append] at h
          exact absurd (List.cons.inj (ha b _ _ (hmore _) (hend r') h).2).1 (Ne.symm hcomma)
        | cons b' bs =>
          simp only [List.map_cons, commas, List.append_assoc, List.cons_append] at h
          obtain ⟨hab, htail⟩ := ha b _ _ (hmore _) (hmore _) h
          have hlater : commas ((a' :: as).map f) ++ close :: r = commas ((b' :: bs).map f) ++ close :: r' :=
            (List.cons.inj htail).2
          obtain ⟨hasbs, hr⟩ := ih hrest hlater
          exact ⟨by rw [hab, hasbs], hr⟩

def member (m : List UInt16 × Value) : List Char := quote m.1 ++ ':' :: stringify m.2

theorem stringifyItems_eq (items : List Value) : stringifyItems items = items.map stringify := by
  induction items with
  | nil => rw [stringifyItems, List.map_nil]
  | cons v items ih => rw [stringifyItems, List.map_cons, ih]

theorem stringifyMembers_eq (members : List (List UInt16 × Value)) : stringifyMembers members = members.map member := by
  induction members with
  | nil => rw [stringifyMembers, List.map_nil]
  | cons m members ih => rw [stringifyMembers, List.map_cons, ih, member]

theorem stringify_inj (v : Value) : ∀ w r r', Ends r → Ends r' → stringify v ++ r = stringify w ++ r' → v = w ∧ r = r' := by
  induction v using Value.induction with
  | null =>
    intro w r r' _ _ h
    cases w with
    | null => exact ⟨rfl, List.append_cancel_left h⟩
    | bool b => cases b <;> cases shape_eq h
    | _ => cases shape_eq h
  | bool b =>
    intro w r r' _ _ h
    cases w with
    | bool b' =>
      have hshape := shape_eq h
      cases b <;> cases b' <;> first | exact ⟨rfl, List.append_cancel_left h⟩ | cases hshape
    | _ => cases b <;> cases shape_eq h
  | number =>
    intro w r r' hr hr' h
    cases w with
    | number =>
      rw [stringify, stringify] at h
      exact (number_inj hr hr' h).imp_left (congrArg Value.number)
    | bool b => cases b <;> cases shape_eq h
    | _ => cases shape_eq h
  | string =>
    intro w r r' _ _ h
    cases w with
    | string =>
      rw [stringify, stringify] at h
      exact (quote_inj h).imp_left (congrArg Value.string)
    | bool b => cases b <;> cases shape_eq h
    | _ => cases shape_eq h
  | array items ih =>
    intro w r r' _ _ h
    cases w with
    | array =>
      have hstart : ∀ v : Value, ∃ c rest, stringify v = c :: rest ∧ c ≠ ']' := by
        intro v
        obtain ⟨c, rest, hv, -, hc, -⟩ := stringify_head v
        exact ⟨c, rest, hv, hc⟩
      simp only [stringify, stringifyItems_eq, List.cons_append, List.append_assoc, List.nil_append, List.cons.injEq,
        true_and] at h
      exact (commas_inj (by simp [Ends]) (by decide) hstart ih h).imp_left (congrArg Value.array)
    | bool b => cases b <;> cases shape_eq h
    | _ => cases shape_eq h
  | object members ih =>
    intro w r r' _ _ h
    cases w with
    | object =>
      have hmember : ∀ m ∈ members, ∀ m' r r', Ends r → Ends r' → member m ++ r = member m' ++ r' → m = m' ∧ r = r' := by
        intro m hm m' r r' hr hr' h
        simp only [member, List.append_assoc, List.cons_append] at h
        obtain ⟨hkey, hrest⟩ := quote_inj h
        obtain ⟨hvalue, htail⟩ := ih m hm m'.2 r r' hr hr' (List.cons.inj hrest).2
        exact ⟨Prod.ext hkey hvalue, htail⟩
      simp only [stringify, stringifyMembers_eq, List.cons_append, List.append_assoc, List.nil_append, List.cons.injEq,
        true_and] at h
      exact (commas_inj (by simp [Ends]) (by decide) (fun m => ⟨'"', _, rfl, by decide⟩) hmember h).imp_left
        (congrArg Value.object)
    | bool b => cases b <;> cases shape_eq h
    | _ => cases shape_eq h

end Stringify
