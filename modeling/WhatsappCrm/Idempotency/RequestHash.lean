/-
Purpose: What `hashIdempotentRequest` digests: one string for every order of a payload's keys, and different strings for
  different requests.
-/
import Mathlib.Data.List.Lex
import Mathlib.Data.List.Perm.Basic
import WhatsappCrm.Lib.Keyset
import WhatsappCrm.Lib.Stringify

namespace WhatsappCrm.Idempotency

open Stringify

abbrev Member := List UInt16 × Value

/-- The order of `<` on strings: by code units. -/
def keyUnits (m : Member) : List Nat := m.1.map UInt16.toNat

/-- `entries.sort(([left], [right]) => …)`. -/
def sortEntries (entries : List Member) : List Member := Keyset.sortBy (fun a b => decide (keyUnits a ≤ keyUnits b)) entries

/-- The array index a key is: decimal digits without leading zeros, up to `2 ^ 32 - 2`. -/
def arrayIndex? (key : List UInt16) : Option Nat :=
  let digits := key.filterMap fun u => Numeral.decimal.digit? (Char.ofNat u.toNat)
  if digits.length = key.length ∧ key ≠ [] ∧ (digits.head? = some 0 → digits = [0]) ∧
      Numeral.value 10 digits < 2 ^ 32 - 1 then some (Numeral.value 10 digits)
  else none

/-- `Object.fromEntries`: an object has its array indices first, in ascending order, and then its other keys as they were
added. -/
def fromEntries (entries : List Member) : List Member :=
  Keyset.sortBy (fun a b => decide ((arrayIndex? a.1).getD 0 ≤ (arrayIndex? b.1).getD 0))
    (entries.filter fun m => (arrayIndex? m.1).isSome) ++ entries.filter fun m => !(arrayIndex? m.1).isSome

mutual

/-- The sort looks at keys alone, so what it sorts already holds canonical values. -/
def canonicalise : Value → Value
  | .null => .null
  | .bool b => .bool b
  | .number n => .number n
  | .string text => .string text
  | .array items => .array (canonicaliseItems items)
  | .object members => .object (fromEntries (sortEntries (canonicaliseMembers members)))

def canonicaliseItems : List Value → List Value
  | [] => []
  | v :: items => canonicalise v :: canonicaliseItems items

def canonicaliseMembers : List Member → List Member
  | [] => []
  | (key, v) :: members => (key, canonicalise v) :: canonicaliseMembers members

end

mutual

def KeysDistinct : Value → Prop
  | .array items => ItemsDistinct items
  | .object members => (members.map Prod.fst).Nodup ∧ MembersDistinct members
  | _ => True

def ItemsDistinct : List Value → Prop
  | [] => True
  | v :: items => KeysDistinct v ∧ ItemsDistinct items

def MembersDistinct : List Member → Prop
  | [] => True
  | (_, v) :: members => KeysDistinct v ∧ MembersDistinct members

end

structure HashedRequest where
  operation : List UInt16
  target : List UInt16
  payload : Value
  keysDistinct : KeysDistinct payload

def property (name : String) (v : Value) : Member := (name.toList.flatMap Utf16.units, v)

def digested (input : HashedRequest) : List Char :=
  stringify (.object [property "operation" (.string input.operation), property "target" (.string input.target),
    property "payload" (canonicalise input.payload)])

mutual

/-- Equal as JSON values: the members of an object in any order. -/
inductive Same : Value → Value → Prop where
  | null : Same .null .null
  | bool (b : Bool) : Same (.bool b) (.bool b)
  | number (n : Number) : Same (.number n) (.number n)
  | string (text : List UInt16) : Same (.string text) (.string text)
  | array (h : SameItems xs ys) : Same (.array xs) (.array ys)
  | object (hperm : List.Perm ms ms') (h : SameMembers ms' ns) : Same (.object ms) (.object ns)

inductive SameItems : List Value → List Value → Prop where
  | nil : SameItems [] []
  | cons (h : Same v w) (hrest : SameItems vs ws) : SameItems (v :: vs) (w :: ws)

inductive SameMembers : List Member → List Member → Prop where
  | nil : SameMembers [] []
  | cons (key : List UInt16) (h : Same v w) (hrest : SameMembers ms ns) : SameMembers ((key, v) :: ms) ((key, w) :: ns)

end

def canonicaliseMember (m : Member) : Member := (m.1, canonicalise m.2)

theorem canonicaliseItems_eq (items : List Value) : canonicaliseItems items = items.map canonicalise := by
  induction items with
  | nil => rw [canonicaliseItems, List.map_nil]
  | cons v items ih => rw [canonicaliseItems, List.map_cons, ih]

theorem canonicaliseMembers_eq (members : List Member) :
    canonicaliseMembers members = members.map canonicaliseMember := by
  induction members with
  | nil => rw [canonicaliseMembers, List.map_nil]
  | cons m members ih => rw [canonicaliseMembers, List.map_cons, ih, canonicaliseMember]

theorem ItemsDistinct.mem (h : ItemsDistinct items) (hv : v ∈ items) : KeysDistinct v := by
  induction items with
  | nil => cases hv
  | cons w items ih =>
    rw [ItemsDistinct] at h
    rcases List.mem_cons.mp hv with rfl | hv
    · exact h.1
    · exact ih h.2 hv

theorem MembersDistinct.mem (h : MembersDistinct members) (hm : m ∈ members) : KeysDistinct m.2 := by
  induction members with
  | nil => cases hm
  | cons m' members ih =>
    rw [MembersDistinct] at h
    rcases List.mem_cons.mp hm with rfl | hm
    · exact h.1
    · exact ih h.2 hm

theorem sortEntries_eq_of_perm (hkeys : (es.map Prod.fst).Nodup) (hperm : List.Perm es es') :
    sortEntries es = sortEntries es' := by
  have hle : Keyset.SortsBy (fun a b => decide (keyUnits a ≤ keyUnits b)) keyUnits := fun _ _ => decide_eq_true_iff
  have hnodup : ((sortEntries es).map keyUnits).Nodup := by
    have hunits : (es.map keyUnits).Nodup := by
      rw [show es.map keyUnits = (es.map Prod.fst).map (List.map UInt16.toNat) by rw [List.map_map]; rfl]
      exact hkeys.map (List.map_injective_iff.mpr fun _ _ => UInt16.toNat_inj.mp)
    exact ((Keyset.sortBy_perm _ es).map keyUnits).nodup_iff.mpr hunits
  exact Keyset.eq_of_perm hnodup ((Keyset.sortBy_perm _ es).trans (hperm.trans (Keyset.sortBy_perm _ es').symm))
    (Keyset.pairwise_sortBy hle es) (Keyset.pairwise_sortBy hle es')

theorem fromEntries_perm (es : List Member) : (fromEntries es).Perm es :=
  ((Keyset.sortBy_perm _ _).append_right _).trans (List.filter_append_perm _ es)

theorem canonicalise_of_same (v : Value) : ∀ w, Same v w → KeysDistinct v → canonicalise v = canonicalise w := by
  induction v using Value.induction with
  | null | bool | number | string =>
    intro w h _
    cases h
    rfl
  | array items ih =>
    intro w h hdistinct
    cases h with
    | array h =>
      rename_i items'
      rw [KeysDistinct] at hdistinct
      have hitems : items.map canonicalise = items'.map canonicalise := by
        induction items generalizing items' with
        | nil =>
          cases h
          rfl
        | cons v items ihitems =>
          cases h with
          | cons hv hrest =>
            have hfirst := ih v List.mem_cons_self _ hv (hdistinct.mem List.mem_cons_self)
            rw [ItemsDistinct] at hdistinct
            rw [List.map_cons, List.map_cons, hfirst, ihitems (fun v hv => ih v (List.mem_cons_of_mem _ hv)) hdistinct.2 hrest]
      rw [canonicalise, canonicalise, canonicaliseItems_eq, canonicaliseItems_eq, hitems]
  | object members ih =>
    intro w h hdistinct
    cases h with
    | object hperm h =>
      rename_i permuted members'
      rw [KeysDistinct] at hdistinct
      have hvalues : ∀ m ∈ permuted, ∀ w, Same m.2 w → canonicalise m.2 = canonicalise w := fun m hm w hw =>
        ih m (hperm.mem_iff.mpr hm) w hw (hdistinct.2.mem (hperm.mem_iff.mpr hm))
      have hmembers : permuted.map canonicaliseMember = members'.map canonicaliseMember := by
        clear hperm ih
        induction permuted generalizing members' with
        | nil =>
          cases h
          rfl
        | cons m permuted ihmembers =>
          cases h with
          | cons key hv hrest =>
            rw [List.map_cons, List.map_cons, canonicaliseMember, canonicaliseMember,
              hvalues _ List.mem_cons_self _ hv, ihmembers hrest fun m hm => hvalues m (List.mem_cons_of_mem _ hm)]
      have hkeys : ((members.map canonicaliseMember).map Prod.fst).Nodup := by
        rw [List.map_map]
        exact hdistinct.1
      rw [canonicalise, canonicalise, canonicaliseMembers_eq, canonicaliseMembers_eq, ← hmembers,
        sortEntries_eq_of_perm hkeys (hperm.map canonicaliseMember)]

/-- What has the same image up to order is, up to order, member for member the same. -/
theorem exists_perm_map {bs : List α} (h : List.Perm (as.map f) (bs.map f)) :
    ∃ as', List.Perm as as' ∧ as'.map f = bs.map f := by
  have hrel : List.Forall₂ (fun a b => f a = b) as (as.map f) := by
    rw [List.forall₂_map_right_iff, List.forall₂_same]
    exact fun _ _ => rfl
  have hcomp : Relation.Comp (List.Forall₂ fun a b => f a = b) List.Perm as (bs.map f) := ⟨_, hrel, h⟩
  rw [List.forall₂_comp_perm_eq_perm_comp_forall₂] at hcomp
  obtain ⟨as', hperm, hmap⟩ := hcomp
  refine ⟨as', hperm, ?_⟩
  rw [← List.forall₂_eq_eq_eq, List.forall₂_map_left_iff]
  exact hmap

theorem same_of_canonicalise (v : Value) : ∀ w, canonicalise v = canonicalise w → Same v w := by
  induction v using Value.induction with
  | null =>
    intro w h
    cases w <;> cases h
    exact .null
  | bool b =>
    intro w h
    cases w <;> cases h
    exact .bool b
  | number n =>
    intro w h
    cases w <;> cases h
    exact .number n
  | string text =>
    intro w h
    cases w <;> cases h
    exact .string text
  | array items ih =>
    intro w h
    cases w with
    | array items' =>
      rw [canonicalise, canonicalise, canonicaliseItems_eq, canonicaliseItems_eq, Value.array.injEq] at h
      apply Same.array
      induction items generalizing items' with
      | nil =>
        rw [List.map_nil, eq_comm, List.map_eq_nil_iff] at h
        exact h ▸ .nil
      | cons v items ihitems =>
        cases items' with
        | nil => cases h
        | cons w items' =>
          rw [List.map_cons, List.map_cons, List.cons.injEq] at h
          exact .cons (ih v List.mem_cons_self w h.1) (ihitems (fun v hv => ih v (List.mem_cons_of_mem _ hv)) items' h.2)
    | _ => cases h
  | object members ih =>
    intro w h
    cases w with
    | object members' =>
      rw [canonicalise, canonicalise, canonicaliseMembers_eq, canonicaliseMembers_eq, Value.object.injEq] at h
      have hperm : List.Perm (members.map canonicaliseMember) (members'.map canonicaliseMember) := by
        have hcanonical : ∀ es, List.Perm (fromEntries (sortEntries es)) es := fun es =>
          (fromEntries_perm _).trans (Keyset.sortBy_perm _ es)
        exact (hcanonical _).symm.trans (h ▸ hcanonical _)
      obtain ⟨permuted, hpermuted, hmap⟩ := exists_perm_map hperm
      apply Same.object hpermuted
      have hvalues : ∀ m ∈ permuted, ∀ w, canonicalise m.2 = canonicalise w → Same m.2 w := fun m hm =>
        ih m (hpermuted.mem_iff.mpr hm)
      clear hpermuted hperm h ih
      induction permuted generalizing members' with
      | nil =>
        rw [List.map_nil, eq_comm, List.map_eq_nil_iff] at hmap
        exact hmap ▸ .nil
      | cons m permuted ihmembers =>
        cases members' with
        | nil => cases hmap
        | cons n members' =>
          rw [List.map_cons, List.map_cons, List.cons.injEq, canonicaliseMember, canonicaliseMember, Prod.mk.injEq] at hmap
          obtain ⟨key, v⟩ := m
          obtain ⟨key', w⟩ := n
          obtain ⟨⟨rfl, hvalue⟩, hrest⟩ := hmap
          exact .cons key (hvalues _ List.mem_cons_self w hvalue)
            (ihmembers members' hrest fun m hm => hvalues m (List.mem_cons_of_mem _ hm))
    | _ => cases h

end WhatsappCrm.Idempotency
