/-
Purpose: Reading a property of a plain object by a key that is data.
-/
import Mathlib.Tactic.Common

namespace WhatsappCrm.PlainObject

def inheritedNames : List String :=
  ["constructor", "__defineGetter__", "__defineSetter__", "hasOwnProperty", "__lookupGetter__", "__lookupSetter__",
    "isPrototypeOf", "propertyIsEnumerable", "toString", "valueOf", "__proto__", "toLocaleString"]

/-- What reading a property gives: an own value, a member of the prototype, or `undefined`. -/
inductive Property (α : Type) where
  | own (value : α)
  | inherited (name : String)
  | missing
deriving DecidableEq

variable {α : Type}

/-- `object[key]`, for an object with these own entries. -/
def get (entries : List (String × α)) (key : String) : Property α :=
  match entries.lookup key with
  | some value => .own value
  | none => if key ∈ inheritedNames then .inherited key else .missing

def getOwn (entries : List (String × α)) (key : String) : Option α := entries.lookup key

theorem get_own (h : getOwn entries key = some value) : get entries key = .own value := by
  have hlookup : entries.lookup key = some value := h
  rw [get, hlookup]

theorem get_of_not_own (h : getOwn entries key = none) :
    get entries key = if key ∈ inheritedNames then .inherited key else .missing := by
  have hlookup : entries.lookup key = none := h
  rw [get, hlookup]

theorem get_eq_missing_iff : get entries key = .missing ↔ getOwn entries key = none ∧ key ∉ inheritedNames := by
  cases h : getOwn entries key with
  | some => simp [get_own h]
  | none =>
    rw [get_of_not_own h]
    split <;> simp_all

end WhatsappCrm.PlainObject
