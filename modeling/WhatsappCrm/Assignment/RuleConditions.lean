/-
Purpose: The condition grammar of a routing rule, its schemas (`packages/contracts/src/assignment.ts`) and its
  evaluation (`assignment/rule-conditions.ts`).
-/
import WhatsappCrm.Ai.Contract
import WhatsappCrm.Lib.Json
import WhatsappCrm.Lib.PlainObject
import WhatsappCrm.Workflows.Contract

namespace WhatsappCrm.Assignment

open Workflows (utf16Length)

def conditionsPerRule : Nat := 10

def valuesPerCondition : Nat := 25

def keywordLength : Nat := 80

def attributeKeyLength : Nat := 40

def attributeValueLength : Nat := 200

inductive RoutingConditionMatch where
  | any
  | all
deriving DecidableEq

inductive ContactAttributeOperator where
  | equals
  | notEquals
  | contains
  | isSet
  | isNotSet
deriving DecidableEq

def ContactAttributeOperator.takesValue : ContactAttributeOperator → Bool
  | .isSet => false
  | .isNotSet => false
  | _ => true

structure ContactAttributeCondition where
  key : String
  operator : ContactAttributeOperator
  value : Option String
deriving DecidableEq

inductive RoutingCondition where
  | keyword (mode : RoutingConditionMatch) (values : List String)
  | tag (mode : RoutingConditionMatch) (tagIds : List Uuid)
  | businessHours (within : Bool)
  | contactAttribute (condition : ContactAttributeCondition)
deriving DecidableEq

/-- `/^[a-z][a-z0-9_]*$/`. -/
def isAttributeKey : List Char → Bool
  | [] => false
  | c :: cs => ('a' ≤ c && c ≤ 'z') && cs.all fun c => ('a' ≤ c && c ≤ 'z') || ('0' ≤ c && c ≤ '9') || c = '_'

/-- What `ContactAttributeConditionSchema` takes; the last clause is its `refine`. -/
def ContactAttributeCondition.accepted (condition : ContactAttributeCondition) : Bool :=
  isAttributeKey condition.key.toList && utf16Length condition.key ≤ attributeKeyLength &&
    condition.value.all (utf16Length · ≤ attributeValueLength) &&
    condition.operator.takesValue = condition.value.isSome

def RoutingCondition.accepted : RoutingCondition → Bool
  | .keyword _ values =>
    (values.all fun value => 1 ≤ utf16Length value ∧ utf16Length value ≤ keywordLength) &&
      decide (1 ≤ values.length ∧ values.length ≤ valuesPerCondition)
  | .tag _ tagIds => 1 ≤ tagIds.length ∧ tagIds.length ≤ valuesPerCondition
  | .businessHours _ => true
  | .contactAttribute condition => condition.accepted

abbrev CustomFieldValues := List (String × Option String)

/-- A value of `CustomFieldValuesSchema`: `z.string().nullable()`. -/
def customFieldValue? : Json → Option (Option String)
  | .string text => some (some (String.ofList text))
  | .null => some none
  | _ => none

/-- `CustomFieldValuesSchema`: `z.record` copies every entry but `__proto__`, and each has to be a text or null. -/
def customFieldValues? : Json → Option CustomFieldValues
  | .object members =>
    (members.filter fun m => m.1 ≠ "__proto__".toList).mapM fun m =>
      (customFieldValue? m.2).map fun value => (String.ofList m.1, value)
  | _ => none

/-- `readCustomFields`, of a ticket's contact: `none` for no contact, else the column. A null column is a contact with
    nothing set; fields that do not parse are no facts. -/
def readCustomFields : Option (Option Json) → Option CustomFieldValues
  | none => none
  | some none => some []
  | some (some column) => customFieldValues? column

/-- `RoutingFacts`: what a rule can look at, each `none` where there is nothing to read. -/
structure RoutingFacts where
  messageBody : Option String
  tagIds : Option (List Uuid)
  customFields : Option CustomFieldValues
  withinBusinessHours : Option Bool

structure RoutingFactsNeeded where
  messageBody : Bool
  tags : Bool
  customFields : Bool
  businessHours : Bool

def factsNeededBy (ruleConditions : List (List RoutingCondition)) : RoutingFactsNeeded where
  messageBody := ruleConditions.flatten.any fun c => match c with | .keyword .. => true | _ => false
  tags := ruleConditions.flatten.any fun c => match c with | .tag .. => true | _ => false
  customFields := ruleConditions.flatten.any fun c => match c with | .contactAttribute _ => true | _ => false
  businessHours := ruleConditions.flatten.any fun c => match c with | .businessHours _ => true | _ => false

open PlainObject

/-- What evaluating a condition can throw: the member of the prototype that has no such method. -/
inductive TypeError where
  | toLowerCaseIsNotAFunction (member : String)
deriving DecidableEq

/-- A property that is not null: a text of the object, or a member of its prototype. -/
inductive FieldValue where
  | text (value : String)
  | member (name : String)
deriving DecidableEq

/-- `customFields[key] ?? null`. -/
def fieldValue (customFields : CustomFieldValues) (key : String) : Option FieldValue :=
  match get customFields key with
  | .own value => value.map .text
  | .inherited name => some (.member name)
  | .missing => none

def combine {α : Type} (mode : RoutingConditionMatch) (values : List α) (holds : α → Bool) : Bool :=
  match mode with
  | .any => values.any holds
  | .all => values.all holds

section Text

variable (unicode : Ai.Unicode)

/-- `a.toLowerCase().includes(b.toLowerCase())`. -/
def includesIgnoringCase (haystack needle : String) : Bool :=
  Ai.includes (unicode.toLowerCase haystack.toList) (unicode.toLowerCase needle.toList)

/-- `keywordMatches`. A value of nothing but space never matches. -/
def keywordMatches (mode : RoutingConditionMatch) (values : List String) : Option String → Bool
  | none => false
  | some body =>
    combine mode (values.map fun value => unicode.toLowerCase (Ai.trim value.toList)) fun needle =>
      needle ≠ [] && Ai.includes (unicode.toLowerCase body.toList) needle

def tagMatches (mode : RoutingConditionMatch) (tagIds : List Uuid) : Option (List Uuid) → Bool
  | none => false
  | some held => combine mode tagIds fun tagId => held.contains tagId

def contactAttributeMatches (condition : ContactAttributeCondition) (customFields : Option CustomFieldValues) :
    Except TypeError Bool :=
  match customFields with
  | none => .ok false
  | some customFields =>
    let value := fieldValue customFields condition.key
    match condition.operator with
    | .isSet => .ok value.isSome
    | .isNotSet => .ok value.isNone
    | .equals => .ok (value.isSome && value = condition.value.map .text)
    | .notEquals => .ok (value.isSome && value ≠ condition.value.map .text)
    | .contains =>
      match value, condition.value with
      | some (.text value), some needle => .ok (includesIgnoringCase unicode value needle)
      | some (.member name), some _ => .error (.toLowerCaseIsNotAFunction name)
      | _, _ => .ok false

def conditionMatches (condition : RoutingCondition) (facts : RoutingFacts) : Except TypeError Bool :=
  match condition with
  | .keyword mode values => .ok (keywordMatches unicode mode values facts.messageBody)
  | .tag mode tagIds => .ok (tagMatches mode tagIds facts.tagIds)
  | .businessHours within => .ok (facts.withinBusinessHours = some within)
  | .contactAttribute condition => contactAttributeMatches unicode condition facts.customFields

/-- `ruleMatches`: `every`, which stops at the first condition that does not hold. -/
def ruleMatches (facts : RoutingFacts) : List RoutingCondition → Except TypeError Bool
  | [] => .ok true
  | condition :: conditions =>
    match conditionMatches unicode condition facts with
    | .error e => .error e
    | .ok false => .ok false
    | .ok true => ruleMatches facts conditions

def ownValue (customFields : CustomFieldValues) (key : String) : Option String := (getOwn customFields key).join

/-- What a condition asks of the value of its field; `none` is a field that is not set. -/
def ContactAttributeCondition.holdsOf (condition : ContactAttributeCondition) (value : Option String) : Bool :=
  match condition.operator with
  | .isSet => value.isSome
  | .isNotSet => value.isNone
  | .equals => value.isSome && value = condition.value
  | .notEquals => value.isSome && value ≠ condition.value
  | .contains => value.any fun value => condition.value.any fun needle => includesIgnoringCase unicode value needle

def ownVerdict (condition : ContactAttributeCondition) (customFields : Option CustomFieldValues) : Bool :=
  customFields.any fun customFields => condition.holdsOf unicode (ownValue customFields condition.key)

variable {unicode}

variable {customFields : CustomFieldValues} {key : String}

theorem fieldValue_own (h : (getOwn customFields key).isSome ∨ key ∉ inheritedNames) :
    fieldValue customFields key = (ownValue customFields key).map .text := by
  unfold fieldValue ownValue
  cases hown : getOwn customFields key with
  | some =>
    rw [get_own hown]
    rfl
  | none =>
    rw [get_of_not_own hown]
    have hnot : key ∉ inheritedNames := by
      apply h.resolve_left
      rw [hown]
      exact Bool.false_ne_true
    rw [if_neg hnot]
    rfl

theorem fieldValue_inherited (hown : getOwn customFields key = none) (hkey : key ∈ inheritedNames) :
    fieldValue customFields key = some (.member key) ∧ ownValue customFields key = none := by
  rw [fieldValue, get_of_not_own hown, if_pos hkey, ownValue, hown]
  exact ⟨rfl, rfl⟩

theorem map_text_eq_iff {a b : Option String} : a.map FieldValue.text = b.map FieldValue.text ↔ a = b :=
  (Option.map_injective fun _ _ h => FieldValue.text.inj h).eq_iff

theorem contactAttributeMatches_own {condition : ContactAttributeCondition} (h : (getOwn customFields condition.key).isSome ∨ condition.key ∉ inheritedNames) :
    contactAttributeMatches unicode condition (some customFields) =
      .ok (ownVerdict unicode condition (some customFields)) := by
  simp only [contactAttributeMatches, ownVerdict, Option.any_some, ContactAttributeCondition.holdsOf, fieldValue_own h]
  cases condition.operator with
  | isSet | isNotSet => simp
  | equals | notEquals => simp [map_text_eq_iff]
  | contains =>
    cases ownValue customFields condition.key with
    | none => rfl
    | some value =>
      cases condition.value with
      | none => rfl
      | some => simp

/-- Where a member of the prototype is read, only `equals` has the verdict it should. -/
theorem contactAttributeMatches_inherited {condition : ContactAttributeCondition} (haccepted : condition.accepted = true) (hown : getOwn customFields condition.key = none)
    (hkey : condition.key ∈ inheritedNames) : contactAttributeMatches unicode condition (some customFields) =
        .ok (ownVerdict unicode condition (some customFields)) ↔ condition.operator = .equals := by
  obtain ⟨hread, hvalue⟩ := fieldValue_inherited hown hkey
  have htakes : condition.operator.takesValue = condition.value.isSome :=
    of_decide_eq_true (Bool.and_eq_true_iff.mp haccepted).2
  simp only [contactAttributeMatches, ownVerdict, Option.any_some, ContactAttributeCondition.holdsOf, hread, hvalue]
  cases hoperator : condition.operator with
  | isSet | isNotSet => simp
  | equals | notEquals => cases condition.value <;> simp
  | contains =>
    rw [hoperator] at htakes
    obtain ⟨needle, hneedle⟩ := Option.isSome_iff_exists.mp htakes.symm
    simp [hneedle]

theorem inherited_key (hkey : isAttributeKey key.toList = true) : key ∈ inheritedNames ↔ key = "constructor" := by
  constructor
  · intro hmem
    have hnames : ∀ name ∈ inheritedNames, isAttributeKey name.toList = true → name = "constructor" := by decide
    exact hnames key hmem hkey
  · rintro rfl
    decide

end Text

/-- The verdict of a custom-field condition is the one over the object's own entries exactly when its key is not
    `constructor`, or the contact has a field of that name, or the operator is `equals`. -/
theorem contact_attribute_reads_own_entries (unicode : Ai.Unicode) (condition : ContactAttributeCondition)
    (haccepted : (RoutingCondition.contactAttribute condition).accepted = true) (contact : Option (Option Json))
    (facts : RoutingFacts) (hfacts : facts.customFields = readCustomFields contact) :
    conditionMatches unicode (.contactAttribute condition) facts =
        .ok (ownVerdict unicode condition (readCustomFields contact)) ↔
      condition.key ≠ "constructor" ∨ condition.operator = .equals ∨
        ∀ customFields, readCustomFields contact = some customFields →
          (getOwn customFields condition.key).isSome = true := by
  have hkey : isAttributeKey condition.key.toList = true := by
    have h := haccepted
    simp only [RoutingCondition.accepted, ContactAttributeCondition.accepted, Bool.and_eq_true] at h
    exact h.1.1.1
  simp only [conditionMatches, hfacts]
  cases hfields : readCustomFields contact with
  | none => exact iff_of_true rfl (Or.inr (Or.inr nofun))
  | some customFields =>
    by_cases hread : (getOwn customFields condition.key).isSome = true ∨ condition.key ∉ inheritedNames
    · refine iff_of_true (contactAttributeMatches_own hread) ?_
      rcases hread with hown | hnot
      · right; right
        rintro _ ⟨⟩
        exact hown
      · left
        rwa [ne_eq, ← inherited_key hkey]
    · rw [not_or, not_not, Bool.not_eq_true, Option.isSome_eq_false_iff, Option.isNone_iff_eq_none] at hread
      obtain ⟨hown, hmem⟩ := hread
      rw [contactAttributeMatches_inherited haccepted hown hmem]
      constructor
      · exact fun h => Or.inr (Or.inl h)
      · rintro (h | h | h)
        · exact absurd ((inherited_key hkey).mp hmem) h
        · exact h
        · have hsome := h customFields rfl
          rw [hown] at hsome
          exact absurd hsome Bool.false_ne_true

def plainText : Ai.Unicode where
  nfkc := id
  toLowerCase := id
  nonspacingMark := fun _ => false

/-- `plan contains gold`, of a contact on the plan `gold`. -/
theorem contact_attribute_reads_own_entries_plan :
    let condition : ContactAttributeCondition := { key := "plan", operator := .contains, value := some "gold" }
    let column : Json := .object [("plan".toList, .string "gold".toList)]
    conditionMatches plainText (.contactAttribute condition)
        { messageBody := none, tagIds := none, customFields := readCustomFields (some (some column)),
          withinBusinessHours := none } =
      .ok (ownVerdict plainText condition (readCustomFields (some (some column)))) :=
  (contact_attribute_reads_own_entries plainText { key := "plan", operator := .contains, value := some "gold" } (by decide)
    (some (some (.object [("plan".toList, .string "gold".toList)])))
    { messageBody := none, tagIds := none,
      customFields := readCustomFields (some (some (.object [("plan".toList, .string "gold".toList)]))),
      withinBusinessHours := none } rfl).mpr (Or.inl (by decide))

/-- A contact with no fields at all has `constructor` set, and asking what it contains throws. -/
theorem constructor_is_set_of_every_contact :
    let facts : RoutingFacts :=
      { messageBody := none, tagIds := none, customFields := readCustomFields (some none), withinBusinessHours := none }
    let isSet : ContactAttributeCondition := { key := "constructor", operator := .isSet, value := none }
    let contains : ContactAttributeCondition := { key := "constructor", operator := .contains, value := some "gold" }
    isSet.accepted = true ∧ contains.accepted = true ∧
      conditionMatches plainText (.contactAttribute isSet) facts = .ok true ∧
      ownVerdict plainText isSet facts.customFields = false ∧
      conditionMatches plainText (.contactAttribute contains) facts =
        .error (.toLowerCaseIsNotAFunction "constructor") := by
  decide

end WhatsappCrm.Assignment
