/-
Purpose: The `PATCH` of a contact: its schema (contracts/contacts.ts) and `ContactsService.update`
  (`contacts/contacts.service.ts`), which locks the contact's row first.
-/
import WhatsappCrm.Assignment.RuleConditions
import WhatsappCrm.Contacts.CustomFieldValues
import WhatsappCrm.Lib.Serial

namespace WhatsappCrm.Contacts

open Assignment (RoutingCondition)
open Interleaving Table

/-- What the column holds under a key: a string, a `null`, or another JSON value, as its text. -/
inductive StoredValue where
  | text (value : String)
  | null
  | other (json : String)
deriving DecidableEq

structure Contact where
  id : Uuid
  phoneE164 : String
  displayName : Option String
  email : Option String
  customFields : List (String × StoredValue)
  /-- Its rows of `contact_tags`. -/
  tagIds : List Uuid
  /-- How many transactions have held the lock on the row. -/
  turn : Nat := 0
deriving DecidableEq

structure RoutingRule where
  id : Uuid
  conditions : Option (List RoutingCondition)

/-- One tenant's tables; the definitions are in display order. -/
structure ContactDb where
  contacts : List Contact := []
  definitions : List CustomFieldDefinition := []
  tags : List Uuid := []
  rules : List RoutingRule := []

inductive ContactError where
  | notFound (contactId : Uuid)
  | unknownTag (tagIds : List Uuid)
  | customFieldValuesInvalid (issues : List ApiErrorDetail)
  | customFieldNotFound (customFieldId : Uuid)
  | customFieldInUseByRules (key : String) (ruleIds : List Uuid)
  | ruleNotFound (ruleId : Uuid)
  | unknownRuleReference (field value : String)
  /-- A row of `contact_tags` that is there already, or whose tag is not. -/
  | tagConstraint
  /-- What a lock excludes. -/
  | conflict

def ContactDb.find? (db : ContactDb) (contactId : Uuid) : Option Contact := db.contacts.find? (·.id = contactId)

def ContactDb.put (db : ContactDb) (contactId : Uuid) (c : Contact) : ContactDb :=
  { db with contacts := updateWhere (·.id = contactId) (fun _ => c) db.contacts }

def toCustomFieldValues (stored : List (String × StoredValue)) : CustomFieldValues :=
  stored.filterMap fun e =>
    match e.2 with
    | .text value => some (e.1, some value)
    | .null => some (e.1, none)
    | .other _ => none

def toColumn (values : CustomFieldValues) : List (String × StoredValue) :=
  values.map fun e => (e.1, e.2.elim .null .text)

/-- The `data` of the update; `none` is a column that is left alone. -/
structure ContactData where
  displayName : Option String
  email : Option (Option String)
  customFields : Option CustomFieldValues

inductive RowChange where
  /-- `SELECT … FOR NO KEY UPDATE`. -/
  | lock
  | update (data : ContactData)
  | deleteTags (tagIds : List Uuid)
  | createTags (tagIds : List Uuid)

inductive ContactWrite where
  | row (contactId : Uuid) (change : RowChange)
  | deleteDefinition (customFieldId : Uuid)
  /-- The key taken out of these contacts, as far as they hold it. -/
  | strip (contactIds : List Uuid) (key : String)
  | createRule (rule : RoutingRule)
  | updateRule (ruleId : Uuid) (conditions : Option (List RoutingCondition))

/-- What a statement answers. A row that it locks stays as it is in the answer until the transaction ends. -/
inductive ContactRow where
  | locked (c : Contact)
  | updated (id : Uuid)
  | tag (id : Uuid)
  | definition (definition : CustomFieldDefinition)
  | rule (id : Uuid)
deriving DecidableEq

def ContactData.write (data : ContactData) (c : Contact) : Contact :=
  { c with
    displayName := data.displayName.or c.displayName
    email := data.email.getD c.email
    customFields := data.customFields.elim c.customFields toColumn }

def RowChange.apply (tags : List Uuid) (c : Contact) : RowChange → Except ContactError (List ContactRow × Contact)
  | .lock => .ok ([.locked c], { c with turn := c.turn + 1 })
  | .update data => .ok ([.updated c.id], data.write c)
  | .deleteTags tagIds =>
    .ok ((c.tagIds.filter (· ∈ tagIds)).map .tag, { c with tagIds := c.tagIds.filter (· ∉ tagIds) })
  | .createTags tagIds =>
    if tagIds.Nodup ∧ ∀ tagId ∈ tagIds, tagId ∈ tags ∧ tagId ∉ c.tagIds then
      .ok (tagIds.map .tag, { c with tagIds := c.tagIds ++ tagIds })
    else .error .tagConstraint

def Contact.stores (key : String) (c : Contact) : Bool := c.customFields.any (·.1 = key)

def Contact.strip (key : String) (c : Contact) : Contact :=
  { c with customFields := c.customFields.filter (·.1 ≠ key), turn := c.turn + 1 }

def ContactWrite.apply (db : ContactDb) : ContactWrite → Except ContactError (List ContactRow × ContactDb)
  | .row contactId change =>
    match db.find? contactId with
    | none => .ok ([], db)
    | some c => (change.apply db.tags c).map fun (rows, c') => (rows, if rows = [] then db else db.put contactId c')
  | .deleteDefinition customFieldId =>
    .ok ((db.definitions.filter (·.id = customFieldId)).map .definition,
      { db with definitions := db.definitions.filter (·.id ≠ customFieldId) })
  | .strip contactIds key =>
    let found (c : Contact) : Bool := c.id ∈ contactIds ∧ c.stores key
    .ok ((db.contacts.filter found).map .locked, { db with contacts := updateWhere found (·.strip key) db.contacts })
  | .createRule rule => .ok ([.rule rule.id], { db with rules := db.rules ++ [rule] })
  | .updateRule ruleId conditions =>
    .ok ((db.rules.filter (·.id = ruleId)).map fun r => .rule r.id,
      { db with rules := updateWhere (·.id = ruleId) (fun r => { r with conditions := conditions.or r.conditions }) db.rules })

def contactWrites : Writes ContactDb ContactWrite ContactRow ContactError where
  apply w db := w.apply db
  conflict := .conflict

abbrev ContactTx := Tx Unit ContactDb ContactWrite ContactRow ContactError

structure ContactUpdateBody where
  displayName : Option String := none
  email : Option (Option String) := none
  tagIds : Option (List Uuid) := none
  customFields : Option CustomFieldValues := none

structure ContactUpdateInput extends ContactUpdateBody

/-- `ContactUpdateInputSchema`: the create schema under `partial()`, where the default of `tagIds` still applies. `isEmail`
    is the check of `z.email()`. -/
def ContactUpdateBody.parse (isEmail : String → Bool) (body : ContactUpdateBody) : Option ContactUpdateInput :=
  if body.displayName.all (fun name => 1 ≤ unitLength name ∧ unitLength name ≤ 120) ∧ body.email.all (·.all isEmail) then
    some ⟨{ body with tagIds := some (body.tagIds.getD []) }⟩
  else none

structure ContactResponse where
  id : Uuid
  phone : String
  waProfileName : Option String
  displayName : String
  email : Option String
  tags : List Uuid
  customFields : CustomFieldValues

def toContactResponse (c : Contact) : ContactResponse where
  id := c.id
  phone := c.phoneE164
  waProfileName := c.displayName
  displayName := c.displayName.getD c.phoneE164
  email := c.email
  tags := c.tagIds
  customFields := toCustomFieldValues c.customFields

def unknownTags (tags tagIds : List Uuid) : List Uuid := tagIds.eraseDups.filter (· ∉ tags)

def assertTagsExist (tagIds : List Uuid) : ContactTx Unit := do
  if tagIds = [] then pure ()
  else
    let unknown ← .query () fun db => unknownTags db.tags tagIds
    if unknown = [] then pure () else .abort (.unknownTag unknown)

def definitionsPerTenant : Nat := 50

def readCustomFieldDefinitions (db : ContactDb) : List CustomFieldDefinition := db.definitions.take (definitionsPerTenant + 1)

def resolveCustomFields (stored : CustomFieldValues) : Option CustomFieldValues → ContactTx CustomFieldValues
  | none => pure stored
  | some incoming => do
    let definitions ← .query () readCustomFieldDefinitions
    match mergeCustomFieldValues stored incoming definitions with
    | .ok merged => pure merged
    | .error issues => .abort (.customFieldValuesInvalid issues)

def forTags (contactId : Uuid) (tagIds : List Uuid) (change : RowChange) : ContactTx Unit := do
  if tagIds = [] then pure ()
  else
    let _ ← .execute () (.row contactId change)
    pure ()

def replaceTags (contactId : Uuid) (held wantedIds : List Uuid) : ContactTx Unit := do
  let leaving := removed held wantedIds
  let joining := added held wantedIds
  forTags contactId leaving (.deleteTags leaving)
  forTags contactId joining (.createTags joining)

def readContact (contactId : Uuid) : ContactTx Contact := do
  match ← .query () (·.find? contactId) with
  | some c => pure c
  | none => .abort (.notFound contactId)

def ContactUpdateInput.data (input : ContactUpdateInput) (customFields : CustomFieldValues) : ContactData where
  displayName := input.displayName
  email := input.email
  customFields := input.customFields.map fun _ => customFields

def updateLocked (contactId : Uuid) (input : ContactUpdateInput) : ContactTx ContactResponse := do
  let before ← readContact contactId
  input.tagIds.forM assertTagsExist
  let customFields ← resolveCustomFields (toCustomFieldValues before.customFields) input.customFields
  let _ ← .execute () (.row contactId (.update (input.data customFields)))
  input.tagIds.forM (replaceTags contactId before.tagIds)
  let c ← readContact contactId
  pure (toContactResponse c)

def update (contactId : Uuid) (input : ContactUpdateInput) : ContactTx ContactResponse :=
  .write () (.row contactId .lock) fun _ => updateLocked contactId input

variable {db db' : ContactDb} {contactId : Uuid} {c c' : Contact} {change : RowChange} {rows : List ContactRow}
  {input : ContactUpdateInput} {values customFields : CustomFieldValues} {held : List Uuid}

def Resolves (db : ContactDb) (stored : CustomFieldValues) (incoming : Option CustomFieldValues) (values : CustomFieldValues) :
    Prop :=
  match incoming with
  | none => values = stored
  | some incoming => mergeCustomFieldValues stored incoming (readCustomFieldDefinitions db) = .ok values

/-- The request names tags that are there, and `customFields` is what its values come to. -/
structure Accepted (db : ContactDb) (c : Contact) (input : ContactUpdateInput) (customFields : CustomFieldValues) : Prop where
  tags : ∀ tagIds ∈ input.tagIds, unknownTags db.tags tagIds = []
  customFields : Resolves db (toCustomFieldValues c.customFields) input.customFields customFields

def ContactUpdateInput.write (input : ContactUpdateInput) (customFields : CustomFieldValues) (c : Contact) : Contact :=
  { (input.data customFields).write c with
    tagIds := input.tagIds.elim c.tagIds (replaced c.tagIds)
    turn := c.turn + 1 }

theorem find?_put (hid : c'.id = contactId) (h : db.find? contactId = some c) :
    (db.put contactId c').find? contactId = some c' := by
  unfold ContactDb.find? at h ⊢
  simp only [ContactDb.put]
  generalize db.contacts = contacts at h
  induction contacts with
  | nil => cases h
  | cons r rest ih =>
    by_cases hr : r.id = contactId
    · simp [updateWhere, hr, hid]
    · simp only [List.find?_cons, hr, decide_false] at h
      simpa [updateWhere, hr] using ih h

theorem id_of_find? (h : db.find? contactId = some c) : c.id = contactId := by simpa using List.find?_some h

theorem RowChange.apply_id (h : change.apply tags c = .ok (rows, c')) : c'.id = c.id ∧ (rows = [] → c' = c) := by
  cases change with
  | lock | update =>
    cases h
    exact ⟨rfl, nofun⟩
  | deleteTags tagIds =>
    cases h
    refine ⟨rfl, fun hnone => ?_⟩
    have hkept : c.tagIds.filter (· ∉ tagIds) = c.tagIds := by
      rw [List.filter_eq_self]
      intro tagId hmem
      simp only [decide_eq_true_eq]
      exact fun hin => by simpa using List.filter_eq_nil_iff.mp (List.map_eq_nil_iff.mp hnone) tagId hmem (decide_eq_true hin)
    rw [hkept]
  | createTags =>
    simp only [RowChange.apply] at h
    split at h
    · cases h
      refine ⟨rfl, fun hnone => ?_⟩
      simp [List.map_eq_nil_iff.mp hnone]
    · cases h

theorem apply_row (change : RowChange) (hfound : db.find? contactId = some c) (h : change.apply db.tags c = .ok (rows, c')) :
    ∃ db', contactWrites.apply (.row contactId change) db = .ok (rows, db') ∧ db'.find? contactId = some c' ∧
      db'.tags = db.tags ∧ db'.definitions = db.definitions := by
  obtain ⟨hid, hnone⟩ := RowChange.apply_id h
  refine ⟨if rows = [] then db else db.put contactId c', by simp [contactWrites, ContactWrite.apply, hfound, h, Except.map], ?_⟩
  split
  · rename_i hrows
    exact ⟨by rw [hfound, hnone hrows], rfl, rfl⟩
  · exact ⟨find?_put (hid.trans (id_of_find? hfound)) hfound, rfl, rfl⟩

theorem apply_nothing (h : contactWrites.apply w db = .ok ([], db')) : db' = db := by
  cases w with
  | row contactId change =>
    simp only [contactWrites, ContactWrite.apply] at h
    cases hfound : db.find? contactId with
    | none =>
      rw [hfound] at h
      cases h
      rfl
    | some c =>
      rw [hfound] at h
      dsimp only at h
      cases hrow : change.apply db.tags c with
      | error =>
        rw [hrow] at h
        cases h
      | ok =>
        rw [hrow] at h
        obtain ⟨hrows, rfl⟩ := Prod.mk.inj (Except.ok.inj h)
        exact if_pos hrows
  | deleteDefinition customFieldId =>
    obtain ⟨hrows, rfl⟩ := Prod.mk.inj (Except.ok.inj h)
    simp only [List.map_eq_nil_iff, List.filter_eq_nil_iff, decide_eq_true_eq] at hrows
    have hkept : db.definitions.filter (·.id ≠ customFieldId) = db.definitions :=
      List.filter_eq_self.mpr fun d hd => decide_eq_true (hrows d hd)
    rw [hkept]
  | strip | updateRule =>
    obtain ⟨hrows, rfl⟩ := Prod.mk.inj (Except.ok.inj h)
    rw [updateWhere_of_filter_eq_nil (List.map_eq_nil_iff.mp hrows)]
  | createRule => exact nomatch (Prod.mk.inj (Except.ok.inj h)).1

theorem exec_assertTagsExist :
    (assertTagsExist tagIds).exec contactWrites db = .ok ((), db') ↔ unknownTags db.tags tagIds = [] ∧ db = db' := by
  unfold assertTagsExist
  by_cases hnone : tagIds = []
  · simp [hnone, Tx.exec, unknownTags]
  · simp only [if_neg hnone, Tx.bind_def, Tx.bind_query, Tx.exec]
    split
    · rename_i hunknown
      simp [Tx.exec, hunknown]
    · rename_i hunknown
      simp [Tx.exec, hunknown]

theorem exec_resolveCustomFields : (resolveCustomFields stored incoming).exec contactWrites db = .ok (values, db') ↔
      Resolves db stored incoming values ∧ db = db' := by
  cases incoming with
  | none => simp [resolveCustomFields, Resolves, Tx.exec, eq_comm]
  | some incoming =>
    simp only [resolveCustomFields, Tx.bind_def, Tx.bind_query, Tx.exec, Resolves]
    cases mergeCustomFieldValues stored incoming (readCustomFieldDefinitions db) <;> simp [Tx.exec]

theorem exec_readContact : (readContact contactId).exec contactWrites db = .ok (c, db') ↔
    db.find? contactId = some c ∧ db = db' := by
  simp only [readContact, Tx.bind_def, Tx.bind_query, Tx.exec]
  cases db.find? contactId <;> simp [Tx.exec]

theorem mem_tags_of_unknownTags (h : unknownTags tags tagIds = []) (hmem : tagId ∈ tagIds) : tagId ∈ tags := by
  simp only [unknownTags, List.filter_eq_nil_iff, List.mem_eraseDups, decide_eq_true_eq, not_not] at h
  exact h tagId hmem

/-- A statement about some tags, where it is not needed: with none of them it leaves the row alone. -/
theorem exec_forTags (tagIds : List Uuid) (change : RowChange) (hfound : db.find? contactId = some c)
    (hrow : change.apply db.tags c = .ok (rows, c')) (hnone : tagIds = [] → c' = c) :
    ∃ db', (forTags contactId tagIds change).exec contactWrites db = .ok ((), db') ∧ db'.find? contactId = some c' ∧
      db'.tags = db.tags := by
  unfold forTags
  by_cases hids : tagIds = []
  · exact ⟨db, by simp [hids, Tx.exec], by rw [hfound, hnone hids], rfl⟩
  · obtain ⟨db', happly, hfound', htags, -⟩ := apply_row _ hfound hrow
    exact ⟨db', by simp [hids, Tx.exec, happly], hfound', htags⟩

theorem exec_replaceTags (hfound : db.find? contactId = some c) (hknown : unknownTags db.tags wantedIds = []) :
    ∃ db', (replaceTags contactId c.tagIds wantedIds).exec contactWrites db = .ok ((), db') ∧
      db'.find? contactId = some { c with tagIds := replaced c.tagIds wantedIds } := by
  obtain ⟨db₁, hexec₁, hfound₁, htags₁⟩ := exec_forTags (removed c.tagIds wantedIds)
    (.deleteTags (removed c.tagIds wantedIds)) hfound rfl fun hnone => by simp [hnone, List.filter_eq_self.mpr]
  have hcreate : RowChange.apply db₁.tags { c with tagIds := c.tagIds.filter (· ∉ removed c.tagIds wantedIds) }
      (.createTags (added c.tagIds wantedIds)) = .ok ((added c.tagIds wantedIds).map .tag,
        { c with tagIds := replaced c.tagIds wantedIds }) := by
    refine if_pos ⟨nodup_added, fun tagId hadded => ?_⟩
    obtain ⟨hwanted, hnew⟩ := mem_added.mp hadded
    exact ⟨htags₁ ▸ mem_tags_of_unknownTags hknown hwanted, fun hheld => hnew (List.mem_filter.mp hheld).1⟩
  obtain ⟨db₂, hexec₂, hfound₂, -⟩ := exec_forTags (added c.tagIds wantedIds)
    (.createTags (added c.tagIds wantedIds)) hfound₁ hcreate fun hnone => by simp [replaced, hnone]
  exact ⟨db₂, Tx.exec_bind.mpr ⟨(), db₁, hexec₁, hexec₂⟩, hfound₂⟩

theorem exec_update (hfound : db.find? contactId = some c) (h : Accepted db c input customFields) :
    ∃ response db', (update contactId input).exec contactWrites db = .ok (response, db') ∧
      db'.find? contactId = some (input.write customFields c) := by
  obtain ⟨db₁, hlock, hfound₁, htags₁, hdefinitions₁⟩ := apply_row .lock hfound rfl
  obtain ⟨db₂, hupdate, hfound₂, htags₂, -⟩ :=
    apply_row (.update (input.data customFields)) hfound₁ rfl
  obtain ⟨db₃, hreplace, hfound₃⟩ : ∃ db₃, (input.tagIds.forM (replaceTags contactId c.tagIds)).exec contactWrites db₂ =
      .ok ((), db₃) ∧ db₃.find? contactId = some (input.write customFields c) := by
    cases htagIds : input.tagIds with
    | none =>
      refine ⟨db₂, rfl, hfound₂.trans ?_⟩
      rw [ContactUpdateInput.write, htagIds]
      rfl
    | some tagIds =>
      have hknown : unknownTags db₂.tags tagIds = [] := by
        rw [htags₂, htags₁]
        exact h.tags tagIds htagIds
      obtain ⟨db₃, hexec, hfound₃⟩ := exec_replaceTags hfound₂ hknown
      refine ⟨db₃, hexec, hfound₃.trans ?_⟩
      rw [ContactUpdateInput.write, htagIds]
      rfl
  refine ⟨toContactResponse (input.write customFields c), db₃, ?_, hfound₃⟩
  simp only [update, Tx.exec, hlock]
  refine Tx.exec_bind.mpr ⟨_, db₁, exec_readContact.mpr ⟨hfound₁, rfl⟩, Tx.exec_bind.mpr ⟨(), db₁, ?_, ?_⟩⟩
  · cases htagIds : input.tagIds with
    | none => rfl
    | some tagIds => exact exec_assertTagsExist.mpr ⟨htags₁ ▸ h.tags tagIds htagIds, rfl⟩
  · refine Tx.exec_bind.mpr ⟨customFields, db₁, exec_resolveCustomFields.mpr ⟨?_, rfl⟩, ?_⟩
    · simpa [Resolves, readCustomFieldDefinitions, hdefinitions₁] using h.customFields
    · refine Tx.exec_bind.mpr ⟨_, db₂, Tx.exec_execute.mpr hupdate, Tx.exec_bind.mpr ⟨(), db₃, hreplace, ?_⟩⟩
      exact Tx.exec_bind.mpr ⟨_, db₃, exec_readContact.mpr ⟨hfound₃, rfl⟩, rfl⟩

theorem accepted_of_exec (hfound : db.find? contactId = some c)
    (h : (update contactId input).exec contactWrites db = .ok (response, db')) :
    ∃ customFields, Accepted db c input customFields := by
  obtain ⟨db₁, hlock, hfound₁, htags₁, hdefinitions₁⟩ := apply_row .lock hfound rfl
  simp only [update, Tx.exec, hlock] at h
  obtain ⟨before, _, hread, h⟩ := Tx.exec_bind.mp h
  obtain ⟨hbefore, rfl⟩ := exec_readContact.mp hread
  obtain rfl := Option.some.inj (hfound₁.symm.trans hbefore)
  obtain ⟨_, db₂, hassert, h⟩ := Tx.exec_bind.mp h
  have htags : (∀ tagIds ∈ input.tagIds, unknownTags db.tags tagIds = []) ∧ db₁ = db₂ := by
    cases htagIds : input.tagIds with
    | none =>
      rw [htagIds] at hassert
      cases hassert
      exact ⟨by rintro _ ⟨⟩, rfl⟩
    | some =>
      rw [htagIds] at hassert
      obtain ⟨hknown, rfl⟩ := exec_assertTagsExist.mp hassert
      exact ⟨by rintro _ ⟨⟩; exact htags₁ ▸ hknown, rfl⟩
  obtain ⟨htags, rfl⟩ := htags
  obtain ⟨customFields, _, hresolve, -⟩ := Tx.exec_bind.mp h
  obtain ⟨hresolves, -⟩ := exec_resolveCustomFields.mp hresolve
  exact ⟨customFields, htags, by simpa [Resolves, readCustomFieldDefinitions, hdefinitions₁] using hresolves⟩

structure KeepsAbsent (body : ContactUpdateBody) (before after : Contact) : Prop where
  displayName : body.displayName = none → after.displayName = before.displayName
  email : body.email = none → after.email = before.email
  customFields : body.customFields = none → after.customFields = before.customFields
  tagIds : body.tagIds = none → ∀ tagId, tagId ∈ after.tagIds ↔ tagId ∈ before.tagIds

/-- A request that is carried out leaves the fields its body lacks, and the tags it has, alone exactly when the body
    has tags, or the contact none, or a value is refused. -/
theorem update_keeps_absent_iff (isEmail : String → Bool) (db : ContactDb) (contactId : Uuid) (c : Contact)
    (hfound : db.find? contactId = some c) (hunique : c.tagIds.Nodup) (body : ContactUpdateBody) (input : ContactUpdateInput)
    (hparse : body.parse isEmail = some input) :
    (∀ response db' after, (update contactId input).exec contactWrites db = .ok (response, db') →
      db'.find? contactId = some after → KeepsAbsent body c after ∧
        ∀ tagIds ∈ body.tagIds, after.tagIds.Nodup ∧ ∀ tagId, tagId ∈ after.tagIds ↔ tagId ∈ tagIds) ↔
      body.tagIds ≠ none ∨ c.tagIds = [] ∨
        ∃ incoming ∈ body.customFields, ∃ issues, mergeCustomFieldValues (toCustomFieldValues c.customFields) incoming
          (readCustomFieldDefinitions db) = .error issues := by
  obtain rfl : input = ⟨{ body with tagIds := some (body.tagIds.getD []) }⟩ := by
    unfold ContactUpdateBody.parse at hparse
    split at hparse
    · exact (Option.some.inj hparse).symm
    · cases hparse
  constructor
  · intro hkeeps
    by_contra hnot
    simp only [not_or, not_not, not_exists, not_and] at hnot
    obtain ⟨hbody, htags, hvalues⟩ := hnot
    obtain ⟨customFields, hresolves⟩ : ∃ customFields,
        Resolves db (toCustomFieldValues c.customFields) body.customFields customFields := by
      cases hfields : body.customFields with
      | none => exact ⟨_, rfl⟩
      | some incoming =>
        cases hmerge : mergeCustomFieldValues (toCustomFieldValues c.customFields) incoming (readCustomFieldDefinitions db) with
        | ok merged => exact ⟨merged, hmerge⟩
        | error issues => exact absurd hmerge (hvalues incoming hfields issues)
    have haccepted : Accepted db c ⟨{ body with tagIds := some (body.tagIds.getD []) }⟩ customFields := by
      refine ⟨?_, hresolves⟩
      rintro _ ⟨⟩
      simp [hbody, unknownTags]
    obtain ⟨response, db', hexec, hafter⟩ := exec_update hfound haccepted
    obtain ⟨tagId, hmem⟩ := List.exists_mem_of_ne_nil _ htags
    have hgone := ((hkeeps response db' _ hexec hafter).1.tagIds hbody tagId).mpr hmem
    rw [ContactUpdateInput.write, hbody] at hgone
    cases mem_replaced.mp hgone
  · intro hcases response db' after hexec hafter
    obtain ⟨customFields, haccepted⟩ := accepted_of_exec hfound hexec
    obtain ⟨_, _, hexec', hafter'⟩ := exec_update hfound haccepted
    obtain ⟨rfl, rfl⟩ := Prod.mk.inj (Except.ok.inj (hexec.symm.trans hexec'))
    obtain rfl := Option.some.inj (hafter.symm.trans hafter')
    refine ⟨⟨?_, ?_, ?_, ?_⟩, ?_⟩
    · intro hname
      simp [ContactUpdateInput.write, ContactUpdateInput.data, ContactData.write, hname]
    · intro hemail
      simp [ContactUpdateInput.write, ContactUpdateInput.data, ContactData.write, hemail]
    · intro hfields
      simp [ContactUpdateInput.write, ContactUpdateInput.data, ContactData.write, hfields]
    · intro hbody tagId
      rw [ContactUpdateInput.write, hbody]
      rcases hcases with htags | htags | ⟨incoming, hfields, issues, herror⟩
      · exact absurd hbody htags
      · rw [htags]
        exact mem_replaced
      · have hresolves := haccepted.customFields
        simp only [Resolves, Option.mem_def.mp hfields, herror] at hresolves
        cases hresolves
    · rintro tagIds htagIds
      rw [ContactUpdateInput.write, Option.mem_def.mp htagIds]
      exact ⟨nodup_replaced hunique, fun tagId => mem_replaced⟩

def taggedContact : Contact where
  id := 1
  phoneE164 := "+491701234567"
  displayName := some "Ann"
  email := none
  customFields := []
  tagIds := [5, 6]

def taggedDb : ContactDb where
  contacts := [taggedContact]
  tags := [5, 6, 7]

/-- The body has her tags. -/
theorem update_keeps_absent_retagged :
    ∃ response db' after, (update 1 ⟨{ tagIds := some [6, 7] }⟩).exec contactWrites taggedDb = .ok (response, db') ∧
      db'.find? 1 = some after ∧ KeepsAbsent { tagIds := some [6, 7] } taggedContact after ∧ after.tagIds.Nodup := by
  have hkeeps := (update_keeps_absent_iff (fun _ => true) taggedDb 1 taggedContact (by decide) (by decide)
    { tagIds := some [6, 7] } _ rfl).mpr (.inl nofun)
  have haccepted : Accepted taggedDb taggedContact ⟨{ tagIds := some [6, 7] }⟩ [] := ⟨by rintro _ ⟨⟩; decide, rfl⟩
  have hfound : taggedDb.find? 1 = some taggedContact := by decide
  obtain ⟨response, db', hexec, hafter⟩ := exec_update hfound haccepted
  obtain ⟨habsent, htags⟩ := hkeeps response db' _ hexec hafter
  exact ⟨response, db', _, hexec, hafter, habsent, (htags _ rfl).1⟩

/-- Given another name, she loses her tags. -/
theorem rename_drops_tags :
    let body : ContactUpdateBody := { displayName := some "Anna" }
    taggedContact.tagIds = [5, 6] ∧ body.tagIds = none ∧
      (body.parse fun _ => true).map (fun input =>
        ((update 1 input).exec contactWrites taggedDb).toOption.map fun r => (r.2.find? 1).map (·.tagIds)) =
      some (some (some [])) := by
  decide

def updateAlone (contactId : Uuid) (db : ContactDb) (input : ContactUpdateInput) : Option ContactDb :=
  ((update contactId input).exec contactWrites db).toOption.map (·.2)

def NoNull (c : Contact) : Prop := ∀ e ∈ c.customFields, e.2 ≠ .null

def Stored (contactId : Uuid) (db : ContactDb) : Prop := ∃ c, db.find? contactId = some c ∧ NoNull c

def turnOf (contactId : Uuid) (db : ContactDb) : Nat := (db.find? contactId).elim 0 (·.turn)

theorem noNull_write (hnull : NoNull c) (h : Accepted db c input customFields) : NoNull (input.write customFields c) := by
  simp only [ContactUpdateInput.write, ContactUpdateInput.data, ContactData.write]
  cases hincoming : input.customFields with
  | none => exact hnull
  | some =>
    intro e he
    obtain ⟨⟨key, value⟩, hmem, rfl⟩ := List.mem_map.mp he
    have hmerge := h.customFields
    simp only [Resolves, hincoming] at hmerge
    cases value with
    | some => exact nofun
    | none =>
      rcases mem_mergeCustomFieldValues hmerge hmem with hstored | ⟨-, hvalue⟩
      · obtain ⟨⟨key', stored⟩, hold, heq⟩ := List.mem_filterMap.mp hstored
        cases stored with
        | null => exact absurd rfl (hnull _ hold)
        | text | other => cases heq
      · exact absurd rfl hvalue

def patching (contactId : Uuid) : SerialRules Unit ContactDb ContactUpdateInput ContactError where
  inv := Stored contactId
  later := Since (turnOf contactId)
  cond _ _ := True
  refusal _ := True
  body input db := updateAlone contactId db input

/-- Each keeps the contact, and the lock has one more turn after it. -/
theorem patching_sound : (patching contactId).Sound where
  refl db := .inr rfl
  trans := Since.trans
  keeps {input db db'} hstored h := by
    obtain ⟨c, hfound, hnull⟩ := hstored
    simp only [patching, updateAlone] at h
    cases hexec : (update contactId input).exec contactWrites db with
    | error =>
      rw [hexec] at h
      cases h
    | ok =>
      rw [hexec] at h
      cases h
      obtain ⟨customFields, haccepted⟩ := accepted_of_exec hfound hexec
      obtain ⟨_, _, hexec', hafter⟩ := exec_update hfound haccepted
      obtain rfl := Except.ok.inj (hexec.symm.trans hexec')
      refine ⟨⟨_, hafter, noNull_write hnull haccepted⟩, .inl ?_⟩
      simp [turnOf, hfound, hafter, ContactUpdateInput.write]

theorem update_serial (contactId : Uuid) (input : ContactUpdateInput) (db : ContactDb) :
    ((update contactId input).run contactWrites () []).Serial (patching contactId) input db := by
  simp only [update, Tx.run, Tx.runAs]
  rintro s ⟨c, hfound, -⟩ _ _
  obtain ⟨v, hlock, -⟩ := apply_row .lock hfound rfl
  have hmatched : matched contactWrites [] (.row contactId .lock) s = .ok [.locked c] := by simp [matched, applyAll, hlock]
  dsimp only
  rw [hmatched]
  refine .inl ⟨rfl, Tx.runAs_ended (v := v) fun _ _ => trivial, ?_⟩
  refine Tx.serial_of_lock apply_nothing trivial hlock ?_ (fun response s' hexec => ?_) fun _ _ => trivial
  · rintro t ⟨c', hfound', -⟩ hlater
    refine hlater.symm.imp_right fun hless => ?_
    obtain ⟨t', hagain, -⟩ := apply_row .lock hfound' rfl
    refine ⟨_, t', hagain, fun hsame => ?_⟩
    simp only [List.cons.injEq, ContactRow.locked.injEq, and_true] at hsame
    simp [turnOf, hfound, hfound', hsame] at hless
  · simp [patching, updateAlone, update, Tx.exec, hlock, hexec, Except.toOption]

/-- Any requests on one contact, interleaved in any way, leave what those carried out leave one after another. -/
theorem patches_serialise (contactId : Uuid) (db : ContactDb) (hstored : Stored contactId db)
    {s : Sys Unit ContactDb ContactUpdateInput (Except ContactError ContactResponse)}
    (hr : Reachable (fun input => (update contactId input).run contactWrites () []) anyStep (.idle db) s) :
    (∃ order : List ContactUpdateInput, order.Perm s.committed ∧ order.foldlM (updateAlone contactId) db = some s.db) ∧
      (∀ s', Step (fun input => (update contactId input).run contactWrites () []) anyStep s s' →
        s'.committed = s.committed → s'.db = s.db) ∧
      Stored contactId s.db := by
  have hstart : ∀ (input : ContactUpdateInput) r, (update contactId input).run contactWrites () [] ≠ .pure r :=
    fun input r => by simp [update, Tx.runAs]
  have hcond : ∀ (s : Sys Unit ContactDb ContactUpdateInput (Except ContactError ContactResponse)) input tag,
      anyStep s input tag → (patching contactId).cond tag s.db := fun _ _ _ _ => trivial
  obtain ⟨hserial, horder⟩ := hr.serial patching_sound (update_serial contactId) hstart hcond hstored
  refine ⟨horder, fun s' hstep hsame => ?_, hserial.inv⟩
  rcases (hstep.serial patching_sound (update_serial contactId) hstart hcond hserial).2 with ⟨hdb, -⟩ | ⟨c, -, hperm⟩
  · exact hdb
  · have hlength := hperm.length_eq
    simp [hsame] at hlength

def twoFields : ContactDb where
  contacts := [taggedContact]
  definitions := [{ id := 1, key := "city", type := .text, options := [] }, { id := 2, key := "plan", type := .text, options := [] }]

def setField (key value : String) : ContactUpdateInput := ⟨{ customFields := some [(key, some value)] }⟩

/-- Two requests that each write one of them. -/
theorem patches_serialise_twoFields :
    ∃ s : Sys Unit ContactDb ContactUpdateInput (Except ContactError ContactResponse),
      Reachable (fun input => (update 1 input).run contactWrites () []) anyStep (.idle twoFields) s ∧
      (s.db.find? 1).map (·.customFields) = some [("city", .text "Rome"), ("plan", .text "pro")] ∧
      ∃ order : List ContactUpdateInput, order.Perm s.committed ∧ order.foldlM (updateAlone 1) twoFields = some s.db := by
  have hrun : (run (fun input => (update 1 input).run contactWrites () []) (fun _ _ _ => true)
      ([.spawn (setField "city" "Rome"), .spawn (setField "plan" "pro")] ++ List.replicate 6 (.step 0) ++
        List.replicate 6 (.step 1)) (.idle twoFields)).map (fun s => (s.db.find? 1).map (·.customFields)) =
      some (some [("city", .text "Rome"), ("plan", .text "pro")]) := by
    decide +kernel
  obtain ⟨s, hreach, hend⟩ := ends_of_run_any hrun
  exact ⟨s, hreach, hend, (patches_serialise 1 twoFields ⟨taggedContact, by decide, nofun⟩ hreach).1⟩

end WhatsappCrm.Contacts
