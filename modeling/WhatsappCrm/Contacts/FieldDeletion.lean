/-
Purpose: `CustomFieldsService.delete` (`contacts/custom-fields.service.ts`): what is left under the key of a field that
  is gone.
-/
import WhatsappCrm.Contacts.Service

namespace WhatsappCrm.Contacts

open Assignment (RoutingCondition)
open Interleaving Table

variable (conditions : List RoutingCondition)

def keysNamed : List String :=
  conditions.filterMap fun
    | .contactAttribute condition => some condition.key
    | _ => none

def RoutingRule.names (key : String) (rule : RoutingRule) : Bool := rule.conditions.any (key ∈ keysNamed ·)

def rulesNaming (key : String) (db : ContactDb) : List Uuid := (db.rules.filter (·.names key)).map (·.id)

def readDefinition (customFieldId : Uuid) : ContactTx CustomFieldDefinition := do
  match ← .query () fun db => db.definitions.find? (·.id = customFieldId) with
  | some row => pure row
  | none => .abort (.customFieldNotFound customFieldId)

/-- The rows that hold the key are found, and then stripped one by one, as far as they still hold it. -/
def stripValues (key : String) : ContactTx Unit := do
  let contactIds ← .query () fun db => (db.contacts.filter (·.stores key)).map (·.id)
  let _ ← .execute () (.strip contactIds key)
  pure ()

def deleteField (customFieldId : Uuid) : ContactTx Unit := do
  let row ← readDefinition customFieldId
  let rules ← .query () (rulesNaming row.key)
  if rules ≠ [] then .abort (.customFieldInUseByRules row.key rules)
  else
    match ← .execute () (.deleteDefinition customFieldId) with
    | [] => .abort (.customFieldNotFound customFieldId)
    | _ => stripValues row.key

def assertKeysExist : ContactTx Unit := do
  match ← .query () fun db => (keysNamed conditions).find? fun key => ¬ db.definitions.any (·.key = key) with
  | some key => .abort (.unknownRuleReference "conditions.key" key)
  | none => pure ()

/-- `create` of a rule. Its other checks read other tables. -/
def createRule (ruleId : Uuid) (conditions : List RoutingCondition) : ContactTx Unit := do
  assertKeysExist conditions
  let _ ← .execute () (.createRule { id := ruleId, conditions := some conditions })
  pure ()

def updateRule (ruleId : Uuid) (conditions : Option (List RoutingCondition)) : ContactTx Unit := do
  if ← .query () fun db => db.rules.any (·.id = ruleId) then
    assertKeysExist (conditions.getD [])
    let _ ← .execute () (.updateRule ruleId conditions)
    pure ()
  else .abort (.ruleNotFound ruleId)

inductive FieldCall where
  | patch (contactId : Uuid) (input : ContactUpdateInput)
  | createRule (ruleId : Uuid) (conditions : List RoutingCondition)
  | updateRule (ruleId : Uuid) (conditions : Option (List RoutingCondition))
  | delete (customFieldId : Uuid)

abbrev HeldContactWrites := List (ContactWrite × List ContactRow)

inductive FieldStmt where
  | statement
  | commit (call : FieldCall) (ws : HeldContactWrites)

def FieldCall.transaction : FieldCall → ContactTx Unit
  | .patch contactId input => do
    let _ ← update contactId input
    pure ()
  | .createRule ruleId conditions => Contacts.createRule ruleId conditions
  | .updateRule ruleId conditions => Contacts.updateRule ruleId conditions
  | .delete customFieldId => deleteField customFieldId

def fieldProgram (call : FieldCall) : Prog FieldStmt ContactDb (Except ContactError Unit) :=
  (call.transaction.retag fun _ => .statement).runAs contactWrites (.commit call) []

def Clean (key : String) (db : ContactDb) : Prop :=
  (∀ c ∈ db.contacts, c.stores key = false) ∧ ∀ rule ∈ db.rules, rule.names key = false

def ContactDb.defines (key : String) (db : ContactDb) : Bool := db.definitions.any (·.key = key)

def Gone (key : String) (db : ContactDb) : Prop := db.defines key = false → Clean key db

def FieldCall.uses (key : String) : FieldCall → Bool
  | .patch _ input => input.customFields.any fun incoming => incoming.any fun e => e.1 = key ∧ e.2 ≠ none
  | .createRule _ conditions => key ∈ keysNamed conditions
  | .updateRule _ conditions => conditions.any (key ∈ keysNamed ·)
  | .delete _ => false

def ContactWrite.strips (key : String) (contactId : Uuid) : ContactWrite → Bool
  | .strip contactIds stripped => stripped = key ∧ contactId ∈ contactIds
  | _ => false

/-- A request that uses the key commits while a field has it; a delete while no rule names it, of the rows it holds. -/
def keyInOrder (key : String) (db : ContactDb) : FieldStmt → Bool
  | .statement => true
  | .commit (.delete customFieldId) ws =>
    !(db.definitions.any fun d => d.id = customFieldId ∧ d.key = key) ||
      (db.rules.all fun rule => !rule.names key) &&
        db.contacts.all fun c => !c.stores key || ws.any fun e => e.1.strips key c.id
  | .commit call _ => !call.uses key || db.defines key

variable {key : String} {db db' : ContactDb} {c c' : Contact} {contactId : Uuid} {w : ContactWrite}
  {rows : List ContactRow} {ws : HeldContactWrites} {input : ContactUpdateInput} {ids : List Uuid}

def ContactWrite.puts (key : String) : ContactWrite → Bool
  | .row _ (.update data) => data.customFields.any fun values => values.any (·.1 = key)
  | .createRule rule => rule.names key
  | .updateRule _ conditions => conditions.any (key ∈ keysNamed ·)
  | _ => false

def ContactWrite.deletes : ContactWrite → Bool
  | .deleteDefinition _ => true
  | _ => false

structure Leaves (key : String) (w : ContactWrite) (db db' : ContactDb) : Prop where
  ids : db'.contacts.map (·.id) = db.contacts.map (·.id)
  contacts : w.puts key = false → ∀ c' ∈ db'.contacts, c'.stores key = true → ∃ c ∈ db.contacts, c.id = c'.id ∧ c.stores key = true
  rules : w.puts key = false → ∀ r' ∈ db'.rules, r'.names key = true → ∃ r ∈ db.rules, r.names key = true
  definitions : w.deletes = false → db'.definitions = db.definitions

theorem RowChange.apply_stores (hputs : ContactWrite.puts key (.row contactId change) = false)
    (h : change.apply db.tags c = .ok (rows, c')) (hstores : c'.stores key = true) : c.stores key = true := by
  cases change with
  | update data =>
    cases h
    simp only [Contact.stores, ContactData.write] at hstores
    cases hfields : data.customFields with
    | none => simpa [hfields, Contact.stores] using hstores
    | some values =>
      have hput : values.any (·.1 = key) = true := by
        simpa [hfields, toColumn, List.any_map, Function.comp_def] using hstores
      simp [ContactWrite.puts, hfields, hput] at hputs
  | lock | deleteTags =>
    cases h
    exact hstores
  | createTags =>
    simp only [RowChange.apply] at h
    split at h
    · cases h
      exact hstores
    · cases h

theorem apply_leaves (h : contactWrites.apply w db = .ok (rows, db')) : Leaves key w db db' := by
  have hcontacts : ∀ c' ∈ db.contacts, c'.stores key = true → ∃ c ∈ db.contacts, c.id = c'.id ∧ c.stores key = true :=
    fun c hc hstores => ⟨c, hc, rfl, hstores⟩
  have hrules : ∀ r' ∈ db.rules, r'.names key = true → ∃ r ∈ db.rules, r.names key = true :=
    fun r hr hnames => ⟨r, hr, hnames⟩
  cases w with
  | row contactId change =>
    simp only [contactWrites, ContactWrite.apply] at h
    cases hfound : db.find? contactId with
    | none =>
      rw [hfound] at h
      cases h
      exact ⟨rfl, fun _ => hcontacts, fun _ => hrules, fun _ => rfl⟩
    | some c =>
      rw [hfound] at h
      dsimp only at h
      cases hrow : change.apply db.tags c with
      | error =>
        rw [hrow] at h
        cases h
      | ok answer =>
        obtain ⟨rows, c'⟩ := answer
        rw [hrow] at h
        obtain ⟨-, rfl⟩ := Prod.mk.inj (Except.ok.inj h)
        split
        · exact ⟨rfl, fun _ => hcontacts, fun _ => hrules, fun _ => rfl⟩
        · have hid := (RowChange.apply_id hrow).1.trans (id_of_find? hfound)
          refine ⟨?_, fun hputs r hr hstores => ?_, fun _ => hrules, fun _ => rfl⟩
          · simp only [ContactDb.put, updateWhere, List.map_map]
            apply List.map_congr_left
            intro r _
            simp only [Function.comp_apply, decide_eq_true_eq]
            split
            · rename_i hr
              rw [hid, hr]
            · rfl
          · obtain ⟨r₀, hmem, ⟨hr₀, rfl⟩ | ⟨-, rfl⟩⟩ := mem_updateWhere hr
            · exact ⟨c, List.mem_of_find?_eq_some hfound, (RowChange.apply_id hrow).1.symm, RowChange.apply_stores hputs hrow hstores⟩
            · exact ⟨r, hmem, rfl, hstores⟩
  | deleteDefinition =>
    cases h
    exact ⟨rfl, fun _ => hcontacts, fun _ => hrules, by rintro ⟨⟩⟩
  | strip contactIds stripped =>
    cases h
    refine ⟨map_updateWhere (f := Contact.strip stripped) (fun _ => rfl) _, fun _ c hc hstores => ?_, fun _ => hrules, fun _ => rfl⟩
    obtain ⟨c₀, hmem, ⟨-, rfl⟩ | ⟨-, rfl⟩⟩ := mem_updateWhere hc
    · refine ⟨c₀, hmem, rfl, ?_⟩
      simp only [Contact.stores, Contact.strip, List.any_eq_true, List.mem_filter] at hstores ⊢
      obtain ⟨e, he, hkey⟩ := hstores
      exact ⟨e, he.1, hkey⟩
    · exact ⟨c, hmem, rfl, hstores⟩
  | createRule =>
    cases h
    refine ⟨rfl, fun _ => hcontacts, fun hputs r hr hnames => ?_, fun _ => rfl⟩
    rcases mem_snoc.mp hr with hr | rfl
    · exact ⟨r, hr, hnames⟩
    · exact absurd hnames (by simpa [ContactWrite.puts] using hputs)
  | updateRule ruleId conditions =>
    cases h
    refine ⟨rfl, fun _ => hcontacts, fun hputs r hr hnames => ?_, fun _ => rfl⟩
    obtain ⟨r₀, hmem, ⟨-, rfl⟩ | ⟨-, rfl⟩⟩ := mem_updateWhere hr
    · refine ⟨r₀, hmem, ?_⟩
      cases conditions with
      | none => exact hnames
      | some => exact absurd hnames (by simpa [RoutingRule.names, ContactWrite.puts] using hputs)
    · exact ⟨r, hmem, hnames⟩

theorem applyAll_leaves (hputs : ∀ e ∈ ws, e.1.puts key = false) (h : applyAll contactWrites ws db = .ok db') :
    (∀ c' ∈ db'.contacts, c'.stores key = true → ∃ c ∈ db.contacts, c.id = c'.id ∧ c.stores key = true) ∧
      ∀ r' ∈ db'.rules, r'.names key = true → ∃ r ∈ db.rules, r.names key = true := by
  refine applyAll_induct (Q := fun w _ => w.puts key = false)
    (K := fun t => (∀ c' ∈ t.contacts, c'.stores key = true → ∃ c ∈ db.contacts, c.id = c'.id ∧ c.stores key = true) ∧
      ∀ r' ∈ t.rules, r'.names key = true → ∃ r ∈ db.rules, r.names key = true) ?_ hputs ?_ h
  · rintro w rows t t' hw ⟨hcontacts, hrules⟩ happly
    have hleaves : Leaves key w t t' := apply_leaves happly
    refine ⟨fun c' hc' hstores => ?_, fun r' hr' hnames => ?_⟩
    · obtain ⟨c₁, hc₁, hid₁, hstores₁⟩ := hleaves.contacts hw c' hc' hstores
      obtain ⟨c, hc, hid, hstores⟩ := hcontacts c₁ hc₁ hstores₁
      exact ⟨c, hc, hid.trans hid₁, hstores⟩
    · obtain ⟨r₁, hr₁, hnames₁⟩ := hleaves.rules hw r' hr' hnames
      exact hrules r₁ hr₁ hnames₁
  · exact ⟨fun c hc hstores => ⟨c, hc, rfl, hstores⟩, fun r hr hnames => ⟨r, hr, hnames⟩⟩

theorem Clean.applyAll (hclean : Clean key db) (hputs : ∀ e ∈ ws, e.1.puts key = false)
    (h : Interleaving.applyAll contactWrites ws db = .ok db') : Clean key db' := by
  obtain ⟨hcontacts, hrules⟩ := applyAll_leaves hputs h
  refine ⟨fun c hc => ?_, fun r hr => ?_⟩
  · by_contra hstores
    obtain ⟨c₀, hc₀, -, hstores₀⟩ := hcontacts c hc (by simpa using hstores)
    simp [hclean.1 c₀ hc₀] at hstores₀
  · by_contra hnames
    obtain ⟨r₀, hr₀, hnames₀⟩ := hrules r hr (by simpa using hnames)
    simp [hclean.2 r₀ hr₀] at hnames₀

theorem applyAll_definitions (hkeep : ∀ e ∈ ws, e.1.deletes = false) (h : applyAll contactWrites ws db = .ok db') :
    db'.definitions = db.definitions := by
  refine applyAll_induct (Q := fun w _ => w.deletes = false) (K := fun t => t.definitions = db.definitions) ?_ hkeep rfl h
  intro w rows t t' hw ht happly
  have hleaves : Leaves "" w t t' := apply_leaves happly
  exact (hleaves.definitions hw).trans ht

theorem applyAll_ids (h : applyAll contactWrites ws db = .ok db') : db'.contacts.map (·.id) = db.contacts.map (·.id) := by
  refine applyAll_induct (Q := fun _ _ => True) (K := fun t => t.contacts.map (·.id) = db.contacts.map (·.id)) ?_
    (fun _ _ => trivial) rfl h
  intro w rows t t' _ ht happly
  have hleaves : Leaves "" w t t' := apply_leaves happly
  exact hleaves.ids.trans ht

/-- The writes that a `PATCH` holds: the lock, and then what it makes of the row that it locked. -/
def PatchWrites (key : String) (contactId : Uuid) (input : ContactUpdateInput) (ws : HeldContactWrites) : Prop :=
  ∃ c rest, ws = (.row contactId .lock, [.locked c]) :: rest ∧ ∀ e ∈ rest, e.1.deletes = false ∧
    (e.1.puts key = true → c.stores key = true ∨ (FieldCall.patch contactId input).uses key = true)

theorem gone_of_puts (hgone : Gone key db) (hkeep : ∀ e ∈ ws, e.1.deletes = false)
    (hputs : db.defines key = false → ∀ e ∈ ws, e.1.puts key = false) (h : applyAll contactWrites ws db = .ok db') :
    Gone key db' := by
  intro hdefines
  have hundefined : db.defines key = false := by rwa [ContactDb.defines, ← applyAll_definitions hkeep h]
  exact (hgone hundefined).applyAll (hputs hundefined) h

theorem find?_of_locked (h : contactWrites.apply (.row contactId .lock) db = .ok ([.locked c], db')) :
    db.find? contactId = some c ∧ db'.find? contactId = some { c with turn := c.turn + 1 } := by
  cases hfound : db.find? contactId with
  | none => simp [contactWrites, ContactWrite.apply, hfound] at h
  | some found =>
    obtain ⟨_, happly, hafter, -⟩ := apply_row .lock hfound rfl
    obtain ⟨hrows, rfl⟩ := Prod.mk.inj (Except.ok.inj (h.symm.trans happly))
    obtain rfl : c = found := by simpa using hrows
    exact ⟨rfl, hafter⟩

theorem PatchWrites.gone (hws : PatchWrites key contactId input ws) (hgone : Gone key db)
    (hcond : (FieldCall.patch contactId input).uses key = true → db.defines key = true)
    (h : applyAll contactWrites ws db = .ok db') : Gone key db' := by
  obtain ⟨c, rest, rfl, hrest⟩ := hws
  refine gone_of_puts hgone ?_ (fun hundefined => ?_) h
  · rintro e (_ | ⟨_, he⟩)
    · rfl
    · exact (hrest e he).1
  obtain ⟨_, hlock, -⟩ := applyAll_cons_ok.mp h
  have hc := List.mem_of_find?_eq_some (find?_of_locked hlock).1
  rintro e (_ | ⟨_, he⟩)
  · rfl
  · by_contra hputs
    rcases (hrest e he).2 (by simpa using hputs) with hstores | huses
    · simp [(hgone hundefined).1 c hc] at hstores
    · simp [hcond huses] at hundefined

def DeleteWrites (customFieldId : Uuid) (ws : HeldContactWrites) : Prop :=
  ∀ e ∈ ws, e.1 = .deleteDefinition customFieldId ∨ ∃ contactIds key, e.1 = .strip contactIds key

theorem DeleteWrites.gone (hws : DeleteWrites customFieldId ws) (hgone : Gone key db)
    (hcond : keyInOrder key db (.commit (.delete customFieldId) ws) = true) (h : applyAll contactWrites ws db = .ok db') :
    Gone key db' := by
  have hputs : ∀ e ∈ ws, e.1.puts key = false := by
    intro e he
    rcases hws e he with heq | ⟨contactIds, key', heq⟩ <;> rw [heq] <;> rfl
  have hothers : ∀ d ∈ db.definitions, d.id ≠ customFieldId → d ∈ db'.definitions := by
    refine applyAll_induct (Q := fun (w : ContactWrite) _ => w = .deleteDefinition customFieldId ∨ ∃ contactIds key', w = .strip contactIds key')
      (K := fun t => ∀ d ∈ db.definitions, d.id ≠ customFieldId → d ∈ t.definitions) ?_ hws (fun d hd _ => hd) h
    rintro w rows t t' (rfl | ⟨contactIds, key', rfl⟩) ht happly d hd hid
    · cases happly
      exact List.mem_filter.mpr ⟨ht d hd hid, decide_eq_true hid⟩
    · cases happly
      exact ht d hd hid
  intro hdefines
  by_cases hundefined : db.defines key = false
  · exact (hgone hundefined).applyAll hputs h
  obtain ⟨d, hd, hkey⟩ := List.any_eq_true.mp (Bool.not_eq_false _ ▸ hundefined)
  have hid : d.id = customFieldId := by
    by_contra hid
    have hstill : db'.defines key = true := List.any_eq_true.mpr ⟨d, hothers d hd hid, hkey⟩
    simp [hstill] at hdefines
  have hfield : (db.definitions.any fun d => d.id = customFieldId ∧ d.key = key) = true :=
    List.any_eq_true.mpr ⟨d, hd, decide_eq_true ⟨hid, of_decide_eq_true hkey⟩⟩
  simp only [keyInOrder, hfield, Bool.not_true, Bool.false_or, Bool.and_eq_true, List.all_eq_true] at hcond
  obtain ⟨hrules, hstripped⟩ := hcond
  obtain ⟨hcontacts', hrules'⟩ := applyAll_leaves hputs h
  refine ⟨fun c' hc' => ?_, fun r hr => ?_⟩
  · -- the contact that still stores the key did so before, so one of the writes has stripped it
    by_contra hstores
    obtain ⟨c, hc, hcid, hcstores⟩ := hcontacts' c' hc' (by simpa using hstores)
    have hheld := hstripped c hc
    rw [hcstores, Bool.not_true, Bool.false_or] at hheld
    obtain ⟨⟨strip, rows⟩, hw, hstrips⟩ := List.any_eq_true.mp hheld
    obtain ⟨pre, post, rfl⟩ := List.append_of_mem hw
    obtain ⟨t, -, hrest⟩ := applyAll_append_ok.mp h
    obtain ⟨t', happly, hpost⟩ := applyAll_cons_ok.mp hrest
    have hpostPuts : ∀ e ∈ post, e.1.puts key = false := fun e he => hputs e (by simp [he])
    obtain ⟨c₂, hc₂, hid₂, hstores₂⟩ := (applyAll_leaves hpostPuts hpost).1 c' hc' (by simpa using hstores)
    cases strip with
    | strip =>
      obtain ⟨rfl, hmem⟩ := of_decide_eq_true hstrips
      cases happly
      obtain ⟨c₁, -, ⟨-, rfl⟩ | ⟨hnot, rfl⟩⟩ := mem_updateWhere hc₂
      · simp [Contact.stores, Contact.strip] at hstores₂
      · exact of_decide_eq_false hnot ⟨by rw [hid₂, ← hcid]; exact hmem, hstores₂⟩
    | _ => cases hstrips
  · by_contra hnames
    obtain ⟨r₀, hr₀, hnames₀⟩ := hrules' r hr (by simpa using hnames)
    simpa [hnames₀] using hrules r₀ hr₀

def RuleWrites (key : String) (call : FieldCall) (ws : HeldContactWrites) : Prop :=
  ∀ e ∈ ws, e.1.deletes = false ∧ (e.1.puts key = true → call.uses key = true)

theorem rule_gone (hws : RuleWrites key call ws)
    (hgone : Gone key db) (hcond : call.uses key = true → db.defines key = true)
    (h : applyAll contactWrites ws db = .ok db') : Gone key db' := by
  refine gone_of_puts hgone (fun e he => (hws e he).1) (fun hundefined e he => ?_) h
  by_contra hputs
  simp [hcond ((hws e he).2 (by simpa using hputs))] at hundefined

section Transactions

variable {held : HeldContactWrites}

theorem gathers_reads {p : ContactTx α} (hp : p.Only fun _ _ => False) :
    p.Gathers contactWrites C (fun _ ws => ws = held) held :=
  Tx.Gathers.of_only (fun _ _ _ _ h => h.elim) hp rfl

theorem assertTagsExist_reads (tagIds : List Uuid) : (assertTagsExist tagIds).Only fun _ _ => False := by
  unfold assertTagsExist
  split
  · trivial
  · intro unknown
    simp only [Tx.bind_pure_left]
    split <;> trivial

theorem assertKeysExist_reads : (assertKeysExist conditions).Only fun _ _ => False := by
  intro unknown
  cases unknown <;> trivial

theorem readContact_reads (contactId : Uuid) : (readContact contactId).Only fun _ _ => False := by
  intro found
  cases found <;> trivial

theorem gathers_resolveCustomFields (stored : CustomFieldValues) (incoming : Option CustomFieldValues) :
    (resolveCustomFields stored incoming).Gathers contactWrites C
      (fun values ws => ws = held ∧ ∀ e ∈ values, e ∈ stored ∨ ∃ new ∈ incoming, e ∈ new ∧ e.2 ≠ none) held := by
  cases incoming with
  | none => exact ⟨rfl, fun e he => .inl he⟩
  | some incoming =>
    intro s v _ _
    simp only [Tx.bind_pure_left]
    cases hmerge : mergeCustomFieldValues stored incoming (readCustomFieldDefinitions v) with
    | error => trivial
    | ok =>
      refine ⟨rfl, fun e he => ?_⟩
      rcases mem_mergeCustomFieldValues hmerge he with hold | hnew
      · exact .inl hold
      · exact .inr ⟨incoming, rfl, hnew⟩

def Aside (key : String) (w : ContactWrite) : Prop := w.deletes = false ∧ w.puts key = false

theorem forTags_aside (tagIds : List Uuid) (h : Aside key (.row contactId change)) :
    (forTags contactId tagIds change).Only fun _ w => Aside key w := by
  unfold forTags
  split
  · trivial
  · exact ⟨h, fun _ => trivial⟩

theorem replaceTags_aside (tagIds wantedIds : List Uuid) :
    (replaceTags contactId tagIds wantedIds).Only fun _ w => Aside key w :=
  (forTags_aside _ ⟨rfl, rfl⟩).bind fun _ => forTags_aside _ ⟨rfl, rfl⟩

theorem PatchWrites.concat (h : PatchWrites key contactId input ws) (hw : Aside key w) (rows : List ContactRow) :
    PatchWrites key contactId input (ws ++ [(w, rows)]) := by
  obtain ⟨c, rest, rfl, hrest⟩ := h
  refine ⟨c, rest ++ [(w, rows)], rfl, fun e he => ?_⟩
  rcases mem_snoc.mp he with he | rfl
  · exact hrest e he
  · exact ⟨hw.1, fun hputs => by simp [hw.2] at hputs⟩

theorem gathers_updateLocked (hlocked : ∀ t u, applyAll contactWrites [(.row contactId .lock, [.locked c])] t = .ok u →
      u.find? contactId = some { c with turn := c.turn + 1 }) :
    (updateLocked contactId input).Gathers contactWrites C (fun _ => PatchWrites key contactId input)
      [(.row contactId .lock, [.locked c])] := by
  intro t u _ hu
  simp only [Tx.bind_pure_left, hlocked t u hu]
  have htags : (input.tagIds.forM assertTagsExist).Only fun _ _ => False := by
    cases input.tagIds with
    | none => trivial
    | some tagIds => exact assertTagsExist_reads tagIds
  refine (gathers_reads htags).bind ?_
  rintro _ _ rfl
  refine (gathers_resolveCustomFields _ _).bind ?_
  rintro customFields _ ⟨rfl, hvalues⟩
  have hdata : PatchWrites key contactId input [(.row contactId .lock, [.locked c])] :=
    ⟨c, [], rfl, nofun⟩
  have hupdate : ∀ rows, PatchWrites key contactId input
      [(.row contactId .lock, [.locked c]), (.row contactId (.update (input.data customFields)), rows)] := by
    refine fun rows => ⟨c, _, rfl, ?_⟩
    rintro e (_ | ⟨_, ⟨⟩⟩)
    refine ⟨rfl, fun hputs => ?_⟩
    simp only [ContactWrite.puts, ContactUpdateInput.data, Option.any_map] at hputs
    cases hincoming : input.customFields with
    | none => simp [hincoming] at hputs
    | some =>
      simp only [hincoming, Option.any_some, List.any_eq_true, decide_eq_true_eq] at hputs
      obtain ⟨e, he, hkey⟩ := hputs
      rcases hvalues e he with hold | ⟨new, hnew, hmem, hvalue⟩
      · left
        obtain ⟨⟨key', stored⟩, hmem, heq⟩ := List.mem_filterMap.mp hold
        refine List.any_eq_true.mpr ⟨_, hmem, decide_eq_true ?_⟩
        rw [← hkey]
        cases stored <;> cases heq <;> rfl
      · right
        simp only [FieldCall.uses, Option.mem_def.mp hnew, Option.any_some]
        exact List.any_eq_true.mpr ⟨e, hmem, decide_eq_true ⟨hkey, hvalue⟩⟩
  intro s v rows v' _ _ _
  have hrest : ∀ ws, PatchWrites key contactId input ws → ((input.tagIds.forM (replaceTags contactId c.tagIds)).bind fun _ =>
      (readContact contactId).bind fun c => Tx.pure (toContactResponse c)).Gathers contactWrites C
        (fun _ => PatchWrites key contactId input) ws := by
    intro ws hws
    have hreplace : (input.tagIds.forM (replaceTags contactId c.tagIds)).Only fun _ w => Aside key w := by
      cases input.tagIds with
      | none => trivial
      | some tagIds => exact replaceTags_aside _ tagIds
    refine (Tx.Gathers.of_only (fun _ _ rows _ hw hws => hws.concat hw rows) hreplace hws).bind fun _ ws hws => ?_
    refine (gathers_reads (readContact_reads contactId)).bind ?_
    rintro _ _ rfl
    exact hws
  split
  · exact hrest _ hdata
  · exact hrest _ (hupdate rows)

/-- Only transactions that hold the lock get beyond the first read: which contacts there are does not change. -/
theorem gathers_update (hids : ∀ tag s, C tag s → s.contacts.map (·.id) = ids) :
    (update contactId input).Gathers contactWrites C (fun _ => PatchWrites key contactId input) [] := by
  intro s v rows v' hcond hv happly
  cases hv
  cases hfound : s.find? contactId with
  | none =>
    have hanswer : contactWrites.apply (.row contactId .lock) s = .ok ([], s) := by
      simp [contactWrites, ContactWrite.apply, hfound]
    obtain ⟨rfl, rfl⟩ := Prod.mk.inj (Except.ok.inj (happly.symm.trans hanswer))
    intro t u hcond' hu
    cases hu
    have hnone : t.find? contactId = none := by
      have hmem : contactId ∉ t.contacts.map (·.id) := by
        rw [hids _ t hcond', ← hids _ _ hcond]
        simpa [ContactDb.find?] using hfound
      simpa [ContactDb.find?] using hmem
    simp only [Tx.bind_pure_left, hnone]
    trivial
  | some =>
    obtain ⟨_, hanswer, -⟩ := apply_row .lock hfound rfl
    obtain ⟨rfl, rfl⟩ := Prod.mk.inj (Except.ok.inj (happly.symm.trans hanswer))
    refine gathers_updateLocked fun t u hu => ?_
    have hlock := applyAll_single.mp hu
    exact (find?_of_locked hlock).2

theorem gathers_deleteField (customFieldId : Uuid) :
    (deleteField customFieldId).Gathers contactWrites C (fun _ => DeleteWrites customFieldId) [] := by
  have hdelete : (deleteField customFieldId).Only fun _ w => w = .deleteDefinition customFieldId ∨
      ∃ contactIds key, w = .strip contactIds key := by
    intro found
    cases found with
    | none => trivial
    | some =>
      intro rules
      simp only [Tx.bind_pure_left]
      split
      · trivial
      · refine ⟨.inl rfl, fun rows => ?_⟩
        cases rows with
        | nil => trivial
        | cons => exact fun contactIds => ⟨.inr ⟨_, _, rfl⟩, fun _ => trivial⟩
  refine Tx.Gathers.of_only (fun _ w rows ws hw hws e he => ?_) hdelete (by simp [DeleteWrites])
  rcases mem_snoc.mp he with he | rfl
  · exact hws e he
  · exact hw

theorem gathers_saveRule {call : FieldCall} (hdeletes : w.deletes = false)
    (hputs : w.puts key = true → call.uses key = true) :
    ((assertKeysExist conditions).bind fun _ => (Tx.execute () w).bind fun _ => .pure ()).Gathers contactWrites C
      (fun _ => RuleWrites key call) [] := by
  refine (gathers_reads (assertKeysExist_reads conditions)).bind ?_
  rintro _ _ rfl s v rows v' _ _ _
  split
  · exact nofun
  · rintro e (_ | ⟨_, ⟨⟩⟩)
    exact ⟨hdeletes, hputs⟩

end Transactions

def keeping (ids : List Uuid) (key : String) : Rely FieldStmt ContactDb where
  inv db := db.contacts.map (·.id) = ids ∧ Gone key db
  later _ _ := True
  cond tag db := keyInOrder key db tag = true
  effect _ _ db' := db'.contacts.map (·.id) = ids ∧ Gone key db'

theorem keeping_sound : (keeping ids key).Sound where
  refl _ := trivial
  trans _ _ := trivial
  keeps _ _ h := ⟨h, trivial⟩

theorem uses_in_order (h : (!uses || defines) = true) : uses = true → defines = true := by
  revert h
  cases uses <;> simp

theorem fieldProgram_guards (ids : List Uuid) (key : String) (call : FieldCall) (db : ContactDb) :
    Prog.Guards (keeping ids key) db (fieldProgram call) := by
  have hsame : ∀ (tag : FieldStmt) s, (keeping ids key).inv s → (keeping ids key).cond tag s →
      (keeping ids key).effect tag s s := fun _ _ h _ => h
  cases call with
  | patch contactId input =>
    have hgathers : (FieldCall.patch contactId input).transaction.Gathers contactWrites
        (fun _ s => (keeping ids key).inv s ∧ (keeping ids key).cond .statement s)
        (fun _ => PatchWrites key contactId input) [] :=
      (gathers_update fun _ _ h => h.1.1).bind fun _ _ h => h
    refine Tx.Gathers.guards hsame (fun a ws s s' hinv hcond hws happly => ?_) hgathers.retag db
    exact ⟨(applyAll_ids happly).trans hinv.1, hws.gone hinv.2 (uses_in_order hcond) happly⟩
  | createRule ruleId conditions =>
    have hgathers : (FieldCall.createRule ruleId conditions).transaction.Gathers contactWrites
        (fun _ s => (keeping ids key).inv s ∧ (keeping ids key).cond .statement s)
        (fun _ => RuleWrites key (.createRule ruleId conditions)) [] :=
      gathers_saveRule conditions rfl fun hputs => hputs
    refine Tx.Gathers.guards hsame (fun a ws s s' hinv hcond hws happly => ?_) hgathers.retag db
    exact ⟨(applyAll_ids happly).trans hinv.1, rule_gone hws hinv.2 (uses_in_order hcond) happly⟩
  | updateRule ruleId conditions =>
    have hgathers : (FieldCall.updateRule ruleId conditions).transaction.Gathers contactWrites
        (fun _ s => (keeping ids key).inv s ∧ (keeping ids key).cond .statement s)
        (fun _ => RuleWrites key (.updateRule ruleId conditions)) [] := by
      intro s v _ hv
      simp only [Tx.bind_pure_left]
      split
      · exact gathers_saveRule _ rfl fun hputs => hputs
      · trivial
    refine Tx.Gathers.guards hsame (fun a ws s s' hinv hcond hws happly => ?_) hgathers.retag db
    exact ⟨(applyAll_ids happly).trans hinv.1, rule_gone hws hinv.2 (uses_in_order hcond) happly⟩
  | delete customFieldId =>
    refine Tx.Gathers.guards hsame (fun a ws s s' hinv hcond hws happly => ?_) (gathers_deleteField customFieldId).retag db
    exact ⟨(applyAll_ids happly).trans hinv.1, DeleteWrites.gone hws hinv.2 hcond happly⟩

/-- While every commit is in order, once no field has the key no contact stores a value under it and no rule names it. -/
theorem deleted_field_gone (key : String) {db : ContactDb} (hdb : Gone key db)
    {s : Sys FieldStmt ContactDb FieldCall (Except ContactError Unit)}
    (hr : Reachable fieldProgram (fun s _ tag => keyInOrder key s.db tag = true) (.idle db) s) : Gone key s.db :=
  (Reachable.guards keeping_sound (fieldProgram_guards (db.contacts.map (·.id)) key) (fun _ _ _ h => h)
    (Sys.guarded_idle ⟨rfl, hdb⟩) hr).inv.2

def annInRome : ContactDb where
  contacts := [{ id := 1, phoneE164 := "+491701234567", displayName := some "Ann", email := none
                 customFields := [("city", .text "Rome")], tagIds := [] }]
  definitions := [{ id := 3, key := "city", type := .text, options := [] }]

def cityOslo : FieldCall := .patch 1 ⟨{ customFields := some [("city", some "Oslo")] }⟩

/-- Before the field is deleted she moves. -/
theorem deleted_field_gone_moved :
    ∃ s, Reachable fieldProgram (fun s _ tag => keyInOrder "city" s.db tag = true) (.idle annInRome) s ∧
      s.db.contacts.map (·.customFields) = [[]] ∧ s.db.definitions = [] ∧ Gone "city" s.db := by
  have hrun : (run fieldProgram (fun s _ tag => keyInOrder "city" s.db tag)
      ([.spawn cityOslo, .spawn (.delete 3)] ++ List.replicate 6 (.step 0) ++ List.replicate 6 (.step 1))
      (.idle annInRome)).map (fun s => (s.db.contacts.map (·.customFields), s.db.definitions)) = some ([[]], []) := by
    decide +kernel
  obtain ⟨s, hs, hend⟩ := Option.map_eq_some_iff.mp hrun
  obtain ⟨hcontacts, hdefinitions⟩ := Prod.mk.inj hend
  have hreach := reachable_of_run hs
  exact ⟨s, hreach, hcontacts, hdefinitions, deleted_field_gone "city" (fun hnone => absurd hnone (by decide)) hreach⟩

def annNowhere : ContactDb := { annInRome with contacts := annInRome.contacts.map fun c => { c with customFields := [] } }

/-- She gets a city while the field is deleted, which finds no value to strip: it is there when both are done. -/
theorem deleted_field_stays :
    ∃ s, Reachable fieldProgram anyStep (.idle annNowhere) s ∧ (s.calls.all fun e => e.2.result?.isSome) = true ∧
      s.db.definitions = [] ∧ s.db.contacts.map (·.customFields) = [[("city", .text "Oslo")]] := by
  have hrun : (run fieldProgram (fun _ _ _ => true)
      ([.spawn cityOslo, .spawn (.delete 3)] ++ List.replicate 3 (.step 0) ++ List.replicate 6 (.step 1) ++
        List.replicate 3 (.step 0)) (.idle annNowhere)).map
      (fun s => (s.calls.all fun e => e.2.result?.isSome, s.db.definitions, s.db.contacts.map (·.customFields))) =
      some (true, [], [[("city", .text "Oslo")]]) := by
    decide +kernel
  obtain ⟨s, hreach, hend⟩ := ends_of_run_any hrun
  simp only [Prod.mk.injEq] at hend
  exact ⟨s, hreach, hend⟩

end WhatsappCrm.Contacts
