/-
Purpose: `AssignmentRulesService` (`assignment/assignment-rules.service.ts`) with the schemas of its bodies
  (`packages/contracts/src/assignment.ts`).
-/
import WhatsappCrm.Assignment.RuleConditions
import WhatsappCrm.Lib.Positions
import WhatsappCrm.Tickets.Command

namespace WhatsappCrm.Assignment

open Positions Table
open Workflows (utf16Length)

structure AssignmentRule where
  id : Uuid
  tenantId : Uuid
  name : String
  position : Int
  isActive : Bool
  conditions : Option (List RoutingCondition)
  targetUserId : Option Uuid
  targetTeamId : Option Uuid
deriving DecidableEq

/-- The rules, and the rows that a rule can point at: `(tenant_id, id)` of teams, users and tags, `(tenant_id, key)` of
    custom fields. -/
structure RuleDb where
  rules : List AssignmentRule := []
  teams : List (Uuid × Uuid) := []
  users : List (Uuid × Uuid) := []
  tags : List (Uuid × Uuid) := []
  customFieldDefs : List (Uuid × String) := []

inductive RuleError where
  | notFound (ruleId : Uuid)
  | nameTaken (name : String)
  | tooMany
  | unknownReference (field : String) (id : Uuid)
  | unknownKey (field value : String)
  | needsTarget (ruleId : Uuid)
  | setChanged
  | malformedConditions (ruleId : Uuid)
  /-- A position the `integer` column does not hold. -/
  | outOfRange
  /-- `assignment_rules_active_has_one_target`. -/
  | activeHasOneTarget

def toRoutingTarget (r : AssignmentRule) : Option RoutingTarget :=
  match r.targetUserId with
  | some userId => some (.user userId)
  | none => r.targetTeamId.map .team

/-- `num_nonnulls(target_user_id, target_team_id) = 1`, of an active rule. -/
def AssignmentRule.targetOk (r : AssignmentRule) : Bool := !r.isActive || (r.targetUserId.isSome != r.targetTeamId.isSome)

def ruleNameLength : Nat := 80

def rulesPerTenant : Nat := 200

/-- `Number.MAX_SAFE_INTEGER`, the bound of `z.int()`. -/
def maxSafeInteger : Int := 9007199254740991

/-- `RoutingRuleNameSchema`. -/
def acceptsName (name : String) : Bool := 1 ≤ utf16Length name && utf16Length name ≤ ruleNameLength

def acceptsConditions (conditions : List RoutingCondition) : Bool :=
  1 ≤ conditions.length && conditions.length ≤ conditionsPerRule && conditions.all RoutingCondition.accepted

def acceptsPosition (position : Int) : Bool := 0 ≤ position && position ≤ maxSafeInteger

structure AssignmentRuleCreateInput where
  name : String
  conditions : List RoutingCondition
  target : RoutingTarget
  position : Option Int
  isActive : Bool

/-- The body of a `PATCH`; `none` is a field that is not there. -/
structure AssignmentRuleUpdateBody where
  name : Option String := none
  conditions : Option (List RoutingCondition) := none
  target : Option RoutingTarget := none
  position : Option Int := none
  isActive : Option Bool := none

structure AssignmentRuleUpdateInput extends AssignmentRuleUpdateBody

def AssignmentRuleUpdateBody.accepted (body : AssignmentRuleUpdateBody) : Bool :=
  body.name.all acceptsName && body.conditions.all acceptsConditions && body.position.all acceptsPosition

/-- `AssignmentRuleUpdateInputSchema`: `AssignmentRuleCreateInputSchema.partial()`, under which a default still applies. -/
def AssignmentRuleUpdateBody.parse (body : AssignmentRuleUpdateBody) : Option AssignmentRuleUpdateInput :=
  if body.accepted then some ⟨{ body with isActive := some (body.isActive.getD true) }⟩ else none

section Service

-- The folding of `citext`, under which the names of a tenant's rules are unique.
variable (citext : String → String)

def unknownTarget (db : RuleDb) (tenantId : Uuid) : Option RoutingTarget → Option RuleError
  | none => none
  | some (.team teamId) => if db.teams.contains (tenantId, teamId) then none else some (.unknownReference "target.teamId" teamId)
  | some (.user userId) => if db.users.contains (tenantId, userId) then none else some (.unknownReference "target.userId" userId)

def unknownKey (db : RuleDb) (tenantId : Uuid) (conditions : List RoutingCondition) : Option RuleError :=
  let keys := (conditions.filterMap fun
    | .contactAttribute condition => some condition.key
    | _ => none).eraseDups
  (keys.find? fun key => !db.customFieldDefs.contains (tenantId, key)).map (.unknownKey "conditions.key")

def unknownTag (db : RuleDb) (tenantId : Uuid) (conditions : List RoutingCondition) : Option RuleError :=
  let tagIds := (conditions.flatMap fun
    | .tag _ tagIds => tagIds
    | _ => []).eraseDups
  (tagIds.find? fun tagId => !db.tags.contains (tenantId, tagId)).map (.unknownReference "conditions.tagIds")

/-- `assertReferencesExist`: the first reference that is not in this tenant. -/
def unknownReference (db : RuleDb) (tenantId : Uuid) (target : Option RoutingTarget) (conditions : List RoutingCondition) :
    Option RuleError :=
  (unknownTarget db tenantId target).or ((unknownKey db tenantId conditions).or (unknownTag db tenantId conditions))

def mine (tenantId : Uuid) (r : AssignmentRule) : Bool := r.tenantId = tenantId

def RuleDb.rulesOf (db : RuleDb) (tenantId : Uuid) : List AssignmentRule := db.rules.filter (mine tenantId)

def RuleDb.findRule (db : RuleDb) (tenantId ruleId : Uuid) : Option AssignmentRule :=
  db.rules.find? fun r => r.id = ruleId ∧ r.tenantId = tenantId

def nameTaken (db : RuleDb) (tenantId ruleId : Uuid) (name : String) : Bool :=
  db.rules.any fun r => r.tenantId = tenantId ∧ r.id ≠ ruleId ∧ citext r.name = citext name

def ruleSeats : Seating AssignmentRule Nat where
  id r := r.id.toNat
  position := AssignmentRule.position
  place p r := { r with position := p }
  id_place _ _ := rfl
  position_place _ _ := rfl

def shiftBetween (tenantId ruleId : Uuid) (old new : Int) (rules : List AssignmentRule) : List AssignmentRule :=
  ruleSeats.shiftBetween (mine tenantId) ruleId.toNat old new rules

def nextPosition (db : RuleDb) (tenantId : Uuid) : Int :=
  ((db.rulesOf tenantId).map AssignmentRule.position).max?.elim 0 (· + 1)

def create (tenantId id : Uuid) (input : AssignmentRuleCreateInput) (db : RuleDb) : Except RuleError RuleDb :=
  if rulesPerTenant ≤ (db.rulesOf tenantId).length then .error .tooMany
  else
    match unknownReference db tenantId (some input.target) input.conditions with
    | some error => .error error
    | none =>
      let columns := columnsFor input.target
      let row : AssignmentRule :=
        { id, tenantId, name := input.name, position := input.position.getD (nextPosition db tenantId)
          isActive := input.isActive, conditions := some input.conditions
          targetUserId := columns.assignedUserId, targetTeamId := columns.assignedTeamId }
      if int4Max < row.position then .error .outOfRange
      else if nameTaken citext db tenantId id input.name then .error (.nameTaken input.name)
      else .ok { db with rules := db.rules ++ [row] }

def AssignmentRuleUpdateInput.write (input : AssignmentRuleUpdateInput) (r : AssignmentRule) : AssignmentRule :=
  let columns := input.target.map columnsFor
  { r with
    name := input.name.getD r.name
    position := input.position.getD r.position
    isActive := input.isActive.getD r.isActive
    conditions := input.conditions.elim r.conditions some
    targetUserId := columns.elim r.targetUserId (·.assignedUserId)
    targetTeamId := columns.elim r.targetTeamId (·.assignedTeamId) }

def needsTarget (before : AssignmentRule) (input : AssignmentRuleUpdateInput) : Option RuleError :=
  if input.isActive.getD before.isActive ∧ input.target.or (toRoutingTarget before) = none then some (.needsTarget before.id)
  else none

/-- What the update statement raises, or the mapper that reads the row back. -/
def writeError (db : RuleDb) (tenantId : Uuid) (before : AssignmentRule) (input : AssignmentRuleUpdateInput) :
    Option RuleError :=
  ((input.position.filter (int4Max < ·)).map fun _ => .outOfRange).or
    (((input.name.filter (nameTaken citext db tenantId before.id)).map .nameTaken).or
      (if (input.write before).targetOk = false then some .activeHasOneTarget
      else if (input.write before).conditions = none then some (.malformedConditions before.id)
      else none))

def updateRefusal (db : RuleDb) (tenantId : Uuid) (before : AssignmentRule) (input : AssignmentRuleUpdateInput) :
    Option RuleError :=
  (needsTarget before input).or
    ((unknownReference db tenantId input.target (input.conditions.getD [])).or (writeError citext db tenantId before input))

def shiftFor (tenantId : Uuid) (before : AssignmentRule) (input : AssignmentRuleUpdateInput) (rules : List AssignmentRule) :
    List AssignmentRule :=
  match input.position with
  | none => rules
  | some position =>
    if position = before.position then rules else shiftBetween tenantId before.id before.position position rules

def update (tenantId ruleId : Uuid) (input : AssignmentRuleUpdateInput) (db : RuleDb) : Except RuleError RuleDb :=
  match db.findRule tenantId ruleId with
  | none => .error (.notFound ruleId)
  | some before =>
    match updateRefusal citext db tenantId before input with
    | some error => .error error
    | none =>
      .ok { db with
        rules := ruleSeats.rewrite (mine tenantId) ruleId.toNat input.write (shiftFor tenantId before input db.rules) }

def delete (tenantId ruleId : Uuid) (db : RuleDb) : RuleDb :=
  { db with rules := db.rules.filter fun r => !(r.tenantId = tenantId ∧ r.id = ruleId) }

def isSameSet (submitted held : List Uuid) : Bool :=
  submitted.eraseDups.length = submitted.length && submitted.length = held.length && held.all (submitted.contains ·)

/-- `reorder`: the position of a rule is its index in the submitted list. -/
def reorder (tenantId : Uuid) (ruleIds : List Uuid) (db : RuleDb) : Except RuleError RuleDb :=
  if isSameSet ruleIds ((db.rulesOf tenantId).map (·.id)) then
    .ok { db with
      rules := ruleIds.zipIdx.foldl (fun rules (id, position) =>
        updateWhere (fun r => r.tenantId = tenantId ∧ r.id = id) (fun r => { r with position }) rules) db.rules }
  else .error .setChanged

def patch (tenantId ruleId : Uuid) (body : AssignmentRuleUpdateBody) (db : RuleDb) : RuleDb :=
  match body.parse with
  | none => db
  | some input =>
    match update citext tenantId ruleId input db with
    | .ok db' => db'
    | .error _ => db

end Service

section Frame

variable {citext : String → String} {db : RuleDb} {tenantId : Uuid} {before : AssignmentRule}

theorem shiftFor_eq_map (tenantId : Uuid) (before : AssignmentRule) (input : AssignmentRuleUpdateInput)
    (rules : List AssignmentRule) :
    ∃ g : AssignmentRule → AssignmentRule, shiftFor tenantId before input rules = rules.map g ∧
      ∀ r, (g r).id = r.id ∧ mine tenantId (g r) = mine tenantId r ∧ (r.id = before.id → g r = r) := by
  have hsame : ∃ g : AssignmentRule → AssignmentRule, rules = rules.map g ∧
      ∀ r, (g r).id = r.id ∧ mine tenantId (g r) = mine tenantId r ∧ (r.id = before.id → g r = r) :=
    ⟨id, (List.map_id rules).symm, fun r => ⟨rfl, rfl, fun _ => rfl⟩⟩
  unfold shiftFor
  split
  · exact hsame
  · split
    · exact hsame
    · have hmine : ∀ p r, mine tenantId (ruleSeats.place p r) = mine tenantId r := fun _ _ => rfl
      obtain ⟨g, hg, hshift⟩ := ruleSeats.shiftBetween_eq_map before.id.toNat before.position _ hmine rules
      refine ⟨g, hg, fun r => ⟨BitVec.eq_of_toNat_eq (hshift r).id, (hshift r).visible, fun hid => ?_⟩⟩
      exact (hshift r).kept (congrArg BitVec.toNat hid)

theorem findRule_eq (hids : (db.rules.map AssignmentRule.id).Nodup) (hbefore : before ∈ db.rules)
    (htenant : before.tenantId = tenantId) : db.findRule tenantId before.id = some before := by
  apply find?_row hids hbefore
  · exact decide_eq_true ⟨rfl, htenant⟩
  · exact fun r hr => (of_decide_eq_true hr).1

variable {input : AssignmentRuleUpdateInput}

theorem update_row (hids : (db.rules.map AssignmentRule.id).Nodup) (hbefore : before ∈ db.rules)
    (htenant : before.tenantId = tenantId) (h : update citext tenantId before.id input db = .ok db') :
    updateRefusal citext db tenantId before input = none ∧ input.write before ∈ db'.rules ∧
      ∀ r ∈ db'.rules, r.id = before.id → r = input.write before := by
  unfold update at h
  rw [findRule_eq hids hbefore htenant] at h
  dsimp only at h
  cases hrefusal : updateRefusal citext db tenantId before input with
  | some =>
    rw [hrefusal] at h
    cases h
  | none =>
    rw [hrefusal] at h
    cases h
    obtain ⟨g, hg, hshift⟩ := shiftFor_eq_map tenantId before input db.rules
    have hmine : mine tenantId before = true := decide_eq_true htenant
    have hwritten : ∀ r ∈ db.rules, r.id = before.id →
        (if decide (mine tenantId (g r) = true ∧ ruleSeats.id (g r) = before.id.toNat) = true then input.write (g r)
          else g r) = input.write before := by
      intro r hr hid
      obtain rfl : r = before := List.inj_on_of_nodup_map hids hr hbefore hid
      rw [(hshift r).2.2 rfl, if_pos]
      exact decide_eq_true ⟨hmine, rfl⟩
    refine ⟨rfl, ?_, ?_⟩
    · rw [hg, Seating.rewrite, updateWhere, List.map_map, List.mem_map]
      exact ⟨before, hbefore, hwritten before hbefore rfl⟩
    · intro r' hr' hid
      rw [hg, Seating.rewrite, updateWhere, List.map_map, List.mem_map] at hr'
      obtain ⟨r, hr, rfl⟩ := hr'
      apply hwritten r hr
      rw [← hid, Function.comp_apply]
      split
      · exact (hshift r).1.symm
      · exact (hshift r).1.symm

structure KeepsAbsent (body : AssignmentRuleUpdateBody) (before after : AssignmentRule) : Prop where
  name : body.name = none → after.name = before.name
  conditions : body.conditions = none → after.conditions = before.conditions
  target : body.target = none → after.targetUserId = before.targetUserId ∧ after.targetTeamId = before.targetTeamId
  position : body.position = none → after.position = before.position
  isActive : body.isActive = none → after.isActive = before.isActive

/-- A body that leaves out `isActive` is refused of this rule. -/
def Refused (citext : String → String) (db : RuleDb) (body : AssignmentRuleUpdateBody) (before : AssignmentRule) : Prop :=
  (body.target = none ∧ before.targetUserId.isSome = before.targetTeamId.isSome) ∨
    unknownReference db before.tenantId body.target (body.conditions.getD []) ≠ none ∨
    (∃ position, body.position = some position ∧ int4Max < position) ∨
    (∃ name, body.name = some name ∧ nameTaken citext db before.tenantId before.id name = true) ∨
    (body.conditions = none ∧ before.conditions = none)

theorem no_target_iff {target : Option RoutingTarget} :
    target.or (toRoutingTarget r) = none ↔ target = none ∧ r.targetUserId = none ∧ r.targetTeamId = none := by
  unfold toRoutingTarget
  cases target with
  | some => simp
  | none => cases r.targetUserId <;> simp

theorem write_targetOk_iff (hactive : input.isActive = some true) :
    (input.write r).targetOk = false ↔ input.target = none ∧ r.targetUserId.isSome = r.targetTeamId.isSome := by
  unfold AssignmentRule.targetOk AssignmentRuleUpdateInput.write
  rw [hactive]
  cases htarget : input.target with
  | none => simp
  | some target => cases target <;> simp [columnsFor]

theorem writeError_of_active (hactive : input.isActive = some true) :
    writeError citext db before.tenantId before input = none ↔
      (¬∃ position, input.position = some position ∧ int4Max < position) ∧
        (¬∃ name, input.name = some name ∧ nameTaken citext db before.tenantId before.id name = true) ∧
          ¬(input.target = none ∧ before.targetUserId.isSome = before.targetTeamId.isSome) ∧
            ¬(input.conditions = none ∧ before.conditions = none) := by
  have hconditions : (input.write before).conditions = none ↔ input.conditions = none ∧ before.conditions = none := by
    unfold AssignmentRuleUpdateInput.write
    cases input.conditions <;> simp
  unfold writeError
  simp only [write_targetOk_iff hactive, hconditions, Option.or_eq_none_iff, Option.map_eq_none_iff,
    Option.filter_eq_none_iff, decide_eq_true_eq]
  refine and_congr ?_ (and_congr ?_ ?_)
  · simp
  · simp
  · split
    · rename_i htarget
      exact iff_of_false nofun fun h => h.1 htarget
    · rename_i htarget
      split
      · rename_i hnone
        exact iff_of_false nofun fun h => h.2 hnone
      · rename_i hsome
        exact iff_of_true rfl ⟨htarget, hsome⟩

theorem updateRefusal_of_active (hactive : input.isActive = some true) :
    updateRefusal citext db before.tenantId before input = none ↔
      ¬Refused citext db input.toAssignmentRuleUpdateBody before := by
  have hneeds : needsTarget before input = none ∨ (input.target = none ∧ before.targetUserId.isSome = before.targetTeamId.isSome) := by
    unfold needsTarget
    split
    · rename_i h
      obtain ⟨hbody, huser, hteam⟩ := no_target_iff.mp h.2
      exact Or.inr ⟨hbody, by rw [huser, hteam]⟩
    · exact Or.inl rfl
  unfold updateRefusal Refused
  rw [Option.or_eq_none_iff, Option.or_eq_none_iff, writeError_of_active hactive]
  simp only [ne_eq, not_or, not_not]
  constructor
  · rintro ⟨_, hreferences, hposition, hname, htarget, hconditions⟩
    exact ⟨htarget, hreferences, hposition, hname, hconditions⟩
  · rintro ⟨htarget, hreferences, hposition, hname, hconditions⟩
    exact ⟨hneeds.resolve_right htarget, hreferences, hposition, hname, htarget, hconditions⟩

theorem write_keepsAbsent_iff (body : AssignmentRuleUpdateBody) (before : AssignmentRule) :
    KeepsAbsent body before ((⟨{ body with isActive := some (body.isActive.getD true) }⟩ : AssignmentRuleUpdateInput).write before) ↔
      body.isActive ≠ none ∨ before.isActive = true := by
  constructor
  · intro h
    cases hactive : body.isActive with
    | some => exact Or.inl nofun
    | none =>
      have hkept := h.isActive hactive
      simp only [AssignmentRuleUpdateInput.write, hactive, Option.getD_none, Option.getD_some] at hkept
      exact Or.inr hkept.symm
  · intro h
    constructor
    · intro hname
      simp [AssignmentRuleUpdateInput.write, hname]
    · intro hconditions
      simp [AssignmentRuleUpdateInput.write, hconditions]
    · intro htarget
      simp [AssignmentRuleUpdateInput.write, htarget]
    · intro hposition
      simp [AssignmentRuleUpdateInput.write, hposition]
    · intro hactive
      have hbefore := h.resolve_left (not_not_intro hactive)
      simp [AssignmentRuleUpdateInput.write, hactive, hbefore]

/-- A body that is accepted leaves the fields it does not mention alone exactly when `isActive` is among those it mentions,
    or the rule is active anyway, or the update is refused. -/
theorem patch_keeps_absent_fields (citext : String → String) (db : RuleDb)
    (hids : (db.rules.map AssignmentRule.id).Nodup) (before : AssignmentRule) (hbefore : before ∈ db.rules)
    (body : AssignmentRuleUpdateBody) (haccepted : body.accepted = true) :
    (∀ after ∈ (patch citext before.tenantId before.id body db).rules, after.id = before.id → KeepsAbsent body before after) ↔
      body.isActive ≠ none ∨ before.isActive = true ∨ Refused citext db body before := by
  let input : AssignmentRuleUpdateInput := ⟨{ body with isActive := some (body.isActive.getD true) }⟩
  have hparse : body.parse = some input := if_pos haccepted
  have hrefusal : body.isActive = none →
      (updateRefusal citext db before.tenantId before input = none ↔ ¬Refused citext db body before) := by
    intro hactive
    have hinput : input.isActive = some true := by simp [input, hactive]
    exact updateRefusal_of_active hinput
  unfold patch
  rw [hparse]
  dsimp only
  cases hupdate : update citext before.tenantId before.id input db with
  | error =>
    have hkept : ∀ after ∈ db.rules, after.id = before.id → KeepsAbsent body before after := by
      intro after hafter hid
      rw [List.inj_on_of_nodup_map hids hafter hbefore hid]
      exact ⟨fun _ => rfl, fun _ => rfl, fun _ => ⟨rfl, rfl⟩, fun _ => rfl, fun _ => rfl⟩
    apply iff_of_true hkept
    cases hactive : body.isActive with
    | some => exact Or.inl nofun
    | none =>
      right; right
      by_contra hnot
      unfold update at hupdate
      rw [findRule_eq hids hbefore rfl] at hupdate
      dsimp only at hupdate
      rw [(hrefusal hactive).mpr hnot] at hupdate
      cases hupdate
  | ok db' =>
    obtain ⟨hnone, hmem, hrow⟩ := update_row hids hbefore rfl hupdate
    have hiff : (∀ after ∈ db'.rules, after.id = before.id → KeepsAbsent body before after) ↔
        KeepsAbsent body before (input.write before) := by
      constructor
      · exact fun h => h _ hmem rfl
      · intro h after hafter hid
        rw [hrow after hafter hid]
        exact h
    rw [hiff, write_keepsAbsent_iff]
    constructor
    · rintro (h | h)
      · exact Or.inl h
      · exact Or.inr (Or.inl h)
    · rintro (h | h | h)
      · exact Or.inl h
      · exact Or.inr h
      · left
        intro hactive
        exact (hrefusal hactive).mp hnone h

def pausedRule : AssignmentRule where
  id := 1
  tenantId := 9
  name := "Refunds"
  position := 0
  isActive := false
  conditions := some [.businessHours true]
  targetUserId := some 5
  targetTeamId := none

/-- Moved with the flag in the body, it stays off. -/
theorem patch_keeps_absent_fields_paused : pausedRule.isActive = false ∧
    ∀ after ∈ (patch id 9 1 { position := some 3, isActive := some false } { rules := [pausedRule] }).rules,
      after.id = 1 → KeepsAbsent { position := some 3, isActive := some false } pausedRule after :=
  ⟨rfl, (patch_keeps_absent_fields id { rules := [pausedRule] } (by decide) pausedRule (by decide)
    { position := some 3, isActive := some false } (by decide)).mpr (Or.inl nofun)⟩

/-- Renamed without it, it routes tickets again. -/
theorem rename_activates_rule :
    let body : AssignmentRuleUpdateBody := { name := some "Billing" }
    body.accepted = true ∧ body.isActive = none ∧ pausedRule.isActive = false ∧
      (patch id 9 1 body { rules := [pausedRule] }).rules = [{ pausedRule with name := "Billing", isActive := true }] := by
  decide

end Frame

end WhatsappCrm.Assignment
