/-
Purpose: `WorkflowService` (`workflows/workflow.service.ts`), and the two others who write `workflows`: the engine, and
  the user lifecycle (`people/users.service.ts`).
-/
import WhatsappCrm.Lib.Positions
import WhatsappCrm.People.Store
import WhatsappCrm.Workflows.Trigger

namespace WhatsappCrm.Workflows.Config

open Interleaving Positions Table

/-- A row of `workflows`, with the name its tenant gave it. -/
structure WorkflowRow extends Workflow where
  name : String
deriving DecidableEq

/-- A row of `workflow_references`: one entity the definition names. -/
structure WorkflowReferenceRow where
  tenantId : Uuid
  workflowId : Uuid
  kind : WorkflowTaxonomyKind
  entityId : Uuid
deriving DecidableEq

structure NamedUser where
  id : Uuid
  tenantId : Uuid
  status : UserStatus

/-- The workflows, their reverse index, and the entities a definition can name: `(tenant_id, id)` of tags and teams. -/
structure ConfigDb where
  workflows : List WorkflowRow := []
  references : List WorkflowReferenceRow := []
  users : List NamedUser := []
  tags : List (Uuid × Uuid) := []
  teams : List (Uuid × Uuid) := []

inductive ConfigError where
  | notFound (id : Uuid)
  | tooManyWorkflows
  | tooManyElapsedTriggerWorkflows
  | unknownReference (path : String) (id : Uuid)
  | referenceBroken (broken : List WorkflowReferenceUse)
  | malformedDefinition (workflowId : Uuid)
  | nameTaken (name : String)
  | setChanged
  /-- A position the `integer` column does not hold. -/
  | outOfRange
  /-- `workflows_broken_is_inactive`. -/
  | brokenIsInactive

namespace ConfigDb

variable (db : ConfigDb)

def workflowsOf (tenantId : Uuid) : List WorkflowRow := db.workflows.filter fun w => w.tenantId = tenantId

def findWorkflow (tenantId workflowId : Uuid) : Option WorkflowRow :=
  db.workflows.find? fun w => w.id = workflowId ∧ w.tenantId = tenantId

def findUser (tenantId userId : Uuid) : Option NamedUser :=
  db.users.find? fun u => u.id = userId ∧ u.tenantId = tenantId

/-- The entity is one a workflow may name: of users only an active one, `REFERENCEABLE_USER`. -/
def resolves (tenantId : Uuid) (use : WorkflowReferenceUse) : Bool :=
  match use.kind with
  | .tag => db.tags.contains (tenantId, use.id)
  | .team => db.teams.contains (tenantId, use.id)
  | .user => db.users.any fun u => u.tenantId = tenantId ∧ u.id = use.id ∧ u.status = .active

def nameTaken (citext : String → String) (tenantId workflowId : Uuid) (name : String) : Bool :=
  db.workflows.any fun w => w.tenantId = tenantId ∧ w.id ≠ workflowId ∧ citext w.name = citext name

end ConfigDb

/-- The `data` of an update, and the references it leaves in the reverse index when it writes a definition. -/
structure WorkflowEdit where
  name : Option String
  position : Option Int
  isActive : Option Bool
  /-- Every reference resolved when the update read them, and `broken_reason` is cleared. -/
  everyReferenceResolves : Bool
  definition : Option WorkflowDefinition
  resolved : List WorkflowReferenceUse

def WorkflowEdit.write (edit : WorkflowEdit) (w : WorkflowRow) : WorkflowRow :=
  { w with
    name := edit.name.getD w.name
    position := edit.position.getD w.position
    isActive := edit.isActive.getD w.isActive
    brokenReason := if edit.everyReferenceResolves then none else w.brokenReason
    triggerType := edit.definition.elim w.triggerType (·.trigger.type)
    definition := edit.definition.or w.definition
    version := if edit.definition.isSome then w.version + 1 else w.version }

/-- What becomes of the workflows that name somebody who cannot be named any more. -/
structure Disarmament where
  workflowIds : List Uuid
  reason : BrokenReason
  dropsReferences : Bool

inductive ConfigWrite where
  | create (w : WorkflowRow) (uses : List WorkflowReferenceUse)
  | edit (tenantId workflowId : Uuid) (old : Int) (data : WorkflowEdit)
  | delete (tenantId workflowId : Uuid)
  | reorder (tenantId : Uuid) (workflowIds : List Uuid)
  | deactivate (tenantId workflowId : Uuid)
  | setStatus (tenantId userId : Uuid) (status : UserStatus) (disarmament : Option Disarmament)

def mine (tenantId : Uuid) (w : WorkflowRow) : Bool := w.tenantId = tenantId

def workflowSeats : Seating WorkflowRow Nat where
  id w := w.id.toNat
  position w := w.position
  place p w := { w with position := p }
  id_place _ _ := rfl
  position_place _ _ := rfl

def shiftBetween (tenantId workflowId : Uuid) (old new : Int) (workflows : List WorkflowRow) : List WorkflowRow :=
  workflowSeats.shiftBetween (mine tenantId) workflowId.toNat old new workflows

def shiftFor (tenantId workflowId : Uuid) (old : Int) (position : Option Int) (workflows : List WorkflowRow) :
    List WorkflowRow :=
  match position with
  | none => workflows
  | some new => if new = old then workflows else shiftBetween tenantId workflowId old new workflows

def referenceRows (tenantId workflowId : Uuid) (uses : List WorkflowReferenceUse) : List WorkflowReferenceRow :=
  (uses.map fun use => (⟨tenantId, workflowId, use.kind, use.id⟩ : WorkflowReferenceRow)).eraseDups

def writeReferences (tenantId workflowId : Uuid) (uses : List WorkflowReferenceUse) (references : List WorkflowReferenceRow) :
    List WorkflowReferenceRow :=
  references.filter (·.workflowId ≠ workflowId) ++ referenceRows tenantId workflowId uses

def placeAt (tenantId : Uuid) (workflows : List WorkflowRow) (entry : Uuid × Nat) : List WorkflowRow :=
  updateWhere (fun w => w.tenantId = tenantId ∧ w.id = entry.1) (fun w => { w with position := entry.2 }) workflows

def disarm (reason : BrokenReason) (w : WorkflowRow) : WorkflowRow :=
  { w with isActive := false, brokenReason := some reason }

section Service

-- The folding of `citext`, under which the names of a tenant's workflows are unique.
variable (citext : String → String)

def applyEdit (tenantId workflowId : Uuid) (old : Int) (edit : WorkflowEdit) (db : ConfigDb) : Except ConfigError ConfigDb :=
  let written := fun w => mine tenantId w ∧ w.id = workflowId
  if db.workflows.any fun w => written w then
    if edit.position.any (int4Max < ·) then .error .outOfRange
    else
      match edit.name.filter (db.nameTaken citext tenantId workflowId) with
      | some name => .error (.nameTaken name)
      | none =>
        if db.workflows.any fun w => written w ∧ (edit.write w).isActive = true ∧ (edit.write w).brokenReason ≠ none then
          .error .brokenIsInactive
        else
          .ok { db with
            workflows := workflowSeats.rewrite (mine tenantId) workflowId.toNat edit.write
              (shiftFor tenantId workflowId old edit.position db.workflows)
            references :=
              if edit.definition.isSome then writeReferences tenantId workflowId edit.resolved db.references
              else db.references }
  else .error (.notFound workflowId)

/-- `user.update`, with the workflows disarmed and their rows of the reverse index dropped. -/
def applyStatus (tenantId userId : Uuid) (status : UserStatus) (disarmament : Option Disarmament) (db : ConfigDb) : ConfigDb :=
  { db with
    users := updateWhere (fun u => u.tenantId = tenantId ∧ u.id = userId) (fun u => { u with status }) db.users
    workflows := disarmament.elim db.workflows fun d =>
      updateWhere (fun w => w.tenantId = tenantId ∧ d.workflowIds.contains w.id) (disarm d.reason) db.workflows
    references := disarmament.elim db.references fun d =>
      if d.dropsReferences then
        db.references.filter fun r => !(r.tenantId = tenantId ∧ r.kind = .user ∧ r.entityId = userId)
      else db.references }

def ConfigWrite.apply : ConfigWrite → ConfigDb → Except ConfigError ConfigDb
  | .create w uses, db =>
    if int4Max < w.position then .error .outOfRange
    else if db.nameTaken citext w.tenantId w.id w.name then .error (.nameTaken w.name)
    else .ok { db with
      workflows := db.workflows ++ [w]
      references := db.references ++ referenceRows w.tenantId w.id uses }
  | .edit tenantId workflowId old data, db => applyEdit citext tenantId workflowId old data db
  | .delete tenantId workflowId, db =>
    .ok { db with
      workflows := db.workflows.filter fun w => !(w.tenantId = tenantId ∧ w.id = workflowId)
      references := db.references.filter (·.workflowId ≠ workflowId) }
  | .reorder tenantId workflowIds, db =>
    .ok { db with workflows := workflowIds.zipIdx.foldl (placeAt tenantId) db.workflows }
  | .deactivate tenantId workflowId, db =>
    .ok { db with
      workflows := updateWhere (fun w => w.tenantId = tenantId ∧ w.id = workflowId ∧ w.isActive)
        (disarm .referenceMissing) db.workflows }
  | .setStatus tenantId userId status disarmament, db => .ok (applyStatus tenantId userId status disarmament db)

inductive ConfigStmt where
  | read
  | commit (w : ConfigWrite)

abbrev ConfigM := Throwing ConfigStmt ConfigDb ConfigError

def query {α : Type} (f : ConfigDb → α) : ConfigM α := .ghost .read fun db => (f db, db)

def commit (w : ConfigWrite) : ConfigM Unit :=
  .statement (.commit w) fun db =>
    match w.apply citext db with
    | .ok db' => (.ok (), db')
    | .error e => (.error e, db)

structure WorkflowCreateInput where
  name : String
  definition : WorkflowDefinition
  position : Option Int
  isActive : Bool

structure WorkflowUpdateInput where
  name : Option String := none
  trigger : Option WorkflowTrigger := none
  conditions : Option (List WorkflowCondition) := none
  actions : Option (List WorkflowAction) := none
  position : Option Int := none
  isActive : Option Bool := none

def assertUnderElapsedCap (tenantId : Uuid) (trigger : WorkflowTrigger) (excludeWorkflowId : Option Uuid) : ConfigM Unit :=
  if trigger.type ≠ .ticketUnresolvedFor then pure ()
  else do
    let held ← query fun db => (db.workflowsOf tenantId).countP fun w =>
      w.triggerType = .ticketUnresolvedFor ∧ some w.id ≠ excludeWorkflowId
    if elapsedTriggerWorkflowsPerTenant ≤ held then throw .tooManyElapsedTriggerWorkflows else pure ()

def resolveReferences (tenantId : Uuid) (uses : List WorkflowReferenceUse) : ConfigM (List WorkflowReferenceUse) :=
  query fun db => uses.filter (db.resolves tenantId)

def nextPosition (tenantId : Uuid) : ConfigM Int :=
  query fun db => ((db.workflowsOf tenantId).map fun w => w.position).max?.elim 0 (· + 1)

def create (tenantId id : Uuid) (input : WorkflowCreateInput) : ConfigM Unit := do
  let held ← query fun db => (db.workflowsOf tenantId).length
  if workflowsPerTenant ≤ held then throw .tooManyWorkflows
  else
    assertUnderElapsedCap tenantId input.definition.trigger none
    let resolved ← resolveReferences tenantId input.definition.uses
    match input.definition.uses.find? (!resolved.contains ·) with
    | some unknown => throw (.unknownReference unknown.path unknown.id)
    | none =>
      let position ← input.position.elim (nextPosition tenantId) pure
      commit citext (.create
        { id, tenantId, isActive := input.isActive, position, triggerType := input.definition.trigger.type
          definition := some input.definition, name := input.name } input.definition.uses)

def patched (current : WorkflowDefinition) (input : WorkflowUpdateInput) : WorkflowDefinition where
  trigger := input.trigger.getD current.trigger
  conditions := input.conditions.getD current.conditions
  actions := input.actions.getD current.actions

def definitionChanged (input : WorkflowUpdateInput) : Bool :=
  input.trigger.isSome || input.conditions.isSome || input.actions.isSome

def editFor (definition : WorkflowDefinition) (input : WorkflowUpdateInput) (resolved : List WorkflowReferenceUse) :
    WorkflowEdit where
  name := input.name
  position := input.position
  isActive := input.isActive
  everyReferenceResolves := definition.uses.all (resolved.contains ·)
  definition := if definitionChanged input then some definition else none
  resolved := resolved

def updateRow (tenantId : Uuid) (before : WorkflowRow) (input : WorkflowUpdateInput) : ConfigM Unit :=
  match readDefinition before.toWorkflow with
  | none => throw (.malformedDefinition before.id)
  | some current => do
    let definition := patched current input
    input.trigger.elim (pure ()) fun trigger => assertUnderElapsedCap tenantId trigger (some before.id)
    let resolved ← resolveReferences tenantId definition.uses
    let broken := definition.uses.filter (!resolved.contains ·)
    if input.isActive.getD before.isActive ∧ broken ≠ [] then throw (.referenceBroken broken)
    else commit citext (.edit tenantId before.id before.position (editFor definition input resolved))

def update (tenantId workflowId : Uuid) (input : WorkflowUpdateInput) : ConfigM Unit := do
  match ← query fun db => db.findWorkflow tenantId workflowId with
  | none => throw (.notFound workflowId)
  | some before => updateRow citext tenantId before input

def delete (tenantId workflowId : Uuid) : ConfigM Unit := do
  match ← query fun db => db.findWorkflow tenantId workflowId with
  | none => pure ()
  | some before => commit citext (.delete tenantId before.id)

def isSameSet (submitted held : List Uuid) : Bool :=
  submitted.eraseDups.length = submitted.length && submitted.length = held.length && held.all (submitted.contains ·)

/-- `reorder`: the position of a workflow is its index in the submitted list. -/
def reorder (tenantId : Uuid) (workflowIds : List Uuid) : ConfigM Unit := do
  let held ← query fun db => (db.workflowsOf tenantId).map fun w => w.id
  if isSameSet workflowIds held then commit citext (.reorder tenantId workflowIds) else throw .setChanged

/-- `WorkflowTriggerService.deactivate`, of the workflow a run of which found a reference missing. -/
def deactivate (tenantId workflowId : Uuid) : ConfigM Unit := commit citext (.deactivate tenantId workflowId)

def naming (tenantId userId : Uuid) : ConfigM (List Uuid) :=
  query fun db => (db.references.filter fun r => r.tenantId = tenantId ∧ r.kind = .user ∧ r.entityId = userId).map (·.workflowId)

/-- `UsersService.update` with a status in the body, as far as workflows are concerned: a suspension disarms the workflows
    that name the user. -/
def updateUser (tenantId userId : Uuid) (status : UserWritableStatus) : ConfigM Unit := do
  match ← query fun db => db.findUser tenantId userId with
  | none => throw (.notFound userId)
  | some before =>
    if status = .suspended ∧ before.status ≠ .suspended then
      let workflowIds ← naming tenantId userId
      commit citext (.setStatus tenantId userId .suspended (some ⟨workflowIds, .referenceSuspended, false⟩))
    else commit citext (.setStatus tenantId userId status.status none)

def removeUser (tenantId userId : Uuid) : ConfigM Unit := do
  match ← query fun db => db.findUser tenantId userId with
  | none => throw (.notFound userId)
  | some before =>
    if before.status = .removed then pure ()
    else
      let workflowIds ← naming tenantId userId
      commit citext (.setStatus tenantId userId .removed (some ⟨workflowIds, .referenceRemoved, workflowIds ≠ []⟩))

end Service

section Alone

variable {citext : String → String} {tenantId : Uuid} {db db' : ConfigDb} {before : WorkflowRow}

theorem findWorkflow_eq (hids : (db.workflows.map fun w => w.id).Nodup) (hbefore : before ∈ db.workflows)
    (htenant : before.tenantId = tenantId) : db.findWorkflow tenantId before.id = some before := by
  apply find?_row hids hbefore
  · exact decide_eq_true ⟨rfl, htenant⟩
  · exact fun w hw => (of_decide_eq_true hw).1

theorem query_alone (f : ConfigDb → α) (db : ConfigDb) : (query f).run.alone db = (.ok (f db), db) := rfl

theorem assertUnderElapsedCap_alone
    (h : (assertUnderElapsedCap tenantId trigger workflowId).run.alone db = (.ok (), db')) : db' = db := by
  unfold assertUnderElapsedCap at h
  split at h
  · cases h
    rfl
  · obtain ⟨held, s, hread, hrest⟩ := Throwing.of_alone_bind h
    rw [query_alone] at hread
    cases hread
    split at hrest
    · cases hrest
    · cases hrest
      rfl

theorem commit_alone (h : (commit citext w).run.alone db = (.ok (), db')) : w.apply citext db = .ok db' := by
  unfold commit at h
  rw [Throwing.run_statement] at h
  simp only [Prog.stmt, Prog.alone] at h
  split at h
  · rename_i s happly
    cases h
    exact happly
  · cases h

structure Edited (tenantId workflowId : Uuid) (old : Int) (edit : WorkflowEdit) (db db' : ConfigDb) : Prop where
  workflows : db'.workflows = workflowSeats.rewrite (mine tenantId) workflowId.toNat edit.write
    (shiftFor tenantId workflowId old edit.position db.workflows)
  resolves : ∀ tenantId use, db'.resolves tenantId use = db.resolves tenantId use
  check : ∀ w ∈ db.workflows, w.tenantId = tenantId → w.id = workflowId →
    (edit.write w).isActive = true → (edit.write w).brokenReason = none

theorem applyEdit_ok
    (h : applyEdit citext tenantId workflowId old edit db = .ok db') : Edited tenantId workflowId old edit db db' := by
  unfold applyEdit at h
  dsimp only at h
  split at h
  · split at h
    · cases h
    · split at h
      · cases h
      · split at h
        · cases h
        · rename_i hcheck
          cases h
          refine ⟨rfl, fun _ _ => rfl, fun w hw htenant hid hactive => ?_⟩
          by_contra hbroken
          apply hcheck
          refine List.any_eq_true.mpr ⟨w, hw, ?_⟩
          simp [mine, htenant, hid, hactive, hbroken]
  · cases h

theorem updateRow_alone (h : (updateRow citext tenantId before input).run.alone db = (.ok (), db')) :
    ∃ definition resolved,
      applyEdit citext tenantId before.id before.position (editFor definition input resolved) db = .ok db' := by
  unfold updateRow at h
  cases hread : readDefinition before.toWorkflow with
  | none =>
    rw [hread] at h
    cases h
  | some current =>
    rw [hread] at h
    dsimp only at h
    obtain ⟨_, s, hcap, hrest⟩ := Throwing.of_alone_bind h
    have hsame : s = db := by
      cases htrigger : input.trigger with
      | none =>
        rw [htrigger] at hcap
        cases hcap
        rfl
      | some =>
        rw [htrigger] at hcap
        exact assertUnderElapsedCap_alone hcap
    subst hsame
    obtain ⟨resolved, s', hresolve, hcommit⟩ := Throwing.of_alone_bind hrest
    rw [resolveReferences, query_alone] at hresolve
    cases hresolve
    split at hcommit
    · cases hcommit
    · exact ⟨patched current input, _, commit_alone hcommit⟩

end Alone

end WhatsappCrm.Workflows.Config
