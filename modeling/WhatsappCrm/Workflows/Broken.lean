/-
Purpose: "`broken_reason IS NOT NULL` implies at least one reference does not resolve", over interleaved runs.
-/
import WhatsappCrm.Workflows.Service

namespace WhatsappCrm.Workflows.Config

open Interleaving Table

inductive ConfigCall where
  | create (tenantId id : Uuid) (input : WorkflowCreateInput)
  | update (tenantId workflowId : Uuid) (input : WorkflowUpdateInput)
  | delete (tenantId workflowId : Uuid)
  | reorder (tenantId : Uuid) (workflowIds : List Uuid)
  | deactivate (tenantId workflowId : Uuid)
  | updateUser (tenantId userId : Uuid) (status : UserWritableStatus)
  | removeUser (tenantId userId : Uuid)

def configProgram (citext : String → String) : ConfigCall → Prog ConfigStmt ConfigDb (Except ConfigError Unit)
  | .create tenantId id input => (Config.create citext tenantId id input).run
  | .update tenantId workflowId input => (Config.update citext tenantId workflowId input).run
  | .delete tenantId workflowId => (Config.delete citext tenantId workflowId).run
  | .reorder tenantId workflowIds => (Config.reorder citext tenantId workflowIds).run
  | .deactivate tenantId workflowId => (Config.deactivate citext tenantId workflowId).run
  | .updateUser tenantId userId status => (Config.updateUser citext tenantId userId status).run
  | .removeUser tenantId userId => (Config.removeUser citext tenantId userId).run

abbrev ConfigSys := Sys ConfigStmt ConfigDb ConfigCall (Except ConfigError Unit)

def ConfigWrite.Issued : ConfigWrite → Prop
  | .create w _ => w.brokenReason = none
  | .setStatus _ _ status disarmament => status = .active → disarmament = none
  | _ => True

def ConfigEffect (citext : String → String) (tag : ConfigStmt) (db db' : ConfigDb) : Prop :=
  db' = db ∨ ∃ w, tag = .commit w ∧ w.Issued ∧ w.apply citext db = .ok db'

section Within

variable {citext : String → String}

abbrev Commits (citext : String → String) {α : Type} (p : ConfigM α) : Prop :=
  p.run.Within (fun _ => True) (ConfigEffect citext)

theorem query_commits (f : ConfigDb → α) : Commits citext (Config.query f) :=
  fun _ _ => ⟨Or.inl rfl, trivial⟩

theorem commit_commits {w : ConfigWrite} (hw : w.Issued) : Commits citext (commit citext w) := by
  intro db _
  refine ⟨?_, trivial⟩
  dsimp only
  split
  · rename_i db' happly
    exact Or.inr ⟨w, rfl, hw, happly⟩
  · exact Or.inl rfl

theorem assertUnderElapsedCap_commits (tenantId : Uuid) (trigger : WorkflowTrigger) (workflowId : Option Uuid) :
    Commits citext (assertUnderElapsedCap tenantId trigger workflowId) := by
  unfold assertUnderElapsedCap
  split
  · trivial
  · apply (query_commits _).throwing_bind
    intro held
    split
    · trivial
    · trivial

theorem create_commits (tenantId id : Uuid) (input : WorkflowCreateInput) :
    Commits citext (Config.create citext tenantId id input) := by
  apply (query_commits _).throwing_bind
  intro held
  split
  · trivial
  · apply (assertUnderElapsedCap_commits _ _ _).throwing_bind
    intro _
    apply (query_commits _).throwing_bind
    intro resolved
    split
    · trivial
    · have hposition : Commits citext (input.position.elim (nextPosition tenantId) pure) := by
        cases input.position with
        | none => exact query_commits _
        | some => trivial
      apply hposition.throwing_bind
      intro position
      exact commit_commits rfl

theorem updateRow_commits (tenantId : Uuid) (before : WorkflowRow) (input : WorkflowUpdateInput) :
    Commits citext (updateRow citext tenantId before input) := by
  unfold updateRow
  split
  · trivial
  · rename_i current _
    have hcap : Commits citext
        (input.trigger.elim (pure ()) fun trigger => assertUnderElapsedCap tenantId trigger (some before.id)) := by
      cases input.trigger with
      | none => trivial
      | some => exact assertUnderElapsedCap_commits _ _ _
    apply hcap.throwing_bind
    intro _
    apply (query_commits _).throwing_bind
    intro resolved
    dsimp only
    split
    · trivial
    · exact commit_commits trivial

theorem configProgram_within (c : ConfigCall) : (configProgram citext c).Within (fun _ => True) (ConfigEffect citext) := by
  cases c with
  | create tenantId id input => exact create_commits tenantId id input
  | update tenantId workflowId input =>
    apply (query_commits _).throwing_bind
    intro found
    cases found with
    | none => trivial
    | some before => exact updateRow_commits tenantId before input
  | delete =>
    apply (query_commits _).throwing_bind
    intro found
    cases found with
    | none => trivial
    | some => exact commit_commits trivial
  | reorder =>
    apply (query_commits _).throwing_bind
    intro held
    split
    · exact commit_commits trivial
    · trivial
  | deactivate => exact commit_commits trivial
  | updateUser =>
    apply (query_commits _).throwing_bind
    intro found
    cases found with
    | none => trivial
    | some =>
      dsimp only
      split
      · apply (query_commits _).throwing_bind
        intro workflowIds
        exact commit_commits nofun
      · exact commit_commits fun _ => rfl
  | removeUser =>
    apply (query_commits _).throwing_bind
    intro found
    cases found with
    | none => trivial
    | some =>
      dsimp only
      split
      · trivial
      · apply (query_commits _).throwing_bind
        intro workflowIds
        exact commit_commits nofun

end Within

/-- The definition names something that is not there to be named, besides what is left out. -/
def UnresolvedBut (db : ConfigDb) (w : WorkflowRow) (but : WorkflowReferenceUse → Prop) : Prop :=
  ∃ definition, w.definition = some definition ∧ ∃ use ∈ definition.uses, db.resolves w.tenantId use = false ∧ ¬but use

abbrev Unresolved (db : ConfigDb) (w : WorkflowRow) : Prop := UnresolvedBut db w fun _ => False

def NamesUser (userId : Uuid) (use : WorkflowReferenceUse) : Prop := use.kind = .user ∧ use.id = userId

def BrokenMeansBroken (db : ConfigDb) : Prop :=
  ∀ w ∈ db.workflows, w.brokenReason ≠ none → w.isActive = false ∧ Unresolved db w

/-- The commit finds the definitions as its transaction takes them to be. -/
def Warranted : ConfigStmt → ConfigDb → Prop
  | .read, _ => True
  | .commit (.edit tenantId workflowId _ data), db =>
    ∀ w ∈ db.workflows, w.tenantId = tenantId → w.id = workflowId → w.brokenReason ≠ none →
      data.everyReferenceResolves = false → Unresolved db (data.write w)
  | .commit (.deactivate tenantId workflowId), db =>
    ∀ w ∈ db.workflows, w.tenantId = tenantId → w.id = workflowId → w.isActive = true → Unresolved db w
  | .commit (.setStatus tenantId userId status disarmament), db =>
    (status = .active → ∀ w ∈ db.workflows, w.tenantId = tenantId → w.brokenReason ≠ none →
      UnresolvedBut db w (NamesUser userId)) ∧
    ∀ d ∈ disarmament, ∀ w ∈ db.workflows, w.tenantId = tenantId → w.id ∈ d.workflowIds →
      ∃ definition, w.definition = some definition ∧ ∃ use ∈ definition.uses, NamesUser userId use
  | .commit _, _ => True

section Keeps

variable {citext : String → String} {db db' : ConfigDb}

structure SameDefinition (w w' : WorkflowRow) : Prop where
  tenantId : w'.tenantId = w.tenantId
  isActive : w'.isActive = w.isActive
  brokenReason : w'.brokenReason = w.brokenReason
  definition : w'.definition = w.definition

theorem SameDefinition.refl (w : WorkflowRow) : SameDefinition w w := ⟨rfl, rfl, rfl, rfl⟩

variable {w : WorkflowRow} {tenantId workflowId : Uuid}

theorem SameDefinition.trans (h : SameDefinition w w') (h' : SameDefinition w' w'') : SameDefinition w w'' :=
  ⟨h'.tenantId.trans h.tenantId, h'.isActive.trans h.isActive, h'.brokenReason.trans h.brokenReason,
    h'.definition.trans h.definition⟩

theorem SameDefinition.write (h : SameDefinition w w') (data : WorkflowEdit) :
    SameDefinition (data.write w) (data.write w') := by
  refine ⟨h.tenantId, ?_, ?_, ?_⟩
  · simp only [WorkflowEdit.write, h.isActive]
  · simp only [WorkflowEdit.write, h.brokenReason]
  · simp only [WorkflowEdit.write, h.definition]

theorem UnresolvedBut.same (hsame : SameDefinition w w') (h : UnresolvedBut db w but) : UnresolvedBut db w' but := by
  obtain ⟨definition, hdefinition, use, huse, hnot, hbut⟩ := h
  exact ⟨definition, hsame.definition.trans hdefinition, use, huse, by rw [hsame.tenantId]; exact hnot, hbut⟩

theorem mem_shiftFor (hw : w ∈ shiftFor tenantId workflowId old position db.workflows) :
    ∃ w₀ ∈ db.workflows, SameDefinition w₀ w ∧ w.id = w₀.id := by
  have hkept : w ∈ db.workflows → ∃ w₀ ∈ db.workflows, SameDefinition w₀ w ∧ w.id = w₀.id :=
    fun hw => ⟨w, hw, .refl w, rfl⟩
  unfold shiftFor at hw
  split at hw
  · exact hkept hw
  · split at hw
    · exact hkept hw
    · unfold shiftBetween Positions.Seating.shiftBetween at hw
      split at hw
      · obtain ⟨w₀, hw₀, ⟨_, rfl⟩ | ⟨_, rfl⟩⟩ := mem_updateWhere hw
        · exact ⟨w₀, hw₀, ⟨rfl, rfl, rfl, rfl⟩, rfl⟩
        · exact ⟨w, hw₀, .refl w, rfl⟩
      · obtain ⟨w₀, hw₀, ⟨_, rfl⟩ | ⟨_, rfl⟩⟩ := mem_updateWhere hw
        · exact ⟨w₀, hw₀, ⟨rfl, rfl, rfl, rfl⟩, rfl⟩
        · exact ⟨w, hw₀, .refl w, rfl⟩

theorem mem_placed {entries : List (Uuid × Nat)} (hw : w ∈ entries.foldl (placeAt tenantId) workflows) : ∃ w₀ ∈ workflows, SameDefinition w₀ w := by
  induction entries generalizing workflows with
  | nil => exact ⟨w, hw, .refl w⟩
  | cons entry entries ih =>
    obtain ⟨w₁, hw₁, hsame⟩ := ih hw
    obtain ⟨w₀, hw₀, ⟨_, rfl⟩ | ⟨_, rfl⟩⟩ := mem_updateWhere hw₁
    · have hplaced : SameDefinition w₀ { w₀ with position := entry.2 } := ⟨rfl, rfl, rfl, rfl⟩
      exact ⟨w₀, hw₀, hplaced.trans hsame⟩
    · exact ⟨w₁, hw₀, hsame⟩

theorem resolves_applyStatus (t : Uuid) (use : WorkflowReferenceUse) : (¬(t = tenantId ∧ NamesUser userId use) →
        (applyStatus tenantId userId status disarmament db).resolves t use = db.resolves t use) ∧
      (t = tenantId → NamesUser userId use → status ≠ .active →
        (applyStatus tenantId userId status disarmament db).resolves t use = false) := by
  cases hkind : use.kind with
  | tag | team => simp [ConfigDb.resolves, applyStatus, NamesUser, hkind]
  | user =>
    simp only [ConfigDb.resolves, applyStatus, NamesUser, hkind, true_and, updateWhere, List.any_map]
    constructor
    · intro hother
      apply congrArg fun p => db.users.any p
      funext u
      simp only [Function.comp_apply, decide_eq_true_eq]
      split
      · rename_i hu
        have hnot : ¬(u.tenantId = t ∧ u.id = use.id) := fun h => hother ⟨h.1.symm.trans hu.1, h.2.symm.trans hu.2⟩
        apply decide_eq_decide.mpr
        exact iff_of_false (fun h => hnot ⟨h.1, h.2.1⟩) fun h => hnot ⟨h.1, h.2.1⟩
      · rfl
    · intro ht hid hstatus
      apply List.any_eq_false.mpr
      intro u _
      simp only [Function.comp_apply, decide_eq_true_eq]
      split
      · exact fun h => hstatus h.2.2
      · rename_i hu
        exact fun h => hu ⟨h.1.trans ht, h.2.1.trans hid⟩

theorem create_keeps (hdb : BrokenMeansBroken db)
    (hissued : w.brokenReason = none) (h : (ConfigWrite.create w uses).apply citext db = .ok db') : BrokenMeansBroken db' := by
  replace h := (ok_of_ite h).2
  cases (ok_of_ite h).2
  intro w' hw' hbroken
  rcases mem_snoc.mp hw' with hw' | rfl
  · exact hdb w' hw' hbroken
  · exact absurd hissued hbroken

theorem edit_keeps (hdb : BrokenMeansBroken db)
    (hwarranted : Warranted (.commit (.edit tenantId workflowId old data)) db)
    (h : applyEdit citext tenantId workflowId old data db = .ok db') : BrokenMeansBroken db' := by
  obtain ⟨hworkflows, hresolves, hcheck⟩ := applyEdit_ok h
  have hunresolved : ∀ w, Unresolved db w → Unresolved db' w := by
    rintro w ⟨definition, hdefinition, use, huse, hnot, hbut⟩
    exact ⟨definition, hdefinition, use, huse, (hresolves _ _).trans hnot, hbut⟩
  intro w hw hbroken
  rw [hworkflows] at hw
  obtain ⟨w₁, hw₁, ⟨hsel, rfl⟩ | ⟨_, rfl⟩⟩ := mem_updateWhere hw
  · obtain ⟨w₀, hw₀, hsame, hid₀⟩ := mem_shiftFor hw₁
    have hsel' := of_decide_eq_true hsel
    have htenant : w₀.tenantId = tenantId := hsame.tenantId.symm.trans (of_decide_eq_true hsel'.1)
    have hid : w₀.id = workflowId := hid₀.symm.trans (BitVec.eq_of_toNat_eq hsel'.2)
    have hwritten := hsame.write data
    have hbroken₀ : (data.write w₀).brokenReason ≠ none := by rwa [← hwritten.brokenReason]
    constructor
    · rw [hwritten.isActive]
      cases hactive : (data.write w₀).isActive with
      | false => rfl
      | true => exact absurd (hcheck w₀ hw₀ htenant hid hactive) hbroken₀
    · apply hunresolved
      apply UnresolvedBut.same hwritten
      have hstays : data.everyReferenceResolves = false ∧ w₀.brokenReason ≠ none := by
        unfold WorkflowEdit.write at hbroken₀
        cases hevery : data.everyReferenceResolves with
        | true => simp [hevery] at hbroken₀
        | false => exact ⟨rfl, by simpa [hevery] using hbroken₀⟩
      exact hwarranted w₀ hw₀ htenant hid hstays.2 hstays.1
  · obtain ⟨w₀, hw₀, hsame, _⟩ := mem_shiftFor hw₁
    rw [hsame.brokenReason] at hbroken
    obtain ⟨hinactive, hnot⟩ := hdb w₀ hw₀ hbroken
    exact ⟨hsame.isActive.trans hinactive, hunresolved w (UnresolvedBut.same hsame hnot)⟩

theorem deactivate_keeps (hdb : BrokenMeansBroken db)
    (hwarranted : Warranted (.commit (.deactivate tenantId workflowId)) db)
    (h : (ConfigWrite.deactivate tenantId workflowId).apply citext db = .ok db') : BrokenMeansBroken db' := by
  cases h
  intro w hw hbroken
  obtain ⟨w₀, hw₀, ⟨hsel, rfl⟩ | ⟨_, rfl⟩⟩ := mem_updateWhere hw
  · obtain ⟨htenant, hid, hactive⟩ := of_decide_eq_true hsel
    exact ⟨rfl, hwarranted w₀ hw₀ htenant hid hactive⟩
  · exact hdb w hw₀ hbroken

theorem setStatus_keeps (hdb : BrokenMeansBroken db) (hissued : status = .active → disarmament = none)
    (hwarranted : Warranted (.commit (.setStatus tenantId userId status disarmament)) db) :
    BrokenMeansBroken (applyStatus tenantId userId status disarmament db) := by
  -- A row that is broken before the commit still is: of the active user it did not depend, and others resolve no more.
  have hstill : ∀ w ∈ db.workflows, w.brokenReason ≠ none →
      w.isActive = false ∧ Unresolved (applyStatus tenantId userId status disarmament db) w := by
    intro w hw hbroken
    obtain ⟨hinactive, definition, hdefinition, use, huse, hnot, _⟩ := hdb w hw hbroken
    refine ⟨hinactive, ?_⟩
    by_cases hown : w.tenantId = tenantId
    · by_cases hactive : status = .active
      · obtain ⟨definition, hdefinition, use, huse, hnot, hbut⟩ := hwarranted.1 hactive w hw hown hbroken
        refine ⟨definition, hdefinition, use, huse, ?_, id⟩
        rw [(resolves_applyStatus w.tenantId use).1 fun h => hbut h.2]
        exact hnot
      · refine ⟨definition, hdefinition, use, huse, ?_, id⟩
        by_cases hnames : NamesUser userId use
        · exact (resolves_applyStatus w.tenantId use).2 hown hnames hactive
        · rw [(resolves_applyStatus w.tenantId use).1 fun h => hnames h.2]
          exact hnot
    · refine ⟨definition, hdefinition, use, huse, ?_, id⟩
      rw [(resolves_applyStatus w.tenantId use).1 fun h => hown h.1]
      exact hnot
  intro w hw hbroken
  cases hdisarmament : disarmament with
  | none =>
    subst hdisarmament
    exact hstill w hw hbroken
  | some d =>
    have hstatus : status ≠ .active := by
      intro hactive
      rw [hissued hactive] at hdisarmament
      cases hdisarmament
    subst hdisarmament
    obtain ⟨w₀, hw₀, ⟨hsel, rfl⟩ | ⟨_, rfl⟩⟩ := mem_updateWhere hw
    · obtain ⟨htenant, hlisted⟩ := of_decide_eq_true hsel
      obtain ⟨definition, hdefinition, use, huse, hnames⟩ :=
        hwarranted.2 d rfl w₀ hw₀ htenant (List.contains_iff_mem.mp hlisted)
      refine ⟨rfl, definition, hdefinition, use, huse, ?_, id⟩
      exact (resolves_applyStatus w₀.tenantId use).2 htenant hnames hstatus
    · exact hstill w hw₀ hbroken

theorem apply_keeps {w : ConfigWrite} (hdb : BrokenMeansBroken db) (hissued : w.Issued) (hwarranted : Warranted (.commit w) db)
    (h : w.apply citext db = .ok db') : BrokenMeansBroken db' := by
  cases w with
  | create => exact create_keeps hdb hissued h
  | edit => exact edit_keeps hdb hwarranted h
  | delete =>
    cases h
    exact fun w hw => hdb w (List.mem_filter.mp hw).1
  | reorder =>
    cases h
    intro w hw hbroken
    obtain ⟨w₀, hw₀, hsame⟩ := mem_placed hw
    rw [hsame.brokenReason] at hbroken
    obtain ⟨hinactive, hnot⟩ := hdb w₀ hw₀ hbroken
    exact ⟨hsame.isActive.trans hinactive, UnresolvedBut.same hsame hnot⟩
  | deactivate => exact deactivate_keeps hdb hwarranted h
  | setStatus =>
    cases h
    exact setStatus_keeps hdb hissued hwarranted

end Keeps

/-- The runs whose commits find the definitions as they take them to be. -/
def warranted (s : ConfigSys) (_ : ConfigCall) (tag : ConfigStmt) : Prop := Warranted tag s.db

/-- In every state of such a run, a workflow with a broken reason is inactive and names something that does not resolve. -/
theorem broken_means_broken (citext : String → String) {db : ConfigDb} (hdb : BrokenMeansBroken db) {s : ConfigSys}
    (hs : Reachable (configProgram citext) warranted (.idle db) s) : BrokenMeansBroken s.db := by
  apply Reachable.invariant (fun c => (configProgram_within c).weaken fun _ _ => trivial) _ hdb hs
  intro s c tag db' hinv hwarranted heffect
  rcases heffect with rfl | ⟨w, rfl, hissued, happly⟩
  · exact hinv
  · exact apply_keeps hinv hissued hwarranted happly

def escalation : WorkflowDefinition where
  trigger := .ticketCreated
  actions := [.reassign (.user 5)]

def escalates : ConfigDb :=
  let row : WorkflowRow :=
    { id := 1, tenantId := 9, isActive := true, triggerType := .ticketCreated, definition := some escalation
      name := "Escalate" }
  { workflows := [row], references := [⟨9, 1, .user, 5⟩], users := [⟨5, 9, .active⟩] }

instance (userId : Uuid) : DecidablePred (NamesUser userId) := by
  intro use
  unfold NamesUser
  infer_instance

instance (db : ConfigDb) (w : WorkflowRow) (but : WorkflowReferenceUse → Prop) [DecidablePred but] :
    Decidable (UnresolvedBut db w but) :=
  decidable_of_iff (∃ definition ∈ w.definition.toList, ∃ use ∈ definition.uses, db.resolves w.tenantId use = false ∧ ¬but use)
    (by simp [UnresolvedBut])

instance (db : ConfigDb) : Decidable (BrokenMeansBroken db) := by
  unfold BrokenMeansBroken
  infer_instance

instance (tag : ConfigStmt) (db : ConfigDb) : Decidable (Warranted tag db) := by
  unfold Warranted
  split <;> infer_instance

def suspension : List (Move ConfigCall) := [.spawn (.updateUser 9 5 .suspended), .step 0, .step 0, .step 0]

def reinstatement : List (Move ConfigCall) := [.spawn (.updateUser 9 5 .active), .step 1, .step 1]

theorem broken_means_broken_suspension : ∃ s : ConfigSys,
    (s.db.workflows.map fun w => w.brokenReason) = [some .referenceSuspended] ∧ BrokenMeansBroken s.db := by
  have hrun : (run (configProgram id) (fun s _ tag => decide (Warranted tag s.db)) suspension (.idle escalates)).map
      (fun s => s.db.workflows.map fun w => w.brokenReason) = some [some .referenceSuspended] := by
    decide +kernel
  obtain ⟨s, hreach, hreason⟩ := ends_of_run hrun
  exact ⟨s, hreason, broken_means_broken id (by decide) hreach⟩

/-- The reason stays when the user comes back. -/
theorem reinstated_user_leaves_workflow_broken : ¬∀ db, BrokenMeansBroken db → ∀ s,
    Reachable (configProgram id) anyStep (.idle db) s → BrokenMeansBroken s.db := by
  intro hclaim
  have hrun : (run (configProgram id) (fun _ _ _ => true) (suspension ++ reinstatement) (.idle escalates)).map
      (fun s => decide (BrokenMeansBroken s.db)) = some false := by
    decide +kernel
  obtain ⟨s, hreach, hnot⟩ := ends_of_run_any hrun
  exact of_decide_eq_false hnot (hclaim escalates (by decide) s hreach)

end WhatsappCrm.Workflows.Config
