/-
Purpose: "At least one active admin remains." The guard locks the other admins, but it runs only when a read without a
  lock found an active admin.
-/
import WhatsappCrm.People.System

namespace WhatsappCrm

open Interleaving Table

def PeopleDb.HasAdmin (db : PeopleDb) (tenantId : Uuid) : Prop :=
  ∃ u ∈ db.base.users, u.tenantId = tenantId ∧ u.isActiveAdmin = true

instance (db : PeopleDb) (tenantId : Uuid) : Decidable (db.HasAdmin tenantId) :=
  inferInstanceAs (Decidable (∃ u ∈ db.base.users, _))

def InformedWrite : PeopleStmt → PeopleDb → Prop
  | .writeUser before data, db => ∀ u ∈ db.base.users, u.named before.tenantId before.id = true →
      u.isActiveAdmin = true → (data.write u).isActiveAdmin = false → before.isActiveAdmin = true
  | _, _ => True

instance (tag : PeopleStmt) (db : PeopleDb) : Decidable (InformedWrite tag db) :=
  match tag with
  | .writeUser before data => inferInstanceAs (Decidable (∀ u ∈ db.base.users,
      u.named before.tenantId before.id = true → u.isActiveAdmin = true →
        (data.write u).isActiveAdmin = false → before.isActiveAdmin = true))
  | .ticket _ => isTrue trivial
  | .readUser _ => isTrue trivial
  | .scan => isTrue trivial
  | .lockAdmin _ => isTrue trivial
  | .unassignTicket _ _ _ => isTrue trivial
  | .clear => isTrue trivial
  | .commit => isTrue trivial

def LockedAdmin (tenantId userId : Uuid) (ws : HeldWrites) : Prop :=
  ∃ id rows u, (.lockAdmin tenantId id, rows) ∈ ws ∧ .user u ∈ rows ∧ u.id ≠ userId

def PeopleWrite.Targets (tenantId userId : Uuid) (w : PeopleWrite) : Prop :=
  ∀ t u data, w = .updateUser t u data → t = tenantId ∧ u = userId

def Harmless (w : PeopleWrite) (rows : List PeopleRow) : Prop :=
  ∀ t u data, w = .updateUser t u data → ∀ x, .user x ∈ rows → x.isActiveAdmin = true →
    (data.write x).isActiveAdmin = true

structure SafeWrites (tenantId userId : Uuid) (ws : HeldWrites) : Prop where
  targets : ∀ e ∈ ws, e.1.Targets tenantId userId
  safe : (∀ e ∈ ws, Harmless e.1 e.2) ∨ LockedAdmin tenantId userId ws

variable {tenantId userId : Uuid} {db : PeopleDb} {rows : List PeopleRow} {u : User} {w : PeopleWrite} {tag : PeopleStmt}

theorem mem_lockAdmin {id : Uuid} (h : (PeopleWrite.lockAdmin tenantId id).apply db = .ok (rows, db')) (hu : .user u ∈ rows) :
    u ∈ db'.base.users ∧ u.tenantId = tenantId ∧ u.isActiveAdmin = true := by
  cases h
  obtain ⟨u', hmem, heq⟩ := List.mem_map.mp hu
  cases heq
  obtain ⟨hmem, hlock⟩ := List.mem_filter.mp hmem
  simp only [lockable, User.named, Bool.and_eq_true, decide_eq_true_eq] at hlock
  exact ⟨hmem, hlock.1.1, hlock.2⟩

theorem PeopleWrite.Targets.mem (hw : w.Targets tenantId userId)
    (h : w.apply db = .ok (rows, db')) (hu : u ∈ db.base.users) (hother : u.named tenantId userId = false) : u ∈ db'.base.users := by
  cases hwrite : w.isUserWrite with
  | false =>
    rw [apply_users hwrite h]
    exact hu
  | true =>
    cases w with
    | updateUser t u' data =>
      obtain ⟨rfl, rfl⟩ := hw t u' data rfl
      cases h
      exact mem_updateWhere_of_not hu hother
    | _ => cases hwrite

theorem Harmless.hasAdmin (hw : Harmless w rows) (hdb : db.HasAdmin tenantId) (h : w.apply db = .ok (rows, db')) :
    db'.HasAdmin tenantId := by
  obtain ⟨u, hu, htenant, hadmin⟩ := hdb
  cases hwrite : w.isUserWrite with
  | false => exact ⟨u, by rw [apply_users hwrite h]; exact hu, htenant, hadmin⟩
  | true =>
    cases w with
    | updateUser t id data =>
      cases h
      have hafter := mem_updateWhere_of_mem (p := User.named t id) (f := data.write) hu
      cases hnamed : u.named t id with
      | false => exact ⟨u, by simpa [hnamed] using hafter, htenant, hadmin⟩
      | true =>
        have hrow : PeopleRow.user u ∈ (db.base.users.filter (User.named t id)).map PeopleRow.user :=
          List.mem_map_of_mem (List.mem_filter.mpr ⟨hu, hnamed⟩)
        exact ⟨data.write u, by simpa [hnamed] using hafter, htenant, hw t id data rfl u hrow hadmin⟩
    | _ => cases hwrite

theorem SafeWrites.hasAdmin (hws : SafeWrites tenantId userId ws) (hdb : db.HasAdmin other)
    (h : applyAll peopleWrites ws db = .ok db') : db'.HasAdmin other := by
  rcases hws.safe with hharmless | ⟨id, rows, u, hlock, hu, hne⟩
  · exact applyAll_induct (Q := Harmless) (K := fun s => s.HasAdmin other)
      (fun _ _ _ _ hw hs happly => hw.hasAdmin hs happly) hharmless hdb h
  · -- an admin of the tenant that is not the target stays to the end of the list
    let Spared (s : PeopleDb) : Prop := ∃ x ∈ s.base.users, x.tenantId = other ∧ x.isActiveAdmin = true ∧
      x.named tenantId userId = false
    have hspared : ∀ {part : HeldWrites} {s s' : PeopleDb}, (∀ e ∈ part, e ∈ ws) → Spared s →
        applyAll peopleWrites part s = .ok s' → Spared s' := by
      intro part s s' hpart hs happly
      refine applyAll_induct (Q := fun w _ => w.Targets tenantId userId) (K := Spared) ?_
        (fun e he => hws.targets e (hpart e he)) hs happly
      rintro w _ s s' hw ⟨x, hx, htenant, hadmin, hother⟩ happly
      exact ⟨x, hw.mem happly hx hother, htenant, hadmin, hother⟩
    suffices hend : Spared db' by
      obtain ⟨x, hx, htenant, hadmin, _⟩ := hend
      exact ⟨x, hx, htenant, hadmin⟩
    by_cases hsame : other = tenantId
    · obtain ⟨pre, post, rfl⟩ := List.append_of_mem hlock
      obtain ⟨s₁, _, hrest⟩ := applyAll_append_ok.mp h
      obtain ⟨s₂, happly, hpost⟩ := applyAll_cons_ok.mp hrest
      obtain ⟨hmem, htenant, hadmin⟩ := mem_lockAdmin happly hu
      refine hspared (fun e he => by simp [he]) ⟨u, hmem, hsame ▸ htenant, hadmin, ?_⟩ hpost
      simp [User.named, hne]
    · obtain ⟨x, hx, htenant, hadmin⟩ := hdb
      refine hspared (fun _ he => he) ⟨x, hx, htenant, hadmin, ?_⟩ h
      simp [User.named, htenant, hsame]

def NoUserWrite (ws : HeldWrites) : Prop := ∀ e ∈ ws, e.1.isUserWrite = false

structure Guarded (tenantId userId : Uuid) (asked : Bool) (ws : HeldWrites) : Prop where
  unwritten : NoUserWrite ws
  locked : asked = true → LockedAdmin tenantId userId ws

theorem adds_noUserWrite (hw : w.isUserWrite = false) : Adds C NoUserWrite tag w := by
  refine .of_append fun ws rows hws e he => ?_
  rcases mem_snoc.mp he with he | rfl
  · exact hws e he
  · exact hw

theorem adds_safeWrites (hw : w.isUserWrite = false) : Adds InformedWrite (SafeWrites tenantId userId) tag w := by
  have hnot : ∀ t u data, w ≠ .updateUser t u data := by
    rintro t u data rfl
    cases hw
  refine .of_append fun ws rows hws => ⟨fun e he => ?_, ?_⟩
  · rcases mem_snoc.mp he with he | rfl
    · exact hws.targets e he
    · exact fun t u data heq => absurd heq (hnot t u data)
  · rcases hws.safe with hharmless | ⟨id, rows', u, hlock, hrest⟩
    · left
      intro e he
      rcases mem_snoc.mp he with he | rfl
      · exact hharmless e he
      · exact fun t u data heq => absurd heq (hnot t u data)
    · exact .inr ⟨id, rows', u, List.mem_append_left _ hlock, hrest⟩

theorem keepAnAdmin_gathers (tenantId userId : Uuid) (asked : Bool) :
    (keepAnAdmin tenantId userId asked).Gathers peopleWrites InformedWrite
      (fun _ => Guarded tenantId userId asked) [] := by
  cases asked with
  | false => exact ⟨by simp [NoUserWrite], by simp⟩
  | true =>
    simp only [keepAnAdmin, if_true, assertAnotherActiveAdminExists, Tx.bind_def]
    have hunwritten : NoUserWrite [] := by simp [NoUserWrite]
    have hlocks : (updateMany .lockAdmin (fun db => db.activeAdmins tenantId) (.lockAdmin tenantId)).Gathers
        peopleWrites InformedWrite (Gathered NoUserWrite (.lockAdmin tenantId) []) [] :=
      gathers_updateMany (fun _ => adds_noUserWrite rfl) hunwritten
    refine hlocks.bind fun admins ws hadmins => ?_
    split
    · rename_i hanother
      refine ⟨hadmins.kept, fun _ => ?_⟩
      obtain ⟨row, hrow, hother⟩ := List.any_eq_true.mp hanother
      obtain ⟨id, rows, hmem, hheld⟩ := hadmins.locked row hrow
      cases row with
      | user u => exact ⟨id, rows, u, hheld, hmem, by simpa using hother⟩
      | _ => cases hother
    · trivial

theorem writeUser_gathers {before : User} {data : UserUpdateData} {asked : Bool}
    (hasked : ∀ u : User, before.isActiveAdmin = true → u.isActiveAdmin = true →
      (data.write u).isActiveAdmin = false → asked = true) (hguard : Guarded before.tenantId before.id asked ws) :
    (writeUser before.tenantId before data).Gathers peopleWrites InformedWrite
      (fun _ => SafeWrites before.tenantId before.id) ws := by
  intro s v rows v' hcond hv happly
  have husers := applyAll_users hguard.unwritten hv
  have hnot : ∀ e ∈ ws, ∀ t u d, e.1 ≠ .updateUser t u d := by
    intro e he t u d heq
    have hunwritten := hguard.unwritten e he
    rw [heq] at hunwritten
    cases hunwritten
  have hsafe : SafeWrites before.tenantId before.id (ws ++ [(.updateUser before.tenantId before.id data, rows)]) := by
    refine ⟨fun e he => ?_, ?_⟩
    · rcases mem_snoc.mp he with he | rfl
      · exact fun t u d heq => absurd heq (hnot e he t u d)
      · rintro t u d heq
        cases heq
        exact ⟨rfl, rfl⟩
    · by_cases hlock : asked = true
      · obtain ⟨id, rows', u, hheld, hrest⟩ := hguard.locked hlock
        exact .inr ⟨id, rows', u, List.mem_append_left _ hheld, hrest⟩
      · left
        intro e he
        rcases mem_snoc.mp he with he | rfl
        · exact fun t u d heq => absurd heq (hnot e he t u d)
        · rintro t u d heq x hx hadmin
          cases heq
          by_contra hout
          have hout : (data.write x).isActiveAdmin = false := by simpa using hout
          cases happly
          obtain ⟨x', hmem, hxx⟩ := List.mem_map.mp hx
          cases hxx
          obtain ⟨hmem, hnamed⟩ := List.mem_filter.mp hmem
          rw [husers] at hmem
          exact hlock (hasked x (hcond x hmem hnamed hadmin hout) hadmin hout)
  cases rows with
  | nil => trivial
  | cons row =>
    cases row with
    | user => exact hsafe
    | _ => trivial

theorem adds_guarded {asked : Bool} (hw : w.isUserWrite = false) : Adds InformedWrite (Guarded tenantId userId asked) tag w := by
  refine .of_append fun ws rows hws => ⟨fun e he => ?_, fun hasked => ?_⟩
  · rcases mem_snoc.mp he with he | rfl
    · exact hws.unwritten e he
    · exact hw
  · obtain ⟨id, rows', u, hlock, hrest⟩ := hws.locked hasked
    exact ⟨id, rows', u, List.mem_append_left _ hlock, hrest⟩

theorem applyUpdate_gathers (before : User) (input : UserUpdateInput) :
    (applyUpdate before.tenantId before input).Gathers peopleWrites InformedWrite
      (fun _ => SafeWrites before.tenantId before.id) [] := by
  have hasked : ∀ u : User, before.isActiveAdmin = true → u.isActiveAdmin = true →
      (input.data.write u).isActiveAdmin = false → leavesTenantWithoutAdmin before input = true := by
    intro u hbefore hadmin hout
    obtain ⟨hrole, hstatus⟩ : u.role = .admin ∧ u.status = .active := by
      simpa [User.isActiveAdmin] using hadmin
    cases hr : input.role <;> cases hs : input.status with
    | none => simp_all [leavesTenantWithoutAdmin, UserUpdateInput.data, UserUpdateData.write, User.isActiveAdmin]
    | some status =>
      cases status <;>
        simp_all [leavesTenantWithoutAdmin, UserUpdateInput.data, UserUpdateData.write, User.isActiveAdmin,
          UserWritableStatus.status]
  refine (keepAnAdmin_gathers _ _ _).bind fun _ ws hguard => ?_
  have hteams : Keeps InformedWrite (Guarded before.tenantId before.id (leavesTenantWithoutAdmin before input))
      (input.teamIds.elim (.pure ()) (assertTeamsExist before.tenantId)) :=
    keeps_elim (assertTeamsExist_keeps before.tenantId) input.teamIds
  refine (hteams ws hguard).bind fun _ ws hguard => ?_
  refine (writeUser_gathers hasked hguard).bind fun after ws hsafe => ?_
  have hclear : ∀ tag w, w.isUserWrite = false → w.isTicketWrite = false →
      Adds InformedWrite (SafeWrites before.tenantId before.id) tag w := fun _ _ hw _ => adds_safeWrites hw
  refine (keeps_elim (replaceTeamMemberships_keeps hclear _ _) _ ws hsafe).bind fun _ ws hsafe => ?_
  exact (disarmOnSuspension_keeps hclear _ before input ws hsafe).bind fun _ _ hsafe => hsafe

theorem applyRemove_gathers (user : User) : (applyRemove user.tenantId user).Gathers peopleWrites InformedWrite
      (fun _ => SafeWrites user.tenantId user.id) [] := by
  have hclear : ∀ tag w, w.isUserWrite = false → w.isTicketWrite = false →
      Adds InformedWrite (Guarded user.tenantId user.id user.isActiveAdmin) tag w := fun _ _ hw _ => adds_guarded hw
  refine (keepAnAdmin_gathers _ _ _).bind fun _ ws hguard => ?_
  refine (clearReferences_keeps hclear _ _ (fun _ => adds_guarded rfl) ws hguard).bind fun _ ws hguard => ?_
  refine (revokeInvites_keeps hclear _ _ ws hguard).bind fun _ ws hguard => ?_
  exact (writeUser_gathers (fun _ hbefore _ _ => hbefore) hguard).bind fun _ _ hsafe => hsafe

theorem findUser_tenantId (h : db.findUser tenantId userId = some u) : u.tenantId = tenantId := by
  exact (of_find? h).2.2

def Safe (ws : HeldWrites) : Prop := ∃ tenantId userId, SafeWrites tenantId userId ws

theorem safe_nil : Safe [] := ⟨0, 0, by simp, .inl (by simp)⟩

theorem updateTransaction_gathers (tenantId : Uuid) (principal : SessionPrincipal) (userId : Uuid)
    (input : UserUpdateInput) : (updateTransaction tenantId principal userId input).Gathers peopleWrites
      InformedWrite (fun _ => Safe) [] := by
  simp only [updateTransaction, Tx.bind_def, Tx.bind_query]
  intro s v _ _
  dsimp only
  cases hfound : v.findUser tenantId userId with
  | none => trivial
  | some before =>
    rw [← findUser_tenantId hfound]
    dsimp only
    split
    · trivial
    · exact (applyUpdate_gathers before input).mono fun _ _ hsafe => ⟨_, _, hsafe⟩

theorem removeTransaction_gathers (tenantId userId : Uuid) :
    (removeTransaction tenantId userId).Gathers peopleWrites InformedWrite (fun _ => Safe) [] := by
  simp only [removeTransaction, Tx.bind_def, Tx.bind_query]
  intro s v _ _
  dsimp only
  cases hfound : v.findUser tenantId userId with
  | none => trivial
  | some user =>
    rw [← findUser_tenantId hfound]
    dsimp only
    split
    · exact safe_nil
    · exact (applyRemove_gathers user).mono fun _ _ hsafe => ⟨_, _, hsafe⟩

def informed (s : PeopleSys) (_ : PeopleCall) (tag : PeopleStmt) : Prop := InformedWrite tag s.db

theorem Effect.users_eq {tag : Stmt} {db db' : TicketDb} (h : Effect tag db db') : db'.users = db.users := by
  cases h <;> rfl

/-- In every run in which no user write takes an active admin out on a read that did not find one, a tenant with an
    active admin keeps one. -/
theorem an_admin_remains {db : PeopleDb} (hdb : db.base.Indexed) {tenantId : Uuid}
    (hadmin : db.HasAdmin tenantId) {s : PeopleSys} (hs : Reachable peopleProgram informed (.idle db) s) :
    s.db.HasAdmin tenantId := by
  have hkept : s.db.base.Indexed ∧ s.db.HasAdmin tenantId :=
    peopleRun_keeps (C := InformedWrite) (I := fun db => db.base.Indexed ∧ db.HasAdmin tenantId) (P := Safe)
      (fun _ h => h.1)
      (fun tag db base h _ heffect => by
        refine ⟨heffect.indexed h.1, ?_⟩
        obtain ⟨u, hu, hrest⟩ := h.2
        exact ⟨u, by simpa [PeopleDb.withBase, heffect.users_eq] using hu, hrest⟩)
      (fun ws db db' h hsafe happly => by
        obtain ⟨tenantId, userId, hsafe⟩ := hsafe
        exact ⟨applyAll_indexed h.1 happly, hsafe.hasAdmin h.2 happly⟩)
      updateTransaction_gathers removeTransaction_gathers ⟨hdb, hadmin⟩ hs
  exact hkept.2

def adminOne : User := { id := 1, tenantId := 1, role := .admin, status := .active }

def agentTwo : User := { id := 2, tenantId := 1, status := .active }

def adminPrincipal (userId : Uuid) : SessionPrincipal :=
  { userId, role := .admin, permissions := [.userSetRole, .assignmentRuleWrite], teamIds := [] }

def adminAndAgent : PeopleDb := { base := { users := [adminOne, agentTwo] } }

theorem adminAndAgent_indexed : adminAndAgent.base.Indexed := show Indexed adminAndAgent.base.tickets by decide

def promoteThenSuspend : List (Move PeopleCall) :=
  [.spawn (.update 1 (adminPrincipal 1) 2 { role := some .admin }), .step 0, .step 0, .step 0,
    .spawn (.update 1 (adminPrincipal 2) 1 { status := some .suspended }),
    .step 1, .step 1, .step 1, .step 1, .step 1, .step 1, .step 1]

theorem an_admin_remains_promoteThenSuspend : ∃ s : PeopleSys,
    s.db.base.users = [{ adminOne with status := .suspended }, { agentTwo with role := .admin }] ∧
      s.db.HasAdmin 1 := by
  have hrun : (run peopleProgram (fun s _ tag => decide (InformedWrite tag s.db)) promoteThenSuspend
      (.idle adminAndAgent)).map (fun s => s.db.base.users) =
        some [{ adminOne with status := .suspended }, { agentTwo with role := .admin }] := by
    decide +kernel
  obtain ⟨s, hs, husers⟩ := Option.map_eq_some_iff.mp hrun
  have hreach : Reachable peopleProgram informed (.idle adminAndAgent) s :=
    Reachable.mono (fun s _ tag (h : decide (InformedWrite tag s.db) = true) => of_decide_eq_true h) (reachable_of_run hs)
  exact ⟨s, husers, an_admin_remains adminAndAgent_indexed (by decide) hreach⟩

/-- Before that, a request to suspend the agent read an agent; it writes last. -/
def suspendedMeanwhile : List (Move PeopleCall) :=
  [.spawn (.update 1 (adminPrincipal 1) 2 { status := some .suspended }), .step 0,
    .spawn (.update 1 (adminPrincipal 1) 2 { role := some .admin }), .step 1, .step 1, .step 1,
    .spawn (.update 1 (adminPrincipal 2) 1 { status := some .suspended }),
    .step 2, .step 2, .step 2, .step 2, .step 2, .step 2, .step 2,
    .step 0, .step 0, .step 0]

theorem last_admin_suspended_as_agent :
    ¬ ∀ db : PeopleDb, db.base.Indexed → ∀ tenantId, db.HasAdmin tenantId → ∀ s, PeopleRun db s →
      s.db.HasAdmin tenantId := by
  intro hclaim
  have hrun : (run peopleProgram (fun _ _ _ => true) suspendedMeanwhile (.idle adminAndAgent)).map
      (fun s => decide (s.db.HasAdmin 1)) = some false := by
    decide +kernel
  obtain ⟨s, hreach, hnone⟩ := ends_of_run_any hrun
  exact of_decide_eq_false hnone (hclaim adminAndAgent adminAndAgent_indexed 1 (by decide) s hreach)

end WhatsappCrm
