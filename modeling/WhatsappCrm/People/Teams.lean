/-
Purpose: `TeamsService.update` (`people/teams.service.ts`): a team's members replaced by a list, any number of requests at
  once.
-/
import WhatsappCrm.Common.KeysetCursor
import WhatsappCrm.Lib.Serial
import WhatsappCrm.Lib.Table

namespace WhatsappCrm.Teams

open Interleaving Table

variable (held : List Uuid)

structure Team where
  name : String
  description : Option String
  /-- Its rows of `team_members`. -/
  members : List Uuid
  /-- How many transactions have written the row. -/
  turn : Nat := 0
deriving DecidableEq

structure TeamDb where
  team : Option Team
  users : List Uuid
  names : List String := []
  revoked : List Uuid := []

inductive TeamError where
  | teamNotFound
  | unknownUsers (userIds : List Uuid)
  | nameTaken (name : String)
  /-- A row of `team_members` that is there already. -/
  | duplicateMember
  /-- One whose user is not. -/
  | foreignKey
  | conflict
deriving DecidableEq

structure TeamUpdateInput where
  name : Option String := none
  description : Option (Option String) := none
  memberUserIds : Option (List Uuid) := none

inductive TeamWrite where
  | updateTeam (name : Option String) (description : Option (Option String))
  | deleteMembers (userIds : List Uuid)
  | createMembers (userIds : List Uuid)
  | revoke (userIds : List Uuid)

inductive TeamRow where
  | locked (team : Team)
  | user (userId : Uuid)
deriving DecidableEq

/-- `citext` compares the small letters. -/
def sameName (a b : String) : Bool := a.toLower = b.toLower

def Team.written (name : Option String) (description : Option (Option String)) (team : Team) : Team :=
  { team with name := name.getD team.name, description := description.getD team.description, turn := team.turn + 1 }

def TeamWrite.onTeam (db : TeamDb) (team : Team) : TeamWrite → Except TeamError (List TeamRow × TeamDb)
  | .updateTeam name description =>
    match name.filter fun name => db.names.any (sameName name) with
    | some name => .error (.nameTaken name)
    | none =>
      .ok ([.locked team], { db with team := some (team.written name description) })
  | .deleteMembers userIds =>
    .ok ((team.members.filter (· ∈ userIds)).map .user,
      { db with team := some { team with members := team.members.filter (· ∉ userIds) } })
  | .createMembers userIds =>
    if userIds.any (· ∈ team.members) then .error .duplicateMember
    else if userIds.any (· ∉ db.users) then .error .foreignKey
    else .ok (userIds.map .user, { db with team := some { team with members := team.members ++ userIds } })
  | .revoke userIds => .ok (userIds.map .user, { db with revoked := db.revoked ++ userIds })

def teamWrites : Writes TeamDb TeamWrite TeamRow TeamError where
  apply w db :=
    match db.team with
    | none => .ok ([], db)
    | some team => (w.onTeam db team).map fun (rows, db') => (rows, if rows = [] then db else db')
  conflict := .conflict

/-- The update of the row carries the members that the request has read. -/
inductive TeamStmt where
  | read
  | updateTeam (held : List Uuid)
  | write
  | commit

abbrev TeamTx := Tx TeamStmt TeamDb TeamWrite TeamRow TeamError

def unknownUsers (users userIds : List Uuid) : List Uuid := userIds.eraseDups.filter (· ∉ users)

def assertUsersExist (userIds : List Uuid) : TeamTx Unit := do
  if userIds = [] then pure ()
  else
    let unknown ← .query .read fun db => unknownUsers db.users userIds
    if unknown = [] then pure () else .abort (.unknownUsers unknown)

def forUsers (userIds : List Uuid) (w : TeamWrite) : TeamTx Unit := do
  if userIds = [] then pure ()
  else
    let _ ← .execute .write w
    pure ()

/-- `replaceMembers`: those that came and those that went. -/
def replaceMembers (wantedIds : List Uuid) : TeamTx (List Uuid) := do
  forUsers (removed held wantedIds) (.deleteMembers (removed held wantedIds))
  forUsers (added held wantedIds) (.createMembers (added held wantedIds))
  pure (added held wantedIds ++ removed held wantedIds)

def moveMembers (input : TeamUpdateInput) : TeamTx (List Uuid) := do
  match input.memberUserIds with
  | none => pure []
  | some wantedIds =>
    let affectedUserIds ← replaceMembers held wantedIds
    forUsers affectedUserIds (.revoke affectedUserIds)
    pure affectedUserIds

def writeTeam (input : TeamUpdateInput) : TeamTx (List Uuid) := do
  match ← .execute (.updateTeam held) (.updateTeam input.name input.description) with
  | [] => .abort .teamNotFound
  | _ => moveMembers held input

/-- `update`, up to the response. It answers the users whose caches are purged. -/
def updateTeam (input : TeamUpdateInput) : TeamTx (List Uuid) := do
  match ← .query .read TeamDb.team with
  | none => .abort .teamNotFound
  | some before =>
    assertUsersExist (input.memberUserIds.getD [])
    writeTeam before.members input

def teamProgram (input : TeamUpdateInput) : Prog TeamStmt TeamDb (Except TeamError (List Uuid)) :=
  (updateTeam input).run teamWrites .commit []

def undisturbed (db : TeamDb) : TeamStmt → Bool
  | .updateTeam held => db.team.all (·.members = held)
  | _ => true

variable {db db' : TeamDb} {team : Team} {w : TeamWrite} {rows : List TeamRow} {input : TeamUpdateInput}
  {userIds affectedUserIds : List Uuid}

def TeamUpdateInput.members (input : TeamUpdateInput) (held : List Uuid) : List Uuid :=
  input.memberUserIds.elim held (replaced held)

def TeamUpdateInput.affected (input : TeamUpdateInput) (held : List Uuid) : List Uuid :=
  input.memberUserIds.elim [] fun wantedIds => added held wantedIds ++ removed held wantedIds

theorem exec_forUsers (db : TeamDb) (userIds : List Uuid) (w : TeamWrite) (hteam : db.team = some team)
    (h : w.onTeam db team = .ok (rows, db')) (hnone : userIds = [] ∨ rows = [] → db' = db) :
    (forUsers userIds w).exec teamWrites db = .ok ((), db') := by
  unfold forUsers
  split
  · rename_i hids
    rw [hnone (.inl hids)]
    rfl
  · have happly : teamWrites.apply w db = .ok (rows, db') := by
      simp only [teamWrites, hteam, h, Except.map]
      split
      · rename_i hrows
        rw [hnone (.inr hrows)]
      · rfl
    simp [Tx.exec, happly]

theorem with_team (hteam : db.team = some team) : { db with team := some team } = db := by rw [← hteam]

theorem exec_moveMembers (db : TeamDb) (team : Team) (hteam : db.team = some team)
    (hknown : unknownUsers db.users (input.memberUserIds.getD []) = []) :
    (moveMembers team.members input).exec teamWrites db = .ok (input.affected team.members,
      { db with team := some { team with members := input.members team.members }
                revoked := db.revoked ++ input.affected team.members }) := by
  cases hwanted : input.memberUserIds with
  | none =>
    have hdb : (moveMembers team.members input).exec teamWrites db = .ok ([], db) := by simp [moveMembers, hwanted, Tx.exec]
    simpa [TeamUpdateInput.affected, TeamUpdateInput.members, hwanted, with_team hteam] using hdb
  | some wantedIds =>
    let leaving := removed team.members wantedIds
    let joining := added team.members wantedIds
    have hleft : (forUsers leaving (.deleteMembers leaving)).exec teamWrites db =
        .ok ((), { db with team := some { team with members := team.members.filter (· ∉ leaving) } }) := by
      refine exec_forUsers _ _ _ hteam rfl fun hnone => ?_
      have hkept : team.members.filter (· ∉ leaving) = team.members := by
        refine List.filter_eq_self.mpr fun userId hmem => decide_eq_true fun hin => ?_
        rcases hnone with hnone | hnone
        · simp [hnone] at hin
        · simpa [hin] using List.filter_eq_nil_iff.mp (List.map_eq_nil_iff.mp hnone) userId hmem
      rw [hkept, with_team hteam]
    have hcreate : TeamWrite.onTeam { db with team := some { team with members := team.members.filter (· ∉ leaving) } }
        { team with members := team.members.filter (· ∉ leaving) } (.createMembers joining) =
        .ok (joining.map .user, { db with team := some { team with members := replaced team.members wantedIds } }) := by
      have hnew : ¬ joining.any (· ∈ team.members.filter (· ∉ leaving)) = true := by
        simp only [List.any_eq_true, decide_eq_true_eq, not_exists, not_and]
        exact fun userId hjoins hheld => (mem_added.mp hjoins).2 (List.mem_filter.mp hheld).1
      have hthere : ¬ joining.any (· ∉ db.users) = true := by
        simp only [List.any_eq_true, decide_eq_true_eq, not_exists, not_and, not_not]
        intro userId hjoins
        simp only [unknownUsers, hwanted, Option.getD_some, List.filter_eq_nil_iff, List.mem_eraseDups, decide_eq_true_eq,
          not_not] at hknown
        exact hknown userId (mem_added.mp hjoins).1
      simp only [TeamWrite.onTeam]
      rw [if_neg hnew, if_neg hthere]
      rfl
    have hjoined := exec_forUsers _ joining _ rfl hcreate fun hnone => by
      have hnone : joining = [] := hnone.elim id List.map_eq_nil_iff.mp
      simp [replaced, leaving, show added team.members wantedIds = [] from hnone]
    have hrevoked := exec_forUsers { db with team := some { team with members := replaced team.members wantedIds } }
      (joining ++ leaving) (.revoke (joining ++ leaving)) rfl rfl fun hnone => by
        have hnone : joining ++ leaving = [] := hnone.elim id List.map_eq_nil_iff.mp
        simp [hnone]
    simp only [moveMembers, hwanted, TeamUpdateInput.affected, TeamUpdateInput.members, Option.elim_some]
    refine Tx.exec_bind.mpr ⟨joining ++ leaving, _, ?_, Tx.exec_bind.mpr ⟨(), _, hrevoked, rfl⟩⟩
    exact Tx.exec_bind.mpr ⟨(), _, hleft, Tx.exec_bind.mpr ⟨(), _, hjoined, rfl⟩⟩

def nameTaken (db : TeamDb) (input : TeamUpdateInput) : Option String := input.name.filter fun name => db.names.any (sameName name)

theorem apply_updateTeam (hteam : db.team = some team) (hname : nameTaken db input = none) :
    teamWrites.apply (.updateTeam input.name input.description) db =
      .ok ([.locked team], { db with team := some (team.written input.name input.description) }) := by
  simp only [nameTaken] at hname
  simp [teamWrites, hteam, TeamWrite.onTeam, hname, Except.map]

theorem apply_nothing (h : teamWrites.apply w db = .ok ([], db')) : db' = db := by
  simp only [teamWrites] at h
  cases hteam : db.team with
  | none =>
    rw [hteam] at h
    cases h
    rfl
  | some team =>
    rw [hteam] at h
    dsimp only at h
    cases hw : w.onTeam db team with
    | error =>
      rw [hw] at h
      cases h
    | ok =>
      rw [hw] at h
      obtain ⟨hrows, rfl⟩ := Prod.mk.inj (Except.ok.inj h)
      exact if_pos hrows

theorem exec_assertUsersExist (h : unknownUsers db.users userIds = []) :
    (assertUsersExist userIds).exec teamWrites db = .ok ((), db) := by
  unfold assertUsersExist
  split
  · rfl
  · simp [Tx.exec, h]

def TeamUpdateInput.write (input : TeamUpdateInput) (team : Team) (db : TeamDb) : TeamDb :=
  { db with
    team := some { team.written input.name input.description with members := input.members team.members }
    revoked := db.revoked ++ input.affected team.members }

theorem exec_updateTeam (hteam : db.team = some team) (hknown : unknownUsers db.users (input.memberUserIds.getD []) = [])
    (hname : nameTaken db input = none) :
    (updateTeam input).exec teamWrites db = .ok (input.affected team.members, input.write team db) := by
  have hmove := exec_moveMembers { db with team := some (team.written input.name input.description) } _ rfl hknown
  refine Tx.exec_bind.mpr ⟨some team, db, by simp [Tx.query, Tx.exec, hteam], ?_⟩
  refine Tx.exec_bind.mpr ⟨(), db, exec_assertUsersExist hknown, ?_⟩
  exact Tx.exec_bind.mpr ⟨_, _, Tx.exec_execute.mpr (apply_updateTeam hteam hname), hmove⟩

def turnOf (db : TeamDb) : Nat := db.team.elim 0 (·.turn)

def teamRules (users : List Uuid) (names : List String) : SerialRules TeamStmt TeamDb TeamUpdateInput TeamError where
  inv db := db.users = users ∧ db.names = names ∧ db.team.isSome = true
  later := Since turnOf
  cond tag db := undisturbed db tag = true
  refusal e := e ≠ .duplicateMember
  body input db := ((updateTeam input).exec teamWrites db).toOption.map (·.2)

theorem write_of_body (hteam : db.team = some team) (h : (teamRules users names).body input db = some db') :
    unknownUsers db.users (input.memberUserIds.getD []) = [] ∧ nameTaken db input = none ∧ db' = input.write team db := by
  simp only [teamRules] at h
  cases hexec : (updateTeam input).exec teamWrites db with
  | error =>
    rw [hexec] at h
    cases h
  | ok answer =>
    rw [hexec] at h
    cases h
    obtain ⟨_, _, hread, hrest⟩ := Tx.exec_bind.mp hexec
    simp only [Tx.query, Tx.exec, hteam, Except.ok.injEq, Prod.mk.injEq] at hread
    obtain ⟨rfl, rfl⟩ := hread
    obtain ⟨_, db₁, hassert, hrest⟩ := Tx.exec_bind.mp hrest
    have hknown : unknownUsers db.users (input.memberUserIds.getD []) = [] ∧ db = db₁ := by
      unfold assertUsersExist at hassert
      split at hassert
      · rename_i hnone
        cases hassert
        exact ⟨by simp [hnone, unknownUsers], rfl⟩
      · simp only [Tx.bind_def, Tx.bind_query, Tx.exec] at hassert
        split at hassert
        · rename_i hknown
          cases hassert
          exact ⟨hknown, rfl⟩
        · cases hassert
    obtain ⟨hknown, rfl⟩ := hknown
    obtain ⟨_, _, hupdate, -⟩ := Tx.exec_bind.mp hrest
    have hname : nameTaken db input = none := by
      have happly := Tx.exec_execute.mp hupdate
      simp only [teamWrites, hteam, TeamWrite.onTeam] at happly
      split at happly
      · cases happly
      · assumption
    rw [exec_updateTeam hteam hknown hname] at hexec
    cases hexec
    exact ⟨hknown, hname, rfl⟩

theorem teamRules_sound (users : List Uuid) (names : List String) : (teamRules users names).Sound where
  refl db := .inr rfl
  trans := Since.trans
  keeps {input db db'} hinv h := by
    obtain ⟨husers, hnames, hsome⟩ := hinv
    obtain ⟨team, hteam⟩ := Option.isSome_iff_exists.mp hsome
    obtain ⟨-, -, rfl⟩ := write_of_body hteam h
    exact ⟨⟨husers, hnames, rfl⟩, .inl (by simp [turnOf, hteam, TeamUpdateInput.write, Team.written])⟩

theorem writeTeam_serial (input : TeamUpdateInput)
    (hknown : unknownUsers users (input.memberUserIds.getD []) = []) (b : TeamDb) :
    ((writeTeam held input).run teamWrites .commit []).Serial (teamRules users names) input b := by
  simp only [writeTeam, Tx.bind_def, Tx.bind_execute, Tx.run, Tx.runAs]
  rintro s ⟨husers, hnames, hsome⟩ _ hcond
  obtain ⟨team, hteam⟩ := Option.isSome_iff_exists.mp hsome
  obtain rfl : team.members = held := by simpa [teamRules, undisturbed, hteam] using hcond
  dsimp only [matched, applyAll]
  cases hname : nameTaken s input with
  | some name =>
    have happly : teamWrites.apply (.updateTeam input.name input.description) s = .error (.nameTaken name) := by
      simp only [nameTaken] at hname
      simp [teamWrites, hteam, TeamWrite.onTeam, hname, Except.map]
    rw [happly]
    refine .inl ⟨rfl, ?_, trivial⟩
    rintro _ ⟨⟩
    exact ⟨_, rfl, by rintro ⟨⟩⟩
  | none =>
    have hlock := apply_updateTeam hteam hname
    have hmove := exec_moveMembers { s with team := some (team.written input.name input.description) } _ rfl (husers ▸ hknown)
    have hrefusal : ∀ e, (moveMembers team.members input).exec teamWrites
        { s with team := some (team.written input.name input.description) } = .error e → e ≠ .duplicateMember := by
      intro e he
      cases hmove.symm.trans he
    rw [hlock]
    refine .inl ⟨rfl, Tx.runAs_ended hrefusal, ?_⟩
    refine Tx.serial_of_lock apply_nothing (show TeamError.conflict ≠ .duplicateMember by decide) hlock (fun t hinv hlater => ?_) (fun affected s' hexec => ?_) hrefusal
    · obtain ⟨-, hnames', hsome'⟩ := hinv
      obtain ⟨team', hteam'⟩ := Option.isSome_iff_exists.mp hsome'
      refine hlater.symm.imp_right fun hless => ⟨_, _, apply_updateTeam hteam' ?_, fun hsame => ?_⟩
      · rw [nameTaken, hnames', ← hnames]
        exact hname
      · simp only [List.cons.injEq, TeamRow.locked.injEq, and_true] at hsame
        simp [turnOf, hteam, hteam', hsame] at hless
    · cases hmove.symm.trans hexec
      simp only [teamRules, exec_updateTeam hteam (husers ▸ hknown) hname]
      rfl

theorem teamProgram_serial (users : List Uuid) (names : List String) (input : TeamUpdateInput) (b : TeamDb) :
    (teamProgram input).Serial (teamRules users names) input b := by
  have hwrite : ∀ held, unknownUsers users (input.memberUserIds.getD []) = [] → ∀ r,
      (writeTeam held input).run teamWrites .commit [] ≠ .pure r := by
    simp [writeTeam, Tx.runAs]
  simp only [teamProgram, updateTeam, Tx.run, Tx.runAs, Tx.bind_def, Tx.bind_query]
  rintro s ⟨husers, hnames, hsome⟩ _ _
  obtain ⟨team, hteam⟩ := Option.isSome_iff_exists.mp hsome
  simp only [applyAll, Except.map, hteam]
  by_cases hids : input.memberUserIds.getD [] = []
  · have hknown : unknownUsers users (input.memberUserIds.getD []) = [] := by simp [hids, unknownUsers]
    simp only [assertUsersExist, if_pos hids, Tx.pure_def, Tx.bind_pure_left]
    exact .inl ⟨trivial, fun r hr => absurd hr (hwrite _ hknown r), writeTeam_serial _ input hknown s⟩
  · simp only [assertUsersExist, if_neg hids, Tx.bind_def, Tx.bind_query, Tx.bind, Tx.runAs]
    refine .inl ⟨trivial, by rintro _ ⟨⟩, ?_⟩
    rintro s' ⟨husers', -, -⟩ _ _
    simp only [applyAll, Except.map, husers']
    by_cases hknown : unknownUsers users (input.memberUserIds.getD []) = []
    · simp only [if_pos hknown, Tx.pure_def, Tx.bind_pure_left]
      exact .inl ⟨trivial, fun r hr => absurd hr (hwrite _ hknown r), writeTeam_serial _ input hknown s'⟩
    · simp only [if_neg hknown, Tx.bind, Tx.runAs]
      refine .inl ⟨trivial, ?_, trivial⟩
      rintro _ ⟨⟩
      exact ⟨_, rfl, by rintro ⟨⟩⟩

def lastList (order : List TeamUpdateInput) : List Uuid :=
  order.foldl (fun held input => input.memberUserIds.getD held) held

theorem mem_lastList (h : ∀ userId, userId ∈ a ↔ userId ∈ b) :
    ∀ userId, userId ∈ lastList a order ↔ userId ∈ lastList b order := by
  induction order generalizing a b with
  | nil => exact h
  | cons input order ih =>
    apply ih
    cases hwanted : input.memberUserIds with
    | none => simpa [hwanted] using h
    | some => simp [hwanted]

theorem members_of_order (hteam : db.team = some team)
    {order : List TeamUpdateInput} (h : order.foldlM (fun db input => (teamRules users names).body input db) db = some db') :
    ∃ team', db'.team = some team' ∧
      (∀ userId, userId ∈ team'.members ↔ userId ∈ lastList team.members order) ∧
      (∀ userId ∈ db.revoked, userId ∈ db'.revoked) ∧
      ∀ userId, ¬ (userId ∈ team.members ↔ userId ∈ team'.members) → userId ∈ db'.revoked := by
  induction order generalizing db team with
  | nil =>
    cases h
    exact ⟨team, hteam, fun _ => Iff.rfl, fun _ h => h, fun _ h => absurd Iff.rfl h⟩
  | cons input order ih =>
    obtain ⟨db₁, hbody, hrest⟩ := Option.bind_eq_some_iff.mp h
    obtain ⟨-, -, rfl⟩ := write_of_body hteam hbody
    obtain ⟨team', hteam', hmembers, hrevoked, hmoved⟩ := ih rfl hrest
    have hset : ∀ userId, userId ∈ input.members team.members ↔ userId ∈ input.memberUserIds.getD team.members := by
      intro userId
      cases hwanted : input.memberUserIds with
      | none => simp [TeamUpdateInput.members, hwanted]
      | some => simp [TeamUpdateInput.members, hwanted, mem_replaced]
    refine ⟨team', hteam', fun userId => (hmembers userId).trans ?_, fun userId h => ?_, fun userId hdiff => ?_⟩
    · exact mem_lastList hset userId
    · exact hrevoked userId (List.mem_append.mpr (.inl h))
    · by_cases hfirst : userId ∈ team.members ↔ userId ∈ input.members team.members
      · exact hmoved userId fun hrest => hdiff (hfirst.trans hrest)
      · refine hrevoked userId (List.mem_append.mpr (.inr ?_))
        cases hwanted : input.memberUserIds with
        | none => simp [TeamUpdateInput.members, hwanted] at hfirst
        | some =>
          simp only [TeamUpdateInput.members, hwanted, Option.elim_some, mem_replaced] at hfirst
          simp only [TeamUpdateInput.affected, hwanted, Option.elim_some, List.mem_append, mem_added, mem_removed]
          tauto

/-- While each update finds the members that it has read: the members are the list of the last one carried out, none
    fails for a member that is there already, and whoever has come or gone has been revoked. -/
theorem team_is_one_list (db : TeamDb) (team : Team) (hteam : db.team = some team)
    {s : Sys TeamStmt TeamDb TeamUpdateInput (Except TeamError (List Uuid))}
    (hr : Reachable teamProgram (fun s _ tag => undisturbed s.db tag = true) (.idle db) s) :
    (∀ e ∈ s.calls, e.2 ≠ .pure (.error .duplicateMember)) ∧ ∃ order : List TeamUpdateInput, order.Perm s.committed ∧
      ∃ team', s.db.team = some team' ∧
        (∀ userId, userId ∈ team'.members ↔ userId ∈ lastList team.members order) ∧
        ∀ userId, ¬ (userId ∈ team.members ↔ userId ∈ team'.members) → userId ∈ s.db.revoked := by
  have hstart : ∀ (input : TeamUpdateInput) r, teamProgram input ≠ .pure r := by
    simp [teamProgram, updateTeam, Tx.runAs]
  obtain ⟨hserial, order, hperm, hfold⟩ := hr.serial (teamRules_sound db.users db.names) (teamProgram_serial _ _) hstart
    (fun _ _ _ h => h) ⟨rfl, rfl, by simp [hteam]⟩
  refine ⟨fun e he hdup => hserial.refusals e he _ hdup rfl, order, hperm, ?_⟩
  obtain ⟨team', hteam', hmembers, -, hrevoked⟩ := members_of_order hteam hfold
  exact ⟨team', hteam', hmembers, hrevoked⟩

def adasTeam : TeamDb where
  team := some { name := "Support", description := none, members := [1] }
  users := [1, 2, 3]

def listOf (memberUserIds : List Uuid) : TeamUpdateInput := { memberUserIds := some memberUserIds }

/-- One request after the other. -/
theorem team_is_one_list_inTurn :
    ∃ s, Reachable teamProgram (fun s _ tag => undisturbed s.db tag = true) (.idle adasTeam) s ∧
      s.db.team.map (·.members) = some [3] ∧
      ∃ order : List TeamUpdateInput, order.Perm s.committed ∧ ∃ team', s.db.team = some team' ∧
        (∀ userId, userId ∈ team'.members ↔ userId ∈ lastList [1] order) ∧
        ∀ userId, ¬ (userId ∈ [1] ↔ userId ∈ team'.members) → userId ∈ s.db.revoked := by
  have hrun : (run teamProgram (fun s _ tag => undisturbed s.db tag)
      ([.spawn (listOf [2]), .spawn (listOf [3])] ++ List.replicate 7 (.step 0) ++ List.replicate 7 (.step 1))
      (.idle adasTeam)).map (fun s => s.db.team.map (·.members)) = some (some [3]) := by
    decide +kernel
  obtain ⟨s, hs, hend⟩ := Option.map_eq_some_iff.mp hrun
  have hreach := reachable_of_run hs
  exact ⟨s, hreach, hend, (team_is_one_list adasTeam { name := "Support", description := none, members := [1] } rfl hreach).2⟩

/-- Both have read that Ada is the one member: the team ends with Bob and Cem, or the second fails. -/
theorem team_is_two_lists :
    (run teamProgram (fun _ _ _ => true) ([.spawn (listOf [2]), .spawn (listOf [3]), .step 0, .step 1] ++
        List.replicate 6 (.step 0) ++ List.replicate 6 (.step 1)) (.idle adasTeam)).map
      (fun s => (s.committed.length, s.db.team.map (·.members))) = some (2, some [2, 3]) ∧
    (run teamProgram (fun _ _ _ => true) ([.spawn (listOf [2]), .spawn (listOf [2]), .step 0, .step 1] ++
        List.replicate 6 (.step 0) ++ List.replicate 4 (.step 1)) (.idle adasTeam)).map
      (fun s => s.calls.map fun e => e.2.result?.map fun r => decide (r = .error .duplicateMember)) =
        some [some false, some true] := by
  constructor <;> decide +kernel

end WhatsappCrm.Teams
