/-
Purpose: `UsersService` (`people/users.service.ts`): each change of somebody is one transaction that reads the target
  first, without a lock. Then these and the ticket operations, interleaved.
-/
import Mathlib.Data.List.Dedup
import WhatsappCrm.People.Store
import WhatsappCrm.Tickets.Invariants

namespace WhatsappCrm

open Interleaving

/-- `UserUpdateResponse`: the row as written, and how many workflows the change switched off. -/
structure UserUpdated where
  user : User
  workflowsDisarmed : Nat

namespace PeopleDb

variable (db : PeopleDb)

def activeAdmins (tenantId : Uuid) : List Uuid :=
  (db.base.users.filter fun u => u.tenantId = tenantId ∧ u.isActiveAdmin = true).map (·.id)

def unknownTeams (tenantId : Uuid) (teamIds : List Uuid) : List Uuid :=
  teamIds.filter fun teamId => ¬ db.base.teams.contains (tenantId, teamId)

def teamsHeld (tenantId userId : Uuid) : List Uuid :=
  (db.base.teamMembers.filter fun m => m.tenantId = tenantId ∧ m.userId = userId).map (·.teamId)

end PeopleDb

def assertAnotherActiveAdminExists (tenantId excludingUserId : Uuid) : PeopleTx Unit := do
  let admins ← updateMany .lockAdmin (fun db => db.activeAdmins tenantId) (.lockAdmin tenantId)
  let another := admins.any fun
    | .user u => u.id ≠ excludingUserId
    | _ => false
  if another then pure () else .abort .lastAdminRequired

def keepAnAdmin (tenantId userId : Uuid) (asked : Bool) : PeopleTx Unit :=
  if asked then assertAnotherActiveAdminExists tenantId userId else pure ()

def assertTeamsExist (tenantId : Uuid) (teamIds : List Uuid) : PeopleTx Unit := do
  let unknown ← .query .scan fun db => db.unknownTeams tenantId teamIds
  if unknown = [] then pure () else .abort (.unknownReference unknown)

/-- `replaceTeamMemberships`: leave the teams that are no longer wanted, join those that are not held. -/
def replaceTeamMemberships (tenantId userId : Uuid) (teamIds : List Uuid) : PeopleTx Unit := do
  let held ← .query .scan fun db => db.teamsHeld tenantId userId
  let _ ← updateEach (fun _ => .clear) (.deleteMembership tenantId userId) (held.filter (!teamIds.contains ·))
  let _ ← updateEach (fun _ => .clear) (.createMembership tenantId userId) ((teamIds.filter (!held.contains ·)).dedup)
  pure ()

/-- Disarms every workflow that names this user, and reports how many. -/
def disarmWorkflowsNaming (tenantId userId : Uuid) (reason : WorkflowBrokenReason) : PeopleTx Nat := do
  let naming ← .query .scan fun db =>
    (db.workflowReferences.filter fun r => r.tenantId = tenantId ∧ r.userId = some userId).map (·.workflowId)
  if naming = [] then pure 0
  else
    let disarmed ← updateMany (fun _ => .clear)
      (fun db => (db.workflows.filter fun f => f.tenantId = tenantId ∧ naming.contains f.id).map (·.id))
      fun id => .disarmWorkflow tenantId id reason
    pure disarmed.length

/-- `user.update`: the row as it was when it was locked, or nothing under this id. -/
def writeUser (tenantId : Uuid) (before : User) (data : UserUpdateData) : PeopleTx User := do
  match ← .execute (.writeUser before data) (.updateUser tenantId before.id data) with
  | .user u :: _ => pure (data.write u)
  | _ => .abort (.userNotFound before.id)

def UserUpdateInput.data (input : UserUpdateInput) : UserUpdateData :=
  { name := input.displayName
    role := input.role
    status := input.status.map (·.status)
    maxConcurrentTickets := input.maxConcurrentTickets }

/-- `leavesTenantWithoutAdmin`: the requested change takes the target out of the active-admin set. -/
def leavesTenantWithoutAdmin (before : User) (input : UserUpdateInput) : Bool :=
  if before.isActiveAdmin = false then false
  else
    let demoted := input.role.any (· ≠ .admin)
    let deactivated := input.status.any (· ≠ .active)
    demoted || deactivated

/-- The same cascade the removal runs, on the other transition that makes a user unusable to the workflows. -/
def disarmOnSuspension (tenantId : Uuid) (before : User) (input : UserUpdateInput) : PeopleTx Nat :=
  if input.status = some .suspended ∧ before.status ≠ .suspended then
    disarmWorkflowsNaming tenantId before.id .referenceSuspended
  else pure 0

def applyUpdate (tenantId : Uuid) (before : User) (input : UserUpdateInput) : PeopleTx UserUpdated := do
  keepAnAdmin tenantId before.id (leavesTenantWithoutAdmin before input)
  input.teamIds.elim (pure ()) (assertTeamsExist tenantId)
  let after ← writeUser tenantId before input.data
  input.teamIds.elim (pure ()) (replaceTeamMemberships tenantId before.id)
  let workflowsDisarmed ← disarmOnSuspension tenantId before input
  pure { user := after, workflowsDisarmed }

def updateTransaction (tenantId : Uuid) (principal : SessionPrincipal) (userId : Uuid)
    (input : UserUpdateInput) : PeopleTx UserUpdated := do
  match ← .query (.readUser userId) fun db => db.findUser tenantId userId with
  | none => .abort (.userNotFound userId)
  | some before =>
    if input.maxConcurrentTickets.isSome && !principal.permissions.contains .assignmentRuleWrite then
      .abort .capacityChangeNotPermitted
    else applyUpdate tenantId before input

def updateUser (tenantId : Uuid) (principal : SessionPrincipal) (userId : Uuid) (input : UserUpdateInput) :
    PeopleProg (Except PeopleError UserUpdated) :=
  let mayChangeRole : Except PeopleError Unit := match input.role with
    | none => .ok ()
    | some role => assertMayChangeRole userId role principal
  match mayChangeRole with
  | .error e => .pure (.error e)
  | .ok () => (updateTransaction tenantId principal userId input).run peopleWrites .commit []

/-- The reverse index drops the rows naming the user, where a workflow was disarmed. -/
def dropReferences (tenantId userId : Uuid) (workflowsDisarmed : Nat) : PeopleTx Unit :=
  if 0 < workflowsDisarmed then do
    let _ ← updateMany (fun _ => .clear)
      (fun db => (db.workflowReferences.filter fun r =>
        r.tenantId = tenantId ∧ r.userId = some userId).map (·.id))
      (.deleteReference tenantId userId)
    pure ()
  else pure ()

/-- What the removal clears: nothing is left pointing at somebody who is gone. -/
def clearReferences (tenantId userId : Uuid) : PeopleTx Unit := do
  let _ ← updateMany (fun _ => .clear)
    (fun db => (db.conversationHolders.filter fun c =>
      c.tenantId = tenantId ∧ c.assignedUserId = some userId).map (·.id))
    (.unassignConversation tenantId userId)
  let _ ← updateMany (.unassignTicket tenantId userId)
    (fun db => (db.base.tickets.filter fun t =>
      t.tenantId = tenantId ∧ t.assignedUserId = some userId).map (·.id))
    (.unassignTicket tenantId userId)
  let _ ← updateMany (fun _ => .clear)
    (fun db => (db.assignmentStates.filter fun s =>
      s.tenantId = tenantId ∧ s.lastAssignedUserId = some userId).map (·.id))
    (.clearRotation tenantId userId)
  let _ ← updateMany (fun _ => .clear)
    (fun db => (db.assignmentRules.filter fun r =>
      r.tenantId = tenantId ∧ r.targetUserId = some userId).map (·.id))
    (.clearRule tenantId userId)
  let workflowsDisarmed ← disarmWorkflowsNaming tenantId userId .referenceRemoved
  dropReferences tenantId userId workflowsDisarmed
  let _ ← updateMany (fun _ => .clear) (fun db => db.teamsHeld tenantId userId) (.deleteMembership tenantId userId)
  pure ()

def revokeInvites (tenantId : Uuid) (email : String) : PeopleTx Unit := do
  let now ← .query .scan fun db => db.base.now
  let _ ← updateMany (fun _ => .clear)
    (fun db => (db.invites.filter fun i =>
      i.tenantId = tenantId ∧ i.email = email ∧ i.acceptedAt = none ∧ i.revokedAt = none).map (·.id))
    (.revokeInvite tenantId email now)
  pure ()

/-- The transaction of `remove`, once the target has been read and is still there. -/
def applyRemove (tenantId : Uuid) (user : User) : PeopleTx Unit := do
  keepAnAdmin tenantId user.id user.isActiveAdmin
  clearReferences tenantId user.id
  revokeInvites tenantId user.email
  let _ ← writeUser tenantId user { status := some .removed }
  pure ()

def removeTransaction (tenantId userId : Uuid) : PeopleTx Unit := do
  match ← .query (.readUser userId) fun db => db.findUser tenantId userId with
  | none => .abort (.userNotFound userId)
  | some user => if user.status = .removed then pure () else applyRemove tenantId user

def removeUser (tenantId userId : Uuid) : PeopleProg (Except PeopleError Unit) :=
  (removeTransaction tenantId userId).run peopleWrites .commit []

open Table

inductive PeopleCall where
  | ticket (call : TicketCall)
  | update (tenantId : Uuid) (principal : SessionPrincipal) (userId : Uuid) (input : UserUpdateInput)
  | remove (tenantId userId : Uuid)

inductive PeopleReply where
  | ticket (reply : TicketReply)
  | updated (result : Except PeopleError UserUpdated)
  | removed (result : Except PeopleError Unit)

def PeopleDb.withBase (base : TicketDb) (db : PeopleDb) : PeopleDb := { db with base }

def peopleProgram : PeopleCall → PeopleProg PeopleReply
  | .ticket call => ((program call).zoom PeopleDb.base PeopleDb.withBase .ticket).bind (.pure ∘ .ticket)
  | .update tenantId principal userId input =>
    (updateUser tenantId principal userId input).bind (.pure ∘ .updated)
  | .remove tenantId userId => (removeUser tenantId userId).bind (.pure ∘ .removed)

abbrev PeopleSys := Sys PeopleStmt PeopleDb PeopleCall PeopleReply

abbrev PeopleRun (db : PeopleDb) (s : PeopleSys) : Prop := Reachable peopleProgram anyStep (.idle db) s

abbrev HeldWrites := List (PeopleWrite × List PeopleRow)

def PeopleWrite.isUserWrite : PeopleWrite → Bool
  | .updateUser _ _ _ => true
  | _ => false

def PeopleWrite.isTicketWrite : PeopleWrite → Bool
  | .unassignTicket _ _ _ => true
  | _ => false

variable {w : PeopleWrite} {rows : List PeopleRow} {db db' : PeopleDb}

theorem apply_users (hw : w.isUserWrite = false) (h : w.apply db = .ok (rows, db')) : db'.base.users = db.base.users := by
  cases w with
  | updateUser => cases hw
  | createMembership =>
    cases (ok_of_ite h).2
    rfl
  | _ =>
    cases h
    rfl

theorem apply_tickets (hw : w.isTicketWrite = false) (h : w.apply db = .ok (rows, db')) :
    db'.base.tickets = db.base.tickets := by
  cases w with
  | unassignTicket => cases hw
  | createMembership =>
    cases (ok_of_ite h).2
    rfl
  | _ =>
    cases h
    rfl

theorem apply_indexed (hdb : db.base.Indexed) (h : w.apply db = .ok (rows, db')) : db'.base.Indexed := by
  cases hw : w.isTicketWrite with
  | false =>
    rw [TicketDb.Indexed, apply_tickets hw h]
    exact hdb
  | true =>
    cases w with
    | unassignTicket =>
      cases h
      exact {
        id := hdb.id.updateWhere fun _ _ _ => .inr rfl
        number := hdb.number.updateWhere fun _ _ _ => .inr rfl
        active := hdb.active.updateWhere fun _ _ _ => .inr rfl }
    | _ => cases hw

variable {ws : HeldWrites}

theorem applyAll_indexed (hdb : db.base.Indexed) (h : applyAll peopleWrites ws db = .ok db') : db'.base.Indexed :=
  applyAll_induct (Q := fun _ _ => True) (K := fun s => s.base.Indexed)
    (fun _ _ _ _ _ hs happly => apply_indexed hs happly) (fun _ _ => trivial) hdb h

theorem applyAll_users (hws : ∀ e ∈ ws, e.1.isUserWrite = false)
    (h : applyAll peopleWrites ws db = .ok db') : db'.base.users = db.base.users :=
  applyAll_induct (K := fun s => s.base.users = db.base.users)
    (Q := fun w _ => w.isUserWrite = false)
    (fun _ _ _ _ hw hs happly => (apply_users hw happly).trans hs) hws rfl h

section Gathering

/-- What a transaction's statements have come to when they keep `R`: no write is forgotten. -/
structure Gathered (R : HeldWrites → Prop) (write : Uuid → PeopleWrite) (before : HeldWrites)
    (answer : List PeopleRow) (after : HeldWrites) : Prop where
  kept : R after
  held : ∀ e ∈ before, e ∈ after
  locked : ∀ row ∈ answer, ∃ id rows, row ∈ rows ∧ (write id, rows) ∈ after

def Adds (C : PeopleStmt → PeopleDb → Prop) (R : HeldWrites → Prop) (tag : PeopleStmt) (w : PeopleWrite) : Prop :=
  ∀ ws s v rows v', R ws → C tag s → applyAll peopleWrites ws s = .ok v → w.apply v = .ok (rows, v') →
    R (ws ++ [(w, rows)])

theorem gathers_execute {tag : PeopleStmt} (hadds : Adds C R tag w) (hws : R ws) : (Tx.execute tag w : PeopleTx (List PeopleRow)).Gathers peopleWrites C
      (fun answer ws' => R ws' ∧ (∀ e ∈ ws, e ∈ ws') ∧ (answer ≠ [] → (w, answer) ∈ ws')) ws := by
  intro s v rows v' hcond hv happly
  by_cases hrows : rows = []
  · simp [Tx.Gathers, hrows, hws]
  · simp only [hrows, if_false]
    refine ⟨hadds ws s v rows v' hws hcond hv happly, ?_, ?_⟩
    · exact fun e he => List.mem_append_left _ he
    · exact fun _ => List.mem_concat_self

variable {tag : Uuid → PeopleStmt} {write : Uuid → PeopleWrite}

theorem gathers_updateEach (hadds : ∀ id, Adds C R (tag id) (write id)) (ids : List Uuid) (hws : R ws) :
    (updateEach tag write ids).Gathers peopleWrites C (Gathered R write ws) ws := by
  induction ids generalizing ws with
  | nil => exact ⟨hws, fun e he => he, by simp⟩
  | cons id ids ih =>
    refine (gathers_execute (hadds id) hws).bind fun rows ws₁ h₁ => ?_
    obtain ⟨hR, hheld, hrow⟩ := h₁
    refine (ih hR).bind fun rest ws₂ h₂ => ?_
    refine ⟨h₂.kept, fun e he => h₂.held e (hheld e he), fun row hmem => ?_⟩
    rcases List.mem_append.mp hmem with hmem | hmem
    · exact ⟨id, rows, hmem, h₂.held _ (hrow (List.ne_nil_of_mem hmem))⟩
    · exact h₂.locked row hmem

theorem gathers_updateMany (hadds : ∀ id, Adds C R (tag id) (write id)) (hws : R ws) :
    (updateMany tag find write).Gathers peopleWrites C (Gathered R write ws) ws :=
  fun _ _ _ _ => gathers_updateEach hadds _ hws

theorem Adds.of_append {tag : PeopleStmt} (h : ∀ ws rows, R ws → R (ws ++ [(w, rows)])) : Adds C R tag w :=
  fun ws _ _ rows _ hws _ _ _ => h ws rows hws

def Keeps {α : Type} (C : PeopleStmt → PeopleDb → Prop) (R : HeldWrites → Prop) (p : PeopleTx α) : Prop :=
  ∀ ws, R ws → p.Gathers peopleWrites C (fun _ => R) ws

namespace Keeps

variable {α β : Type}

theorem bind (h : Keeps C R p) (hf : ∀ a, Keeps C R (f a)) : Keeps C R (p.bind f) :=
  fun ws hws => (h ws hws).bind fun a ws' hws' => hf a ws' hws'

theorem pure (a : α) : Keeps C R (.pure a) := fun _ hws => hws

theorem abort (e : PeopleError) : Keeps C R (.abort e : PeopleTx α) := fun _ _ => trivial

theorem query {tag : PeopleStmt} : Keeps C R (.query tag f) := fun _ hws _ _ _ _ => hws

theorem execute {tag : PeopleStmt} (hadds : Adds C R tag w) : Keeps C R (.execute tag w) :=
  fun _ hws => (gathers_execute hadds hws).mono fun _ _ h => h.1

theorem updateEach (hadds : ∀ id, Adds C R (tag id) (write id)) (ids : List Uuid) :
    Keeps C R (WhatsappCrm.updateEach tag write ids) :=
  fun _ hws => (gathers_updateEach hadds ids hws).mono fun _ _ h => h.kept

theorem updateMany (hadds : ∀ id, Adds C R (tag id) (write id)) : Keeps C R (WhatsappCrm.updateMany tag find write) :=
  query.bind fun ids => updateEach hadds ids

end Keeps

variable (hclear : ∀ tag w, w.isUserWrite = false → w.isTicketWrite = false → Adds C R tag w)

include hclear

theorem keepAnAdmin_keeps (tenantId userId : Uuid) (asked : Bool) : Keeps C R (keepAnAdmin tenantId userId asked) := by
  cases asked with
  | false => exact .pure _
  | true =>
    simp only [keepAnAdmin, if_true, assertAnotherActiveAdminExists, Tx.bind_def]
    refine .bind (.updateMany fun _ => hclear _ _ rfl rfl) fun admins => ?_
    split
    · exact .pure _
    · exact .abort _

theorem disarmWorkflowsNaming_keeps (tenantId userId : Uuid) (reason : WorkflowBrokenReason) :
    Keeps C R (disarmWorkflowsNaming tenantId userId reason) := by
  refine .bind .query fun naming => ?_
  split
  · exact .pure _
  · exact .bind (.updateMany fun _ => hclear _ _ rfl rfl) fun _ => .pure _

theorem disarmOnSuspension_keeps (tenantId : Uuid) (before : User) (input : UserUpdateInput) :
    Keeps C R (disarmOnSuspension tenantId before input) := by
  simp only [disarmOnSuspension]
  split
  · exact disarmWorkflowsNaming_keeps hclear _ _ _
  · exact .pure _

theorem replaceTeamMemberships_keeps (tenantId userId : Uuid) (teamIds : List Uuid) :
    Keeps C R (replaceTeamMemberships tenantId userId teamIds) := by
  refine .bind .query fun held => ?_
  refine .bind (.updateEach (fun _ => hclear _ _ rfl rfl) _) fun _ => ?_
  exact .bind (.updateEach (fun _ => hclear _ _ rfl rfl) _) fun _ => .pure _

theorem dropReferences_keeps (tenantId userId : Uuid) (workflowsDisarmed : Nat) :
    Keeps C R (dropReferences tenantId userId workflowsDisarmed) := by
  simp only [dropReferences, Tx.bind_def]
  split
  · exact .bind (.updateMany fun _ => hclear _ _ rfl rfl) fun _ => .pure _
  · exact .pure _

theorem revokeInvites_keeps (tenantId : Uuid) (email : String) : Keeps C R (revokeInvites tenantId email) := by
  refine .bind .query fun now => ?_
  exact .bind (.updateMany fun _ => hclear _ _ rfl rfl) fun _ => .pure _

theorem clearReferences_keeps (tenantId userId : Uuid)
    (hunassign : ∀ ticketId, Adds C R (.unassignTicket tenantId userId ticketId)
      (.unassignTicket tenantId userId ticketId)) : Keeps C R (clearReferences tenantId userId) := by
  refine .bind (.updateMany fun _ => hclear _ _ rfl rfl) fun _ => ?_
  refine .bind (.updateMany hunassign) fun _ => ?_
  refine .bind (.updateMany fun _ => hclear _ _ rfl rfl) fun _ => ?_
  refine .bind (.updateMany fun _ => hclear _ _ rfl rfl) fun _ => ?_
  refine .bind (disarmWorkflowsNaming_keeps hclear _ _ _) fun _ => ?_
  refine .bind (dropReferences_keeps hclear _ _ _) fun _ => ?_
  exact .bind (.updateMany fun _ => hclear _ _ rfl rfl) fun _ => .pure _

omit hclear

theorem assertTeamsExist_keeps (tenantId : Uuid) (teamIds : List Uuid) :
    Keeps C R (assertTeamsExist tenantId teamIds) := by
  refine .bind .query fun unknown => ?_
  split
  · exact .pure _
  · exact .abort _

theorem keeps_elim (hf : ∀ teamIds, Keeps C R (f teamIds))
    (teamIds : Option (List Uuid)) : Keeps C R (teamIds.elim (.pure ()) f) := by
  cases teamIds with
  | none => exact .pure ()
  | some teamIds => exact hf teamIds

end Gathering

/-- What every statement that is run under the condition `C` is asked for: that it keeps `I`. -/
def keeping (C : PeopleStmt → PeopleDb → Prop) (I : PeopleDb → Prop) : Rely PeopleStmt PeopleDb where
  inv := I
  later _ _ := True
  cond := C
  effect _ _ db' := I db'

theorem keeping_sound (C : PeopleStmt → PeopleDb → Prop) (I : PeopleDb → Prop) : (keeping C I).Sound where
  refl _ := trivial
  trans _ _ := trivial
  keeps _ _ h := ⟨h, trivial⟩

theorem peopleProgram_guards {L : Rely PeopleStmt PeopleDb} (hL : L.Sound)
    (hindexed : ∀ db, L.inv db → db.base.Indexed) (hsame : ∀ tag db, L.inv db → L.cond tag db → L.effect tag db db)
    (hticket : ∀ tag db base, L.inv db → L.cond (.ticket tag) db → Effect tag db.base base →
      L.effect (.ticket tag) db (db.withBase base))
    (hcommit : ∀ ws db db', L.inv db → P ws → applyAll peopleWrites ws db = .ok db' → L.effect .commit db db')
    (hupdate : ∀ tenantId principal userId input,
      (updateTransaction tenantId principal userId input).Gathers peopleWrites L.cond (fun _ => P) [])
    (hremove : ∀ tenantId userId, (removeTransaction tenantId userId).Gathers peopleWrites L.cond (fun _ => P) [])
    (c : PeopleCall) (db : PeopleDb) : Prog.Guards L db (peopleProgram c) := by
  cases c with
  | ticket call =>
    have hticketCall : ((program call).zoom PeopleDb.base PeopleDb.withBase PeopleStmt.ticket).Within L.inv
        fun tag db db' => L.cond tag db → L.effect tag db db' := by
      refine Prog.Within.zoom (V := Effect) ?_ hindexed fun tag db base hI heffect hcond =>
        hticket tag db base hI hcond heffect
      exact (program_sound call).follows.mono fun _ _ _ _ _ h => h.effect
    refine Prog.Guards.bind hL (hticketCall.guards (fun tag db _ db' _ hcond h => h hcond) db) ?_
    exact fun _ _ _ => trivial
  | update tenantId principal userId input =>
    refine Prog.Guards.bind hL ?_ fun _ _ _ => trivial
    simp only [updateUser]
    split
    · trivial
    · exact ((hupdate tenantId principal userId input).narrow fun _ _ h => h.2).guards hsame
        (fun _ ws s s' hI _ hP happly => hcommit ws s s' hI hP happly) db
  | remove tenantId userId =>
    refine Prog.Guards.bind hL ?_ fun _ _ _ => trivial
    exact ((hremove tenantId userId).narrow fun _ _ h => h.2).guards hsame
      (fun _ ws s s' hI _ hP happly => hcommit ws s s' hI hP happly) db

theorem peopleRun_keeps {I : PeopleDb → Prop} (hindexed : ∀ db, I db → db.base.Indexed)
    (hticket : ∀ tag db base, I db → C (.ticket tag) db → Effect tag db.base base → I (db.withBase base))
    (hcommit : ∀ ws db db', I db → P ws → applyAll peopleWrites ws db = .ok db' → I db')
    (hupdate : ∀ tenantId principal userId input,
      (updateTransaction tenantId principal userId input).Gathers peopleWrites C (fun _ => P) [])
    (hremove : ∀ tenantId userId, (removeTransaction tenantId userId).Gathers peopleWrites C (fun _ => P) [])
    (hdb : I db) (hs : Reachable peopleProgram (fun s _ tag => C tag s.db) (.idle db) s) : I s.db := by
  have hL := keeping_sound C I
  have hprog := peopleProgram_guards (L := keeping C I) hL hindexed (fun _ _ h _ => h) hticket hcommit hupdate hremove
  exact (Reachable.guards hL hprog (fun _ _ _ h => h) (Sys.guarded_idle hdb) hs).inv

end WhatsappCrm
