/-
Purpose: What the statements of each operation can do to the invitations.
-/
import WhatsappCrm.Identity.InviteService

namespace WhatsappCrm

open Interleaving Table

def Withdrawals (invites invites' : List Invite) : Prop :=
  List.Forall₂ (fun i i' => i' = i ∨ i.outstanding = true ∧ ∃ now, i' = { i with revokedAt := some now }) invites invites'

namespace Withdrawals

theorem refl (invites : List Invite) : Withdrawals invites invites :=
  List.forall₂_same.mpr fun _ _ => .inl rfl

theorem trans (h : Withdrawals a b) (h' : Withdrawals b c) : Withdrawals a c := by
  induction h generalizing c with
  | nil => exact h'
  | cons hrow _ ih =>
    cases h' with
    | cons hrow' hrest =>
      refine .cons ?_ (ih hrest)
      rcases hrow with rfl | ⟨hout, now, rfl⟩
      · exact hrow'
      · rcases hrow' with rfl | ⟨hout', _⟩
        · exact .inr ⟨hout, now, rfl⟩
        · simp [Invite.outstanding] at hout'

theorem updateWhere (hfound : ∀ i, found i = true → i.outstanding = true) (invites : List Invite) :
    Withdrawals invites (updateWhere found (fun i => { i with revokedAt := some now }) invites) := by
  apply List.forall₂_map_right_iff.mpr
  apply List.forall₂_same.mpr
  intro i _
  cases hi : found i with
  | false => exact .inl (by simp)
  | true => exact .inr ⟨hfound i hi, now, by simp⟩

variable {invites : List Invite}

theorem map_eq (h : Withdrawals invites invites')
    (hf : ∀ i now, f { i with revokedAt := some now } = f i) : invites'.map f = invites.map f := by
  induction h with
  | nil => rfl
  | cons hrow _ ih =>
    rcases hrow with rfl | ⟨_, now, rfl⟩
    · rw [List.map_cons, List.map_cons, ih]
    · rw [List.map_cons, List.map_cons, ih, hf]

theorem row_before (h : Withdrawals invites invites') (hi' : i' ∈ invites') :
    ∃ i ∈ invites, i' = i ∨ i.outstanding = true ∧ ∃ now, i' = { i with revokedAt := some now } := by
  induction h with
  | nil => cases hi'
  | cons hrow _ ih =>
    rcases List.mem_cons.mp hi' with rfl | hi'
    · exact ⟨_, List.mem_cons_self, hrow⟩
    · obtain ⟨i, hi, hcase⟩ := ih hi'
      exact ⟨i, List.mem_cons_of_mem _ hi, hcase⟩

theorem row_after (h : Withdrawals invites invites') (hi : i ∈ invites) :
    ∃ i' ∈ invites', i' = i ∨ i.outstanding = true ∧ ∃ now, i' = { i with revokedAt := some now } := by
  induction h with
  | nil => cases hi
  | cons hrow _ ih =>
    rcases List.mem_cons.mp hi with rfl | hi
    · exact ⟨_, List.mem_cons_self, hrow⟩
    · obtain ⟨i', hi', hcase⟩ := ih hi
      exact ⟨i', List.mem_cons_of_mem _ hi', hcase⟩

end Withdrawals

variable {db db' : PeopleDb}

theorem PeopleWrite.withdraws {w : PeopleWrite} (h : w.apply db = .ok (rows, db')) : Withdrawals db.invites db'.invites := by
  cases w with
  | revokeInvite =>
    cases h
    apply Withdrawals.updateWhere
    intro i hi
    simp only [decide_eq_true_eq] at hi
    simp [Invite.outstanding, hi.2.2.2.1, hi.2.2.2.2]
  | createMembership =>
    cases (ok_of_ite h).2
    exact .refl _
  | _ =>
    cases h
    exact .refl _

theorem PeopleWrite.now_eq {w : PeopleWrite} (h : w.apply db = .ok (rows, db')) : db'.base.now = db.base.now := by
  cases w with
  | createMembership =>
    cases (ok_of_ite h).2
    rfl
  | _ =>
    cases h
    rfl

theorem Effect.clock_le {db db' : TicketDb} (h : Effect tag db db') : db.now ≤ db'.now := by
  cases h with
  | ticked elapsed => exact Int.le_add_of_nonneg_right (Int.natCast_nonneg elapsed)
  | _ => exact Int.le_refl _

structure PeopleMove (db db' : PeopleDb) : Prop where
  indexed : db'.base.Indexed
  invites : Withdrawals db.invites db'.invites
  now : db.base.now ≤ db'.base.now

def withdrawing : Rely PeopleStmt PeopleDb where
  inv db := db.base.Indexed
  later _ _ := True
  cond _ _ := True
  effect _ db db' := PeopleMove db db'

theorem withdrawing_sound : withdrawing.Sound where
  refl _ := trivial
  trans _ _ := trivial
  keeps _ _ h := ⟨h.indexed, trivial⟩

theorem PeopleMove.refl (hdb : db.base.Indexed) : PeopleMove db db := ⟨hdb, .refl _, Int.le_refl _⟩

theorem PeopleMove.ticket (hdb : db.base.Indexed) (h : Effect tag db.base base) : PeopleMove db (db.withBase base) :=
  ⟨h.indexed hdb, .refl _, h.clock_le⟩

theorem PeopleMove.commit (hdb : db.base.Indexed) (h : applyAll peopleWrites ws db = .ok db') : PeopleMove db db' := by
  refine applyAll_induct (Q := fun _ _ => True) (K := fun v => PeopleMove db v) ?_ (fun _ _ => trivial) (.refl hdb) h
  intro w rows s s' _ hs happly
  exact ⟨apply_indexed hs.indexed happly, hs.invites.trans (PeopleWrite.withdraws happly),
    PeopleWrite.now_eq happly ▸ hs.now⟩

theorem peopleProgram_withdraws (c : PeopleCall) (db : PeopleDb) : Prog.Guards withdrawing db (peopleProgram c) :=
  peopleProgram_guards (P := fun _ => True) withdrawing_sound (fun _ h => h) (fun _ _ h _ => .refl h)
    (fun _ _ _ hdb _ h => .ticket hdb h) (fun _ _ _ hdb _ h => .commit hdb h)
    (fun _ _ _ _ => .of_forall (fun _ _ => trivial) _ _) (fun _ _ => .of_forall (fun _ _ => trivial) _ _) c db

namespace IdentityWrite

def tenantId : IdentityWrite → Uuid
  | .lockSeats tenantId => tenantId
  | .createUser user => user.tenantId
  | .updateUser tenantId _ _ => tenantId
  | .upsertInvite values => values.tenantId
  | .rotateToken tenantId _ _ _ => tenantId
  | .revokeInvite tenantId _ _ => tenantId
  | .redeemInvite tenantId _ _ => tenantId
  | .clearInviteTeams tenantId _ => tenantId
  | .createInviteTeams tenantId _ _ => tenantId
  | .joinTeams tenantId _ _ => tenantId

def isRevocation : IdentityWrite → Bool
  | .revokeInvite _ _ _ => true
  | _ => false

end IdentityWrite

def KeepsInvites (tenantId : Uuid) (_ : IdentityStmt) (w : IdentityWrite) : Prop :=
  w.tenantId = tenantId ∧ w.isRevocation = false

section Only

open Identity

variable {α : Type}

theorem only_query : (Tx.query tag f : IdentityTx α).Only Q :=
  fun _ => trivial

theorem only_execute (h : Q tag w) : (Tx.execute tag w : IdentityTx (List IdentityRow)).Only Q :=
  ⟨h, fun _ => trivial⟩

theorem assertSeatAvailable_only (h : Q .write (.lockSeats tenantId)) : (assertSeatAvailable tenantId).Only Q := by
  simp only [assertSeatAvailable, assertBelow, countSeatsHeld, Tx.bind_def, Tx.pure_def]
  refine only_query.bind fun cap => ?_
  split
  · trivial
  · refine (only_execute h).bind fun _ => ?_
    refine Tx.Only.bind (only_query.bind fun _ => only_query.bind fun _ => only_query.bind fun _ => trivial) fun held => ?_
    split <;> trivial

variable {inviteId : Uuid}

theorem writeAccount_only
    (h : Q .write (.updateUser tenantId userId data)) : (writeAccount tenantId userId data).Only Q := by
  refine (only_execute h).bind fun rows => ?_
  split <;> trivial

theorem createAccount_only (h : Q .write (.createUser user)) : (createAccount user).Only Q :=
  (only_execute h).bind fun _ => trivial

theorem assertTeamsExist_only (tenantId : Uuid) (teamIds : List Uuid) :
    (Identity.assertTeamsExist tenantId teamIds).Only Q := by
  refine only_query.bind fun unknown => ?_
  split <;> trivial

theorem hasLiveInvite_only (tenantId : Uuid) (email : String) : (hasLiveInvite tenantId email).Only Q :=
  only_query.bind fun _ => only_query

theorem reserveAccount_only (hcreate : Q .write (.createUser
      { id := userId, tenantId, email, name := placeholderName email, role, status := .invited }))
    (hupdate : ∀ id, Q .write (.updateUser tenantId id { role := some role, status := some .invited })) :
    (reserveAccount tenantId userId email role).Only Q := by
  refine only_query.bind fun account => ?_
  split
  · exact createAccount_only hcreate
  · split
    · trivial
    · exact writeAccount_only (hupdate _)

theorem upsertInvite_only (h : Q .write (.upsertInvite values)) : (upsertInvite values).Only Q := by
  refine (only_execute h).bind fun rows => ?_
  split <;> trivial

theorem replacePendingTeams_only {teamIds : List Uuid} (hclear : Q .write (.clearInviteTeams tenantId inviteId))
    (hcreate : Q .write (.createInviteTeams tenantId inviteId teamIds.dedup)) :
    (replacePendingTeams tenantId inviteId teamIds).Only Q :=
  (only_execute hclear).bind fun _ => (only_execute hcreate).bind fun _ => trivial

theorem activateAccount_only {invite : Invite} (hcreate : Q .write (.createUser
      { id := userId, tenantId, email := invite.email, name := displayName, role := invite.role, status := .active }))
    (hupdate : ∀ id, Q .write (.updateUser tenantId id
      { name := some displayName, role := some invite.role, status := some .active })) :
    (activateAccount tenantId userId invite displayName).Only Q := by
  refine only_query.bind fun account => ?_
  split
  · exact (createAccount_only hcreate).bind fun _ => trivial
  · split
    · trivial
    · exact (writeAccount_only (hupdate _)).bind fun _ => trivial

theorem joinPendingTeams_only (hjoin : ∀ teamIds, Q .write (.joinTeams tenantId userId teamIds)) :
    (joinPendingTeams tenantId inviteId userId).Only Q :=
  only_query.bind fun _ => (only_execute (hjoin _)).bind fun _ => trivial

theorem requirePendingInvite_only (tenantId inviteId : Uuid) : (requirePendingInvite tenantId inviteId).Only Q := by
  refine only_query.bind fun invite => ?_
  split
  · trivial
  · split
    · trivial
    · split <;> trivial

theorem createTransaction_only (tenantId : Uuid) (input : InviteCreateInput) (tokenHash : String) (expiresAt : Millis)
    (inviteId userId : Uuid) :
    (createTransaction tenantId input tokenHash expiresAt inviteId userId).Only (KeepsInvites tenantId) := by
  refine (assertTeamsExist_only _ _).bind fun _ => ?_
  refine Tx.Only.bind ((hasLiveInvite_only _ _).bind fun live => ?_) fun _ => ?_
  · split
    · trivial
    · exact assertSeatAvailable_only ⟨rfl, rfl⟩
  · refine (reserveAccount_only ⟨rfl, rfl⟩ fun _ => ⟨rfl, rfl⟩).bind fun _ => ?_
    refine (upsertInvite_only ⟨rfl, rfl⟩).bind fun created => ?_
    exact (replacePendingTeams_only ⟨rfl, rfl⟩ ⟨rfl, rfl⟩).bind fun _ => trivial

theorem resendTransaction_only (h : ∀ id, Q .write (.rotateToken tenantId id tokenHash expiresAt)) :
    (resendTransaction tenantId inviteId tokenHash expiresAt).Only Q := by
  refine (requirePendingInvite_only _ _).bind fun pending => ?_
  refine (only_execute (h pending.id)).bind fun rows => ?_
  split <;> trivial

theorem revokeTransaction_only (h : ∀ id now, Q (.revokeInvite tenantId id) (.revokeInvite tenantId id now)) :
    (revokeTransaction tenantId inviteId).Only Q := by
  refine only_query.bind fun invite => ?_
  split
  · trivial
  · rename_i invite
    split
    · trivial
    · split
      · trivial
      · refine only_query.bind fun now => ?_
        refine (only_execute (h invite.id now)).bind fun rows => ?_
        split <;> trivial

theorem acceptTransaction_only (tenantId : Uuid) (tokenHash displayName : String) (userId : Uuid) :
    (acceptTransaction tenantId tokenHash displayName userId).Only (KeepsInvites tenantId) := by
  refine only_query.bind fun start => ?_
  refine (only_execute ⟨rfl, rfl⟩).bind fun rows => ?_
  split
  · refine (assertSeatAvailable_only ⟨rfl, rfl⟩).bind fun _ => ?_
    refine (activateAccount_only ⟨rfl, rfl⟩ fun _ => ⟨rfl, rfl⟩).bind fun _ => ?_
    exact (joinPendingTeams_only fun _ => ⟨rfl, rfl⟩).bind fun _ => trivial
  · exact only_query.bind fun _ => trivial

end Only

end WhatsappCrm
