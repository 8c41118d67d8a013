/-
Purpose: The vocabulary of invitations (`packages/contracts/src/auth.ts`, `identity/identity.errors.ts`), their tables,
  and `InviteService` (`identity/invite.service.ts`) with the seat check of `PlanLimitsService`
  (`entitlements/plan-limits.service.ts`).
-/
import WhatsappCrm.People.System

namespace WhatsappCrm

def inviteTtlMs : Millis := 7 * 24 * 60 * 60 * 1000

structure InviteCreateInput where
  email : String
  role : UserRole
  teamIds : List Uuid

structure InviteAcceptInput where
  token : String
  displayName : String

inductive TokenRejectionReason where
  | unknown
  | expired
  | consumed
  | revoked

/-- How an invitation that is not pending any more ended, as `InviteNotPendingError` says it. -/
inductive InviteEnd where
  | accepted
  | revoked

inductive IdentityError where
  | people (error : PeopleError)
  | inviteNotFound (inviteId : Uuid)
  | inviteNotPending (state : InviteEnd)
  | inviteTokenInvalid (reason : TokenRejectionReason)
  | emailAlreadyRegistered (email : String)
  | seatLimitExceeded (limit used : Nat)
  | recordNotFound
  | database (error : DbError)

/-- `occupiesSeat` of the people list: a suspended member still holds their seat. -/
def UserStatus.occupiesSeat (status : UserStatus) : Bool := status = .active ∨ status = .suspended

def User.occupiesSeat (u : User) : Bool := u.status.occupiesSeat

/-- Neither accepted nor revoked: the rows of the partial index `invites_one_live_per_email`. -/
def Invite.outstanding (i : Invite) : Bool := i.acceptedAt = none ∧ i.revokedAt = none

/-- `statusFilter('pending')`: the link still works. -/
def Invite.live (now : Millis) (i : Invite) : Bool := i.outstanding ∧ now < i.expiresAt

/-- `rejectionReason` of the row under a token, at the instant of the read. -/
def rejectionReason (now : Millis) : Option Invite → Option TokenRejectionReason
  | none => some .unknown
  | some invite =>
    if invite.revokedAt ≠ none then some .revoked
    else if invite.acceptedAt ≠ none then some .consumed
    else if invite.expiresAt ≤ now then some .expired
    else none

/-- `limitOf`: a ceiling is a positive integer, and everything else is unlimited. -/
def limitOf (value : Option Nat) : Option Nat := value.filter (0 < ·)

open Interleaving Table

structure InviteTeam where
  tenantId : Uuid
  inviteId : Uuid
  teamId : Uuid

/-- What happens to the token of an invitation. -/
inductive InviteEvent where
  | issued (inviteId : Uuid) (tokenHash : String)
  | redeemed (inviteId : Uuid) (tokenHash : String)

structure IdentityDb where
  people : PeopleDb := {}
  inviteTeams : List InviteTeam := []
  /-- `tenant_entitlements.entitlements.limits.seats`, where a row has it. -/
  seatLimits : List (Uuid × Nat) := []
  /-- The tenants whose seat lock a committed transaction has held, one entry for each time. -/
  seatTurns : List Uuid := []
  inviteEvents : List InviteEvent := []

namespace IdentityDb

variable (db : IdentityDb)

def now : Millis := db.people.base.now

def users : List User := db.people.base.users

def invites : List Invite := db.people.invites

def seatCap (tenantId : Uuid) : Option Nat :=
  limitOf ((db.seatLimits.find? fun e => e.1 = tenantId).map (·.2))

def seatTurn (tenantId : Uuid) : Nat := db.seatTurns.count tenantId

def members (tenantId : Uuid) : List Uuid :=
  (db.users.filter fun u => u.tenantId = tenantId ∧ u.occupiesSeat = true).map (·.id)

def liveInvites (tenantId : Uuid) (now : Millis) : List Uuid :=
  (db.invites.filter fun i => i.tenantId = tenantId ∧ i.live now = true).map (·.id)

def findInvite (tenantId inviteId : Uuid) : Option Invite :=
  db.invites.find? fun i => i.tenantId = tenantId ∧ i.id = inviteId

def findByToken (tenantId : Uuid) (tokenHash : String) : Option Invite :=
  db.invites.find? fun i => i.tenantId = tenantId ∧ i.tokenHash = tokenHash

def findAccount (tenantId : Uuid) (email : String) : Option User :=
  db.users.find? fun u => u.tenantId = tenantId ∧ u.email = email

def pendingTeams (tenantId inviteId : Uuid) : List Uuid :=
  (db.inviteTeams.filter fun t => t.tenantId = tenantId ∧ t.inviteId = inviteId).map (·.teamId)

def withUsers (users : List User) : IdentityDb :=
  { db with people := { db.people with base := { db.people.base with users } } }

def withInvites (invites : List Invite) : IdentityDb := { db with people := { db.people with invites } }

def withMembers (teamMembers : List TeamMember) : IdentityDb :=
  { db with people := { db.people with base := { db.people.base with teamMembers } } }

def entitle (tenantId : Uuid) (seats : Option Nat) : IdentityDb :=
  { db with
    seatLimits := (seats.map fun n => (tenantId, n)).toList ++ db.seatLimits.filter (·.1 ≠ tenantId) }

@[simp] theorem users_withUsers (users : List User) : (db.withUsers users).users = users := rfl

end IdentityDb

structure NewInvite where
  id : Uuid
  tenantId : Uuid
  email : String
  role : UserRole
  tokenHash : String
  expiresAt : Millis
deriving DecidableEq

def NewInvite.row (values : NewInvite) : Invite :=
  { id := values.id
    tenantId := values.tenantId
    email := values.email
    role := values.role
    tokenHash := values.tokenHash
    expiresAt := values.expiresAt
    acceptedAt := none
    revokedAt := none }

inductive IdentityWrite where
  | lockSeats (tenantId : Uuid)
  | createUser (user : User)
  | updateUser (tenantId userId : Uuid) (data : UserUpdateData)
  | upsertInvite (values : NewInvite)
  | rotateToken (tenantId inviteId : Uuid) (tokenHash : String) (expiresAt : Millis)
  | revokeInvite (tenantId inviteId : Uuid) (now : Millis)
  | redeemInvite (tenantId : Uuid) (tokenHash : String) (now : Millis)
  | clearInviteTeams (tenantId inviteId : Uuid)
  | createInviteTeams (tenantId inviteId : Uuid) (teamIds : List Uuid)
  | joinTeams (tenantId userId : Uuid) (teamIds : List Uuid)
deriving DecidableEq

inductive IdentityRow where
  | turn (n : Nat)
  | user (u : User)
  | inserted (i : Invite)
  | invite (i : Invite)
  | team (teamId : Uuid)
deriving DecidableEq

namespace Invite

def named (tenantId inviteId : Uuid) (i : Invite) : Bool := i.tenantId = tenantId ∧ i.id = inviteId

/-- The row that `ON CONFLICT (tenant_id, email) WHERE accepted_at IS NULL AND revoked_at IS NULL` finds. -/
def conflicts (tenantId : Uuid) (email : String) (i : Invite) : Bool :=
  i.tenantId = tenantId ∧ i.email = email ∧ i.outstanding = true

def redeemable (tenantId : Uuid) (tokenHash : String) (now : Millis) (i : Invite) : Bool :=
  i.tenantId = tenantId ∧ i.tokenHash = tokenHash ∧ i.live now = true

/-- `DO UPDATE SET … = EXCLUDED.…`. -/
def refresh (excluded : NewInvite) (i : Invite) : Invite :=
  { i with tokenHash := excluded.tokenHash, expiresAt := excluded.expiresAt, role := excluded.role }

end Invite

def IdentityDb.issue (db : IdentityDb) (found : Invite → Bool) (tokenHash : String) (write : Invite → Invite) :
    Except IdentityError (List IdentityRow × IdentityDb) :=
  if db.invites.any fun i => !found i && i.tokenHash = tokenHash then .error (.database .uniqueViolation)
  else
    .ok ((db.invites.filter found).map .invite,
      { db.withInvites (updateWhere found write db.invites) with
        inviteEvents := db.inviteEvents ++ (db.invites.filter found).map fun i => .issued i.id tokenHash })

def IdentityDb.insertInvite (db : IdentityDb) (values : NewInvite) : Except IdentityError (List IdentityRow × IdentityDb) :=
  if db.invites.any fun i => i.id = values.id ∨ i.tokenHash = values.tokenHash then .error (.database .uniqueViolation)
  else
    .ok ([.inserted values.row],
      { db.withInvites (db.invites ++ [values.row]) with
        inviteEvents := db.inviteEvents ++ [.issued values.id values.tokenHash] })

def IdentityWrite.apply (w : IdentityWrite) (db : IdentityDb) : Except IdentityError (List IdentityRow × IdentityDb) :=
  match w with
  | .lockSeats tenantId => .ok ([.turn (db.seatTurn tenantId)], { db with seatTurns := tenantId :: db.seatTurns })
  | .createUser user =>
    if db.users.any fun u => u.id = user.id ∨ (u.tenantId = user.tenantId ∧ u.email = user.email) then
      .error (.database .uniqueViolation)
    else .ok ([.user user], db.withUsers (db.users ++ [user]))
  | .updateUser tenantId userId data =>
    .ok ((db.users.filter (User.named tenantId userId)).map .user,
      db.withUsers (updateWhere (User.named tenantId userId) data.write db.users))
  | .upsertInvite values =>
    if db.invites.any (Invite.conflicts values.tenantId values.email) then
      db.issue (Invite.conflicts values.tenantId values.email) values.tokenHash (Invite.refresh values)
    else db.insertInvite values
  | .rotateToken tenantId inviteId tokenHash expiresAt =>
    db.issue (Invite.named tenantId inviteId) tokenHash fun i => { i with tokenHash, expiresAt }
  | .revokeInvite tenantId inviteId now =>
    .ok ((db.invites.filter (Invite.named tenantId inviteId)).map .invite,
      db.withInvites (updateWhere (Invite.named tenantId inviteId) (fun i => { i with revokedAt := some now })
        db.invites))
  | .redeemInvite tenantId tokenHash now =>
    let found := Invite.redeemable tenantId tokenHash now
    .ok ((db.invites.filter found).map .invite,
      { db.withInvites (updateWhere found (fun i => { i with acceptedAt := some now }) db.invites) with
        inviteEvents := db.inviteEvents ++ (db.invites.filter found).map fun i => .redeemed i.id tokenHash })
  | .clearInviteTeams tenantId inviteId =>
    .ok ((db.pendingTeams tenantId inviteId).map .team,
      { db with
        inviteTeams := db.inviteTeams.filter fun t => ¬ (t.tenantId = tenantId ∧ t.inviteId = inviteId) })
  | .createInviteTeams tenantId inviteId teamIds =>
    .ok (teamIds.map .team,
      { db with inviteTeams := db.inviteTeams ++ teamIds.map fun teamId => { tenantId, inviteId, teamId } })
  | .joinTeams tenantId userId teamIds =>
    let joined := teamIds.filter fun teamId => ¬ db.people.base.teamMembers.contains { tenantId, teamId, userId }
    .ok (joined.map .team,
      db.withMembers (db.people.base.teamMembers ++ joined.map fun teamId => { tenantId, teamId, userId }))

def identityWrites : Writes IdentityDb IdentityWrite IdentityRow IdentityError where
  apply := IdentityWrite.apply
  conflict := .database .serializationFailure

theorem IdentityWrite.nothing {w : IdentityWrite} {db : IdentityDb} (h : w.apply db = .ok ([], db')) : db' = db := by
  have hissue : ∀ {found : Invite → Bool} {tokenHash : String} {write : Invite → Invite},
      db.issue found tokenHash write = .ok ([], db') → db' = db := by
    intro found tokenHash write h
    replace h := (ok_of_ite h).2
    rw [Except.ok.injEq, Prod.mk.injEq, List.map_eq_nil_iff] at h
    obtain ⟨hnone, rfl⟩ := h
    rw [hnone, updateWhere_of_filter_eq_nil hnone]
    simp [IdentityDb.withInvites, IdentityDb.invites]
  cases w with
  | lockSeats => cases h
  | createUser =>
    simp only [IdentityWrite.apply] at h
    split at h <;> cases h
  | updateUser | revokeInvite =>
    rw [IdentityWrite.apply, Except.ok.injEq, Prod.mk.injEq, List.map_eq_nil_iff] at h
    obtain ⟨hnone, rfl⟩ := h
    rw [updateWhere_of_filter_eq_nil hnone]
    rfl
  | upsertInvite =>
    simp only [IdentityWrite.apply] at h
    split at h
    · exact hissue h
    · simp only [IdentityDb.insertInvite] at h
      split at h <;> cases h
  | rotateToken => exact hissue h
  | redeemInvite =>
    simp only [IdentityWrite.apply] at h
    rw [Except.ok.injEq, Prod.mk.injEq, List.map_eq_nil_iff] at h
    obtain ⟨hnone, rfl⟩ := h
    rw [hnone, updateWhere_of_filter_eq_nil hnone]
    simp [IdentityDb.withInvites, IdentityDb.invites]
  | clearInviteTeams =>
    rw [IdentityWrite.apply, Except.ok.injEq, Prod.mk.injEq, List.map_eq_nil_iff] at h
    obtain ⟨hnone, rfl⟩ := h
    have hall := List.filter_eq_nil_iff.mp (List.map_eq_nil_iff.mp hnone)
    rw [List.filter_eq_self.mpr]
    intro t ht
    exact decide_eq_true fun hmatch => hall t ht (decide_eq_true hmatch)
  | createInviteTeams =>
    rw [IdentityWrite.apply, Except.ok.injEq, Prod.mk.injEq, List.map_eq_nil_iff] at h
    obtain ⟨rfl, rfl⟩ := h
    rw [List.map_nil, List.append_nil]
  | joinTeams =>
    simp only [IdentityWrite.apply] at h
    rw [Except.ok.injEq, Prod.mk.injEq, List.map_eq_nil_iff] at h
    obtain ⟨hnone, rfl⟩ := h
    rw [hnone, List.map_nil, List.append_nil]
    rfl

/-- The statements on invitations, and those of the operations beside them. A commit says what it writes. -/
inductive IdentityStmt where
  | people (stmt : PeopleStmt)
  | entitle (tenantId : Uuid) (seats : Option Nat)
  | read
  | write
  | revokeInvite (tenantId inviteId : Uuid)
  | commit (writes : List (IdentityWrite × List IdentityRow))

abbrev IdentityTx := Tx IdentityStmt IdentityDb IdentityWrite IdentityRow IdentityError

abbrev IdentityProg := Prog IdentityStmt IdentityDb

end WhatsappCrm

namespace WhatsappCrm.Identity

open Interleaving

structure CreatedInvite where
  invite : Invite
  inserted : Bool

structure AcceptedInvite where
  userId : Uuid
  inviteId : Uuid
  teamIds : List Uuid

/-- `countSeatsHeld`: two counts, one after the other. -/
def countSeatsHeld (tenantId : Uuid) : IdentityTx (Nat × Nat) := do
  let members ← .query .read fun db => (db.members tenantId).length
  let now ← .query .read IdentityDb.now
  let pending ← .query .read fun db => (db.liveInvites tenantId now).length
  pure (members, pending)

def assertBelow (tenantId : Uuid) (cap : Nat) : IdentityTx Unit := do
  let _ ← .execute .write (.lockSeats tenantId)
  let (seatsUsed, seatsPending) ← countSeatsHeld tenantId
  if cap ≤ seatsUsed + seatsPending then .abort (.seatLimitExceeded cap (seatsUsed + seatsPending)) else pure ()

def assertSeatAvailable (tenantId : Uuid) : IdentityTx Unit := do
  match ← .query .read fun db => db.seatCap tenantId with
  | none => pure ()
  | some cap => assertBelow tenantId cap

def assertTeamsExist (tenantId : Uuid) (teamIds : List Uuid) : IdentityTx Unit := do
  let unknown ← .query .read fun db => db.people.unknownTeams tenantId teamIds
  if unknown = [] then pure () else .abort (.people (.unknownReference unknown))

def hasLiveInvite (tenantId : Uuid) (email : String) : IdentityTx Bool := do
  let now ← .query .read IdentityDb.now
  .query .read fun db => db.invites.any fun i => i.tenantId = tenantId ∧ i.email = email ∧ i.live now = true

def assertSeatUnlessInvited (tenantId : Uuid) (email : String) : IdentityTx Unit := do
  if ← hasLiveInvite tenantId email then pure () else assertSeatAvailable tenantId

def writeAccount (tenantId userId : Uuid) (data : UserUpdateData) : IdentityTx Unit := do
  match ← .execute .write (.updateUser tenantId userId data) with
  | [] => .abort .recordNotFound
  | _ => pure ()

def createAccount (user : User) : IdentityTx Unit := do
  let _ ← .execute .write (.createUser user)
  pure ()

/-- The name a reserved account has until its owner says theirs. -/
def placeholderName (email : String) : String := (email.splitOn "@").headD email

/-- `reserveAccount`: one account for each address of the tenant. -/
def reserveAccount (tenantId userId : Uuid) (email : String) (role : UserRole) : IdentityTx Unit := do
  match ← .query .read fun db => db.findAccount tenantId email with
  | none => createAccount { id := userId, tenantId, email, name := placeholderName email, role, status := .invited }
  | some existing =>
    if existing.occupiesSeat then .abort (.emailAlreadyRegistered email)
    else writeAccount tenantId existing.id { role := some role, status := some .invited }

def upsertInvite (values : NewInvite) : IdentityTx CreatedInvite := do
  match ← .execute .write (.upsertInvite values) with
  | .inserted made :: _ => pure { invite := made, inserted := true }
  | .invite found :: _ => pure { invite := Invite.refresh values found, inserted := false }
  | _ => .abort .recordNotFound

def replacePendingTeams (tenantId inviteId : Uuid) (teamIds : List Uuid) : IdentityTx Unit := do
  let _ ← .execute .write (.clearInviteTeams tenantId inviteId)
  let _ ← .execute .write (.createInviteTeams tenantId inviteId teamIds.dedup)
  pure ()

def createTransaction (tenantId : Uuid) (input : InviteCreateInput) (tokenHash : String) (expiresAt : Millis)
    (inviteId userId : Uuid) : IdentityTx CreatedInvite := do
  assertTeamsExist tenantId input.teamIds
  assertSeatUnlessInvited tenantId input.email
  reserveAccount tenantId userId input.email input.role
  let created ← upsertInvite
    { id := inviteId, tenantId, email := input.email, role := input.role, tokenHash, expiresAt }
  replacePendingTeams tenantId created.invite.id input.teamIds
  pure created

def requirePendingInvite (tenantId inviteId : Uuid) : IdentityTx Invite := do
  match ← .query .read fun db => db.findInvite tenantId inviteId with
  | none => .abort (.inviteNotFound inviteId)
  | some invite =>
    if invite.acceptedAt ≠ none then .abort (.inviteNotPending .accepted)
    else if invite.revokedAt ≠ none then .abort (.inviteNotPending .revoked)
    else pure invite

def resendTransaction (tenantId inviteId : Uuid) (tokenHash : String) (expiresAt : Millis) : IdentityTx Invite := do
  let pending ← requirePendingInvite tenantId inviteId
  match ← .execute .write (.rotateToken tenantId pending.id tokenHash expiresAt) with
  | .invite invite :: _ => pure { invite with tokenHash, expiresAt }
  | _ => .abort .recordNotFound

def writeRevocation (tenantId inviteId : Uuid) : IdentityTx Bool := do
  let now ← .query .read IdentityDb.now
  match ← .execute (.revokeInvite tenantId inviteId) (.revokeInvite tenantId inviteId now) with
  | [] => .abort .recordNotFound
  | _ => pure true

def revokeTransaction (tenantId inviteId : Uuid) : IdentityTx Bool := do
  match ← .query .read fun db => db.findInvite tenantId inviteId with
  | none => .abort (.inviteNotFound inviteId)
  | some invite =>
    if invite.revokedAt ≠ none then pure false
    else if invite.acceptedAt ≠ none then .abort (.inviteNotPending .accepted)
    else writeRevocation tenantId invite.id

def refuseToken (tenantId : Uuid) (tokenHash : String) (start : Millis) : IdentityTx AcceptedInvite := do
  let found ← .query .read fun db => db.findByToken tenantId tokenHash
  .abort (.inviteTokenInvalid ((rejectionReason start found).getD .consumed))

def activateAccount (tenantId userId : Uuid) (invite : Invite) (displayName : String) : IdentityTx Uuid := do
  match ← .query .read fun db => db.findAccount tenantId invite.email with
  | none => do
    createAccount { id := userId, tenantId, email := invite.email, name := displayName, role := invite.role, status := .active }
    pure userId
  | some existing =>
    if existing.occupiesSeat then .abort (.emailAlreadyRegistered invite.email)
    else do
      writeAccount tenantId existing.id
        { name := some displayName, role := some invite.role, status := some .active }
      pure existing.id

def joinPendingTeams (tenantId inviteId userId : Uuid) : IdentityTx (List Uuid) := do
  let teamIds ← .query .read fun db => db.pendingTeams tenantId inviteId
  let _ ← .execute .write (.joinTeams tenantId userId teamIds)
  pure teamIds

/-- What follows the redeeming update. The check comes after it: this invitation holds no seat any more. -/
def activate (tenantId userId : Uuid) (invite : Invite) (displayName : String) : IdentityTx AcceptedInvite := do
  assertSeatAvailable tenantId
  let accountId ← activateAccount tenantId userId invite displayName
  let teamIds ← joinPendingTeams tenantId invite.id accountId
  pure { userId := accountId, inviteId := invite.id, teamIds }

def acceptTransaction (tenantId : Uuid) (tokenHash displayName : String) (userId : Uuid) : IdentityTx AcceptedInvite := do
  let start ← .query .read IdentityDb.now
  match ← .execute .write (.redeemInvite tenantId tokenHash start) with
  | .invite invite :: _ => activate tenantId userId invite displayName
  | _ => refuseToken tenantId tokenHash start

def transaction {α : Type} (body : IdentityTx α) : IdentityProg (Except IdentityError α) :=
  body.runAs identityWrites .commit []

variable (hashAuthToken : String → String)

/-- `POST /users/invites`. The token and the ids are those this request generates. -/
def create (tenantId : Uuid) (principal : SessionPrincipal) (input : InviteCreateInput) (token : String)
    (inviteId userId : Uuid) : IdentityProg (Except IdentityError CreatedInvite) :=
  match assertRoleAssignable input.role principal with
  | .error e => .pure (.error (.people e))
  | .ok () => do
    let now ← .read .read IdentityDb.now
    transaction (createTransaction tenantId input (hashAuthToken token) (now + inviteTtlMs) inviteId userId)

def resend (tenantId inviteId : Uuid) (token : String) : IdentityProg (Except IdentityError Invite) := do
  let now ← .read .read IdentityDb.now
  transaction (resendTransaction tenantId inviteId (hashAuthToken token) (now + inviteTtlMs))

def revoke (tenantId inviteId : Uuid) : IdentityProg (Except IdentityError Bool) :=
  transaction (revokeTransaction tenantId inviteId)

/-- `POST /auth/invites/accept`: the token is looked up before the password is hashed, and redeemed after. -/
def accept (tenantId : Uuid) (input : InviteAcceptInput) (userId : Uuid) :
    IdentityProg (Except IdentityError AcceptedInvite) := do
  let tokenHash := hashAuthToken input.token
  let (found, now) ← .read .read fun db => (db.findByToken tenantId tokenHash, db.now)
  match rejectionReason now found with
  | some reason => pure (.error (.inviteTokenInvalid reason))
  | none => transaction (acceptTransaction tenantId tokenHash input.displayName userId)

end WhatsappCrm.Identity

namespace WhatsappCrm

open Interleaving Table

/-- A call of one of the operations. A plan change is what billing and the operators do to the entitlements. -/
inductive IdentityCall where
  | people (call : PeopleCall)
  | create (tenantId : Uuid) (principal : SessionPrincipal) (input : InviteCreateInput) (token : String)
      (inviteId userId : Uuid)
  | resend (tenantId inviteId : Uuid) (token : String)
  | revoke (tenantId inviteId : Uuid)
  | accept (tenantId : Uuid) (input : InviteAcceptInput) (userId : Uuid)
  | entitle (tenantId : Uuid) (seats : Option Nat)

inductive IdentityReply where
  | people (reply : PeopleReply)
  | created (result : Except IdentityError Identity.CreatedInvite)
  | resent (result : Except IdentityError Invite)
  | revoked (result : Except IdentityError Bool)
  | accepted (result : Except IdentityError Identity.AcceptedInvite)
  | entitled

def IdentityDb.withPeople (people : PeopleDb) (db : IdentityDb) : IdentityDb := { db with people }

def identityProgram (hashAuthToken : String → String) : IdentityCall → IdentityProg IdentityReply
  | .people call => ((peopleProgram call).zoom IdentityDb.people IdentityDb.withPeople .people).bind (.pure ∘ .people)
  | .create tenantId principal input token inviteId userId =>
    (Identity.create hashAuthToken tenantId principal input token inviteId userId).bind (.pure ∘ .created)
  | .resend tenantId inviteId token => (Identity.resend hashAuthToken tenantId inviteId token).bind (.pure ∘ .resent)
  | .revoke tenantId inviteId => (Identity.revoke tenantId inviteId).bind (.pure ∘ .revoked)
  | .accept tenantId input userId => (Identity.accept hashAuthToken tenantId input userId).bind (.pure ∘ .accepted)
  | .entitle tenantId seats => .atomic (.entitle tenantId seats) (fun db => ((), db.entitle tenantId seats)) fun _ =>
    .pure .entitled

abbrev IdentitySys := Sys IdentityStmt IdentityDb IdentityCall IdentityReply

abbrev IdentityRun (hashAuthToken : String → String) (db : IdentityDb) (s : IdentitySys) : Prop :=
  Reachable (identityProgram hashAuthToken) anyStep (.idle db) s

end WhatsappCrm
