/-
Purpose: The vocabulary of people management (`packages/contracts`: `users.ts`, `rbac.ts`), the tables it writes and its
  writes, one row at a time.
-/
import WhatsappCrm.Tickets.Store
import WhatsappCrm.Lib.Transaction

namespace WhatsappCrm

inductive UserWritableStatus where
  | active
  | suspended
deriving DecidableEq

def UserWritableStatus.status : UserWritableStatus → UserStatus
  | .active => .active
  | .suspended => .suspended

/-- The body of `PATCH /users/{id}`; `none` is an absent field, and an inner `none` of the cap an explicit null. -/
structure UserUpdateInput where
  displayName : Option String := none
  role : Option UserRole := none
  teamIds : Option (List Uuid) := none
  status : Option UserWritableStatus := none
  maxConcurrentTickets : Option (Option Nat) := none

structure UserUpdateData where
  name : Option String := none
  role : Option UserRole := none
  status : Option UserStatus := none
  maxConcurrentTickets : Option (Option Nat) := none
deriving DecidableEq

def UserUpdateData.write (data : UserUpdateData) (u : User) : User :=
  { u with
    name := data.name.getD u.name
    role := data.role.getD u.role
    status := data.status.getD u.status
    maxConcurrentTickets := data.maxConcurrentTickets.getD u.maxConcurrentTickets }

inductive PeopleError where
  | userNotFound (userId : Uuid)
  | selfRoleChange
  | roleAssignmentNotPermitted (role : UserRole)
  | roleEscalation (role ceiling : UserRole)
  | capacityChangeNotPermitted
  | lastAdminRequired
  | unknownReference (teamIds : List Uuid)
  | database (error : DbError)

def UserRole.seniority : UserRole → Nat
  | .agent => 0
  | .supervisor => 1
  | .admin => 2

def isRoleWithin (role ceiling : UserRole) : Bool := role.seniority ≤ ceiling.seniority

/-- `assertRoleAssignable`: what role a caller may hand to somebody else. -/
def assertRoleAssignable (role : UserRole) (principal : SessionPrincipal) : Except PeopleError Unit :=
  if !principal.permissions.contains .userSetRole then
    if role ≠ .agent then .error (.roleAssignmentNotPermitted role) else .ok ()
  else if !isRoleWithin role principal.role then .error (.roleEscalation role principal.role)
  else .ok ()

def assertMayChangeRole (userId : Uuid) (role : UserRole) (principal : SessionPrincipal) : Except PeopleError Unit :=
  if userId = principal.userId then .error .selfRoleChange else assertRoleAssignable role principal

def User.isActiveAdmin (u : User) : Bool := u.role = .admin ∧ u.status = .active

open Interleaving Table

structure ConversationHolder where
  id : Uuid
  tenantId : Uuid
  assignedUserId : Option Uuid

structure AssignmentState where
  id : Uuid
  tenantId : Uuid
  lastAssignedUserId : Option Uuid

structure AssignmentRule where
  id : Uuid
  tenantId : Uuid
  targetUserId : Option Uuid
  isActive : Bool

/-- `WORKFLOW_BROKEN_REASONS`, the two a user's departure writes. -/
inductive WorkflowBrokenReason where
  | referenceRemoved
  | referenceSuspended

/-- A row of `workflows`: whether it is armed, and why it cannot be. -/
structure WorkflowArming where
  id : Uuid
  tenantId : Uuid
  isActive : Bool
  brokenReason : Option WorkflowBrokenReason

structure WorkflowReference where
  id : Uuid
  tenantId : Uuid
  workflowId : Uuid
  userId : Option Uuid

structure Invite where
  id : Uuid
  tenantId : Uuid
  email : String
  role : UserRole
  tokenHash : String
  expiresAt : Millis
  acceptedAt : Option Millis
  revokedAt : Option Millis
deriving DecidableEq

structure PeopleDb where
  base : TicketDb := {}
  conversationHolders : List ConversationHolder := []
  assignmentStates : List AssignmentState := []
  assignmentRules : List AssignmentRule := []
  workflows : List WorkflowArming := []
  workflowReferences : List WorkflowReference := []
  invites : List Invite := []

def PeopleDb.findUser (db : PeopleDb) (tenantId userId : Uuid) : Option User :=
  db.base.users.find? fun u => u.id = userId ∧ u.tenantId = tenantId

inductive PeopleWrite where
  | lockAdmin (tenantId userId : Uuid)
  | updateUser (tenantId userId : Uuid) (data : UserUpdateData)
  | unassignConversation (tenantId userId conversationId : Uuid)
  | unassignTicket (tenantId userId ticketId : Uuid)
  | clearRotation (tenantId userId stateId : Uuid)
  | clearRule (tenantId userId ruleId : Uuid)
  | disarmWorkflow (tenantId workflowId : Uuid) (reason : WorkflowBrokenReason)
  | deleteReference (tenantId userId referenceId : Uuid)
  | deleteMembership (tenantId userId teamId : Uuid)
  | createMembership (tenantId userId teamId : Uuid)
  | revokeInvite (tenantId : Uuid) (email : String) (now : Millis) (inviteId : Uuid)

inductive PeopleRow where
  | user (u : User)
  | ticket (t : Ticket)
  | membership (m : TeamMember)
  | row (id : Uuid)
deriving DecidableEq

def User.named (tenantId userId : Uuid) (u : User) : Bool := u.tenantId = tenantId ∧ u.id = userId

def lockable (tenantId userId : Uuid) (u : User) : Bool := u.named tenantId userId && u.isActiveAdmin

def heldBy (tenantId userId ticketId : Uuid) (t : Ticket) : Bool :=
  t.tenantId = tenantId ∧ t.id = ticketId ∧ t.assignedUserId = some userId

def PeopleWrite.apply (w : PeopleWrite) (db : PeopleDb) : Except PeopleError (List PeopleRow × PeopleDb) :=
  match w with
  | .lockAdmin tenantId userId => .ok ((db.base.users.filter (lockable tenantId userId)).map .user, db)
  | .updateUser tenantId userId data =>
    .ok ((db.base.users.filter (User.named tenantId userId)).map .user,
      { db with base := { db.base with
          users := updateWhere (User.named tenantId userId) data.write db.base.users } })
  | .unassignTicket tenantId userId ticketId =>
    .ok ((db.base.tickets.filter (heldBy tenantId userId ticketId)).map .ticket,
      { db with base := { db.base with
          tickets := updateWhere (heldBy tenantId userId ticketId)
            (fun t => { t with assignedUserId := none }) db.base.tickets } })
  | .unassignConversation tenantId userId conversationId =>
    let guard := fun c : ConversationHolder =>
      c.tenantId = tenantId ∧ c.id = conversationId ∧ c.assignedUserId = some userId
    .ok ((db.conversationHolders.filter guard).map (.row ·.id),
      { db with
        conversationHolders := updateWhere (guard ·)
          (fun c => { c with assignedUserId := none }) db.conversationHolders })
  | .clearRotation tenantId userId stateId =>
    let guard := fun s : AssignmentState =>
      s.tenantId = tenantId ∧ s.id = stateId ∧ s.lastAssignedUserId = some userId
    .ok ((db.assignmentStates.filter guard).map (.row ·.id),
      { db with
        assignmentStates := updateWhere (guard ·) (fun s => { s with lastAssignedUserId := none }) db.assignmentStates })
  | .clearRule tenantId userId ruleId =>
    let guard := fun r : AssignmentRule =>
      r.tenantId = tenantId ∧ r.id = ruleId ∧ r.targetUserId = some userId
    .ok ((db.assignmentRules.filter guard).map (.row ·.id),
      { db with
        assignmentRules := updateWhere (guard ·)
          (fun r => { r with targetUserId := none, isActive := false }) db.assignmentRules })
  | .disarmWorkflow tenantId workflowId reason =>
    let guard := fun f : WorkflowArming => f.tenantId = tenantId ∧ f.id = workflowId
    .ok ((db.workflows.filter guard).map (.row ·.id),
      { db with
        workflows := updateWhere (guard ·)
          (fun f => { f with isActive := false, brokenReason := some reason }) db.workflows })
  | .deleteReference tenantId userId referenceId =>
    let guard := fun r : WorkflowReference =>
      r.tenantId = tenantId ∧ r.id = referenceId ∧ r.userId = some userId
    .ok ((db.workflowReferences.filter guard).map (.row ·.id),
      { db with workflowReferences := db.workflowReferences.filter fun r => ¬ guard r })
  | .deleteMembership tenantId userId teamId =>
    let member : TeamMember := { tenantId, teamId, userId }
    .ok ((db.base.teamMembers.filter (· = member)).map .membership,
      { db with base := { db.base with teamMembers := db.base.teamMembers.filter (· ≠ member) } })
  | .createMembership tenantId userId teamId =>
    let member : TeamMember := { tenantId, teamId, userId }
    if db.base.teamMembers.contains member then .error (.database .uniqueViolation)
    else
      .ok ([.membership member],
        { db with base := { db.base with teamMembers := db.base.teamMembers ++ [member] } })
  | .revokeInvite tenantId email now inviteId =>
    let guard := fun i : Invite =>
      i.tenantId = tenantId ∧ i.id = inviteId ∧ i.email = email ∧ i.acceptedAt = none ∧ i.revokedAt = none
    .ok ((db.invites.filter guard).map (.row ·.id),
      { db with invites := updateWhere (guard ·) (fun i => { i with revokedAt := some now }) db.invites })

def peopleWrites : Writes PeopleDb PeopleWrite PeopleRow PeopleError where
  apply := PeopleWrite.apply
  conflict := .database .serializationFailure

/-- The statements of people management. A write of a user says what the transaction had read of it. -/
inductive PeopleStmt where
  | ticket (stmt : Stmt)
  | readUser (userId : Uuid)
  | scan
  | lockAdmin (userId : Uuid)
  | writeUser (before : User) (data : UserUpdateData)
  | unassignTicket (tenantId userId ticketId : Uuid)
  | clear
  | commit

abbrev PeopleTx := Tx PeopleStmt PeopleDb PeopleWrite PeopleRow PeopleError

abbrev PeopleProg := Prog PeopleStmt PeopleDb

/-- The rows of a statement, one after the other: those that still match. -/
def updateEach (tag : Uuid → PeopleStmt) (write : Uuid → PeopleWrite) : List Uuid → PeopleTx (List PeopleRow)
  | [] => pure []
  | id :: ids => do
    let rows ← .execute (tag id) (write id)
    let rest ← updateEach tag write ids
    pure (rows ++ rest)

/-- `updateMany`, `deleteMany` and `SELECT … FOR UPDATE`. -/
def updateMany (tag : Uuid → PeopleStmt) (find : PeopleDb → List Uuid) (write : Uuid → PeopleWrite) :
    PeopleTx (List PeopleRow) := do
  let ids ← .query .scan find
  updateEach tag write ids

end WhatsappCrm
