/-
Purpose: Sockets from the ticket they spend to the revocation that closes them (`realtime-ticket.service.ts`,
  `realtime-handshake.service.ts`, `realtime.gateway.ts`), over the sessions of the auth layer.
-/
import WhatsappCrm.Auth.Login

namespace WhatsappCrm.Realtime

open Interleaving Table
open Auth (AuthDb SessionRow UserRow UserKey)

def realtimeTicketTtlMs : Int := 60 * 1000

/-- What a ticket authorises, as it was at the issue. -/
structure RealtimeTicketClaims where
  userId : Uuid
  tenantId : Uuid
  role : UserRole
  sessionId : Nat

/-- A connected socket, with the principal its handshake resolved; its `user:{id}` room is that principal's. -/
structure Socket where
  id : Nat
  principal : Auth.SessionPrincipal
deriving DecidableEq

structure SocketDb where
  auth : AuthDb := {}
  /-- The tenants `assert_tenant_active` lets through. -/
  serviceable : List Uuid := []
  /-- Whether the Redis adapter of the socket server reaches the other replicas. -/
  adapterUp : Bool := true
  tickets : Expiring.Store String RealtimeTicketClaims := []
  sockets : List Socket := []
  /-- The id the next socket is given. -/
  nextSocket : Nat := 0
  /-- The tickets that were stored: a record nothing reads. -/
  issued : List String := []
  /-- The tickets that admitted a socket: a record nothing reads. -/
  admitted : List String := []
  /-- The sockets that went away by themselves: a record nothing reads. -/
  left : List Nat := []
  /-- The sessions whose revocation has looked up the sockets of its user: a record nothing reads. -/
  looked : List Nat := []

/-- The statements. A connection says which session its socket is of, a lookup the sessions its commit revoked. -/
inductive SocketStmt where
  | issue
  | consume
  | resolve
  | connect (sessionId : Nat)
  | revocable
  | commit
  | fetch (revoked : List Nat)
  | recheck (tenantId : Uuid)
  | disconnect
  | read
  | slide (sessionId : Nat)
  | activate (key : UserKey)
  | surroundings

abbrev SocketProg := Prog SocketStmt SocketDb

inductive SocketError where
  | tenantNotActive (tenantId : Uuid)

def activeUser (auth : AuthDb) (key : UserKey) : Bool := (auth.findUser key).any (·.status = .active)

def principalOf (auth : AuthDb) (s : SessionRow) : Option Auth.SessionPrincipal :=
  if s.live auth.now && activeUser auth (s.tenantId, s.userId) then
    (auth.findUser (s.tenantId, s.userId)).map fun u => Auth.toPrincipal (s, u) s.expiresAt
  else none

namespace SocketDb

variable (db : SocketDb)

def put (ticketHash : String) (claims : RealtimeTicketClaims) : Bool × SocketDb :=
  if db.auth.redis.up then
    match Expiring.find db.tickets db.auth.now ticketHash with
    | some _ => (false, db)
    | none =>
      (true,
        { db with
          tickets := Expiring.put db.tickets ticketHash claims (db.auth.now + realtimeTicketTtlMs)
          issued := ticketHash :: db.issued })
  else (false, db)

def consume (ticketHash : String) : Option RealtimeTicketClaims × SocketDb :=
  if db.auth.redis.up then
    ((Expiring.find db.tickets db.auth.now ticketHash).map (·.value),
      { db with tickets := Expiring.erase db.tickets (· = ticketHash) })
  else (none, db)

/-- `SessionService.resolveBySessionId`, in the scope of a tenant. -/
def resolveBySessionId (tenantId : Uuid) (sessionId : Nat) : Except SocketError (Option Auth.SessionPrincipal) :=
  if db.serviceable.contains tenantId then
    .ok (db.auth.sessions.findSome? fun s =>
      if s.id = sessionId && s.tenantId = tenantId then principalOf db.auth s else none)
  else .error (.tenantNotActive tenantId)

/-- The middleware lets the socket through, and `handleConnection` joins its rooms. -/
def connect (ticketHash : String) (principal : Auth.SessionPrincipal) : SocketDb :=
  { db with
    sockets := db.sockets ++ [{ id := db.nextSocket, principal }]
    nextSocket := db.nextSocket + 1
    admitted := ticketHash :: db.admitted }

def disconnect (socket : Socket) : SocketDb :=
  if db.adapterUp then { db with sockets := db.sockets.filter (· ≠ socket) } else db

def fetchSockets (userId : Uuid) : Option (List Socket) :=
  if db.adapterUp then some (db.sockets.filter (·.principal.userId = userId)) else none

end SocketDb

/-- Which sessions of a user a revocation ends. -/
inductive RevocationScope where
  /-- `revokeAllForUser`. -/
  | all (keepSessionId : Option Nat)
  /-- `revokeOne`. -/
  | one (sessionId : Nat)
deriving DecidableEq

namespace SocketDb

variable (db : SocketDb)

/-- The sessions a revoking update finds; `none` when the caller has found no such user in the tenant. -/
def revocable (key : UserKey) (scope : RevocationScope) : Option (List Nat) :=
  if db.auth.users.any (·.is key) then
    match scope with
    | .all keepSessionId => some (db.auth.revocable [key] keepSessionId)
    | .one sessionId => some ((db.auth.revocable [key] none).filter (· = sessionId))
  else none

def suspended (key : UserKey) (users : List UserRow) : List UserRow :=
  updateWhere (·.is key) ({ · with status := .suspended }) users

def commitRevocation (key : UserKey) (found : List Nat) (suspends : Bool) : List Nat × SocketDb :=
  let revoked := db.auth.revoke [key] found
  (revoked.1.flatMap (·.sessions),
    { db with
      auth := { revoked.2 with users := if suspends then suspended key revoked.2.users else revoked.2.users } })

end SocketDb

/-- `RealtimeTicketService.issue`: whether there is a ticket to hand out. -/
def issue (principal : Auth.SessionPrincipal) (ticketHash : String) : SocketProg Bool :=
  .stmt .issue
    (·.put ticketHash {
      userId := principal.userId, tenantId := principal.tenantId, role := principal.role,
      sessionId := principal.sessionId })

/-- `RealtimeHandshakeService.authenticate`, and the connection it leads to: whether there is one. -/
def authenticate (ticketHash : String) : SocketProg Bool :=
  (Prog.stmt .consume (·.consume ticketHash)).bind fun claims =>
    match claims with
    | none => .pure false
    | some claims =>
      (Prog.read .resolve (·.resolveBySessionId claims.tenantId claims.sessionId)).bind fun answer =>
        match answer with
        | .error _ => .pure false
        | .ok none => .pure false
        | .ok (some principal) =>
          if principal.tenantId ≠ claims.tenantId ∨ principal.userId ≠ claims.userId then .pure false
          else
            (Prog.stmt (.connect principal.sessionId) fun db => ((), db.connect ticketHash principal)).bind
              fun _ => .pure true

/-- The loop of `onSessionsRevoked`; an error ends it. -/
def recheckAll (tenantId : Uuid) : List Socket → SocketProg Unit
  | [] => .pure ()
  | socket :: sockets =>
    (Prog.read (.recheck tenantId) (·.resolveBySessionId tenantId socket.principal.sessionId)).bind fun answer =>
      match answer with
      | .error _ => .pure ()
      | .ok (some _) => recheckAll tenantId sockets
      | .ok none =>
        (Prog.stmt .disconnect fun db => ((), db.disconnect socket)).bind fun _ => recheckAll tenantId sockets

/-- `onSessionsRevoked`, for the event of a commit that revoked these sessions. -/
def onSessionsRevoked (key : UserKey) (revoked : List Nat) : SocketProg Unit :=
  (Prog.stmt (.fetch revoked) fun db => (db.fetchSockets key.2, { db with looked := revoked ++ db.looked })).bind
    fun sockets =>
      match sockets with
      | none => .pure ()
      | some sockets => recheckAll key.1 sockets

/-- A revocation: its transaction, and the handler of its event. One that ends the sessions of several users at once is
    one of these for each of them. -/
def revoke (key : UserKey) (scope : RevocationScope) (suspends : Bool) : SocketProg (List Nat) :=
  (Prog.read .revocable (·.revocable key scope)).bind fun found =>
    match found with
    | none => .pure []
    | some found =>
      (Prog.stmt .commit (·.commitRevocation key found suspends)).bind fun revoked =>
        (onSessionsRevoked key revoked).bind fun _ => .pure revoked

inductive SocketCall where
  | issue (principal : Auth.SessionPrincipal) (ticketHash : String)
  | handshake (ticketHash : String)
  | revoke (key : UserKey) (scope : RevocationScope) (suspends : Bool)
  /-- A user signs in. -/
  | signIn (key : UserKey) (tokenHash password : String)
  /-- A request of a session, which moves its deadline. -/
  | request (tenantId : Uuid) (tokenHash : String)
  /-- A user is made active again. -/
  | activate (key : UserKey)
  /-- A tab closes. -/
  | leave (socketId : Nat)
  | advance (milliseconds : Nat)
  /-- Tenants are suspended and reinstated, and the two uses of Redis fail and recover. -/
  | operate (serviceable : List Uuid) (adapterUp redisUp : Bool)
deriving DecidableEq

inductive SocketReply where
  | ticket (stored : Bool)
  | connected (yes : Bool)
  | revoked (sessions : List Nat)
  | done
deriving DecidableEq

def socketProgram : SocketCall → SocketProg SocketReply
  | .issue principal ticketHash => (issue principal ticketHash).bind (.pure ∘ .ticket)
  | .handshake ticketHash => (authenticate ticketHash).bind (.pure ∘ .connected)
  | .revoke key scope suspends => (revoke key scope suspends).bind (.pure ∘ .revoked)
  | .signIn key tokenHash password =>
    .stmt .surroundings fun db => (.done, { db with auth := (db.auth.signIn key none tokenHash password).2 })
  | .request tenantId tokenHash =>
    (Prog.read .read (·.auth.resolved tenantId tokenHash)).bind fun row =>
      match row with
      | none => .pure .done
      | some row => .stmt (.slide row.1.id) fun db => (.done, { db with auth := (db.auth.slide row.1).2 })
  | .activate key =>
    .stmt (.activate key) fun db =>
      (.done,
        { db with
          auth := { db.auth with users := updateWhere (·.is key) ({ · with status := .active }) db.auth.users } })
  | .leave socketId =>
    .stmt .surroundings fun db =>
      (.done, { db with sockets := db.sockets.filter (·.id ≠ socketId), left := socketId :: db.left })
  | .advance milliseconds =>
    .stmt .surroundings fun db => (.done, { db with auth := { db.auth with now := db.auth.now + milliseconds } })
  | .operate serviceable adapterUp redisUp =>
    .stmt .surroundings fun db =>
      (.done,
        { db with
          serviceable, adapterUp
          auth := { db.auth with redis := { db.auth.redis with up := redisUp } } })

abbrev SocketSys := Sys SocketStmt SocketDb SocketCall SocketReply

end WhatsappCrm.Realtime
