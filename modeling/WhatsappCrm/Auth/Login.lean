/-
Purpose: Sessions (`session.service.ts`) over the cache of principals (`session-cache.service.ts`), signing in
  (`auth.service.ts`, `login-throttle.service.ts`), and forgotten-password recovery (`password-reset.service.ts`),
  running interleaved. What the redeeming transaction writes takes effect when it commits, as of the instant it began.
-/
import WhatsappCrm.Auth.Store

namespace WhatsappCrm.Auth

open Interleaving Table

variable (crypto : Crypto)

structure IssuedSession where
  tokenHash : String
  sessionId : Nat
  expiresAt : Millis

namespace AuthDb

variable (db : AuthDb)

/-- `SessionService.issue`; `none` is the unique violation of the token hash. -/
def issue (key : UserKey) (tokenHash password : String) : Option IssuedSession × AuthDb :=
  if db.sessions.any (·.tokenHash = tokenHash) then (none, db)
  else
    (some { tokenHash, sessionId := db.nextSession, expiresAt := db.now + sessionIdleMs },
      { db with
        nextSession := db.nextSession + 1
        sessions := db.sessions ++ [{
          id := db.nextSession, tenantId := key.1, userId := key.2, tokenHash, expiresAt := db.now + sessionIdleMs,
          absoluteExpiresAt := db.now + sessionAbsoluteMs, lastSeenAt := some db.now, password }] })

/-- The read of `resolve`: a live session of the tenant in scope, and its active user. -/
def resolved (tenantId : Uuid) (tokenHash : String) : Option (SessionRow × UserRow) :=
  match db.sessions.find? fun s => s.tokenHash = tokenHash && s.tenantId = tenantId && s.live db.now with
  | none => none
  | some s =>
    match db.findUser (s.tenantId, s.userId) with
    | none => none
    | some u => if u.status = .active then some (s, u) else none

def slides (sessionId : Nat) (s : SessionRow) : Bool :=
  s.id = sessionId && s.revokedAt.isNone && s.lastSeenAt.all (· < db.now - sessionSlideThrottleMs)

/-- `slide`: the deadline now in force. -/
def slide (row : SessionRow) : Millis × AuthDb :=
  if row.lastSeenAt.any fun lastSeenAt => db.now - lastSeenAt < sessionSlideThrottleMs then (row.expiresAt, db)
  else
    match db.sessions.find? (db.slides row.id) with
    | none => (row.expiresAt, db)
    | some s =>
      (min (db.now + sessionIdleMs) s.absoluteExpiresAt,
        { db with
          sessions := updateWhere (db.slides row.id)
            (fun s =>
              { s with
                expiresAt := min (db.now + sessionIdleMs) s.absoluteExpiresAt
                lastSeenAt := some db.now }) db.sessions })

def revocable (keys : List UserKey) (keepSessionId : Option Nat) : List Nat :=
  (db.sessions.filter fun s => keys.any (s.of ·) && s.revokedAt.isNone && keepSessionId ≠ some s.id).map (·.id)

def revoke (keys : List UserKey) (found : List Nat) : List Revocation × AuthDb :=
  (keys.map fun key =>
      { key, sessions := (db.sessions.filter fun s => found.contains s.id && s.revokedAt.isNone && s.of key).map (·.id) },
    { db with
      sessions := updateWhere (fun s => found.contains s.id && s.revokedAt.isNone) ({ · with revokedAt := some db.now })
        db.sessions })

def revokeOne (key : UserKey) (sessionId : Nat) : Option SessionRow × AuthDb :=
  let matching := fun s : SessionRow => s.id = sessionId && s.of key && s.revokedAt.isNone
  (db.sessions.find? matching,
    { db with sessions := updateWhere matching ({ · with revokedAt := some db.now }) db.sessions })

end AuthDb

def toPrincipal (row : SessionRow × UserRow) (expiresAt : Millis) : SessionPrincipal where
  userId := row.2.id
  tenantId := row.2.tenantId
  email := row.2.email
  role := row.2.role
  sessionId := row.1.id
  expiresAt

/-- `SessionCacheService.read`. -/
def cacheRead (tokenHash : String) : AuthProg (Option (Option SessionPrincipal)) :=
  redis .cacheRead fun now r => ((Expiring.find r.sess now tokenHash).map (·.value), r)

def cacheIfIndexed (tokenHash : String) (principal : SessionPrincipal) (expiresAt : Millis) : AuthProg Unit :=
  (redis .track fun now r => ((), r.track now (principal.tenantId, principal.userId) tokenHash)).bind fun indexed =>
    match indexed with
    | none => .pure ()
    | some _ =>
      (redis (.cacheWrite principal.sessionId) fun now r => ((), r.cache now tokenHash principal expiresAt)).bind
        fun _ => .pure ()

def resolve (token : String) (tenantId : Uuid) : AuthProg (Option SessionPrincipal) :=
  (cacheRead (crypto.sha256 token)).bind fun cached =>
    match cached.join.filter (·.tenantId = tenantId) with
    | some principal => .pure (some principal)
    | none =>
      (Prog.read .sessionRead (·.resolved tenantId (crypto.sha256 token))).bind fun row =>
        match row with
        | none => .pure none
        | some row =>
          (Prog.stmt .slide (·.slide row.1)).bind fun expiresAt =>
            (cacheIfIndexed (crypto.sha256 token) (toPrincipal row expiresAt) expiresAt).bind fun _ =>
              .pure (some (toPrincipal row expiresAt))

def deleteChunkSize : Nat := 256

/-- `chunked`, for at most this many chunks. -/
def chunked {α : Type} (size : Nat) : Nat → List α → List (List α)
  | 0, _ => []
  | fuel + 1, values => if values.isEmpty then [] else values.take size :: chunked size fuel (values.drop size)

def seek (revoked : List Nat) (r : Revocation) : AuthProg (Option (List String)) :=
  .stmt (.seek r revoked) fun db =>
    (if db.redis.up then some (db.redis.smembers db.now r.key) else none,
      { db with sought := r.sessions ++ db.sought })

/-- The pipeline of `SMEMBERS`. -/
def seekAll (revoked : List Nat) : List Revocation → AuthProg (Option (List String))
  | [] => .pure (some [])
  | r :: rest =>
    (seek revoked r).bind fun members =>
      match members with
      | none => .pure none
      | some members => (seekAll revoked rest).bind fun others => .pure (others.map (members ++ ·))

/-- The `DEL`s of a purge, one chunk after the other. -/
def delAll (revoked : List Nat) : List (List DoomedKey) → AuthProg Unit
  | [] => .pure ()
  | keys :: rest =>
    (redis (.del revoked) fun _ r => ((), r.del keys)).bind fun answer =>
      match answer with
      | none => .pure ()
      | some _ => delAll revoked rest

/-- What a purge deletes: the principals the indexes name, and with `dropIndex` the indexes, last. -/
def doomed (users : List Revocation) (dropIndex : Bool) (members : List String) : List DoomedKey :=
  members.map .sess ++ if dropIndex then users.map fun r => .userSessions r.key else []

/-- `SessionCacheService.purgeUsers`; before the commit no session has been revoked. -/
def purgeUsers (users : List Revocation) (dropIndex : Bool) : AuthProg Unit :=
  if users.isEmpty then .pure ()
  else
    (seekAll (users.flatMap (·.sessions)) users).bind fun members =>
      match members with
      | none => .pure ()
      | some members =>
        delAll (users.flatMap (·.sessions))
          (chunked deleteChunkSize (doomed users dropIndex members).length (doomed users dropIndex members))

def announceAll : List Revocation → AuthProg Unit
  | [] => .pure ()
  | r :: rest =>
    (Prog.stmt .announce fun db => ((), { db with revocations := r :: db.revocations })).bind fun _ => announceAll rest

/-- `purgeCacheForUsers`: the second purge. -/
def purgeCacheForUsers (users : List Revocation) : AuthProg Unit :=
  (purgeUsers users true).bind fun _ => announceAll users

/-- `revokeAllForUsers`, and the commit of the transaction it is part of. -/
def revokeAllForUsers (tenantId : Uuid) (userIds : List Uuid) (keepSessionId : Option Nat) : AuthProg (List Revocation) :=
  let keys := userIds.eraseDups.map fun userId => (tenantId, userId)
  (purgeUsers (keys.map fun key => { key, sessions := [] }) false).bind fun _ =>
    (Prog.read .revocable (·.revocable keys keepSessionId)).bind fun found =>
      Prog.stmt .revoke (·.revoke keys found)

def revokeSessions (tenantId : Uuid) (userIds : List Uuid) (keepSessionId : Option Nat) : AuthProg Unit :=
  (revokeAllForUsers tenantId userIds keepSessionId).bind purgeCacheForUsers

def logout (principal : SessionPrincipal) (allSessions : Bool) : AuthProg Unit :=
  if allSessions then revokeSessions principal.tenantId [principal.userId] none
  else
    (Prog.stmt .revoke (·.revokeOne (principal.tenantId, principal.userId) principal.sessionId)).bind fun row =>
      purgeCacheForUsers [{ key := (principal.tenantId, principal.userId), sessions := (row.map (·.id)).toList }]

def revokeOwn (principal : SessionPrincipal) (sessionId : Nat) : AuthProg Bool :=
  (Prog.stmt .revoke (·.revokeOne (principal.tenantId, principal.userId) sessionId)).bind fun row =>
    match row with
    | none => .pure false
    | some row =>
      (redis .forget fun _ r => ((), r.del [.sess row.tokenHash])).bind fun answer =>
        match answer with
        | none => .pure true
        | some _ =>
          (redis .forget fun _ r => ((), r.srem (principal.tenantId, principal.userId) row.tokenHash)).bind
            fun _ => .pure true

structure LoginCandidate where
  id : Uuid
  passwordHash : Option String
  status : UserStatus
  role : UserRole
  email : String
  locked : Bool
  lockSecondsRemaining : Int

def UserRow.candidate (u : UserRow) (now : Millis) : LoginCandidate where
  id := u.id
  passwordHash := u.passwordHash
  status := u.status
  role := u.role
  email := u.email
  locked := u.lockedUntil.any (now < ·)
  lockSecondsRemaining := max 0 ((u.lockedUntil.getD now - now + 500) / 1000)

def UserRow.windowedAttempts (u : UserRow) (now : Millis) : Nat :=
  if u.lastFailedLoginAt.all (· < now - loginLockoutMs) then 1 else u.failedLoginAttempts + 1

/-- The `SET` of `recordAccountFailure`. -/
def UserRow.recordFailure (u : UserRow) (now : Millis) : UserRow :=
  { u with
    failedLoginAttempts := u.windowedAttempts now
    lastFailedLoginAt := some now
    lockedUntil := if u.windowedAttempts now % loginFailureThreshold = 0 then some (now + loginLockoutMs) else u.lockedUntil }

namespace AuthDb

variable (db : AuthDb)

def findCandidate (tenantId : Uuid) (email : String) : Option LoginCandidate :=
  (db.findByEmail tenantId email).map (·.candidate db.now)

def recordAccountFailure (key : UserKey) : AuthDb :=
  { db with users := updateWhere (·.is key) (·.recordFailure db.now) db.users }

def resetLoginState (key : UserKey) (rehashed : Option String) : AuthDb :=
  { db with
    users := updateWhere (·.is key)
      (fun u =>
        { u with
          failedLoginAttempts := 0
          lockedUntil := none
          passwordHash := match rehashed with
            | none => u.passwordHash
            | some passwordHash => some passwordHash }) db.users }

def signIn (key : UserKey) (rehashed : Option String) (tokenHash password : String) : Option IssuedSession × AuthDb :=
  if db.users.any (·.is key) then
    match (db.resetLoginState key rehashed).issue key tokenHash password with
    | (none, _) => (none, db)
    | (some issued, db') => (some issued, db')
  else (none, db)

end AuthDb

def emailKey (tenantId : Uuid) (email : String) : Uuid × String := (tenantId, emailDigest crypto email)

/-- `assertEmailWithinLimit`: how the attempt is refused, when it is. -/
def assertEmailWithinLimit (tenantId : Uuid) (email : String) : AuthProg (Option LoginError) :=
  (redis .emailLock fun now r => (Expiring.remaining r.emaillock now (emailKey crypto tenantId email), r)).bind
    fun lockedForMs =>
      match lockedForMs with
      | none => .pure none
      | some lockedForMs =>
        if lockedForMs ≤ 0 then .pure none else .pure (some (.tooManyAttempts (secondsUntil lockedForMs)))

def recordEmailFailure (tenantId : Uuid) (email : String) : AuthProg Unit :=
  (redis .emailFailure fun now r => r.incr now (emailKey crypto tenantId email)).bind fun failures =>
    match failures with
    | none => .pure ()
    | some failures =>
      if failures % loginFailureThreshold ≠ 0 then .pure ()
      else
        (redis .lockEmail fun now r => ((), r.lock now (emailKey crypto tenantId email))).bind fun _ => .pure ()

def recordFailure (tenantId : Uuid) (userId : Option Uuid) (email : String) : AuthProg Unit :=
  match userId with
  | none => recordEmailFailure crypto tenantId email
  | some userId =>
    (Prog.stmt .accountFailure fun db => ((), db.recordAccountFailure (tenantId, userId))).bind fun _ =>
      recordEmailFailure crypto tenantId email

def clearEmailFailures (tenantId : Uuid) (email : String) : AuthProg Unit :=
  (redis .clearEmail fun _ r => ((), r.clear (emailKey crypto tenantId email))).bind fun _ => .pure ()

/-- A failed attempt, counted against the account when there is one. -/
def refuse (tenantId : Uuid) (userId : Option Uuid) (email : String) : AuthProg (Except LoginError SessionPrincipal) :=
  (recordFailure crypto tenantId userId email).bind fun _ => .pure (.error .invalidCredentials)

/-- `issueSession`: the transaction, and what follows its commit. -/
def issueSession (tenantId : Uuid) (candidate : LoginCandidate) (passwordHash plaintext : String) (draw : LoginDraw) :
    AuthProg (Except LoginError SessionPrincipal) :=
  let rehashed := if needsRehash crypto passwordHash then some (crypto.argon2 draw.salt plaintext) else none
  (Prog.stmt (.signIn (tenantId, candidate.id) plaintext)
      (·.signIn (tenantId, candidate.id) rehashed (crypto.sha256 draw.token) plaintext)).bind fun issued =>
    match issued with
    | none => .pure (.error .database)
    | some issued =>
      let principal : SessionPrincipal := {
        userId := candidate.id, tenantId, email := candidate.email, role := candidate.role,
        sessionId := issued.sessionId, expiresAt := issued.expiresAt }
      (cacheIfIndexed issued.tokenHash principal issued.expiresAt).bind fun _ =>
        (clearEmailFailures crypto tenantId candidate.email).bind fun _ => .pure (.ok principal)

def authenticate (tenantId : Uuid) (input : LoginInput) (context : LoginContext) (draw : LoginDraw) :
    Option LoginCandidate → AuthProg (Except LoginError SessionPrincipal)
  | none => refuse crypto tenantId none input.email
  | some candidate =>
    match candidate.passwordHash with
    | none => refuse crypto tenantId none input.email
    | some passwordHash =>
      if candidate.status ≠ .active then refuse crypto tenantId none input.email
      else if candidate.locked then .pure (.error (.accountLocked candidate.lockSecondsRemaining))
      else if !crypto.verify passwordHash input.password then
        refuse crypto tenantId (some candidate.id) input.email
      else if !tenantAdmitsRole context.tenantStatus candidate.role then .pure (.error .tenantNotActive)
      else issueSession crypto tenantId candidate passwordHash input.password draw

def login (tenantId : Uuid) (input : LoginInput) (context : LoginContext) (draw : LoginDraw) :
    AuthProg (Except LoginError SessionPrincipal) :=
  (assertEmailWithinLimit crypto tenantId input.email).bind fun refusal =>
    match refusal with
    | some error => .pure (.error error)
    | none =>
      (Prog.read .candidate (·.findCandidate tenantId input.email)).bind (authenticate crypto tenantId input context draw)

inductive Redemption where
  | notRedeemable
  | ownerInactive
  | reset (revocation : Revocation) (email : String)

abbrev ConfirmResult := Except TokenRejectionReason Unit

namespace AuthDb

variable (db : AuthDb)

def findResetToken (tenantId : Uuid) (tokenHash : String) : Option ResetTokenRow :=
  db.resetTokens.find? fun t => t.tenantId = tenantId && t.tokenHash = tokenHash

/-- The `WHERE` of the redeeming update, at the instant its transaction began. -/
def redeems (tenantId : Uuid) (tokenHash : String) (instant : Millis) (t : ResetTokenRow) : Bool :=
  t.tenantId = tenantId && t.tokenHash = tokenHash && t.consumedAt.isNone && instant < t.expiresAt

/-- Whose password the transaction is about to reset. -/
def redeemer (tenantId : Uuid) (tokenHash : String) (instant : Millis) : Option UserRow :=
  match db.resetTokens.find? (redeems tenantId tokenHash instant) with
  | none => none
  | some t => (db.findUser (tenantId, t.userId)).filter (·.status = .active)

def consume (p : ResetTokenRow → Bool) : AuthDb :=
  { db with resetTokens := updateWhere (fun t => p t && t.consumedAt.isNone) ({ · with consumedAt := some db.now }) db.resetTokens }

def setPassword (key : UserKey) (passwordHash : String) : AuthDb :=
  { db with
    users := updateWhere (·.is key)
      ({ · with passwordHash := some passwordHash, failedLoginAttempts := 0, lockedUntil := none }) db.users }

def redeem (tenantId : Uuid) (tokenHash : String) (instant : Millis) (passwordHash password : String) :
    Redemption × AuthDb :=
  match db.resetTokens.find? (redeems tenantId tokenHash instant) with
  | none => (.notRedeemable, db)
  | some t =>
    match (db.findUser (tenantId, t.userId)).filter (·.status = .active) with
    | none => (.ownerInactive, db.consume fun t => t.tenantId = tenantId && t.tokenHash = tokenHash)
    | some u =>
      let key : UserKey := (tenantId, t.userId)
      let found := db.revocable [key] none
      let db' := ((db.consume (·.of key)).setPassword key passwordHash).revoke [key] found
      (.reset { key, sessions := found } u.email, { db'.2 with resets := (key, password) :: db'.2.resets })

def issueResetToken (key : UserKey) (tokenHash : String) (expiresAt : Millis) : AuthDb :=
  { db.consume (·.of key) with
    resetTokens := (db.consume (·.of key)).resetTokens ++
      [{ tenantId := key.1, userId := key.2, tokenHash, expiresAt, createdAt := db.now }] }

end AuthDb

/-- `PasswordResetService.request`, with the token it draws. -/
def resetRequest (tenantId : Uuid) (email token : String) : AuthProg Unit :=
  (Prog.read .resetUser fun db => (db.findByEmail tenantId email).filter (·.status = .active)).bind fun user =>
    match user with
    | none => .pure ()
    | some user =>
      (Prog.read .resetCount fun db =>
          (db.now, (db.resetTokens.filter fun t =>
            t.of (tenantId, user.id) && db.now - 60 * 60 * 1000 ≤ t.createdAt).length)).bind fun issued =>
        if resetRequestsPerEmailPerHour ≤ issued.2 then .pure ()
        else
          Prog.stmt .resetIssue fun db =>
            ((), db.issueResetToken (tenantId, user.id) (crypto.sha256 token) (issued.1 + passwordResetTtlMs))

def classifyRejection (tenantId : Uuid) (tokenHash : String) : AuthProg ConfirmResult :=
  (Prog.read .resetToken (·.findResetToken tenantId tokenHash)).bind fun token =>
    match token with
    | none => .pure (.error .unknown)
    | some token => .pure (.error (if token.consumedAt.isSome then .consumed else .expired))

/-- What follows the commit of the redeeming transaction. -/
def redeemed (tenantId : Uuid) (tokenHash : String) : Redemption → AuthProg ConfirmResult
  | .notRedeemable => classifyRejection tenantId tokenHash
  | .ownerInactive => .pure (.error .revoked)
  | .reset revocation email =>
    (purgeCacheForUsers [revocation]).bind fun _ =>
      (clearEmailFailures crypto tenantId email).bind fun _ => .pure (.ok ())

/-- The purge before the revoking update of the redeeming transaction. -/
def firstPurge (tenantId : Uuid) : Option UserRow → AuthProg Unit
  | none => .pure ()
  | some user => purgeUsers [{ key := (tenantId, user.id), sessions := [] }] false

def redeemToken (tenantId : Uuid) (tokenHash passwordHash password : String) : AuthProg Redemption :=
  (Prog.read .resetBegin fun db => (db.now, db.redeemer tenantId tokenHash db.now)).bind fun begun =>
    (firstPurge tenantId begun.2).bind fun _ =>
      Prog.stmt .resetCommit (·.redeem tenantId tokenHash begun.1 passwordHash password)

/-- `PasswordResetService.confirm`, under the salt it draws. -/
def resetConfirm (tenantId : Uuid) (token password salt : String) : AuthProg ConfirmResult :=
  let tokenHash := crypto.sha256 token
  (Prog.read .resetToken (·.findResetToken tenantId tokenHash)).bind fun presented =>
    match presented with
    | none => .pure (.error .unknown)
    | some presented =>
      if presented.consumedAt.isSome then .pure (.error .consumed)
      else
        (redeemToken tenantId tokenHash (crypto.argon2 salt password) password).bind (redeemed crypto tenantId tokenHash)

inductive AuthCall where
  | login (tenantId : Uuid) (input : LoginInput) (context : LoginContext) (draw : LoginDraw)
  | resolve (token : String) (tenantId : Uuid)
  | logout (principal : SessionPrincipal) (allSessions : Bool)
  | revokeOwn (principal : SessionPrincipal) (sessionId : Nat)
  | revokeSessions (tenantId : Uuid) (userIds : List Uuid) (keepSessionId : Option Nat)
  | resetRequest (tenantId : Uuid) (email token : String)
  | resetConfirm (tenantId : Uuid) (token password salt : String)
  | tick (milliseconds : Nat)
  | reach (up : Bool)
deriving DecidableEq

inductive AuthReply where
  | loggedIn (result : Except LoginError SessionPrincipal)
  | resolved (principal : Option SessionPrincipal)
  | confirmed (result : ConfirmResult)
  | done
deriving DecidableEq

def authProgram (crypto : Crypto) : AuthCall → AuthProg AuthReply
  | .login tenantId input context draw => (login crypto tenantId input context draw).bind (.pure ∘ .loggedIn)
  | .resolve token tenantId => (resolve crypto token tenantId).bind (.pure ∘ .resolved)
  | .logout principal allSessions => (logout principal allSessions).bind fun _ => .pure .done
  | .revokeOwn principal sessionId => (revokeOwn principal sessionId).bind fun _ => .pure .done
  | .revokeSessions tenantId userIds keepSessionId =>
    (revokeSessions tenantId userIds keepSessionId).bind fun _ => .pure .done
  | .resetRequest tenantId email token => (resetRequest crypto tenantId email token).bind fun _ => .pure .done
  | .resetConfirm tenantId token password salt =>
    (resetConfirm crypto tenantId token password salt).bind (.pure ∘ .confirmed)
  | .tick milliseconds => .stmt .tick fun db => (.done, { db with now := db.now + milliseconds })
  | .reach up => .stmt .reach fun db => (.done, { db with redis := { db.redis with up } })

abbrev AuthSys := Sys AuthStmt AuthDb AuthCall AuthReply

/-- An account, for runs on fixed inputs. -/
def ada : UserRow where
  id := 1
  tenantId := 1
  email := "ada@acme.example"
  passwordHash := some "correct horse"

end WhatsappCrm.Auth
