/-
Purpose: The vocabulary of signing in (`packages/contracts/src/auth.ts`, `identity.errors.ts`), password hashing
  (`password.service.ts`) with argon2 and SHA-256 as parameters, and what is kept in Postgres and in Redis, which read
  one clock.
-/
import WhatsappCrm.Lib.Expiring
import WhatsappCrm.Lifecycle.Store

namespace WhatsappCrm.Auth

open Lifecycle (TenantStatus)

def sessionIdleMs : Int := 12 * 60 * 60 * 1000

def sessionAbsoluteMs : Int := 30 * 24 * 60 * 60 * 1000

def sessionSlideThrottleMs : Int := 5 * 60 * 1000

def sessionCacheTtlMs : Int := 60 * 1000

def passwordResetTtlMs : Int := 60 * 60 * 1000

def loginFailureThreshold : Nat := 10

def loginLockoutMs : Int := 15 * 60 * 1000

def resetRequestsPerEmailPerHour : Nat := 5

def passwordHashMemoryKib : Int := 19456

def passwordHashTimeCost : Int := 2

def passwordHashParallelism : Int := 1

def lockoutPolicy : Lockout.Policy where
  threshold := loginFailureThreshold
  period := loginLockoutMs

structure Argon2Parameters where
  m : Int
  t : Int
  p : Int

/-- What the services take from the argon2 binding and from `node:crypto`. -/
structure Crypto where
  /-- SHA-256, as hex. -/
  sha256 : String → String
  /-- `hash(plaintext, ARGON2_OPTIONS)` under a salt. -/
  argon2 : String → String → String
  /-- `verify(encoded, plaintext)`; a string it cannot read verifies nothing. -/
  verify : String → String → Bool
  /-- `parsePhcParameters`. -/
  parsePhcParameters : String → Option Argon2Parameters

/-- A hash verifies the password it was made of and no other. -/
def Crypto.Lawful (crypto : Crypto) : Prop :=
  ∀ salt plaintext presented, crypto.verify (crypto.argon2 salt plaintext) presented = true ↔ presented = plaintext

/-- Hashes that can be read, for runs on fixed inputs: every password is its own hash, made with parameters nobody can
    tell. -/
def Crypto.transparent : Crypto where
  sha256 value := value
  argon2 _ plaintext := plaintext
  verify encoded plaintext := encoded = plaintext
  parsePhcParameters _ := none

theorem Crypto.transparent_lawful : Crypto.transparent.Lawful := by
  intro salt plaintext presented
  simp [Crypto.transparent, eq_comm]

def needsRehash (crypto : Crypto) (encoded : String) : Bool :=
  match crypto.parsePhcParameters encoded with
  | none => true
  | some parameters =>
    parameters.m < passwordHashMemoryKib || parameters.t < passwordHashTimeCost || parameters.p < passwordHashParallelism

/-- What a `citext` comparison of two addresses compares. The addresses a request may carry are ASCII. -/
def citext (email : String) : String := email.toLower

/-- `emailDigest`; the addresses a request may carry have no blanks to trim. -/
def emailDigest (crypto : Crypto) (email : String) : String := String.ofList ((crypto.sha256 email.toLower).toList.take 32)

structure LoginInput where
  email : String
  password : String
deriving DecidableEq

/-- What the services know of a request beside its body: the status of the tenant in scope, when one is. -/
structure LoginContext where
  tenantStatus : Option TenantStatus := none
deriving DecidableEq

structure LoginDraw where
  token : String
  salt : String
deriving DecidableEq

/-- What a sign-in throws. -/
inductive LoginError where
  | invalidCredentials
  | accountLocked (retryAfterSeconds : Int)
  | tooManyAttempts (retryAfterSeconds : Int)
  | tenantNotActive
  | database
deriving DecidableEq

def LoginError.rejected : LoginError → Bool
  | .invalidCredentials | .accountLocked _ | .tooManyAttempts _ => true
  | .tenantNotActive | .database => false

structure SessionPrincipal where
  userId : Uuid
  tenantId : Uuid
  email : String
  role : UserRole
  sessionId : Nat
  expiresAt : Millis
deriving DecidableEq

inductive TokenRejectionReason where
  | unknown
  | expired
  | consumed
  | revoked
deriving DecidableEq

/-- `TENANT_STATUS_EFFECTS`, the column of the API. -/
def apiAccess : TenantStatus → Bool
  | .trialing | .active | .pastDue => true
  | .created | .suspended | .cancelled | .deleted => false

/-- `assertTenantAdmitsRole`. -/
def tenantAdmitsRole (status : Option TenantStatus) (role : UserRole) : Bool :=
  match status with
  | none => true
  | some status => apiAccess status || role = .admin

/-- `secondsUntil` a deadline this far away. -/
def secondsUntil (milliseconds : Int) : Int := max 1 ((milliseconds + 999) / 1000)

open Interleaving Table

structure UserRow where
  id : Uuid
  tenantId : Uuid
  email : String
  passwordHash : Option String := none
  status : UserStatus := .active
  role : UserRole := .agent
  failedLoginAttempts : Nat := 0
  lastFailedLoginAt : Option Millis := none
  lockedUntil : Option Millis := none

structure SessionRow where
  id : Nat
  tenantId : Uuid
  userId : Uuid
  tokenHash : String
  expiresAt : Millis
  absoluteExpiresAt : Millis
  revokedAt : Option Millis := none
  lastSeenAt : Option Millis := none
  /-- The password of the sign-in that issued it: a record nothing of the product reads. -/
  password : String

structure ResetTokenRow where
  tenantId : Uuid
  userId : Uuid
  tokenHash : String
  expiresAt : Millis
  consumedAt : Option Millis := none
  createdAt : Millis

abbrev UserKey := Uuid × Uuid

def UserRow.is (key : UserKey) (u : UserRow) : Bool := u.tenantId = key.1 && u.id = key.2

def SessionRow.of (key : UserKey) (s : SessionRow) : Bool := s.tenantId = key.1 && s.userId = key.2

def ResetTokenRow.of (key : UserKey) (t : ResetTokenRow) : Bool := t.tenantId = key.1 && t.userId = key.2

def SessionRow.live (s : SessionRow) (now : Millis) : Bool :=
  s.revokedAt.isNone && now < s.expiresAt && now < s.absoluteExpiresAt

structure AuthRedis where
  /-- Whether it answers. -/
  up : Bool := true
  /-- `sess:{tokenHash}`. -/
  sess : Expiring.Store String SessionPrincipal := []
  /-- `tenant:{tenantId}:user:{userId}:sessions`. -/
  userSessions : Expiring.Store UserKey (List String) := []
  /-- `emailfail:{tenantId}:{emailDigest}`. -/
  emailfail : Expiring.Store (Uuid × String) Nat := []
  /-- `emaillock:{tenantId}:{emailDigest}`. -/
  emaillock : Expiring.Store (Uuid × String) Unit := []

inductive DoomedKey where
  | sess (tokenHash : String)
  | userSessions (key : UserKey)
deriving DecidableEq

namespace AuthRedis

variable (r : AuthRedis) (now : Millis)

def smembers (key : UserKey) : List String :=
  match Expiring.find r.userSessions now key with
  | none => []
  | some e => e.value

/-- The `MULTI` of `track`: `SADD` and `PEXPIRE`. -/
def track (key : UserKey) (tokenHash : String) : AuthRedis :=
  { r with
    userSessions := Expiring.put r.userSessions key ((r.smembers now key).insert tokenHash) (now + sessionAbsoluteMs) }

/-- `SET … PX` of a principal, for no longer than the session lasts. -/
def cache (tokenHash : String) (principal : SessionPrincipal) (expiresAt : Millis) : AuthRedis :=
  if min sessionCacheTtlMs (expiresAt - now) ≤ 0 then r
  else { r with sess := Expiring.put r.sess tokenHash principal (now + min sessionCacheTtlMs (expiresAt - now)) }

def del (keys : List DoomedKey) : AuthRedis :=
  { r with
    sess := Expiring.erase r.sess fun tokenHash => keys.contains (.sess tokenHash)
    userSessions := Expiring.erase r.userSessions fun key => keys.contains (.userSessions key) }

def srem (key : UserKey) (tokenHash : String) : AuthRedis :=
  { r with
    userSessions := r.userSessions.map fun e =>
      if e.key = key then { e with value := e.value.filter (· ≠ tokenHash) } else e }

/-- The `MULTI` of a counted failure: `INCR` and `PEXPIRE`. -/
def incr (key : Uuid × String) : Nat × AuthRedis :=
  let failures := ((Expiring.find r.emailfail now key).map (·.value)).getD 0 + 1
  (failures, { r with emailfail := Expiring.put r.emailfail key failures (now + loginLockoutMs) })

def lock (key : Uuid × String) : AuthRedis :=
  { r with emaillock := Expiring.put r.emaillock key () (now + loginLockoutMs) }

def clear (key : Uuid × String) : AuthRedis :=
  { r with
    emailfail := Expiring.erase r.emailfail (· = key)
    emaillock := Expiring.erase r.emaillock (· = key) }

end AuthRedis

structure Revocation where
  key : UserKey
  sessions : List Nat
deriving DecidableEq

structure AuthDb where
  now : Millis := 0
  users : List UserRow := []
  sessions : List SessionRow := []
  resetTokens : List ResetTokenRow := []
  /-- The id the next session is given. -/
  nextSession : Nat := 0
  redis : AuthRedis := {}
  /-- What the passwords were reset to, the last first. -/
  resets : List (UserKey × String) := []
  /-- The sessions a second purge has read the index for. -/
  sought : List Nat := []
  /-- The revocations whose second purge has completed. -/
  revocations : List Revocation := []

inductive AuthStmt where
  | emailLock
  | candidate
  | accountFailure
  | emailFailure
  | lockEmail
  | clearEmail
  /-- The transaction of a sign-in that presented this password. -/
  | signIn (key : UserKey) (password : String)
  | cacheRead
  | sessionRead
  | slide
  | track
  /-- A principal of this session is written to the cache. -/
  | cacheWrite (sessionId : Nat)
  /-- A purge reads the index of a user; a second purge names the sessions its commit revoked, of all its users. -/
  | seek (r : Revocation) (revoked : List Nat)
  /-- A purge deletes keys; a second purge names the sessions its commit revoked. -/
  | del (revoked : List Nat)
  | revocable
  | revoke
  | announce
  | forget
  | resetUser
  | resetCount
  | resetIssue
  | resetToken
  | resetBegin
  | resetCommit
  | tick
  | reach

abbrev AuthProg := Prog AuthStmt AuthDb

/-- `AuthRedisClient.run` of one command: `none` when Redis does not answer. -/
def redis {β : Type} (tag : AuthStmt) (command : Millis → AuthRedis → β × AuthRedis) : AuthProg (Option β) :=
  .stmt tag fun db =>
    if db.redis.up then
      (some (command db.now db.redis).1, { db with redis := (command db.now db.redis).2 })
    else (none, db)

namespace AuthDb

variable (db : AuthDb)

def findUser (key : UserKey) : Option UserRow := db.users.find? (·.is key)

def findByEmail (tenantId : Uuid) (email : String) : Option UserRow :=
  db.users.find? fun u => u.tenantId = tenantId ∧ citext u.email = citext email

end AuthDb

end WhatsappCrm.Auth
