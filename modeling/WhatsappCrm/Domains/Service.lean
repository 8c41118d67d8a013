/-
Purpose: A tenant's hostnames: `tenant_domains`, the DNS challenge, and `TenantDomainsService`,
  `DomainVerificationSweeper` and `AdminDomainsService`, statement by statement.
-/
import WhatsappCrm.Lib.Transaction
import WhatsappCrm.Ai.Contract
import WhatsappCrm.Lib.Keyset

namespace WhatsappCrm.Domains

open Interleaving Table

variable (token : String)

inductive TenantDomainKind where
  | platform
  | custom
deriving DecidableEq

inductive DomainVerificationFailureReason where
  | recordNotFound
  | recordMismatch
  | lookupTimeout
  | lookupFailed
deriving DecidableEq

/-- Proved, or not proved and why. -/
inductive OwnershipOutcome where
  | proved
  | unproved (reason : DomainVerificationFailureReason)
deriving DecidableEq

def OwnershipOutcome.reason? : OwnershipOutcome → Option DomainVerificationFailureReason
  | .proved => none
  | .unproved reason => some reason

/-- What a nameserver answers: the `TXT` records, each in chunks, or the code of an error. -/
inductive DnsReply where
  | records (records : List (List String))
  | failed (code : String)

def domainChallengeRecordName (hostname : String) : String := "_whatsappcrm-challenge." ++ hostname

def domainChallengeRecordValue : String := "whatsappcrm-domain-verification=" ++ token

def classify (code : String) : DomainVerificationFailureReason :=
  if ["ENOTFOUND", "ENODATA", "NXDOMAIN"].contains code then .recordNotFound
  else if ["ETIMEOUT", "ETIMEDOUT", "ECONNREFUSED"].contains code then .lookupTimeout
  else .lookupFailed

def provesToken (records : List (List String)) : Bool :=
  records.any fun chunks => Ai.trim (chunks.flatMap String.toList) = (domainChallengeRecordValue token).toList

/-- `DomainOwnershipChecker.check`, on what the nameserver answered. -/
def check (reply : DnsReply) : OwnershipOutcome :=
  match reply with
  | .failed code => .unproved (classify code)
  | .records records =>
    if records = [] then .unproved .recordNotFound
    else if provesToken token records then .proved
    else .unproved .recordMismatch

def DnsReply.Proves (reply : DnsReply) : Prop := check token reply = .proved

structure TenantDomain where
  id : Uuid
  tenantId : Uuid
  hostname : String
  kind : TenantDomainKind := .platform
  verifiedAt : Option Millis := none
  isPrimary : Bool := false
  verificationToken : Option String := none
  verificationRequestedAt : Option Millis := none
  verificationLastCheckedAt : Option Millis := none
  verificationAttempts : Nat := 0
  verificationFailureReason : Option DomainVerificationFailureReason := none
  activatedAt : Option Millis := none
  createdAt : Millis
deriving DecidableEq

variable (d : TenantDomain)

structure DnsAnswer where
  hostname : String
  reply : DnsReply

structure DomainDb where
  now : Millis := 0
  /-- The tenants `assert_tenant_serviceable` lets through. -/
  serviceable : List Uuid := []
  domains : List TenantDomain := []
  /-- What the nameservers answer, name by name. -/
  dns : List (String × DnsReply) := []
  /-- The answers the lookups got: a record nothing reads. -/
  answers : List DnsAnswer := []
  /-- The rows tenants have removed: a record nothing reads. -/
  removed : List Uuid := []

def citext (text : String) : String := text.toLower

namespace TenantDomain

def idEntry : Option Uuid := some d.id

def hostnameEntry : Option String := some (citext d.hostname)

/-- The entry in `tenant_domains_one_primary`. -/
def primaryEntry : Option Uuid := if d.isPrimary then some d.tenantId else none

/-- The row under an id, where row-level security lets the statement see it: a system statement names no tenant. -/
def named (scope : Option Uuid) (id : Uuid) (d : TenantDomain) : Bool := d.id = id && scope.all (d.tenantId = ·)

/-- An unverified claim that was made before the cutoff. -/
def lapsed (cutoff : Millis) (d : TenantDomain) : Bool :=
  d.kind = .custom ∧ d.verifiedAt = none ∧ ∃ t ∈ d.verificationRequestedAt, t < cutoff

def recordOutcome (now : Millis) (outcome : OwnershipOutcome) (d : TenantDomain) : TenantDomain :=
  { d with
    verificationLastCheckedAt := some now
    verificationAttempts := d.verificationAttempts + 1
    verifiedAt := if outcome = .proved then some now else none
    verificationFailureReason := outcome.reason? }

def refresh (now : Millis) (d : TenantDomain) : TenantDomain :=
  { d with
    verificationToken := some token
    verificationRequestedAt := some now
    verificationAttempts := 0
    verificationFailureReason := none
    verificationLastCheckedAt := none }

def activate (activatedAt : Option Millis) (clearsPrimary : Bool) (d : TenantDomain) : TenantDomain :=
  { d with
    activatedAt
    isPrimary := if clearsPrimary then false else d.isPrimary }

end TenantDomain

structure DomainDb.Indexed (db : DomainDb) : Prop where
  id : UniqueBy TenantDomain.idEntry db.domains
  hostname : UniqueBy TenantDomain.hostnameEntry db.domains
  primary : UniqueBy TenantDomain.primaryEntry db.domains

instance (db : DomainDb) : Decidable db.Indexed :=
  decidable_of_iff (UniqueBy TenantDomain.idEntry db.domains ∧ UniqueBy TenantDomain.hostnameEntry db.domains ∧
      UniqueBy TenantDomain.primaryEntry db.domains)
    ⟨fun h => ⟨h.1, h.2.1, h.2.2⟩, fun h => ⟨h.id, h.hostname, h.primary⟩⟩

inductive DomainError where
  | tenantNotActive (tenantId : Uuid)
  | notFound
  | notVerified (hostname : String)
  | notActivated (hostname : String)
  | routingUnconfigured
  | throttled (retryAfterSeconds : Int)
  | platformNotRemovable
  | apexNotClaimable (hostname : String)
  | platformNotClaimable (hostname : String)
  | taken (hostname : String)
  | tooManyCustomDomains (maximum : Nat)
  | uniqueViolation (index : String)
  | thrown (message : String)

def recordNotFound : DomainError := .thrown "No record was found for an update"

inductive DomainWrite where
  | create (row : TenantDomain)
  | clearPrimary (tenantId : Uuid)
  | makePrimary (tenantId id : Uuid)
  | delete (tenantId id : Uuid)
  | setActivation (tenantId id : Uuid) (activatedAt : Option Millis) (clearsPrimary : Bool)

def TenantDomain.primaryOf (tenantId : Uuid) (d : TenantDomain) : Bool := d.tenantId = tenantId ∧ d.isPrimary

/-- What a write of a transaction does: the ids of the rows it matched, and what it leaves. -/
def DomainWrite.apply (w : DomainWrite) (db : DomainDb) : Except DomainError (List Uuid × DomainDb) :=
  match w with
  | .create row =>
    if db.domains.any (Clash TenantDomain.hostnameEntry row ·) then .error (.uniqueViolation "hostname")
    else if db.domains.any (Clash TenantDomain.idEntry row ·) then .error (.uniqueViolation "id")
    else if db.domains.any (Clash TenantDomain.primaryEntry row ·) then
      .error (.uniqueViolation "tenant_domains_one_primary")
    else .ok ([row.id], { db with domains := db.domains ++ [row] })
  | .clearPrimary tenantId =>
    .ok ((db.domains.filter (TenantDomain.primaryOf tenantId)).map (·.id),
      { db with
        domains := updateWhere (TenantDomain.primaryOf tenantId) (fun d => { d with isPrimary := false }) db.domains })
  | .makePrimary tenantId id =>
    if db.domains.any fun d => d.primaryOf tenantId ∧ d.id ≠ id ∧ db.domains.any (·.named tenantId id) then
      .error (.uniqueViolation "tenant_domains_one_primary")
    else
      .ok ((db.domains.filter (TenantDomain.named tenantId id)).map (·.id),
        { db with
          domains := updateWhere (TenantDomain.named tenantId id) (fun d => { d with isPrimary := true }) db.domains })
  | .delete tenantId id =>
    .ok ((db.domains.filter (TenantDomain.named tenantId id)).map (·.id),
      { db with
        domains := db.domains.filter fun d => !d.named tenantId id
        removed := db.removed ++ (db.domains.filter (TenantDomain.named tenantId id)).map (·.id) })
  | .setActivation tenantId id activatedAt clearsPrimary =>
    .ok ((db.domains.filter (TenantDomain.named tenantId id)).map (·.id),
      { db with
        domains := updateWhere (TenantDomain.named tenantId id) (TenantDomain.activate activatedAt clearsPrimary)
          db.domains })

def domainWrites : Writes DomainDb DomainWrite Uuid DomainError where
  apply := DomainWrite.apply
  conflict := .thrown "could not serialize access"

/-- The statements. The record of a check says which claim was looked up, and with what outcome; a commit says what it
    writes. -/
inductive DomainStmt where
  | read
  | lookup
  | record (id : Uuid) (hostname token : String) (outcome : OwnershipOutcome)
  | refresh (id : Uuid)
  | release
  | commit (ws : List DomainWrite)
  | surroundings

abbrev DomainProg := Prog DomainStmt DomainDb

abbrev DomainTx := Tx Unit DomainDb DomainWrite Uuid DomainError

end WhatsappCrm.Domains

namespace WhatsappCrm.Domains

open Interleaving Table

structure DomainConfig where
  platformDomain : String
  edgeHostname : Option String
  verificationTtlMs : Millis

variable (config : DomainConfig) (tenantId : Uuid) (hostname : String) (now : Millis) (id : Uuid) (token : String)

def maxCustomDomainsPerTenant : Nat := 5

def verifyFloorMs : Millis := 10000

def sweepBatchSize : Nat := 100

def recheckBackoffMs : List Millis := [0, 60000, 5 * 60000, 15 * 60000, 60 * 60000, 6 * 60 * 60000]

def isPlatformHostname (platformDomain : String) : Bool :=
  let zone := (Ai.trim platformDomain.toList).map Char.toLower
  let candidate := (Ai.trim hostname.toList).map Char.toLower
  candidate = zone || ('.' :: zone).isSuffixOf candidate

/-- `isApexHostname`: fewer than three labels. -/
def isApexHostname : Bool := (Ai.trim hostname.toList).count '.' + 1 < 3

def tenantRead {α : Type} (tenantId : Uuid) (f : DomainDb → α) : DomainProg (Except DomainError α) :=
  .read .read fun db => if db.serviceable.contains tenantId then .ok (f db) else .error (.tenantNotActive tenantId)

def systemWrite {α : Type} (tag : DomainStmt) (act : DomainDb → Except DomainError (α × DomainDb)) :
    DomainProg (Except DomainError α) :=
  .stmt tag fun db =>
    match act db with
    | .ok (a, db') => (.ok a, db')
    | .error e => (.error e, db)

def tenantWrite {α : Type} (tag : DomainStmt) (tenantId : Uuid) (act : DomainDb → Except DomainError (α × DomainDb)) :
    DomainProg (Except DomainError α) :=
  systemWrite tag fun db =>
    if db.serviceable.contains tenantId then act db else .error (.tenantNotActive tenantId)

def updateById (scope : Option Uuid) (id : Uuid) (f : TenantDomain → TenantDomain) (db : DomainDb) :
    Except DomainError (TenantDomain × DomainDb) :=
  match db.domains.find? (TenantDomain.named scope id) with
  | some row => .ok (f row, { db with domains := updateWhere (TenantDomain.named scope id) f db.domains })
  | none => .error recordNotFound

/-- `$tenantTransaction`; its commit says what it writes. -/
def tenantTransaction {α : Type} (tenantId : Uuid) (work : DomainTx α) : DomainProg (Except DomainError α) :=
  ((do
    let serviceable ← .query () fun db => db.serviceable.contains tenantId
    if serviceable then work else .abort (.tenantNotActive tenantId) : DomainTx α).retag fun _ => .read).runAs
      domainWrites (fun ws => .commit (ws.map (·.1))) []

def executeOne (w : DomainWrite) : DomainTx Unit := do
  let rows ← .execute () w
  if rows = [] then .abort recordNotFound else pure ()

def clock : DomainProg Millis := .read .read (·.now)

/-- `DomainOwnershipChecker.check`: what the nameserver answers at that moment goes on record. -/
def lookup : DomainProg OwnershipOutcome :=
  .stmt .lookup fun db =>
    let reply := (db.dns.lookup (domainChallengeRecordName hostname)).getD (.failed "ENOTFOUND")
    (check token reply, { db with answers := db.answers ++ [{ hostname, reply }] })

def require : DomainProg (Except DomainError TenantDomain) := do
  let found ← tenantRead tenantId fun db => db.domains.find? (TenantDomain.named tenantId id)
  match found with
  | .error e => pure (.error e)
  | .ok none => pure (.error .notFound)
  | .ok (some row) => pure (.ok row)

def refreshLapsedClaim (row : TenantDomain) : DomainProg (Except DomainError TenantDomain) := do
  let now ← clock
  if row.verifiedAt = none ∧ ∃ t ∈ row.verificationRequestedAt, config.verificationTtlMs < now - t then
    tenantWrite (.refresh row.id) tenantId (updateById tenantId row.id (TenantDomain.refresh token now))
  else pure (.ok row)

def assertUnderDomainCap : DomainTx Unit := do
  let held ← .query () fun db => db.domains.countP fun d => d.tenantId = tenantId ∧ d.kind = .custom
  if maxCustomDomainsPerTenant ≤ held then .abort (.tooManyCustomDomains maxCustomDomainsPerTenant) else pure ()

def claimedRow (tenantId : Uuid) (hostname token : String) (now : Millis) : TenantDomain where
  id
  tenantId
  hostname
  kind := .custom
  verificationToken := some token
  verificationRequestedAt := some now
  createdAt := now

/-- `isUniqueViolationOn(error, 'hostname')`: another tenant holds it. -/
def hostnameTaken : Except DomainError TenantDomain → Except DomainError TenantDomain
  | .error (.uniqueViolation "hostname") => .error (.taken hostname)
  | answer => answer

def claim : DomainProg (Except DomainError TenantDomain) :=
  if isPlatformHostname hostname config.platformDomain then pure (.error (.platformNotClaimable hostname))
  else if isApexHostname hostname then pure (.error (.apexNotClaimable hostname))
  else if config.edgeHostname = none then pure (.error .routingUnconfigured)
  else do
    let existing ← tenantRead tenantId fun db =>
      db.domains.find? fun d => d.tenantId = tenantId ∧ citext d.hostname = citext hostname
    match existing with
    | .error e => pure (.error e)
    | .ok (some row) => refreshLapsedClaim config tenantId token row
    | .ok none => do
      let created ← tenantTransaction tenantId do
        assertUnderDomainCap tenantId
        let now ← .query () fun db => db.now
        executeOne (.create (claimedRow id tenantId hostname token now))
        pure (claimedRow id tenantId hostname token now)
      pure (hostnameTaken hostname created)

def assertCheckAllowed (row : TenantDomain) (now : Millis) : Except DomainError Unit :=
  match row.verificationLastCheckedAt with
  | none => .ok ()
  | some lastCheckedAt =>
    let elapsed := now - lastCheckedAt
    if elapsed < verifyFloorMs then .error (.throttled (max 1 ((verifyFloorMs - elapsed + 999) / 1000))) else .ok ()

/-- What `verify` does with a row that is still to be proved. -/
def verifyClaim (row : TenantDomain) (token : String) : DomainProg (Except DomainError TenantDomain) := do
  let now ← clock
  match assertCheckAllowed row now with
  | .error e => pure (.error e)
  | .ok () => do
    let outcome ← lookup row.hostname token
    let now ← clock
    tenantWrite (.record row.id row.hostname token outcome) tenantId
      (updateById tenantId row.id (TenantDomain.recordOutcome now outcome))

def verify : DomainProg (Except DomainError TenantDomain) := do
  let found ← require tenantId id
  match found with
  | .error e => pure (.error e)
  | .ok row =>
    match row.kind, row.verificationToken, row.verifiedAt with
    | .custom, some token, none => verifyClaim tenantId row token
    | _, _, _ => pure (.ok row)

def setPrimary : DomainProg (Except DomainError TenantDomain) := do
  let found ← require tenantId id
  match found with
  | .error e => pure (.error e)
  | .ok row =>
    if row.verifiedAt = none then pure (.error (.notVerified row.hostname))
    else if row.kind = .custom ∧ row.activatedAt = none then pure (.error (.notActivated row.hostname))
    else if row.isPrimary then pure (.ok row)
    else do
      tenantTransaction tenantId do
        let _ ← .execute () (.clearPrimary tenantId)
        executeOne (.makePrimary tenantId row.id)
        let updated ← .query () fun db => db.domains.find? (TenantDomain.named tenantId row.id)
        match updated with
        | some updated => pure updated
        | none => .abort recordNotFound

def oldest (rows : List TenantDomain) : Option TenantDomain :=
  firstBy (fun a b => decide (a.createdAt ≤ b.createdAt)) rows

def platformFallback (db : DomainDb) : Option TenantDomain :=
  oldest (db.domains.filter fun d => d.tenantId = tenantId ∧ d.kind = .platform)

/-- Primary goes to the platform subdomain; a tenant that has none is left without one. -/
def fallBack : DomainTx (Option String) := do
  let fallback ← .query () (platformFallback tenantId)
  match fallback with
  | none => pure none
  | some row => do
    executeOne (.makePrimary tenantId row.id)
    pure (some row.hostname)

def remove : DomainProg (Except DomainError Unit) := do
  let found ← require tenantId id
  match found with
  | .error e => pure (.error e)
  | .ok row =>
    if row.kind = .platform then pure (.error .platformNotRemovable)
    else tenantTransaction tenantId do
      executeOne (.delete tenantId row.id)
      if row.isPrimary then do
        let _ ← fallBack tenantId
        pure ()
      else pure ()

/-- `dueClauses`. -/
def isDue (d : TenantDomain) : Bool :=
  match d.verificationLastCheckedAt with
  | none => true
  | some lastCheckedAt =>
    recheckBackoffMs.zipIdx.any fun (wait, attempts) =>
      (if attempts = recheckBackoffMs.length - 1 then attempts ≤ d.verificationAttempts
        else d.verificationAttempts = attempts) ∧ lastCheckedAt ≤ now - wait

def checkedFirst (a b : TenantDomain) : Bool :=
  match a.verificationLastCheckedAt, b.verificationLastCheckedAt with
  | none, _ => true
  | some _, none => false
  | some s, some t => s ≤ t

def pendingClaims (db : DomainDb) : List TenantDomain :=
  (Keyset.sortBy checkedFirst (db.domains.filter fun d =>
    d.kind = .custom ∧ d.verifiedAt = none ∧ d.verificationRequestedAt ≠ none ∧ isDue now d)).take sweepBatchSize

def releaseLapsedClaims : DomainProg Nat :=
  .stmt .release fun db =>
    let lapsed := TenantDomain.lapsed (now - config.verificationTtlMs)
    (db.domains.countP lapsed, { db with domains := db.domains.filter fun d => !lapsed d })

def recheck (row : TenantDomain) (token : String) : DomainProg (Except DomainError Bool) := do
  let outcome ← lookup row.hostname token
  let written ← systemWrite (.record row.id row.hostname token outcome)
    (updateById none row.id (TenantDomain.recordOutcome now outcome))
  pure (written.map fun _ => decide (outcome = .proved))

def recheckAll (now : Millis) : List TenantDomain → Nat → Nat → DomainProg (Except DomainError (Nat × Nat))
  | [], checked, verified => pure (.ok (checked, verified))
  | row :: rows, checked, verified =>
    match row.verificationToken with
    | none => recheckAll now rows checked verified
    | some token => do
      let proved ← recheck now row token
      match proved with
      | .error e => pure (.error e)
      | .ok proved => recheckAll now rows (checked + 1) (if proved then verified + 1 else verified)

def recheckPendingClaims : DomainProg (Except DomainError (Nat × Nat)) := do
  let pending ← .read .read (pendingClaims now)
  recheckAll now pending 0 0

structure DomainSweepReport where
  checked : Nat
  verified : Nat
  expired : Nat

def sweep : DomainProg (Except DomainError DomainSweepReport) := do
  let now ← clock
  let expired ← releaseLapsedClaims config now
  let checks ← recheckPendingClaims now
  pure (checks.map fun (checked, verified) => { checked, verified, expired })

def attachable (db : DomainDb) : Option TenantDomain :=
  db.domains.find? fun d =>
    d.tenantId = tenantId ∧ citext d.hostname = citext hostname ∧ d.kind = .custom ∧ d.verifiedAt ≠ none

def setActivation (activatedAt : Option Millis) : DomainProg (Except DomainError Unit) :=
  tenantTransaction tenantId do
    let found ← .query () (attachable tenantId hostname)
    match found with
    | none => .abort .notFound
    | some row =>
      if row.activatedAt.isNone = activatedAt.isNone then pure ()
      else do
        let revertsPrimary := activatedAt.isNone && row.isPrimary
        executeOne (.setActivation tenantId row.id activatedAt revertsPrimary)
        if revertsPrimary then do
          let _ ← fallBack tenantId
          pure ()
        else pure ()

def activate : DomainProg (Except DomainError Unit) := do
  let now ← clock
  setActivation tenantId hostname (some now)

def deactivate : DomainProg (Except DomainError Unit) :=
  setActivation tenantId hostname none

inductive DomainCall where
  | claim (tenantId : Uuid) (hostname : String) (id : Uuid) (token : String)
  | verify (tenantId id : Uuid)
  | setPrimary (tenantId id : Uuid)
  | remove (tenantId id : Uuid)
  | sweep
  | activate (tenantId : Uuid) (hostname : String)
  | deactivate (tenantId : Uuid) (hostname : String)
  /-- A zone is edited, or a nameserver goes away. -/
  | publish (name : String) (reply : DnsReply)
  | advance (ms : Nat)
  | operate (serviceable : List Uuid)

inductive DomainReply where
  | domain (answer : Except DomainError TenantDomain)
  | done (answer : Except DomainError Unit)
  | swept (answer : Except DomainError DomainSweepReport)

def domainProgram : DomainCall → DomainProg DomainReply
  | .claim tenantId hostname id token => do
    let answer ← claim config tenantId hostname id token
    pure (.domain answer)
  | .verify tenantId id => do
    let answer ← verify tenantId id
    pure (.domain answer)
  | .setPrimary tenantId id => do
    let answer ← setPrimary tenantId id
    pure (.domain answer)
  | .remove tenantId id => do
    let answer ← remove tenantId id
    pure (.done answer)
  | .sweep => do
    let answer ← sweep config
    pure (.swept answer)
  | .activate tenantId hostname => do
    let answer ← activate tenantId hostname
    pure (.done answer)
  | .deactivate tenantId hostname => do
    let answer ← deactivate tenantId hostname
    pure (.done answer)
  | .publish name reply =>
    .stmt .surroundings fun db => (.done (.ok ()), { db with dns := (name, reply) :: db.dns })
  | .advance ms => .stmt .surroundings fun db => (.done (.ok ()), { db with now := db.now + ms })
  | .operate serviceable => .stmt .surroundings fun db => (.done (.ok ()), { db with serviceable })

abbrev DomainSys := Sys DomainStmt DomainDb DomainCall DomainReply

end WhatsappCrm.Domains
