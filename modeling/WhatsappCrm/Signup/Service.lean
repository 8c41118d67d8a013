/-
Purpose: The tables a tenant comes into existence in, `TenantProvisioningService`
  (`tenancy/tenant-provisioning.service.ts`), and `TenantSignupService` (`signup/tenant-signup.service.ts`) behind
  `SignupThrottleService`.
-/
import Mathlib.Data.List.Infix
import WhatsappCrm.Auth.Store
import WhatsappCrm.Domains.Service
import WhatsappCrm.Sla.Timer

namespace WhatsappCrm.Signup

open Interleaving Table Lifecycle
open Domains (TenantDomain citext)

def slugChar (c : Char) : Bool := ('a' ≤ c && c ≤ 'z') || ('0' ≤ c && c ≤ '9') || c = '-'

def isTenantSlug (slug : String) : Bool :=
  decide (3 ≤ slug.toList.length) && decide (slug.toList.length ≤ 40) && slug.toList.all slugChar &&
    slug.toList.head? != some '-' && slug.toList.getLast? != some '-'

/-- What the schema lets through, and `tenant_signups_desired_slug_format` too. -/
structure TenantSlug where
  value : String
  wellFormed : isTenantSlug value = true
deriving DecidableEq

structure Tenant where
  id : Uuid
  slug : String
  name : String
  status : TenantStatus
  trialEndsAt : Option Millis
  createdAt : Millis
deriving DecidableEq

structure TenantSettings where
  tenantId : Uuid
  timezone : String
  locale : String
deriving DecidableEq

/-- `PlanLimits`: `none` is unlimited. -/
structure PlanLimits where
  seats : Option Nat
  conversationsPerPeriod : Option Nat
  whatsappNumbers : Option Nat
  teams : Option Nat
  knowledgeDocuments : Option Nat
deriving DecidableEq

structure PlanEntitlements where
  features : List String
  limits : PlanLimits
deriving DecidableEq

/-- The default of the column: the published shape of the trial. -/
def PlanEntitlements.columnDefault : PlanEntitlements where
  features := ["assignment_rules", "sla_policies"]
  limits :=
    { seats := some 3
      conversationsPerPeriod := some 1000
      whatsappNumbers := some 1
      teams := some 2
      knowledgeDocuments := some 10 }

structure TenantEntitlements where
  tenantId : Uuid
  planKey : String
  planName : String
  entitlements : PlanEntitlements := PlanEntitlements.columnDefault
deriving DecidableEq

structure TenantSignup where
  id : Uuid
  email : String
  desiredSlug : TenantSlug
  tenantName : String
  adminName : String
  passwordHash : String
  tokenHash : String
  timezone : Option String
  locale : Option String
  expiresAt : Millis
  consumedAt : Option Millis := none
  provisionedTenantId : Option Uuid := none
  ipAddress : Option String
  createdAt : Millis
  resendCount : Nat := 0
  /-- Which signup of all it is: a record nothing reads. -/
  serial : Nat
deriving DecidableEq

structure User where
  id : Uuid
  tenantId : Uuid
  email : String
  name : String
  role : UserRole
  status : UserStatus
  passwordHash : String
deriving DecidableEq

structure Session where
  id : Uuid
  tenantId : Uuid
  userId : Uuid
  tokenHash : String
deriving DecidableEq

structure IssuedLink where
  serial : Nat
  email : String

structure VerificationMail where
  to_ : String
  token : String
  sentAt : Millis
  serial : Nat

structure SignupDb where
  now : Millis := 0
  tenants : List Tenant := []
  settings : List TenantSettings := []
  domains : List TenantDomain := []
  slaPolicies : List SlaPolicy := []
  entitlements : List TenantEntitlements := []
  lifecycleEvents : List LifecycleEvent := []
  signups : List TenantSignup := []
  users : List User := []
  sessions : List Session := []
  /-- The advisory locks that are held. -/
  locks : List String := []
  /-- What the mailer was handed. -/
  mails : List VerificationMail := []
  /-- The links put on signups: a record nothing reads. -/
  issued : List IssuedLink := []
  /-- How many signups have been recorded: a record nothing reads. -/
  recorded : Nat := 0

def Tenant.idEntry (t : Tenant) : Option Uuid := some t.id

def Tenant.slugEntry (t : Tenant) : Option String := some (citext t.slug)

def TenantSettings.tenantEntry (s : TenantSettings) : Option Uuid := some s.tenantId

def policyIdEntry (p : SlaPolicy) : Option Uuid := some p.id

def policyNameEntry (p : SlaPolicy) : Option (Uuid × String) := some (p.tenantId, p.name)

def TenantEntitlements.tenantEntry (e : TenantEntitlements) : Option Uuid := some e.tenantId

def eventIdEntry (e : LifecycleEvent) : Option Uuid := some e.id

def TenantSignup.idEntry (s : TenantSignup) : Option Uuid := some s.id

def TenantSignup.tokenEntry (s : TenantSignup) : Option String := some s.tokenHash

/-- The entry in `tenant_signups_slug_reserved`: a consumed row has none. -/
def TenantSignup.reservedEntry (s : TenantSignup) : Option TenantSlug :=
  if s.consumedAt = none then some s.desiredSlug else none

def User.idEntry (u : User) : Option Uuid := some u.id

def User.emailEntry (u : User) : Option (Uuid × String) := some (u.tenantId, citext u.email)

def Session.idEntry (s : Session) : Option Uuid := some s.id

def Session.tokenEntry (s : Session) : Option String := some s.tokenHash

inductive DbError where
  | uniqueViolation (index : String)
  /-- The transaction ended for a reason of its own: a timeout, a lost connection, a later step of its caller. -/
  | rolledBack
deriving DecidableEq

structure UniqueIndex (ρ : Type) where
  name : String
  clash : ρ → ρ → Bool

def uniqueIndex {ρ ι : Type} [DecidableEq ι] (name : String) (entry : ρ → Option ι) : UniqueIndex ρ :=
  { name, clash := fun r r' => decide (Clash entry r r') }

/-- `INSERT`: the first index in which another row has the entry rejects it. -/
def insertRow {ρ : Type} (indexes : List (UniqueIndex ρ)) (row : ρ) (rows : List ρ) : Except DbError (List ρ) :=
  match indexes.find? fun index => rows.any (index.clash row) with
  | some index => .error (.uniqueViolation index.name)
  | none => .ok (rows ++ [row])

def tenantIndexes : List (UniqueIndex Tenant) :=
  [uniqueIndex "tenants_pkey" Tenant.idEntry, uniqueIndex "tenants_slug_key" Tenant.slugEntry]

def settingsIndexes : List (UniqueIndex TenantSettings) :=
  [uniqueIndex "tenant_settings_tenant_id_key" TenantSettings.tenantEntry]

def domainIndexes : List (UniqueIndex TenantDomain) :=
  [uniqueIndex "tenant_domains_pkey" TenantDomain.idEntry,
    uniqueIndex "tenant_domains_hostname_key" TenantDomain.hostnameEntry,
    uniqueIndex "tenant_domains_one_primary" TenantDomain.primaryEntry]

def slaPolicyIndexes : List (UniqueIndex SlaPolicy) :=
  [uniqueIndex "sla_policies_pkey" policyIdEntry, uniqueIndex "sla_policies_tenant_id_name_key" policyNameEntry]

def entitlementsIndexes : List (UniqueIndex TenantEntitlements) :=
  [uniqueIndex "tenant_entitlements_tenant_id_key" TenantEntitlements.tenantEntry]

def lifecycleEventIndexes : List (UniqueIndex LifecycleEvent) := [uniqueIndex "lifecycle_events_pkey" eventIdEntry]

def signupIndexes : List (UniqueIndex TenantSignup) :=
  [uniqueIndex "tenant_signups_pkey" TenantSignup.idEntry,
    uniqueIndex "tenant_signups_token_hash_key" TenantSignup.tokenEntry,
    uniqueIndex "tenant_signups_slug_reserved" TenantSignup.reservedEntry]

def userIndexes : List (UniqueIndex User) :=
  [uniqueIndex "users_pkey" User.idEntry, uniqueIndex "users_tenant_id_email_key" User.emailEntry]

def sessionIndexes : List (UniqueIndex Session) :=
  [uniqueIndex "sessions_pkey" Session.idEntry, uniqueIndex "sessions_token_hash_key" Session.tokenEntry]

def TenantSignup.live (instant : Millis) (s : TenantSignup) : Bool := s.consumedAt = none && instant < s.expiresAt

def TenantSignup.redeemable (tokenHash : String) (instant : Millis) (s : TenantSignup) : Bool :=
  s.tokenHash = tokenHash && s.live instant

def TenantSignup.abandoned (slug : TenantSlug) (instant : Millis) (s : TenantSignup) : Bool :=
  s.desiredSlug = slug && s.consumedAt = none && s.expiresAt ≤ instant

inductive SignupWrite where
  | tenant (row : Tenant)
  | settings (row : TenantSettings)
  | domain (row : TenantDomain)
  | slaPolicy (row : SlaPolicy)
  | entitlements (row : TenantEntitlements)
  | lifecycleEvent (row : LifecycleEvent)
  | releaseSlug (slug : TenantSlug) (instant : Millis)
  | signup (row : TenantSignup)
  /-- The conditional update of a verification. It holds the row's lock to the commit. -/
  | consume (tokenHash : String) (instant : Millis)
  | user (row : User)
  | provisionedTenant (id tenantId : Uuid)
  | session (row : Session)
deriving DecidableEq

namespace SignupDb

variable (db : SignupDb)

def record (signups : List TenantSignup) (row : TenantSignup) : SignupDb :=
  { db with
    signups
    issued := db.issued ++ [{ serial := row.serial, email := row.email }]
    recorded := db.recorded + 1 }

end SignupDb

def SignupWrite.apply (w : SignupWrite) (db : SignupDb) : Except DbError SignupDb :=
  match w with
  | .tenant row => (insertRow tenantIndexes row db.tenants).map fun tenants => { db with tenants }
  | .settings row => (insertRow settingsIndexes row db.settings).map fun settings => { db with settings }
  | .domain row => (insertRow domainIndexes row db.domains).map fun domains => { db with domains }
  | .slaPolicy row => (insertRow slaPolicyIndexes row db.slaPolicies).map fun slaPolicies => { db with slaPolicies }
  | .entitlements row =>
    (insertRow entitlementsIndexes row db.entitlements).map fun entitlements => { db with entitlements }
  | .lifecycleEvent row =>
    (insertRow lifecycleEventIndexes row db.lifecycleEvents).map fun lifecycleEvents => { db with lifecycleEvents }
  | .releaseSlug slug instant => .ok { db with signups := db.signups.filter fun s => !s.abandoned slug instant }
  | .signup row =>
    (insertRow signupIndexes { row with serial := db.recorded } db.signups).map fun signups =>
      db.record signups { row with serial := db.recorded }
  | .consume tokenHash instant =>
    if db.signups.any (TenantSignup.redeemable tokenHash instant) then
      .ok { db with
        signups := updateWhere (TenantSignup.redeemable tokenHash instant) ({ · with consumedAt := some instant })
          db.signups }
    else .error .rolledBack
  | .user row => (insertRow userIndexes row db.users).map fun users => { db with users }
  | .provisionedTenant id tenantId =>
    .ok { db with
      signups := updateWhere (fun s => s.id = id) ({ · with provisionedTenantId := some tenantId }) db.signups }
  | .session row => (insertRow sessionIndexes row db.sessions).map fun sessions => { db with sessions }

def applyWrites : List SignupWrite → SignupDb → Except DbError SignupDb
  | [], db => .ok db
  | w :: ws, db =>
    match w.apply db with
    | .ok db' => applyWrites ws db'
    | .error e => .error e

inductive TenantOnboardingPath where
  | operator
  | selfSignup
deriving DecidableEq

/-- The statements. A commit says what it writes, the lookup of provisioning for whom and for which slug. -/
inductive SignupStmt where
  | read
  | lock (key : String)
  | find (path : TenantOnboardingPath) (slug : TenantSlug)
  | commit (ws : List SignupWrite)
  | refresh
  | deliver
  | tick
deriving DecidableEq

abbrev SignupProg := Prog SignupStmt SignupDb

def clock : SignupProg Millis := .read .read (·.now)

/-- The end of a transaction: its writes take effect, or none of them, and its lock is released. The answer says which
    signup of all the first one it recorded is. -/
def commit (key : Option String) (ws : List SignupWrite) (aborts : Bool) : SignupProg (Except DbError Nat) :=
  .stmt (.commit ws) fun db =>
    let locks := db.locks.filter fun held => key ≠ some held
    match if aborts then .error .rolledBack else applyWrites ws db with
    | .ok db' => (.ok db.recorded, { db' with locks })
    | .error e => (.error e, { db with locks })

open Domains (TenantDomain citext)

def defaultTimezone : String := "UTC"
def defaultLocale : String := "en"
def trialPlanKey : String := "trial"
def trialPlanName : String := "Trial"
def defaultSlaPolicyName : String := "Default"
def provisioningLockPrefix : String := "tenant-provisioning:"

def planFeatures : List String :=
  ["assignment_rules", "sla_policies", "workflows", "ai_chatbot", "custom_branding", "custom_domain",
    "advanced_reporting", "api_access"]

structure SignupConfig where
  /-- `PLATFORM_DOMAIN`. -/
  platformDomain : String
  /-- `SIGNUP_ENABLED`. -/
  enabled : Bool := true

structure ProvisionTenantCommand where
  slug : TenantSlug
  name : String
  timezone : Option String := none
  locale : Option String := none
  path : TenantOnboardingPath := .operator

structure ProvisionDraw where
  tenantId : Uuid
  domainId : Uuid
  policyId : Uuid
  /-- The random bits of the genesis event's id. -/
  eventRandom : Uuid

structure ProvisionedTenant where
  id : Uuid
  slug : String
  name : String
  status : TenantStatus
  primaryHostname : String
  timezone : String
  locale : String
  createdAt : Millis

structure ProvisionTenantResult where
  tenant : ProvisionedTenant
  created : Bool
  lifecycleEventId : Option Uuid

inductive ProvisioningError where
  | platformHostnameTaken (hostname : String)
  | tenantSlugTaken (slug : TenantSlug)
  | thrown (e : DbError)

/-- `isUniqueViolationOn`: the name of the index contains the column's. -/
def isUniqueViolationOn (e : DbError) (column : String) : Bool :=
  match e with
  | .uniqueViolation index => decide (column.toList <:+: index.toList)
  | .rolledBack => false

/-- `uuidV7`: 48 bits of milliseconds, the version, the variant and 74 random bits. -/
def uuidV7 (instant : Millis) (random : Uuid) : Uuid :=
  (BitVec.ofInt 48 instant ++ 7#4 ++ BitVec.extractLsb' 64 12 random ++ 2#2 ++ BitVec.extractLsb' 0 62 random : BitVec 128)

def platformHostnameFor (config : SignupConfig) (slug : TenantSlug) : String :=
  (slug.value ++ "." ++ config.platformDomain).toLower

structure ExistingTenant where
  tenant : Tenant
  settings : Option TenantSettings
  /-- Any platform domain, the primary one before the others and the oldest of these. -/
  domain : Option TenantDomain
  slaPolicy : Option SlaPolicy
  entitlements : Option TenantEntitlements

/-- `[{ isPrimary: 'desc' }, { createdAt: 'asc' }]`. -/
def primaryFirst (a b : TenantDomain) : Bool :=
  (a.isPrimary && !b.isPrimary) || (a.isPrimary == b.isPrimary && decide (a.createdAt ≤ b.createdAt))

def platformDomains (tenantId : Uuid) (db : SignupDb) : List TenantDomain :=
  db.domains.filter fun d => d.tenantId = tenantId && d.kind = .platform

def existingTenant (db : SignupDb) (tenant : Tenant) : ExistingTenant where
  tenant
  settings := db.settings.find? fun s => s.tenantId = tenant.id
  domain := firstBy primaryFirst (platformDomains tenant.id db)
  slaPolicy := db.slaPolicies.find? fun p => p.tenantId = tenant.id
  entitlements := db.entitlements.find? fun e => e.tenantId = tenant.id

def findTenant (slug : TenantSlug) (db : SignupDb) : Option Tenant :=
  db.tenants.find? fun t => citext t.slug = citext slug.value

def findProvisionedTenant (slug : TenantSlug) (db : SignupDb) : Option ExistingTenant :=
  (findTenant slug db).map (existingTenant db)

def defaultSlaPolicy (id tenantId : Uuid) (createdAt : Millis) : SlaPolicy where
  id
  tenantId
  name := defaultSlaPolicyName
  priority := none
  firstResponseMinutes := some 60
  resolutionMinutes := none
  isActive := true
  createdAt

def operatorEntitlements (tenantId : Uuid) : TenantEntitlements where
  tenantId
  planKey := "unlimited"
  planName := "Unlimited"
  entitlements :=
    { features := planFeatures
      limits :=
        { seats := none
          conversationsPerPeriod := none
          whatsappNumbers := none
          teams := none
          knowledgeDocuments := none } }

/-- A platform domain, ours to issue: primary, and verified from the start. -/
def platformDomainRow (id tenantId : Uuid) (hostname : String) (now createdAt : Millis) : TenantDomain where
  id
  tenantId
  hostname
  kind := .platform
  isPrimary := true
  verifiedAt := some now
  createdAt

structure StartingState where
  status : TenantStatus
  trialEndsAt : Option Millis
  entitlements : TenantEntitlements

def startingState (path : TenantOnboardingPath) (tenantId : Uuid) (now : Millis) : StartingState :=
  match path with
  | .operator => { status := .active, trialEndsAt := none, entitlements := operatorEntitlements tenantId }
  | .selfSignup =>
    { status := .trialing
      trialEndsAt := some (daysAfter now trialDays)
      entitlements := { tenantId, planKey := trialPlanKey, planName := trialPlanName } }

/-- The value of `metadata.onboardingPath`. -/
def TenantOnboardingPath.name : TenantOnboardingPath → String
  | .operator => "operator"
  | .selfSignup => "self_signup"

def genesisEvent (tenant : Tenant) (path : TenantOnboardingPath) (random : Uuid) : LifecycleEvent where
  id := uuidV7 tenant.createdAt random
  tenantId := tenant.id
  occurredAt := tenant.createdAt
  fromState := none
  toState := tenant.status
  trigger := .system
  actor := .system
  metadata := some [("onboardingPath", path.name)]

section Work

variable (config : SignupConfig) (command : ProvisionTenantCommand) (draw : ProvisionDraw)

def settingsRow (tenantId : Uuid) : TenantSettings where
  tenantId
  timezone := command.timezone.getD defaultTimezone
  locale := command.locale.getD defaultLocale

def tenantRow (startedAt now : Millis) : Tenant where
  id := draw.tenantId
  slug := command.slug.value
  name := command.name
  status := (startingState command.path draw.tenantId now).status
  trialEndsAt := (startingState command.path draw.tenantId now).trialEndsAt
  createdAt := startedAt

def creationWrites (startedAt now : Millis) : List SignupWrite :=
  [.tenant (tenantRow command draw startedAt now),
    .settings (settingsRow command draw.tenantId),
    .domain (platformDomainRow draw.domainId draw.tenantId (platformHostnameFor config command.slug) now startedAt),
    .slaPolicy (defaultSlaPolicy draw.policyId draw.tenantId startedAt),
    .entitlements (startingState command.path draw.tenantId now).entitlements,
    .lifecycleEvent (genesisEvent (tenantRow command draw startedAt now) command.path draw.eventRandom)]

def createTenant (startedAt now : Millis) : ProvisionTenantResult × List SignupWrite :=
  let tenant := tenantRow command draw startedAt now
  let settings := settingsRow command draw.tenantId
  ({ tenant :=
      { id := tenant.id
        slug := tenant.slug
        name := tenant.name
        status := tenant.status
        primaryHostname := platformHostnameFor config command.slug
        timezone := settings.timezone
        locale := settings.locale
        createdAt := tenant.createdAt }
     created := true
     lifecycleEventId := some (genesisEvent tenant command.path draw.eventRandom).id },
    creationWrites config command draw startedAt now)

/-- What is inserted for an existing tenant: the rows it has none of. -/
def completionWrites (existing : ExistingTenant) (startedAt now : Millis) : List SignupWrite :=
  let id := existing.tenant.id
  (if existing.settings = none then [.settings (settingsRow command id)] else []) ++
    ((if existing.domain = none then
        [.domain (platformDomainRow draw.domainId id (platformHostnameFor config command.slug) now startedAt)]
      else []) ++
      ((if existing.slaPolicy = none then [.slaPolicy (defaultSlaPolicy draw.policyId id startedAt)] else []) ++
        if existing.entitlements = none then [.entitlements (operatorEntitlements id)] else []))

def completeTenant (existing : ExistingTenant) (startedAt now : Millis) : ProvisionTenantResult × List SignupWrite :=
  let settings := existing.settings.getD (settingsRow command existing.tenant.id)
  ({ tenant :=
      { id := existing.tenant.id
        slug := existing.tenant.slug
        name := existing.tenant.name
        status := existing.tenant.status
        primaryHostname := (existing.domain.map (·.hostname)).getD (platformHostnameFor config command.slug)
        timezone := settings.timezone
        locale := settings.locale
        createdAt := existing.tenant.createdAt }
     created := false
     lifecycleEventId := none },
    completionWrites config command draw existing startedAt now)

/-- The answer and the writes, by what the lookup has found. -/
def provisioning (startedAt now : Millis) : Option ExistingTenant → ProvisionTenantResult × List SignupWrite
  | none => createTenant config command draw startedAt now
  | some existing => completeTenant config command draw existing startedAt now

/-- The key of `pg_advisory_xact_lock`. -/
def lockKey : String := provisioningLockPrefix ++ command.slug.value

/-- `pg_advisory_xact_lock`: it is granted when nobody holds the key. -/
def advisoryLock (key : String) : SignupProg Unit :=
  .stmt (.lock key) fun db => ((), { db with locks := key :: db.locks })

/-- The work of `provision` in a transaction that began at `startedAt`: the answer, and what is to be written. -/
def work (startedAt : Millis) : SignupProg (ProvisionTenantResult × List SignupWrite) := do
  let _ ← advisoryLock (lockKey command)
  let existing ← .read (.find command.path command.slug) (findProvisionedTenant command.slug)
  let now ← clock
  pure (provisioning config command draw startedAt now existing)

def translated (e : DbError) : ProvisioningError :=
  if isUniqueViolationOn e "hostname" then .platformHostnameTaken (platformHostnameFor config command.slug)
  else if isUniqueViolationOn e "slug" then .tenantSlugTaken command.slug
  else .thrown e

def provision (aborts : Bool) : SignupProg (Except ProvisioningError ProvisionTenantResult) := do
  let startedAt ← clock
  let (result, ws) ← work config command draw startedAt
  let committed ← commit (some (lockKey command)) ws aborts
  match committed with
  | .ok _ => pure (.ok result)
  | .error e => pure (.error (translated config command e))

end Work

open Auth (Crypto)
open Domains (TenantDomain citext)

variable (config : SignupConfig) (crypto : Crypto) (email tokenHash : String) (ipAddress : Option String) (db : SignupDb)

def signupsPerIpPerHour : Nat := 5
def signupsPerEmailPerDay : Nat := 3
def resendsPerSignup : Nat := 3

def signupTokenTtlMs : Int := 24 * 60 * 60 * 1000

def hourMs : Int := 60 * 60 * 1000

structure SignupInput where
  email : String
  password : String
  adminName : String
  tenantName : String
  slug : TenantSlug
  timezone : Option String := none
  locale : Option String := none

structure RequestDraw where
  id : Uuid
  token : String
  salt : String

structure VerifyDraw where
  provision : ProvisionDraw
  userId : Uuid
  sessionId : Uuid
  sessionToken : String

structure RedisCounts where
  email : Option Nat := none
  address : Option Nat := none

variable (redis : RedisCounts)

inductive SignupTokenRejection where
  | unknown
  | expired
  | consumed

inductive SignupError where
  | disabled
  | rateLimited
  | slugUnavailable (slug : TenantSlug)
  | tokenInvalid (reason : SignupTokenRejection)
  | provisioning (e : ProvisioningError)
  | thrown (e : DbError)

structure RequestedSignup where
  email : String
  expiresAt : Millis

structure CompletedSignup where
  tenant : ProvisionedTenant
  userId : Uuid
  sessionId : Uuid

/-- `assertWithin`: it refuses only by a count that Redis has answered. -/
def withinWindow (count : Option Nat) (limit : Nat) : Bool := count.all (· ≤ limit)

def signupsOfEmail (since : Millis) (db : SignupDb) : Nat :=
  db.signups.countP fun s => citext s.email = citext email && decide (since < s.createdAt)

def signupsOfAddress (ipAddress : String) (since : Millis) (db : SignupDb) : Nat :=
  db.signups.countP fun s => s.ipAddress = some ipAddress && decide (since < s.createdAt)

def assertRowsWithin : SignupProg (Except SignupError Unit) := do
  let now ← clock
  let byEmail ← .read .read (signupsOfEmail email (now - dayMs))
  if signupsPerEmailPerDay ≤ byEmail then pure (.error .rateLimited)
  else
    match ipAddress with
    | none => pure (.ok ())
    | some ipAddress => do
      let byAddress ← .read .read (signupsOfAddress ipAddress (now - hourMs))
      if signupsPerIpPerHour ≤ byAddress then pure (.error .rateLimited) else pure (.ok ())

def redisAllows (limit : Nat) (ipAddress : Option String) (redis : RedisCounts) : Bool :=
  withinWindow redis.email limit && (ipAddress.isNone || withinWindow redis.address signupsPerIpPerHour)

def assertMayRequest : SignupProg (Except SignupError Unit) :=
  if redisAllows signupsPerEmailPerDay ipAddress redis then assertRowsWithin email ipAddress
  else pure (.error .rateLimited)

def slugTaken (slug : TenantSlug) : SignupProg Bool := do
  let tenant ← .read .read (findTenant slug)
  let reserved ← .read .read fun db => db.signups.any fun s => s.desiredSlug = slug && s.live db.now
  pure (tenant.isSome || reserved)

def signupRow (input : SignupInput) (ipAddress : Option String) (draw : RequestDraw)
    (expiresAt createdAt : Millis) : TenantSignup where
  id := draw.id
  email := input.email
  desiredSlug := input.slug
  tenantName := input.tenantName
  adminName := input.adminName
  passwordHash := crypto.argon2 draw.salt input.password
  tokenHash := crypto.sha256 draw.token
  timezone := input.timezone
  locale := input.locale
  expiresAt
  ipAddress
  createdAt
  serial := 0

def deliver (to_ token : String) (serial : Nat) : SignupProg Unit :=
  .stmt .deliver fun db => ((), { db with mails := db.mails ++ [{ to_, token, sentAt := db.now, serial }] })

/-- `isSlugReservationConflict`. -/
def requestFailed (slug : TenantSlug) (e : DbError) : SignupError :=
  if e = .uniqueViolation "tenant_signups_slug_reserved" then .slugUnavailable slug else .thrown e

def recordSignup (input : SignupInput) (ipAddress : Option String) (draw : RequestDraw)
    (expiresAt : Millis) : SignupProg (Except SignupError Nat) := do
  let startedAt ← clock
  let instant ← clock
  let taken ← slugTaken input.slug
  if taken then pure (.error (.slugUnavailable input.slug))
  else do
    let committed ← commit none
      [.releaseSlug input.slug instant, .signup (signupRow crypto input ipAddress draw expiresAt startedAt)] false
    match committed with
    | .ok serial => pure (.ok serial)
    | .error e => pure (.error (requestFailed input.slug e))

def requestAllowed (input : SignupInput) (ipAddress : Option String) (draw : RequestDraw) :
    SignupProg (Except SignupError RequestedSignup) := do
  let taken ← slugTaken input.slug
  if taken then pure (.error (.slugUnavailable input.slug))
  else do
    let now ← clock
    let expiresAt := now + signupTokenTtlMs
    let recorded ← recordSignup crypto input ipAddress draw expiresAt
    match recorded with
    | .error e => pure (.error e)
    | .ok serial => do
      deliver input.email draw.token serial
      pure (.ok { email := input.email, expiresAt })

def request (input : SignupInput) (ipAddress : Option String)
    (draw : RequestDraw) (redis : RedisCounts) : SignupProg (Except SignupError RequestedSignup) :=
  if !config.enabled then pure (.error .disabled)
  else do
    let allowed ← assertMayRequest input.email ipAddress redis
    match allowed with
    | .error e => pure (.error e)
    | .ok () => requestAllowed crypto input ipAddress draw

def newestFirst (a b : TenantSignup) : Bool := decide (b.id ≤ a.id)

def newestLive : Option TenantSignup :=
  firstBy newestFirst (db.signups.filter fun s => citext s.email = citext email && s.live db.now)

def TenantSignup.refresh (s : TenantSignup) : TenantSignup :=
  { s with tokenHash, resendCount := s.resendCount + 1 }

def tokenTaken (row : TenantSignup) (tokenHash : String) (db : SignupDb) : Bool :=
  db.signups.any fun s => s.id ≠ row.id && s.tokenHash = tokenHash

/-- The update of a resend: the row it returns, as it was before. -/
def refreshNewest : Except DbError (Option TenantSignup) × SignupDb :=
  match newestLive email db with
  | none => (.ok none, db)
  | some row =>
    if row.live db.now && decide (row.resendCount < resendsPerSignup) then
      if tokenTaken row tokenHash db then (.error (.uniqueViolation "tenant_signups_token_hash_key"), db)
      else (.ok (some row),
        { db with
          signups := updateWhere (fun s => s.id = row.id) (TenantSignup.refresh tokenHash) db.signups
          issued := db.issued ++ [{ serial := row.serial, email := row.email }] })
    else (.ok none, db)

def mayResend : Bool :=
  redisAllows (resendsPerSignup * signupsPerEmailPerDay) ipAddress redis

def resend (token : String) (redis : RedisCounts) : SignupProg (Except SignupError RequestedSignup) :=
  if !config.enabled then pure (.error .disabled)
  else if !mayResend ipAddress redis then pure (.error .rateLimited)
  else do
    let refreshed ← .stmt .refresh (refreshNewest email (crypto.sha256 token))
    match refreshed with
    | .error e => pure (.error (.thrown e))
    | .ok (some row) => do
      deliver email token row.serial
      pure (.ok { email, expiresAt := row.expiresAt })
    | .ok none => do
      let now ← clock
      pure (.ok { email, expiresAt := now + signupTokenTtlMs })

def rejectionFor : SignupProg SignupTokenRejection := do
  let signup ← .read .read fun db => db.signups.find? fun s => s.tokenHash = tokenHash
  match signup with
  | none => pure .unknown
  | some signup => pure (if signup.consumedAt = none then .expired else .consumed)

def signupCommand (signup : TenantSignup) : ProvisionTenantCommand where
  slug := signup.desiredSlug
  name := signup.tenantName
  timezone := signup.timezone
  locale := signup.locale
  path := .selfSignup

def adminRow (signup : TenantSignup) (tenantId : Uuid) (draw : VerifyDraw) : User where
  id := draw.userId
  tenantId
  email := signup.email
  name := signup.adminName
  role := .admin
  status := .active
  passwordHash := signup.passwordHash

def verifyWrites (signup : TenantSignup) (tokenHash : String) (startedAt : Millis) (tenantId : Uuid)
    (draw : VerifyDraw) (ws : List SignupWrite) : List SignupWrite :=
  .consume tokenHash startedAt :: (ws ++
    [.user (adminRow signup tenantId draw), .provisionedTenant signup.id tenantId,
      .session
        { id := draw.sessionId, tenantId, userId := draw.userId, tokenHash := crypto.sha256 draw.sessionToken }])

/-- The transaction of a verification, from its consuming update on. -/
def completeSignup (signup : TenantSignup) (tokenHash : String)
    (startedAt : Millis) (draw : VerifyDraw) (aborts : Bool) : SignupProg (Except SignupError CompletedSignup) := do
  let (result, ws) ← work config (signupCommand signup) draw.provision startedAt
  let committed ← commit (some (lockKey (signupCommand signup)))
    (verifyWrites crypto signup tokenHash startedAt result.tenant.id draw ws) aborts
  match committed with
  | .ok _ => pure (.ok { tenant := result.tenant, userId := draw.userId, sessionId := draw.sessionId })
  | .error e => pure (.error (.provisioning (translated config (signupCommand signup) e)))

def verify (token : String) (draw : VerifyDraw) (aborts : Bool) : SignupProg (Except SignupError CompletedSignup) :=
  if !config.enabled then pure (.error .disabled)
  else do
    let startedAt ← clock
    let signup ← .read .read fun db => db.signups.find? (TenantSignup.redeemable (crypto.sha256 token) startedAt)
    match signup with
    | none => do
      let reason ← rejectionFor (crypto.sha256 token)
      pure (.error (.tokenInvalid reason))
    | some signup => completeSignup config crypto signup (crypto.sha256 token) startedAt draw aborts

inductive SignupCall where
  | request (input : SignupInput) (ipAddress : Option String) (draw : RequestDraw) (redis : RedisCounts)
  | resend (email : String) (ipAddress : Option String) (token : String) (redis : RedisCounts)
  | verify (token : String) (draw : VerifyDraw) (aborts : Bool)
  | provision (command : ProvisionTenantCommand) (draw : ProvisionDraw) (aborts : Bool)
  | tick (milliseconds : Nat)

inductive SignupReply where
  | requested (answer : Except SignupError RequestedSignup)
  | verified (answer : Except SignupError CompletedSignup)
  | provisioned (answer : Except ProvisioningError ProvisionTenantResult)
  | done

def signupProgram : SignupCall → SignupProg SignupReply
  | .request input ipAddress draw redis => do
    let answer ← request config crypto input ipAddress draw redis
    pure (.requested answer)
  | .resend email ipAddress token redis => do
    let answer ← resend config crypto email ipAddress token redis
    pure (.requested answer)
  | .verify token draw aborts => do
    let answer ← verify config crypto token draw aborts
    pure (.verified answer)
  | .provision command draw aborts => do
    let answer ← provision config command draw aborts
    pure (.provisioned answer)
  | .tick milliseconds => .stmt .tick fun db => (.done, { db with now := db.now + milliseconds })

abbrev SignupSys := Sys SignupStmt SignupDb SignupCall SignupReply

end WhatsappCrm.Signup
