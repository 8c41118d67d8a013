/-
Purpose: The writers of `tenants`: `TenantLifecycleService`, provisioning, the operator's `expedite`, the timers of
  `TenantLifecycleSweeper`, and `TenantPurgeService`, one transaction for each batch; interleaved.
-/
import WhatsappCrm.Lifecycle.Store

namespace WhatsappCrm.Lifecycle

open Interleaving Keyset Table

structure TransitionResult where
  state : Tenant
  /-- The `lifecycle_events` row this wrote, or nothing when the call was a no-op. -/
  eventId : Option Uuid
  transitioned : Bool

def updateTenant (tenantId : Uuid) (target : TenantStatus) (columns : TimerColumns) : LifecycleTx Tenant := do
  match ← .execute .write (.updateTenant tenantId target columns) with
  | .tenant t :: _ => pure (t.write target columns)
  | _ => .abort (.tenantNotFound tenantId)

def TenantTransition.event (input : TenantTransition) (eventId : Uuid) (existing : Tenant) (now : Millis) :
    LifecycleEvent :=
  { id := eventId, tenantId := existing.id, occurredAt := now, fromState := some existing.status,
    toState := input.target, trigger := input.trigger, actor := input.actor, reason := input.reason,
    metadata := input.metadata }

def writeTransition (input : TenantTransition) (eventId : Uuid) (existing : Tenant) (now : Millis) :
    LifecycleTx TransitionResult := do
  let state ← updateTenant existing.id input.target (timerColumnsFor existing.status input.target now)
  let _ ← .execute .write (.createEvent (input.event eventId existing now))
  pure { state, eventId := some eventId, transitioned := true }

/-- `applyTransition`, the transaction body; `now` is the instant the transaction began at. -/
def applyTransition (input : TenantTransition) (eventId : Uuid) (now : Millis) : LifecycleTx TransitionResult := do
  let _ ← .execute .write (.lockTenant input.tenantId)
  match ← .query .read (·.findTenant input.tenantId) with
  | none => .abort (.tenantNotFound input.tenantId)
  | some existing =>
    if existing.status = input.target then
      pure { state := existing, eventId := none, transitioned := false }
    else
      match refuseTransition existing.status input.target input.trigger with
      | some reason => .abort (.invalidTransition existing.status input.target input.trigger reason)
      | none => writeTransition input eventId existing now

def transitionTransaction (input : TenantTransition) (eventId : Uuid) : LifecycleTx TransitionResult := do
  let now ← .query .read (·.now)
  applyTransition input eventId now

def transition (input : TenantTransition) (eventId : Uuid) : LifecycleProg (Except LifecycleError TransitionResult) :=
  (transitionTransaction input eventId).run lifecycleWrites (.commit input.tenantId input.target) []

def state (tenantId : Uuid) : LifecycleProg (Except LifecycleError Tenant) :=
  .read .read fun db => match db.findTenant tenantId with
    | some t => .ok t
    | none => .error (.tenantNotFound tenantId)

inductive TenantOnboardingPath where
  | operator
  | selfSignup

def startingState (path : TenantOnboardingPath) (now : Millis) : TenantStatus × Option Millis :=
  match path with
  | .operator => (.active, none)
  | .selfSignup => (.trialing, some (daysAfter now trialDays))

structure ProvisionTenantCommand where
  slug : String
  name : String
  path : TenantOnboardingPath := .operator

def startingTenant (command : ProvisionTenantCommand) (tenantId : Uuid) (now : Millis) : Tenant :=
  let start := startingState command.path now
  { id := tenantId, slug := command.slug, name := command.name, status := start.1, trialEndsAt := start.2 }

/-- The data of `createGenesisEvent`. -/
def genesisEvent (tenant : Tenant) (eventId : Uuid) (now : Millis) : LifecycleEvent :=
  { id := eventId, tenantId := tenant.id, occurredAt := now, fromState := none, toState := tenant.status,
    trigger := .system }

/-- `createTenant`, with its first row of the trail. -/
def createTenant (command : ProvisionTenantCommand) (tenantId eventId : Uuid) (now : Millis) : LifecycleTx Tenant := do
  let tenant := startingTenant command tenantId now
  let _ ← .execute .write (.createTenant tenant)
  let _ ← .execute .write (.createEvent (genesisEvent tenant eventId now))
  pure tenant

/-- `TenantProvisioningService.provision`: a slug that is taken answers the tenant that has it, as it is. -/
def provision (command : ProvisionTenantCommand) (tenantId eventId : Uuid) :
    LifecycleProg (Except LifecycleError Tenant) :=
  let work : LifecycleTx Tenant := do
    let now ← .query .read (·.now)
    match ← .query .read (·.findBySlug command.slug) with
    | some existing => pure existing
    | none => createTenant command tenantId eventId now
  work.run lifecycleWrites .provision []

def transitionBySlug (slug : String) (target : TenantStatus) (actor : AuditActor) (reason : Option String)
    (eventId : Uuid) : LifecycleProg (Except LifecycleError Tenant) := do
  match ← .read .read (·.findBySlug slug) with
  | none => pure (.error (.slugNotFound slug))
  | some tenant =>
    match ← transition { tenantId := tenant.id, target, trigger := .operatorAction, actor, reason } eventId with
    | .ok result => pure (.ok result.state)
    | .error e => pure (.error e)

def expeditable (tenantId : Uuid) (t : Tenant) : Bool := t.id = tenantId && t.status = .suspended

/-- `AdminTenantLifecycleService.expedite`: one statement, whose clock was read before it. -/
def expedite (tenantId : Uuid) : LifecycleProg (Except LifecycleError Tenant) := do
  let now ← .read .read (·.now)
  let count ← .stmt (.expedite tenantId) fun db =>
    ((db.tenants.filter (expeditable tenantId)).length,
      db.updateTenants (expeditable tenantId) ({ · with purgeAt := some now }))
  if count = 0 then pure (.error (.tenantNotFound tenantId)) else state tenantId

/-- `POST /admin/tenants/{slug}/delete` with `force`. -/
def forceDelete (slug : String) (actor : AuditActor) (reason : Option String) (eventId : Uuid) :
    LifecycleProg (Except LifecycleError Tenant) := do
  match ← transitionBySlug slug .suspended actor reason eventId with
  | .error e => pure (.error e)
  | .ok tenant => expedite tenant.id

def sweepBatchSize : Nat := 200

def LifecycleDb.dueTenants (db : LifecycleDb) (guard : Tenant → Bool) (deadline : Tenant → Option Millis) : List Uuid :=
  ((sortBy (fun a b => (deadline a).getD 0 ≤ (deadline b).getD 0) (db.tenants.filter guard)).take
    sweepBatchSize).map (·.id)

/-- The query of `expireTrials`. -/
def trialExpired (now : Millis) (t : Tenant) : Bool :=
  t.status = .trialing && t.trialEndsAt.any (· ≤ now)

/-- The query of `elapseGracePeriods`. -/
def graceElapsed (now : Millis) (t : Tenant) : Bool :=
  (t.status = .pastDue || t.status = .cancelled) && t.gracePeriodEndsAt.any (· ≤ now)

/-- `transitionEach`: each due tenant in its own transaction, failures quarantined; answers how many moved. -/
def transitionEach (target : TenantStatus) (eventId : Uuid → Uuid) : List Uuid → LifecycleProg Nat
  | [] => .pure 0
  | tenantId :: due => do
    let outcome ← transition { tenantId, target, trigger := .timer } (eventId tenantId)
    let moved ← transitionEach target eventId due
    match outcome with
    | .ok result => pure (if result.transitioned then moved + 1 else moved)
    | .error _ => pure moved

/-- `remindEach`'s claim of a stamp, before the message is sent. -/
def claimStamp (tenantId : Uuid) (stamped : Tenant → Bool) (stamp : Millis → Tenant → Tenant) : LifecycleProg Nat :=
  .stmt .stamp fun db =>
    let guard := fun t : Tenant => t.id = tenantId && !stamped t
    ((db.tenants.filter guard).length, db.updateTenants guard (stamp db.now))

def claimTrialEnding (tenantId : Uuid) : LifecycleProg Nat :=
  claimStamp tenantId (·.trialEndingNotifiedAt.isSome) fun now t => { t with trialEndingNotifiedAt := some now }

def claimDeletionReminder (tenantId : Uuid) : LifecycleProg Nat :=
  claimStamp tenantId (·.deletionReminderNotifiedAt.isSome) fun now t =>
    { t with deletionReminderNotifiedAt := some now }

/-- The transitions of `sweep(now)`: trials that have expired, then grace periods that have elapsed. -/
def sweep (now : Millis) (eventId : Uuid → Uuid) : LifecycleProg (Nat × Nat) := do
  let expired ← .read .read (·.dueTenants (trialExpired now) (·.trialEndsAt))
  let trialsExpired ← transitionEach .pastDue eventId expired
  let elapsed ← .read .read (·.dueTenants (graceElapsed now) (·.gracePeriodEndsAt))
  let gracePeriodsElapsed ← transitionEach .suspended eventId elapsed
  pure (trialsExpired, gracePeriodsElapsed)

def purgeBatchSize : Nat := 10000

structure PurgeReport where
  tenantId : Uuid
  rowsDeleted : Nat
  blobsDeleted : Nat
  purged : Bool

inductive PurgeOutcome where
  | report (r : PurgeReport)
  | interrupted

namespace LifecycleDb

variable (db : LifecycleDb)

def destroying (tenantId : Uuid) (what : Destroyed) : List Destruction :=
  db.destroyed ++ [{ tenantId, what, instant := db.now, tenant := db.findTenant tenantId }]

def purgeBatch (tenantId : Uuid) (table : PurgeTable) : List TenantRow :=
  (db.rows.filter fun r => r.table = table ∧ r.tenantId = tenantId).take purgeBatchSize

/-- `DELETE … WHERE ctid IN (SELECT … LIMIT n)`. -/
def deleteBatch (tenantId : Uuid) (table : PurgeTable) : Nat × LifecycleDb :=
  let batch := db.purgeBatch tenantId table
  if batch = [] then (0, db)
  else
    (batch.length,
      { db with
        rows := db.rows.filter (!batch.contains ·)
        destroyed := db.destroying tenantId (.rows table batch.length) })

def mediaPage (tenantId : Uuid) (cursor : Option Uuid) : List TenantRow :=
  let objects := db.rows.filter fun r =>
    r.table = .mediaObjects ∧ r.tenantId = tenantId ∧ cursor.all (· < r.id)
  (sortBy (fun a b => a.id ≤ b.id) objects).take purgeBatchSize

def deleteObject (tenantId : Uuid) (storageKey : String) : LifecycleDb :=
  { db with
    storedObjects := db.storedObjects.filter (· ≠ storageKey)
    destroyed := db.destroying tenantId (.object storageKey) }

def unlinkBatch (tenantId : Uuid) : Nat × LifecycleDb :=
  let unlinked := min ((db.webhookEvents.filter (· = some tenantId)).length) purgeBatchSize
  (unlinked, { db with webhookEvents := unlinkFirst tenantId purgeBatchSize db.webhookEvents })
where
  unlinkFirst (tenantId : Uuid) : Nat → List (Option Uuid) → List (Option Uuid)
    | _, [] => []
    | 0, links => links
    | limit + 1, link :: links =>
      if link = some tenantId then none :: unlinkFirst tenantId limit links
      else link :: unlinkFirst tenantId (limit + 1) links

end LifecycleDb

/-- The objects of one page, a failed delete logged and skipped; answers how many were deleted. -/
def deleteObjects (tenantId : Uuid) (unreachable : List String) : List String → LifecycleProg Nat
  | [] => .pure 0
  | key :: keys =>
    if unreachable.contains key then deleteObjects tenantId unreachable keys
    else do
      let _ ← .stmt (.destroyObject tenantId key) fun db => ((), db.deleteObject tenantId key)
      let deleted ← deleteObjects tenantId unreachable keys
      pure (deleted + 1)

/-- `deleteBlobs`, for at most this many pages. -/
def deleteBlobs (tenantId : Uuid) (unreachable : List String) : Nat → Option Uuid → LifecycleProg (Option Nat)
  | 0, _ => .pure none
  | pages + 1, cursor => do
    let objects ← .read .read (·.mediaPage tenantId cursor)
    match objects.getLast? with
    | none => pure (some 0)
    | some last => do
      let deleted ← deleteObjects tenantId unreachable (objects.filterMap (·.storageKey))
      let rest ← deleteBlobs tenantId unreachable pages (some last.id)
      pure (rest.map (deleted + ·))

/-- The batches of one table, at most this many. -/
def deleteTable (tenantId : Uuid) (table : PurgeTable) : Nat → LifecycleProg (Option Nat)
  | 0 => .pure none
  | batches + 1 => do
    let deleted ← .stmt (.destroyRows tenantId table) (·.deleteBatch tenantId table)
    if deleted < purgeBatchSize then pure (some deleted)
    else
      let rest ← deleteTable tenantId table batches
      pure (rest.map (deleted + ·))

def deleteTables (tenantId : Uuid) (batches : Nat) : List PurgeTable → LifecycleProg (Option Nat)
  | [] => .pure (some 0)
  | table :: tables => do
    match ← deleteTable tenantId table batches with
    | none => pure none
    | some deleted => do
      let rest ← deleteTables tenantId batches tables
      pure (rest.map (deleted + ·))

/-- `unlinkWebhookEvents`, for at most this many batches. -/
def unlinkWebhookEvents (tenantId : Uuid) : Nat → LifecycleProg (Option Unit)
  | 0 => .pure none
  | batches + 1 => do
    let unlinked ← .stmt .unlink (·.unlinkBatch tenantId)
    if unlinked < purgeBatchSize then pure (some ()) else unlinkWebhookEvents tenantId batches

def deleteRows (tenantId : Uuid) (batches : Nat) : LifecycleProg (Option Nat) := do
  match ← deleteTables tenantId batches purgeOrder with
  | none => pure none
  | some total => do
    match ← unlinkWebhookEvents tenantId batches with
    | none => pure none
    | some () => pure (some total)

/-- `begin`: stamps `purge_started_at`, whatever the tenant's status is by now. -/
def beginPurge (tenantId : Uuid) : LifecycleProg Unit := do
  let now ← .read .read (·.now)
  .stmt (.begin tenantId) fun db =>
    ((), db.updateTenants (·.id = tenantId) ({ · with purgeStartedAt := some now }))

def finishPurge (tenantId : Uuid) (rowsDeleted blobsDeleted : Nat) (eventId : Uuid) :
    LifecycleProg (Except LifecycleError PurgeOutcome) := do
  match ← transition
      { tenantId, target := .deleted, trigger := .timer, reason := some "Retention window elapsed.",
        metadata := some [("rowsDeleted", toString rowsDeleted), ("blobsDeleted", toString blobsDeleted)] }
      eventId with
  | .ok _ => pure (.ok (.report { tenantId, rowsDeleted, blobsDeleted, purged := true }))
  | .error e => pure (.error e)

def purgeDue (tenantId : Uuid) (started : Bool) (batches : Nat) (unreachable : List String) (eventId : Uuid) :
    LifecycleProg (Except LifecycleError PurgeOutcome) := do
  if started then pure () else beginPurge tenantId
  match ← deleteBlobs tenantId unreachable batches none with
  | none => pure (.ok .interrupted)
  | some blobsDeleted => do
    match ← deleteRows tenantId batches with
    | none => pure (.ok .interrupted)
    | some rowsDeleted => finishPurge tenantId rowsDeleted blobsDeleted eventId

def purge (tenantId : Uuid) (batches : Nat) (unreachable : List String) (eventId : Uuid) :
    LifecycleProg (Except LifecycleError PurgeOutcome) := do
  let now ← .read .read (·.now)
  match ← .read (.dueCheck tenantId) (·.findTenant tenantId) with
  | none => pure (.error (.tenantNotFound tenantId))
  | some tenant =>
    if tenant.due now then purgeDue tenantId tenant.purgeStartedAt.isSome batches unreachable eventId
    else pure (.ok (.report { tenantId, rowsDeleted := 0, blobsDeleted := 0, purged := false }))

/-- A call of one of the writers; users, billing events and timers all go through `transition`. -/
inductive LifecycleCall where
  | provision (command : ProvisionTenantCommand) (tenantId eventId : Uuid)
  | transition (input : TenantTransition) (eventId : Uuid)
  | transitionBySlug (slug : String) (target : TenantStatus) (actor : AuditActor) (reason : Option String)
      (eventId : Uuid)
  | forceDelete (slug : String) (actor : AuditActor) (reason : Option String) (eventId : Uuid)
  | expedite (tenantId : Uuid)
  | sweep (now : Millis) (eventId : Uuid → Uuid)
  | claimTrialEnding (tenantId : Uuid)
  | claimDeletionReminder (tenantId : Uuid)
  | purge (tenantId : Uuid) (batches : Nat) (unreachable : List String) (eventId : Uuid)
  /-- The product stores a row or an object of a tenant. -/
  | storeRow (row : TenantRow)
  | storeObject (storageKey : String)
  | linkEvent (tenantId : Uuid)
  | tick (milliseconds : Nat)

inductive LifecycleReply where
  | tenant (result : Except LifecycleError Tenant)
  | transitioned (result : Except LifecycleError TransitionResult)
  | swept (moved : Nat × Nat)
  | claimed (count : Nat)
  | purged (result : Except LifecycleError PurgeOutcome)
  | done

def lifecycleProgram : LifecycleCall → LifecycleProg LifecycleReply
  | .provision command tenantId eventId => (provision command tenantId eventId).bind (.pure ∘ .tenant)
  | .transition input eventId => (transition input eventId).bind (.pure ∘ .transitioned)
  | .transitionBySlug slug target actor reason eventId =>
    (transitionBySlug slug target actor reason eventId).bind (.pure ∘ .tenant)
  | .forceDelete slug actor reason eventId => (forceDelete slug actor reason eventId).bind (.pure ∘ .tenant)
  | .expedite tenantId => (expedite tenantId).bind (.pure ∘ .tenant)
  | .sweep now eventId => (sweep now eventId).bind (.pure ∘ .swept)
  | .claimTrialEnding tenantId => (claimTrialEnding tenantId).bind (.pure ∘ .claimed)
  | .claimDeletionReminder tenantId => (claimDeletionReminder tenantId).bind (.pure ∘ .claimed)
  | .purge tenantId batches unreachable eventId =>
    (purge tenantId batches unreachable eventId).bind (.pure ∘ .purged)
  | .storeRow row => .stmt .store fun db => (.done, { db with rows := db.rows ++ [row] })
  | .storeObject storageKey =>
    .stmt .store fun db => (.done, { db with storedObjects := db.storedObjects ++ [storageKey] })
  | .linkEvent tenantId =>
    .stmt .store fun db => (.done, { db with webhookEvents := db.webhookEvents ++ [some tenantId] })
  | .tick milliseconds => .stmt .tick fun db => (.done, { db with now := db.now + milliseconds })

abbrev LifecycleSys := Sys LifecycleStmt LifecycleDb LifecycleCall LifecycleReply

abbrev LifecycleRun (db : LifecycleDb) (s : LifecycleSys) : Prop :=
  Reachable lifecycleProgram anyStep (.idle db) s

end WhatsappCrm.Lifecycle
