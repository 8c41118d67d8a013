/-
Purpose: `BillingEventProcessor` (`billing/billing-event.processor.ts`), which applies a stored delivery in two steps
  that commit apart, `BillingReconciliationService`, and the pipeline as a system, interleaved.
-/
import WhatsappCrm.Billing.Store
import WhatsappCrm.Common.KeysetCursor

namespace WhatsappCrm.Billing

open Interleaving Table Lifecycle

variable (id : Uuid) (event : BillingEvent) (tenantId : Option Uuid) (d : BillingDelivery)

inductive ParkReason where
  | unresolvedTenant
  | unrecognisedPayload
  | unresolvedPlan
  | attemptsExhausted

def ParkReason.token : ParkReason → String
  | .unresolvedTenant => "unresolved_tenant"
  | .unrecognisedPayload => "unrecognised_payload"
  | .unresolvedPlan => "unresolved_plan"
  | .attemptsExhausted => "attempts_exhausted"

/-- `last_error` of a parked row. -/
def ParkReason.describe (reason : ParkReason) : Option String → String
  | none => reason.token
  | some detail => reason.token ++ ": " ++ detail

def BillingError.message : BillingError → String
  | .thrown message => message
  | .uniqueViolation => "Unique constraint failed"
  | .serializationFailure => "could not serialize access"
  | .recordNotFound => "No record was found for an update"
  | .tenantNotFound tenantId => "No tenant is provisioned with the slug " ++ tenantId.text ++ "."

inductive ProcessStep where
  | subscription
  | lifecycle
  | store
deriving DecidableEq

structure ClaimedDelivery where
  id : Uuid
  providerEventId : String
  subject : WebhookSubject
  parsed : ParsedWebhookEvent
  attempts : Nat

namespace BillingDelivery

def claimable : Bool :=
  d.id = id ∧ (d.status = .received ∨ d.status = .processing)

def startAttempt : BillingDelivery :=
  { d with status := .processing, attempts := d.attempts + 1 }

def succeed : BillingDelivery :=
  { d with status := .processed, tenantId }

def park (reason : String) (tenantId : Option Uuid) (d : BillingDelivery) : BillingDelivery :=
  { d with status := .failed, lastError := some reason, tenantId }

def note (reason : String) (d : BillingDelivery) : BillingDelivery := { d with lastError := some reason }

def parked : Bool := d.id = id ∧ d.status = .failed

def reset : BillingDelivery := { d with status := .received, attempts := 0, lastError := none }

end BillingDelivery

def BillingDelivery.stored : BillingDelivery :=
  { d with status := .received, attempts := 0, lastError := none, tenantId := none }

def BillingDb.knows (db : BillingDb) (delivery : BillingDelivery) : Bool :=
  db.deliveries.any fun d => d.providerEventId = delivery.providerEventId ∨ d.id = delivery.id

/-- `WebhookEventsRepository.store`: a delivery whose event is known stores nothing. -/
def ingest (delivery : BillingDelivery) : BillingProg (Option Uuid) :=
  .stmt (.store delivery) fun db =>
    if db.knows delivery then (none, db)
    else (some delivery.id, { db with deliveries := db.deliveries ++ [delivery.stored] })

def BillingDb.updateDeliveries (guard : BillingDelivery → Bool) (f : BillingDelivery → BillingDelivery)
    (db : BillingDb) : BillingDb :=
  { db with deliveries := updateWhere guard f db.deliveries }

def claim : BillingProg (Option ClaimedDelivery) :=
  .stmt (.claim id) fun db =>
    match db.deliveries.find? (BillingDelivery.claimable id) with
    | none => (none, db)
    | some d =>
      (some { id, providerEventId := d.providerEventId, subject := d.subject, parsed := d.parsed,
              attempts := d.attempts + 1 },
        db.updateDeliveries (BillingDelivery.claimable id) BillingDelivery.startAttempt)

def updateDelivery (tag : BillingStmt) (id : Uuid) (f : BillingDelivery → BillingDelivery) :
    BillingProg (Except BillingError Unit) :=
  .stmt tag fun db =>
    if db.deliveries.any (·.id = id) then (.ok (), db.updateDeliveries (·.id = id) f)
    else (.error .recordNotFound, db)

def markProcessed : BillingProg (Except BillingError Unit) :=
  updateDelivery (.markProcessed id) id (BillingDelivery.succeed tenantId)

def markFailed (reason : String) (tenantId : Option Uuid) : BillingProg (Except BillingError Unit) :=
  updateDelivery (.markFailed id) id (BillingDelivery.park reason tenantId)

def recordAttemptFailure (reason : String) : BillingProg (Except BillingError Unit) :=
  updateDelivery (.noteFailure id) id (BillingDelivery.note reason)

/-- `replay`: its two statements are one transaction on one row. -/
def replay : BillingProg Bool :=
  .stmt (.replay id) fun db =>
    (db.deliveries.any (BillingDelivery.parked id),
      db.updateDeliveries (BillingDelivery.parked id) BillingDelivery.reset)

def park (reason : ParkReason) (tenantId : Option Uuid) (detail : Option String) :
    BillingProg (Except BillingError Unit) :=
  markFailed id (reason.describe detail) tenantId

def resolveByCustomer : Option String → BillingProg (Option Uuid)
  | none => pure none
  | some providerCustomerId =>
    .read .read fun db =>
      (db.subscriptions.find? (·.providerCustomerId = some providerCustomerId)).map (·.tenantId)

def resolveByProvider (subject : WebhookSubject) : BillingProg (Option Uuid) :=
  match subject.providerSubscriptionId with
  | none => resolveByCustomer subject.providerCustomerId
  | some providerSubscriptionId => do
    match ← .read .read fun db =>
        (db.subscriptions.find? (·.providerSubscriptionId = some providerSubscriptionId)).map (·.tenantId) with
    | some tenantId => pure (some tenantId)
    | none => resolveByCustomer subject.providerCustomerId

def resolveTenant (subject : WebhookSubject) : BillingProg (Option Uuid) :=
  match subject.tenantId with
  | some tenantId => pure (some tenantId)
  | none => resolveByProvider subject

def BillingEvent.transition (target : TenantStatus) : TenantTransition :=
  { tenantId := event.tenantId, target, trigger := .billingEvent
    metadata := some [("providerEventId", event.providerEventId), ("billingEventType", event.type.text)] }

/-- `applyBillingEvent` on the lifecycle's tables: an edge the lifecycle refuses is no failure. -/
def moveTenant (eventId : Uuid) (db : LifecycleDb) : Except BillingError Unit × LifecycleDb :=
  match event.target with
  | none => (if db.findTenant event.tenantId = none then .error (.tenantNotFound event.tenantId) else .ok (), db)
  | some target =>
    match (transition (event.transition target) eventId).alone db with
    | (.ok _, after) => (.ok (), after)
    | (.error (.invalidTransition ..), after) => (.ok (), after)
    | (.error (.tenantNotFound tenantId), after) => (.error (.tenantNotFound tenantId), after)
    | (.error _, after) => (.error .serializationFailure, after)

def BillingDb.settle (eventId : Uuid) (db : BillingDb) : Except BillingError Unit × BillingDb :=
  match moveTenant event eventId db.lifecycle with
  | (.ok (), lifecycle) => (.ok (), { db with lifecycle, settled := db.settled ++ [event] })
  | (.error e, lifecycle) => (.error e, { db with lifecycle })

def applyBillingEvent (eventId : Uuid) : BillingProg (Except BillingError Unit) :=
  .stmt (.transition event) (·.settle event eventId)

structure ProcessIds where
  subscriptionId : Uuid
  eventId : Uuid

def settle (eventId : Uuid) (fault : Option (Fault ProcessStep)) : BillingProg (Except BillingError Unit) := do
  match ← attemptStep fault .lifecycle (applyBillingEvent event eventId) with
  | .error e => pure (.error e)
  | .ok () =>
    if event.currentPeriodStart = none then pure (.ok ())
    else do
      let _ ← enqueue event.tenantId true (.event event)
      pure (.ok ())

/-- `apply`: the two writes, in order, and the seat push that follows a period roll. -/
def applyDelivery (ids : ProcessIds) (fault : Option (Fault ProcessStep)) : BillingProg (Except BillingError Unit) := do
  match ← attemptStep fault .subscription (applyEvent event .webhook ids.subscriptionId) with
  | .error e => pure (.error e)
  | .ok (.unresolvedPlan detail) => attemptStep fault .store (park id .unresolvedPlan (some event.tenantId) (some detail))
  | .ok .stale => attemptStep fault .store (markProcessed id (some event.tenantId))
  | .ok (.applied _ _) => do
    match ← settle event ids.eventId fault with
    | .error e => pure (.error e)
    | .ok () => attemptStep fault .store (markProcessed id (some event.tenantId))

def handleFailure (maxAttempts : Nat) (claimed : ClaimedDelivery) (tenantId : Uuid) (error : BillingError) :
    BillingProg (Except BillingError Unit) :=
  if maxAttempts ≤ claimed.attempts then park claimed.id .attemptsExhausted (some tenantId) (some error.message)
  else do
    match ← recordAttemptFailure claimed.id error.message with
    | .error e => pure (.error e)
    | .ok () => pure (.error error)

def ParsedWebhookEvent.within (tenantId : Uuid) (providerEventId : String) : ParsedWebhookEvent → ParsedWebhookEvent
  | .event parsed => .event { parsed with tenantId, providerEventId }
  | .ignored => .ignored
  | .unreadable detail => .unreadable detail

def processFor (maxAttempts : Nat) (claimed : ClaimedDelivery) (ids : ProcessIds) (fault : Option (Fault ProcessStep))
    (tenantId : Uuid) : BillingProg (Except BillingError Unit) :=
  match claimed.parsed.within tenantId claimed.providerEventId with
  | .unreadable detail => park claimed.id .unrecognisedPayload (some tenantId) (some detail)
  | .ignored => markProcessed claimed.id (some tenantId)
  | .event event => do
    match ← applyDelivery claimed.id event ids fault with
    | .ok () => pure (.ok ())
    | .error e => handleFailure maxAttempts claimed tenantId e

def process (maxAttempts : Nat) (id : Uuid) (ids : ProcessIds) (fault : Option (Fault ProcessStep)) :
    BillingProg (Except BillingError Unit) := do
  match ← claim id with
  | none => pure (.ok ())
  | some claimed =>
    match ← resolveTenant claimed.subject with
    | none => park claimed.id .unresolvedTenant none none
    | some tenantId => processFor maxAttempts claimed ids fault tenantId

end WhatsappCrm.Billing

namespace WhatsappCrm.Billing

open Interleaving Keyset Lifecycle

def reconcileBatchSize : Nat := 200

structure ReconciliationReport where
  checked : Nat
  corrected : Nat
  failed : Nat

structure ReconciliationRow where
  tenantId : Uuid
  status : SubscriptionStatus
  seats : Nat

/-- The order of the pass: never written first, then the oldest. -/
def quietest (a b : Subscription) : Bool :=
  match a.lastEventAt, b.lastEventAt with
  | none, _ => true
  | some _, none => false
  | some x, some y => x ≤ y

def BillingDb.reconciliationRows (db : BillingDb) : List ReconciliationRow :=
  ((sortBy quietest (db.subscriptions.filter (·.providerSubscriptionId ≠ none))).take reconcileBatchSize).map fun s =>
    { tenantId := s.tenantId, status := s.status, seats := s.seats }

structure ProviderReading where
  subscription : Option ProviderSubscription
  readAt : Millis

inductive ReconcileStep where
  | provider
  | subscription
  | lifecycle
deriving DecidableEq

def readProvider (tenantId : Uuid) : BillingProg (Except BillingError ProviderReading) :=
  .read (.readProvider tenantId) fun db =>
    .ok { subscription := db.currentSubscription tenantId, readAt := db.providerNow }

/-- `getSubscription`: the event is stamped after the answer has come. -/
def getSubscription (tenantId : Uuid) (fault : Option (Fault ReconcileStep)) :
    BillingProg (Except BillingError (Option (BillingEvent × Millis))) := do
  match ← attemptRead fault .provider (readProvider tenantId) with
  | .error e => pure (.error e)
  | .ok { subscription := none, .. } => pure (.ok none)
  | .ok { subscription := some subscription, readAt } => do
    let now ← .read .read (·.now)
    pure (.ok (some (asEvent subscription tenantId ("reconcile-" ++ subscription.id) now, readAt)))

def correctTenant (row : ReconciliationRow) (event : BillingEvent) (eventId : Uuid) :
    BillingProg (Except BillingError Unit) :=
  if event.status ≠ none ∧ event.status ≠ some row.status then applyBillingEvent event eventId
  else pure (.ok ())

def correctSeats (row : ReconciliationRow) (event : BillingEvent) : BillingProg Unit :=
  if event.seats ≠ none ∧ event.seats ≠ some row.seats then do
    let _ ← enqueue row.tenantId true .reconciliation
    pure ()
  else pure ()

def reconcileOne (row : ReconciliationRow) (ids : ProcessIds) (fault : Option (Fault ReconcileStep)) :
    BillingProg (Except BillingError Bool) := do
  match ← getSubscription row.tenantId fault with
  | .error e => pure (.error e)
  | .ok none => pure (.ok false)
  | .ok (some (event, readAt)) =>
    match ← attemptStep fault .subscription (applyEvent event (.reconciliation readAt) ids.subscriptionId) with
    | .error e => pure (.error e)
    | .ok (.applied _ _) => do
      match ← attemptStep fault .lifecycle (correctTenant row event ids.eventId) with
      | .error e => pure (.error e)
      | .ok () => do
        correctSeats row event
        pure (.ok ((event.status ≠ none ∧ event.status ≠ some row.status) ∨ event.seats ≠ some row.seats))
    | .ok _ => pure (.ok false)

/-- The pass over its rows: a tenant that fails does not stop it. -/
def reconcileRows (ids : Uuid → ProcessIds) (faults : Uuid → Option (Fault ReconcileStep)) :
    List ReconciliationRow → ReconciliationReport → BillingProg ReconciliationReport
  | [], report => pure report
  | row :: rows, report => do
    match ← reconcileOne row (ids row.tenantId) (faults row.tenantId) with
    | .error _ => reconcileRows ids faults rows { report with failed := report.failed + 1 }
    | .ok corrected =>
      reconcileRows ids faults rows { report with corrected := report.corrected + if corrected then 1 else 0 }

def reconcile (ids : Uuid → ProcessIds) (faults : Uuid → Option (Fault ReconcileStep)) :
    BillingProg ReconciliationReport := do
  let rows ← .read .read BillingDb.reconciliationRows
  reconcileRows ids faults rows { checked := rows.length, corrected := 0, failed := 0 }

end WhatsappCrm.Billing

namespace WhatsappCrm

open Interleaving Billing

inductive BillingCall where
  | ingest (delivery : BillingDelivery)
  | process (id : Uuid) (ids : ProcessIds) (fault : Option (Fault ProcessStep))
  | replay (id : Uuid)
  | reconcile (ids : Uuid → ProcessIds) (faults : Uuid → Option (Fault ReconcileStep))
  | changeSeats (tenantId : Uuid) (seatHolders : List SeatHolder)
  | work (tenantId : Uuid) (fault : Option (Fault PushStep))
  | stall (tenantId : Uuid) (gaveUp : Bool)
  | evict (tenantId : Uuid)
  | outage (queueReachable : Bool)
  | providerChange (tenantId : Uuid) (subscriptions : List ProviderSubscription)
  | tick (ours theirs : Nat)

inductive BillingReply where
  | stored (id : Option Uuid)
  | processed (result : Except BillingError Unit)
  | replayed (found : Bool)
  | reconciled (report : ReconciliationReport)
  | enqueued (outcome : EnqueueOutcome)
  | pushed (result : Except BillingError Unit)
  | done

namespace Billing

def outage (queueReachable : Bool) : BillingProg Unit :=
  .stmt .outage fun db => ((), { db with queueReachable })

def BillingDb.withProviderSubscriptions (tenantId : Uuid) (subscriptions : List ProviderSubscription)
    (db : BillingDb) : BillingDb :=
  { db with
    providerSubscriptions := db.providerSubscriptions.filter (·.tenantId ≠ tenantId) ++
      subscriptions.map ({ · with tenantId }) }

def providerChange (tenantId : Uuid) (subscriptions : List ProviderSubscription) : BillingProg Unit :=
  .stmt (.providerChange tenantId) fun db => ((), db.withProviderSubscriptions tenantId subscriptions)

def BillingDb.elapse (ours theirs : Nat) (db : BillingDb) : BillingDb :=
  { db with
    lifecycle := { db.lifecycle with now := db.lifecycle.now + ours }
    providerNow := db.providerNow + theirs }

def tick (ours theirs : Nat) : BillingProg Unit := .stmt .tick fun db => ((), db.elapse ours theirs)

end Billing

def billingProgram (maxAttempts : Nat) : BillingCall → BillingProg BillingReply
  | .ingest delivery => (ingest delivery).bind fun id => .pure (.stored id)
  | .process id ids fault => (process maxAttempts id ids fault).bind fun result => .pure (.processed result)
  | .replay id => (Billing.replay id).bind fun found => .pure (.replayed found)
  | .reconcile ids faults => (Billing.reconcile ids faults).bind fun report => .pure (.reconciled report)
  | .changeSeats tenantId seatHolders =>
    (changeSeats tenantId seatHolders).bind fun outcome => .pure (.enqueued outcome)
  | .work tenantId fault => (work tenantId fault).bind fun result => .pure (.pushed result)
  | .stall tenantId gaveUp => (stall tenantId gaveUp).bind fun _ => .pure .done
  | .evict tenantId => (evict tenantId).bind fun _ => .pure .done
  | .outage queueReachable => (outage queueReachable).bind fun _ => .pure .done
  | .providerChange tenantId subscriptions => (providerChange tenantId subscriptions).bind fun _ => .pure .done
  | .tick ours theirs => (Billing.tick ours theirs).bind fun _ => .pure .done

abbrev BillingSys := Sys BillingStmt BillingDb BillingCall BillingReply

def BillingRun (maxAttempts : Nat) (cond : BillingSys → BillingCall → BillingStmt → Prop) (db : BillingDb)
    (s : BillingSys) : Prop :=
  Reachable (billingProgram maxAttempts) cond (.idle db) s

end WhatsappCrm
