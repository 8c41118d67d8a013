/-
Purpose: The billing vocabulary (`packages/contracts/src/billing.ts`), its tables, the provider beside them, the
  transaction that applies an event (`billing/subscription-sync.service.ts`), and `SeatSyncService`
  (`billing/seat-sync.service.ts`) with its queue.
-/
import WhatsappCrm.Webhooks.Store
import WhatsappCrm.Lifecycle.System

namespace WhatsappCrm.Billing

open Lifecycle

inductive SubscriptionStatus where
  | trialing
  | active
  | pastDue
  | canceled
  | incomplete
deriving DecidableEq

inductive BillingEventType where
  | subscriptionActivated
  | subscriptionUpdated
  | subscriptionPastDue
  | subscriptionCanceled
  | paymentSucceeded
  | paymentFailed
deriving DecidableEq

def BillingEventType.text : BillingEventType → String
  | .subscriptionActivated => "subscription.activated"
  | .subscriptionUpdated => "subscription.updated"
  | .subscriptionPastDue => "subscription.past_due"
  | .subscriptionCanceled => "subscription.canceled"
  | .paymentSucceeded => "payment.succeeded"
  | .paymentFailed => "payment.failed"

/-- `BILLING_EVENT_TARGETS`: where the event moves the tenant, if it moves it. -/
def billingEventTargets : BillingEventType → Option TenantStatus
  | .subscriptionActivated | .paymentSucceeded => some .active
  | .subscriptionPastDue | .paymentFailed => some .pastDue
  | .subscriptionCanceled => some .cancelled
  | .subscriptionUpdated => none

/-- `BillingEvent`: `none` is `null`, or `undefined` where the field is optional. -/
structure BillingEvent where
  type : BillingEventType
  tenantId : Uuid
  providerEventId : String
  planKey : Option String := none
  seats : Option Nat := none
  status : Option SubscriptionStatus := none
  currentPeriodStart : Option Millis := none
  currentPeriodEnd : Option Millis := none
  occurredAt : Millis
  cancelAtPeriodEnd : Option Bool := none
  cancelsAt : Option Millis := none
  providerSubscriptionId : Option String := none
  providerCustomerId : Option String := none
  providerProductId : Option String := none
deriving DecidableEq

def BillingEvent.target (event : BillingEvent) : Option TenantStatus := billingEventTargets event.type

structure WebhookSubject where
  tenantId : Option Uuid := none
  providerSubscriptionId : Option String := none
  providerCustomerId : Option String := none

/-- `ParsedWebhookEvent`. The tenant and the event id are those the parser is given. -/
inductive ParsedWebhookEvent where
  | event (event : BillingEvent)
  | ignored
  | unreadable (detail : String)

structure ProviderSubscription where
  id : String
  tenantId : Uuid
  customerId : String
  seats : Option Nat := none
  status : Option SubscriptionStatus := none
  currentPeriodStart : Option Millis := none
  currentPeriodEnd : Option Millis := none
  cancelAtPeriodEnd : Option Bool := none
  endsAt : Option Millis := none
  startedAt : Millis := 0
  productId : Option String := none

def fromSubscription (type : BillingEventType) (subscription : ProviderSubscription) (tenantId : Uuid)
    (providerEventId : String) (occurredAt : Millis) : BillingEvent :=
  { type, tenantId, providerEventId, occurredAt
    seats := subscription.seats
    status := subscription.status
    currentPeriodStart := subscription.currentPeriodStart
    currentPeriodEnd := subscription.currentPeriodEnd
    cancelAtPeriodEnd := subscription.cancelAtPeriodEnd
    cancelsAt := if subscription.cancelAtPeriodEnd = some true then subscription.endsAt else none
    providerSubscriptionId := some subscription.id
    providerCustomerId := some subscription.customerId }

/-- `asEvent`: a subscription that was read back, as an event of the instant `now`. -/
def asEvent (subscription : ProviderSubscription) (tenantId : Uuid) (providerEventId : String) (now : Millis) :
    BillingEvent :=
  let event := fromSubscription .subscriptionUpdated subscription tenantId providerEventId now
  { event with
    type := if event.status = some .active then .subscriptionActivated else event.type
    providerProductId := subscription.productId }

/-- `reduce`: the newest of the subscriptions, the first of those that started at once. -/
def newestSubscription : List ProviderSubscription → Option ProviderSubscription
  | [] => none
  | subscription :: rest => some (rest.foldl (fun newest candidate =>
    if newest.startedAt < candidate.startedAt then candidate else newest) subscription)

/-- What asks for a push of the seat count. -/
inductive SeatRequestOrigin where
  | membership
  | event (event : BillingEvent)
  | reconciliation
deriving DecidableEq

open Interleaving Table

structure PlanEntitlements where
  seats : Option Nat := none

/-- A row of `plans`; `none` are entitlements that do not parse. -/
structure Plan where
  id : Uuid
  key : String
  name : String
  providerProductId : Option String := none
  entitlements : Option PlanEntitlements := some {}

structure Subscription where
  id : Uuid
  tenantId : Uuid
  planId : Uuid
  seats : Nat
  status : SubscriptionStatus
  currentPeriodStart : Option Millis := none
  currentPeriodEnd : Option Millis := none
  cancelAtPeriodEnd : Bool := false
  cancelsAt : Option Millis := none
  pastDueSince : Option Millis := none
  lastEventAt : Option Millis := none
  providerSubscriptionId : Option String := none
  providerCustomerId : Option String := none
deriving DecidableEq

structure TenantEntitlements where
  tenantId : Uuid
  planKey : Option String := none
  planName : Option String := none
  entitlements : PlanEntitlements := {}

/-- A row of `webhook_events` of the billing provider, with what the adapter makes of its payload. -/
structure BillingDelivery where
  id : Uuid
  providerEventId : String
  subject : WebhookSubject
  parsed : ParsedWebhookEvent
  status : Webhooks.WebhookEventStatus := .received
  attempts : Nat := 0
  lastError : Option String := none
  tenantId : Option Uuid := none

structure SeatHolder where
  tenantId : Uuid
  id : Uuid
  invited : Bool := false

/-- The state of a job; an active one is held under the number of its attempt, counted over all jobs. -/
inductive SeatJobState where
  | waiting
  | active (attempt : Nat)
  | completed
  | failed
deriving DecidableEq

/-- `SyncBillingSeatsJob` in the queue, under its tenant's id; who asked for it is a record. -/
structure SeatJob where
  tenantId : Uuid
  allowDecrease : Bool
  state : SeatJobState := .waiting
  failures : Nat := 0
  origin : SeatRequestOrigin

/-- Where an event came from: a delivery, or a reconciliation and the provider's clock at its read. -/
inductive EventSource where
  | webhook
  | reconciliation (readAt : Millis)
deriving DecidableEq

/-- What became of an event: whether it was written, and whether that moved the period. -/
structure Application where
  event : BillingEvent
  source : EventSource
  applied : Bool
  rolled : Bool

structure SeatRequest where
  tenantId : Uuid
  allowDecrease : Bool

structure SeatCount where
  tenantId : Uuid
  attempt : Nat
  requests : Nat

structure SeatReading where
  tenantId : Uuid
  attempt : Nat
  allowDecrease : Bool
  covers : Nat

structure SeatPush where
  tenantId : Uuid
  seats : Nat
  before : Option Nat
  allowDecrease : Bool
  origin : SeatRequestOrigin

structure BillingDb where
  lifecycle : LifecycleDb := {}
  plans : List Plan := []
  subscriptions : List Subscription := []
  entitlements : List TenantEntitlements := []
  deliveries : List BillingDelivery := []
  seatHolders : List SeatHolder := []
  queueReachable : Bool := true
  seatJobs : List SeatJob := []
  /-- How many attempts at jobs have begun. -/
  attempts : Nat := 0
  providerSubscriptions : List ProviderSubscription := []
  providerNow : Millis := 0
  applications : List Application := []
  /-- The events whose move of the tenant has been made, or refused by the lifecycle. -/
  settled : List BillingEvent := []
  seatRequests : List SeatRequest := []
  counting : List SeatCount := []
  seatReadings : List SeatReading := []
  seatPushes : List SeatPush := []

namespace BillingDb

variable (db : BillingDb)

def now : Millis := db.lifecycle.now

def findSubscription (tenantId : Uuid) : Option Subscription := db.subscriptions.find? (·.tenantId = tenantId)

def members (tenantId : Uuid) : Nat := db.seatHolders.countP fun h => h.tenantId = tenantId ∧ h.invited = false

def pending (tenantId : Uuid) : Nat := db.seatHolders.countP fun h => h.tenantId = tenantId ∧ h.invited = true

/-- `currentSubscription`: the newest of the first page. -/
def currentSubscription (tenantId : Uuid) : Option ProviderSubscription :=
  newestSubscription ((db.providerSubscriptions.filter (·.tenantId = tenantId)).take 10)

def providerSeats (id : String) : Option Nat :=
  (db.providerSubscriptions.find? (·.id = id)).bind (·.seats)

def findJob (tenantId : Uuid) : Option SeatJob := db.seatJobs.find? (·.tenantId = tenantId)

def requests (tenantId : Uuid) : List Bool :=
  (db.seatRequests.filter (·.tenantId = tenantId)).map (·.allowDecrease)

def readings (tenantId : Uuid) : List SeatReading := db.seatReadings.filter (·.tenantId = tenantId)

end BillingDb

inductive BillingError where
  | thrown (message : String)
  | uniqueViolation
  | serializationFailure
  | recordNotFound
  | tenantNotFound (tenantId : Uuid)

inductive BillingWrite where
  | lockSubscription (tenantId : Uuid)
  | upsertSubscription (id : Uuid) (event : BillingEvent) (planId : Uuid) (seats : Nat) (pastDueSince : Option Millis)
  | copyEntitlements (tenantId : Uuid) (plan : Plan) (entitlements : PlanEntitlements)
  | record (application : Application)

/-- A row a write locked or made; the advisory lock holds the subscription, without its seats. -/
inductive BillingRow where
  | lock (subscription : Option Subscription)
  | subscription (id : Uuid)
  | entitlements (tenantId : Uuid)
  | recorded
deriving DecidableEq

namespace Subscription

def unmetered (s : Subscription) : Subscription := { s with seats := 0 }

/-- `periodColumns`: both bounds or neither. -/
def withPeriod (event : BillingEvent) (s : Subscription) : Subscription :=
  match event.currentPeriodStart, event.currentPeriodEnd with
  | some periodStart, some periodEnd =>
    { s with currentPeriodStart := some periodStart, currentPeriodEnd := some periodEnd }
  | _, _ => s

def withCancellation (event : BillingEvent) (s : Subscription) : Subscription :=
  match event.cancelAtPeriodEnd with
  | none => s
  | some cancelAtPeriodEnd =>
    { s with cancelAtPeriodEnd, cancelsAt := if cancelAtPeriodEnd then event.cancelsAt else none }

def withProvider (event : BillingEvent) (s : Subscription) : Subscription :=
  { s with
    providerSubscriptionId := event.providerSubscriptionId.or s.providerSubscriptionId
    providerCustomerId := event.providerCustomerId.or s.providerCustomerId }

def apply (event : BillingEvent) (planId : Uuid) (seats : Nat) (pastDueSince : Option Millis) (s : Subscription) :
    Subscription :=
  { (((s.withProvider event).withPeriod event).withCancellation event) with
    planId, seats, pastDueSince
    status := event.status.getD s.status
    lastEventAt := some event.occurredAt }

def create (id : Uuid) (event : BillingEvent) (planId : Uuid) (seats : Nat) (pastDueSince : Option Millis) :
    Subscription :=
  apply event planId seats pastDueSince
    { id, tenantId := event.tenantId, planId, seats, status := .active }

end Subscription

def Subscription.upsert (id : Uuid) (event : BillingEvent) (planId : Uuid) (seats : Nat) (pastDueSince : Option Millis)
    (found : Option Subscription) : Subscription :=
  match found with
  | none => .create id event planId seats pastDueSince
  | some s => s.apply event planId seats pastDueSince

def BillingDb.upsertSubscription (db : BillingDb) (row : Subscription) : Except BillingError (List BillingRow × BillingDb) :=
  if db.subscriptions.any fun s => s.tenantId ≠ row.tenantId ∧ row.providerSubscriptionId ≠ none ∧
      s.providerSubscriptionId = row.providerSubscriptionId then .error .uniqueViolation
  else
    .ok ([.subscription row.id],
      { db with subscriptions := row :: db.subscriptions.filter (·.tenantId ≠ row.tenantId) })

def BillingWrite.apply (w : BillingWrite) (db : BillingDb) : Except BillingError (List BillingRow × BillingDb) :=
  match w with
  | .lockSubscription tenantId => .ok ([.lock ((db.findSubscription tenantId).map Subscription.unmetered)], db)
  | .upsertSubscription id event planId seats pastDueSince =>
    db.upsertSubscription (.upsert id event planId seats pastDueSince (db.findSubscription event.tenantId))
  | .copyEntitlements tenantId plan entitlements =>
    .ok ((db.entitlements.filter (·.tenantId = tenantId)).map fun e => .entitlements e.tenantId,
      { db with
        entitlements := updateWhere (·.tenantId = tenantId)
          (fun e => { e with planKey := some plan.key, planName := some plan.name, entitlements }) db.entitlements })
  | .record application => .ok ([.recorded], { db with applications := db.applications ++ [application] })

def billingWrites : Writes BillingDb BillingWrite BillingRow BillingError where
  apply := BillingWrite.apply
  conflict := .serializationFailure

inductive BillingStmt where
  | read
  | write
  | commit (writes : List (BillingWrite × List BillingRow))
  | transition (event : BillingEvent)
  | store (delivery : BillingDelivery)
  | claim (id : Uuid)
  | markProcessed (id : Uuid)
  | markFailed (id : Uuid)
  | noteFailure (id : Uuid)
  | replay (id : Uuid)
  | changeSeats (tenantId : Uuid)
  | enqueue (tenantId : Uuid) (allowDecrease : Bool) (origin : SeatRequestOrigin)
  | take (tenantId : Uuid)
  | readSubscription (tenantId : Uuid) (attempt : Nat)
  | countMembers (tenantId : Uuid) (attempt : Nat)
  | countPending (tenantId : Uuid) (attempt : Nat)
  | updateSeats (tenantId : Uuid) (providerSubscriptionId : String) (stored : Nat) (allowDecrease : Bool)
  | storeSeats (tenantId : Uuid)
  | finish (tenantId : Uuid) (attempt : Nat) (succeeded : Bool)
  | stall (tenantId : Uuid) (gaveUp : Bool)
  | evict (tenantId : Uuid)
  | outage
  | readProvider (tenantId : Uuid)
  | providerChange (tenantId : Uuid)
  | tick

abbrev BillingTx := Tx BillingStmt BillingDb BillingWrite BillingRow BillingError

abbrev BillingProg := Prog BillingStmt BillingDb

structure Fault (step : Type) where
  step : step
  executed : Bool
  message : String := "Connection terminated unexpectedly"

def attemptStep {step α : Type} [DecidableEq step] (fault : Option (Fault step)) (name : step)
    (work : BillingProg (Except BillingError α)) : BillingProg (Except BillingError α) :=
  match fault with
  | none => work
  | some f =>
    if f.step ≠ name then work
    else if f.executed then work.bind fun _ => .pure (.error (.thrown f.message))
    else .pure (.error (.thrown f.message))

def attemptRead {step α : Type} [DecidableEq step] (fault : Option (Fault step)) (name : step)
    (work : BillingProg (Except BillingError α)) : BillingProg (Except BillingError α) :=
  attemptStep (fault.map ({ · with executed := false })) name work

variable (event : BillingEvent)

inductive SubscriptionSyncOutcome where
  | applied (planKey : Option String) (seats : Nat)
  | stale
  | unresolvedPlan (detail : String)

/-- The guard: the row was last written by something later. -/
def isStale (existing : Option Subscription) (event : BillingEvent) : Bool :=
  (existing.bind (·.lastEventAt)).any (event.occurredAt < ·)

def pastDueSince (current : Option Millis) : Option Millis :=
  match event.status with
  | some .pastDue => some (current.getD event.occurredAt)
  | none => current
  | some _ => none

def periodMoves (existing : Option Subscription) (event : BillingEvent) : Bool :=
  match event.currentPeriodStart, event.currentPeriodEnd with
  | some periodStart, some periodEnd =>
    existing.map (fun s => (s.currentPeriodStart, s.currentPeriodEnd)) ≠ some (some periodStart, some periodEnd)
  | _, _ => false

def findPlanByProduct (providerProductId : String) : BillingTx (Option Plan) :=
  .query .read fun db => db.plans.find? (·.providerProductId = some providerProductId)

def findPlanByKey (key : String) : BillingTx (Option Plan) := .query .read fun db => db.plans.find? (·.key = key)

def resolvePlanKey : BillingTx (Option Plan) :=
  match event.planKey with
  | none => pure none
  | some key => findPlanByKey key

def resolvePlan : BillingTx (Option Plan) :=
  match event.providerProductId with
  | none => resolvePlanKey event
  | some providerProductId => do
    match ← findPlanByProduct providerProductId with
    | some plan => pure (some plan)
    | none => resolvePlanKey event

def unresolvedDetail : String :=
  match event.providerProductId with
  | some providerProductId => "no plan carries provider_product_id " ++ providerProductId
  | none => "no plan with key " ++ event.planKey.getD "(none supplied)"

/-- `copyEntitlements`: entitlements that do not parse are not copied, and a tenant without a row stays without. -/
def copyEntitlements (tenantId : Uuid) : Option Plan → BillingTx Unit
  | none => pure ()
  | some plan =>
    match plan.entitlements with
    | none => pure ()
    | some entitlements => do
      let _ ← .execute .write (.copyEntitlements tenantId plan entitlements)
      pure ()

def writeSubscription (source : EventSource) (id : Uuid) (existing : Option Subscription)
    (plan : Option Plan) (planId : Uuid) : BillingTx SubscriptionSyncOutcome := do
  let seats := (event.seats.or (existing.map (·.seats))).getD 1
  let _ ← .execute .write
    (.upsertSubscription id event planId seats (pastDueSince event (existing.bind (·.pastDueSince))))
  copyEntitlements event.tenantId plan
  let _ ← .execute .write (.record { event, source, applied := true, rolled := periodMoves existing event })
  pure (.applied (plan.map (·.key)) seats)

/-- `applySubscriptionEvent`; `id` is that of the row it may make. -/
def applySubscriptionEvent (source : EventSource) (id : Uuid) : BillingTx SubscriptionSyncOutcome := do
  let _ ← .execute .write (.lockSubscription event.tenantId)
  let existing ← .query .read (·.findSubscription event.tenantId)
  if isStale existing event then do
    let _ ← .execute .write (.record { event, source, applied := false, rolled := false })
    pure .stale
  else do
    let plan ← resolvePlan event
    match (plan.map (·.id)).or (existing.map (·.planId)) with
    | none => pure (.unresolvedPlan (unresolvedDetail event))
    | some planId => writeSubscription event source id existing plan planId

/-- `SubscriptionSyncService.apply`. -/
def applyEvent (source : EventSource) (id : Uuid) : BillingProg (Except BillingError SubscriptionSyncOutcome) :=
  (applySubscriptionEvent event source id).runAs billingWrites .commit []

variable (tenantId : Uuid) (attempt : Nat)

def seatSyncAttempts : Nat := 3

/-- `EnqueueOutcome`, as far as the seats tell: an id that is held answers as if the job had been added. -/
inductive EnqueueOutcome where
  | added
  | failed

def BillingDb.requestSeats (allowDecrease : Bool) (origin : SeatRequestOrigin) (db : BillingDb) : BillingDb :=
  let requested := { db with seatRequests := db.seatRequests ++ [{ tenantId, allowDecrease }] }
  if db.queueReachable = false ∨ (db.findJob tenantId).isSome then requested
  else { requested with seatJobs := db.seatJobs ++ [{ tenantId, allowDecrease, origin }] }

def enqueue (allowDecrease : Bool) (origin : SeatRequestOrigin) : BillingProg EnqueueOutcome :=
  .stmt (.enqueue tenantId allowDecrease origin) fun db =>
    (if db.queueReachable then .added else .failed, db.requestSeats tenantId allowDecrease origin)

def BillingDb.withSeatHolders (seatHolders : List SeatHolder) (db : BillingDb) : BillingDb :=
  { db with
    seatHolders := db.seatHolders.filter (·.tenantId ≠ tenantId) ++ seatHolders.map ({ · with tenantId }) }

/-- A member or an invitation comes or goes, and `onSeatsChanged` hears of it. -/
def changeSeats (seatHolders : List SeatHolder) : BillingProg EnqueueOutcome := do
  let _ ← .stmt (.changeSeats tenantId) fun db => ((), db.withSeatHolders tenantId seatHolders)
  enqueue tenantId false .membership

def SeatJob.waits (job : SeatJob) : Bool := job.tenantId = tenantId ∧ job.state = .waiting

def SeatJob.held (job : SeatJob) : Bool :=
  job.tenantId = tenantId ∧ job.state = .active attempt

structure TakenJob where
  attempt : Nat
  allowDecrease : Bool
  origin : SeatRequestOrigin

variable (job : TakenJob) (db : BillingDb)

def BillingDb.holdJob : BillingDb :=
  { db with
    attempts := db.attempts + 1
    seatJobs := updateWhere (SeatJob.waits tenantId) ({ · with state := .active db.attempts }) db.seatJobs }

def take : BillingProg (Option TakenJob) :=
  .stmt (.take tenantId) fun db =>
    match db.seatJobs.find? (SeatJob.waits tenantId) with
    | none => (none, db)
    | some job =>
      (some { attempt := db.attempts, allowDecrease := job.allowDecrease, origin := job.origin },
        db.holdJob tenantId)

def SeatJob.after (succeeded : Bool) (job : SeatJob) : SeatJob :=
  if succeeded then { job with state := .completed }
  else
    { job with
      failures := job.failures + 1
      state := if job.failures + 1 < seatSyncAttempts then .waiting else .failed }

def BillingDb.finishJob (succeeded : Bool) (db : BillingDb) : BillingDb :=
  { db with seatJobs := updateWhere (SeatJob.held tenantId attempt) (SeatJob.after succeeded) db.seatJobs }

def finish (succeeded : Bool) : BillingProg Unit :=
  .stmt (.finish tenantId attempt succeeded) fun db => ((), db.finishJob tenantId attempt succeeded)

def SeatJob.isActive (job : SeatJob) : Bool :=
  job.tenantId = tenantId && match job.state with
    | .active _ => true
    | _ => false

def BillingDb.stallJob (gaveUp : Bool) (db : BillingDb) : BillingDb :=
  { db with
    seatJobs := updateWhere (SeatJob.isActive tenantId) ({ · with state := if gaveUp then .failed else .waiting })
      db.seatJobs }

/-- A job whose worker is not heard of any more waits again, or is given up. -/
def stall (gaveUp : Bool) : BillingProg Unit :=
  .stmt (.stall tenantId gaveUp) fun db => ((), db.stallJob tenantId gaveUp)

def SeatJob.isOver (job : SeatJob) : Bool :=
  job.tenantId = tenantId ∧ (job.state = .completed ∨ job.state = .failed)

def BillingDb.evictJob : BillingDb :=
  { db with seatJobs := db.seatJobs.filter (!SeatJob.isOver tenantId ·) }

/-- `removeOnComplete` and `removeOnFail`: a job that is over is forgotten once enough others are. -/
def evict : BillingProg Unit :=
  .stmt (.evict tenantId) fun db => ((), db.evictJob tenantId)

inductive PushStep where
  | readSubscription
  | countMembers
  | countPending
  | readProvider
  | updateSeats
  | storeSeats
deriving DecidableEq

variable (fault : Option (Fault PushStep))

def BillingDb.beginCount : BillingDb :=
  { db with counting := db.counting ++ [{ tenantId, attempt, requests := (db.requests tenantId).length }] }

def BillingDb.coverOf (tenantId : Uuid) (attempt : Nat) : Option Nat :=
  (db.counting.find? fun c => c.tenantId = tenantId ∧ c.attempt = attempt).map (·.requests)

def BillingDb.endCount (allowDecrease : Bool) (db : BillingDb) : BillingDb :=
  { db with
    seatReadings := db.seatReadings ++
      [{ tenantId, attempt, allowDecrease, covers := (db.coverOf tenantId attempt).getD 0 }] }

def countMembers : BillingProg (Except BillingError Nat) :=
  .stmt (.countMembers tenantId job.attempt) fun db => (.ok (db.members tenantId), db.beginCount tenantId job.attempt)

def countPending : BillingProg (Except BillingError Nat) :=
  .stmt (.countPending tenantId job.attempt) fun db =>
    (.ok (db.pending tenantId), db.endCount tenantId job.attempt job.allowDecrease)

def currentSeatCount : BillingProg (Except BillingError Nat) := do
  match ← attemptRead fault .countMembers (countMembers tenantId job) with
  | .error e => pure (.error e)
  | .ok members =>
    match ← attemptRead fault .countPending (countPending tenantId job) with
    | .error e => pure (.error e)
    | .ok pending => pure (.ok (members + pending))

def BillingDb.pushSeats (providerSubscriptionId : String) (seats : Nat) (db : BillingDb) : BillingDb :=
  { db with
    providerSubscriptions := updateWhere (·.id = providerSubscriptionId) ({ · with seats := some seats })
      db.providerSubscriptions
    seatPushes := db.seatPushes ++
      [{ tenantId, seats, before := db.providerSeats providerSubscriptionId, allowDecrease := job.allowDecrease,
         origin := job.origin }] }

/-- The provider's part of a push: the count of its newest subscription, where there is one and it differs. -/
def updateSeats (stored seats : Nat) (fault : Option (Fault PushStep)) : BillingProg (Except BillingError Unit) := do
  match ← attemptRead fault .readProvider
      (.read (.readProvider tenantId) fun db => .ok (db.currentSubscription tenantId)) with
  | .error e => pure (.error e)
  | .ok none => pure (.ok ())
  | .ok (some subscription) =>
    if subscription.seats = some seats then pure (.ok ())
    else
      attemptStep fault .updateSeats
        (.stmt (.updateSeats tenantId subscription.id stored job.allowDecrease) fun db =>
          (.ok (), db.pushSeats tenantId job subscription.id seats))

def BillingDb.storeSeats (seats : Nat) (db : BillingDb) : BillingDb :=
  { db with subscriptions := updateWhere (·.tenantId = tenantId) ({ · with seats }) db.subscriptions }

def storeSeats (seats : Nat) : BillingProg (Except BillingError Unit) :=
  .stmt (.storeSeats tenantId) fun db => (.ok (), db.storeSeats tenantId seats)

def pushCount (stored : Nat) (fault : Option (Fault PushStep)) : BillingProg (Except BillingError Unit) := do
  match ← currentSeatCount tenantId job fault with
  | .error e => pure (.error e)
  | .ok seats =>
    if seats = stored then pure (.ok ())
    else if seats < stored ∧ job.allowDecrease = false then pure (.ok ())
    else
      match ← updateSeats tenantId job stored seats fault with
      | .error e => pure (.error e)
      | .ok () => attemptStep fault .storeSeats (storeSeats tenantId seats)

def push : BillingProg (Except BillingError Unit) := do
  match ← attemptRead fault .readSubscription
      (.read (.readSubscription tenantId job.attempt) fun db => .ok (db.findSubscription tenantId)) with
  | .error e => pure (.error e)
  | .ok none => pure (.ok ())
  | .ok (some subscription) =>
    if subscription.providerSubscriptionId = none then pure (.ok ())
    else pushCount tenantId job subscription.seats fault

def work : BillingProg (Except BillingError Unit) := do
  match ← take tenantId with
  | none => pure (.ok ())
  | some job =>
    let outcome ← push tenantId job fault
    finish tenantId job.attempt outcome.isOk
    pure outcome

end WhatsappCrm.Billing
