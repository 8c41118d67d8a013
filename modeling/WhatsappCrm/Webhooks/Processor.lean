/-
Purpose: The statements on `webhook_events` (`WebhookEventsRepository`) and the programs that send them: the ingest, the
  worker, the sweeper and the operator's replay, interleaved.
-/
import WhatsappCrm.Common.KeysetCursor
import WhatsappCrm.Webhooks.Store

namespace WhatsappCrm.Webhooks

open Interleaving Table

variable (id : Uuid)

/-- `WEBHOOK_MAX_ATTEMPTS` and `WEBHOOK_STUCK_AFTER_MS`. -/
structure WebhookConfig where
  maxAttempts : Nat
  stuckAfterMs : Millis

def WebhookEvent.withId (e : WebhookEvent) : Bool := e.id = id

def WebhookEvent.new (provider providerEventId : String) (payload : WebhookPayload) (now : Millis) : WebhookEvent where
  id
  provider
  providerEventId
  payload
  receivedAt := now

/-- `store`: none when the delivery was a duplicate. -/
def store (provider providerEventId : String) (payload : WebhookPayload) :
    WebhookProg (Except WebhookError (Option Uuid)) :=
  .stmt .store fun db =>
    let event := WebhookEvent.new id provider providerEventId payload db.now
    if db.events.any fun e => Clash WebhookEvent.providerEntry event e ∨ Clash WebhookEvent.idEntry event e then
      (.ok none, db)
    else (.ok (some id), { db with events := db.events ++ [event] })

structure ClaimedWebhookEvent where
  id : Uuid
  payload : WebhookPayload
  attempts : Nat
  /-- Which claim of the event this is: a record the worker never reads. -/
  claimed : Nat

variable (claimed : ClaimedWebhookEvent) (e : WebhookEvent)

/-- The guard of `claim`: neither a processed nor a parked event is claimable. -/
def WebhookEvent.claimable : Bool :=
  e.id = id ∧ (e.status = .received ∨ e.status = .processing)

def WebhookEvent.startAttempt : WebhookEvent :=
  { e with status := .processing, attempts := e.attempts + 1 }

def claim : WebhookProg (Except WebhookError (Option ClaimedWebhookEvent)) :=
  .stmt (.claim id) fun db =>
    match db.events.find? (WebhookEvent.claimable id) with
    | none => (.ok none, db)
    | some e =>
      let claims := db.claims ++ [id]
      (.ok (some { id, payload := e.payload, attempts := e.attempts + 1, claimed := claims.count id }),
        { db with claims, events := updateWhere (WebhookEvent.claimable id) WebhookEvent.startAttempt db.events })

def updateEvent (tag : WebhookStmt) (id : Uuid) (f : Millis → WebhookEvent → WebhookEvent) :
    WebhookProg (Except WebhookError Unit) :=
  .stmt tag fun db =>
    if db.events.any (WebhookEvent.withId id) then
      (.ok (), { db with events := updateWhere (WebhookEvent.withId id) (f db.now) db.events })
    else (.error .recordNotFound, db)

def WebhookEvent.succeed (tenantId : Option Uuid) (now : Millis) (e : WebhookEvent) : WebhookEvent :=
  { e with status := .processed, tenantId, processedAt := some now }

def WebhookEvent.park (reason : String) (tenantId : Option Uuid) (e : WebhookEvent) : WebhookEvent :=
  { e with status := .failed, lastError := some reason, tenantId }

def WebhookEvent.note (reason : String) (e : WebhookEvent) : WebhookEvent := { e with lastError := some reason }

def markProcessed (tenantId : Option Uuid) : WebhookProg (Except WebhookError Unit) :=
  updateEvent (.markProcessed claimed.id claimed.claimed) claimed.id (WebhookEvent.succeed tenantId)

def markFailed (reason : String) (tenantId : Option Uuid) : WebhookProg (Except WebhookError Unit) :=
  updateEvent (.markFailed claimed.id claimed.claimed) claimed.id fun _ => WebhookEvent.park reason tenantId

def recordAttemptFailure (reason : String) : WebhookProg (Except WebhookError Unit) :=
  updateEvent (.recordAttemptFailure claimed.id reason) claimed.id fun _ => WebhookEvent.note reason

inductive WebhookEventReplayOutcome where
  | replayed (parkedError : Option String) (replayedAt : Millis)
  | notFound
  | notParked (status : WebhookEventStatus)

def WebhookEvent.parked : Bool := e.id = id ∧ e.status = .failed

def WebhookEvent.reset : WebhookEvent :=
  { e with status := .received, attempts := 0, lastError := none }

/-- `replay`: the reset and its trail row are one commit. -/
def replayEvent (actorLabel : String) : WebhookProg WebhookEventReplayOutcome := do
  let found ← .read (.replay id) fun db => db.events.find? (WebhookEvent.withId id)
  match found with
  | none => pure .notFound
  | some parked =>
    if parked.status ≠ .failed then pure (.notParked parked.status)
    else
      let replayedAt ← .stmt (.replay id) fun db =>
        if db.events.any (WebhookEvent.parked id) then
          (some db.now,
            { db with
              events := updateWhere (WebhookEvent.parked id) WebhookEvent.reset db.events
              replays := db.replays ++ [{ webhookEventId := id, actorLabel, parkedError := parked.lastError
                                          replayedAt := db.now }] })
        else (none, db)
      match replayedAt with
      | some replayedAt => pure (.replayed parked.lastError replayedAt)
      | none => do
        -- parked when it was read and not now: a concurrent replay committed in between
        let current ← .read (.replay id) fun db => db.events.find? (WebhookEvent.withId id)
        match current with
        | none => pure .notFound
        | some e => pure (.notParked e.status)

def WebhookEvent.stale (provider : String) (staleBefore : Millis) (e : WebhookEvent) : Bool :=
  e.provider = provider ∧ (e.status = .received ∨ e.status = .processing) ∧ e.receivedAt < staleBefore

def findStale (provider : String) (staleBefore : Millis) (limit : Nat) : WebhookProg (List Uuid) :=
  .read .findStale fun db =>
    (((db.events.filter (WebhookEvent.stale provider staleBefore)).mergeSort
      fun a b => a.receivedAt ≤ b.receivedAt).take limit).map (·.id)

def WebhookError.message : WebhookError → String
  | .tenantNotActive tenantId =>
    "TenantPrisma refused $tenantTransaction(): tenant " ++ Uuid.text tenantId ++ " is not active. " ++
      "Its data is retained and reachable through SystemPrisma; a tenant-scoped path may not " ++
      "read or write it until the tenant is reactivated."
  | .thrown message => message

structure ApplyOutcome where
  tenantId : Option Uuid := none
  parkedReason : Option String := none

def ApplyOutcome.park (outcome : ApplyOutcome) (reason : Option String) : ApplyOutcome :=
  { outcome with parkedReason := outcome.parkedReason.or reason }

/-- The first sender that is no phone number. -/
def unroutableReason (waId : String) : String :=
  describeFailure .unroutableContact ("wa_id " ++ waId ++ " is not an E.164 number")

/-- The two loops of `writeChange`: one transaction after the other, until one throws. -/
def applyEach {α : Type} (write : α → WebhookProg (Except WebhookError Bool)) (waId : α → String) :
    List α → Option String → WebhookProg (Except WebhookError (Option String))
  | [], unroutable => pure (.ok unroutable)
  | a :: as, unroutable => do
    match ← write a with
    | .error e => pure (.error e)
    | .ok true => applyEach write waId as unroutable
    | .ok false => applyEach write waId as (unroutable.or (some (unroutableReason (waId a))))

def parkInactive : WebhookError → Except WebhookError (Option String)
  | .tenantNotActive tenantId => .ok (some (describeFailure .tenantNotActive (Uuid.text tenantId)))
  | e => .error e

def writeChange (account : RoutedWhatsAppAccount) (value : WhatsAppChangeValue) :
    WebhookProg (Except WebhookError (Option String)) := do
  match ← applyEach (fun m => applyInboundMessage account m (displayNameOf value m.source)) (·.source) value.messages
      none with
  | .error e => pure (parkInactive e)
  | .ok unroutable => do
    match ← applyEach (applyStatusUpdate account) (·.recipientId) value.statuses unroutable with
    | .error e => pure (parkInactive e)
    | .ok unroutable => pure (.ok unroutable)

def resolveAccount (phoneNumberId : String) : WebhookProg (Except WebhookError (Option RoutedWhatsAppAccount)) :=
  .read .resolve fun db => .ok ((db.resolve phoneNumberId).map fun a =>
    { tenantId := a.tenantId, whatsappAccountId := a.id })

def applyChanges : List WhatsAppChange → ApplyOutcome → WebhookProg (Except WebhookError ApplyOutcome)
  | [], outcome => pure (.ok outcome)
  | change :: changes, outcome =>
    if change.field ≠ messagesField then applyChanges changes outcome
    else
      match change.value with
      | .inl message =>
        applyChanges changes (outcome.park (some (describeFailure .unrecognisedPayload message)))
      | .inr value => do
        match ← attempt (resolveAccount value.phoneNumberId) with
        | .error e => pure (.error e)
        | .ok none =>
          applyChanges changes (outcome.park (some (describeFailure .unknownPhoneNumber
            ("no whatsapp_accounts row for " ++ value.phoneNumberId))))
        | .ok (some account) => do
          match ← writeChange account value with
          | .error e => pure (.error e)
          | .ok reason =>
            let routed := { outcome with tenantId := outcome.tenantId.or (some account.tenantId) }
            applyChanges changes (routed.park reason)

/-- `handleFailure`: parked when the budget is spent, and thrown again otherwise. -/
def handleFailure (config : WebhookConfig) (claimed : ClaimedWebhookEvent) (error : WebhookError) :
    WebhookProg (Except WebhookError Unit) :=
  if config.maxAttempts ≤ claimed.attempts then
    attempt (markFailed claimed (describeFailure .attemptsExhausted error.message) none)
  else do
    match ← attempt (recordAttemptFailure claimed error.message) with
    | .error e => pure (.error e)
    | .ok () => pure (.error error)

/-- The body of the `try` block of `process`. -/
def applyAndMark (changes : List WhatsAppChange) : WebhookProg (Except WebhookError Unit) := do
  match ← applyChanges changes {} with
  | .error e => pure (.error e)
  | .ok outcome =>
    match outcome.parkedReason with
    | some reason => attempt (markFailed claimed reason outcome.tenantId)
    | none => attempt (markProcessed claimed outcome.tenantId)

def processClaimed (config : WebhookConfig) (claimed : ClaimedWebhookEvent) : WebhookProg (Except WebhookError Unit) :=
  match claimed.payload with
  | .inl message => attempt (markFailed claimed (describeFailure .unrecognisedPayload message) none)
  | .inr changes => do
    match ← applyAndMark claimed changes with
    | .error e => handleFailure config claimed e
    | .ok () => pure (.ok ())

def process (config : WebhookConfig) (webhookEventId : Uuid) : WebhookProg (Except WebhookError Unit) := do
  match ← attempt (claim webhookEventId) with
  | .error e => pure (.error e)
  | .ok none => pure (.ok ())
  | .ok (some claimed) => processClaimed config claimed

def whatsappProvider : String := "whatsapp"

/-- `ingestWhatsApp` on a delivery whose signature is valid; the job it enqueues may run at any time. -/
def ingest (providerEventId : String) (payload : WebhookPayload) : WebhookProg (Except WebhookError (Option Uuid)) := do
  let id ← drawUuid
  attempt (store id whatsappProvider providerEventId payload)

def sweepBatchSize : Nat := 200

def sweep (config : WebhookConfig) (now : Millis) : WebhookProg (List Uuid) :=
  findStale whatsappProvider (now - config.stuckAfterMs) sweepBatchSize

/-- `BusinessAccountConnectionService` connects a number, which names one account. -/
def connectAccount (account : WhatsappAccount) : WebhookProg (Except WebhookError Unit) :=
  .stmt .operate fun db =>
    if db.accounts.any (·.phoneNumberId = account.phoneNumberId) then (.error .uniqueViolation, db)
    else (.ok (), { db with accounts := db.accounts ++ [account] })

def serveTenant (tenantId : Uuid) (active : Bool) : WebhookProg Unit :=
  .stmt .operate fun db =>
    ((), { db with
      serviceable := if active then tenantId :: db.serviceable else db.serviceable.filter (· ≠ tenantId) })

def elapse (ms : Nat) : WebhookProg Unit := .stmt .operate fun db => ((), { db with now := db.now + ms })

inductive WebhookCall where
  | ingest (providerEventId : String) (payload : WebhookPayload)
  | process (webhookEventId : Uuid)
  | sweep (now : Millis)
  | replay (webhookEventId : Uuid) (actorLabel : String)
  | connect (account : WhatsappAccount)
  | serve (tenantId : Uuid) (active : Bool)
  | elapse (ms : Nat)

inductive WebhookReply where
  | ingested (result : Except WebhookError (Option Uuid))
  | done (result : Except WebhookError Unit)
  | stale (webhookEventIds : List Uuid)
  | replayed (outcome : WebhookEventReplayOutcome)

def webhookProgram (config : WebhookConfig) : WebhookCall → WebhookProg WebhookReply
  | .ingest providerEventId payload => (ingest providerEventId payload).bind (.pure ∘ .ingested)
  | .process webhookEventId => (process config webhookEventId).bind (.pure ∘ .done)
  | .sweep now => (sweep config now).bind (.pure ∘ .stale)
  | .replay webhookEventId actorLabel => (replayEvent webhookEventId actorLabel).bind (.pure ∘ .replayed)
  | .connect account => (connectAccount account).bind (.pure ∘ .done)
  | .serve tenantId active => (serveTenant tenantId active).bind fun _ => .pure (.done (.ok ()))
  | .elapse ms => (elapse ms).bind fun _ => .pure (.done (.ok ()))

abbrev WebhookSys := Sys WebhookStmt WebhookDb WebhookCall WebhookReply

abbrev WebhookRun (config : WebhookConfig) (db : WebhookDb) (s : WebhookSys) : Prop :=
  Reachable (webhookProgram config) anyStep (.idle db) s

end WhatsappCrm.Webhooks
