/-
Purpose: What Meta delivers, the ladder of message statuses, the tables of webhook ingestion with the indexes Postgres
  checks, and `WhatsAppInboundWriter`: one message and one receipt, each in a transaction of its own.
-/
import WhatsappCrm.Lib.Transaction
import WhatsappCrm.Tickets.Store

namespace WhatsappCrm.Webhooks

inductive WebhookEventStatus where
  | received
  | processing
  | processed
  | failed
deriving DecidableEq

inductive MessageStatus where
  | queued
  | sent
  | delivered
  | read
  | failed
deriving DecidableEq

namespace MessageStatus

/-- `MESSAGE_STATUSES`, in its order. -/
def all : List MessageStatus := [.queued, .sent, .delivered, .read, .failed]

theorem mem_all (status : MessageStatus) : status ∈ all := by
  cases status <;> simp [all]

def rank : MessageStatus → Nat
  | .queued => 0
  | .sent => 1
  | .delivered => 2
  | .read => 3
  | .failed => 99

end MessageStatus

/-- `isMessageStatusAdvance`: a failure is never overwritten. -/
def isMessageStatusAdvance (source target : MessageStatus) : Bool :=
  if source = .failed then false else decide (source.rank < target.rank)

def advanceableFrom (status : MessageStatus) : List MessageStatus :=
  MessageStatus.all.filter (isMessageStatusAdvance · status)

@[simp] theorem mem_advanceableFrom :
    source ∈ advanceableFrom target ↔ isMessageStatusAdvance source target = true := by
  simp [advanceableFrom, MessageStatus.mem_all]

theorem isMessageStatusAdvance_iff :
    isMessageStatusAdvance source target = true ↔ source ≠ .failed ∧ source.rank < target.rank := by
  simp [isMessageStatusAdvance]

structure WhatsAppInboundMessage where
  id : String
  source : String
  timestamp : Millis

structure WhatsAppMessageStatusUpdate where
  id : String
  status : String
  timestamp : Millis
  recipientId : String

structure WhatsAppProfile where
  waId : String
  name : Option String

structure WhatsAppChangeValue where
  phoneNumberId : String
  contacts : List WhatsAppProfile := []
  messages : List WhatsAppInboundMessage := []
  statuses : List WhatsAppMessageStatusUpdate := []

/-- A change of a notification. Its value is what `WhatsAppChangeValueSchema` makes of it, read only when the field
    says so: a value, or the text of the schema's error. -/
structure WhatsAppChange where
  field : String
  value : String ⊕ WhatsAppChangeValue

/-- A stored payload, as `WhatsAppNotificationSchema` reads it: the changes of all its entries, or the text of the
    schema's error. -/
abbrev WebhookPayload := String ⊕ List WhatsAppChange

def messagesField : String := "messages"

/-- `STATUSES`, of a string that is no name of the prototype: a status the product does not model is none. -/
def toMessageStatus (metaStatus : String) : Option MessageStatus :=
  if metaStatus = "sent" then some .sent
  else if metaStatus = "delivered" then some .delivered
  else if metaStatus = "read" then some .read
  else if metaStatus = "failed" then some .failed
  else none

def isDigit (c : Char) : Bool := '0'.toNat ≤ c.toNat ∧ c.toNat ≤ '9'.toNat

/-- `PhoneE164Schema`: `+`, a digit that is not 0, and one to fourteen more. -/
def isPhoneE164 : List Char → Bool
  | '+' :: d :: digits => isDigit d && d ≠ '0' && digits.all isDigit && 1 ≤ digits.length && digits.length ≤ 14
  | _ => false

/-- `toPhoneE164`: Meta sends the number without the plus sign. -/
def toPhoneE164 (waId : String) : Option String :=
  let candidate := if waId.toList.head? = some '+' then waId else "+" ++ waId
  if isPhoneE164 candidate.toList then some candidate else none

def serviceWindowMs : Millis := 24 * 60 * 60 * 1000

def serviceWindowEnd (sentAt : Millis) : Millis := sentAt + serviceWindowMs

/-- `toDisplayNames`, looked up: the last profile of the sender that has a name decides. -/
def displayNameOf (value : WhatsAppChangeValue) (waId : String) : Option String :=
  (value.contacts.reverse.find? fun p => p.waId = waId ∧ p.name.any (· ≠ "")).bind (·.name)

inductive WebhookFailureReason where
  | unknownPhoneNumber
  | unrecognisedPayload
  | unroutableContact
  | tenantNotActive
  | attemptsExhausted

def WebhookFailureReason.token : WebhookFailureReason → String
  | .unknownPhoneNumber => "unknown_phone_number_id"
  | .unrecognisedPayload => "payload_unrecognised"
  | .unroutableContact => "unroutable_contact"
  | .tenantNotActive => "tenant_not_active"
  | .attemptsExhausted => "attempts_exhausted"

def describeFailure (reason : WebhookFailureReason) (detail : String) : String := reason.token ++ ": " ++ detail

open Interleaving Table

structure WhatsappAccount where
  id : Uuid
  tenantId : Uuid
  phoneNumberId : String

structure WebhookEvent where
  id : Uuid
  tenantId : Option Uuid := none
  provider : String
  providerEventId : String
  status : WebhookEventStatus := .received
  payload : WebhookPayload
  attempts : Nat := 0
  lastError : Option String := none
  receivedAt : Millis
  processedAt : Option Millis := none

structure WebhookEventReplay where
  webhookEventId : Uuid
  actorLabel : String
  parkedError : Option String
  replayedAt : Millis

structure Contact where
  id : Uuid
  tenantId : Uuid
  phoneE164 : String
  displayName : Option String := none
  lastSeenAt : Option Millis := none

structure InboundConversation where
  id : Uuid
  tenantId : Uuid
  whatsappAccountId : Uuid
  contactId : Uuid
  lastMessageAt : Millis
  serviceWindowExpiresAt : Option Millis
  unreadCount : Nat := 0

/-- `messages.status`: the end state of a message a customer sent, or a step of the ladder. -/
inductive StoredStatus where
  | received
  | ladder (status : MessageStatus)
deriving DecidableEq

structure InboundMessage where
  tenantId : Uuid
  conversationId : Uuid
  direction : MessageDirection
  status : StoredStatus
  providerMessageId : Option String
  sentAt : Millis
  deliveredAt : Option Millis := none
  readAt : Option Millis := none
  failedAt : Option Millis := none
deriving DecidableEq

/-- What becomes of a statement: it is answered; it is refused and leaves nothing; or it is executed and its answer
    is lost. -/
inductive Delivery where
  | answered
  | refused (message : String)
  | lost (message : String)

structure WebhookDb where
  now : Millis := 0
  /-- The tenants `assert_tenant_serviceable` lets through. -/
  serviceable : List Uuid := []
  accounts : List WhatsappAccount := []
  events : List WebhookEvent := []
  replays : List WebhookEventReplay := []
  contacts : List Contact := []
  conversations : List InboundConversation := []
  messages : List InboundMessage := []
  /-- The events that were claimed, claim by claim: a record nothing reads. -/
  claims : List Uuid := []
  /-- The ids the next calls draw, and what becomes of the next statements. -/
  uuids : List Uuid := []
  deliveries : List Delivery := []

variable (db : WebhookDb) (tenantId : Uuid) (c : Contact)

def WebhookEvent.idEntry (e : WebhookEvent) : Option Uuid := some e.id

/-- The entry in `UNIQUE (provider, provider_event_id)`. -/
def WebhookEvent.providerEntry (e : WebhookEvent) : Option (String × String) := some (e.provider, e.providerEventId)

def WhatsappAccount.phoneEntry (a : WhatsappAccount) : Option String := some a.phoneNumberId

def Contact.idEntry : Option Uuid := some c.id

/-- The entry in `UNIQUE (tenant_id, phone_e164)`. -/
def Contact.phoneEntry : Option (Uuid × String) := some (c.tenantId, c.phoneE164)

def InboundConversation.idEntry (c : InboundConversation) : Option Uuid := some c.id

/-- The entry in `UNIQUE (tenant_id, whatsapp_account_id, contact_id)`. -/
def InboundConversation.threadEntry (c : InboundConversation) : Option (Uuid × Uuid × Uuid) :=
  some (c.tenantId, c.whatsappAccountId, c.contactId)

/-- The entry in `UNIQUE (tenant_id, provider_message_id)`: a message the provider has not named is not in it. -/
def InboundMessage.providerEntry (m : InboundMessage) : Option (Uuid × String) :=
  m.providerMessageId.map fun id => (m.tenantId, id)

structure WebhookDb.Indexed (db : WebhookDb) : Prop where
  eventId : UniqueBy WebhookEvent.idEntry db.events
  event : UniqueBy WebhookEvent.providerEntry db.events
  account : UniqueBy WhatsappAccount.phoneEntry db.accounts
  contactId : UniqueBy Contact.idEntry db.contacts
  contact : UniqueBy Contact.phoneEntry db.contacts
  conversationId : UniqueBy InboundConversation.idEntry db.conversations
  conversation : UniqueBy InboundConversation.threadEntry db.conversations
  message : UniqueBy InboundMessage.providerEntry db.messages

def WebhookDb.Linked : Prop :=
  ∀ m ∈ db.messages, ∃ c ∈ db.conversations, c.tenantId = m.tenantId ∧ c.id = m.conversationId

instance (db : WebhookDb) : Decidable db.Linked := List.decidableBAll _ db.messages

namespace WebhookDb

def resolve (phoneNumberId : String) : Option WhatsappAccount :=
  db.accounts.find? fun a => a.phoneNumberId = phoneNumberId

def findContact (phoneE164 : String) : Option Contact :=
  db.contacts.find? fun c => c.tenantId = tenantId ∧ c.phoneE164 = phoneE164

def findConversation (whatsappAccountId contactId : Uuid) : Option InboundConversation :=
  db.conversations.find? fun c =>
    c.tenantId = tenantId ∧ c.whatsappAccountId = whatsappAccountId ∧ c.contactId = contactId

def findMessage (providerMessageId : String) : Option InboundMessage :=
  db.messages.find? fun m => m.tenantId = tenantId ∧ m.providerMessageId = some providerMessageId

end WebhookDb

inductive WebhookError where
  | tenantNotActive (tenantId : Uuid)
  | thrown (message : String)

def WebhookError.uniqueViolation : WebhookError := .thrown "Unique constraint failed"

def WebhookError.foreignKeyViolation : WebhookError := .thrown "Foreign key constraint violated"

def WebhookError.recordNotFound : WebhookError := .thrown "No record was found for a query"

/-- The columns an update of a message's status sets, `statusTimestamp` among them. -/
def InboundMessage.stamp (status : MessageStatus) (at_ : Millis) (m : InboundMessage) : InboundMessage :=
  match status with
  | .delivered => { m with status := .ladder status, deliveredAt := some at_ }
  | .read => { m with status := .ladder status, readAt := some at_ }
  | .failed => { m with status := .ladder status, failedAt := some at_ }
  | .queued | .sent => { m with status := .ladder status }

inductive InboundWrite where
  | upsertContact (id tenantId : Uuid) (phoneE164 : String) (displayName : Option String) (seenAt : Millis)
  | seeContact (tenantId contactId : Uuid) (seenAt : Millis)
  | openConversation (conversation : InboundConversation)
  | createMessage (message : InboundMessage)
  | countUnread (tenantId conversationId : Uuid)
  | advanceConversation (tenantId conversationId : Uuid) (sentAt : Millis)
  | advanceStatus (tenantId : Uuid) (providerMessageId : String) (status : MessageStatus) (at_ : Millis)

inductive InboundRow where
  | contact (id : Uuid)
  | conversation (id : Uuid)
  | message (providerMessageId : Option String)
deriving DecidableEq

def Contact.named (phoneE164 : String) (c : Contact) : Bool :=
  c.tenantId = tenantId ∧ c.phoneE164 = phoneE164

def Contact.seenBefore (contactId : Uuid) (seenAt : Millis) (c : Contact) : Bool :=
  c.tenantId = tenantId ∧ c.id = contactId ∧ (c.lastSeenAt = none ∨ ∃ t ∈ c.lastSeenAt, t < seenAt)

def Contact.rename (displayName : Option String) (c : Contact) : Contact :=
  { c with displayName := displayName.or c.displayName }

def Contact.see (seenAt : Millis) (c : Contact) : Contact := { c with lastSeenAt := some seenAt }

def InboundConversation.named (conversationId : Uuid) (c : InboundConversation) : Bool :=
  c.tenantId = tenantId ∧ c.id = conversationId

def InboundConversation.countUnread (c : InboundConversation) : InboundConversation :=
  { c with unreadCount := c.unreadCount + 1 }

def InboundConversation.activeBefore (conversationId : Uuid) (sentAt : Millis) (c : InboundConversation) : Bool :=
  c.named tenantId conversationId ∧ c.lastMessageAt < sentAt

def InboundConversation.advance (sentAt : Millis) (c : InboundConversation) : InboundConversation :=
  { c with lastMessageAt := sentAt, serviceWindowExpiresAt := some (serviceWindowEnd sentAt) }

def InboundMessage.advanceable (providerMessageId : String) (status : MessageStatus) (m : InboundMessage) : Bool :=
  m.tenantId = tenantId ∧ m.providerMessageId = some providerMessageId ∧
    ∃ source ∈ advanceableFrom status, m.status = .ladder source

def InboundWrite.apply (w : InboundWrite) (db : WebhookDb) : Except WebhookError (List InboundRow × WebhookDb) :=
  match w with
  | .upsertContact id tenantId phoneE164 displayName seenAt =>
    match db.findContact tenantId phoneE164 with
    | some contact =>
      .ok ([.contact contact.id],
        { db with
          contacts := updateWhere (Contact.named tenantId phoneE164) (Contact.rename displayName) db.contacts })
    | none =>
      if db.contacts.any (·.id = id) then .error .uniqueViolation
      else
        .ok ([.contact id],
          { db with
            contacts := db.contacts ++ [{ id, tenantId, phoneE164, displayName, lastSeenAt := some seenAt }] })
  | .seeContact tenantId contactId seenAt =>
    .ok ((db.contacts.filter (Contact.seenBefore tenantId contactId seenAt)).map (.contact ·.id),
      { db with
        contacts := updateWhere (Contact.seenBefore tenantId contactId seenAt) (Contact.see seenAt) db.contacts })
  | .openConversation conversation =>
    -- `ON CONFLICT (tenant_id, whatsapp_account_id, contact_id) DO NOTHING`
    if db.conversations.any (Clash InboundConversation.threadEntry conversation ·) then .ok ([], db)
    else if db.conversations.any (·.id = conversation.id) then .error .uniqueViolation
    else .ok ([.conversation conversation.id], { db with conversations := db.conversations ++ [conversation] })
  | .createMessage message =>
    if db.messages.any (Clash InboundMessage.providerEntry message ·) then .ok ([], db)
    else if db.conversations.any (InboundConversation.named message.tenantId message.conversationId) then
      .ok ([.message message.providerMessageId], { db with messages := db.messages ++ [message] })
    else .error .foreignKeyViolation
  | .countUnread tenantId conversationId =>
    .ok ((db.conversations.filter (InboundConversation.named tenantId conversationId)).map (.conversation ·.id),
      { db with
        conversations := updateWhere (InboundConversation.named tenantId conversationId)
          InboundConversation.countUnread db.conversations })
  | .advanceConversation tenantId conversationId sentAt =>
    .ok ((db.conversations.filter (InboundConversation.activeBefore tenantId conversationId sentAt)).map
        (.conversation ·.id),
      { db with
        conversations := updateWhere (InboundConversation.activeBefore tenantId conversationId sentAt)
          (InboundConversation.advance sentAt) db.conversations })
  | .advanceStatus tenantId providerMessageId status at_ =>
    .ok ((db.messages.filter (InboundMessage.advanceable tenantId providerMessageId status)).map
        (.message ·.providerMessageId),
      { db with
        messages := updateWhere (InboundMessage.advanceable tenantId providerMessageId status)
          (InboundMessage.stamp status at_) db.messages })

def inboundWrites : Writes WebhookDb InboundWrite InboundRow WebhookError where
  apply := InboundWrite.apply
  conflict := .thrown "could not serialize access"

/-- The statements of the pipeline. A worker's statement on its event says which claim of the event the worker
    holds. -/
inductive WebhookStmt where
  | draw
  | store
  | claim (id : Uuid)
  | markProcessed (id : Uuid) (claimed : Nat)
  | markFailed (id : Uuid) (claimed : Nat)
  | recordAttemptFailure (id : Uuid) (reason : String)
  | replay (id : Uuid)
  | findStale
  | resolve
  | tenant
  | commit
  | operate
deriving DecidableEq

abbrev WebhookProg := Prog WebhookStmt WebhookDb

abbrev WriterTx := Tx Unit WebhookDb InboundWrite InboundRow WebhookError

structure RoutedWhatsAppAccount where
  tenantId : Uuid
  whatsappAccountId : Uuid
deriving DecidableEq

variable (account : RoutedWhatsAppAccount) (update : WhatsAppMessageStatusUpdate)

structure GeneratedIds where
  contactId : Uuid
  conversationId : Uuid

/-- `$tenantTransaction`: the tenant in scope has to be serviceable. -/
def tenantTransaction {α : Type} (tenantId : Uuid) (work : WriterTx α) : WriterTx α := do
  let serviceable ← .query () fun db => db.serviceable.contains tenantId
  if serviceable then work else .abort (.tenantNotActive tenantId)

def orThrow {α : Type} : Option α → WriterTx α
  | some a => pure a
  | none => .abort .recordNotFound

def upsertContact (id tenantId : Uuid) (phoneE164 : String) (displayName : Option String) (seenAt : Millis) :
    WriterTx Uuid := do
  let rows ← .execute () (.upsertContact id tenantId phoneE164 displayName seenAt)
  let contactId ← orThrow (rows.findSome? fun
    | .contact contactId => some contactId
    | _ => none)
  let _ ← .execute () (.seeContact tenantId contactId seenAt)
  pure contactId

/-- `upsertConversation`: a thread is born with the timestamps of what opened it, and one that exists is left
    alone. -/
def upsertConversation (id : Uuid) (account : RoutedWhatsAppAccount) (contactId : Uuid) (lastMessageAt : Millis)
    (serviceWindowExpiresAt : Option Millis) : WriterTx Uuid := do
  let inserted ← .execute () (.openConversation
    { id, tenantId := account.tenantId, whatsappAccountId := account.whatsappAccountId, contactId, lastMessageAt
      serviceWindowExpiresAt })
  if inserted ≠ [] then pure id
  else
    let existing ← .query () fun db =>
      db.findConversation account.tenantId account.whatsappAccountId contactId
    let conversation ← orThrow existing
    pure conversation.id

def advanceConversation (conversationId : Uuid) (sentAt : Millis) : WriterTx Unit := do
  let _ ← .execute () (.countUnread tenantId conversationId)
  let _ ← .execute () (.advanceConversation tenantId conversationId sentAt)
  pure ()

/-- What an inbound delivery turned out to be about; `created` says it was no replay. -/
structure AppliedInboundMessage where
  contactId : Uuid
  conversationId : Uuid
  created : Bool

/-- `replayOf`: none when the row is not there at all. -/
def replayOf (providerMessageId : String) (contactId conversationId : Uuid) :
    WriterTx (Option AppliedInboundMessage) := do
  let existing ← .query () fun db => db.findMessage tenantId providerMessageId
  pure (existing.map fun _ => { contactId, conversationId, created := false })

def WhatsAppInboundMessage.row (conversationId : Uuid) (message : WhatsAppInboundMessage) : InboundMessage where
  tenantId
  conversationId
  direction := .inbound
  status := .received
  providerMessageId := some message.id
  sentAt := message.timestamp

def inboundTransaction (ids : GeneratedIds) (account : RoutedWhatsAppAccount) (message : WhatsAppInboundMessage)
    (phoneE164 : String) (displayName : Option String) : WriterTx (Option AppliedInboundMessage) :=
  tenantTransaction account.tenantId do
    let contactId ← upsertContact ids.contactId account.tenantId phoneE164 displayName message.timestamp
    let conversationId ← upsertConversation ids.conversationId account contactId message.timestamp
      (some (serviceWindowEnd message.timestamp))
    let stored ← .execute () (.createMessage (message.row account.tenantId conversationId))
    if stored = [] then replayOf account.tenantId message.id contactId conversationId
    else
      advanceConversation account.tenantId conversationId message.timestamp
      pure (some { contactId, conversationId, created := true })

/-- The placeholder a receipt writes when it overtakes its message. -/
def WhatsAppMessageStatusUpdate.row (conversationId : Uuid) (status : MessageStatus)
    (update : WhatsAppMessageStatusUpdate) : InboundMessage :=
  InboundMessage.stamp status update.timestamp
    { tenantId, conversationId, direction := .outbound, status := .ladder status
      providerMessageId := some update.id, sentAt := update.timestamp }

def createStatusPlaceholder (ids : GeneratedIds) (account : RoutedWhatsAppAccount)
    (update : WhatsAppMessageStatusUpdate) (status : MessageStatus) (phoneE164 : String) : WriterTx Bool := do
  let contactId ← upsertContact ids.contactId account.tenantId phoneE164 none update.timestamp
  let conversationId ← upsertConversation ids.conversationId account contactId update.timestamp none
  let stored ← .execute () (.createMessage (update.row account.tenantId conversationId status))
  pure (decide (stored ≠ []))

/-- `advanceMessageStatus`: whether the status advanced. -/
def advanceMessageStatus (status : MessageStatus) : WriterTx Bool := do
  if advanceableFrom status = [] then pure false
  else
    let rows ← .execute () (.advanceStatus tenantId update.id status update.timestamp)
    pure (decide (rows ≠ []))

def createIfMissing (ids : GeneratedIds) (account : RoutedWhatsAppAccount) (update : WhatsAppMessageStatusUpdate)
    (status : MessageStatus) (phoneE164 : String) : Option InboundMessage → WriterTx Bool
  | none => createStatusPlaceholder ids account update status phoneE164
  | some _ => pure false

def statusTransaction (ids : GeneratedIds) (account : RoutedWhatsAppAccount) (update : WhatsAppMessageStatusUpdate)
    (status : MessageStatus) (phoneE164 : String) : WriterTx Unit :=
  tenantTransaction account.tenantId do
    let existing ← .query () fun db => db.findMessage account.tenantId update.id
    let created ← createIfMissing ids account update status phoneE164 existing
    if created then pure ()
    else
      let advanced ← advanceMessageStatus account.tenantId update status
      if advanced ∧ existing = none then
        -- the row the update has just found, read for the event that follows the commit
        let found ← .query () fun db => db.findMessage account.tenantId update.id
        let _ ← orThrow found
        pure ()
      else pure ()

def drawUuid : WebhookProg Uuid :=
  .stmt .draw fun db => (db.uuids.headD 0, { db with uuids := db.uuids.tail })

/-- What becomes of the next statement. -/
def drawDelivery : WebhookProg Delivery :=
  .stmt .draw fun db => (db.deliveries.headD .answered, { db with deliveries := db.deliveries.tail })

def attempt {α : Type} (work : WebhookProg (Except WebhookError α)) : WebhookProg (Except WebhookError α) := do
  let delivery ← drawDelivery
  match delivery with
  | .answered => work
  | .refused message => pure (.error (.thrown message))
  | .lost message => do
    let _ ← work
    pure (.error (.thrown message))

def generating {α : Type} (work : GeneratedIds → WriterTx α) : WebhookProg (Except WebhookError α) := do
  let contactId ← drawUuid
  let conversationId ← drawUuid
  attempt (((work { contactId, conversationId }).retag fun _ => .tenant).run inboundWrites .commit [])

/-- `applyInboundMessage`: false when the message has no usable contact. -/
def applyInboundMessage (message : WhatsAppInboundMessage)
    (displayName : Option String) : WebhookProg (Except WebhookError Bool) :=
  match toPhoneE164 message.source with
  | none => pure (.ok false)
  | some phoneE164 => do
    let applied ← generating fun ids => inboundTransaction ids account message phoneE164 displayName
    pure (applied.map fun _ => true)

/-- `applyStatusUpdate`: a status the product does not model is a no-op. -/
def applyStatusUpdate : WebhookProg (Except WebhookError Bool) :=
  match toMessageStatus update.status with
  | none => pure (.ok true)
  | some status =>
    match toPhoneE164 update.recipientId with
    | none => pure (.ok false)
    | some phoneE164 => do
      let applied ← generating fun ids => statusTransaction ids account update status phoneE164
      pure (applied.map fun _ => true)

end WhatsappCrm.Webhooks
