/-
Purpose: How an outbound message leaves: its row, the dispatcher that hands it to Meta, and the receipts Meta sends
  back, interleaved.
-/
import WhatsappCrm.Lifecycle.Store
import WhatsappCrm.Webhooks.Store

namespace WhatsappCrm.Conversations

open Interleaving Table Webhooks
open Lifecycle (TenantStatus)

variable (id : Uuid)

structure MessageRow extends InboundMessage where
  id : Uuid
deriving DecidableEq

structure MetaSend where
  tenantId : Uuid
  messageId : Uuid
  providerMessageId : String
deriving DecidableEq

/-- `MessageStatusChangedEvent`. -/
structure MessageStatusChanged where
  tenantId : Uuid
  conversationId : Uuid
  messageId : Uuid
  status : StoredStatus
  providerMessageId : Option String

structure DeliveryDb where
  now : Millis := 0
  tenants : List (Uuid × TenantStatus) := []
  /-- The tenants `assert_tenant_serviceable` lets through. -/
  serviceable : List Uuid := []
  messages : List MessageRow := []
  /-- The ids the next calls draw. -/
  uuids : List Uuid := []
  /-- The sends Meta has accepted, those whose record has been tried, and the failures Meta has reported: records
      nothing of the product reads. -/
  accepted : List MetaSend := []
  tried : List MetaSend := []
  failures : List (Uuid × String) := []
  /-- The events emitted, and the updates of a message's status, row by row: records too. -/
  emitted : List MessageStatusChanged := []
  statusWrites : List MessageStatusChanged := []

variable (db : DeliveryDb) (tenantId messageId : Uuid) (providerMessageId : String) (conversationId : Uuid)
  (update : WhatsAppMessageStatusUpdate) (status : MessageStatus) (m : MessageRow)

def MessageRow.idEntry : Option Uuid := some m.id

def MessageRow.providerEntry : Option (Uuid × String) := m.toInboundMessage.providerEntry

structure DeliveryDb.Indexed (db : DeliveryDb) : Prop where
  id : UniqueBy MessageRow.idEntry db.messages
  provider : UniqueBy MessageRow.providerEntry db.messages

def DeliveryDb.findByProvider : Option MessageRow :=
  db.messages.find? fun m => m.tenantId = tenantId ∧ m.providerMessageId = some providerMessageId

def MessageRow.changed : MessageStatusChanged where
  tenantId := m.tenantId
  conversationId := m.conversationId
  messageId := m.id
  status := m.status
  providerMessageId := m.providerMessageId

/-- The status writes on record after one more update. -/
def DeliveryDb.written (selected : MessageRow → Bool) (f : MessageRow → MessageRow) : List MessageStatusChanged :=
  db.statusWrites ++ (db.messages.filter selected).map fun m => (f m).changed

inductive DeliveryStmt where
  | draw
  | create
  | load
  | tenant
  | send
  | recordSent (send : MetaSend)
  | recordFailed (tenantId messageId : Uuid)
  | receipt
  | commit
  | emit (event : MessageStatusChanged)

abbrev DeliveryProg := Prog DeliveryStmt DeliveryDb

inductive SendError where
  | metaUnavailable
  | metaRateLimited
  | metaRequestRejected
  | metaAuthentication
  | other (message : String)

def SendError.uniqueViolation : SendError := .other "Unique constraint failed"

def drawId : DeliveryProg Uuid :=
  .stmt .draw fun db => (db.uuids.headD 0, { db with uuids := db.uuids.tail })

/-- The row an agent's send, or the bot's, commits before anything is delivered. -/
def queuedRow (sentAt : Millis) : MessageRow where
  id
  tenantId
  conversationId
  direction := .outbound
  status := .ladder .queued
  providerMessageId := none
  sentAt

def createQueued (sentAt : Millis) : DeliveryProg (Except SendError Uuid) := do
  let id ← drawId
  .stmt .create fun db =>
    if db.messages.any (·.id = id) then (.error .uniqueViolation, db)
    else (.ok id, { db with messages := db.messages ++ [queuedRow id tenantId conversationId sentAt] })

def sendMaxAttempts : Nat := 3

def load : DeliveryProg (Option MessageRow) :=
  .read .load fun db => db.messages.find? fun m => m.tenantId = tenantId ∧ m.id = messageId

def statusRefusingOutbound : DeliveryProg (Option TenantStatus) :=
  .read .tenant fun db =>
    match db.tenants.lookup tenantId with
    | none => some .deleted
    | some status => if status.outboundAllowed then none else some status

/-- `send`: what Meta answers. An id it has given before it does not give again. -/
def send (answer : Except SendError String) : DeliveryProg (Except SendError String) :=
  .stmt .send fun db =>
    match answer with
    | .error e => (.error e, db)
    | .ok providerMessageId =>
      if db.accepted.any (·.providerMessageId = providerMessageId) then (.error .metaUnavailable, db)
      else
        (.ok providerMessageId,
          { db with accepted := db.accepted ++ [{ tenantId, messageId, providerMessageId }] })

def MessageRow.queuedAs : Bool :=
  m.tenantId = tenantId ∧ m.id = messageId ∧ m.status = .ladder .queued

def MessageRow.sentAs : MessageRow :=
  { m with status := .ladder .sent, providerMessageId := some providerMessageId }

def MessageRow.fail (at_ : Millis) (m : MessageRow) : MessageRow :=
  { m with status := .ladder .failed, failedAt := some at_ }

/-- The update of `recordSent`: the unique index rejects an id that another row of the tenant has. -/
def updateSent (s : MetaSend) : DeliveryProg (Except SendError Nat) :=
  .stmt (.recordSent s) fun db =>
    let tried := db.tried ++ [s]
    let selected := MessageRow.queuedAs s.tenantId s.messageId
    if db.messages.any selected ∧ db.messages.any (fun m => !selected m ∧ m.tenantId = s.tenantId ∧
        m.providerMessageId = some s.providerMessageId) then (.error .uniqueViolation, { db with tried })
    else
      (.ok (db.messages.countP selected),
        { db with
          tried
          statusWrites := db.written selected (MessageRow.sentAs s.providerMessageId)
          messages := updateWhere selected (MessageRow.sentAs s.providerMessageId) db.messages })

def updateFailed : DeliveryProg Nat :=
  .stmt (.recordFailed tenantId messageId) fun db =>
    let selected := MessageRow.queuedAs tenantId messageId
    (db.messages.countP selected,
      { db with
        statusWrites := db.written selected (MessageRow.fail db.now)
        messages := updateWhere selected (MessageRow.fail db.now) db.messages })

def emit (event : MessageStatusChanged) : DeliveryProg Unit :=
  .stmt (.emit event) fun db => ((), { db with emitted := db.emitted ++ [event] })

/-- An update that changed no row announces nothing. -/
def emitWhenChanged (count : Nat) (event : MessageStatusChanged) : DeliveryProg Unit :=
  if 0 < count then emit event else pure ()

def MessageRow.announces (providerMessageId : Option String) (m : MessageRow) : MessageStatusChanged where
  tenantId := m.tenantId
  conversationId := m.conversationId
  messageId := m.id
  status := .ladder status
  providerMessageId

def recordSent (message : MessageRow) (providerMessageId : String) : DeliveryProg (Except SendError Unit) := do
  let updated ← updateSent { tenantId := message.tenantId, messageId := message.id, providerMessageId }
  match updated with
  | .error e => pure (.error e)
  | .ok count => do
    emitWhenChanged count (message.announces .sent (some providerMessageId))
    pure (.ok ())

def recordFailed (message : MessageRow) : DeliveryProg Unit := do
  let count ← updateFailed message.tenantId message.id
  emitWhenChanged count (message.announces .failed none)

def isWorthRetrying : SendError → Bool
  | .metaUnavailable | .metaRateLimited => true
  | _ => false

inductive DeliverOutcome where
  | gone
  | settled
  | sent
  | failed
  | rethrown (error : SendError)

def handleSendError (message : MessageRow) (attempt : Nat) (error : SendError) : DeliveryProg DeliverOutcome :=
  if isWorthRetrying error ∧ attempt < sendMaxAttempts then pure (.rethrown error)
  else do
    recordFailed message
    pure .failed

def sendAndRecord (message : MessageRow) (answer : Except SendError String) : DeliveryProg (Except SendError Unit) := do
  let sent ← send message.tenantId message.id answer
  match sent with
  | .error e => pure (.error e)
  | .ok providerMessageId => recordSent message providerMessageId

def deliver (attempt : Nat) (answer : Except SendError String) : DeliveryProg DeliverOutcome := do
  let message ← load tenantId messageId
  match message with
  | none => pure .gone
  | some message =>
    if message.status ≠ .ladder .queued then pure .settled
    else
      let refusedBy ← statusRefusingOutbound tenantId
      match refusedBy with
      | some _ => do
        recordFailed message
        pure .failed
      | none => do
        let recorded ← sendAndRecord message answer
        match recorded with
        | .ok _ => pure .sent
        | .error e => handleSendError message attempt e

/-- `ProviderReportedStatus`: what Meta may say of a message. -/
abbrev ProviderReportedStatus := { status : MessageStatus // status ≠ .queued }

theorem toMessageStatus_ne_queued {status : MessageStatus}
    (h : toMessageStatus metaStatus = some status) : status ≠ .queued := by
  rintro rfl
  simp only [toMessageStatus] at h
  split at h
  · cases h
  · split at h
    · cases h
    · split at h
      · cases h
      · cases (Option.ite_none_right_eq_some.mp h).2

def toReportedStatus (metaStatus : String) : Option ProviderReportedStatus :=
  match h : toMessageStatus metaStatus with
  | none => none
  | some status => some ⟨status, toMessageStatus_ne_queued h⟩

inductive ReceiptWrite where
  | createPlaceholder (row : MessageRow) (reported : row.status ≠ .ladder .queued)
  | advanceStatus (tenantId : Uuid) (providerMessageId : String) (status : MessageStatus) (at_ : Millis)

def MessageRow.advanceable : Bool :=
  m.toInboundMessage.advanceable tenantId providerMessageId status

def MessageRow.stamp (at_ : Millis) (m : MessageRow) : MessageRow :=
  { m with toInboundMessage := m.toInboundMessage.stamp status at_ }

def DeliveryDb.report : List (Uuid × String) :=
  if status = .failed then db.failures ++ [(tenantId, providerMessageId)] else db.failures

def ReceiptWrite.apply (w : ReceiptWrite) (db : DeliveryDb) : Except WebhookError (List Uuid × DeliveryDb) :=
  match w with
  | .createPlaceholder row _ =>
    if db.messages.any (Clash MessageRow.providerEntry row ·) then .ok ([], db)
    else if db.messages.any (·.id = row.id) then .error .uniqueViolation
    else
      .ok ([row.id],
        { db with
          messages := db.messages ++ [row]
          failures := if row.status = .ladder .failed then
            db.failures ++ (row.providerMessageId.map fun id => (row.tenantId, id)).toList else db.failures })
  | .advanceStatus tenantId providerMessageId status at_ =>
    let selected := db.messages.filter (MessageRow.advanceable tenantId providerMessageId status)
    if selected = [] then .ok ([], db)
    else
      .ok (selected.map (·.id),
        { db with
          statusWrites := db.written (MessageRow.advanceable tenantId providerMessageId status)
            (MessageRow.stamp status at_)
          messages := updateWhere (MessageRow.advanceable tenantId providerMessageId status)
            (MessageRow.stamp status at_) db.messages
          failures := db.report tenantId providerMessageId status })

def receiptWrites : Writes DeliveryDb ReceiptWrite Uuid WebhookError where
  apply := ReceiptWrite.apply
  conflict := .thrown "could not serialize access"

abbrev ReceiptTx := Tx Unit DeliveryDb ReceiptWrite Uuid WebhookError

def placeholderRow : MessageRow :=
  { update.row tenantId conversationId status with id }

theorem placeholderRow_status : (placeholderRow id tenantId conversationId update status).status = .ladder status := by
  cases status <;> rfl

theorem placeholderRow_reported (status : ProviderReportedStatus) :
    (placeholderRow id tenantId conversationId update status.1).status ≠ .ladder .queued := by
  rw [placeholderRow_status]
  intro h
  exact status.2 (StoredStatus.ladder.inj h)

/-- `createStatusPlaceholder`, on the messages. -/
def createPlaceholder (status : ProviderReportedStatus) : ReceiptTx Bool := do
  let stored ← .execute () (.createPlaceholder (placeholderRow id tenantId conversationId update status.1)
    (placeholderRow_reported id tenantId conversationId update status))
  pure (decide (stored ≠ []))

def advanceStatus : ReceiptTx Bool := do
  if advanceableFrom status = [] then pure false
  else
    let rows ← .execute () (.advanceStatus tenantId update.id status update.timestamp)
    pure (decide (rows ≠ []))

def createIfMissing (status : ProviderReportedStatus) : Option MessageRow → ReceiptTx Bool
  | none => createPlaceholder id tenantId conversationId update status
  | some _ => pure false

/-- The row a receipt has advanced: the one it found, or the one another worker created meanwhile
    (`findUniqueOrThrow`). -/
def advancedMessage : Option MessageRow → ReceiptTx MessageRow
  | some message => pure message
  | none => do
    let found ← .query () fun db => db.findByProvider tenantId providerMessageId
    match found with
    | some message => pure message
    | none => .abort (.thrown "No record was found")

def receiptTransaction (status : ProviderReportedStatus) : ReceiptTx (Option MessageStatusChanged) := do
  let serviceable ← .query () fun db => db.serviceable.contains tenantId
  if serviceable then
    let existing ← .query () fun db => db.findByProvider tenantId update.id
    let created ← createIfMissing id tenantId conversationId update status existing
    if created then pure none
    else
      let advanced ← advanceStatus tenantId update status.1
      if advanced then
        let message ← advancedMessage tenantId update.id existing
        pure (some { message.announces status.1 (some update.id) with tenantId })
      else pure none
  else .abort (.tenantNotActive tenantId)

def emitIfAny : Option MessageStatusChanged → DeliveryProg Unit
  | none => pure ()
  | some event => emit event

/-- `applyStatusUpdate` for a thread. -/
def applyReceipt (account : RoutedWhatsAppAccount) (conversationId : Uuid) (update : WhatsAppMessageStatusUpdate) :
    DeliveryProg (Except WebhookError Bool) :=
  match toReportedStatus update.status with
  | none => pure (.ok true)
  | some status =>
    match toPhoneE164 update.recipientId with
    | none => pure (.ok false)
    | some _ => do
      let id ← drawId
      let applied ← ((receiptTransaction id account.tenantId conversationId update status).retag
        fun _ => DeliveryStmt.receipt).run receiptWrites .commit []
      match applied with
      | .error e => pure (.error e)
      | .ok event => do
        emitIfAny event
        pure (.ok true)

inductive DeliveryCall where
  | create (tenantId conversationId : Uuid) (sentAt : Millis)
  | deliver (tenantId messageId : Uuid) (attempt : Nat) (answer : Except SendError String)
  | receipt (account : RoutedWhatsAppAccount) (conversationId : Uuid) (update : WhatsAppMessageStatusUpdate)

inductive DeliveryReply where
  | created (result : Except SendError Uuid)
  | delivered (outcome : DeliverOutcome)
  | applied (result : Except WebhookError Bool)

def deliveryProgram : DeliveryCall → DeliveryProg DeliveryReply
  | .create tenantId conversationId sentAt =>
    (createQueued tenantId conversationId sentAt).bind (.pure ∘ .created)
  | .deliver tenantId messageId attempt answer =>
    (deliver tenantId messageId attempt answer).bind (.pure ∘ .delivered)
  | .receipt account conversationId update => (applyReceipt account conversationId update).bind (.pure ∘ .applied)

abbrev DeliverySys := Sys DeliveryStmt DeliveryDb DeliveryCall DeliveryReply

abbrev DeliveryRun (s : DeliverySys) : Prop :=
  Reachable deliveryProgram anyStep (.idle db) s

end WhatsappCrm.Conversations
