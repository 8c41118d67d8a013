/-
Purpose: `TicketLinkerService` (`tickets/ticket-linker.service.ts`): put an inbound message on the contact's live
  ticket, or create one in a single statement that the partial unique index arbitrates.
-/
import WhatsappCrm.Tickets.Store

namespace WhatsappCrm

open Interleaving

variable (tenantId : Uuid) (active : Ticket)

/-- How many times the create path may lose the race before giving up (`MAX_LINK_ATTEMPTS`). -/
def maxLinkAttempts : Nat := 3

/-- The inbound message, re-read in tenant scope, with the rows it points at. -/
structure InboundTarget where
  messageId : Uuid
  conversationId : Uuid
  contactId : Uuid

variable (target : InboundTarget) (ticketId : Uuid)

inductive LostRace where
  | create
  | reopen

/-- What one attempt came to: the answer, a race to run again, or what the database raised. -/
inductive LinkAttempt where
  | linked (result : TicketLinkResult)
  | lost (race : LostRace)
  | failed (error : DbError)

def skipped : TicketLinkResult :=
  { outcome := .skipped, ticketId := none, ticketNumber := none, previousStatus := none }

def newTicket (db : TicketDb) (tenantId : Uuid) (target : InboundTarget) (ticketId : Uuid) : Ticket :=
  { id := ticketId
    tenantId := tenantId
    number := db.allocatedNumber tenantId
    status := .open
    conversationId := some target.conversationId
    contactId := some target.contactId
    createdAt := db.now }

def createdEvent : TicketEvent :=
  { tenantId := tenantId
    ticketId := ticketId
    data := .created target.conversationId .inboundMessage }

/-- The create statement, its `created` event and the commit. `ON CONFLICT … DO NOTHING` names the partial index
    only: a clash in another one raises, and the transaction, counter included, is rolled back. -/
def allocateTicket (db : TicketDb) : LinkAttempt × TicketDb :=
  let ticket := newTicket db tenantId target ticketId
  let counters := db.bumpCounter tenantId
  if int4Max < ticket.number + 1 then (.failed .outOfRange, db)
  else if (db.findActiveTicket tenantId target.contactId).isSome then
    (.lost .create, { db with ticketCounters := counters })
  else if Indexed (db.tickets ++ [ticket]) then
    (.linked
        { outcome := .created
          ticketId := some ticketId
          ticketNumber := some ticket.number
          previousStatus := none },
      { db with
        ticketCounters := counters
        tickets := db.tickets ++ [ticket]
        ticketEvents := db.ticketEvents ++ [createdEvent tenantId target ticketId] })
  else (.failed .uniqueViolation, db)

def reopenedEvent : TicketEvent :=
  { tenantId := tenantId
    ticketId := ticketId
    data := .statusChanged .pending .open .inboundMessage }

/-- The `conversation_linked` event, for a message that arrived on another conversation than the ticket's. -/
def conversationLinkedEvents : List TicketEvent :=
  if active.conversationId = some target.conversationId then []
  else
    [{ tenantId := tenantId
       ticketId := active.id
       data := .conversationLinked target.conversationId target.messageId }]

def attachedTo : TicketLinkResult :=
  { outcome := .attached
    ticketId := some active.id
    ticketNumber := some active.number
    previousStatus := some active.status }

def reopenWhere (t : Ticket) : Bool :=
  t.tenantId = tenantId ∧ t.id = active.id ∧ t.status = .pending

/-- The writes of an attach to a ticket read as `pending`: the guarded reopen, and its events when the guard matched. -/
def reopenAndLink (db : TicketDb) : LinkAttempt × TicketDb :=
  match db.updateTickets (reopenWhere tenantId active) fun t => { t with status := .open } with
  | (.error e, db) => (.failed e, db)
  | (.ok 0, db) => (.lost .reopen, db)
  | (.ok _, db) =>
    (.linked (attachedTo active),
      db.appendEvents (reopenedEvent tenantId active.id :: conversationLinkedEvents tenantId active target))

def attach : TicketProg LinkAttempt :=
  if active.status = .pending then
    .stmt (.reopen active.id) (reopenAndLink tenantId active target)
  else if active.conversationId = some target.conversationId then
    pure (.linked (attachedTo active))
  else
    .stmt (.linkConversation active.id) fun db =>
      (.linked (attachedTo active),
        db.appendEvents (conversationLinkedEvents tenantId active target))

def create : TicketProg LinkAttempt :=
  .stmt (.createTicket tenantId target.contactId) (allocateTicket tenantId target ticketId)

def linkOnce : TicketProg LinkAttempt := do
  let active ← .read (.findActive tenantId target.contactId) fun db =>
    db.findActiveTicket tenantId target.contactId
  match active with
  | none => create tenantId target ticketId
  | some active => attach tenantId active target

/-- The attempts that are left; `ids` are the uuids the create path would use, one an attempt. -/
def linkLoop (tenantId : Uuid) (target : InboundTarget) (ids : Nat → Uuid) :
    Nat → TicketProg (Except ApiError TicketLinkResult)
  | 0 => pure (.error (.ticketLinkRaceUnresolved target.contactId maxLinkAttempts))
  | n + 1 => do
    match ← linkOnce tenantId target (ids n) with
    | .linked result => pure (.ok result)
    | .lost _ => linkLoop tenantId target ids n
    | .failed e => pure (.error (.database e))

def TicketDb.findInbound (db : TicketDb) (trigger : InboundMessageTicketTrigger) : Option (Message × Uuid) := do
  let message ← db.messages.find? fun m =>
    m.id = trigger.messageId ∧ m.tenantId = trigger.tenantId
  let conversation ← db.conversations.find? fun c =>
    c.id = message.conversationId ∧ c.tenantId = trigger.tenantId
  pure (message, conversation.contactId)

/-- Re-reads the message the trigger names: `none` for an outbound one, an error for one that is not there. -/
def readInboundTarget (trigger : InboundMessageTicketTrigger) : TicketProg (Except ApiError (Option InboundTarget)) := do
  let found ← .read (.readMessage trigger.messageId) fun db => db.findInbound trigger
  match found with
  | none => pure (.error (.ticketTriggerMessageNotVisible trigger.messageId))
  | some (message, contactId) =>
    if message.direction = .inbound then
      pure (.ok (some
        { messageId := message.id
          conversationId := message.conversationId
          contactId := contactId }))
    else pure (.ok none)

def ensureTicketForMessage (trigger : InboundMessageTicketTrigger) (ids : Nat → Uuid) :
    TicketProg (Except ApiError TicketLinkResult) := do
  match ← readInboundTarget trigger with
  | .error e => pure (.error e)
  | .ok none => pure (.ok skipped)
  | .ok (some target) => linkLoop trigger.tenantId target ids maxLinkAttempts

end WhatsappCrm
