/-
Purpose: The tables the ticket operations read and write, with the indexes Postgres checks, and the statements they
  send.
-/
import WhatsappCrm.Lib.Interleaving
import WhatsappCrm.Lib.Table
import WhatsappCrm.Tickets.Contract

namespace WhatsappCrm

open Table

inductive MessageDirection where
  | inbound
  | outbound
deriving DecidableEq

structure Conversation where
  id : Uuid
  tenantId : Uuid
  contactId : Uuid

/-- A row of `messages`. A reply a person sent has a `senderUserId`, the bot's have none. -/
structure Message where
  id : Uuid
  tenantId : Uuid
  conversationId : Uuid
  direction : MessageDirection
  senderUserId : Option Uuid := none
  sentAt : Millis

structure User where
  id : Uuid
  tenantId : Uuid
  email : String := ""
  name : String := ""
  role : UserRole := .agent
  status : UserStatus
  maxConcurrentTickets : Option Nat := none
deriving DecidableEq

def User.active (u : User) : Bool := u.status = .active

/-- A row of `team_members`, and of `teams` where it is read for its id alone. -/
structure TeamMember where
  tenantId : Uuid
  teamId : Uuid
  userId : Uuid
deriving DecidableEq

structure TicketDb where
  now : Millis := 0
  tickets : List Ticket := []
  /-- `ticket_counters`: the next number of each tenant that has ever had a ticket. -/
  ticketCounters : List (Uuid × Int) := []
  ticketEvents : List TicketEvent := []
  conversations : List Conversation := []
  messages : List Message := []
  users : List User := []
  /-- `(tenant_id, id)` of the rows of `teams`. -/
  teams : List (Uuid × Uuid) := []
  teamMembers : List TeamMember := []

variable {t : Ticket} {tenantId contactId : Uuid}

namespace Ticket

def idEntry (t : Ticket) : Option Uuid := some t.id

/-- The entry in `UNIQUE (tenant_id, number)`. -/
def numberEntry (t : Ticket) : Option (Uuid × Int) := some (t.tenantId, t.number)

/-- The entry in `tickets_one_active_per_contact`, the partial unique index over
    `(tenant_id, contact_id) WHERE status IN ('open', 'pending')`. A null contact clashes with nothing. -/
def activeEntry (t : Ticket) : Option (Uuid × Uuid) :=
  if t.status.isActive then t.contactId.map fun contactId => (t.tenantId, contactId) else none

theorem activeEntry_eq_some : t.activeEntry = some (tenantId, contactId) ↔
      t.status.isActive = true ∧ t.contactId = some contactId ∧ t.tenantId = tenantId := by
  unfold activeEntry
  cases hactive : t.status.isActive with
  | false => simp
  | true =>
    simp only [if_true, Option.map_eq_some_iff, Prod.mk.injEq, true_and]
    constructor
    · rintro ⟨c, hc, ht, rfl⟩
      exact ⟨hc, ht⟩
    · rintro ⟨hc, ht⟩
      exact ⟨contactId, hc, ht, rfl⟩

end Ticket

structure Indexed (tickets : List Ticket) : Prop where
  id : UniqueBy Ticket.idEntry tickets
  number : UniqueBy Ticket.numberEntry tickets
  active : UniqueBy Ticket.activeEntry tickets

theorem indexed_iff (tickets : List Ticket) : Indexed tickets ↔
    UniqueBy Ticket.idEntry tickets ∧ UniqueBy Ticket.numberEntry tickets ∧
      UniqueBy Ticket.activeEntry tickets :=
  ⟨fun h => ⟨h.id, h.number, h.active⟩, fun h => ⟨h.1, h.2.1, h.2.2⟩⟩

instance (tickets : List Ticket) : Decidable (Indexed tickets) :=
  decidable_of_iff _ (indexed_iff tickets).symm

theorem Indexed.eq_of_id (h : Indexed tickets) (ha : a ∈ tickets) (hb : b ∈ tickets) (hid : a.id = b.id) : a = b :=
  h.id.eq_of_entry ha hb (k := b.id) (by rw [Ticket.idEntry, hid]) rfl

namespace TicketDb

/-- `ticket.findUnique` under row-level security: the row with this id, if it is the tenant's. -/
def findTicket (db : TicketDb) (tenantId ticketId : Uuid) : Option Ticket :=
  db.tickets.find? fun t => t.id = ticketId ∧ t.tenantId = tenantId

def findActiveTicket (db : TicketDb) (tenantId contactId : Uuid) : Option Ticket :=
  db.tickets.find? fun t =>
    t.tenantId = tenantId ∧ t.contactId = some contactId ∧ t.status.isActive = true

def appendEvents (db : TicketDb) (events : List TicketEvent) : TicketDb :=
  { db with ticketEvents := db.ticketEvents ++ events }

/-- `ticket.updateMany`: how many rows it matched, or the unique violation that rolls the transaction back. -/
def updateTickets (db : TicketDb) (p : Ticket → Bool) (f : Ticket → Ticket) : Except DbError Nat × TicketDb :=
  let tickets := updateWhere p f db.tickets
  if Indexed tickets then (.ok (db.tickets.countP p), { db with tickets })
  else (.error .uniqueViolation, db)

def nextNumber? (db : TicketDb) (tenantId : Uuid) : Option Int :=
  db.ticketCounters.lookup tenantId

/-- The counter half of the create statement: `INSERT … VALUES (tenant, 2) ON CONFLICT DO UPDATE SET
    next_number = next_number + 1`. -/
def bumpCounter (db : TicketDb) (tenantId : Uuid) : List (Uuid × Int) :=
  match db.nextNumber? tenantId with
  | none => db.ticketCounters ++ [(tenantId, 2)]
  | some _ => db.ticketCounters.map fun e => if e.1 = tenantId then (e.1, e.2 + 1) else e

/-- `RETURNING next_number - 1`. -/
def allocatedNumber (db : TicketDb) (tenantId : Uuid) : Int :=
  (db.nextNumber? tenantId).getD 1

theorem lookup_bumpCounter_self (db : TicketDb) (tenantId : Uuid) :
    (db.bumpCounter tenantId).lookup tenantId = some (db.allocatedNumber tenantId + 1) := by
  cases h : db.nextNumber? tenantId with
  | none =>
    have hlookup : db.ticketCounters.lookup tenantId = none := h
    simp [bumpCounter, allocatedNumber, h, List.lookup_append, hlookup]
  | some n =>
    have hlookup : db.ticketCounters.lookup tenantId = some n := h
    have hmap := lookup_map_key tenantId (· + 1) db.ticketCounters tenantId
    simpa [bumpCounter, allocatedNumber, h, hlookup] using hmap

theorem lookup_bumpCounter_of_ne (db : TicketDb) (hne : other ≠ tenantId) :
    (db.bumpCounter tenantId).lookup other = db.nextNumber? other := by
  have hbeq : (other == tenantId) = false := by simpa using hne
  simp only [bumpCounter]
  cases h : db.nextNumber? tenantId with
  | none => simp [nextNumber?, List.lookup_append, List.lookup_cons, hbeq]
  | some =>
    have hmap := lookup_map_key tenantId (· + 1) db.ticketCounters other
    simpa [nextNumber?, hne] using hmap

variable {db : TicketDb}

theorem exists_lookup_bumpCounter (tenantId : Uuid) (h : db.nextNumber? other = some next) :
    ∃ next', (db.bumpCounter tenantId).lookup other = some next' ∧ next ≤ next' := by
  by_cases hother : other = tenantId
  · subst hother
    refine ⟨_, db.lookup_bumpCounter_self other, ?_⟩
    simp only [allocatedNumber, h, Option.getD_some]
    omega
  · exact ⟨next, by rw [db.lookup_bumpCounter_of_ne hother, h], Int.le_refl next⟩

theorem findTicket_some (h : db.findTicket tenantId ticketId = some t) :
    t ∈ db.tickets ∧ t.id = ticketId ∧ t.tenantId = tenantId := by
  exact of_find? h

theorem findActiveTicket_some (h : db.findActiveTicket tenantId contactId = some t) :
    t ∈ db.tickets ∧ t.activeEntry = some (tenantId, contactId) := by
  have hp := (of_find? h).2
  exact ⟨List.mem_of_find?_eq_some h, Ticket.activeEntry_eq_some.mpr ⟨hp.2.2, hp.2.1, hp.1⟩⟩

theorem findActiveTicket_of_active (hindex : Indexed db.tickets) (ht : t ∈ db.tickets)
    (hentry : t.activeEntry = some (tenantId, contactId)) : db.findActiveTicket tenantId contactId = some t := by
  obtain ⟨hactive, hcontact, htenant⟩ := Ticket.activeEntry_eq_some.mp hentry
  refine hindex.active.find?_eq_some (k := (tenantId, contactId)) ht (decide_eq_true ⟨htenant, hcontact, hactive⟩) fun t' _ hp => ?_
  obtain ⟨htenant', hcontact', hactive'⟩ := of_decide_eq_true hp
  exact Ticket.activeEntry_eq_some.mpr ⟨hactive', hcontact', htenant'⟩

end TicketDb

/-- Which statement of which operation a program is about to execute, with the row it aims at. -/
inductive Stmt where
  | readMessage (messageId : Uuid)
  | findActive (tenantId contactId : Uuid)
  | createTicket (tenantId contactId : Uuid)
  | reopen (ticketId : Uuid)
  | linkConversation (ticketId : Uuid)
  | requireTicket (ticketId : Uuid)
  | agentWrite (ticketId : Uuid)
  | readAssignees
  | agentAssign (ticketId : Uuid)
  | automationRead (ticketId : Uuid)
  | automationWrite (ticketId : Uuid)
  | automationAssign (ticketId : Uuid)
  | botPause (tenantId ticketId : Uuid)
  | routerRead (ticketId : Uuid)
  | routerAssign (tenantId ticketId : Uuid)
  | routerDefer (tenantId ticketId : Uuid)
  | tick

abbrev TicketProg := Interleaving.Prog Stmt TicketDb

end WhatsappCrm
