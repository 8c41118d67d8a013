/-
Purpose: The ticket list (`TicketQueryService.list` of `tickets/ticket-query.service.ts`): its filters, scopes and
  orders, and one page.
-/
import WhatsappCrm.Common.KeysetCursor
import WhatsappCrm.Lib.Keyset
import WhatsappCrm.Rbac.Visibility
import WhatsappCrm.Sla.Timer

namespace WhatsappCrm

open Keyset Sql

variable (otherForms : String → Option Millis)

structure TicketListQuery where
  status : Option TicketStatus := none
  priority : Option TicketPriority := none
  scope : RecordScope := .assigned
  assignedUserId : Option Uuid := none
  assignedTeamId : Option Uuid := none
  routingState : Option TicketRoutingState := none
  deferredReason : Option FallbackAssignmentReason := none
  breachedOnly : Bool := false
  cursor : Option String := none
  limit : Nat := 25

structure CursorPage where
  items : List Ticket
  nextCursor : Option String
deriving DecidableEq

def ticketActiveStatuses : List TicketStatus :=
  ([.open, .pending, .resolved, .closed] : List TicketStatus).filter TicketStatus.isActive

/-- `TICKET_PRIORITIES`, in the order Postgres compares them by. -/
def ticketPriorities : List TicketPriority := [.low, .normal, .high, .urgent]

def TicketPriority.rank (priority : TicketPriority) : Nat := ticketPriorities.idxOf priority

def prioritiesBelow (priority : TicketPriority) : List TicketPriority := ticketPriorities.take priority.rank

/-- `isDeferredQuery`: the request is pinned to the deferred set. -/
def isDeferredQuery (query : TicketListQuery) : Bool :=
  query.routingState = some .deferred || query.deferredReason.isSome

def whenGiven {α : Type} (parameter : Option α) (clause : α → Clause Ticket) : List (Clause Ticket) :=
  match parameter with
  | none => []
  | some value => [clause value]

def statusClause : Option TicketStatus → Clause Ticket
  | none => fun t => inList (some t.status) ticketActiveStatuses
  | some status => fun t => eq (some t.status) status

def matchClauses (db : SlaDb) (query : TicketListQuery) : List (Clause Ticket) :=
  [statusClause query.status] ++
  whenGiven query.priority (fun priority t => eq (some t.priority) priority) ++
  whenGiven query.assignedUserId (fun userId t => eq t.assignedUserId userId) ++
  whenGiven query.assignedTeamId (fun teamId t => eq t.assignedTeamId teamId) ++
  (if query.breachedOnly then
    [fun t => some (db.slaTimers.any fun timer =>
      timer.tenantId = t.tenantId && timer.ticketId = t.id && timer.state = .breached)]
  else []) ++
  whenGiven query.routingState (fun state t => eq (some t.routing.state) state) ++
  whenGiven query.deferredReason (fun reason t => eq t.routing.deferredReason reason)

def scopeClauses (requested : RecordScope) (principal : SessionPrincipal) : List (Clause Ticket) :=
  match narrowScope requested principal .ticketReadAll with
  | .all => []
  | .unassigned => [fun t => unclaimedFilter t.assignable]
  | .assigned => [fun t => assignedFilter principal t.assignable]

def selectsAll (clauses : List (Clause Ticket)) (t : Ticket) : Bool := (Truth.all (clauses.map (· t))).isTrue

/-- `TicketListOrder`: a page's sort, and the cursor operations that belong to it. -/
structure TicketListOrder (κ : Type) where
  orderBy : Ticket → Ticket → Bool
  readCursor : Option String → CursorRead κ
  resume : κ → List (Clause Ticket)
  encode : Ticket → Except ApiError String

structure TicketCursor where
  priority : TicketPriority
  createdAt : Millis
  id : Uuid

def TicketPriority.label : TicketPriority → String
  | .low => "low"
  | .normal => "normal"
  | .high => "high"
  | .urgent => "urgent"

def ticketPrioritySchema (text : String) : Option TicketPriority := ticketPriorities.find? fun p => p.label = text

/-- `queueResumeClauses`: strictly after `(priority, createdAt, id)`, all three descending. -/
def queueResumeClauses (cursor : TicketCursor) : List (Clause Ticket) :=
  [fun t => Truth.any
    [inList (some t.priority) (prioritiesBelow cursor.priority),
      (eq (some t.priority) cursor.priority).and (lt (some t.createdAt) cursor.createdAt),
      ((eq (some t.priority) cursor.priority).and (eq (some t.createdAt) cursor.createdAt)).and
        (lt (some t.id) cursor.id)]]

/-- `toTicketCursor`: a priority the enum knows, and a timestamp that is a date. -/
def toTicketCursor (priority createdAt : String) (id : Uuid) : CursorRead TicketCursor :=
  match ticketPrioritySchema priority, parseDate otherForms createdAt with
  | some priority, some createdAt => .cursor { priority, createdAt, id }
  | _, _ => .invalid

def readTicketCursor (value : Option String) : CursorRead TicketCursor :=
  match value with
  | none => .absent
  | some value =>
    match decodeKeysetCursor value with
    | none => .invalid
    | some decoded =>
      match decoded.sortValues with
      | [priority, createdAt] => toTicketCursor otherForms priority createdAt decoded.id
      | _ => .invalid

/-- `priority DESC, createdAt DESC, id DESC`. -/
def queueOrderBy (a b : Ticket) : Bool :=
  b.priority.rank < a.priority.rank ∨ (a.priority = b.priority ∧
    (b.createdAt < a.createdAt ∨ (a.createdAt = b.createdAt ∧ b.id ≤ a.id)))

/-- The cursor of a row of the queue. A creation time no date can hold makes `toISOString` throw. -/
def encodeQueueCursor (t : Ticket) : Except ApiError String :=
  match isoString t.createdAt with
  | none => .error .invalidTimeValue
  | some createdAt => .ok (encodeKeysetCursor { sortValues := [t.priority.label, createdAt], id := t.id })

def queueOrder : TicketListOrder TicketCursor where
  orderBy := queueOrderBy
  readCursor := readTicketCursor otherForms
  resume := queueResumeClauses
  encode := encodeQueueCursor

def deferredResumeClauses (cursor : TimestampCursor) : List (Clause Ticket) :=
  [fun t => (resumeAfter cursor .asc).clause cursor t.routing.deferredSince t.id]

/-- `routingDeferredSince ASC, id ASC`. Nulls sort last. -/
def deferredOrderBy (a b : Ticket) : Bool :=
  match a.routing.deferredSince, b.routing.deferredSince with
  | some sinceA, some sinceB => sinceA < sinceB ∨ (sinceA = sinceB ∧ a.id ≤ b.id)
  | some _, none => true
  | none, some _ => false
  | none, none => a.id ≤ b.id

/-- `deferredSinceOf`, and the cursor of a row of the flagged queue. -/
def encodeDeferredCursor (t : Ticket) : Except ApiError String :=
  match t.routing.deferredSince with
  | none => .error (.ticketRoutingInconsistent t.id)
  | some since => encodeTimestampCursor { «at» := since, id := t.id }

def deferredOrder : TicketListOrder TimestampCursor where
  orderBy := deferredOrderBy
  readCursor := readTimestampCursor otherForms
  resume := deferredResumeClauses
  encode := encodeDeferredCursor

def matching (db : SlaDb) (tenantId : Uuid) (principal : SessionPrincipal) (query : TicketListQuery) : List Ticket :=
  db.base.tickets.filter fun t =>
    t.tenantId = tenantId && selectsAll (matchClauses db query ++ scopeClauses query.scope principal) t

def resumeClauses {κ : Type} (order : TicketListOrder κ) : CursorRead κ → List (Clause Ticket)
  | .cursor cursor => order.resume cursor
  | _ => []

/-- The rows `findMany` answers, one more than the page has room for. -/
def findPage {κ : Type} (order : TicketListOrder κ) (db : SlaDb) (tenantId : Uuid) (principal : SessionPrincipal)
    (query : TicketListQuery) (cursor : CursorRead κ) : List Ticket :=
  let rows := db.base.tickets.filter fun t =>
    t.tenantId = tenantId && selectsAll
      (matchClauses db query ++ scopeClauses query.scope principal ++ resumeClauses order cursor) t
  (sortBy order.orderBy rows).take (query.limit + 1)

def cursorPage {κ : Type} (order : TicketListOrder κ) (limit : Nat) (rows : List Ticket) : Except ApiError CursorPage :=
  let items := rows.take limit
  match items.getLast? with
  | none => .ok { items, nextCursor := none }
  | some last =>
    if limit < rows.length then
      match order.encode last with
      | .error e => .error e
      | .ok next => .ok { items, nextCursor := some next }
    else .ok { items, nextCursor := none }

def page {κ : Type} (order : TicketListOrder κ) (db : SlaDb) (tenantId : Uuid) (principal : SessionPrincipal)
    (query : TicketListQuery) : Except ApiError CursorPage :=
  match order.readCursor query.cursor with
  | .invalid => .error (.invalidTicketCursor "cursor")
  | .absent => cursorPage order query.limit (findPage order db tenantId principal query .absent)
  | .cursor cursor => cursorPage order query.limit (findPage order db tenantId principal query (.cursor cursor))

def list (db : SlaDb) (tenantId : Uuid) (principal : SessionPrincipal)
    (query : TicketListQuery) : Except ApiError CursorPage :=
  if isDeferredQuery query then page (deferredOrder otherForms) db tenantId principal query
  else page (queueOrder otherForms) db tenantId principal query

variable {t : Ticket} {κ : Type} {answer : CursorPage} {db : SlaDb} {tenantId : Uuid} {query : TicketListQuery}

theorem selectsAll_iff : selectsAll clauses t = true ↔ ∀ clause ∈ clauses, clause.selects t = true := by
  simp [selectsAll, Clause.selects]

theorem selectsAll_append (clauses clauses' : List (Clause Ticket)) (t : Ticket) :
    selectsAll (clauses ++ clauses') t = (selectsAll clauses t && selectsAll clauses' t) := by
  simp [selectsAll]

theorem cursorPage_items (h : cursorPage order limit rows = .ok answer) : answer.items = rows.take limit := by
  unfold cursorPage at h
  cases hlast : (rows.take limit).getLast? with
  | none =>
    simp only [hlast, Except.ok.injEq] at h
    rw [← h]
  | some last =>
    simp only [hlast] at h
    split at h
    · cases hnext : order.encode last with
      | error => simp [hnext] at h
      | ok =>
        simp only [hnext, Except.ok.injEq] at h
        rw [← h]
    · rw [← Except.ok.inj h]

theorem encode_of_nextCursor (h : cursorPage order limit rows = .ok answer)
    (hnext : answer.nextCursor = some value) : ∃ t ∈ rows, order.encode t = .ok value := by
  unfold cursorPage at h
  cases hlast : (rows.take limit).getLast? with
  | none =>
    simp only [hlast, Except.ok.injEq] at h
    simp [← h] at hnext
  | some last =>
    simp only [hlast] at h
    split at h
    · cases hencode : order.encode last with
      | error => simp [hencode] at h
      | ok =>
        simp only [hencode, Except.ok.injEq] at h
        simp only [← h, Option.some.injEq] at hnext
        exact ⟨last, List.mem_of_mem_take (List.mem_of_getLast? hlast), hnext ▸ hencode⟩
    · simp only [Except.ok.injEq] at h
      simp [← h] at hnext

theorem exists_cursorPage_of_page (h : page order db tenantId principal query = .ok answer) :
    ∃ cursor, cursorPage order query.limit (findPage order db tenantId principal query cursor) = .ok answer := by
  unfold page at h
  cases hread : order.readCursor query.cursor with
  | invalid =>
    rw [hread] at h
    cases h
  | absent =>
    rw [hread] at h
    exact ⟨.absent, h⟩
  | cursor cursor =>
    rw [hread] at h
    exact ⟨.cursor cursor, h⟩

theorem mem_matching_of_mem_findPage (ht : t ∈ findPage order db tenantId principal query cursor) : t ∈ matching db tenantId principal query := by
  have hfound := (sortBy_perm _ _).mem_iff.mp (List.mem_of_mem_take ht)
  obtain ⟨hmem, hselects⟩ := List.mem_filter.mp hfound
  rw [selectsAll_append, Bool.and_eq_true, Bool.and_eq_true] at hselects
  refine List.mem_filter.mpr ⟨hmem, ?_⟩
  rw [Bool.and_eq_true]
  exact ⟨hselects.1, hselects.2.1⟩

theorem mem_matching_of_mem_page (h : page order db tenantId principal query = .ok answer) (ht : t ∈ answer.items) :
    t ∈ matching db tenantId principal query := by
  obtain ⟨cursor, hpage⟩ := exists_cursorPage_of_page h
  rw [cursorPage_items hpage] at ht
  exact mem_matching_of_mem_findPage (List.mem_of_mem_take ht)

theorem isVisible_of_scopeClauses (h : selectsAll (scopeClauses requested principal) t = true) :
    isVisible t.assignable principal .ticketReadAll = true := by
  unfold scopeClauses narrowScope at h
  cases hall : principal.permissions.contains .ticketReadAll with
  | true => exact isVisible_of_contains hall t.assignable
  | false =>
    simp only [hall, Bool.false_eq_true, if_false] at h
    exact isVisible_of_assignedFilter .ticketReadAll (selectsAll_iff.mp h _ List.mem_cons_self)

theorem isVisible_of_mem_list {otherForms : String → Option Millis} (h : list otherForms db tenantId principal query = .ok answer) (ht : t ∈ answer.items) :
    isVisible t.assignable principal .ticketReadAll = true := by
  have hmatching : t ∈ matching db tenantId principal query := by
    unfold list at h
    split at h
    · exact mem_matching_of_mem_page h ht
    · exact mem_matching_of_mem_page h ht
  have hselects := (List.mem_filter.mp hmatching).2
  rw [selectsAll_append, Bool.and_eq_true, Bool.and_eq_true] at hselects
  exact isVisible_of_scopeClauses hselects.2.2

/-- The query filters and the predicates are one rule, and whatever a ticket list answers, under any scope, passes
    the detail read's check. -/
theorem list_visibility_is_detail_visibility (principal : SessionPrincipal) : (∀ readAll record,
      (Clause.optional (visibilityFilter principal readAll)).selects record = isVisible record principal readAll ∧
      (assignedFilter principal).selects record = isVisible record (principal.without readAll) readAll ∧
      (principal.permissions.contains readAll = false →
        (assignedFilter principal).selects record = isVisible record principal readAll) ∧
      (Clause.optional (sharedInboxFilter principal readAll)).selects record =
        isVisibleOrUnclaimed record principal readAll) ∧
    ∀ otherForms db tenantId query answer, list otherForms db tenantId principal query = .ok answer →
      ∀ t ∈ answer.items, isVisible t.assignable principal .ticketReadAll = true := by
  refine ⟨fun readAll record => ?_, fun _ _ _ _ _ h _ ht => isVisible_of_mem_list h ht⟩
  exact ⟨selects_visibilityFilter record principal readAll, selects_assignedFilter record principal readAll,
    fun h => selects_assignedFilter_of_not h record, selects_sharedInboxFilter record principal readAll⟩

/-- A ticket routed to a team, in the list and in front of the detail read of one of its members. -/
theorem list_visibility_is_detail_visibility_teamTicket :
    let member : SessionPrincipal := { userId := 1#128, permissions := [], teamIds := [7#128] }
    let ticket : Ticket :=
      { id := 5#128, tenantId := 9#128, number := 1, conversationId := none, contactId := none
        assignedTeamId := some 7#128, createdAt := 0 }
    (assignedFilter member).selects ticket.assignable = isVisible ticket.assignable member .ticketReadAll ∧
      isVisible ticket.assignable member .ticketReadAll = true := by
  intro member ticket
  have hrule := list_visibility_is_detail_visibility member
  have hlist : list (fun _ => none) { base := { tickets := [ticket] } } 9#128 member {} =
      .ok { items := [ticket], nextCursor := none } := by
    decide +kernel
  exact ⟨(hrule.1 .ticketReadAll ticket.assignable).2.2.1 (by decide),
    hrule.2 _ _ _ _ _ hlist ticket List.mem_cons_self⟩

/-- A supervisor's own work is not everything they may see: a colleague's record passes the detail read and not the
    chosen filter. -/
theorem assignedFilter_misses_visible_record :
    let supervisor : SessionPrincipal :=
      { userId := 1#128, role := .supervisor, permissions := [.ticketReadAll], teamIds := [] }
    let record : AssignableRecord := { assignedUserId := some 2#128, assignedTeamId := none }
    (assignedFilter supervisor).selects record = false ∧ isVisible record supervisor .ticketReadAll = true := by
  decide

end WhatsappCrm
