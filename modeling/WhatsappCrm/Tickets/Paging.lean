/-
Purpose: Following the ticket list's cursors from the first page answers exactly the filtered set in the request's order,
  and a cursor of one order is refused by the other.
-/
import WhatsappCrm.Tickets.Query
import Mathlib.Data.Prod.Lex

namespace WhatsappCrm

open Keyset Sql Table

def queueKey (t : Ticket) : ℤ ×ₗ ℤ ×ₗ ℤ :=
  toLex (-(t.priority.rank : ℤ), toLex (-t.createdAt, -(t.id.toNat : ℤ)))

/-- What the flagged queue sorts by, rows without a timestamp last. -/
def deferredKey (t : Ticket) : ℤ ×ₗ ℤ ×ₗ ℤ :=
  toLex (if t.routing.deferredSince = none then 1 else 0,
    toLex (t.routing.deferredSince.getD 0, (t.id.toNat : ℤ)))

theorem rank_inj {p q : TicketPriority} (h : p.rank = q.rank) : p = q := by
  revert h
  cases p <;> cases q <;> decide

theorem mem_prioritiesBelow : p ∈ prioritiesBelow q ↔ p.rank < q.rank := by
  cases p <;> cases q <;> decide

variable {a b t : Ticket} {db : SlaDb} {tenantId : Uuid} {query : TicketListQuery} {value : String}

theorem queueKey_le : queueKey a ≤ queueKey b ↔
    b.priority.rank < a.priority.rank ∨ (a.priority.rank = b.priority.rank ∧
      (b.createdAt < a.createdAt ∨ (a.createdAt = b.createdAt ∧ b.id.toNat ≤ a.id.toNat))) := by
  simp only [queueKey, Prod.Lex.toLex_le_toLex, neg_lt_neg_iff, neg_le_neg_iff, neg_inj, Nat.cast_lt, Nat.cast_inj,
    Nat.cast_le]

theorem queueKey_lt : queueKey a < queueKey b ↔
    b.priority.rank < a.priority.rank ∨ (a.priority.rank = b.priority.rank ∧
      (b.createdAt < a.createdAt ∨ (a.createdAt = b.createdAt ∧ b.id.toNat < a.id.toNat))) := by
  simp only [queueKey, Prod.Lex.toLex_lt_toLex, neg_lt_neg_iff, neg_inj, Nat.cast_lt, Nat.cast_inj]

theorem sortsBy_queue : SortsBy queueOrderBy queueKey := by
  intro a b
  rw [queueKey_le, queueOrderBy, decide_eq_true_eq, BitVec.le_def]
  constructor
  · rintro (hlt | ⟨heq, h⟩)
    · exact .inl hlt
    · exact .inr ⟨congrArg _ heq, h⟩
  · rintro (hlt | ⟨heq, h⟩)
    · exact .inl hlt
    · exact .inr ⟨rank_inj heq, h⟩

theorem sortsBy_deferred : SortsBy deferredOrderBy deferredKey := by
  intro a b
  simp only [deferredOrderBy, deferredKey, Prod.Lex.toLex_le_toLex]
  cases a.routing.deferredSince <;> cases b.routing.deferredSince <;> simp [BitVec.le_def]

theorem id_eq_of_queueKey (h : queueKey a = queueKey b) : a.id = b.id := by
  have hid : -(a.id.toNat : ℤ) = -(b.id.toNat : ℤ) := congrArg (fun k => (ofLex (ofLex k).2).2) h
  exact BitVec.eq_of_toNat_eq (by omega)

theorem id_eq_of_deferredKey (h : deferredKey a = deferredKey b) : a.id = b.id := by
  have hid : (a.id.toNat : ℤ) = (b.id.toNat : ℤ) := congrArg (fun k => (ofLex (ofLex k).2).2) h
  exact BitVec.eq_of_toNat_eq (by omega)

theorem selectsAll_queueResume (cursor : TicketCursor) (t : Ticket) :
    selectsAll (queueResumeClauses cursor) t = true ↔
      t.priority.rank < cursor.priority.rank ∨ (cursor.priority.rank = t.priority.rank ∧
        (t.createdAt < cursor.createdAt ∨ (cursor.createdAt = t.createdAt ∧ t.id.toNat < cursor.id.toNat))) := by
  rw [selectsAll_iff]
  simp only [queueResumeClauses, List.mem_singleton, forall_eq, Clause.selects, Truth.isTrue_any, List.any_cons,
    List.any_nil, Truth.isTrue_and, Bool.or_false, Bool.or_eq_true, Bool.and_eq_true, isTrue_inList, isTrue_eq,
    isTrue_lt, decide_eq_true_eq, Option.some.injEq, BitVec.lt_def, exists_eq_right', mem_prioritiesBelow]
  constructor
  · rintro (hlt | ⟨heq, hlt⟩ | ⟨⟨heq, hat⟩, hid⟩)
    · exact .inl hlt
    · exact .inr ⟨congrArg _ heq.symm, .inl hlt⟩
    · exact .inr ⟨congrArg _ heq.symm, .inr ⟨hat.symm, hid⟩⟩
  · rintro (hlt | ⟨heq, hlt | ⟨hat, hid⟩⟩)
    · exact .inl hlt
    · exact .inr (.inl ⟨(rank_inj heq).symm, hlt⟩)
    · exact .inr (.inr ⟨⟨(rank_inj heq).symm, hat.symm⟩, hid⟩)

structure Published (t : Ticket) : Prop where
  id : IdAccepted t.id
  createdAt : IsoDate.InRange t.createdAt
  deferredSince : ∀ since, t.routing.deferredSince = some since → IsoDate.InRange since

structure OrderLaws {κ : Type} (order : TicketListOrder κ) (key : Ticket → ℤ ×ₗ ℤ ×ₗ ℤ) (rows : List Ticket) : Prop where
  sorts : SortsBy order.orderBy key
  id_eq : ∀ {a b : Ticket}, key a = key b → a.id = b.id
  first : order.readCursor none = .absent
  encode : ∀ t ∈ rows, ∃ value cursor, order.encode t = .ok value ∧ order.readCursor (some value) = .cursor cursor ∧
    ∀ t' ∈ rows, (selectsAll (order.resume cursor) t' = true ↔ key t < key t')

theorem ticketPrioritySchema_label (priority : TicketPriority) : ticketPrioritySchema priority.label = some priority := by
  cases priority <;> decide

theorem queueLaws (otherForms : String → Option Millis) {rows : List Ticket} (hrows : ∀ t ∈ rows, Published t) :
    OrderLaws (queueOrder otherForms) queueKey rows where
  sorts := sortsBy_queue
  id_eq := id_eq_of_queueKey
  first := rfl
  encode t ht := by
    obtain ⟨createdAt, htext⟩ := isoString_of_inRange (hrows t ht).createdAt
    refine ⟨encodeKeysetCursor { sortValues := [t.priority.label, createdAt], id := t.id },
      { priority := t.priority, createdAt := t.createdAt, id := t.id }, ?_, ?_, ?_⟩
    · simp only [queueOrder, encodeQueueCursor, htext]
    · have hdecode := decodeKeysetCursor_encodeKeysetCursor { sortValues := [t.priority.label, createdAt], id := t.id }
        (hrows t ht).id
      simp only [queueOrder, readTicketCursor, hdecode, toTicketCursor,
        ticketPrioritySchema_label, parseDate_isoString htext]
    · intro t' _
      rw [queueKey_lt]
      exact selectsAll_queueResume _ t'

theorem deferredLaws (otherForms : String → Option Millis) {rows : List Ticket} (hrows : ∀ t ∈ rows, Published t)
    (hdeferred : ∀ t ∈ rows, t.routing.deferredSince ≠ none) :
    OrderLaws (deferredOrder otherForms) deferredKey rows where
  sorts := sortsBy_deferred
  id_eq := id_eq_of_deferredKey
  first := rfl
  encode t ht := by
    obtain ⟨since, hsince⟩ := Option.ne_none_iff_exists'.mp (hdeferred t ht)
    obtain ⟨text, htext⟩ := isoString_of_inRange ((hrows t ht).deferredSince since hsince)
    have hencode : encodeTimestampCursor { «at» := since, id := t.id } =
        .ok (encodeKeysetCursor { sortValues := [text], id := t.id }) := by
      simp only [encodeTimestampCursor, htext]
    refine ⟨encodeKeysetCursor { sortValues := [text], id := t.id }, { «at» := since, id := t.id }, ?_, ?_, ?_⟩
    · simp only [deferredOrder, encodeDeferredCursor, hsince]
      exact hencode
    · have hread := readTimestampCursor_encodeTimestampCursor hencode (hrows t ht).id otherForms
      simpa only [deferredOrder] using hread
    · intro t' ht'
      obtain ⟨since', hsince'⟩ := Option.ne_none_iff_exists'.mp (hdeferred t' ht')
      rw [selectsAll_iff]
      simp only [deferredOrder, deferredResumeClauses, List.mem_singleton, forall_eq, Clause.selects, hsince',
        selects_resumeAfter_asc, deferredKey, hsince, Prod.Lex.toLex_lt_toLex, BitVec.lt_def]
      simp

theorem deferredSince_of_matching (hquery : isDeferredQuery query = true) (ht : t ∈ matching db tenantId principal query) :
    t.routing.deferredSince ≠ none := by
  have hselects := (List.mem_filter.mp ht).2
  rw [selectsAll_append, Bool.and_eq_true, Bool.and_eq_true] at hselects
  have hmatch := selectsAll_iff.mp hselects.2.1
  rw [isDeferredQuery, Bool.or_eq_true] at hquery
  rcases hquery with hstate | hreason
  · have hclause := hmatch (fun t => eq (some t.routing.state) .deferred)
      (by simp [matchClauses, whenGiven, of_decide_eq_true hstate])
    rw [Clause.selects, isTrue_eq] at hclause
    cases hrouting : t.routing <;> simp [hrouting, TicketRouting.state, TicketRouting.deferredSince] at hclause ⊢
  · obtain ⟨reason, hreason⟩ := Option.isSome_iff_exists.mp hreason
    have hclause := hmatch (fun t => eq t.routing.deferredReason reason) (by simp [matchClauses, whenGiven, hreason])
    rw [Clause.selects, isTrue_eq] at hclause
    cases hrouting : t.routing <;> simp [hrouting, TicketRouting.deferredReason, TicketRouting.deferredSince] at hclause ⊢

def remaining {κ : Type} (order : TicketListOrder κ) (rows : List Ticket) (cursor : CursorRead κ) : List Ticket :=
  sortBy order.orderBy (rows.filter (selectsAll (resumeClauses order cursor)))

theorem findPage_eq {κ : Type} (order : TicketListOrder κ) (db : SlaDb) (tenantId : Uuid) (principal : SessionPrincipal)
    (query : TicketListQuery) (cursor : CursorRead κ) : findPage order db tenantId principal query cursor =
      (remaining order (matching db tenantId principal query) cursor).take (query.limit + 1) := by
  have hfilter : (db.base.tickets.filter fun t => t.tenantId = tenantId && selectsAll
        (matchClauses db query ++ scopeClauses query.scope principal ++ resumeClauses order cursor) t) =
      (matching db tenantId principal query).filter (selectsAll (resumeClauses order cursor)) := by
    rw [matching, List.filter_filter]
    refine List.filter_congr fun t _ => ?_
    rw [selectsAll_append, Bool.and_comm (selectsAll (resumeClauses order cursor) t), Bool.and_assoc]
  rw [findPage, hfilter]
  rfl

theorem remaining_absent {κ : Type} (order : TicketListOrder κ) (rows : List Ticket) :
    remaining order rows .absent = sortBy order.orderBy rows := by
  have hall : rows.filter (selectsAll (resumeClauses order .absent)) = rows :=
    List.filter_eq_self.mpr fun t _ => selectsAll_iff.mpr (by simp [resumeClauses])
  rw [remaining, hall]

section Laws

variable {κ : Type} {order : TicketListOrder κ} {key : Ticket → ℤ ×ₗ ℤ ×ₗ ℤ} {rows : List Ticket}

theorem OrderLaws.nodup (laws : OrderLaws order key rows) (hids : UniqueBy Ticket.idEntry rows) :
    (rows.map key).Nodup := by
  refine List.pairwise_map.mpr (hids.imp fun {a b} hclash hkey => hclash ⟨by simp [Ticket.idEntry], ?_⟩)
  rw [Ticket.idEntry, Ticket.idEntry, laws.id_eq hkey]

theorem OrderLaws.mint (laws : OrderLaws order key rows) (ht : t ∈ rows) : (order.encode t).toOption ≠ none := by
  obtain ⟨value, _, hencode, _⟩ := laws.encode t ht
  simp [hencode, Except.toOption]

theorem OrderLaws.cursorPage (laws : OrderLaws order key rows) (hsorted : ∀ t ∈ sorted, t ∈ rows)
    (limit : Nat) : (WhatsappCrm.cursorPage order limit (sorted.take (limit + 1))).map
        (fun answer => (answer.items, answer.nextCursor)) =
      .ok (window limit (fun t => (order.encode t).toOption) sorted) := by
  rw [← window_take]
  have hfound : ∀ t ∈ sorted.take (limit + 1), t ∈ rows := fun t ht => hsorted t (List.mem_of_mem_take ht)
  generalize sorted.take (limit + 1) = found at hfound
  unfold WhatsappCrm.cursorPage window
  cases hlast : (found.take limit).getLast? with
  | none => simp [Except.map, hlast]
  | some last =>
    obtain ⟨value, _, hencode, _⟩ := laws.encode last (hfound last (List.mem_of_mem_take (List.mem_of_getLast? hlast)))
    by_cases hmore : limit < found.length <;> simp [hmore, hlast, hencode, Except.map, Except.toOption]

end Laws

def fetchPage {κ : Type} (order : TicketListOrder κ) (db : SlaDb) (tenantId : Uuid) (principal : SessionPrincipal)
    (query : TicketListQuery) (cursor : Option String) : Except ApiError (List Ticket × Option String) :=
  (page order db tenantId principal { query with cursor }).map fun answer => (answer.items, answer.nextCursor)

theorem OrderLaws.follow {κ : Type} {order : TicketListOrder κ} {key : Ticket → ℤ ×ₗ ℤ ×ₗ ℤ} (laws : OrderLaws order key (matching db tenantId principal query))
    (hids : UniqueBy Ticket.idEntry (matching db tenantId principal query)) (hlimit : 1 ≤ query.limit)
    (hfuel : (matching db tenantId principal query).length < fuel) :
    ∃ pages, Keyset.follow (fetchPage order db tenantId principal query) fuel none = some pages ∧
      pages.flatten = sortBy order.orderBy (matching db tenantId principal query) := by
  have hmem : ∀ t ∈ sortBy order.orderBy (matching db tenantId principal query), t ∈ matching db tenantId principal query :=
    fun t ht => (sortBy_perm _ _).mem_iff.mp ht
  refine follow_window laws.sorts (laws.nodup hids) hlimit (fun t ht => laws.mint ht) ?_ (fun t ht value hvalue => ?_) hfuel
  · rw [fetchPage, page, laws.first, findPage_eq, remaining_absent]
    exact laws.cursorPage hmem query.limit
  · obtain ⟨value', cursor, hencode, hread, hresume⟩ := laws.encode t ht
    obtain rfl : value' = value := by simpa [hencode, Except.toOption] using hvalue
    have hfilter : (matching db tenantId principal query).filter (selectsAll (order.resume cursor)) =
        (matching db tenantId principal query).filter fun t' => key t < key t' := by
      refine List.filter_congr fun t' ht' => ?_
      rw [Bool.eq_iff_iff, decide_eq_true_eq]
      exact hresume t' ht'
    have hsame : matching db tenantId principal { query with cursor := some value' } =
        matching db tenantId principal query := rfl
    simp only [fetchPage, page, hread, findPage_eq, remaining, resumeClauses, hsame, hfilter]
    exact laws.cursorPage (fun t' ht' => (List.mem_filter.mp ((sortBy_perm _ _).mem_iff.mp ht')).1) query.limit

def listOrderBy (query : TicketListQuery) : Ticket → Ticket → Bool :=
  if isDeferredQuery query then deferredOrderBy else queueOrderBy

def fetchList (otherForms : String → Option Millis) (db : SlaDb) (tenantId : Uuid) (principal : SessionPrincipal)
    (query : TicketListQuery) (cursor : Option String) : Except ApiError (List Ticket × Option String) :=
  (list otherForms db tenantId principal { query with cursor }).map fun answer => (answer.items, answer.nextCursor)

theorem fetchList_deferred (h : isDeferredQuery query = true) : fetchList otherForms db tenantId principal query =
      fetchPage (deferredOrder otherForms) db tenantId principal query := by
  funext cursor
  have hcursor : isDeferredQuery { query with cursor } = true := h
  rw [fetchList, list, if_pos hcursor, fetchPage]

theorem fetchList_queue (h : isDeferredQuery query = false) : fetchList otherForms db tenantId principal query =
      fetchPage (queueOrder otherForms) db tenantId principal query := by
  funext cursor
  have hcursor : ¬ isDeferredQuery { query with cursor } = true := by
    rw [Bool.not_eq_true]
    exact h
  rw [fetchList, list, if_neg hcursor, fetchPage]

theorem readTimestampCursor_queue (h : encodeQueueCursor t = .ok value)
    (ht : Published t) (otherForms : String → Option Millis) :
    readTimestampCursor otherForms (some value) = .invalid := by
  obtain ⟨createdAt, htext⟩ := isoString_of_inRange ht.createdAt
  simp only [encodeQueueCursor, htext] at h
  rw [← Except.ok.inj h]
  exact readTimestampCursor_of_arity
    (decodeKeysetCursor_encodeKeysetCursor { sortValues := [t.priority.label, createdAt], id := t.id } ht.id) (by simp)
    otherForms

theorem readTicketCursor_deferred (h : encodeDeferredCursor t = .ok value)
    (ht : Published t) (otherForms : String → Option Millis) : readTicketCursor otherForms (some value) = .invalid := by
  unfold encodeDeferredCursor at h
  cases hsince : t.routing.deferredSince with
  | none =>
    rw [hsince] at h
    cases h
  | some since =>
    obtain ⟨text, htext⟩ := isoString_of_inRange (ht.deferredSince since hsince)
    simp only [hsince, encodeTimestampCursor, htext] at h
    have hdecode := decodeKeysetCursor_encodeKeysetCursor { sortValues := [text], id := t.id } ht.id
    rw [← Except.ok.inj h]
    simp only [readTicketCursor, hdecode]

theorem encode_of_page {κ : Type} {order : TicketListOrder κ} (h : page order db tenantId principal query = .ok answer) (hnext : answer.nextCursor = some value) :
    ∃ t ∈ db.base.tickets, order.encode t = .ok value := by
  obtain ⟨cursor, hpage⟩ := exists_cursorPage_of_page h
  obtain ⟨t, ht, hencode⟩ := encode_of_nextCursor hpage hnext
  exact ⟨t, (List.mem_filter.mp (mem_matching_of_mem_findPage ht)).1, hencode⟩

theorem list_of_other_order (hrows : ∀ t ∈ db.base.tickets, Published t) (h : list otherForms db tenantId principal query = .ok answer) (hnext : answer.nextCursor = some value)
    (hother : isDeferredQuery query' ≠ isDeferredQuery query)
    (hcursor : query'.cursor = some value) (db' : SlaDb) (tenantId' : Uuid) (principal' : SessionPrincipal) :
    list otherForms db' tenantId' principal' query' = .error (.invalidTicketCursor "cursor") := by
  unfold list at h ⊢
  cases hdeferred : isDeferredQuery query with
  | true =>
    rw [if_pos hdeferred] at h
    obtain ⟨t, ht, hencode⟩ := encode_of_page h hnext
    have hread : (queueOrder otherForms).readCursor query'.cursor = .invalid := by
      rw [hcursor]
      exact readTicketCursor_deferred hencode (hrows t ht) otherForms
    rw [if_neg (by simpa [hdeferred] using hother), page, hread]
  | false =>
    rw [if_neg (by simp [hdeferred])] at h
    obtain ⟨t, ht, hencode⟩ := encode_of_page h hnext
    have hread : (deferredOrder otherForms).readCursor query'.cursor = .invalid := by
      rw [hcursor]
      exact readTimestampCursor_queue hencode (hrows t ht) otherForms
    rw [if_pos (by simpa [hdeferred] using hother), page, hread]

/-- Following the cursors of any request from its first page comes to an end, and the pages are the filtered set in
    the request's order; and a cursor it was given is refused by every request of the other order. -/
theorem pages_are_the_filtered_set (otherForms : String → Option Millis) (db : SlaDb)
    (hids : UniqueBy Ticket.idEntry db.base.tickets) (hrows : ∀ t ∈ db.base.tickets, Published t)
    (tenantId : Uuid) (principal : SessionPrincipal) (query : TicketListQuery) (hlimit : 1 ≤ query.limit) :
    (∀ fuel, (matching db tenantId principal query).length < fuel →
      ∃ pages, follow (fetchList otherForms db tenantId principal query) fuel none = some pages ∧
        pages.flatten = sortBy (listOrderBy query) (matching db tenantId principal query)) ∧
    ∀ answer value, list otherForms db tenantId principal query = .ok answer → answer.nextCursor = some value →
      ∀ query', isDeferredQuery query' ≠ isDeferredQuery query → query'.cursor = some value →
        ∀ db' tenantId' principal', list otherForms db' tenantId' principal' query' =
          .error (.invalidTicketCursor "cursor") := by
  have hmatching : ∀ t ∈ matching db tenantId principal query, Published t := fun t ht =>
    hrows t (List.mem_filter.mp ht).1
  have hunique : UniqueBy Ticket.idEntry (matching db tenantId principal query) := hids.filter _
  refine ⟨fun fuel hfuel => ?_, fun answer value h hnext query' hother hcursor db' tenantId' principal' =>
    list_of_other_order hrows h hnext hother hcursor db' tenantId' principal'⟩
  cases hdeferred : isDeferredQuery query with
  | true =>
    have laws := deferredLaws otherForms hmatching fun t ht => deferredSince_of_matching hdeferred ht
    rw [fetchList_deferred hdeferred, listOrderBy, if_pos hdeferred]
    exact laws.follow hunique hlimit hfuel
  | false =>
    have laws := queueLaws otherForms hmatching
    rw [fetchList_queue hdeferred, listOrderBy, if_neg (by simp [hdeferred])]
    exact laws.follow hunique hlimit hfuel

/-- Three tickets of a supervisor's queue, two of them of one priority and one instant, in pages of one. -/
theorem pages_are_the_filtered_set_threeTickets :
    let ticket (n : Uuid) (number : Int) (priority : TicketPriority) : Ticket :=
      { id := 0x018f0000000070008000000000000000#128 + n, tenantId := 9#128, number, priority, conversationId := none
        contactId := none, createdAt := 1760000000000 }
    let db : SlaDb := { base := { tickets := [ticket 1 1 .normal, ticket 2 2 .normal, ticket 3 3 .urgent] } }
    let supervisor : SessionPrincipal := { userId := 1#128, permissions := [.ticketReadAll], teamIds := [] }
    ∃ pages, follow (fetchList (fun _ => none) db 9#128 supervisor { scope := .all, limit := 1 }) 4 none = some pages ∧
      pages.flatten = [ticket 3 3 .urgent, ticket 2 2 .normal, ticket 1 1 .normal] := by
  intro ticket db supervisor
  have hids : UniqueBy Ticket.idEntry db.base.tickets := by decide
  have hrows : ∀ t ∈ db.base.tickets, Published t := by
    intro t ht
    have hversion : (1 ≤ (UuidText.Groups.ofBits t.id).version ∧ (UuidText.Groups.ofBits t.id).version ≤ 8) ∧
        8 ≤ (UuidText.Groups.ofBits t.id).variant ∧ (UuidText.Groups.ofBits t.id).variant ≤ 11 := by
      revert t
      decide
    have hdates : IsoDate.InRange t.createdAt ∧ t.routing.deferredSince = none := by
      revert t
      decide
    exact ⟨idAccepted_of_version hversion.1 hversion.2, hdates.1, fun since hsince => by simp [hdates.2] at hsince⟩
  obtain ⟨pages, hpages, hflatten⟩ := (pages_are_the_filtered_set (fun _ => none) db hids hrows 9#128 supervisor
    { scope := .all, limit := 1 } (by decide)).1 4 (by decide)
  have hsorted : sortBy (listOrderBy { scope := .all, limit := 1 })
      (matching db 9#128 supervisor { scope := .all, limit := 1 }) =
      [ticket 3 3 .urgent, ticket 2 2 .normal, ticket 1 1 .normal] := by
    decide +kernel
  exact ⟨pages, hpages, hflatten.trans hsorted⟩

end WhatsappCrm
