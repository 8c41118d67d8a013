/-
Purpose: The priority history in `ticket_events`.
-/
import Mathlib.Data.List.Chain
import WhatsappCrm.Tickets.History

namespace WhatsappCrm

open Interleaving Table

def TicketEventData.priorityChange : TicketEventData → Option (TicketPriority × TicketPriority)
  | .priorityChanged source target _ => some (source, target)
  | _ => none

def priorityChanges (ticketId : Uuid) (events : List TicketEvent) : List (TicketPriority × TicketPriority) :=
  events.filterMap fun e => if e.ticketId = ticketId then e.data.priorityChange else none

def TicketDb.priorityLog (db : TicketDb) (ticketId : Uuid) : List (TicketPriority × TicketPriority) :=
  priorityChanges ticketId db.ticketEvents

def priorityMove (source target : TicketPriority) : List (TicketPriority × TicketPriority) :=
  if source = target then [] else [(source, target)]

theorem priorityChanges_append (ticketId : Uuid) (log events : List TicketEvent) :
    priorityChanges ticketId (log ++ events) = priorityChanges ticketId log ++ priorityChanges ticketId events := by
  simp [priorityChanges]

theorem priorityChanges_of_silent (h : ∀ e ∈ events, e.data.priorityChange = none)
    (ticketId : Uuid) : priorityChanges ticketId events = [] := by
  simp only [priorityChanges, List.filterMap_eq_nil_iff]
  intro e he
  simp [h e he]

theorem priorityChanges_changeEvents (before : Ticket) (change : TicketChange) (actorUserId : Option Uuid)
    (cause : EventCause) : priorityChanges before.id (changeEvents before change actorUserId cause) =
      change.priority.toList.map fun priority => (before.priority, priority) := by
  cases hstatus : change.status <;> cases hpriority : change.priority <;>
    simp [priorityChanges, changeEvents, hstatus, hpriority, TicketEventData.priorityChange]

theorem priorityChanges_changeEvents_of_ne {ticketId : Uuid} {before : Ticket} (hne : before.id ≠ ticketId)
    (change : TicketChange) (actorUserId : Option Uuid) (cause : EventCause) :
    priorityChanges ticketId (changeEvents before change actorUserId cause) = [] := by
  cases hstatus : change.status <;> cases hpriority : change.priority <;>
    simp [priorityChanges, changeEvents, hstatus, hpriority, hne]

def PriorityLogged (ticketId : Uuid) (db db' : TicketDb) : Prop :=
  ∀ t ∈ db.tickets, t.id = ticketId → ∀ t' ∈ db'.tickets, t'.id = ticketId →
    db'.priorityLog ticketId = db.priorityLog ticketId ++ priorityMove t.priority t'.priority

structure Trail (log : List (TicketPriority × TicketPriority)) (priority : TicketPriority) : Prop where
  chain : log.IsChain fun change next => change.2 = next.1
  moves : ∀ change ∈ log, change.1 ≠ change.2
  last : ∀ change ∈ log.getLast?, change.2 = priority

def PriorityTrail (ticketId : Uuid) (db : TicketDb) : Prop :=
  ∀ t ∈ db.tickets, t.id = ticketId → Trail (db.priorityLog ticketId) t.priority

variable {priority : TicketPriority} {change : TicketChange}

theorem Trail.move (h : Trail log priority)
    (target : TicketPriority) : Trail (log ++ priorityMove priority target) target := by
  by_cases hsame : priority = target
  · subst hsame
    simpa [priorityMove] using h
  · rw [priorityMove, if_neg hsame]
    constructor
    · apply List.IsChain.append h.chain (.singleton _)
      intro change hlast next hnext
      cases hnext
      exact h.last change hlast
    · intro change hmem
      rcases mem_snoc.mp hmem with hold | rfl
      · exact h.moves change hold
      · exact hsame
    · intro change hlast
      rw [List.getLast?_concat] at hlast
      cases hlast
      rfl

theorem priorityMove_eq_iff {read : TicketPriority} (hmoved : read ≠ target) :
    [(read, target)] = priorityMove held target ↔ held = read := by
  by_cases hsame : held = target
  · subst hsame
    simpa [priorityMove] using hmoved.symm
  · simp only [priorityMove, if_neg hsame, List.cons.injEq, Prod.mk.injEq, and_true]
    exact eq_comm

def TicketCall.edits : TicketCall → Bool
  | .update .. | .applyAutomation .. | .tick _ => true
  | _ => false

/-- The priority a call sets on the ticket it has read; `none` when it leaves the priority alone. -/
def TicketCall.priorityAfter : TicketCall → Ticket → Option TicketPriority
  | .update _ _ _ input, before => (changesIn before input).priority
  | .applyAutomation _ _ (.priority priority) _, before => (some priority).filter (· ≠ before.priority)
  | _, _ => none

def Stmt.writesField : Stmt → Bool
  | .agentWrite _ | .automationWrite _ => true
  | _ => false

def PriorityStillRead (ticketId : Uuid) (db : TicketDb) (call : TicketCall) (tag : SeenStmt) : Prop :=
  tag.1.writesField = true → ∀ before ∈ tag.2, (call.priorityAfter before).isSome = true →
    ∀ t ∈ db.tickets, t.id = ticketId → unchangedStatus before t = true → t.priority = before.priority

instance (ticketId : Uuid) (db : TicketDb) (call : TicketCall) (tag : SeenStmt) :
    Decidable (PriorityStillRead ticketId db call tag) :=
  inferInstanceAs (Decidable (_ → ∀ before ∈ tag.2, _ → ∀ t ∈ db.tickets, _ → _ → _))

/-- A statement of such a call is its write, or touches neither a priority nor the log of one. -/
inductive PriorityEffect (call : TicketCall) : SeenStmt → TicketDb → TicketDb → Prop
  | quiet {tag : SeenStmt} {db db' : TicketDb} (htag : tag.1.writesField = false)
      (hrows : ∀ t' ∈ db'.tickets, ∃ t ∈ db.tickets, t.id = t'.id ∧ t.priority = t'.priority)
      (hlog : ∀ ticketId, db'.priorityLog ticketId = db.priorityLog ticketId) : PriorityEffect call tag db db'
  | write {stmt : Stmt} {before : Ticket} {change : TicketChange} {actorUserId : Option Uuid} {cause : EventCause}
      {db : TicketDb} (hstmt : stmt.writesField = true) (hpriority : change.priority = call.priorityAfter before)
      (hallowed : ∀ status ∈ change.status, canAgentTransition before.status status = true) :
      PriorityEffect call (stmt, some before) db (writeTicket before change actorUserId cause db).2

theorem ne_of_filter_ne {wanted : Option TicketPriority}
    (h : wanted.filter (fun p => decide (p ≠ held)) = some priority) : held ≠ priority := by
  simp only [Option.filter_eq_some_iff, decide_eq_true_eq] at h
  exact h.2.symm

theorem TicketCall.priorityAfter_ne {call : TicketCall} {before : Ticket} (h : call.priorityAfter before = some priority) : before.priority ≠ priority := by
  cases call with
  | update => exact ne_of_filter_ne h
  | applyAutomation _ _ change _ =>
    cases change with
    | priority wanted =>
      have hfilter : (some wanted).filter (fun p => decide (p ≠ before.priority)) = some priority := h
      exact ne_of_filter_ne hfilter
    | _ => cases h
  | _ => cases h

theorem writeTicket_cases {db : TicketDb} (hdb : db.Indexed) (before : Ticket) (change : TicketChange)
    (actorUserId : Option Uuid) (cause : EventCause)
    (hallowed : ∀ status ∈ change.status, canAgentTransition before.status status = true) :
    ((∀ t ∈ db.tickets, unchangedStatus before t = false) ∧ (writeTicket before change actorUserId cause db).2 = db) ∨
      (∃ t ∈ db.tickets, unchangedStatus before t = true) ∧ (writeTicket before change actorUserId cause db).2 =
        { db with
          tickets := updateWhere (unchangedStatus before) (toUpdateData change actorUserId db.now) db.tickets
          ticketEvents := db.ticketEvents ++ changeEvents before change actorUserId cause } := by
  have hmove : ∀ t, unchangedStatus before t = true →
      RowMove db.now (.agentWrite before.id) t (toUpdateData change actorUserId db.now t) := by
    intro t ht
    obtain ⟨hid, hallowed⟩ := unchangedStatus_move hallowed ht
    rw [← hid]
    exact .agent t change _ hallowed
  have heq := updateTickets_eq hdb hmove
  cases hcount : db.tickets.countP (unchangedStatus before) with
  | zero =>
    left
    constructor
    · intro t ht
      exact Bool.eq_false_iff.mpr (List.countP_eq_zero.mp hcount t ht)
    · simp only [writeTicket, heq, hcount, updateWhere_of_countP_eq_zero hcount]
  | succ =>
    right
    constructor
    · exact List.countP_pos_iff.mp (by omega)
    · simp only [writeTicket, heq, hcount, TicketDb.appendEvents]

section Effects

variable {call : TicketCall} {tag : SeenStmt} {db : TicketDb} {ticketId : Uuid}

theorem PriorityEffect.row_before (h : PriorityEffect call tag db db') (hdb : db.Indexed)
    (ht' : t' ∈ db'.tickets) : ∃ t ∈ db.tickets, t.id = t'.id := by
  cases h with
  | quiet _ hrows =>
    obtain ⟨t, ht, hid, _⟩ := hrows t' ht'
    exact ⟨t, ht, hid⟩
  | @write _ before change actorUserId cause _ _ _ hallowed =>
    rcases writeTicket_cases hdb before change actorUserId cause hallowed with ⟨_, hsame⟩ | ⟨_, hwrote⟩
    · rw [hsame] at ht'
      exact ⟨t', ht', rfl⟩
    · rw [hwrote] at ht'
      obtain ⟨t, ht, hcase⟩ := mem_updateWhere ht'
      rcases hcase with ⟨_, rfl⟩ | ⟨_, rfl⟩ <;> exact ⟨_, ht, rfl⟩

theorem PriorityLogged.refl (hdb : db.Indexed) (ticketId : Uuid) : PriorityLogged ticketId db db := by
  intro t ht hid t' ht' hid'
  rw [hdb.eq_of_id ht' ht (hid'.trans hid.symm)]
  simp [priorityMove]

/-- The write of a call records the move it makes exactly when the row has the priority that was read. -/
theorem writeTicket_logged_iff (hdb : db.Indexed) {before : Ticket}
    (hmoved : ∀ priority ∈ change.priority, before.priority ≠ priority)
    (hmatched : ∃ t ∈ db.tickets, unchangedStatus before t = true)
    (htickets : db'.tickets = updateWhere (unchangedStatus before) (toUpdateData change actorUserId db.now) db.tickets)
    (hevents : db'.ticketEvents = db.ticketEvents ++ changeEvents before change actorUserId cause) :
    PriorityLogged ticketId db db' ↔ (change.priority.isSome = true →
      ∀ t ∈ db.tickets, t.id = ticketId → unchangedStatus before t = true → t.priority = before.priority) := by
  have hid_of : ∀ t, unchangedStatus before t = true → t.id = before.id := by
    intro t ht
    simp only [unchangedStatus, decide_eq_true_eq] at ht
    exact ht.2.1
  have hlog : db'.priorityLog ticketId =
      db.priorityLog ticketId ++ priorityChanges ticketId (changeEvents before change actorUserId cause) := by
    rw [TicketDb.priorityLog, hevents, priorityChanges_append]
    rfl
  have hrow : ∀ t ∈ db.tickets, ∀ t' ∈ db'.tickets, t'.id = t.id →
      t' = if unchangedStatus before t then toUpdateData change actorUserId db.now t else t := by
    intro t ht t' ht' hid
    have hkeep : ∀ t, (toUpdateData change actorUserId db.now t).id = t.id := fun _ => rfl
    rw [htickets] at ht'
    exact hdb.eq_updated hkeep ht ht' hid
  constructor
  · intro hlogged hsome t ht hid hp
    obtain ⟨priority, hpriority⟩ := Option.isSome_iff_exists.mp hsome
    have hmem : toUpdateData change actorUserId db.now t ∈ db'.tickets := by
      have hmem := mem_updateWhere_of_mem (p := unchangedStatus before) (f := toUpdateData change actorUserId db.now) ht
      rw [htickets]
      rwa [if_pos hp] at hmem
    have hentry := hlogged t ht hid _ hmem hid
    rw [hlog, List.append_cancel_left_eq, ← hid, hid_of t hp, priorityChanges_changeEvents, hpriority] at hentry
    simp only [Option.toList_some, List.map_cons, List.map_nil, toUpdateData, hpriority, Option.getD_some] at hentry
    exact (priorityMove_eq_iff (hmoved priority hpriority)).mp hentry
  · intro hread t ht hid t' ht' hid'
    rw [hlog, List.append_cancel_left_eq, hrow t ht t' ht' (hid'.trans hid.symm)]
    cases hp : unchangedStatus before t with
    | true =>
      rw [if_pos rfl, ← hid, hid_of t hp, priorityChanges_changeEvents]
      cases hpriority : change.priority with
      | none => simp [priorityMove, toUpdateData, hpriority]
      | some priority =>
        have hheld := hread (by rw [hpriority, Option.isSome_some]) t ht hid hp
        simp only [Option.toList_some, List.map_cons, List.map_nil, toUpdateData, hpriority, Option.getD_some]
        exact (priorityMove_eq_iff (hmoved priority hpriority)).mpr hheld
    | false =>
      -- the ticket that was written is another one, so its events are not of this one
      have hother : before.id ≠ ticketId := by
        intro hsame
        obtain ⟨t₁, ht₁, hp₁⟩ := hmatched
        have heq : t₁ = t := hdb.eq_of_id ht₁ ht ((hid_of t₁ hp₁).trans (hsame.trans hid.symm))
        rw [heq, hp] at hp₁
        cases hp₁
      rw [priorityChanges_changeEvents_of_ne hother]
      simp [priorityMove]

theorem PriorityEffect.logged_iff (h : PriorityEffect call tag db db') (hdb : db.Indexed) (ticketId : Uuid) :
    PriorityLogged ticketId db db' ↔ PriorityStillRead ticketId db call tag := by
  cases h with
  | quiet htag hrows hlog =>
    constructor
    · intro _ hwrites
      rw [htag] at hwrites
      cases hwrites
    · intro _ t ht hid t' ht' hid'
      obtain ⟨t₁, ht₁, hid₁, hpriority⟩ := hrows t' ht'
      have heq : t₁ = t := hdb.eq_of_id ht₁ ht (hid₁.trans (hid'.trans hid.symm))
      rw [hlog, ← hpriority, heq]
      simp [priorityMove]
  | @write stmt before change actorUserId cause _ hstmt hpriority hallowed =>
    have hread : PriorityStillRead ticketId db call (stmt, some before) ↔ (change.priority.isSome = true →
        ∀ t ∈ db.tickets, t.id = ticketId → unchangedStatus before t = true → t.priority = before.priority) := by
      rw [PriorityStillRead, hpriority]
      simp [hstmt]
    rw [hread]
    rcases writeTicket_cases hdb before change actorUserId cause hallowed with ⟨hmissed, hsame⟩ | ⟨hmatched, hwrote⟩
    · rw [hsame]
      constructor
      · intro _ _ t ht _ hp
        rw [hmissed t ht] at hp
        cases hp
      · intro _
        exact .refl hdb ticketId
    · apply writeTicket_logged_iff hdb _ hmatched (by rw [hwrote]) (by rw [hwrote])
      intro priority hmem
      rw [hpriority] at hmem
      exact TicketCall.priorityAfter_ne hmem

theorem PriorityTrail.step (htrail : PriorityTrail ticketId db) (hlogged : PriorityLogged ticketId db db')
    (hrows : ∀ t' ∈ db'.tickets, ∃ t ∈ db.tickets, t.id = t'.id) : PriorityTrail ticketId db' := by
  intro t' ht' hid'
  obtain ⟨t, ht, hid⟩ := hrows t' ht'
  have hid := hid.trans hid'
  rw [hlogged t ht hid t' ht' hid']
  exact (htrail t ht hid).move t'.priority

end Effects

section Programs

variable {call : TicketCall} {before : Ticket}

abbrev EditProg {α : Type} (call : TicketCall) (before : Option Ticket) (p : TicketProg α) : Prop :=
  p.Within TicketDb.Indexed fun tag => PriorityEffect call (tag, before)

theorem PriorityEffect.same {tag : SeenStmt} (htag : tag.1.writesField = false) (db : TicketDb) :
    PriorityEffect call tag db db :=
  .quiet htag (fun t ht => ⟨t, ht, rfl, rfl⟩) fun _ => rfl

theorem editRead {α : Type} {tag : Stmt} (htag : tag.writesField = false) (seen : Option Ticket) (f : TicketDb → α) :
    EditProg call seen (.read tag f) :=
  Prog.Within.read fun db _ => .same htag db

theorem writeTicket_edits {tag : Stmt} (actorUserId : Option Uuid) (cause : EventCause)
    (htag : tag.writesField = true) (hpriority : change.priority = call.priorityAfter before)
    (hallowed : ∀ status ∈ change.status, canAgentTransition before.status status = true) :
    EditProg call (some before) (.stmt tag (writeTicket before change actorUserId cause)) :=
  Prog.Within.stmt fun _ _ => .write htag hpriority hallowed

theorem writeAssignmentRow_quiet {db : TicketDb} (hdb : db.Indexed) (assignment : TicketAssignment)
    (actorUserId : Option Uuid) (cause : EventCause) (reason : Option String) :
    PriorityEffect call (.automationAssign before.id, some before) db
      (writeAssignmentRow before assignment actorUserId cause reason db).2 := by
  have hmove : ∀ t, sameTicket before t = true →
      RowMove db.now (.automationAssign before.id) t (setAssignment assignment t) := by
    intro t ht
    rw [← sameTicket_id ht]
    exact .automationAssign t assignment
  rcases updateTickets_cases hdb hmove with ⟨hnone, _⟩ | ⟨_, n, hsome⟩
  · simp only [writeAssignmentRow, hnone]
    exact .same rfl db
  · simp only [writeAssignmentRow, hsome]
    apply PriorityEffect.quiet rfl
    · intro t' ht'
      obtain ⟨t, ht, hcase⟩ := mem_updateWhere ht'
      rcases hcase with ⟨_, rfl⟩ | ⟨_, rfl⟩ <;> exact ⟨_, ht, rfl, rfl⟩
    · intro ticketId
      have hsilent : ∀ e ∈ [assignmentEvent before assignment actorUserId cause reason], e.data.priorityChange = none := by
        intro e he
        rw [List.mem_singleton.mp he, assignmentEvent]
        split <;> rfl
      simp only [TicketDb.priorityLog, TicketDb.appendEvents, priorityChanges_append,
        priorityChanges_of_silent hsilent ticketId, List.append_nil]

theorem updateFrom_edits (tenantId : Uuid) (principal : SessionPrincipal) (ticketId : Uuid) (input : TicketUpdateInput) :
    EditProg (.update tenantId principal ticketId input) (some before) (updateFrom principal ticketId input before) := by
  rw [updateFrom]
  split
  · trivial
  · rename_i hallowed
    split
    · trivial
    · apply Prog.Within.bind
      · apply writeTicket_edits _ _ rfl rfl
        intro status hstatus
        rw [Option.mem_def.mp hstatus] at hallowed
        exact assertTransitionAllowed_ok hallowed
      · intro written
        split <;> trivial

theorem applyAutomationField_edits (context : TicketAutomationContext)
    (hpriority : change.priority = call.priorityAfter before)
    (hallowed : ∀ status ∈ change.status, canAgentTransition before.status status = true) :
    EditProg call (some before) (applyAutomationField before change context) := by
  apply Prog.Within.bind (writeTicket_edits _ _ rfl hpriority hallowed)
  intro written
  split <;> trivial

theorem applyAutomationFrom_edits (tenantId ticketId : Uuid) (change : TicketAutomationChange)
    (context : TicketAutomationContext) : EditProg (.applyAutomation tenantId ticketId change context) (some before)
      (applyAutomationFrom change context before) := by
  cases change with
  | assignment =>
    rw [applyAutomationFrom, applyAutomationAssignment]
    split
    · trivial
    · apply Prog.Within.bind
      · apply Prog.Within.stmt
        intro db hdb
        exact writeAssignmentRow_quiet hdb _ _ _ _
      · intro written
        split <;> trivial
  | priority priority =>
    rw [applyAutomationFrom]
    split
    · trivial
    · rename_i hmoved
      apply applyAutomationField_edits
      · simp [TicketCall.priorityAfter, Option.filter_some, hmoved]
      · intro status hstatus
        cases hstatus
  | status status =>
    rw [applyAutomationFrom]
    split
    · trivial
    · split
      · trivial
      · rename_i hallowed
        apply applyAutomationField_edits
        · rfl
        · intro target htarget
          cases htarget
          simpa using hallowed

end Programs

def EditStatement (call : TicketCall) (tag : SeenStmt) (db db' : TicketDb) : Prop :=
  call.edits = true → PriorityEffect call tag db db'

theorem EditProg.statement {α : Type} {call : TicketCall} {before : Option Ticket} {p : TicketProg α}
    (h : EditProg call before p) : (seeing before p).Within TicketDb.Indexed (EditStatement call) :=
  follows_seeing (Prog.Follows.mono (fun _ _ _ _ _ heffect _ => heffect) h)

theorem seenProgram_edits (call : TicketCall) : (seenProgram call).Within TicketDb.Indexed (EditStatement call) := by
  cases call with
  | update tenantId principal ticketId input =>
    apply Prog.Within.bind
    · apply Prog.Within.bind
      · apply EditProg.statement
        apply Prog.Within.bind (editRead rfl _ _)
        intro found
        split
        · trivial
        · split <;> trivial
      · intro required
        cases required with
        | error => trivial
        | ok => exact (updateFrom_edits tenantId principal ticketId input).statement
    · intro answer
      trivial
  | applyAutomation tenantId ticketId change context =>
    apply Prog.Within.bind
    · apply Prog.Within.bind
      · exact EditProg.statement (editRead rfl _ _)
      · intro found
        cases found with
        | none => trivial
        | some => exact (applyAutomationFrom_edits tenantId ticketId change context).statement
    · intro answer
      trivial
  | tick =>
    apply EditProg.statement
    apply Prog.Within.bind
    · apply Prog.Within.stmt
      intro db _
      exact .quiet rfl (fun t ht => ⟨t, ht, rfl, rfl⟩) fun _ => rfl
    · intro ticked
      trivial
  | _ =>
    apply Prog.follows_of
    intro _ _ _ _ hedits
    cases hedits

/-- The runs of agents' updates and automations in which each write of the ticket's priority meets its condition. -/
def onlyStillRead (ticketId : Uuid) (s : SeenSys) (call : TicketCall) (tag : SeenStmt) : Prop :=
  call.edits = true ∧ PriorityStillRead ticketId s.db call tag

instance (ticketId : Uuid) (s : SeenSys) (call : TicketCall) (tag : SeenStmt) :
    Decidable (onlyStillRead ticketId s call tag) := inferInstanceAs (Decidable (_ ∧ _))

theorem SeenRun.editFollows {db : TicketDb} (hdb : db.Ok) (hs : SeenRun db s) :
    s.Follows TicketDb.Indexed fun call tag db _ db' => EditStatement call tag db db' :=
  Reachable.follows seenProgram_edits (fun _ hr => (SeenRun.ok hdb hr).indexed) hs

/-- A statement records the move it makes of a priority exactly when the ticket has the priority that was read; and
    in every run that meets this the log of the ticket is a chain that ends at its priority. -/
theorem priority_history_iff {db : TicketDb} (hdb : db.Ok) (ticketId : Uuid) :
    (PriorityTrail ticketId db → ∀ s, Reachable seenProgram (onlyStillRead ticketId) (.idle db) s →
      PriorityTrail ticketId s.db) ∧
    ∀ s, SeenRun db s → ∀ (i : Nat) (call : TicketCall) (tag : SeenStmt) (β : Type) (act : TicketDb → β × TicketDb)
        (next : β → SeenProg TicketReply), call.edits = true → s.calls[i]? = some (call, .atomic tag act next) →
      (PriorityLogged ticketId s.db (act s.db).2 ↔ PriorityStillRead ticketId s.db call tag) := by
  have heffect : ∀ s, SeenRun db s → ∀ (i : Nat) (call : TicketCall) (tag : SeenStmt) (β : Type)
      (act : TicketDb → β × TicketDb) (next : β → SeenProg TicketReply), call.edits = true →
      s.calls[i]? = some (call, .atomic tag act next) → PriorityEffect call tag s.db (act s.db).2 := by
    intro s hs i call tag β act next hedits hcall
    exact ((hs.editFollows hdb).exec_spec (hs.ok hdb).indexed hcall).1 hedits
  constructor
  · intro htrail s hs
    induction hs with
    | refl => exact htrail
    | tail hreach hstep ih =>
      have hrun : SeenRun db _ := Reachable.mono (fun _ _ _ _ => trivial) hreach
      cases hstep with
      | spawn => exact ih
      | exec _ i call tag act next hcall hcond =>
        obtain ⟨hedits, hread⟩ := hcond
        have heffect := heffect _ hrun i call tag _ act next hedits hcall
        have hindexed := (hrun.ok hdb).indexed
        apply ih.step
        · exact (heffect.logged_iff hindexed ticketId).mpr hread
        · intro t' ht'
          exact heffect.row_before hindexed ht'
  · intro s hs i call tag β act next hedits hcall
    exact (heffect s hs i call tag β act next hedits hcall).logged_iff (hs.ok hdb).indexed ticketId

def priorityEditor : SessionPrincipal := { userId := 7, permissions := [.ticketReadAll], teamIds := [] }

theorem emptyTrail : PriorityTrail 1 oneOpenTicket := by
  intro t ht hid
  exact ⟨.nil, fun change hmem => absurd hmem List.not_mem_nil, fun change hlast => by cases hlast⟩

def urgentSchedule : List (Move TicketCall) :=
  [.spawn (.update 1 priorityEditor 1 { priority := some .urgent }), .step 0, .step 0]

theorem priority_history_iff_urgent :
    ∃ s : SeenSys, s.db.priorityLog 1 = [(.normal, .urgent)] ∧ PriorityTrail 1 s.db := by
  have hrun : (run seenProgram (fun s call tag => decide (onlyStillRead 1 s call tag)) urgentSchedule
      (.idle oneOpenTicket)).map (fun s => s.db.priorityLog 1) = some [(.normal, .urgent)] := by
    decide +kernel
  obtain ⟨s, hs, hlog⟩ := Option.map_eq_some_iff.mp hrun
  have hreach : Reachable seenProgram (onlyStillRead 1) (.idle oneOpenTicket) s :=
    Reachable.mono (fun _ _ _ hcond => of_decide_eq_true hcond) (reachable_of_run hs)
  exact ⟨s, hlog, (priority_history_iff oneOpenTicket_ok 1).1 emptyTrail s hreach⟩

/-- Two agents have read the priority when each writes another. -/
def twoPrioritiesSchedule : List (Move TicketCall) :=
  [.spawn (.update 1 priorityEditor 1 { priority := some .urgent }),
    .spawn (.update 1 priorityEditor 1 { priority := some .high }), .step 0, .step 1, .step 0, .step 1]

/-- The second event says the priority was the one that was read, not the one that was there. -/
theorem second_priority_event_broken : ¬ ∀ db : TicketDb, db.Ok → ∀ ticketId, PriorityTrail ticketId db →
      ∀ s, Reachable seenProgram (fun _ call _ => call.edits = true) (.idle db) s → PriorityTrail ticketId s.db := by
  intro hclaim
  have hrun : (run seenProgram (fun _ call _ => call.edits) twoPrioritiesSchedule (.idle oneOpenTicket)).map
      (fun s => (s.db.tickets.map Ticket.id, s.db.priorityLog 1)) =
        some ([1], [(.normal, .urgent), (.normal, .high)]) := by
    decide +kernel
  obtain ⟨s, hs, hdb⟩ := Option.map_eq_some_iff.mp hrun
  obtain ⟨hids, hlog⟩ := Prod.mk.inj hdb
  have hmem : (1 : Uuid) ∈ s.db.tickets.map Ticket.id := by
    rw [hids]
    exact List.mem_singleton_self _
  obtain ⟨t, ht, hid⟩ := List.mem_map.mp hmem
  have htrail := hclaim _ oneOpenTicket_ok 1 emptyTrail s (reachable_of_run hs) t ht hid
  have hchain := htrail.chain
  rw [hlog] at hchain
  simp at hchain

end WhatsappCrm
