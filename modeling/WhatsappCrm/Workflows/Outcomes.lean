/-
Purpose: What the outcome of an action says: "`no_op` is not `applied`".
-/
import WhatsappCrm.Workflows.Effects

namespace WhatsappCrm.Workflows

open Interleaving Table

def HeldBy (t : Ticket) : TicketAutomationChange → Prop
  | .assignment assignedUserId assignedTeamId => movesAnything t ⟨assignedUserId, assignedTeamId⟩ = false
  | .priority priority => t.priority = priority
  | .status status => t.status = status

def HoldsChange (change : TicketAutomationChange) (context : ActionContext) (db : WorkflowDb) : Prop :=
  ∃ t, db.findTicket context.tenantId context.ticketId = some t ∧ HeldBy t change

/-- The ticket of the run has what the action asks for. A notification asks for nothing a ticket has. -/
def Holds (action : WorkflowAction) (context : ActionContext) (db : WorkflowDb) : Prop :=
  match action with
  | .setStatus status => HoldsChange (.status status) context db
  | .setPriority priority => HoldsChange (.priority priority) context db
  | .reassign target => HoldsChange (reassignment target) context db
  | .addTicketTag tagId => ⟨context.tenantId, context.ticketId, tagId⟩ ∈ db.ticketTags
  | .notify .. => False

def OfRun (context : ActionContext) (t : Ticket) : Prop := t.tenantId = context.tenantId ∧ t.id = context.ticketId

structure WroteChange (change : TicketAutomationChange) (context : ActionContext) (db db' : WorkflowDb) : Prop where
  moved : ∀ status, change = .status status →
    ∃ t, db.findTicket context.tenantId context.ticketId = some t ∧ t.status ≠ status
  holds : HoldsChange change context db'
  logged : ∃ row : TicketEventRow, db'.ticketEvents = db.ticketEvents ++ [row] ∧ row.event.ticketId = context.ticketId

def Wrote (action : WorkflowAction) (context : ActionContext) (db db' : WorkflowDb) : Prop :=
  match action with
  | .setStatus status => WroteChange (.status status) context db db'
  | .setPriority priority => WroteChange (.priority priority) context db db'
  | .reassign target => WroteChange (reassignment target) context db db'
  | .addTicketTag tagId =>
    ⟨context.tenantId, context.ticketId, tagId⟩ ∉ db.ticketTags ∧
      ⟨context.tenantId, context.ticketId, tagId⟩ ∈ db'.ticketTags
  | .notify .. => db.notifications.length < db'.notifications.length

def Idle (trace : Trace WorkflowDb) : Prop := ∀ e ∈ trace, e.2 = e.1.sent

def Outrun (context : ActionContext) (trace : Trace WorkflowDb) : Prop :=
  ∃ past read write before, trace = past ++ [read, write] ∧
    read.1.findTicket context.tenantId context.ticketId = some before ∧
      ∀ t ∈ write.1.tickets, OfRun context t → t.status ≠ before.status

def comparesStatus : TicketAutomationChange → Bool
  | .assignment .. => false
  | .priority _ | .status _ => true

/-- What the answer of the ticket service says of its statements. -/
structure HonestResult (change : TicketAutomationChange) (context : ActionContext) (trace : Trace WorkflowDb)
    (result : TicketAutomationResult) : Prop where
  noOp : result.outcome = .noOp → Idle trace ∧
    ((∃ e ∈ trace.getLast?, HoldsChange change context e.1) ∨ comparesStatus change = true ∧ Outrun context trace)
  applied : result.outcome = .applied → ∃ past e, trace = past ++ [e] ∧ Idle past ∧ WroteChange change context e.1 e.2 ∧
    ∃ e₀ ∈ trace, ¬ HoldsChange change context e₀.1
  refused : result.outcome = .transitionRefused → ∃ status, change = .status status ∧
    ∃ e ∈ trace.getLast?, ∃ t, e.1.findTicket context.tenantId context.ticketId = some t ∧
      canAgentTransition t.status status = false

def WorkflowAction.comparesStatus : WorkflowAction → Bool
  | .setStatus _ | .setPriority _ => true
  | _ => false

def WorkflowAction.notifies : WorkflowAction → Bool
  | .notify .. => true
  | _ => false

structure HonestOutcome (action : WorkflowAction) (context : ActionContext) (trace : Trace WorkflowDb)
    (outcome : ActionOutcome) : Prop where
  noOp : outcome.outcome = .noOp → Idle trace ∧
    (action.notifies = true ∨ (∃ e ∈ trace.getLast?, Holds action context e.1) ∨
      action.comparesStatus = true ∧ Outrun context trace)
  applied : outcome.outcome = .applied → ∃ past e, trace = past ++ [e] ∧ Idle past ∧ Wrote action context e.1 e.2 ∧
    ∃ e₀ ∈ trace, ¬ Holds action context e₀.1
  refused : outcome.reason = some .transitionRefused → ∃ status, action = .setStatus status ∧
    ∃ e ∈ trace.getLast?, ∃ t, e.1.findTicket context.tenantId context.ticketId = some t ∧
      canAgentTransition t.status status = false

variable {change : TicketAutomationChange} {before : Ticket}

section Statements

variable {context : ActionContext} {db : WorkflowDb}

theorem updateTickets_ok (h : db.updateTickets p f = .ok (count, db')) : count = db.tickets.countP p ∧
      db' = { db with tickets := updateWhere p f db.tickets } ∧ Indexed (updateWhere p f db.tickets) := by
  simp only [WorkflowDb.updateTickets] at h
  split at h
  · rename_i hindexed
    cases h
    exact ⟨rfl, rfl, hindexed⟩
  · cases h

theorem insertEvent_tickets {id : Uuid} (h : db.insertEvent event = .ok (id, db')) : db'.tickets = db.tickets := by
  unfold WorkflowDb.insertEvent at h
  split at h
  · cases h
  · split at h
    · cases h
    · cases h
      rfl

variable {t : Ticket}

theorem findTicket_ofRun (h : db.findTicket context.tenantId context.ticketId = some t) : OfRun context t := by
  have hfound := (of_find? h).2
  exact ⟨hfound.2, hfound.1⟩

theorem findTicket_eq (hdb : UniqueBy Ticket.idEntry db.tickets) (ht : t ∈ db.tickets)
    (hrun : OfRun context t) : db.findTicket context.tenantId context.ticketId = some t := by
  refine hdb.find?_eq_some (k := context.ticketId) ht (decide_eq_true ⟨hrun.2, hrun.1⟩) fun t' _ hp => ?_
  exact congrArg some (of_decide_eq_true hp).1

theorem uniqueIds_before (hid : ∀ t, (f t).id = t.id)
    (h : Indexed (updateWhere p f tickets)) : UniqueBy Ticket.idEntry tickets := by
  apply UniqueBy.congr h.id
  have hkey : ∀ t, Ticket.idEntry (f t) = Ticket.idEntry t := fun t => by rw [Ticket.idEntry, Ticket.idEntry, hid]
  exact (map_updateWhere hkey tickets).symm

theorem HeldBy.of_found (hunheld : ¬ HeldBy t change)
    (hread : db.findTicket context.tenantId context.ticketId = some t) : ¬ HoldsChange change context db := by
  rintro ⟨t', hfound, hheld⟩
  rw [hread] at hfound
  cases hfound
  exact hunheld hheld

theorem writeAutomationField_cases {change : TicketChange}
    (hevents : changeEvents before change none (.workflow context.automation) ≠ [])
    (h : writeAutomationField before change context db = .ok (written, db')) :
    (written = none ∧ db' = db ∧ ∀ t ∈ db.tickets, unchangedStatus before t = false) ∨
      (∃ id, written = some id) ∧ (∃ t ∈ db.tickets, unchangedStatus before t = true) ∧
        db'.tickets = updateWhere (unchangedStatus before) (toUpdateData change none db.now) db.tickets ∧
          Indexed db'.tickets ∧ ∃ row : TicketEventRow, db'.ticketEvents = db.ticketEvents ++ [row] ∧
            row.event ∈ changeEvents before change none (.workflow context.automation) := by
  unfold writeAutomationField at h
  split at h
  · cases h
  · rename_i db₁ hupdate
    obtain ⟨hcount, hdb, _⟩ := updateTickets_ok hupdate
    cases h
    left
    refine ⟨rfl, ?_, ?_⟩
    · rw [hdb, updateWhere_of_countP_eq_zero hcount.symm]
    · intro t ht
      exact Bool.eq_false_iff.mpr (List.countP_eq_zero.mp hcount.symm t ht)
  · rename_i count db₁ hne hupdate
    obtain ⟨hcount, hdb, hindexed⟩ := updateTickets_ok hupdate
    split at h
    · rename_i hnone
      exact absurd hnone hevents
    · rename_i event rest heq
      split at h
      · cases h
      · rename_i id db₂ hinsert
        cases h
        right
        have htickets := insertEvent_tickets hinsert
        have hlog := (insertEvent_spec hinsert).2
        rw [hdb] at htickets hlog
        refine ⟨⟨id, rfl⟩, ?_, htickets, ?_, ⟨id, event⟩, hlog, ?_⟩
        · apply List.countP_pos_iff.mp
          rw [← hcount]
          exact Nat.pos_of_ne_zero fun hzero => hne (by rw [hzero])
        · rw [htickets]
          exact hindexed
        · rw [heq]
          exact List.mem_cons_self

theorem changeEvents_ticketId {change : TicketChange}
    (h : event ∈ changeEvents before change actorUserId cause) : event.ticketId = before.id := by
  simp only [changeEvents, List.mem_append, Option.mem_toList, Option.map_eq_some_iff] at h
  rcases h with ⟨status, _, rfl⟩ | ⟨priority, _, rfl⟩ <;> rfl

theorem writeAutomationAssignment_cases
    (h : writeAutomationAssignment before assignment context db = .ok (written, db')) :
    written = none ∨ (∃ id, written = some id) ∧ (∃ t ∈ db.tickets, sameTicket before t = true) ∧
      db'.tickets = updateWhere (sameTicket before) (setAssignment assignment) db.tickets ∧ Indexed db'.tickets ∧
        ∃ row : TicketEventRow, db'.ticketEvents = db.ticketEvents ++ [row] ∧ row.event.ticketId = before.id := by
  unfold writeAutomationAssignment at h
  split at h
  · cases h
  · cases h
    exact .inl rfl
  · rename_i count db₁ hne hupdate
    obtain ⟨hcount, hdb, hindexed⟩ := updateTickets_ok hupdate
    split at h
    · cases h
    · rename_i id db₂ hinsert
      cases h
      right
      have htickets := insertEvent_tickets hinsert
      have hlog := (insertEvent_spec hinsert).2
      rw [hdb] at htickets hlog
      refine ⟨⟨id, rfl⟩, ?_, htickets, ?_, _, hlog, rfl⟩
      · apply List.countP_pos_iff.mp
        rw [← hcount]
        exact Nat.pos_of_ne_zero fun hzero => hne (by rw [hzero])
      · rw [htickets]
        exact hindexed

theorem insertNotifications_count (rows : List WorkflowNotification) (db : WorkflowDb) :
    (insertNotifications rows db).2.notifications.length = db.notifications.length + (insertNotifications rows db).1 ∧
      ((insertNotifications rows db).1 = 0 → (insertNotifications rows db).2 = db) := by
  obtain ⟨added, hadded⟩ := insertNotifications_adds rows db
  rw [hadded]
  refine ⟨List.length_append, fun hnone => ?_⟩
  rw [List.length_eq_zero_iff.mp hnone, List.append_nil]

end Statements

theorem movesAnything_setAssignment (assignment : TicketAssignment) (t : Ticket) :
    movesAnything (setAssignment assignment t) assignment = false := by
  cases hsomebody : hasAssignee assignment <;>
    simp [movesAnything, setAssignment, routingStateFor, hsomebody, TicketRouting.deferredReason,
      TicketRouting.deferredSince]

section Programs

variable {context : ActionContext} {trace : Trace WorkflowDb}

theorem Idle.nil : Idle [] := nofun

theorem Idle.concat (h : Idle trace) (db : WorkflowDb) : Idle (trace ++ [(db, db.sent)]) := by
  intro e he
  rcases mem_snoc.mp he with hold | rfl
  · exact h e hold
  · rfl

theorem transaction_tells {α : Type} {body : WorkflowDb → Except WorkflowError (α × WorkflowDb)}
    {Q : Trace WorkflowDb → α → Prop} (h : ∀ db a db', body db.sent = .ok (a, db') → Q (trace ++ [(db, db')]) a) :
    Throwing.Tells Q trace (transaction tag body) := by
  apply Throwing.Tells.statement
  intro db a ha
  rcases db.transact_cases body with ⟨e, heq⟩ | ⟨a', db', hbody, heq⟩
  · rw [heq] at ha
    cases ha
  · rw [heq] at ha ⊢
    cases ha
    exact h db _ db' hbody

theorem query_tells {α : Type} {f : WorkflowDb → α} {Q : Trace WorkflowDb → α → Prop}
    (h : ∀ db, Q (trace ++ [(db, db.sent)]) (f db.sent)) : Throwing.Tells Q trace (query tag f) := by
  apply transaction_tells
  intro db a db' hbody
  cases hbody
  exact h db

variable {read : WorkflowDb × WorkflowDb}

theorem HonestResult.held (hidle : Idle (trace ++ [read])) (hholds : HoldsChange change context read.1) :
    HonestResult change context (trace ++ [read]) (noOccurrence .noOp) where
  noOp _ := ⟨hidle, .inl ⟨read, by simp, hholds⟩⟩
  applied := nofun
  refused := nofun

theorem HonestResult.wrote {write : WorkflowDb × WorkflowDb} (hidle : Idle (trace ++ [read]))
    (hwrote : WroteChange change context write.1 write.2) (hunheld : ¬ HoldsChange change context read.1) :
    HonestResult change context (trace ++ [read] ++ [write]) ⟨.applied, occurrence⟩ where
  noOp := nofun
  applied _ := ⟨trace ++ [read], write, rfl, hidle, hwrote, read, by simp, hunheld⟩
  refused := nofun

theorem HonestResult.gone : HonestResult change context trace (noOccurrence .ticketGone) where
  noOp := nofun
  applied := nofun
  refused := nofun

theorem applyAutomationField_tells {raises : Option WorkflowTriggerType} (hidle : Idle (trace ++ [read]))
    (hread : read.1.findTicket context.tenantId context.ticketId = some before)
    (hcompares : comparesStatus change = true)
    (hevents : changeEvents before fields none (.workflow context.automation) ≠ [])
    (hset : ∀ now t, HeldBy (toUpdateData fields none now t) change) (hunheld : ¬ HeldBy before change) :
    Throwing.Tells (HonestResult change context) (trace ++ [read])
      (applyAutomationField before fields context raises) := by
  have hbefore := findTicket_ofRun hread
  have hselected : ∀ t, unchangedStatus before t = true → OfRun context t ∧ t.status = before.status := by
    intro t ht
    simp only [unchangedStatus, decide_eq_true_eq] at ht
    exact ⟨⟨ht.1.trans hbefore.1, ht.2.1.trans hbefore.2⟩, ht.2.2⟩
  -- what the transaction answers, with the state it was executed in and the one it left
  apply Throwing.Tells.bind (Q := fun whole written => ∃ db db', whole = trace ++ [read] ++ [(db, db')] ∧
    writeAutomationField before fields context db.sent = .ok (written, db'))
  · apply transaction_tells
    intro db written db' hbody
    exact ⟨db, db', rfl, hbody⟩
  · rintro whole written ⟨db, db', rfl, hbody⟩
    rcases writeAutomationField_cases hevents hbody with
      ⟨rfl, rfl, hlost⟩ | ⟨⟨eventId, rfl⟩, ⟨t, ht, hp⟩, htickets, hindexed, row, hlog, hrow⟩
    · apply Throwing.Tells.of_pure
      constructor
      · intro _
        refine ⟨hidle.concat db, .inr ⟨hcompares, trace, read, (db, db.sent), before, by simp, hread, ?_⟩⟩
        intro t ht hrun hstatus
        have hmissed := hlost t ht
        simp [unchangedStatus, hrun.1, hrun.2, hbefore.1, hbefore.2, hstatus] at hmissed
      · exact nofun
      · exact nofun
    · obtain ⟨hrun, hstatus⟩ := hselected t hp
      have hwrote : WroteChange change context db db' := by
        constructor
        · rintro status rfl
          have hkeep : ∀ t, (toUpdateData fields none db.sent.now t).id = t.id := fun _ => rfl
          rw [htickets] at hindexed
          refine ⟨t, findTicket_eq (uniqueIds_before hkeep hindexed) ht hrun, ?_⟩
          rw [hstatus]
          exact hunheld
        · have hmem := mem_updateWhere_of_mem (p := unchangedStatus before) (f := toUpdateData fields none db.sent.now) ht
          rw [if_pos hp, ← htickets] at hmem
          exact ⟨_, findTicket_eq hindexed.id hmem hrun, hset _ _⟩
        · exact ⟨row, hlog, (changeEvents_ticketId hrow).trans hbefore.2⟩
      apply Throwing.Tells.of_pure
      exact .wrote hidle hwrote (HeldBy.of_found hunheld hread)

theorem applyAutomationAssignment_tells {assignedTeamId : Option Uuid} (hidle : Idle (trace ++ [read]))
    (hread : read.1.findTicket context.tenantId context.ticketId = some before) :
    Throwing.Tells (HonestResult (.assignment assignedUserId assignedTeamId) context) (trace ++ [read])
      (applyAutomationAssignment before ⟨assignedUserId, assignedTeamId⟩ context) := by
  have hbefore := findTicket_ofRun hread
  unfold applyAutomationAssignment
  split
  · rename_i hheld
    apply Throwing.Tells.of_pure
    exact .held hidle ⟨before, hread, by simpa [HeldBy] using hheld⟩
  · rename_i hunheld
    apply Throwing.Tells.bind (Q := fun whole written => ∃ db db', whole = trace ++ [read] ++ [(db, db')] ∧
      writeAutomationAssignment before ⟨assignedUserId, assignedTeamId⟩ context db.sent = .ok (written, db'))
    · apply transaction_tells
      intro db written db' hbody
      exact ⟨db, db', rfl, hbody⟩
    · rintro whole written ⟨db, db', rfl, hbody⟩
      rcases writeAutomationAssignment_cases hbody with
        rfl | ⟨⟨eventId, rfl⟩, ⟨t, ht, hp⟩, htickets, hindexed, row, hlog, hrow⟩
      · exact Throwing.Tells.of_pure .gone
      · have hrun : OfRun context t := by
          simp only [sameTicket, decide_eq_true_eq] at hp
          exact ⟨hp.1.trans hbefore.1, hp.2.trans hbefore.2⟩
        have hwrote : WroteChange (.assignment assignedUserId assignedTeamId) context db db' := by
          constructor
          · exact nofun
          · have hmem := mem_updateWhere_of_mem (p := sameTicket before)
              (f := setAssignment ⟨assignedUserId, assignedTeamId⟩) ht
            rw [if_pos hp, ← htickets] at hmem
            exact ⟨_, findTicket_eq hindexed.id hmem hrun, movesAnything_setAssignment _ _⟩
          · exact ⟨row, hlog, hrow.trans hbefore.2⟩
        apply Throwing.Tells.of_pure
        apply HonestResult.wrote hidle hwrote
        apply HeldBy.of_found _ hread
        intro hheld
        rw [HeldBy] at hheld
        exact hunheld (by rw [hheld]; rfl)

theorem applyAutomation_tells (change : TicketAutomationChange) (hidle : Idle trace) :
    Throwing.Tells (HonestResult change context) trace (applyAutomation change context) := by
  apply Throwing.Tells.bind (Q := fun whole found => ∃ db, whole = trace ++ [(db, db.sent)] ∧
    found = db.findTicket context.tenantId context.ticketId)
  · apply query_tells
    intro db
    exact ⟨db, rfl, rfl⟩
  · rintro whole found ⟨db, rfl, rfl⟩
    have hidle := hidle.concat db
    cases hread : db.findTicket context.tenantId context.ticketId with
    | none => exact Throwing.Tells.of_pure .gone
    | some before =>
      cases change with
      | assignment => exact applyAutomationAssignment_tells hidle hread
      | priority priority =>
        dsimp only
        split
        · rename_i hheld
          apply Throwing.Tells.of_pure
          exact .held hidle ⟨before, hread, hheld.symm⟩
        · rename_i hmoved
          apply applyAutomationField_tells hidle hread rfl
          · simp [changeEvents]
          · intro now t
            rfl
          · exact fun heq => hmoved heq.symm
      | status status =>
        dsimp only
        split
        · rename_i hheld
          apply Throwing.Tells.of_pure
          exact .held hidle ⟨before, hread, hheld.symm⟩
        · rename_i hmoved
          split
          · rename_i hrefused
            apply Throwing.Tells.of_pure
            exact ⟨nofun, nofun, fun _ => ⟨status, rfl, (db, db.sent), by simp, before, hread, by simpa using hrefused⟩⟩
          · apply applyAutomationField_tells hidle hread rfl
            · simp [changeEvents]
            · intro now t
              rfl
            · exact fun heq => hmoved heq.symm

theorem HonestOutcome.failed {occurrence : Option RaisedOccurrence} (hreason : reason ≠ .transitionRefused) :
    HonestOutcome action context trace ⟨.failed, some reason, occurrence⟩ where
  noOp := nofun
  applied := nofun
  refused h := absurd (Option.some.inj h) hreason

theorem HonestOutcome.of_result (h : HonestResult change context trace result)
    (hholds : ∀ db, HoldsChange change context db ↔ Holds action context db)
    (hcompares : comparesStatus change = true → action.comparesStatus = true)
    (hwrote : ∀ db db', WroteChange change context db db' → Wrote action context db db')
    (hstatus : ∀ status, change = .status status → action = .setStatus status) :
    HonestOutcome action context trace (fromTicketOutcome result) := by
  obtain ⟨outcome, occurrence⟩ := result
  cases outcome with
  | applied =>
    constructor
    · exact nofun
    · intro _
      obtain ⟨past, e, htrace, hidle, h, e₀, hmem, hunheld⟩ := h.applied rfl
      exact ⟨past, e, htrace, hidle, hwrote _ _ h, e₀, hmem, fun hheld => hunheld ((hholds _).mpr hheld)⟩
    · exact nofun
  | noOp =>
    constructor
    · intro _
      obtain ⟨hidle, ⟨e, hlast, h⟩ | ⟨hchange, houtrun⟩⟩ := h.noOp rfl
      · exact ⟨hidle, .inr (.inl ⟨e, hlast, (hholds _).mp h⟩)⟩
      · exact ⟨hidle, .inr (.inr ⟨hcompares hchange, houtrun⟩)⟩
    · exact nofun
    · exact nofun
  | transitionRefused =>
    constructor
    · exact nofun
    · exact nofun
    · intro _
      obtain ⟨status, hchange, hread⟩ := h.refused rfl
      exact ⟨status, hstatus status hchange, hread⟩
  | ticketGone => exact .failed nofun

theorem reassign_tells (target : WorkflowAssignee) :
    Throwing.Tells (HonestOutcome (.reassign target) context) [] (reassign target context) := by
  have hrest : ∀ (whole : Trace WorkflowDb), Idle whole →
      Throwing.Tells (HonestOutcome (.reassign target) context) whole (do
        let result ← applyAutomation (reassignment target) context
        pure (fromTicketOutcome result)) := by
    intro whole hidle
    apply Throwing.Tells.bind (applyAutomation_tells (reassignment target) hidle)
    intro whole result hresult
    apply Throwing.Tells.of_pure
    have hcompares : comparesStatus (reassignment target) = true → WorkflowAction.comparesStatus (.reassign target) = true := by
      cases target <;> exact nofun
    have hholds : ∀ db, HoldsChange (reassignment target) context db ↔ Holds (.reassign target) context db := fun _ => Iff.rfl
    apply HonestOutcome.of_result hresult hholds hcompares (fun _ _ h => h)
    intro status hchange
    cases target <;> cases hchange
  cases target with
  | team | user =>
    apply Throwing.Tells.bind (Q := fun whole _ => Idle whole)
    · apply query_tells
      intro db
      exact Idle.nil.concat db
    · intro whole found hidle
      split
      · apply Throwing.Tells.of_pure
        exact .failed nofun
      · exact hrest whole hidle

theorem addTicketTag_tells (tagId : Uuid) :
    Throwing.Tells (HonestOutcome (.addTicketTag tagId) context) [] (addTicketTag tagId context) := by
  apply Throwing.Tells.rescue
  · apply Throwing.Tells.bind (Q := fun whole count => ∃ db db', whole = [(db, db')] ∧
      insertTicketTag ⟨context.tenantId, context.ticketId, tagId⟩ db.sent = .ok (count, db'))
    · apply transaction_tells
      intro db count db' hbody
      exact ⟨db, db', rfl, hbody⟩
    · rintro whole count ⟨db, db', rfl, hbody⟩
      apply Throwing.Tells.of_pure
      unfold insertTicketTag at hbody
      split at hbody
      · rename_i hcarried
        cases hbody
        constructor
        · intro _
          exact ⟨Idle.nil.concat db, .inr (.inl ⟨(db, db.sent), rfl, List.contains_iff_mem.mp hcarried⟩)⟩
        · exact nofun
        · exact nofun
      · rename_i hmissing
        split at hbody
        · cases hbody
          constructor
          · exact nofun
          · intro _
            have hnot : (⟨context.tenantId, context.ticketId, tagId⟩ : TicketTag) ∉ db.ticketTags :=
              fun hmem => hmissing (List.contains_iff_mem.mpr hmem)
            have hadded := List.mem_append_right db.ticketTags
              (List.mem_singleton_self (⟨context.tenantId, context.ticketId, tagId⟩ : TicketTag))
            exact ⟨[], (db, _), rfl, Idle.nil, ⟨hnot, hadded⟩, (db, _), List.mem_singleton_self _, hnot⟩
          · exact nofun
        · cases hbody
  · intro whole e
    split
    · apply Throwing.Tells.of_pure
      exact .failed nofun
    · exact Throwing.Tells.of_throw e

theorem resolveRecipients_tells (audience : WorkflowNotifyAudience) (userId teamId : Option Uuid) :
    Throwing.Tells (fun whole _ => Idle whole) [] (resolveRecipients audience userId teamId context) := by
  cases audience with
  | user =>
    cases userId with
    | none => exact Throwing.Tells.of_pure Idle.nil
    | some => exact query_tells fun db => Idle.nil.concat db
  | team =>
    cases teamId with
    | none => exact Throwing.Tells.of_pure Idle.nil
    | some => exact query_tells fun db => Idle.nil.concat db
  | supervisors =>
    apply Throwing.Tells.bind (Q := fun whole _ => Idle whole) (query_tells fun db => Idle.nil.concat db)
    intro whole found hidle
    cases found with
    | none => exact Throwing.Tells.of_pure hidle
    | some ticket =>
      apply Throwing.Tells.bind (Q := fun whole _ => Idle whole) (query_tells fun db => hidle.concat db)
      intro whole candidates hidle
      apply Throwing.Tells.bind (Q := fun whole _ => Idle whole)
      · cases ticket.assignedUserId with
        | none => exact Throwing.Tells.of_pure hidle
        | some => exact query_tells fun db => hidle.concat db
      · intro whole teamIds hidle
        exact Throwing.Tells.of_pure hidle

theorem notify_tells (audience : WorkflowNotifyAudience) (userId teamId : Option Uuid) (message : Option String) :
    Throwing.Tells (HonestOutcome (.notify audience userId teamId message) context) []
      (notify audience userId teamId message context) := by
  apply Throwing.Tells.bind (resolveRecipients_tells audience userId teamId)
  intro whole recipientUserIds hidle
  split
  · apply Throwing.Tells.of_pure
    exact ⟨fun _ => ⟨hidle, .inl rfl⟩, nofun, nofun⟩
  · apply Throwing.Tells.bind (Q := fun after count => ∃ rows db, after = whole ++ [(db, (insertNotifications rows db.sent).2)] ∧
      count = (insertNotifications rows db.sent).1)
    · apply transaction_tells
      intro db count db' hbody
      have hdb := Except.ok.inj hbody
      exact ⟨_, db, by rw [hdb], by rw [hdb]⟩
    · rintro after count ⟨rows, db, rfl, rfl⟩
      apply Throwing.Tells.of_pure
      obtain ⟨hlength, hsame⟩ := insertNotifications_count rows db.sent
      unfold insertOutcome
      split
      · rename_i hnone
        rw [hsame hnone]
        exact ⟨fun _ => ⟨hidle.concat db, .inl rfl⟩, nofun, nofun⟩
      · constructor
        · exact nofun
        · intro _
          refine ⟨whole, (db, (insertNotifications rows db.sent).2), rfl, hidle, ?_, _, List.mem_append_right _
            (List.mem_singleton_self _), fun hheld => hheld⟩
          show db.sent.notifications.length < (insertNotifications rows db.sent).2.notifications.length
          omega
        · exact nofun

theorem execute_honest (action : WorkflowAction) :
    Throwing.Tells (HonestOutcome action context) [] (execute action context) := by
  apply Throwing.Tells.rescue
  · cases action with
    | addTicketTag tagId => exact addTicketTag_tells tagId
    | reassign target => exact reassign_tells target
    | notify audience userId teamId message => exact notify_tells audience userId teamId message
    | setStatus status =>
      apply Throwing.Tells.bind (applyAutomation_tells (.status status) Idle.nil)
      intro whole result hresult
      apply Throwing.Tells.of_pure
      exact .of_result hresult (fun _ => Iff.rfl) (fun _ => rfl) (fun _ _ h => h) (fun status hchange => by cases hchange; rfl)
    | setPriority priority =>
      apply Throwing.Tells.bind (applyAutomation_tells (.priority priority) Idle.nil)
      intro whole result hresult
      apply Throwing.Tells.of_pure
      exact .of_result hresult (fun _ => Iff.rfl) (fun _ => rfl) (fun _ _ h => h) nofun
  · intro whole e
    apply Throwing.Tells.of_pure
    exact .failed nofun

end Programs

/-- Actions being executed, and what happens beside the engine. -/
inductive ActionCall where
  | execute (action : WorkflowAction) (context : ActionContext)
  | event (event : WorkflowEvent)
deriving DecidableEq

def actionBody : ActionCall → WorkflowM (Option ActionOutcome)
  | .execute action context => do
    let outcome ← execute action context
    pure (some outcome)
  | .event event => do
    transaction event.stmt event.apply
    pure none

def actionProgram (call : ActionCall) : Prog WorkflowStmt WorkflowDb (Except WorkflowError (Option ActionOutcome)) :=
  (actionBody call).run

abbrev ActionSys := Sys WorkflowStmt WorkflowDb ActionCall (Except WorkflowError (Option ActionOutcome))

abbrev ActionsRun (db : WorkflowDb) (s : ActionSys) : Prop := Reachable actionProgram anyStep (.idle db) s

def ToldBy (call : ActionCall) (trace : Trace WorkflowDb) (answer : Except WorkflowError (Option ActionOutcome)) : Prop :=
  match call with
  | .execute action context => ∀ outcome, answer = .ok (some outcome) → HonestOutcome action context trace outcome
  | .event _ => True

theorem actionProgram_told (call : ActionCall) : (actionProgram call).Tells (ToldBy call) [] := by
  cases call with
  | execute action context =>
    have htells : Throwing.Tells (fun whole answer => ∀ outcome, answer = some outcome →
        HonestOutcome action context whole outcome) [] (actionBody (.execute action context)) := by
      apply Throwing.Tells.bind (execute_honest action)
      intro whole outcome houtcome
      apply Throwing.Tells.of_pure
      rintro _ ⟨rfl⟩
      exact houtcome
    apply Prog.Tells.mono htells
    intro whole answer h outcome hanswer
    exact h (some outcome) hanswer outcome rfl
  | event => exact (Prog.Tells.extends_trace _ _).mono fun _ _ _ => trivial

def secondAction : ActionContext := { tenantId := 1, ticketId := 5, workflowId := 7, workflowRunId := 20, actionIndex := 1 }

def movedSchedule : List (Move ActionCall) :=
  [.spawn (.execute (.setStatus .resolved) secondAction), .step 0,
    .spawn (.event (.writeTickets [{ quietTicket with status := .pending }] [])), .step 1]

end WhatsappCrm.Workflows
