/-
Purpose: The ticket operations with the row each request read in sight, and the status history in `ticket_events`, read
  in the order of the commits.
-/
import WhatsappCrm.Tickets.Invariants

namespace WhatsappCrm

open Interleaving

abbrev SeenStmt := Stmt × Option Ticket

abbrev SeenProg := Prog SeenStmt TicketDb

variable {α : Type}

def seeing (before : Option Ticket) (p : TicketProg α) : SeenProg α := p.retag fun tag => (tag, before)

@[simp] theorem seeing_retag (before : Option Ticket) (p : TicketProg α) : (seeing before p).retag Prod.fst = p :=
  (Prog.retag_retag _ _ _).trans (Prog.retag_id _)

def updateFrom (principal : SessionPrincipal) (ticketId : Uuid) (input : TicketUpdateInput) (before : Ticket) :
    TicketProg (Except ApiError Ticket) :=
  let change := changesIn before input
  let allowed : Except ApiError Unit := match change.status with
    | none => .ok ()
    | some status => assertTransitionAllowed principal ticketId before.status status
  match allowed with
  | .error e => pure (.error e)
  | .ok () =>
    if change = emptyChange then pure (.ok before)
    else write before change principal.userId

theorem update_eq (tenantId : Uuid) (principal : SessionPrincipal) (ticketId : Uuid) (input : TicketUpdateInput) :
    update tenantId principal ticketId input = (require tenantId principal ticketId).bind fun
      | .error e => .pure (.error e)
      | .ok before => updateFrom principal ticketId input before :=
  rfl

def assignFrom (tenantId : Uuid) (principal : SessionPrincipal) (input : TicketAssignInput) (before : Ticket) :
    TicketProg (Except ApiError Ticket) := do
  let assignment := assignmentAfter before input
  match ← assertHandoffAllowed tenantId principal before input assignment with
  | .error e => pure (.error e)
  | .ok () =>
    if input.reason = none ∧ ticketAssignRequiresReason before = true then
      pure (.error .ticketReasonRequired)
    else
      match ← assertAssigneesExist tenantId input with
      | .error e => pure (.error e)
      | .ok () =>
        if movesAnything before assignment = false then pure (.ok before)
        else writeAssignment before assignment input.reason principal.userId

theorem assign_eq (tenantId : Uuid) (principal : SessionPrincipal) (ticketId : Uuid) (input : TicketAssignInput) :
    assign tenantId principal ticketId input = (require tenantId principal ticketId).bind fun
      | .error e => .pure (.error e)
      | .ok before => assignFrom tenantId principal input before :=
  rfl

def applyAutomationFrom (change : TicketAutomationChange) (context : TicketAutomationContext) (before : Ticket) :
    TicketProg (Except ApiError TicketAutomationOutcome) :=
  match change with
  | .assignment assignedUserId assignedTeamId =>
    applyAutomationAssignment before { assignedUserId, assignedTeamId } context
  | .priority priority =>
    if priority = before.priority then pure (.ok .noOp)
    else applyAutomationField before { priority := some priority } context
  | .status status =>
    if status = before.status then pure (.ok .noOp)
    else if canAgentTransition before.status status = false then
      pure (.ok .transitionRefused)
    else applyAutomationField before { status := some status } context

theorem applyAutomation_eq (tenantId ticketId : Uuid) (change : TicketAutomationChange)
    (context : TicketAutomationContext) : applyAutomation tenantId ticketId change context =
      (Prog.read (.automationRead ticketId) fun db => db.findTicket tenantId ticketId).bind fun
        | none => .pure (.ok .ticketGone)
        | some before => applyAutomationFrom change context before :=
  rfl

def seenProgram : TicketCall → SeenProg TicketReply
  | .update tenantId principal ticketId input =>
    ((seeing none (require tenantId principal ticketId)).bind fun
      | .error e => .pure (.error e)
      | .ok before => seeing (some before) (updateFrom principal ticketId input before)).bind (.pure ∘ .ticket)
  | .assign tenantId principal ticketId input =>
    ((seeing none (require tenantId principal ticketId)).bind fun
      | .error e => .pure (.error e)
      | .ok before => seeing (some before) (assignFrom tenantId principal input before)).bind (.pure ∘ .ticket)
  | .applyAutomation tenantId ticketId change context =>
    ((seeing none (.read (.automationRead ticketId) fun db => db.findTicket tenantId ticketId)).bind fun
      | none => .pure (.ok .ticketGone)
      | some before => seeing (some before) (applyAutomationFrom change context before)).bind (.pure ∘ .automated)
  | call => seeing none (program call)

theorem seenProgram_retag (call : TicketCall) : (seenProgram call).retag Prod.fst = program call := by
  cases call with
  | update =>
    rw [seenProgram, Prog.retag_bind, Prog.retag_bind, seeing_retag, program, update_eq]
    congr 2
    funext required
    cases required with
    | error => rfl
    | ok => exact seeing_retag _ _
  | assign =>
    rw [seenProgram, Prog.retag_bind, Prog.retag_bind, seeing_retag, program, assign_eq]
    congr 2
    funext required
    cases required with
    | error => rfl
    | ok => exact seeing_retag _ _
  | applyAutomation =>
    rw [seenProgram, Prog.retag_bind, Prog.retag_bind, seeing_retag, program, applyAutomation_eq]
    congr 2
    funext found
    cases found with
    | none => rfl
    | some => exact seeing_retag _ _
  | _ => exact seeing_retag _ _

abbrev SeenSys := Sys SeenStmt TicketDb TicketCall TicketReply

abbrev SeenRun (db : TicketDb) (s : SeenSys) : Prop := Reachable seenProgram anyStep (.idle db) s

theorem ticketRun_iff : TicketRun db s ↔ ∃ w : SeenSys, SeenRun db w ∧ s = w.retag Prod.fst := by
  have hprog : program = fun call => (seenProgram call).retag Prod.fst :=
    funext fun call => (seenProgram_retag call).symm
  have hidle : (Sys.idle db : SeenSys).retag Prod.fst = (Sys.idle db : TicketSys) := rfl
  rw [TicketRun, hprog, ← hidle]
  constructor
  · exact Reachable.of_retag
  · rintro ⟨w, hreach, rfl⟩
    exact hreach.retag Prod.fst

theorem SeenRun.ok {db : TicketDb} (hdb : db.Ok) (hs : SeenRun db s) : s.db.Ok :=
  (TicketRun.ok hdb (ticketRun_iff.mpr ⟨s, hs, rfl⟩)).1

theorem follows_seeing {p : TicketProg α}
    (h : p.Follows I fun tag db rest db' => N (tag, before) db (seeing before rest) db') :
    (seeing before p).Follows I N := by
  induction p with
  | pure => trivial
  | atomic tag act next ih =>
    intro db hdb
    obtain ⟨hstep, hnext⟩ := h db hdb
    exact ⟨hstep, ih _ hnext⟩

open Table

/-- Where a list of changes leads from a status; `none` when a change does not start where the last one ended. -/
def replay (status : TicketStatus) : List (TicketStatus × TicketStatus) → Option TicketStatus
  | [] => some status
  | (source, target) :: changes => if source = status then replay target changes else none

theorem replay_append (status : TicketStatus) (changes later : List (TicketStatus × TicketStatus)) :
    replay status (changes ++ later) = (replay status changes).bind fun reached => replay reached later := by
  induction changes generalizing status with
  | nil => rfl
  | cons change changes ih =>
    obtain ⟨source, target⟩ := change
    simp only [List.cons_append, replay]
    split
    · exact ih target
    · rfl

@[simp] theorem replay_statusMove (source target : TicketStatus) :
    replay source (statusMove source target) = some target := by
  by_cases h : source = target
  · simp [statusMove, h, replay]
  · simp [statusMove, h, replay]

def TicketDb.statusLog (db : TicketDb) (ticketId : Uuid) : List (TicketStatus × TicketStatus) :=
  statusChanges ticketId db.ticketEvents

structure TicketDb.Replays (db : TicketDb) (ticketId : Uuid) : Prop where
  status : ∀ t ∈ db.tickets, t.id = ticketId → replay .open (db.statusLog ticketId) = some t.status
  known : (∀ t ∈ db.tickets, t.id ≠ ticketId) → db.statusLog ticketId = []

def PauseMisses (ticketId : Uuid) (db : TicketDb) (tag : Stmt) : Prop :=
  ∀ tenantId, tag = .botPause tenantId ticketId → ∀ t ∈ db.tickets, pauseWhere tenantId ticketId t = false

variable {ticketId : Uuid} {tag : Stmt}

theorem updateWhere_ids {tickets : List Ticket}
    (hid : ∀ t, p t = true → (f t).id = t.id) (hunknown : ∀ t ∈ updateWhere p f tickets, t.id ≠ ticketId) : ∀ t ∈ tickets, t.id ≠ ticketId := by
  intro t ht heq
  have hmem := mem_updateWhere_of_mem (p := p) (f := f) ht
  apply hunknown _ hmem
  cases hp : p t with
  | false => simpa using heq
  | true => simpa [hid t hp] using heq

theorem RowMove.of_unlogged (h : RowMove now tag t t')
    (htag : tag.logsStatus = false) : tag = .botPause t.tenantId t.id ∧ t.status = .open := by
  cases h with
  | pause _ hopen => exact ⟨rfl, hopen⟩
  | _ => cases htag

theorem Recorded.replays {db : TicketDb} {events : List TicketEvent} (h : Recorded tag db.tickets p f events)
    (hmove : ∀ t, p t = true → RowMove db.now tag t (f t)) (hmisses : PauseMisses ticketId db tag) (hlog : db.Replays ticketId) :
    TicketDb.Replays { db with
      tickets := updateWhere p f db.tickets
      ticketEvents := db.ticketEvents ++ events } ticketId where
  status t' ht' hid' := by
    obtain ⟨t, ht, hcase⟩ := mem_updateWhere ht'
    have hafter : t' = if p t then f t else t := by
      rcases hcase with ⟨hp, rfl⟩ | ⟨hp, rfl⟩ <;> simp [hp]
    have hid : t.id = ticketId := by
      rcases hcase with ⟨hp, rfl⟩ | ⟨_, rfl⟩
      · rw [← hid', (hmove t hp).id_eq]
      · exact hid'
    have hrow := h.row t ht
    rw [hid, ← hafter] at hrow
    simp only [TicketDb.statusLog, statusChanges_append, replay_append]
    rw [show replay .open (statusChanges ticketId db.ticketEvents) = some t.status from hlog.status t ht hid, hrow]
    cases htag : tag.logsStatus with
    | true => simp
    | false =>
      -- the bot's pause: it selected another row, so this one is the row it was
      have hmissed : p t = false := by
        by_contra hp
        obtain ⟨hpause, hopen⟩ := (hmove t (by simpa using hp)).of_unlogged htag
        have hmiss := hmisses t.tenantId (by rw [hpause, hid]) t ht
        simp [pauseWhere, hid, hopen] at hmiss
      simp [hafter, hmissed, replay]
  known hunknown := by
    have hbefore : ∀ t ∈ db.tickets, t.id ≠ ticketId :=
      updateWhere_ids (fun t hp => (hmove t hp).id_eq) hunknown
    have hold : statusChanges ticketId db.ticketEvents = [] := hlog.known hbefore
    simp [TicketDb.statusLog, statusChanges_append, hold, h.known ticketId hbefore]

theorem Effect.replays (h : Effect tag db db') (hmisses : PauseMisses ticketId db tag) (hlog : db.Replays ticketId) :
    db'.Replays ticketId := by
  cases h with
  | same => exact hlog
  | counted | ticked => exact ⟨hlog.status, hlog.known⟩
  | inserted tenantId target newId _ hindexed =>
    have hcreated : statusChanges ticketId [createdEvent tenantId target newId] = [] :=
      statusChanges_of_silent (by simp [createdEvent, TicketEventData.statusChange]) ticketId
    constructor
    · intro t ht hid
      simp only [TicketDb.statusLog, statusChanges_append, hcreated, List.append_nil]
      rcases mem_snoc.mp ht with hold | rfl
      · exact hlog.status t hold hid
      · have hfresh : ∀ t ∈ db.tickets, t.id ≠ ticketId := by
          intro t ht heq
          have hpair := (List.pairwise_append.mp hindexed.id).2.2 t ht _ (List.mem_singleton_self _)
          exact hpair ⟨by simp [Ticket.idEntry], by simp [Ticket.idEntry, heq, ← hid]⟩
        have hnone : statusChanges ticketId db.ticketEvents = [] := hlog.known hfresh
        simp [hnone, replay, newTicket]
    · intro hunknown
      have hold : statusChanges ticketId db.ticketEvents = [] :=
        hlog.known fun t ht => hunknown t (List.mem_append_left _ ht)
      simp [TicketDb.statusLog, statusChanges_append, hold, hcreated]
  | updated _ _ p f events hmove _ hrecorded => exact hrecorded.replays hmove hmisses hlog
  | appended _ _ events _ hsilent =>
    have hnone := statusChanges_of_silent hsilent ticketId
    constructor
    · intro t ht hid
      simpa [TicketDb.statusLog, TicketDb.appendEvents, statusChanges_append, hnone] using hlog.status t ht hid
    · intro hunknown
      simpa [TicketDb.statusLog, TicketDb.appendEvents, statusChanges_append, hnone] using hlog.known hunknown

def pausesMiss (ticketId : Uuid) (s : TicketSys) (_ : TicketCall) (tag : Stmt) : Prop :=
  PauseMisses ticketId s.db tag

/-- In every run whose pauses never find a ticket open, the logged status changes lead, in commit order, to its
    status. -/
theorem log_replays_status {db : TicketDb} (hdb : db.Ok) {ticketId : Uuid} (hlog : db.Replays ticketId)
    {s : TicketSys} (hs : Reachable program (pausesMiss ticketId) (.idle db) s) :
    ∀ t ∈ s.db.tickets, t.id = ticketId → replay .open (s.db.statusLog ticketId) = some t.status := by
  have hreplays : s.db.Replays ticketId := by
    induction hs with
    | refl => exact hlog
    | tail hreach hstep ih =>
      have hrun : TicketRun db _ := Reachable.mono (fun _ _ _ _ => trivial) hreach
      obtain ⟨hok, hfollows⟩ := TicketRun.ok hdb hrun
      cases hstep with
      | spawn => exact ih
      | exec _ i c tag act next hcall hcond =>
        exact (hfollows.exec_spec hok.indexed hcall).1.effect.replays hcond ih
  exact hreplays.status

theorem oneOpenTicket_replays (ticketId : Uuid) : oneOpenTicket.Replays ticketId where
  status t ht _ := by
    rw [List.mem_singleton.mp ht]
    rfl
  known _ := rfl

def resolvingSchedule : List (Move TicketCall) :=
  [.spawn (.update 1 { userId := 9, permissions := [.ticketReadAll, .ticketClose], teamIds := [] } 1
      { status := some .resolved }),
    .step 0, .step 0]

def resolvedTicket : Ticket :=
  { openTicket with status := .resolved, resolvedAt := some 0, resolvedByUserId := some 9 }

theorem log_replays_status_resolvedTicket :
    ∃ s : TicketSys, s.db.tickets = [resolvedTicket] ∧ replay .open (s.db.statusLog 1) = some .resolved := by
  have hrun : (run program (fun _ _ tag => tag.logsStatus) resolvingSchedule (.idle oneOpenTicket)).map
      (fun s => s.db.tickets) = some [resolvedTicket] := by
    decide
  obtain ⟨s, hs, htickets⟩ := Option.map_eq_some_iff.mp hrun
  have hreach : Reachable program (pausesMiss 1) (.idle oneOpenTicket) s := by
    refine Reachable.mono ?_ (reachable_of_run hs)
    intro _ _ tag hlogs _ hpause
    rw [hpause] at hlogs
    cases hlogs
  exact ⟨s, htickets, log_replays_status oneOpenTicket_ok (oneOpenTicket_replays 1) hreach resolvedTicket
    (by simp [htickets]) rfl⟩

theorem pause_leaves_no_trace : ¬ ∀ db : TicketDb, db.Ok → ∀ ticketId, db.Replays ticketId → ∀ s, TicketRun db s →
      ∀ t ∈ s.db.tickets, t.id = ticketId → replay .open (s.db.statusLog ticketId) = some t.status := by
  intro hclaim
  have hrun : (run program (fun _ _ _ => true) [.spawn (.pauseSla 1 1), .step 0] (.idle oneOpenTicket)).map
      (fun s => (s.db.tickets, s.db.ticketEvents)) = some ([{ openTicket with status := .pending }], []) := by
    decide
  obtain ⟨s, hreach, hdb⟩ := ends_of_run_any hrun
  obtain ⟨htickets, hevents⟩ := Prod.mk.inj hdb
  have hreplay := hclaim oneOpenTicket oneOpenTicket_ok 1 (oneOpenTicket_replays 1) s hreach
    { openTicket with status := .pending } (by rw [htickets]; exact List.mem_singleton_self _) rfl
  simp [TicketDb.statusLog, hevents, statusChanges, replay] at hreplay

end WhatsappCrm
