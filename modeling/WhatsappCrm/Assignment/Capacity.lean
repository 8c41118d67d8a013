/-
Purpose: Routing jobs worked off one after another (`routeTicket` of `assignment/rule-engine.service.ts`), whatever
  happens to agents, caps and tickets in between.
-/
import WhatsappCrm.Assignment.Rotation
import WhatsappCrm.Tickets.System

namespace WhatsappCrm.Assignment

open Interleaving Table

structure RuleMatch where
  ruleId : Uuid
  name : String
  target : RoutingTarget

/-- A routing job. Whether a rule matched is what other tables say; the engine asks rotation for the tenant pool, which is
    no team. -/
structure RoutingJob where
  trigger : TicketRoutingTrigger
  rule : Option RuleMatch
  teamId : Option Uuid := none

def onTickets (p : TicketProg (Except ApiError TicketRoutingOutcome)) (db : RotationDb) :
    Except ApiError TicketRoutingOutcome × RotationDb :=
  let r := p.alone db.base
  (r.1, { db with base := r.2 })

/-- The engine's `fallBack`: rotation decides, and moves its cursor, before the engine writes. -/
def fallBackJob (teamId : Option Uuid) (tenantId : Uuid) (ticket : Ticket) (db : RotationDb) :
    Except ApiError TicketRoutingOutcome × RotationDb :=
  let r := resolveFallbackAssignment tenantId teamId db
  onTickets (fallBack tenantId ticket r.1) r.2

def routeJob (job : RoutingJob) (db : RotationDb) : Except ApiError TicketRoutingOutcome × RotationDb :=
  match db.base.findTicket job.trigger.tenantId job.trigger.ticketId with
  | none => (.error (.ticketNotVisible job.trigger.ticketId), db)
  | some ticket =>
    if ticket.status.isActive = false then (.ok .skippedNotActive, db)
    else if ticket.assignedUserId ≠ none ∨ ticket.assignedTeamId ≠ none then (.ok .skippedAlreadyAssigned, db)
    else
      match job.rule with
      | some rule => onTickets (applyRule job.trigger.tenantId ticket rule.ruleId rule.name rule.target) db
      | none => fallBackJob job.teamId job.trigger.tenantId ticket db

def RoutingJob.decision (job : RoutingJob) (db : RotationDb) : RoutingDecision :=
  match job.rule with
  | some rule => .rule rule.ruleId rule.name rule.target
  | none => .fallBack (resolveFallbackAssignment job.trigger.tenantId job.teamId db).1

theorem resolve_base (tenantId : Uuid) (teamId : Option Uuid) (db : RotationDb) :
    (resolveFallbackAssignment tenantId teamId db).2.base = db.base := by
  unfold resolveFallbackAssignment advanceCursor
  split
  · split <;> rfl
  · rfl

theorem routeJob_eq_routeTicket (job : RoutingJob) (db : RotationDb) :
    ((routeJob job db).1, (routeJob job db).2.base) = (routeTicket job.trigger (job.decision db)).alone db.base := by
  have hread : ∀ next : Option Ticket → TicketProg (Except ApiError TicketRoutingOutcome),
      ((Prog.read (Stmt.routerRead job.trigger.ticketId) fun db : TicketDb =>
        db.findTicket job.trigger.tenantId job.trigger.ticketId).bind next).alone db.base =
      (next (db.base.findTicket job.trigger.tenantId job.trigger.ticketId)).alone db.base := fun _ => rfl
  rw [routeTicket, Prog.bind_def, hread, routeJob]
  cases db.base.findTicket job.trigger.tenantId job.trigger.ticketId with
  | none => rfl
  | some =>
    dsimp only
    split
    · rfl
    · split
      · rfl
      · unfold RoutingJob.decision
        cases job.rule with
        | some => rfl
        | none =>
          simp only [fallBackJob, onTickets, resolve_base]

section Writes

variable {db : TicketDb} {tenantId : Uuid} {ticket : Ticket}

def Unheld (ticket : Ticket) : Prop := ticket.assignedUserId = none ∧ ticket.assignedTeamId = none

theorem assignRouted_alone (hdb : Indexed db.tickets) (hticket : ticket ∈ db.tickets) (htenant : ticket.tenantId = tenantId)
    (hunheld : Unheld ticket) (hsome : hasAssignee assignment = true) (reason : String)
    (ruleId : Option Uuid) (outcome : TicketRoutingOutcome) :
    ∃ events, (assignRouted tenantId ticket assignment reason ruleId outcome).alone db =
      (.ok outcome, { db with
        tickets := updateWhere (assignWhere tenantId ticket.id) (routeTo assignment) db.tickets
        ticketEvents := db.ticketEvents ++ events }) := by
  have hmatches : assignWhere tenantId ticket.id ticket = true :=
    decide_eq_true ⟨htenant, rfl, hunheld.1, hunheld.2⟩
  have hcount : 0 < db.tickets.countP (assignWhere tenantId ticket.id) := List.countP_pos_iff.mpr ⟨ticket, hticket, hmatches⟩
  obtain ⟨n, hn⟩ := Nat.exists_eq_succ_of_ne_zero (Nat.ne_of_gt hcount)
  have hupdate := updateTickets_eq hdb (assignWhere_move db.now tenantId ticket.id hsome)
  rw [hn] at hupdate
  refine ⟨[routedEvent tenantId ticket assignment reason ruleId], ?_⟩
  have hassign : assignUnheld tenantId ticket assignment reason ruleId db =
      (.ok true, ({ db with
        tickets := updateWhere (assignWhere tenantId ticket.id) (routeTo assignment) db.tickets } : TicketDb).appendEvents
          [routedEvent tenantId ticket assignment reason ruleId]) := by
    rw [assignUnheld, hupdate]
    rfl
  rw [assignRouted, Prog.bind_def, Prog.alone_bind]
  simp only [Prog.stmt, Prog.alone, hassign]
  rfl

theorem defer_alone (hdb : Indexed db.tickets) (decision : FallbackAssignmentDecision) :
    ∃ db', (defer tenantId ticket decision).alone db = (.ok (.deferred (decision.reason.getD .noCandidatePool)), db') ∧
      db'.tickets = updateWhere (deferWhere tenantId ticket.id)
        (deferTo (decision.reason.getD .noCandidatePool) db.now) db.tickets := by
  have hupdate := updateTickets_eq hdb (deferWhere_move db.now tenantId ticket.id (decision.reason.getD .noCandidatePool))
  let deferred : TicketDb := { db with
    tickets := updateWhere (deferWhere tenantId ticket.id)
      (deferTo (decision.reason.getD .noCandidatePool) db.now) db.tickets }
  let event : TicketEvent :=
    { tenantId, ticketId := ticket.id, data := .assignmentDeferred (decision.reason.getD .noCandidatePool) }
  refine ⟨deferred.appendEvents [event], ?_, rfl⟩
  rw [defer, Prog.bind_def, Prog.alone_bind]
  simp only [Prog.stmt, Prog.alone, deferUnplaced, hupdate]
  rfl

end Writes

/-- The first stage at which the scope has nobody left: nobody is in it, nobody of it is there, nobody there is below the
    cap. -/
def firstUnmetStage (db : RotationDb) (tenantId : Uuid) (teamId : Option Uuid) : Option FallbackAssignmentReason :=
  if db.agents.filter (inPool db tenantId teamId) = [] then some .noCandidatePool
  else if presentAgents db tenantId teamId = [] then some .noneAvailable
  else if (presentAgents db tenantId teamId).all fun u => effectiveCap db tenantId u ≤ activeCount db tenantId u.id then
    some .allAtCapacity
  else none

def ReachesRotation (job : RoutingJob) (db : RotationDb) (ticket : Ticket) : Prop :=
  db.base.findTicket job.trigger.tenantId job.trigger.ticketId = some ticket ∧ ticket.status.isActive = true ∧
    Unheld ticket ∧ job.rule = none

theorem routeJob_of_reaches {job : RoutingJob} {db : RotationDb} {ticket : Ticket} (h : ReachesRotation job db ticket) :
    routeJob job db = fallBackJob job.teamId job.trigger.tenantId ticket db := by
  obtain ⟨hfound, hactive, ⟨huser, hteam⟩, hrule⟩ := h
  rw [routeJob, hfound]
  simp [hactive, huser, hteam, hrule]

section Scope

variable {db : RotationDb} {tenantId : Uuid} {teamId : Option Uuid}

theorem presentAgents_subset (h : u ∈ presentAgents db tenantId teamId) :
    u ∈ db.agents.filter (inPool db tenantId teamId) := by
  obtain ⟨hmem, hp⟩ := List.mem_filter.mp h
  exact List.mem_filter.mpr ⟨hmem, (Bool.and_eq_true_iff.mp hp).1⟩

theorem resolve_eq_stage : (chosen db tenantId teamId = none →
        firstUnmetStage db tenantId teamId = some (explainEmptyRotation db tenantId teamId
          (readCandidates db tenantId teamId (readCursor db tenantId teamId)))) ∧
      (chosen db tenantId teamId ≠ none → firstUnmetStage db tenantId teamId = none) := by
  unfold firstUnmetStage explainEmptyRotation
  simp only [ne_eq, readCandidates_eq_nil_iff, chosen_eq_none_iff]
  have hpool : 0 < db.agents.countP (inPool db tenantId teamId) ↔ db.agents.filter (inPool db tenantId teamId) ≠ [] := by
    rw [List.countP_eq_length_filter, List.length_pos_iff]
  have hempty : db.agents.filter (inPool db tenantId teamId) = [] → presentAgents db tenantId teamId = [] := by
    intro hnone
    apply List.eq_nil_iff_forall_not_mem.mpr
    intro u hu
    have hmem := presentAgents_subset hu
    rw [hnone] at hmem
    exact List.not_mem_nil hmem
  constructor
  · intro hfull
    by_cases hpresent : presentAgents db tenantId teamId = []
    · by_cases hnobody : db.agents.filter (inPool db tenantId teamId) = []
      · simp [hpresent, hnobody, hpool]
      · simp [hpresent, hnobody, hpool]
    · have hsomebody : db.agents.filter (inPool db tenantId teamId) ≠ [] := fun h => hpresent (hempty h)
      have hall : ((presentAgents db tenantId teamId).all fun u =>
          decide (effectiveCap db tenantId u ≤ activeCount db tenantId u.id)) = true := by
        simpa using hfull
      rw [if_neg hsomebody, if_neg hpresent, if_pos hall, if_pos hpresent]
  · intro hfree
    have hsomebody : presentAgents db tenantId teamId ≠ [] := by
      intro hnone
      apply hfree
      rw [hnone]
      exact fun u hu => absurd hu List.not_mem_nil
    have hnot : ¬ ((presentAgents db tenantId teamId).all fun u =>
        decide (effectiveCap db tenantId u ≤ activeCount db tenantId u.id)) = true := by
      simpa using hfree
    rw [if_neg fun h => hsomebody (hempty h), if_neg hsomebody, if_neg hnot]

theorem firstUnmetStage_eq_none_iff : firstUnmetStage db tenantId teamId = none ↔
      ∃ u ∈ presentAgents db tenantId teamId, activeCount db tenantId u.id < effectiveCap db tenantId u := by
  have hfree : chosen db tenantId teamId ≠ none ↔
      ∃ u ∈ presentAgents db tenantId teamId, activeCount db tenantId u.id < effectiveCap db tenantId u := by
    rw [ne_eq, chosen_eq_none_iff]
    simp
  rw [← hfree]
  constructor
  · intro hmet hnone
    rw [resolve_eq_stage.1 hnone] at hmet
    cases hmet
  · exact resolve_eq_stage.2

end Scope

section Job

variable {db : RotationDb} {job : RoutingJob} {ticket : Ticket}

theorem ReachesRotation.found (h : ReachesRotation job db ticket) :
    ticket ∈ db.base.tickets ∧ ticket.tenantId = job.trigger.tenantId := by
  obtain ⟨hmem, _, htenant⟩ := TicketDb.findTicket_some h.1
  exact ⟨hmem, htenant⟩

theorem routeJob_assigns (hdb : Indexed db.base.tickets) (h : ReachesRotation job db ticket)
    (hchosen : chosen db job.trigger.tenantId job.teamId = some c) : (routeJob job db).1 = .ok .fallbackAssigned ∧
      (routeJob job db).2.base.tickets = updateWhere (assignWhere job.trigger.tenantId ticket.id)
        (routeTo { assignedUserId := some c.userId, assignedTeamId := none }) db.base.tickets ∧
      readCursor (routeJob job db).2 job.trigger.tenantId job.teamId = some c.userId := by
  obtain ⟨hmem, htenant⟩ := h.found
  have hresolve : resolveFallbackAssignment job.trigger.tenantId job.teamId db =
      ({ outcome := .assigned, userId := some c.userId, reason := none },
        advanceCursor db job.trigger.tenantId job.teamId c.userId) := by
    rw [resolveFallbackAssignment, hchosen]
  have hbase : (advanceCursor db job.trigger.tenantId job.teamId c.userId).base = db.base := by
    have hsame := resolve_base job.trigger.tenantId job.teamId db
    rwa [hresolve] at hsame
  let agent : TicketAssignment := { assignedUserId := some c.userId, assignedTeamId := none }
  have hsome : hasAssignee agent = true := rfl
  obtain ⟨events, halone⟩ := assignRouted_alone hdb hmem htenant h.2.2.1 hsome "Assigned by rotation" none
    .fallbackAssigned
  rw [routeJob_of_reaches h, fallBackJob, hresolve]
  simp only [onTickets, fallBack, hbase]
  exact ⟨congrArg Prod.fst halone, congrArg (·.2.tickets) halone,
    readCursor_advance db job.trigger.tenantId job.teamId c.userId⟩

theorem routeJob_defers (hdb : Indexed db.base.tickets) (h : ReachesRotation job db ticket)
    (hchosen : chosen db job.trigger.tenantId job.teamId = none) :
    ∃ reason now, firstUnmetStage db job.trigger.tenantId job.teamId = some reason ∧
      (routeJob job db).1 = .ok (.deferred reason) ∧
      (routeJob job db).2.base.tickets =
        updateWhere (deferWhere job.trigger.tenantId ticket.id) (deferTo reason now) db.base.tickets := by
  have hstage := resolve_eq_stage.1 hchosen
  have hresolve : resolveFallbackAssignment job.trigger.tenantId job.teamId db =
      ({ outcome := .noEligibleAgent, userId := none,
         reason := some (explainEmptyRotation db job.trigger.tenantId job.teamId
          (readCandidates db job.trigger.tenantId job.teamId
            (readCursor db job.trigger.tenantId job.teamId))) }, db) := by
    rw [resolveFallbackAssignment, hchosen]
  obtain ⟨db', halone, htickets⟩ : ∃ db',
      (defer job.trigger.tenantId ticket (resolveFallbackAssignment job.trigger.tenantId job.teamId db).1).alone db.base =
        (.ok (.deferred ((resolveFallbackAssignment job.trigger.tenantId job.teamId db).1.reason.getD .noCandidatePool)),
          db') ∧
      db'.tickets = updateWhere (deferWhere job.trigger.tenantId ticket.id)
        (deferTo ((resolveFallbackAssignment job.trigger.tenantId job.teamId db).1.reason.getD .noCandidatePool)
          db.base.now) db.base.tickets :=
    defer_alone hdb _
  rw [hresolve] at halone htickets
  refine ⟨_, db.base.now, hstage, ?_⟩
  rw [routeJob_of_reaches h, fallBackJob, hresolve]
  simp only [onTickets, fallBack, halone]
  exact ⟨rfl, htickets⟩

end Job

/-- A job that rotation decides respects the capacity of the scope. -/
structure Respects (db : RotationDb) (job : RoutingJob) : Prop where
  belowCap : ∀ t ∈ (routeJob job db).2.base.tickets, ∀ userId, t.assignedUserId = some userId →
    (∃ t₀ ∈ db.base.tickets, t₀.id = t.id ∧ t₀.assignedUserId = some userId) ∨
      ∃ u ∈ presentAgents db job.trigger.tenantId job.teamId, u.id = userId ∧
        activeCount db job.trigger.tenantId u.id < effectiveCap db job.trigger.tenantId u
  defers : ∀ ticket, ReachesRotation job db ticket → (routeJob job db).1 = .ok
    (match firstUnmetStage db job.trigger.tenantId job.teamId with
    | none => .fallbackAssigned
    | some reason => .deferred reason)

theorem routeJob_unreached {db : RotationDb} {job : RoutingJob} (hrule : job.rule = none)
    (h : ∀ ticket, ¬ReachesRotation job db ticket) : (routeJob job db).2 = db := by
  unfold routeJob
  cases hfound : db.base.findTicket job.trigger.tenantId job.trigger.ticketId with
  | none => rfl
  | some ticket =>
    dsimp only
    split
    · rfl
    · rename_i hactive
      split
      · rfl
      · rename_i hheld
        rw [not_or, not_not, not_not] at hheld
        exact absurd ⟨hfound, Bool.not_eq_false _ ▸ hactive, hheld, hrule⟩ (h ticket)

theorem routeJob_respects {db : RotationDb} (hdb : Indexed db.base.tickets) {job : RoutingJob} (hrule : job.rule = none) :
    Respects db job := by
  constructor
  · intro t ht userId huser
    by_cases hreaches : ∃ ticket, ReachesRotation job db ticket
    · obtain ⟨ticket, hreaches⟩ := hreaches
      cases hchosen : chosen db job.trigger.tenantId job.teamId with
      | some =>
        rw [(routeJob_assigns hdb hreaches hchosen).2.1] at ht
        obtain ⟨t₀, ht₀, ⟨_, rfl⟩ | ⟨_, rfl⟩⟩ := mem_updateWhere ht
        · right
          obtain ⟨⟨u, hu, rfl⟩, hbelow, _⟩ := chosen_spec hchosen
          exact ⟨u, hu, Option.some.inj huser, hbelow⟩
        · exact Or.inl ⟨t, ht₀, rfl, huser⟩
      | none =>
        obtain ⟨reason, now, _, _, htickets⟩ := routeJob_defers hdb hreaches hchosen
        rw [htickets] at ht
        left
        obtain ⟨t₀, ht₀, ⟨_, rfl⟩ | ⟨_, rfl⟩⟩ := mem_updateWhere ht
        · exact ⟨t₀, ht₀, rfl, huser⟩
        · exact ⟨t, ht₀, rfl, huser⟩
    · rw [routeJob_unreached hrule (not_exists.mp hreaches)] at ht
      exact Or.inl ⟨t, ht, rfl, huser⟩
  · intro ticket hreaches
    cases hchosen : chosen db job.trigger.tenantId job.teamId with
    | some =>
      have hstage : firstUnmetStage db job.trigger.tenantId job.teamId = none :=
        resolve_eq_stage.2 (by simp [hchosen])
      rw [hstage]
      exact (routeJob_assigns hdb hreaches hchosen).1
    | none =>
      obtain ⟨reason, now, hstage, houtcome, _⟩ := routeJob_defers hdb hreaches hchosen
      rw [hstage]
      exact houtcome

theorem routeJob_indexed {db : RotationDb} (hdb : Indexed db.base.tickets) (job : RoutingJob) :
    Indexed (routeJob job db).2.base.tickets := by
  have hbase : (routeJob job db).2.base = ((routeTicket job.trigger (job.decision db)).alone db.base).2 :=
    congrArg Prod.snd (routeJob_eq_routeTicket job db)
  have hwithin : ((routeTicket job.trigger (job.decision db)).bind (.pure ∘ TicketReply.routed)).Within TicketDb.Indexed Effect :=
    (routeTicket_sound job.trigger (job.decision db)).follows.mono fun _ _ _ _ _ h => h.effect
  have hkept := (hwithin.alone (K := fun _ => True) (fun _ _ _ hindexed _ heffect => ⟨heffect.indexed hindexed, trivial⟩)
    hdb trivial).1
  rw [Prog.alone_bind] at hkept
  rw [hbase]
  exact hkept

/-- Jobs worked off one after another; between two of them anything may become of the tables. The log has each job with
    the state it found. -/
inductive Serial : RotationDb → List (RotationDb × RoutingJob) → RotationDb → Prop where
  | nil (db : RotationDb) : Serial db [] db
  | change {db next last : RotationDb} {log : List (RotationDb × RoutingJob)} (indexed : Indexed next.base.tickets)
      (rest : Serial next log last) : Serial db log last
  | job {db last : RotationDb} {log : List (RotationDb × RoutingJob)} (job : RoutingJob)
      (rest : Serial (routeJob job db).2 log last) : Serial db ((db, job) :: log) last

theorem Serial.respects (h : Serial first log last)
    (hfirst : Indexed first.base.tickets) : ∀ e ∈ log, e.2.rule = none → Respects e.1 e.2 := by
  induction h with
  | nil => exact fun e he => absurd he List.not_mem_nil
  | change indexed _ ih => exact ih indexed
  | job job _ ih =>
    intro e he hrule
    rcases List.mem_cons.mp he with rfl | he
    · exact routeJob_respects hfirst hrule
    · exact ih (routeJob_indexed hfirst job) e he hrule

def deskQueue : RotationDb :=
  let waiting : Ticket := { deskTicket 0 with assignedUserId := none }
  { desk [] none with base := { tickets := [waiting] } }

end WhatsappCrm.Assignment
