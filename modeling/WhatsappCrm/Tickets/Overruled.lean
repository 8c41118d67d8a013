/-
Purpose: What the router may do to a ticket a person has decided about.
-/
import WhatsappCrm.Tickets.Invariants

namespace WhatsappCrm

open Interleaving Table

def Ticket.Unheld (t : Ticket) : Prop := t.assignedUserId = none ∧ t.assignedTeamId = none

instance (t : Ticket) : Decidable t.Unheld := inferInstanceAs (Decidable (_ ∧ _))

/-- Somebody holds the ticket, or a supervisor placed it by hand. -/
def PersonDecided (t : Ticket) : Prop := ¬ t.Unheld ∨ t.routing.state = .manual

instance (t : Ticket) : Decidable (PersonDecided t) := inferInstanceAs (Decidable (_ ∨ _))

def SamePlacement (t t' : Ticket) : Prop :=
  t'.assignedUserId = t.assignedUserId ∧ t'.assignedTeamId = t.assignedTeamId ∧ t'.routing = t.routing

instance (t t' : Ticket) : Decidable (SamePlacement t t') := inferInstanceAs (Decidable (_ ∧ _ ∧ _))

def KeepsDecisions (db db' : TicketDb) : Prop :=
  ∀ t ∈ db.tickets, ∀ t' ∈ db'.tickets, t'.id = t.id →
    (PersonDecided t → SamePlacement t t') ∧
      (t'.assignedUserId ≠ t.assignedUserId ∨ t'.assignedTeamId ≠ t.assignedTeamId →
        t.status.isActive = true)

instance (db db' : TicketDb) : Decidable (KeepsDecisions db db') :=
  inferInstanceAs (Decidable (∀ t ∈ db.tickets, ∀ t' ∈ db'.tickets, _ → _ ∧ _))

def RouterMayWrite (db : TicketDb) : Stmt → Prop
  | .routerAssign tenantId ticketId => ∀ t ∈ db.tickets, assignWhere tenantId ticketId t = true →
      t.routing.state ≠ .manual ∧ t.status.isActive = true
  | .routerDefer tenantId ticketId => ∀ t ∈ db.tickets, deferWhere tenantId ticketId t = true →
      ¬ PersonDecided t
  | _ => True

/-- The statements of a routing run, with the columns they write. -/
inductive RouterEffect : Stmt → TicketDb → TicketDb → Prop where
  | read (ticketId : Uuid) (db : TicketDb) : RouterEffect (.routerRead ticketId) db db
  | assign (tenantId ticketId : Uuid) (assignment : TicketAssignment)
      (hsome : hasAssignee assignment = true) (db db' : TicketDb)
      (htickets : db'.tickets =
        updateWhere (assignWhere tenantId ticketId) (routeTo assignment) db.tickets) :
      RouterEffect (.routerAssign tenantId ticketId) db db'
  | defer (tenantId ticketId : Uuid) (reason : FallbackAssignmentReason) (db db' : TicketDb)
      (htickets : db'.tickets =
        updateWhere (deferWhere tenantId ticketId) (deferTo reason db.now) db.tickets) :
      RouterEffect (.routerDefer tenantId ticketId) db db'

variable {db : TicketDb}

theorem assignUnheld_tickets (hdb : db.Indexed) (tenantId : Uuid) (ticket : Ticket)
    (hsome : hasAssignee assignment = true) (reason : String) (ruleId : Option Uuid) :
    (assignUnheld tenantId ticket assignment reason ruleId db).2.tickets =
      updateWhere (assignWhere tenantId ticket.id) (routeTo assignment) db.tickets := by
  rcases updateTickets_cases hdb (assignWhere_move db.now tenantId ticket.id hsome) with
    ⟨hnone, hsame⟩ | ⟨_, n, hmoved⟩
  · simp only [assignUnheld, hnone, hsame]
  · simp only [assignUnheld, hmoved, TicketDb.appendEvents]

theorem deferUnplaced_tickets (hdb : db.Indexed) (tenantId : Uuid) (ticket : Ticket)
    (reason : FallbackAssignmentReason) : (deferUnplaced tenantId ticket reason db).2.tickets =
      updateWhere (deferWhere tenantId ticket.id) (deferTo reason db.now) db.tickets := by
  rcases updateTickets_cases hdb (deferWhere_move db.now tenantId ticket.id reason) with
    ⟨hnone, hsame⟩ | ⟨_, n, hsome⟩
  · simp only [deferUnplaced, hnone, hsame, TicketDb.appendEvents]
  · simp only [deferUnplaced, hsome, TicketDb.appendEvents]

theorem assignRouted_within (tenantId : Uuid) (ticket : Ticket) (assignment : TicketAssignment)
    (hsome : hasAssignee assignment = true) (reason : String) (ruleId : Option Uuid)
    (outcome : TicketRoutingOutcome) :
    (assignRouted tenantId ticket assignment reason ruleId outcome).Within TicketDb.Indexed
      RouterEffect := by
  refine Prog.Within.bind (Prog.Within.stmt fun db hdb => ?_) fun written => ?_
  · exact .assign _ _ assignment hsome _ _ (assignUnheld_tickets hdb _ _ hsome _ _)
  · split <;> trivial

theorem defer_within (tenantId : Uuid) (ticket : Ticket) (decision : FallbackAssignmentDecision) :
    (defer tenantId ticket decision).Within TicketDb.Indexed RouterEffect := by
  refine Prog.Within.bind (Prog.Within.stmt fun db hdb => ?_) fun written => ?_
  · exact .defer _ _ _ _ _ (deferUnplaced_tickets hdb _ _ _)
  · split <;> trivial

theorem routeTicket_within (trigger : TicketRoutingTrigger) (decision : RoutingDecision) :
    (routeTicket trigger decision).Within TicketDb.Indexed RouterEffect := by
  refine Prog.Within.bind (Prog.Within.read fun db _ => .read _ db) fun found => ?_
  cases found with
  | none => trivial
  | some =>
    simp only
    split
    · trivial
    · split
      · trivial
      · cases decision with
        | rule ruleId name target =>
          refine assignRouted_within _ _ _ ?_ _ _ _
          cases target <;> rfl
        | fallBack =>
          simp only [fallBack]
          split
          · exact assignRouted_within _ _ _ rfl _ _ _
          · exact defer_within _ _ _

def RouterStatement : TicketCall → Stmt → TicketDb → TicketDb → Prop
  | .routeTicket _ _, tag, db, db' => RouterEffect tag db db'
  | _, _, _, _ => True

theorem program_router (call : TicketCall) : (program call).Within TicketDb.Indexed (RouterStatement call) := by
  cases call with
  | routeTicket trigger decision =>
    exact Prog.Within.bind (routeTicket_within trigger decision) fun _ => trivial
  | _ => exact Prog.follows_of (fun _ _ _ _ => trivial) _

theorem Ticket.Unheld.of_assignWhere {tenantId : Uuid} (h : assignWhere tenantId ticketId t = true) : t.Unheld := by
  simp only [assignWhere, decide_eq_true_eq] at h
  exact h.2.2

theorem RouterEffect.keepsDecisions_iff (h : RouterEffect tag db db')
    (hdb : db.Indexed) : KeepsDecisions db db' ↔ RouterMayWrite db tag := by
  cases h with
  | read =>
    simp only [RouterMayWrite, iff_true]
    intro t ht t' ht' hid
    rw [hdb.eq_of_id ht' ht hid]
    exact ⟨fun _ => ⟨rfl, rfl, rfl⟩, by simp⟩
  | assign tenantId ticketId assignment hsome _ _ htickets =>
    constructor
    · intro hkeeps t ht hp
      have hmem : routeTo assignment t ∈ db'.tickets := by
        rw [htickets]
        simpa [hp] using mem_updateWhere_of_mem (p := assignWhere tenantId ticketId) (f := routeTo assignment) ht
      obtain ⟨hsame, hactive⟩ := hkeeps t ht _ hmem rfl
      constructor
      · intro hmanual
        have hrouting := (hsame (.inr hmanual)).2.2
        simp [routeTo, ← hrouting, TicketRouting.state] at hmanual
      · apply hactive
        obtain ⟨huser, hteam⟩ := Ticket.Unheld.of_assignWhere hp
        simp only [hasAssignee, Bool.or_eq_true, Option.isSome_iff_ne_none] at hsome
        simpa [routeTo, huser, hteam] using hsome
    · intro hmay t ht t' ht' hid
      rw [htickets] at ht'
      have hkeep : ∀ t, (routeTo assignment t).id = t.id := fun _ => rfl
      rw [hdb.eq_updated hkeep ht ht' hid]
      cases hp : assignWhere tenantId ticketId t with
      | false => exact ⟨fun _ => ⟨rfl, rfl, rfl⟩, by simp⟩
      | true =>
        obtain ⟨hmanual, hactive⟩ := hmay t ht hp
        refine ⟨fun hdecided => ?_, fun _ => hactive⟩
        rcases hdecided with hheld | hstate
        · exact absurd (Ticket.Unheld.of_assignWhere hp) hheld
        · exact absurd hstate hmanual
  | defer tenantId ticketId reason _ _ htickets =>
    constructor
    · intro hkeeps t ht hp hdecided
      have hmem : deferTo reason db.now t ∈ db'.tickets := by
        rw [htickets]
        simpa [hp] using mem_updateWhere_of_mem (p := deferWhere tenantId ticketId) (f := deferTo reason db.now) ht
      have hrouting := ((hkeeps t ht _ hmem rfl).1 hdecided).2.2
      simp [deferWhere, deferTo, ← hrouting, TicketRouting.state] at hp
    · intro hmay t ht t' ht' hid
      rw [htickets] at ht'
      have hkeep : ∀ t, (deferTo reason db.now t).id = t.id := fun _ => rfl
      rw [hdb.eq_updated hkeep ht ht' hid]
      cases hp : deferWhere tenantId ticketId t with
      | false => exact ⟨fun _ => ⟨rfl, rfl, rfl⟩, by simp⟩
      | true =>
        refine ⟨fun hdecided => absurd hdecided (hmay t ht hp), ?_⟩
        simp [deferTo]

def TicketCall.isRouting : TicketCall → Bool
  | .routeTicket _ _ => true
  | _ => false

def RouterStep (s : TicketSys) (tag : Stmt) (s' : TicketSys) : Prop :=
  ∃ (i : Nat) (call : TicketCall) (β : Type) (act : TicketDb → β × TicketDb)
      (next : β → TicketProg TicketReply), call.isRouting = true ∧
    s.calls[i]? = some (call, .atomic tag act next) ∧ s' = s.exec i call act next

def onlyUndecided (s : TicketSys) (_ : TicketCall) (tag : Stmt) : Prop := RouterMayWrite s.db tag

theorem RouterStep.effect (hdb : db.Ok)
    (hs : TicketRun db s) (hstep : RouterStep s tag s') : RouterEffect tag s.db s'.db := by
  have hfollows := Reachable.follows (fun call => program_router call) (fun _ hr => (TicketRun.ok hdb hr).1.indexed) hs
  obtain ⟨i, call, β, act, next, hrouting, hcall, rfl⟩ := hstep
  have hspec := (hfollows.exec_spec (TicketRun.ok hdb hs).1.indexed hcall).1
  cases call <;> first | exact hspec | cases hrouting

def routingStarted : TicketSys :=
  (Sys.idle oneOpenTicket).spawn program (.routeTicket { tenantId := 1, ticketId := 1 }
    (.fallBack { outcome := .noEligibleAgent, userId := none, reason := some .noneAvailable }))

def oneOpenTicketAndAgent : TicketDb :=
  { oneOpenTicket with users := [{ id := 7, tenantId := 1, status := .active }] }

/-- Rotation has nobody; before it says so on the ticket, a supervisor assigns it by hand. -/
def overruledSchedule : List (Move TicketCall) :=
  [.spawn (.routeTicket { tenantId := 1, ticketId := 1 }
      (.fallBack { outcome := .noEligibleAgent, userId := none, reason := some .noneAvailable })),
    .step 0,
    .spawn (.assign 1 { userId := 9, permissions := [.ticketReadAll, .ticketAssign], teamIds := [] } 1
      { userId := some (some 7) }),
    .step 1, .step 1, .step 1]

end WhatsappCrm
