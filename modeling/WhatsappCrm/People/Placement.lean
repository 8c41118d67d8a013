/-
Purpose: "A ticket cannot exist assigned but still reading pending": the assignee of a ticket and its routing state.
-/
import WhatsappCrm.People.LastAdmin
import WhatsappCrm.Tickets.Overruled

namespace WhatsappCrm

open Interleaving Table

structure Placed (t : Ticket) : Prop where
  held : ¬ t.Unheld ↔ t.routing.state = .assigned ∨ t.routing.state = .manual
  deferred : t.routing.state = .deferred ↔
    t.routing.deferredReason ≠ none ∧ t.routing.deferredSince ≠ none ∧ t.Unheld

theorem placed_iff (t : Ticket) : Placed t ↔
    (¬ t.Unheld ↔ t.routing.state = .assigned ∨ t.routing.state = .manual) ∧
      (t.routing.state = .deferred ↔
        t.routing.deferredReason ≠ none ∧ t.routing.deferredSince ≠ none ∧ t.Unheld) :=
  ⟨fun h => ⟨h.held, h.deferred⟩, fun h => ⟨h.1, h.2⟩⟩

instance (t : Ticket) : Decidable (Placed t) := decidable_of_iff _ (placed_iff t).symm

/-- When a statement keeps the placement of a ticket: a deferral finds it in nobody's hands, and a removal takes it
    from its holder only while a team has it too. -/
def KeepsPlacement (ticketId : Uuid) : PeopleStmt → PeopleDb → Prop
  | .ticket (.routerDefer tenantId id), db => id = ticketId →
      ∀ t ∈ db.base.tickets, deferWhere tenantId id t = true → t.Unheld
  | .unassignTicket tenantId userId id, db => id = ticketId →
      ∀ t ∈ db.base.tickets, heldBy tenantId userId id t = true → t.assignedTeamId ≠ none
  | _, _ => True

theorem Ticket.unheld_iff (assignment : TicketAssignment) (t : Ticket) :
    (setAssignment assignment t).Unheld ↔ hasAssignee assignment = false := by
  simp [Ticket.Unheld, setAssignment, hasAssignee]

theorem placed_setAssignment (assignment : TicketAssignment) (t : Ticket) : Placed (setAssignment assignment t) := by
  cases hsome : hasAssignee assignment with
  | true =>
    constructor <;> simp [Ticket.unheld_iff, hsome] <;>
      simp [setAssignment, routingStateFor, hsome, TicketRouting.state]
  | false =>
    constructor <;> simp [Ticket.unheld_iff, hsome] <;>
      simp [setAssignment, routingStateFor, hsome, TicketRouting.state, TicketRouting.deferredReason]

theorem placed_routeTo (hsome : hasAssignee assignment = true) (t : Ticket) : Placed (routeTo assignment t) := by
  have hheld : ¬ (routeTo assignment t).Unheld := by
    simpa [Ticket.Unheld, routeTo, hasAssignee, or_iff_not_imp_left, Option.isSome_iff_ne_none] using hsome
  constructor
  · simp [hheld]
    simp [routeTo, TicketRouting.state]
  · simp [hheld]
    simp [routeTo, TicketRouting.state]

theorem placed_deferTo {t : Ticket} (hunheld : t.Unheld) (reason : FallbackAssignmentReason) (now : Millis) :
    Placed (deferTo reason now t) := by
  have hstill : (deferTo reason now t).Unheld := hunheld
  constructor <;> simp [hstill] <;>
    simp [deferTo, TicketRouting.state, TicketRouting.deferredReason, TicketRouting.deferredSince]

theorem RowMove.placed (h : RowMove now tag t t')
    (hdefer : tag = .routerDefer t.tenantId t.id → t.routing.state ≠ .deferred → t.Unheld) (ht : Placed t) :
    Placed t' := by
  cases h with
  | reopen | pause | agent | automation => exact ⟨ht.held, ht.deferred⟩
  | assign _ assignment | automationAssign _ assignment => exact placed_setAssignment assignment t
  | route _ assignment hsome => exact placed_routeTo hsome t
  | defer _ reason hstate => exact placed_deferTo (hdefer rfl hstate) reason now

def PeopleDb.Placed (db : PeopleDb) (ticketId : Uuid) : Prop :=
  ∀ t ∈ db.base.tickets, t.id = ticketId → WhatsappCrm.Placed t

variable {db : PeopleDb} {ticketId : Uuid} {ws : HeldWrites}

theorem Effect.placed (h : Effect tag db.base base) (hcond : KeepsPlacement ticketId (.ticket tag) db)
    (hdb : db.Placed ticketId) : (db.withBase base).Placed ticketId := by
  intro t' ht' hid
  rcases h.row_before ht' with ⟨t, ht, rfl | hmove⟩ | ⟨tenantId, target, newId, _, rfl⟩
  · exact hdb _ ht hid
  · have hsame : t.id = ticketId := by rw [← hmove.id_eq, hid]
    refine hmove.placed (fun htag hstate => ?_) (hdb t ht hsame)
    subst htag
    exact hcond hsame t ht (by simp [deferWhere, hstate])
  · constructor <;> simp [newTicket, Ticket.Unheld, TicketRouting.state, TicketRouting.deferredReason]

def LeavesTeam (ticketId : Uuid) (w : PeopleWrite) (rows : List PeopleRow) : Prop :=
  ∀ tenantId userId id, w = .unassignTicket tenantId userId id →
    ∀ t, .ticket t ∈ rows → t.id = ticketId → t.assignedTeamId ≠ none

def HoldsTeam (ticketId : Uuid) (ws : HeldWrites) : Prop := ∀ e ∈ ws, LeavesTeam ticketId e.1 e.2

theorem HoldsTeam.snoc (hws : HoldsTeam ticketId ws)
    (hw : LeavesTeam ticketId w rows) : HoldsTeam ticketId (ws ++ [(w, rows)]) := by
  intro e he
  rcases mem_snoc.mp he with he | rfl
  · exact hws e he
  · exact hw

/-- A row somebody holds is as it was committed: the removal has only taken holders away. -/
theorem applyAll_held (h : applyAll peopleWrites ws db = .ok db') :
    ∀ t ∈ db'.base.tickets, t.assignedUserId ≠ none → t ∈ db.base.tickets := by
  refine applyAll_induct (Q := fun _ _ => True)
    (K := fun s => ∀ t ∈ s.base.tickets, t.assignedUserId ≠ none → t ∈ db.base.tickets) ?_
    (fun _ _ => trivial) (fun t ht _ => ht) h
  intro w rows s s' _ hs happly t ht hheld
  cases hw : w.isTicketWrite with
  | false => exact hs t (by rwa [apply_tickets hw happly] at ht) hheld
  | true =>
    cases w with
    | unassignTicket =>
      cases happly
      obtain ⟨t₀, ht₀, ⟨_, rfl⟩ | ⟨_, rfl⟩⟩ := mem_updateWhere ht
      · exact absurd rfl hheld
      · exact hs _ ht₀ hheld
    | _ => cases hw

theorem adds_clear_holdsTeam (ticketId : Uuid) (tag : PeopleStmt) (w : PeopleWrite)
    (_ : w.isUserWrite = false) (hw : w.isTicketWrite = false) :
    Adds (KeepsPlacement ticketId) (HoldsTeam ticketId) tag w := by
  refine .of_append fun ws rows hws => hws.snoc ?_
  rintro tenantId userId id rfl
  cases hw

theorem adds_unassignTicket (ticketId tenantId userId id : Uuid) :
    Adds (KeepsPlacement ticketId) (HoldsTeam ticketId) (.unassignTicket tenantId userId id)
      (.unassignTicket tenantId userId id) := by
  intro ws s v rows v' hws hcond hv happly
  refine hws.snoc ?_
  rintro _ _ _ heq t ht hid
  cases heq
  cases happly
  obtain ⟨t', hmem, htt⟩ := List.mem_map.mp ht
  cases htt
  obtain ⟨hmem, hheld⟩ := List.mem_filter.mp hmem
  simp only [heldBy, decide_eq_true_eq] at hheld
  have hcommitted := applyAll_held hv t hmem (by simp [hheld.2.2])
  exact hcond (by rw [← hheld.2.1, hid]) t hcommitted (by simpa [heldBy] using hheld)

theorem writeUser_keeps (before : User) (data : UserUpdateData) :
    Keeps (KeepsPlacement ticketId) (HoldsTeam ticketId) (writeUser tenantId before data) := by
  refine .bind (.execute (.of_append fun ws rows hws => hws.snoc ?_)) fun rows => ?_
  · rintro _ _ _ heq
    cases heq
  · split
    · exact .pure _
    · exact .abort _

theorem updateTransaction_holdsTeam (ticketId tenantId : Uuid) (principal : SessionPrincipal) (userId : Uuid)
    (input : UserUpdateInput) : Keeps (KeepsPlacement ticketId) (HoldsTeam ticketId)
      (updateTransaction tenantId principal userId input) := by
  have hclear := adds_clear_holdsTeam ticketId
  refine .bind .query fun found => ?_
  cases found with
  | none => exact .abort _
  | some before =>
    dsimp only
    split
    · exact .abort _
    · refine .bind (keepAnAdmin_keeps hclear _ _ _) fun _ => ?_
      refine .bind (keeps_elim (assertTeamsExist_keeps _) _) fun _ => ?_
      refine .bind (writeUser_keeps before _) fun after => ?_
      refine .bind (keeps_elim (replaceTeamMemberships_keeps hclear _ _) _) fun _ => ?_
      exact .bind (disarmOnSuspension_keeps hclear _ _ _) fun _ => .pure _

theorem removeTransaction_holdsTeam (ticketId tenantId userId : Uuid) :
    Keeps (KeepsPlacement ticketId) (HoldsTeam ticketId) (removeTransaction tenantId userId) := by
  have hclear := adds_clear_holdsTeam ticketId
  refine .bind .query fun found => ?_
  cases found with
  | none => exact .abort _
  | some user =>
    dsimp only
    split
    · exact .pure _
    · refine .bind (keepAnAdmin_keeps hclear _ _ _) fun _ => ?_
      refine .bind (clearReferences_keeps hclear _ _ fun id => adds_unassignTicket ticketId _ _ id) fun _ => ?_
      refine .bind (revokeInvites_keeps hclear _ _) fun _ => ?_
      exact .bind (writeUser_keeps user _) fun _ => .pure _

theorem HoldsTeam.placed (hws : HoldsTeam ticketId ws)
    (hdb : db.Placed ticketId) (h : applyAll peopleWrites ws db = .ok db') : db'.Placed ticketId := by
  refine applyAll_induct (Q := LeavesTeam ticketId) (K := fun s => s.Placed ticketId) ?_ hws hdb h
  intro w rows s s' hw hs happly
  cases hwrite : w.isTicketWrite with
  | false =>
    intro t ht
    rw [apply_tickets hwrite happly] at ht
    exact hs t ht
  | true =>
    cases w with
    | unassignTicket tenantId userId id =>
      cases happly
      intro t' ht' hid
      obtain ⟨t, ht, ⟨hheld, rfl⟩ | ⟨_, rfl⟩⟩ := mem_updateWhere ht'
      · have hrow : PeopleRow.ticket t ∈ (s.base.tickets.filter (heldBy tenantId userId id)).map .ticket :=
          List.mem_map_of_mem (List.mem_filter.mpr ⟨ht, hheld⟩)
        have hteam := hw tenantId userId id rfl t hrow hid
        have hplaced := hs t ht hid
        have hbefore : ¬ t.Unheld := fun h => hteam h.2
        have hafter : ¬ Ticket.Unheld { t with assignedUserId := none } := fun h => hteam h.2
        refine ⟨⟨fun _ => hplaced.held.mp hbefore, fun _ => hafter⟩, ?_⟩
        exact ⟨fun hd => absurd (hplaced.deferred.mp hd).2.2 hbefore, fun hd => absurd hd.2.2 hafter⟩
      · exact hs _ ht hid
    | _ => cases hwrite

def keepsPlacement (ticketId : Uuid) (s : PeopleSys) (_ : PeopleCall) (tag : PeopleStmt) : Prop :=
  KeepsPlacement ticketId tag s.db

/-- In every run whose deferrals find a ticket in nobody's hands and whose removals leave it with a team, the
    assignee of the ticket and its routing state agree. -/
theorem placement_agrees {db : PeopleDb} (hdb : db.base.Indexed) {ticketId : Uuid} (hplaced : db.Placed ticketId)
    {s : PeopleSys} (hs : Reachable peopleProgram (keepsPlacement ticketId) (.idle db) s) :
    ∀ t ∈ s.db.base.tickets, t.id = ticketId → Placed t := by
  have hkept : s.db.base.Indexed ∧ s.db.Placed ticketId :=
    peopleRun_keeps (C := KeepsPlacement ticketId)
      (I := fun db => db.base.Indexed ∧ db.Placed ticketId) (P := HoldsTeam ticketId)
      (fun _ h => h.1)
      (fun _ _ _ h hcond heffect => ⟨heffect.indexed h.1, heffect.placed hcond h.2⟩)
      (fun _ _ _ h hws happly => ⟨applyAll_indexed h.1 happly, hws.placed h.2 happly⟩)
      (fun tenantId principal userId input =>
        updateTransaction_holdsTeam ticketId tenantId principal userId input [] (by simp [HoldsTeam]))
      (fun tenantId userId => removeTransaction_holdsTeam ticketId tenantId userId [] (by simp [HoldsTeam]))
      ⟨hdb, hplaced⟩ hs
  exact hkept.2

def staffedTicket : PeopleDb :=
  { base := { oneOpenTicket with users := [adminOne, agentTwo] } }

theorem staffedTicket_indexed : staffedTicket.base.Indexed := oneOpenTicket_ok.indexed

theorem staffedTicket_placed : staffedTicket.Placed 1 := by
  intro t ht _
  rw [List.mem_singleton.mp ht]
  decide

def rotatedTicket : List (Move PeopleCall) :=
  [.spawn (.ticket (.routeTicket { tenantId := 1, ticketId := 1 }
      (.fallBack { outcome := .assigned, userId := some 2, reason := none }))), .step 0, .step 0]

theorem placement_agrees_rotatedTicket : ∃ s : PeopleSys,
    s.db.base.tickets = [{ openTicket with assignedUserId := some 2, routing := .assigned }] ∧
      Placed { openTicket with assignedUserId := some 2, routing := .assigned } := by
  have hrun : (run peopleProgram (fun _ _ tag => tag matches .ticket (.routerRead _) | .ticket (.routerAssign _ _))
      rotatedTicket (.idle staffedTicket)).map (fun s => s.db.base.tickets) =
        some [{ openTicket with assignedUserId := some 2, routing := .assigned }] := by
    decide +kernel
  obtain ⟨s, hs, htickets⟩ := Option.map_eq_some_iff.mp hrun
  have hreach : Reachable peopleProgram (keepsPlacement 1) (.idle staffedTicket) s := by
    refine Reachable.mono (fun s _ tag h => ?_) (reachable_of_run hs)
    split at h
    · trivial
    · trivial
    · cases h
  exact ⟨s, htickets, placement_agrees staffedTicket_indexed staffedTicket_placed hreach _
    (by rw [htickets]; exact List.mem_singleton_self _) rfl⟩

def removedHolder : List (Move PeopleCall) :=
  rotatedTicket ++ [.spawn (.remove 1 2)] ++ List.replicate 12 (.step 1)

theorem removed_holder_leaves_assigned :
    ¬ ∀ db : PeopleDb, db.base.Indexed → ∀ ticketId, db.Placed ticketId → ∀ s, PeopleRun db s →
      ∀ t ∈ s.db.base.tickets, t.id = ticketId → Placed t := by
  intro hclaim
  have hrun : (run peopleProgram (fun _ _ _ => true) removedHolder (.idle staffedTicket)).map
      (fun s => s.db.base.tickets) = some [{ openTicket with routing := .assigned }] := by
    decide +kernel
  obtain ⟨s, hreach, htickets⟩ := ends_of_run_any hrun
  have hplaced := hclaim staffedTicket staffedTicket_indexed 1 staffedTicket_placed s hreach
    { openTicket with routing := .assigned } (by rw [htickets]; exact List.mem_singleton_self _) rfl
  exact absurd hplaced (by decide)

end WhatsappCrm
