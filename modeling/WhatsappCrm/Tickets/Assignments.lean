/-
Purpose: What an assignment request may do to a ticket.
-/
import WhatsappCrm.Tickets.History

namespace WhatsappCrm

open Interleaving Table

/-- The two may be said to be teammates: the same person, or members of a team of the caller's. -/
def Teammate (tenantId : Uuid) (principal : SessionPrincipal) (members : List TeamMember) (userId : Uuid) : Prop :=
  userId = principal.userId ∨
    (members.any fun m => m.tenantId = tenantId ∧ m.userId = userId ∧ principal.teamIds.contains m.teamId = true) = true

def HandoffAllowed (tenantId : Uuid) (principal : SessionPrincipal) (members : List TeamMember)
    (input : TicketAssignInput) (before : Ticket) : Prop :=
  principal.permissions.contains .ticketAssign = true ∨
    before.assignedUserId = some principal.userId ∧
      (∀ teamId ∈ input.teamId.join, principal.teamIds.contains teamId = true) ∧
      (∀ userId ∈ input.userId.join, Teammate tenantId principal members userId) ∧
      hasAssignee (assignmentAfter before input) = true

/-- A statement of the request reads, or is its write of the assignment it worked out on the row it had read. -/
inductive AssignEffect (tenantId : Uuid) (principal : SessionPrincipal) (input : TicketAssignInput) :
    SeenStmt → TicketDb → TicketDb → Prop
  | read {tag : SeenStmt} (htag : ∀ ticketId, tag.1 ≠ .agentAssign ticketId) (db : TicketDb) :
      AssignEffect tenantId principal input tag db db
  | write {before : Ticket} {db db' : TicketDb}
      (hallowed : HandoffAllowed tenantId principal db.teamMembers input before)
      (htickets : db'.tickets = updateWhere (sameTicket before) (setAssignment (assignmentAfter before input)) db.tickets) :
      AssignEffect tenantId principal input (.agentAssign before.id, some before) db db'

def Settled (members : List TeamMember) (db : TicketDb) : Prop := db.Indexed ∧ db.teamMembers = members

section Programs

variable {tenantId : Uuid} {principal : SessionPrincipal} {members : List TeamMember} {input : TicketAssignInput}
  {before : Ticket}

abbrev AssignProg {α : Type} (tenantId : Uuid) (principal : SessionPrincipal) (members : List TeamMember)
    (input : TicketAssignInput) (before : Option Ticket) (p : TicketProg α) : Prop :=
  p.Within (Settled members) fun tag => AssignEffect tenantId principal input (tag, before)

theorem assignRead {tag : Stmt} (htag : ∀ ticketId, tag ≠ .agentAssign ticketId) (seen : Option Ticket)
    (f : TicketDb → α) : AssignProg tenantId principal members input seen (.read tag f) :=
  Prog.Within.read fun db _ => .read htag db

theorem setAssignment_move (now : Millis) {t : Ticket} (assignment : TicketAssignment)
    (ht : sameTicket before t = true) : RowMove now (.agentAssign before.id) t (setAssignment assignment t) := by
  rw [← sameTicket_id ht]
  exact .assign t assignment

theorem writeAssignmentRow_tickets {db : TicketDb} (hdb : db.Indexed) (before : Ticket) (assignment : TicketAssignment)
    (actorUserId : Option Uuid) (cause : EventCause) (reason : Option String) :
    (writeAssignmentRow before assignment actorUserId cause reason db).2.tickets =
      updateWhere (sameTicket before) (setAssignment assignment) db.tickets := by
  have hmove : ∀ t, sameTicket before t = true → RowMove db.now (.agentAssign before.id) t (setAssignment assignment t) :=
    fun t ht => setAssignment_move db.now assignment ht
  rcases updateTickets_cases hdb hmove with ⟨hnone, hsame⟩ | ⟨_, n, hsome⟩
  · simp only [writeAssignmentRow, hnone, hsame]
  · simp only [writeAssignmentRow, hsome, TicketDb.appendEvents]

theorem writeAssignment_assign (hallowed : HandoffAllowed tenantId principal members input before)
    (reason : Option String) (actorUserId : Uuid) : AssignProg tenantId principal members input (some before)
      (writeAssignment before (assignmentAfter before input) reason actorUserId) := by
  apply Prog.Within.bind
  · apply Prog.Within.stmt
    intro db hdb
    exact .write (hdb.2 ▸ hallowed) (writeAssignmentRow_tickets hdb.1 _ _ _ _ _)
  · intro written
    split <;> trivial

theorem assertFound_assign (field : String) (there : TicketDb → Uuid → Bool) (id : Option Uuid) :
    AssignProg tenantId principal members input (some before) (assertFound field there id) := by
  cases id with
  | none => trivial
  | some =>
    apply Prog.Within.bind (assignRead (by simp) _ _)
    intro found
    split <;> trivial

theorem assertAssigneesExist_assign : AssignProg tenantId principal members input (some before)
    (assertAssigneesExist tenantId input) := by
  apply Prog.Within.bind (assertFound_assign _ _ _)
  intro asserted
  split
  · trivial
  · exact assertFound_assign _ _ _

theorem assignAllowed_assign (hallowed : HandoffAllowed tenantId principal members input before) :
    AssignProg tenantId principal members input (some before)
      (if input.reason = none ∧ ticketAssignRequiresReason before = true then
        Pure.pure (.error .ticketReasonRequired)
      else (assertAssigneesExist tenantId input).bind fun
        | .error e => Pure.pure (.error e)
        | .ok () =>
          if movesAnything before (assignmentAfter before input) = false then Pure.pure (.ok before)
          else writeAssignment before (assignmentAfter before input) input.reason principal.userId) := by
  split
  · trivial
  · apply Prog.Within.bind assertAssigneesExist_assign
    intro asserted
    cases asserted with
    | error => trivial
    | ok _ =>
      dsimp only
      split
      · trivial
      · exact writeAssignment_assign hallowed _ _

theorem isTeammate_assign (hno : AssignProg tenantId principal members input (some before) (next false))
    (hyes : Teammate tenantId principal members userId →
      AssignProg tenantId principal members input (some before) (next true)) :
    AssignProg tenantId principal members input (some before) ((isTeammate tenantId principal userId).bind next) := by
  rw [isTeammate]
  split
  · rename_i hself
    exact hyes (.inl hself)
  · split
    · exact hno
    · intro db hdb
      refine ⟨.read (by simp) db, ?_⟩
      dsimp only
      cases hshared : db.teamMembers.any fun m => m.tenantId = tenantId ∧ m.userId = userId ∧
          principal.teamIds.contains m.teamId = true with
      | false => exact hno
      | true => exact hyes (.inr (hdb.2 ▸ hshared))

theorem assignFrom_assign : AssignProg tenantId principal members input (some before)
    (assignFrom tenantId principal input before) := by
  simp only [assignFrom, assertHandoffAllowed, Prog.bind_def]
  split
  · rename_i hpermitted
    exact assignAllowed_assign (.inl hpermitted)
  · split
    · trivial
    · rename_i hholds
      split
      · trivial
      · rename_i hteam
        rw [Prog.bind_assoc]
        have hheld : before.assignedUserId = some principal.userId := by simpa using hholds
        have hteams : ∀ teamId ∈ input.teamId.join, principal.teamIds.contains teamId = true := by
          intro teamId hmem
          have hmem : input.teamId.join = some teamId := hmem
          simpa [hmem] using hteam
        -- what is left once the target, where there is one, is known to be a teammate
        have hrest : (∀ userId ∈ input.userId.join, Teammate tenantId principal members userId) →
            AssignProg tenantId principal members input (some before)
              ((if hasAssignee (assignmentAfter before input) = false then
                  Pure.pure (.error (.ticketHandoffNotPermitted .releasing))
                else Pure.pure (.ok ()) : TicketProg (Except ApiError Unit)).bind fun
                | .error e => Pure.pure (.error e)
                | .ok () =>
                  if input.reason = none ∧ ticketAssignRequiresReason before = true then
                    Pure.pure (.error .ticketReasonRequired)
                  else (assertAssigneesExist tenantId input).bind fun
                    | .error e => Pure.pure (.error e)
                    | .ok () =>
                      if movesAnything before (assignmentAfter before input) = false then Pure.pure (.ok before)
                      else writeAssignment before (assignmentAfter before input) input.reason principal.userId) := by
          intro hteammate
          split
          · trivial
          · rename_i hleft
            exact assignAllowed_assign (.inr ⟨hheld, hteams, hteammate, by simpa using hleft⟩)
        cases htarget : input.userId.join with
        | none =>
          apply hrest
          intro userId hmem
          rw [htarget] at hmem
          cases hmem
        | some =>
          apply isTeammate_assign
          · trivial
          · intro hteammate
            apply hrest
            intro userId' hmem
            rw [htarget] at hmem
            cases hmem
            exact hteammate

end Programs

def AssignStatement : TicketCall → SeenStmt → TicketDb → TicketDb → Prop
  | .assign tenantId principal _ input, tag, db, db' => AssignEffect tenantId principal input tag db db'
  | _, _, _, _ => True

theorem seenProgram_assign (members : List TeamMember) (call : TicketCall) :
    (seenProgram call).Within (Settled members) (AssignStatement call) := by
  cases call with
  | assign =>
    apply Prog.Within.bind
    · apply Prog.Within.bind
      · apply follows_seeing
        apply Prog.Within.bind (assignRead (by simp) _ _)
        intro found
        split
        · trivial
        · split <;> trivial
      · intro required
        cases required with
        | error => trivial
        | ok => exact follows_seeing assignFrom_assign
    · intro answer
      trivial
  | _ => exact Prog.follows_of (fun _ _ _ _ => trivial) _

def TicketCall.assignment? : TicketCall → Option (Uuid × SessionPrincipal × Uuid × TicketAssignInput)
  | .assign tenantId principal ticketId input => some (tenantId, principal, ticketId, input)
  | _ => none

def AssignStep (s : SeenSys) (tenantId : Uuid) (principal : SessionPrincipal) (input : TicketAssignInput) (tag : SeenStmt)
    (s' : SeenSys) : Prop :=
  ∃ (i : Nat) (ticketId : Uuid) (β : Type) (act : TicketDb → β × TicketDb) (next : β → SeenProg TicketReply),
    s.calls[i]? = some (.assign tenantId principal ticketId input, .atomic tag act next) ∧
      s' = s.exec i (.assign tenantId principal ticketId input) act next

variable {s s' : SeenSys}

theorem AssignStep.of_play {tenantId : Uuid} {principal : SessionPrincipal}
    {input : TicketAssignInput} (hplay : play seenProgram (fun _ _ _ => true) s (.step i) = some s')
    (hcalled : (s.calls[i]?.bind (·.1.assignment?)) = some (tenantId, principal, ticketId, input)) :
    ∃ tag, AssignStep s tenantId principal input tag s' := by
  obtain ⟨call, tag, β, act, next, hcall, rfl⟩ := play_exec hplay
  rw [hcall, Option.bind_some] at hcalled
  cases call with
  | assign =>
    cases hcalled
    exact ⟨tag, i, ticketId, β, act, next, hcall, rfl⟩
  | _ => cases hcalled

theorem Effect.teamMembers_eq {tag : Stmt} {db db' : TicketDb} (h : Effect tag db db') : db'.teamMembers = db.teamMembers := by
  cases h <;> rfl

theorem TicketRun.teamMembers_eq {db : TicketDb} (hdb : db.Ok) {s : TicketSys} (hs : TicketRun db s) :
    s.db.teamMembers = db.teamMembers := by
  induction hs with
  | refl => rfl
  | tail hreach hstep ih =>
    obtain ⟨hok, hfollows⟩ := TicketRun.ok hdb hreach
    cases hstep with
    | spawn => exact ih
    | exec _ i c tag act next hcall =>
      exact (hfollows.exec_spec hok.indexed hcall).1.effect.teamMembers_eq.trans ih

theorem SeenRun.settled {db : TicketDb} (hdb : db.Ok) (hs : SeenRun db s) : Settled db.teamMembers s.db :=
  ⟨(hs.ok hdb).indexed, (ticketRun_iff.mpr ⟨s, hs, rfl⟩ : TicketRun db (s.retag Prod.fst)).teamMembers_eq hdb⟩

theorem SeenRun.assignFollows {db : TicketDb} (hdb : db.Ok) (hs : SeenRun db s) :
    s.Follows (Settled db.teamMembers) fun call tag db _ db' => AssignStatement call tag db db' :=
  Reachable.follows (seenProgram_assign db.teamMembers) (fun _ hr => SeenRun.settled hdb hr) hs

theorem AssignStep.effect {db : TicketDb} (hdb : db.Ok) (hs : SeenRun db s) {tenantId : Uuid}
    {principal : SessionPrincipal} {input : TicketAssignInput} {tag : SeenStmt}
    (hstep : AssignStep s tenantId principal input tag s') : AssignEffect tenantId principal input tag s.db s'.db := by
  obtain ⟨i, ticketId, β, act, next, hcall, rfl⟩ := hstep
  exact ((hs.assignFollows hdb).exec_spec (hs.settled hdb) hcall).1

def AbsentKept (input : TicketAssignInput) (t t' : Ticket) : Prop :=
  (input.userId = none → t'.assignedUserId = t.assignedUserId) ∧
    (input.teamId = none → t'.assignedTeamId = t.assignedTeamId)

instance (input : TicketAssignInput) (t t' : Ticket) : Decidable (AbsentKept input t t') :=
  inferInstanceAs (Decidable ((_ → _) ∧ (_ → _)))

def KeepsAbsent (input : TicketAssignInput) (db db' : TicketDb) : Prop :=
  ∀ t ∈ db.tickets, ∀ t' ∈ db'.tickets, t'.id = t.id → AbsentKept input t t'

instance (input : TicketAssignInput) (db db' : TicketDb) : Decidable (KeepsAbsent input db db') :=
  inferInstanceAs (Decidable (∀ t ∈ db.tickets, ∀ t' ∈ db'.tickets, _ → _))

/-- What has to hold when the write of an assignment is executed: in the fields the body leaves out the ticket is as it
    was when the request read it. -/
def StillRead (input : TicketAssignInput) (db : TicketDb) : SeenStmt → Prop
  | (.agentAssign _, some before) => ∀ t ∈ db.tickets, sameTicket before t = true → AbsentKept input before t
  | _ => True

theorem StillRead.of_not_write (input : TicketAssignInput) (db : TicketDb) {tag : SeenStmt}
    (htag : ∀ ticketId, tag.1 ≠ .agentAssign ticketId) : StillRead input db tag := by
  rcases tag with ⟨tag, before⟩
  cases tag with
  | agentAssign ticketId => exact absurd rfl (htag ticketId)
  | _ => trivial

theorem AbsentKept.refl (input : TicketAssignInput) (t : Ticket) : AbsentKept input t t := ⟨fun _ => rfl, fun _ => rfl⟩

theorem absentKept_setAssignment_iff (input : TicketAssignInput) (before t : Ticket) :
    AbsentKept input t (setAssignment (assignmentAfter before input) t) ↔ AbsentKept input before t := by
  rw [AbsentKept, AbsentKept]
  apply and_congr
  · apply imp_congr_right
    intro habsent
    simp only [setAssignment, assignmentAfter, habsent, Option.getD_none]
    exact eq_comm
  · apply imp_congr_right
    intro habsent
    simp only [setAssignment, assignmentAfter, habsent, Option.getD_none]
    exact eq_comm

section Effects

variable {tenantId : Uuid} {principal : SessionPrincipal} {input : TicketAssignInput} {tag : SeenStmt} {db db' : TicketDb}

theorem AssignEffect.row_after (h : AssignEffect tenantId principal input tag db db') {t : Ticket} (ht : t ∈ db.tickets) :
    ∃ t' ∈ db'.tickets, t'.id = t.id := by
  cases h with
  | read => exact ⟨t, ht, rfl⟩
  | @write before _ _ _ htickets =>
    rw [htickets]
    refine ⟨_, mem_updateWhere_of_mem ht, ?_⟩
    split <;> rfl

theorem eq_assigned (hdb : db.Indexed) {before : Ticket}
    (htickets : db'.tickets = updateWhere (sameTicket before) (setAssignment assignment) db.tickets) {t : Ticket}
    (ht : t ∈ db.tickets) (ht' : t' ∈ db'.tickets) (hid : t'.id = t.id) :
    t' = if sameTicket before t then setAssignment assignment t else t := by
  rw [htickets] at ht'
  have hkeep : ∀ t, (setAssignment assignment t).id = t.id := fun _ => rfl
  exact hdb.eq_updated hkeep ht ht' hid

theorem mem_assigned {before : Ticket}
    (htickets : db'.tickets = updateWhere (sameTicket before) (setAssignment assignment) db.tickets) {t : Ticket}
    (ht : t ∈ db.tickets) (hsame : sameTicket before t = true) : setAssignment assignment t ∈ db'.tickets := by
  rw [htickets]
  have hmem := mem_updateWhere_of_mem (p := sameTicket before) (f := setAssignment assignment) ht
  rwa [if_pos hsame] at hmem

theorem AssignEffect.keepsAbsent_iff (h : AssignEffect tenantId principal input tag db db') (hdb : db.Indexed) :
    KeepsAbsent input db db' ↔ StillRead input db tag := by
  cases h with
  | read htag =>
    constructor
    · intro _
      exact .of_not_write _ _ htag
    · intro _ t ht t' ht' hid
      rw [hdb.eq_of_id ht' ht hid]
      exact .refl _ _
  | @write before _ _ _ htickets =>
    constructor
    · intro hkeeps t ht hsame
      have hkept := hkeeps t ht _ (mem_assigned htickets ht hsame) rfl
      exact (absentKept_setAssignment_iff _ _ _).mp hkept
    · intro hread t ht t' ht' hid
      rw [eq_assigned hdb htickets ht ht' hid]
      split
      · rename_i hsame
        exact (absentKept_setAssignment_iff _ _ _).mpr (hread t ht hsame)
      · exact .refl _ _

end Effects

def LeavesOut (input input' : TicketAssignInput) : Prop :=
  (input.userId = none → input'.userId = none) ∧ (input.teamId = none → input'.teamId = none)

/-- The steps are of assignment requests that leave out what `input` leaves out, each meeting its condition. -/
def LeavingOut (input : TicketAssignInput) (s : SeenSys) (call : TicketCall) (tag : SeenStmt) : Prop :=
  ∃ tenantId principal ticketId input', call = .assign tenantId principal ticketId input' ∧ LeavesOut input input' ∧
    StillRead input' s.db tag

/-- Over a stretch of such steps the rows stay, and keep what is left out. -/
theorem keepsAbsent_of_leavingOut {db : TicketDb} (hdb : db.Ok) {input : TicketAssignInput} (hs : SeenRun db s) (hlater : Reachable seenProgram (LeavingOut input) s s') {t : Ticket} (ht : t ∈ s.db.tickets) :
    ∃ t' ∈ s'.db.tickets, t'.id = t.id ∧ AbsentKept input t t' := by
  induction hlater with
  | refl => exact ⟨t, ht, rfl, .refl input t⟩
  | tail hreach hstep ih =>
    obtain ⟨t₁, ht₁, hid₁, huser₁, hteam₁⟩ := ih
    have hrun : SeenRun db _ := hs.trans (Reachable.mono (fun _ _ _ _ => trivial) hreach)
    cases hstep with
    | spawn => exact ⟨t₁, ht₁, hid₁, huser₁, hteam₁⟩
    | exec _ i c tag act next hcall hcond =>
      obtain ⟨tenantId, principal, ticketId, input', rfl, ⟨huser, hteam⟩, hread⟩ := hcond
      have heffect := AssignStep.effect hdb hrun ⟨i, ticketId, _, act, next, hcall, rfl⟩
      obtain ⟨t₂, ht₂, hid₂⟩ := heffect.row_after ht₁
      have hkept := (heffect.keepsAbsent_iff (hrun.ok hdb).indexed).mpr hread t₁ ht₁ t₂ ht₂ hid₂
      refine ⟨t₂, ht₂, hid₂.trans hid₁, ?_, ?_⟩
      · intro habsent
        exact (hkept.1 (huser habsent)).trans (huser₁ habsent)
      · intro habsent
        exact (hkept.2 (hteam habsent)).trans (hteam₁ habsent)

def supervisor : SessionPrincipal :=
  { userId := 9, role := .supervisor, permissions := [.ticketReadAll, .ticketAssign], teamIds := [] }

def oneOpenTicketToGive : TicketDb :=
  { oneOpenTicket with
    users := [{ id := 7, tenantId := 1, status := .active }]
    teams := [(1, 3)] }

theorem oneOpenTicketToGive_ok : oneOpenTicketToGive.Ok where
  indexed := oneOpenTicket_ok.indexed
  numbered := oneOpenTicket_ok.numbered
  stamped := oneOpenTicket_ok.stamped

def assignmentStarted : SeenSys :=
  (Sys.idle oneOpenTicketToGive).spawn seenProgram (.assign 1 supervisor 1 { userId := some (some 7) })

theorem assignmentStarted_run : SeenRun oneOpenTicketToGive assignmentStarted := .single (.spawn _ _)

/-- One supervisor names an agent, and another a team; both have read the ticket before either writes. -/
def disjointSchedule : List (Move TicketCall) :=
  [.spawn (.assign 1 supervisor 1 { userId := some (some 7) }), .spawn (.assign 1 supervisor 1 { teamId := some (some 3) }),
    .step 0, .step 1, .step 0, .step 0, .step 1]

def Moved (t t' : Ticket) : Prop := t'.assignedUserId ≠ t.assignedUserId ∨ t'.assignedTeamId ≠ t.assignedTeamId

instance (t t' : Ticket) : Decidable (Moved t t') := inferInstanceAs (Decidable (_ ∨ _))

instance (tenantId : Uuid) (principal : SessionPrincipal) (members : List TeamMember) (userId : Uuid) :
    Decidable (Teammate tenantId principal members userId) := inferInstanceAs (Decidable (_ ∨ _))

structure HandedOn (tenantId : Uuid) (principal : SessionPrincipal) (members : List TeamMember) (t t' : Ticket) : Prop where
  held : t.assignedUserId = some principal.userId
  somebody : hasAssignee { assignedUserId := t'.assignedUserId, assignedTeamId := t'.assignedTeamId } = true
  teammate : t'.assignedUserId ≠ t.assignedUserId → ∀ userId ∈ t'.assignedUserId, Teammate tenantId principal members userId
  team : t'.assignedTeamId ≠ t.assignedTeamId → ∀ teamId ∈ t'.assignedTeamId, principal.teamIds.contains teamId = true

instance (tenantId : Uuid) (principal : SessionPrincipal) (members : List TeamMember) (t t' : Ticket) :
    Decidable (HandedOn tenantId principal members t t') :=
  decidable_of_iff
    (t.assignedUserId = some principal.userId ∧
      hasAssignee { assignedUserId := t'.assignedUserId, assignedTeamId := t'.assignedTeamId } = true ∧
      (t'.assignedUserId ≠ t.assignedUserId → ∀ userId ∈ t'.assignedUserId, Teammate tenantId principal members userId) ∧
      (t'.assignedTeamId ≠ t.assignedTeamId → ∀ teamId ∈ t'.assignedTeamId, principal.teamIds.contains teamId = true))
    ⟨fun ⟨held, somebody, teammate, team⟩ => ⟨held, somebody, teammate, team⟩,
      fun h => ⟨h.held, h.somebody, h.teammate, h.team⟩⟩

/-- A row whose assignment changes was the caller's to hand on, and went where the bound allows. -/
def WithinBound (tenantId : Uuid) (principal : SessionPrincipal) (db db' : TicketDb) : Prop :=
  ∀ t ∈ db.tickets, ∀ t' ∈ db'.tickets, t'.id = t.id → Moved t t' → HandedOn tenantId principal db.teamMembers t t'

instance (tenantId : Uuid) (principal : SessionPrincipal) (db db' : TicketDb) :
    Decidable (WithinBound tenantId principal db db') :=
  inferInstanceAs (Decidable (∀ t ∈ db.tickets, ∀ t' ∈ db'.tickets, _ → _ → _))

/-- The condition on the write of an assignment: the ticket already is with whom it says, or the caller holds it
    still and the team is the one it has or one of the caller's. -/
def MayStillHandOff (principal : SessionPrincipal) (input : TicketAssignInput) (db : TicketDb) : SeenStmt → Prop
  | (.agentAssign _, some before) => ∀ t ∈ db.tickets, sameTicket before t = true →
      ¬ Moved t (setAssignment (assignmentAfter before input) t) ∨
        t.assignedUserId = some principal.userId ∧
          (t.assignedTeamId = (assignmentAfter before input).assignedTeamId ∨
            (assignmentAfter before input).assignedTeamId.all principal.teamIds.contains = true)
  | _ => True

theorem MayStillHandOff.of_not_write (principal : SessionPrincipal) (input : TicketAssignInput) (db : TicketDb)
    {tag : SeenStmt} (htag : ∀ ticketId, tag.1 ≠ .agentAssign ticketId) : MayStillHandOff principal input db tag := by
  rcases tag with ⟨tag, before⟩
  cases tag with
  | agentAssign ticketId => exact absurd rfl (htag ticketId)
  | _ => trivial

theorem not_moved_self (t : Ticket) : ¬ Moved t t := by simp [Moved]

section Effects

variable {tenantId : Uuid} {principal : SessionPrincipal} {input : TicketAssignInput} {tag : SeenStmt} {db db' : TicketDb}
  {members : List TeamMember} {before t : Ticket}

theorem teammate_of_allowed (hno : principal.permissions.contains .ticketAssign = false)
    (hallowed : HandoffAllowed tenantId principal members input before)
    (hheld : t.assignedUserId = some principal.userId)
    (hmoved : (assignmentAfter before input).assignedUserId ≠ t.assignedUserId) :
    ∀ userId ∈ (assignmentAfter before input).assignedUserId, Teammate tenantId principal members userId := by
  rcases hallowed with hpermitted | ⟨hread, _, hteammate, _⟩
  · rw [hno] at hpermitted
    cases hpermitted
  · intro userId hmem
    cases hinput : input.userId with
    | none =>
      -- the field is written back as it was read, when the caller held the ticket as now
      simp only [assignmentAfter, hinput, Option.getD_none] at hmoved
      exact absurd (hread.trans hheld.symm) hmoved
    | some =>
      apply hteammate
      simpa [assignmentAfter, hinput] using hmem

theorem HandoffAllowed.hasAssignee (hno : principal.permissions.contains .ticketAssign = false)
    (hallowed : HandoffAllowed tenantId principal members input before) :
    hasAssignee (assignmentAfter before input) = true := by
  rcases hallowed with hpermitted | ⟨_, _, _, hleft⟩
  · rw [hno] at hpermitted
    cases hpermitted
  · exact hleft

theorem AssignEffect.withinBound_iff (h : AssignEffect tenantId principal input tag db db') (hdb : db.Indexed)
    (hno : principal.permissions.contains .ticketAssign = false) :
    WithinBound tenantId principal db db' ↔ MayStillHandOff principal input db tag := by
  cases h with
  | read htag =>
    constructor
    · intro _
      exact .of_not_write _ _ _ htag
    · intro _ t ht t' ht' hid hmoved
      rw [hdb.eq_of_id ht' ht hid] at hmoved
      exact absurd hmoved (not_moved_self t)
  | @write before _ _ hallowed htickets =>
    constructor
    · intro hbound t ht hsame
      by_cases hmoved : Moved t (setAssignment (assignmentAfter before input) t)
      · right
        have hhanded := hbound t ht _ (mem_assigned htickets ht hsame) rfl hmoved
        refine ⟨hhanded.held, ?_⟩
        by_cases hteam : t.assignedTeamId = (assignmentAfter before input).assignedTeamId
        · exact .inl hteam
        · right
          rw [Option.all_eq_true]
          exact hhanded.team fun heq => hteam heq.symm
      · exact .inl hmoved
    · intro hmay t ht t' ht' hid hmoved
      rw [eq_assigned hdb htickets ht ht' hid] at hmoved ⊢
      split at hmoved
      · rename_i hsame
        rw [if_pos hsame]
        rcases hmay t ht hsame with hstays | ⟨hheld, hteam⟩
        · exact absurd hmoved hstays
        · constructor
          · exact hheld
          · exact hallowed.hasAssignee hno
          · intro huser
            exact teammate_of_allowed hno hallowed hheld huser
          · intro hother
            rcases hteam with hteam | hteam
            · exact absurd hteam.symm hother
            · exact fun teamId hmem => Option.all_eq_true _ _ |>.mp hteam teamId hmem
      · exact absurd hmoved (not_moved_self t)

end Effects

def onlyWhileHeld (s : SeenSys) (call : TicketCall) (tag : SeenStmt) : Prop :=
  ∀ tenantId principal ticketId input, call = .assign tenantId principal ticketId input →
    principal.permissions.contains .ticketAssign = false → MayStillHandOff principal input s.db tag

def agentSeven : SessionPrincipal := { userId := 7, permissions := [.ticketReadAll], teamIds := [3] }

/-- The agent holds the open ticket, and has a teammate; a supervisor has another agent to give it to. -/
def heldTicket : TicketDb :=
  { oneOpenTicket with
    tickets := [{ openTicket with assignedUserId := some 7, routing := .manual }]
    users := [{ id := 8, tenantId := 1, status := .active }, { id := 10, tenantId := 1, status := .active }]
    teams := [(1, 3)]
    teamMembers := [{ tenantId := 1, teamId := 3, userId := 8 }] }

theorem heldTicket_ok : heldTicket.Ok where
  indexed := show Indexed heldTicket.tickets by decide
  numbered := by
    intro t ht
    rw [List.mem_singleton.mp ht]
    exact ⟨2, by decide⟩
  stamped t ht := by
    rw [List.mem_singleton.mp ht]
    exact .fresh rfl rfl rfl rfl

def handoffStarted : SeenSys :=
  (Sys.idle heldTicket).spawn seenProgram
    (.assign 1 agentSeven 1 { userId := some (some 8), reason := some "end of shift" })

def handoffSchedule : List (Move TicketCall) :=
  [.spawn (.assign 1 agentSeven 1 { userId := some (some 8), reason := some "end of shift" }),
    .spawn (.assign 1 supervisor 1 { userId := some (some 10), reason := some "needs an expert" }),
    .step 0, .step 1, .step 0, .step 0, .step 1, .step 1]

end WhatsappCrm
