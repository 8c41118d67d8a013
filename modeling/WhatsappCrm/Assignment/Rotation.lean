/-
Purpose: `RotationFallbackResolver` (`assignment/rotation-fallback.resolver.ts`): who takes the next ticket nobody's
  rule claimed.
-/
import Mathlib.Data.Prod.Lex
import WhatsappCrm.Lib.Keyset
import WhatsappCrm.Tickets.Command
import WhatsappCrm.Lib.RoundRobin

namespace WhatsappCrm.Assignment

variable (cursor : Option Uuid)

inductive AgentAvailability where
  | available
  | away
  | offline
deriving DecidableEq

structure RotationAgent extends User where
  availability : AgentAvailability
  lastSeenAt : Option Millis

/-- A row of `assignment_state`: where the ring of a scope stopped. -/
structure RotationState where
  tenantId : Uuid
  teamId : Option Uuid
  lastAssignedUserId : Option Uuid

structure RotationDb where
  base : TicketDb
  agents : List RotationAgent
  /-- `tenant_settings.default_max_concurrent_tickets`, of the tenants that have a row. -/
  defaultCaps : List (Uuid × Nat)
  states : List RotationState

def defaultMaxConcurrentTickets : Nat := 5

def presenceWindowMs : Millis := 15 * 60 * 1000

def inScope (db : RotationDb) (teamId : Option Uuid) (u : RotationAgent) : Bool :=
  match teamId with
  | none => u.role = .agent
  | some teamId => db.base.teamMembers.any fun m => m.tenantId = u.tenantId ∧ m.userId = u.id ∧ m.teamId = teamId

def inPool (db : RotationDb) (tenantId : Uuid) (teamId : Option Uuid) (u : RotationAgent) : Bool :=
  (u.tenantId = tenantId ∧ u.status = .active) && inScope db teamId u

def isPresent (now : Millis) (u : RotationAgent) : Bool :=
  u.availability = .available && u.lastSeenAt.any fun seen => now - presenceWindowMs < seen

/-- `coalesce(users.max_concurrent_tickets, tenant_settings.default_max_concurrent_tickets, …)`. -/
def effectiveCap (db : RotationDb) (tenantId : Uuid) (u : RotationAgent) : Nat :=
  u.maxConcurrentTickets.getD ((db.defaultCaps.lookup tenantId).getD defaultMaxConcurrentTickets)

def activeCount (db : RotationDb) (tenantId userId : Uuid) : Nat :=
  db.base.tickets.countP fun t => t.tenantId = tenantId ∧ t.assignedUserId = some userId ∧ t.status.isActive = true

structure Candidate where
  userId : Uuid
  cap : Nat
  activeCount : Nat

def presentAgents (db : RotationDb) (tenantId : Uuid) (teamId : Option Uuid) : List RotationAgent :=
  db.agents.filter fun u => inPool db tenantId teamId u && isPresent db.base.now u

def candidate (db : RotationDb) (tenantId : Uuid) (u : RotationAgent) : Candidate where
  userId := u.id
  cap := effectiveCap db tenantId u
  activeCount := activeCount db tenantId u.id

/-- `coalesce(c.id > cursor, false)`. -/
def afterCursor (id : Uuid) : Bool := cursor.any fun last => last.toNat < id.toNat

/-- The `ORDER BY`: the load, then whoever comes after the cursor, then the id. -/
def takesBefore (a b : Candidate) : Bool :=
  a.activeCount < b.activeCount ||
    (a.activeCount = b.activeCount &&
      ((afterCursor cursor a.userId && !afterCursor cursor b.userId) ||
        (afterCursor cursor a.userId = afterCursor cursor b.userId && a.userId.toNat ≤ b.userId.toNat)))

def readCandidates (db : RotationDb) (tenantId : Uuid) (teamId cursor : Option Uuid) : List Candidate :=
  Keyset.sortBy (takesBefore cursor) ((presentAgents db tenantId teamId).map (candidate db tenantId))

def readCursor (db : RotationDb) (tenantId : Uuid) (teamId : Option Uuid) : Option Uuid :=
  (db.states.find? fun s => s.tenantId = tenantId ∧ s.teamId = teamId).bind (·.lastAssignedUserId)

/-- `advanceCursor`: `ON CONFLICT (tenant_id, team_id) DO UPDATE`, where no team is a scope of its own. -/
def advanceCursor (db : RotationDb) (tenantId : Uuid) (teamId : Option Uuid) (userId : Uuid) : RotationDb :=
  if db.states.any fun s => s.tenantId = tenantId ∧ s.teamId = teamId then
    { db with
      states := db.states.map fun s =>
        if s.tenantId = tenantId ∧ s.teamId = teamId then { s with lastAssignedUserId := some userId } else s }
  else { db with states := db.states ++ [{ tenantId, teamId, lastAssignedUserId := some userId }] }

def explainEmptyRotation (db : RotationDb) (tenantId : Uuid) (teamId : Option Uuid) (candidates : List Candidate) :
    FallbackAssignmentReason :=
  if candidates ≠ [] then .allAtCapacity
  else if 0 < db.agents.countP (inPool db tenantId teamId) then .noneAvailable
  else .noCandidatePool

def chosen (db : RotationDb) (tenantId : Uuid) (teamId : Option Uuid) : Option Candidate :=
  (readCandidates db tenantId teamId (readCursor db tenantId teamId)).find? fun c => c.activeCount < c.cap

def resolveFallbackAssignment (tenantId : Uuid) (teamId : Option Uuid) (db : RotationDb) :
    FallbackAssignmentDecision × RotationDb :=
  match chosen db tenantId teamId with
  | some c =>
    ({ outcome := .assigned, userId := some c.userId, reason := none }, advanceCursor db tenantId teamId c.userId)
  | none =>
    ({ outcome := .noEligibleAgent
       userId := none
       reason := some (explainEmptyRotation db tenantId teamId
        (readCandidates db tenantId teamId (readCursor db tenantId teamId))) }, db)

def Candidate.key (c : Candidate) : Nat ×ₗ Nat ×ₗ Nat :=
  toLex (c.activeCount, toLex ((if afterCursor cursor c.userId then 0 else 1), c.userId.toNat))

theorem takesBefore_sorts : Keyset.SortsBy (takesBefore cursor) (Candidate.key cursor) := by
  intro a b
  simp only [takesBefore, Candidate.key, Prod.Lex.toLex_le_toLex, Bool.or_eq_true, Bool.and_eq_true, decide_eq_true_eq]
  cases afterCursor cursor a.userId <;> cases afterCursor cursor b.userId <;> simp

section Choice

variable {db : RotationDb} {tenantId : Uuid} {teamId : Option Uuid}

theorem mem_readCandidates {cursor : Option Uuid} :
    c ∈ readCandidates db tenantId teamId cursor ↔ ∃ u ∈ presentAgents db tenantId teamId, candidate db tenantId u = c := by
  rw [readCandidates, (Keyset.sortBy_perm _ _).mem_iff, List.mem_map]

theorem chosen_spec (h : chosen db tenantId teamId = some c) :
    (∃ u ∈ presentAgents db tenantId teamId, candidate db tenantId u = c) ∧ c.activeCount < c.cap ∧
      ∀ u ∈ presentAgents db tenantId teamId, (candidate db tenantId u).activeCount < (candidate db tenantId u).cap →
        takesBefore (readCursor db tenantId teamId) c (candidate db tenantId u) = true := by
  rw [chosen] at h
  obtain ⟨hbelow, before, after, hsplit, hnone⟩ := List.find?_eq_some_iff_append.mp h
  rw [decide_eq_true_eq] at hbelow
  refine ⟨mem_readCandidates.mp (List.mem_of_find?_eq_some h), hbelow, fun u hu hcap => ?_⟩
  have hsorts := takesBefore_sorts (readCursor db tenantId teamId)
  have hmem : candidate db tenantId u ∈ readCandidates db tenantId teamId (readCursor db tenantId teamId) :=
    mem_readCandidates.mpr ⟨u, hu, rfl⟩
  rw [hsplit] at hmem
  have hsorted := Keyset.pairwise_sortBy hsorts ((presentAgents db tenantId teamId).map (candidate db tenantId))
  rw [show Keyset.sortBy (takesBefore (readCursor db tenantId teamId))
      ((presentAgents db tenantId teamId).map (candidate db tenantId)) = before ++ c :: after from hsplit] at hsorted
  rw [hsorts]
  rcases List.mem_append.mp hmem with hbefore | hafter
  · have hfull := hnone _ hbefore
    simp [hcap] at hfull
  · rcases List.mem_cons.mp hafter with rfl | hafter
    · exact le_rfl
    · exact (List.pairwise_cons.mp (List.pairwise_append.mp hsorted).2.1).1 _ hafter

theorem chosen_eq_none_iff : chosen db tenantId teamId = none ↔
      ∀ u ∈ presentAgents db tenantId teamId, effectiveCap db tenantId u ≤ activeCount db tenantId u.id := by
  rw [chosen, List.find?_eq_none]
  constructor
  · intro h u hu
    have hfull := h (candidate db tenantId u) (mem_readCandidates.mpr ⟨u, hu, rfl⟩)
    exact Nat.not_lt.mp fun hlt => hfull (decide_eq_true hlt)
  · intro h c hc hlt
    obtain ⟨u, hu, rfl⟩ := mem_readCandidates.mp hc
    exact absurd (of_decide_eq_true hlt) (Nat.not_lt.mpr (h u hu))

theorem readCandidates_eq_nil_iff {cursor : Option Uuid} :
    readCandidates db tenantId teamId cursor = [] ↔ presentAgents db tenantId teamId = [] := by
  have hperm := Keyset.sortBy_perm (takesBefore cursor) ((presentAgents db tenantId teamId).map (candidate db tenantId))
  constructor
  · intro h
    have hnil : (presentAgents db tenantId teamId).map (candidate db tenantId) = [] :=
      List.nil_perm.mp ((show readCandidates db tenantId teamId cursor = [] from h) ▸ hperm)
    exact List.map_eq_nil_iff.mp hnil
  · intro h
    rw [readCandidates, h]
    rfl

end Choice

theorem readCursor_advance (db : RotationDb) (tenantId : Uuid) (teamId : Option Uuid) (userId : Uuid) :
    readCursor (advanceCursor db tenantId teamId userId) tenantId teamId = some userId := by
  unfold readCursor advanceCursor
  split
  · rename_i hany
    induction hstates : db.states generalizing db with
    | nil =>
      rw [hstates] at hany
      cases hany
    | cons s states ih =>
      by_cases hs : s.tenantId = tenantId ∧ s.teamId = teamId
      · simp [hs]
      · rw [hstates] at hany
        have hrest : states.any (fun s => decide (s.tenantId = tenantId ∧ s.teamId = teamId)) = true := by
          simpa [hs] using hany
        have ih' := ih { db with states } hrest rfl
        simp only [List.map_cons, if_neg hs, List.find?_cons, decide_eq_false hs]
        simpa using ih'
  · rename_i hany
    have hnone : db.states.find? (fun s => decide (s.tenantId = tenantId ∧ s.teamId = teamId)) = none := by
      simpa [List.find?_eq_none] using hany
    rw [List.find?_append, hnone]
    simp

end WhatsappCrm.Assignment

namespace WhatsappCrm.Assignment

open RoundRobin

section Scope

variable (tenantId : Uuid) (teamId : Option Uuid)

structure EligiblePool (pool : List Uuid) (db : RotationDb) : Prop where
  present : ∀ id, (∃ u ∈ presentAgents db tenantId teamId, u.id = id) ↔ id ∈ pool
  belowCap : ∀ u ∈ presentAgents db tenantId teamId, activeCount db tenantId u.id < effectiveCap db tenantId u

/-- Serial picks: each is made of the state it finds, where the pool is the same as ever and the cursor is where the pick
    before left it. -/
inductive Picks (pool : List Uuid) (between : RotationDb → Uuid → RotationDb → Prop) :
    RotationDb → List Uuid → RotationDb → Prop where
  | nil (db : RotationDb) : Picks pool between db [] db
  | cons {db picked next last : RotationDb} {userId : Uuid} {picks : List Uuid}
      (eligible : EligiblePool tenantId teamId pool db)
      (pick : resolveFallbackAssignment tenantId teamId db =
        ({ outcome := .assigned, userId := some userId, reason := none }, picked))
      (cursor : readCursor next tenantId teamId = readCursor picked tenantId teamId) (change : between db userId next)
      (rest : Picks pool between next picks last) : Picks pool between db (userId :: picks) last

def EqualLoads (pool : List Uuid) (db : RotationDb) (_ : Uuid) (_ : RotationDb) : Prop :=
  ∀ a ∈ pool, ∀ b ∈ pool, activeCount db tenantId a = activeCount db tenantId b

def StaysPicked (db : RotationDb) (userId : Uuid) (next : RotationDb) : Prop :=
  ∀ id, activeCount next tenantId id = if id = userId then activeCount db tenantId id + 1 else activeCount db tenantId id

variable {tenantId teamId}

variable {db picked : RotationDb}

theorem chosen_of_pick (h : resolveFallbackAssignment tenantId teamId db =
      ({ outcome := .assigned, userId := some userId, reason := none }, picked)) :
    ∃ c, chosen db tenantId teamId = some c ∧ c.userId = userId ∧ readCursor picked tenantId teamId = some userId := by
  unfold resolveFallbackAssignment at h
  split at h
  · rename_i c hc
    cases h
    exact ⟨c, hc, rfl, readCursor_advance db tenantId teamId c.userId⟩
  · cases h

theorem before_of_takesBefore (h : takesBefore cursor a b = true) (hload : a.activeCount = b.activeCount) :
    Before (cursor.map BitVec.toNat) a.userId.toNat b.userId.toNat := by
  have hafter : ∀ id : Uuid, (∃ p ∈ cursor.map BitVec.toNat, p < id.toNat) ↔ afterCursor cursor id = true := by
    intro id
    simp [afterCursor, Option.any_eq_true]
  simp only [Before, hafter]
  simp only [takesBefore, hload, lt_irrefl, decide_false, Bool.false_or, decide_true, Bool.true_and, Bool.or_eq_true,
    Bool.and_eq_true, decide_eq_true_eq, Bool.not_eq_true'] at h
  rcases h with ⟨ha, hb⟩ | ⟨hsame, hle⟩
  · exact ⟨fun _ => ha, fun himp => absurd (himp ha) (by simp [hb])⟩
  · exact ⟨fun hb => hsame ▸ hb, fun _ => hle⟩

theorem pick_isNext (heligible : EligiblePool tenantId teamId pool db)
    (hequal : EqualLoads tenantId pool db userId next) (hpick : resolveFallbackAssignment tenantId teamId db =
      ({ outcome := .assigned, userId := some userId, reason := none }, picked)) :
    IsNext (pool.map BitVec.toNat) ((readCursor db tenantId teamId).map BitVec.toNat) userId.toNat := by
  obtain ⟨c, hchosen, rfl, _⟩ := chosen_of_pick hpick
  obtain ⟨⟨u, hu, rfl⟩, _, hfirst⟩ := chosen_spec hchosen
  have hmem : u.id ∈ pool := (heligible.present u.id).mp ⟨u, hu, rfl⟩
  refine ⟨List.mem_map_of_mem hmem, fun b hb => ?_⟩
  obtain ⟨id, hid, rfl⟩ := List.mem_map.mp hb
  obtain ⟨v, hv, rfl⟩ := (heligible.present id).mpr hid
  exact before_of_takesBefore (hfirst v hv (heligible.belowCap v hv)) (hequal u.id hmem v.id hid)

theorem pick_least (heligible : EligiblePool tenantId teamId pool db)
    (hpick : resolveFallbackAssignment tenantId teamId db =
      ({ outcome := .assigned, userId := some userId, reason := none }, picked)) :
    ∀ b ∈ pool, activeCount db tenantId userId ≤ activeCount db tenantId b := by
  obtain ⟨c, hchosen, rfl, _⟩ := chosen_of_pick hpick
  obtain ⟨⟨u, hu, rfl⟩, _, hfirst⟩ := chosen_spec hchosen
  intro b hb
  obtain ⟨v, hv, rfl⟩ := (heligible.present b).mpr hb
  have hbefore := hfirst v hv (heligible.belowCap v hv)
  simp only [takesBefore, Bool.or_eq_true, Bool.and_eq_true, decide_eq_true_eq] at hbefore
  rcases hbefore with hlt | ⟨hsame, _⟩
  · exact Nat.le_of_lt hlt
  · exact Nat.le_of_eq hsame

theorem Picks.turns (h : Picks tenantId teamId pool (EqualLoads tenantId pool) first picks last) :
    RoundRobin.Turns (pool.map BitVec.toNat) ((readCursor first tenantId teamId).map BitVec.toNat) (picks.map BitVec.toNat) := by
  induction h with
  | nil => exact .nil _
  | cons eligible pick cursor change rest ih =>
    obtain ⟨_, _, _, hcursor⟩ := chosen_of_pick pick
    rw [cursor, hcursor] at ih
    exact .cons (pick_isNext eligible change pick) ih

theorem Picks.level (h : Picks tenantId teamId pool (StaysPicked tenantId) first picks last)
    (hlevel : Level pool (activeCount first tenantId)) : Level pool (activeCount last tenantId) := by
  induction h with
  | nil => exact hlevel
  | cons eligible pick cursor change rest ih => exact ih (hlevel.add (pick_least eligible pick) change)

end Scope

def deskAgent (id : Uuid) : RotationAgent where
  id := id
  tenantId := 9
  status := .active
  availability := .available
  lastSeenAt := some 0

def deskTicket (userId : Uuid) : Ticket where
  id := 0
  tenantId := 9
  number := 1
  conversationId := none
  contactId := none
  assignedUserId := some userId
  createdAt := 0

def desk (held : List Uuid) (cursor : Option Uuid) : RotationDb where
  base := { tickets := held.map deskTicket }
  agents := [deskAgent 1, deskAgent 2]
  defaultCaps := []
  states := cursor.toList.map fun last => { tenantId := 9, teamId := none, lastAssignedUserId := some last }

theorem activeCount_desk (held : List Uuid) (cursor : Option Uuid) (id : Uuid) :
    activeCount (desk held cursor) 9 id = held.count id := by
  rw [activeCount, desk, List.countP_map, List.count]
  apply List.countP_congr
  intro u _
  simp [deskTicket, TicketStatus.isActive]

theorem eligiblePool_desk {held : List Uuid} (hheld : held.length < 5) :
    EligiblePool 9 none [1, 2] (desk held cursor) := by
  have hpresent : presentAgents (desk held cursor) 9 none = [deskAgent 1, deskAgent 2] := rfl
  constructor
  · intro id
    rw [hpresent]
    simp [deskAgent, eq_comm]
  · intro u hu
    rw [activeCount_desk]
    apply Nat.lt_of_le_of_lt List.count_le_length
    rw [hpresent] at hu
    rcases List.mem_cons.mp hu with rfl | hu
    · exact hheld
    · rw [List.mem_singleton.mp hu]
      exact hheld

theorem staysPicked_desk (held : List Uuid) (cursor cursor' : Option Uuid) (userId : Uuid) :
    StaysPicked 9 (desk held cursor) userId (desk (userId :: held) cursor') := by
  intro id
  rw [activeCount_desk, activeCount_desk, List.count_cons]
  split
  · rename_i heq
    rw [if_pos (beq_iff_eq.mp heq).symm]
  · rename_i hne
    rw [if_neg fun h => hne (beq_iff_eq.mpr h.symm), Nat.add_zero]

end WhatsappCrm.Assignment
