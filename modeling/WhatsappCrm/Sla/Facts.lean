/-
Purpose: What the timers of a ticket depend on. A timer is a stopwatch that is to do what these facts call for.
-/
import WhatsappCrm.Lib.Stopwatch
import WhatsappCrm.Sla.InTime

namespace WhatsappCrm

open Interleaving Table Stopwatch

structure SlaFacts where
  createdAt : Millis
  status : TicketStatus
  priority : TicketPriority
  replied : Bool
  resolved : Bool
deriving DecidableEq

def SlaFacts.achieved (f : SlaFacts) : SlaTargetKind → Bool
  | .firstResponse => f.replied
  | .resolution => f.resolved

def SlaTimerState.phase : SlaTimerState → Phase SlaTimerState
  | .running => .running
  | .paused => .paused
  | state => .stopped state

theorem SlaTimerState.phase_inj {a b : SlaTimerState} (h : a.phase = b.phase) : a = b := by
  cases a <;> cases b <;> simp_all [phase]

theorem SlaTimerState.phase_eq_paused {state : SlaTimerState} : state.phase = .paused ↔ state = .paused := by
  cases state <;> simp [phase]

theorem SlaTimerState.phase_stopped {state : SlaTimerState} :
    (∃ outcome, state.phase = .stopped outcome) ↔ state.isMutable = false := by
  cases state <;> simp [phase, isMutable]

/-- What the facts call for: an achieved target stops the timer, an end without it cancels it, `pending` pauses it. -/
def SlaFacts.target (kind : SlaTargetKind) (f : SlaFacts) : Phase SlaTimerState :=
  if f.achieved kind then .stopped .met
  else if f.status.isActive = false then .stopped .cancelled
  else if f.status.pausesSla then .paused
  else .running

theorem slaTimerTargetFor_phase {f : SlaFacts} {firstRespondedAt resolvedAt : Option Millis}
    (hreplied : firstRespondedAt.isSome = f.replied) (hresolved : resolvedAt.isSome = f.resolved)
    (kind : SlaTargetKind) :
    (slaTimerTargetFor kind f.status firstRespondedAt resolvedAt).state.phase = f.target kind := by
  have hended : f.status = .resolved ∨ f.status = .closed ↔ f.status.isActive = false := by
    cases f.status <;> simp [TicketStatus.isActive]
  cases kind with
  | firstResponse =>
    simp only [slaTimerTargetFor, SlaFacts.target, SlaFacts.achieved, hreplied, hended,
      apply_ite SlaTimerTarget.state, apply_ite SlaTimerState.phase]
    rfl
  | resolution =>
    simp only [slaTimerTargetFor, SlaFacts.target, SlaFacts.achieved, hresolved, hended,
      apply_ite SlaTimerTarget.state, apply_ite SlaTimerState.phase]
    rfl

theorem SlaFacts.target_eq_paused {kind : SlaTargetKind} {f : SlaFacts} :
    f.target kind = .paused ↔ f.status = .pending ∧ f.achieved kind = false := by
  cases hachieved : f.achieved kind <;> cases hstatus : f.status <;>
    simp [target, hachieved, hstatus, TicketStatus.isActive, TicketStatus.pausesSla]

theorem SlaFacts.target_stopped {kind : SlaTargetKind} {f : SlaFacts}
    (h : f.target kind = .stopped outcome) : outcome = .met ∧ f.achieved kind = true ∨ outcome = .cancelled := by
  unfold target at h
  split at h
  · rename_i hachieved
    cases h
    exact .inl ⟨rfl, hachieved⟩
  · split at h
    · cases h
      exact .inr rfl
    · split at h <;> cases h

/-- A ticket that has ended stays ended, and what was achieved stays achieved. -/
structure SlaFacts.Later (f f' : SlaFacts) : Prop where
  inactive : f.status.isActive = false → f'.status.isActive = false
  replied : f.replied = true → f'.replied = true
  resolved : f.resolved = true → f'.resolved = true

namespace SlaFacts

variable {f : SlaFacts} {kind : SlaTargetKind}

theorem Later.refl (f : SlaFacts) : f.Later f := ⟨id, id, id⟩

theorem Later.achieved (h : f.Later f') (hachieved : f.achieved kind = true) : f'.achieved kind = true := by
  cases kind with
  | firstResponse => exact h.replied hachieved
  | resolution => exact h.resolved hachieved

theorem Later.stopped (h : f.Later f') (hstopped : f.target kind = .stopped outcome) :
    ∃ outcome', f'.target kind = .stopped outcome' := by
  by_cases hachieved' : f'.achieved kind = true
  · exact ⟨.met, by simp [target, hachieved']⟩
  · have hachieved : f.achieved kind ≠ true := fun hf => hachieved' (h.achieved hf)
    have hinactive : f.status.isActive = false := by
      by_contra hactive
      simp only [target, if_neg hachieved, if_neg hactive] at hstopped
      split at hstopped <;> cases hstopped
    exact ⟨.cancelled, by simp [target, hachieved', h.inactive hinactive]⟩

end SlaFacts

/-- A timer whose window ends at `windowEnd`, as a stopwatch: `due_at` tells how far it was put forward. -/
def SlaTimer.watch (windowEnd : Millis) (t : SlaTimer) : Watch SlaTimerState :=
  { phase := t.state.phase
    pausedAt := t.pausedAt
    paused := t.pausedMs
    shift := t.dueAt - windowEnd }

theorem SlaTimer.watch_ok {t : SlaTimer} (windowEnd : Millis) (h : t.pausedAt ≠ none ↔ t.state = .paused) :
    (t.watch windowEnd).Ok := by
  rw [Watch.Ok, SlaTimer.watch, SlaTimerState.phase_eq_paused]
  exact h

theorem TimerMove.watch {now : Millis} {t : SlaTimer} (h : TimerMove now t t') (hstate : t'.state ≠ .breached)
    (windowEnd : Millis) : t'.watch windowEnd = (t.watch windowEnd).turn t'.state.phase now := by
  cases h with
  | pause hrunning => simp [SlaTimer.watch, Watch.turn, hrunning, SlaTimerState.phase]
  | resume pausedAt hpaused hpausedAt =>
    simp only [SlaTimer.watch, Watch.turn, hpaused, SlaTimerState.phase, Watch.openPause, hpausedAt]
    congr 1
    grind
  | stop state hmutable hstopped =>
    have hopen : (t.watch windowEnd).openPause now = t.openPause now := rfl
    cases hs : t.state with
    | running | paused =>
      rcases hstopped with rfl | rfl <;>
        simp [SlaTimer.watch, Watch.turn, hs, SlaTimerState.phase, ← hopen, Watch.openPause]
    | met | breached | cancelled => simp [hs, SlaTimerState.isMutable] at hmutable
  | breach => exact absurd rfl hstate

namespace SlaDb

variable (db : SlaDb) (tenantId ticketId : Uuid)

def factsOf (ticket : Ticket) : SlaFacts :=
  { createdAt := ticket.createdAt
    status := ticket.status
    priority := ticket.priority
    replied := (db.achievedAt .firstResponse ticket).isSome
    resolved := (db.achievedAt .resolution ticket).isSome }

def facts : Option SlaFacts := (db.base.findTicket tenantId ticketId).map db.factsOf

def timerOf (kind : SlaTargetKind) : Option SlaTimer :=
  db.slaTimers.find? fun t => t.kindEntry = some (tenantId, ticketId, kind)

/-- It as a stopwatch: a timer that is still missing is one that runs. -/
def watchOf (windowEnd : Millis) (kind : SlaTargetKind) : Watch SlaTimerState :=
  match db.timerOf tenantId ticketId kind with
  | none => {}
  | some t => t.watch windowEnd

def timerState (kind : SlaTargetKind) : SlaTimerState :=
  ((db.timerOf tenantId ticketId kind).map (·.state)).getD .running

def windowsFor (priority : TicketPriority) (kind : SlaTargetKind) : Option Nat :=
  if db.policiesOf tenantId = [] then (defaultPolicy tenantId 0 0).windowFor kind
  else (resolvePolicyForPriority (db.policiesOf tenantId) priority).bind (·.windowFor kind)

def windows (kind : SlaTargetKind) : Option Nat :=
  match (db.timersOf tenantId ticketId).head? with
  | some t => (db.findPolicy tenantId t.policyId).bind (·.windowFor kind)
  | none => (db.facts tenantId ticketId).bind fun f => db.windowsFor tenantId f.priority kind

variable {db tenantId ticketId} {kind : SlaTargetKind} {t : SlaTimer}

theorem Ok.timerOf_eq_some (h : db.Ok) : db.timerOf tenantId ticketId kind = some t ↔
      t ∈ db.slaTimers ∧ t.kindEntry = some (tenantId, ticketId, kind) := by
  constructor
  · intro hfind
    exact ⟨List.mem_of_find?_eq_some hfind, by simpa using List.find?_some hfind⟩
  · rintro ⟨ht, hkind⟩
    exact h.kind.find?_eq_some ht (decide_eq_true hkind) fun u _ hu => of_decide_eq_true hu

theorem timerOf_eq_none : db.timerOf tenantId ticketId kind = none ↔
      ∀ t ∈ db.slaTimers, t.kindEntry ≠ some (tenantId, ticketId, kind) := by
  simp [timerOf]

theorem mem_timersOf : t ∈ db.timersOf tenantId ticketId ↔
    t ∈ db.slaTimers ∧ t.kindEntry = some (tenantId, ticketId, t.kind) := by
  simp only [timersOf, SlaTimer.kindEntry, List.mem_filter, decide_eq_true_eq, Option.some.injEq, Prod.mk.injEq,
    and_true]
  tauto

theorem timerOf_ne_none :
    db.timerOf tenantId ticketId kind ≠ none ↔ ∃ t ∈ db.timersOf tenantId ticketId, t.kind = kind := by
  rw [Ne, timerOf_eq_none]
  constructor
  · intro h
    simp only [not_forall, ne_eq, not_not] at h
    obtain ⟨t, ht, hentry⟩ := h
    have hkind : t.kind = kind := by
      simp only [SlaTimer.kindEntry, Option.some.injEq, Prod.mk.injEq] at hentry
      exact hentry.2.2
    exact ⟨t, mem_timersOf.mpr ⟨ht, by rw [hentry, hkind]⟩, hkind⟩
  · rintro ⟨t, ht, rfl⟩ hnone
    obtain ⟨hmem, hentry⟩ := mem_timersOf.mp ht
    exact hnone t hmem hentry

theorem watchOf_phase (windowEnd : Millis) :
    (db.watchOf tenantId ticketId windowEnd kind).phase = (db.timerState tenantId ticketId kind).phase := by
  simp only [watchOf, timerState]
  split
  · rename_i hnone
    rw [hnone]
    rfl
  · rename_i t hsome
    rw [hsome]
    rfl

theorem Ok.watchOf (h : db.Ok) (windowEnd : Millis) : (db.watchOf tenantId ticketId windowEnd kind).Ok := by
  simp only [SlaDb.watchOf]
  split
  · simp [Watch.Ok]
  · rename_i t hsome
    exact SlaTimer.watch_ok windowEnd (h.paused t (h.timerOf_eq_some.mp hsome).1)

theorem timerOf_congr {b : SlaDb} (h : db.Ok) (hb : b.Ok)
    (hmem : ∀ t : SlaTimer, t.ticketId = ticketId → (t ∈ b.slaTimers ↔ t ∈ db.slaTimers)) :
    b.timerOf tenantId ticketId kind = db.timerOf tenantId ticketId kind := by
  apply Option.ext
  intro t
  rw [hb.timerOf_eq_some, h.timerOf_eq_some]
  constructor
  · rintro ⟨ht, hentry⟩
    have hticket : t.ticketId = ticketId := by
      simp only [SlaTimer.kindEntry, Option.some.injEq, Prod.mk.injEq] at hentry
      exact hentry.2.1
    exact ⟨(hmem t hticket).mp ht, hentry⟩
  · rintro ⟨ht, hentry⟩
    have hticket : t.ticketId = ticketId := by
      simp only [SlaTimer.kindEntry, Option.some.injEq, Prod.mk.injEq] at hentry
      exact hentry.2.1
    exact ⟨(hmem t hticket).mpr ht, hentry⟩

end SlaDb

section Written

variable {w : SlaWrite} {rows : List SlaRow} {a b : SlaDb} {now : Millis} {tenantId : Uuid}

theorem Written.facts_eq (h : Written w rows a b) (tenantId ticketId : Uuid) :
    b.facts tenantId ticketId = a.facts tenantId ticketId := by
  obtain ⟨f, hfind, hf⟩ := h.findTicket_eq tenantId ticketId
  rw [SlaDb.facts, SlaDb.facts, hfind, Option.map_map]
  congr 1
  funext ticket
  obtain ⟨⟨hstatus, hpriority⟩, hcreatedAt, _, hachieved⟩ := hf ticket
  simp only [Function.comp_apply, SlaDb.factsOf, hstatus, hpriority, hcreatedAt, hachieved]

theorem Written.firstReplyOf_eq (h : Written w rows a b) (ticket : Ticket) :
    b.firstReplyOf ticket = a.firstReplyOf ticket := by
  simp only [SlaDb.firstReplyOf, SlaDb.firstReply, h.messages_eq]

theorem Written.answered (h : Written w rows a b) (hbacked : a.Backed now tenantId scope w) (ha : a.Answered) :
    b.Answered := by
  intro ticket hticket hresponded
  rw [h.firstReplyOf_eq]
  cases h with
  | stamped =>
    obtain ⟨t, ht, ⟨hp, rfl⟩ | ⟨_, rfl⟩⟩ := mem_updateWhere hticket
    · simp only [SlaDb.unanswered, decide_eq_true_eq] at hp
      exact hbacked t ht hp.1 hp.2.1
    · exact ha _ ht hresponded
  | nothing | defaulted | created | moved | breached => exact ha ticket hticket hresponded

theorem Written.now_eq (h : Written w rows a b) : b.base.now = a.base.now := by
  cases h <;> rfl

theorem Written.elsewhere {ticketId : Uuid} (h : Written w rows a b) (ha : a.Ok)
    (hbacked : a.Backed now tenantId (.ticket ticketId) w) {t : SlaTimer} (ht : t.ticketId ≠ ticketId) :
    t ∈ b.slaTimers ↔ t ∈ a.slaTimers := by
  cases h with
  | nothing | stamped | defaulted => exact Iff.rfl
  | created =>
    refine ⟨fun hmem => ?_, List.mem_append_left _⟩
    rcases List.mem_append.mp hmem with hmem | hmem
    · exact hmem
    · obtain ⟨d, hd, rfl⟩ := List.mem_map.mp hmem
      exact absurd (hbacked d (mem_of_mem_skipDuplicates hd)).2.1 ht
  | moved tn timerId target n _ u u' hfind hmove =>
    obtain ⟨hu, hid, _⟩ := SlaDb.findTimer_some hfind
    have hticket : u.ticketId = ticketId := (hbacked.2.2 u hu hid).1
    constructor
    · intro hmem
      rcases SlaDb.mem_putTimer hmem with rfl | ⟨hmem, _⟩
      · exact absurd (hmove.sameTarget.ticketId.trans hticket) ht
      · exact hmem
    · intro hmem
      refine SlaDb.putTimer_mem_of_ne hmem fun heq => ht ?_
      rw [ha.eq_of_id hmem hu (heq.trans hmove.sameTarget.id), hticket]
  | breached =>
    obtain ⟨timerIds, hscope⟩ := hbacked
    cases hscope

end Written

end WhatsappCrm
