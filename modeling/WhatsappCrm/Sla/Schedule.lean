/-
Purpose: Whether it matters when a ticket's evaluations run: two schedules with one history may differ in their
  evaluations.
-/
import WhatsappCrm.Sla.Reconciled

namespace WhatsappCrm

open Interleaving Table Stopwatch

/-- How far a schedule has got: the database, what happened to the ticket, and whether an evaluation of it succeeded
    after the last thing that did. -/
structure Course where
  db : SlaDb
  history : Timeline SlaFacts
  evaluated : Bool := false

def SlaCall.evaluates (tenantId ticketId : Uuid) : SlaCall → Bool
  | .evaluate tn tk _ => tn = tenantId ∧ tk = ticketId
  | _ => false

def SlaReply.succeeded : SlaReply → Bool
  | .evaluated (.ok _) => true
  | _ => false

def SlaDb.after (db : SlaDb) (call : SlaCall) : SlaDb := ((slaProgram call).alone db).2

section Play

variable (tenantId ticketId : Uuid)

def SlaDb.record (db : SlaDb) (history : Timeline SlaFacts) : Timeline SlaFacts :=
  match db.facts tenantId ticketId with
  | none => history
  | some f => history.observe db.base.now f

def Course.play (c : Course) (call : SlaCall) : Course :=
  let answer := (slaProgram call).alone c.db
  let history := answer.2.record tenantId ticketId c.history
  { db := answer.2
    history
    evaluated := history = c.history ∧ (c.evaluated ∨ (call.evaluates tenantId ticketId ∧ answer.1.succeeded)) }

/-- A schedule, from a database in which the ticket has the facts `first`. -/
def course (db : SlaDb) (first : SlaFacts) (calls : List SlaCall) : Course :=
  calls.foldl (Course.play tenantId ticketId) { db, history := { start := db.base.now, first } }

end Play

/-- What a schedule of evaluations is made of: no sweep, and uuids that are new. -/
def SlaCall.Plain (db : SlaDb) : SlaCall → Prop
  | .ticket _ => True
  | .send _ => True
  | .evaluate _ _ ids => ids.Fresh db
  | .breachChunk .. => False

instance (db : SlaDb) (call : SlaCall) : Decidable (call.Plain db) :=
  match call with
  | .ticket _ => inferInstanceAs (Decidable True)
  | .send _ => inferInstanceAs (Decidable True)
  | .evaluate _ _ ids => inferInstanceAs (Decidable (ids.Fresh db))
  | .breachChunk .. => inferInstanceAs (Decidable False)

def Scheduled : SlaDb → List SlaCall → Prop
  | _, [] => True
  | db, call :: calls => call.Plain db ∧ Scheduled (db.after call) calls

instance Scheduled.decidable : (db : SlaDb) → (calls : List SlaCall) → Decidable (Scheduled db calls)
  | _, [] => inferInstanceAs (Decidable True)
  | db, call :: calls =>
    have := Scheduled.decidable (db.after call) calls
    inferInstanceAs (Decidable (call.Plain db ∧ Scheduled (db.after call) calls))

/-- The evaluations were prompt: before the clock or the ticket moves on every timer is as the ticket calls for, and the
    windows do not depend on when the first evaluation was. -/
structure PromptCall (tenantId ticketId : Uuid) (a b : SlaDb) : Prop where
  noticed : a.base.now ≠ b.base.now ∨ a.facts tenantId ticketId ≠ b.facts tenantId ticketId →
    ∀ f, a.facts tenantId ticketId = some f → ∀ kind, a.windows tenantId ticketId kind ≠ none →
      (a.timerState tenantId ticketId kind = .paused ↔ f.target kind = .paused)
  ended : ∀ f f', a.facts tenantId ticketId = some f → b.facts tenantId ticketId = some f' → ∀ kind,
    a.windows tenantId ticketId kind ≠ none → f.target kind = .stopped .cancelled → f'.target kind = .stopped .met →
      (a.timerState tenantId ticketId kind).isMutable = false
  opened : ∀ f f', a.facts tenantId ticketId = some f → b.facts tenantId ticketId = some f' →
    a.timersOf tenantId ticketId = [] → ∀ kind,
      a.windowsFor tenantId f'.priority kind = a.windowsFor tenantId f.priority kind

def Prompt (tenantId ticketId : Uuid) : SlaDb → List SlaCall → Prop
  | _, [] => True
  | db, call :: calls => PromptCall tenantId ticketId db (db.after call) ∧ Prompt tenantId ticketId (db.after call) calls

theorem PromptCall.of_same {tenantId ticketId : Uuid} {a b : SlaDb} (hnow : a.base.now = b.base.now)
    (hfacts : a.facts tenantId ticketId = b.facts tenantId ticketId) : PromptCall tenantId ticketId a b where
  noticed hmoved := by
    rcases hmoved with h | h
    · exact absurd hnow h
    · exact absurd hfacts h
  ended f f' hf hf' kind _ hcancelled hmet := by
    obtain rfl : f = f' := Option.some.inj (hf.symm.trans (hfacts.trans hf'))
    rw [hcancelled] at hmet
    cases hmet
  opened f f' hf hf' _ kind := by
    obtain rfl : f = f' := Option.some.inj (hf.symm.trans (hfacts.trans hf'))
    rfl

section Calls

variable {tenantId ticketId : Uuid} {a b : SlaDb} {f : SlaFacts}

theorem alone_ticket (call : TicketCall) (db : SlaDb) :
    db.after (.ticket call) = (((program call).zoom SlaDb.base SlaDb.withBase SlaStmt.ticket).alone db).2 := by
  simp only [SlaDb.after, slaProgram, Prog.alone_bind]
  rfl

theorem alone_send (message : Message) (db : SlaDb) : db.after (.send message) = db.withBase
    { db.base with messages := db.base.messages ++ [{ message with sentAt := db.base.now }] } := rfl

theorem alone_evaluate (tenant ticket : Uuid) (ids : NewIds) (db : SlaDb) :
    (slaProgram (.evaluate tenant ticket ids)).alone db =
      match (reconcile tenant ids db.base.now ticket).exec slaWrites db with
      | .ok (summary, db') => (.evaluated (.ok summary), db')
      | .error e => (.evaluated (.error e), db) := by
  have hnothing : ∀ w s s', slaWrites.apply w s = .ok ([], s') → s' = s :=
    fun w s s' h => (SlaWrite.written h).nothing_eq
  simp only [slaProgram, Prog.alone_bind, evaluate, tenantTransaction, Prog.alone]
  rw [Tx.run_alone hnothing (v := db) rfl]
  cases (reconcile tenant ids db.base.now ticket).exec slaWrites db with
  | error | ok => rfl

/-- What the operations beside the evaluations do: they leave the SLA tables alone, and the ticket only goes on. -/
structure Changed (tenantId ticketId : Uuid) (a b : SlaDb) : Prop where
  ok : b.Ok
  answered : b.Answered
  timers : b.slaTimers = a.slaTimers
  policies : b.slaPolicies = a.slaPolicies
  facts : ∀ f, a.facts tenantId ticketId = some f →
    ∃ f', b.facts tenantId ticketId = some f' ∧ f.Later f' ∧ f'.createdAt = f.createdAt

theorem SlaFacts.Later.trans {f₁ : SlaFacts} (h : f₁.Later f₂) (h' : f₂.Later f₃) : f₁.Later f₃ :=
  ⟨h'.inactive ∘ h.inactive, h'.replied ∘ h.replied, h'.resolved ∘ h.resolved⟩

theorem Changed.trans {c : SlaDb} (h : Changed tenantId ticketId a b) (h' : Changed tenantId ticketId b c) :
    Changed tenantId ticketId a c where
  ok := h'.ok
  answered := h'.answered
  timers := h'.timers.trans h.timers
  policies := h'.policies.trans h.policies
  facts f hf := by
    obtain ⟨f', hf', hlater', hcreated'⟩ := h.facts f hf
    obtain ⟨f'', hf'', hlater'', hcreated''⟩ := h'.facts f' hf'
    exact ⟨f'', hf'', hlater'.trans hlater'', hcreated''.trans hcreated'⟩

theorem facts_later (hb : b.Ok) (hlater : a.Later b) (hf : a.facts tenantId ticketId = some f) :
    ∃ f', b.facts tenantId ticketId = some f' ∧ f.Later f' ∧ f'.createdAt = f.createdAt := by
  obtain ⟨ticket, hticket, rfl⟩ := Option.map_eq_some_iff.mp hf
  obtain ⟨hmem, hid, htenant⟩ := TicketDb.findTicket_some hticket
  have hremembers : Remembers ticket b := Remembers.later ⟨ticket, hmem, .refl ticket⟩ hlater
  obtain ⟨ticket', hticket', hev⟩ := hremembers.find hb
  rw [htenant, hid] at hticket'
  refine ⟨b.factsOf ticket', by rw [SlaDb.facts, hticket']; rfl, ⟨hev.inactive, ?_, ?_⟩, hev.createdAt⟩
  · intro hreplied
    simp only [SlaDb.factsOf, SlaDb.achievedAt, Option.isSome_map, Option.isSome_iff_ne_none] at hreplied ⊢
    exact Remembers.firstReplyOf hreplied hlater hev
  · intro hresolved
    simp only [SlaDb.factsOf, SlaDb.achievedAt, Option.isSome_iff_ne_none] at hresolved ⊢
    rwa [hev.resolvedAt hresolved]

theorem changed_refl (ha : a.Ok) (hanswered : a.Answered) : Changed tenantId ticketId a a :=
  ⟨ha, hanswered, rfl, rfl, fun f hf => ⟨f, hf, .refl f, rfl⟩⟩

theorem changed_ticket (call : TicketCall) (ha : a.Ok) (hanswered : a.Answered) :
    Changed tenantId ticketId a (a.after (.ticket call)) := by
  rw [alone_ticket]
  refine ((ticket_within call).alone (K := fun x => Changed tenantId ticketId a x) ?_ ha (changed_refl ha hanswered)).2
  rintro tag x y hx hK ⟨stmt, base, rfl, rfl, heffect⟩
  have hy := heffect.withBase_ok hx
  refine ⟨hy, hK.trans ⟨hy, heffect.answered hx hK.answered, rfl, rfl, fun f hf => ?_⟩⟩
  exact facts_later hy (heffect.withBase_later hx) hf

theorem changed_send (message : Message) (ha : a.Ok) (hanswered : a.Answered) :
    Changed tenantId ticketId a (a.after (.send message)) := by
  rw [alone_send]
  have hb : (a.withBase { a.base with
      messages := a.base.messages ++ [{ message with sentAt := a.base.now }] }).Ok :=
    { ha with base := { ha.base with } }
  refine ⟨hb, ?_, rfl, rfl, fun f hf => facts_later hb ?_ hf⟩
  · exact fun ticket hticket hresponded => firstReplyOf_send_ne_none _ (hanswered ticket hticket hresponded)
  · exact { SlaDb.Later.refl a with messages := fun _ hm => List.mem_append_left _ hm }

end Calls

/-- The timers of the ticket lag behind an observer of every change, and after an evaluation they do not. -/
structure Tracks (tenantId ticketId : Uuid) (W : SlaTargetKind → Option Nat) (openedAt : Millis) (c : Course) : Prop where
  ok : c.db.Ok
  answered : c.db.Answered
  facts : c.db.facts tenantId ticketId = some c.history.last
  createdAt : c.history.last.createdAt = openedAt
  provisioned : c.db.Provisioned tenantId ticketId W
  kept : ∀ kind, Kept (SlaFacts.target kind) c.history c.db.base.now
  lags : ∀ kind minutes, W kind = some minutes →
    Lags (c.db.watchOf tenantId ticketId (SlaDb.windowEnd openedAt minutes) kind)
      (c.history.watch (SlaFacts.target kind)) (c.history.last.target kind) c.db.base.now
  seen : c.evaluated = true → ∀ kind minutes, W kind = some minutes →
    c.db.timerOf tenantId ticketId kind ≠ none ∧
      c.db.watchOf tenantId ticketId (SlaDb.windowEnd openedAt minutes) kind =
        c.history.watch (SlaFacts.target kind)

section Steps

variable {tenantId ticketId : Uuid} {c : Course}

theorem Tracks.changed (h : Tracks tenantId ticketId W openedAt c) {b : SlaDb}
    (hchanged : Changed tenantId ticketId c.db b) (hprompt : PromptCall tenantId ticketId c.db b)
    (hevaluated : evaluated = true → b.record tenantId ticketId c.history = c.history ∧ c.evaluated = true) :
    Tracks tenantId ticketId W openedAt
      { db := b, history := b.record tenantId ticketId c.history, evaluated } := by
  obtain ⟨f', hf', hlater, hcreatedAt⟩ := hchanged.facts _ h.facts
  have hrecord : b.record tenantId ticketId c.history = c.history.observe b.base.now f' := by
    simp only [SlaDb.record, hf']
  have htimerOf : ∀ kind, b.timerOf tenantId ticketId kind = c.db.timerOf tenantId ticketId kind := fun kind => by
    simp only [SlaDb.timerOf, hchanged.timers]
  have hwatchOf : ∀ windowEnd kind, b.watchOf tenantId ticketId windowEnd kind =
      c.db.watchOf tenantId ticketId windowEnd kind := fun windowEnd kind => by
    simp only [SlaDb.watchOf, htimerOf]
  have htimersOf : b.timersOf tenantId ticketId = c.db.timersOf tenantId ticketId := by
    simp only [SlaDb.timersOf, hchanged.timers]
  rw [hrecord] at hevaluated ⊢
  constructor
  · exact hchanged.ok
  · exact hchanged.answered
  · rw [Timeline.observe_last]
    exact hf'
  · rw [Timeline.observe_last, hcreatedAt, h.createdAt]
  · refine h.provisioned.congr (fun t => by rw [htimersOf]) (fun _ _ hp => ?_) ?_
    · rwa [SlaDb.findPolicy, hchanged.policies]
    · intro hnone g hg kind
      have hg' : g = f' := Option.some.inj (hg.symm.trans hf')
      have hsame : Defaulted tenantId c.db b := .inl hchanged.policies
      rw [hg', hsame.windowsFor, hprompt.opened _ f' h.facts hf' hnone kind]
      exact h.provisioned.opening hnone _ h.facts kind
  · exact fun kind => ((h.kept kind).later b.base.now).observe fun outcome => hlater.stopped
  · intro kind minutes hminutes
    have hlags := h.lags kind minutes hminutes
    have hwindows : c.db.windows tenantId ticketId kind ≠ none := by
      rw [h.provisioned.windows_eq h.facts, hminutes]
      simp
    show Lags (b.watchOf tenantId ticketId _ kind) _ _ _
    rw [hwatchOf]
    by_cases hmoved : c.db.base.now ≠ b.base.now ∨ c.db.facts tenantId ticketId ≠ b.facts tenantId ticketId
    · have hpaused : (c.db.watchOf tenantId ticketId (SlaDb.windowEnd openedAt minutes) kind).phase = .paused ↔
          c.history.last.target kind = .paused := by
        rw [SlaDb.watchOf_phase, SlaTimerState.phase_eq_paused]
        exact hprompt.noticed hmoved _ h.facts kind hwindows
      have hpassed : Lags _ _ _ b.base.now := hlags.pass (h.ok.watchOf _) hpaused
      unfold Timeline.observe
      split
      · exact hpassed
      · rw [Timeline.watch_snoc, Timeline.last_snoc]
        refine hpassed.change hpaused fun outcome hstopped hne => ?_
        obtain ⟨outcome', hstopped'⟩ := hlater.stopped hstopped
        rw [SlaDb.watchOf_phase, SlaTimerState.phase_stopped]
        rcases SlaFacts.target_stopped hstopped with ⟨rfl, hachieved⟩ | rfl
        · refine absurd ?_ hne
          rw [hstopped, SlaFacts.target, if_pos (hlater.achieved hachieved)]
        · refine hprompt.ended _ f' h.facts hf' kind hwindows hstopped ?_
          rcases SlaFacts.target_stopped hstopped' with ⟨rfl, _⟩ | rfl
          · exact hstopped'
          · exact absurd (hstopped'.trans hstopped.symm) hne
    · simp only [not_or, ne_eq, not_not] at hmoved
      have hlast : c.history.last = f' := by
        rw [h.facts, hf'] at hmoved
        exact Option.some.inj hmoved.2
      rw [Timeline.observe, if_pos hlast, ← hmoved.1]
      exact hlags
  · intro hev kind minutes hminutes
    obtain ⟨hhistory, hseen⟩ := hevaluated hev
    show b.timerOf tenantId ticketId kind ≠ none ∧ b.watchOf tenantId ticketId _ kind = _
    rw [htimerOf, hwatchOf, hhistory]
    exact h.seen hseen kind minutes hminutes

theorem SlaDb.record_of_facts {b : SlaDb} {history : Timeline SlaFacts}
    (hf : b.facts tenantId ticketId = some history.last) : b.record tenantId ticketId history = history := by
  simp only [SlaDb.record, hf, Timeline.observe, if_true]

variable {tn : Uuid} {ids : NewIds} {summary : SlaEvaluationSummary}

theorem reconcile_found {a b : SlaDb} (h : (reconcile tn ids now tk).exec slaWrites a = .ok (summary, b)) :
    ∃ ticket, a.base.findTicket tn tk = some ticket := by
  simp only [reconcile, Tx.bind_def, Tx.bind_query, Tx.exec] at h
  split at h
  · cases h
  · rename_i ticket hticket
    exact ⟨ticket, hticket⟩

theorem evaluates_of_ticketId {a b : SlaDb} {f : SlaFacts} (hok : a.Ok) (hf : a.facts tenantId ticketId = some f)
    (h : (reconcile tn ids now ticketId).exec slaWrites a = .ok (summary, b)) : tn = tenantId := by
  obtain ⟨ticket, hticket⟩ := reconcile_found h
  obtain ⟨ticket', hticket', _⟩ := Option.map_eq_some_iff.mp hf
  obtain ⟨hmem, hid, htenant⟩ := TicketDb.findTicket_some hticket
  obtain ⟨hmem', hid', htenant'⟩ := TicketDb.findTicket_some hticket'
  rw [← htenant, ← htenant', hok.base.indexed.eq_of_id hmem hmem' (hid.trans hid'.symm)]

theorem Tracks.evaluated_here (h : Tracks tenantId ticketId W openedAt c) {b : SlaDb} (hfresh : ids.Fresh c.db)
    (hexec : (reconcile tenantId ids c.db.base.now ticketId).exec slaWrites c.db = .ok (summary, b))
    (evaluated : Bool) : Tracks tenantId ticketId W openedAt { db := b, history := c.history, evaluated } := by
  obtain ⟨hok, _, hanswered, hnow, hfacts, _⟩ := reconcile_frame h.ok h.answered hexec
  have hreconciled := reconcile_exec h.ok h.answered h.provisioned h.facts hfresh hexec
  have hturned : ∀ kind minutes, W kind = some minutes →
      b.watchOf tenantId ticketId (SlaDb.windowEnd openedAt minutes) kind = c.history.watch (SlaFacts.target kind) := by
    intro kind minutes hminutes
    have hkind := hreconciled.turned kind minutes hminutes
    rw [h.createdAt] at hkind
    rw [hkind, (h.lags kind minutes hminutes).look]
  refine ⟨hok, hanswered, ?_, h.createdAt, hreconciled.provisioned, ?_, ?_, ?_⟩
  · exact (hfacts tenantId ticketId).trans h.facts
  · intro kind
    show Kept _ _ b.base.now
    rw [hnow]
    exact h.kept kind
  · intro kind minutes hminutes
    show Lags (b.watchOf _ _ _ kind) _ _ b.base.now
    rw [hturned kind minutes hminutes, hnow]
    exact (h.lags kind minutes hminutes).looked
  · exact fun _ kind minutes hminutes => ⟨hreconciled.there kind (by simp [hminutes]), hturned kind minutes hminutes⟩

theorem Tracks.evaluated_elsewhere (h : Tracks tenantId ticketId W openedAt c) {b : SlaDb} (hne : tk ≠ ticketId)
    (hexec : (reconcile tn ids c.db.base.now tk).exec slaWrites c.db = .ok (summary, b)) :
    Tracks tenantId ticketId W openedAt { db := b, history := c.history, evaluated := c.evaluated } := by
  obtain ⟨hok, hlater, hanswered, hnow, hfacts, helsewhere⟩ := reconcile_frame h.ok h.answered hexec
  have hmem : ∀ t : SlaTimer, t.ticketId = ticketId → (t ∈ b.slaTimers ↔ t ∈ c.db.slaTimers) :=
    fun t ht => helsewhere t (by rw [ht]; exact hne.symm)
  have htimerOf : ∀ kind, b.timerOf tenantId ticketId kind = c.db.timerOf tenantId ticketId kind :=
    fun kind => SlaDb.timerOf_congr h.ok hok hmem
  have hwatchOf : ∀ windowEnd kind, b.watchOf tenantId ticketId windowEnd kind =
      c.db.watchOf tenantId ticketId windowEnd kind := fun windowEnd kind => by
    simp only [SlaDb.watchOf, htimerOf]
  have htimersOf : ∀ t, t ∈ b.timersOf tenantId ticketId ↔ t ∈ c.db.timersOf tenantId ticketId := by
    intro t
    simp only [SlaDb.timersOf, List.mem_filter, decide_eq_true_eq]
    exact ⟨fun ht => ⟨(hmem t ht.2.1).mp ht.1, ht.2⟩, fun ht => ⟨(hmem t ht.2.1).mpr ht.1, ht.2⟩⟩
  refine ⟨hok, hanswered, ?_, h.createdAt, ?_, ?_, ?_, ?_⟩
  · exact (hfacts tenantId ticketId).trans h.facts
  · refine h.provisioned.congr htimersOf (fun _ _ hp => hlater.findPolicy h.ok hok hp) fun hnone g hg kind => ?_
    rw [reconcile_windowsFor hexec]
    exact h.provisioned.opening hnone g ((hfacts tenantId ticketId).symm.trans hg) kind
  · intro kind
    show Kept _ _ b.base.now
    rw [hnow]
    exact h.kept kind
  · intro kind minutes hminutes
    show Lags (b.watchOf _ _ _ kind) _ _ b.base.now
    rw [hwatchOf, hnow]
    exact h.lags kind minutes hminutes
  · intro hev kind minutes hminutes
    show b.timerOf _ _ kind ≠ none ∧ b.watchOf _ _ _ kind = _
    rw [htimerOf, hwatchOf]
    exact h.seen hev kind minutes hminutes

theorem Tracks.play (h : Tracks tenantId ticketId W openedAt c) {call : SlaCall} (hplain : call.Plain c.db)
    (hprompt : PromptCall tenantId ticketId c.db (c.db.after call)) :
    Tracks tenantId ticketId W openedAt (c.play tenantId ticketId call) := by
  cases call with
  | ticket call =>
    refine h.changed (changed_ticket call h.ok h.answered) hprompt fun hev => ?_
    simpa [SlaCall.evaluates, SlaDb.after] using hev
  | send message =>
    refine h.changed (changed_send message h.ok h.answered) hprompt fun hev => ?_
    simpa [SlaCall.evaluates, SlaDb.after] using hev
  | breachChunk => cases hplain
  | evaluate tn tk ids =>
    simp only [Course.play, alone_evaluate]
    cases hexec : (reconcile tn ids c.db.base.now tk).exec slaWrites c.db with
    | error =>
      simpa [SlaDb.record_of_facts h.facts, SlaReply.succeeded] using h
    | ok answer =>
      obtain ⟨summary, b⟩ := answer
      have hframe := reconcile_frame h.ok h.answered hexec
      have hfacts : b.facts tenantId ticketId = some c.history.last :=
        (hframe.2.2.2.2.1 tenantId ticketId).trans h.facts
      simp only [SlaDb.record_of_facts hfacts]
      by_cases htk : tk = ticketId
      · subst htk
        have htn := evaluates_of_ticketId h.ok h.facts hexec
        subst htn
        exact h.evaluated_here hplain hexec _
      · simpa [SlaCall.evaluates, htk] using h.evaluated_elsewhere htk hexec

theorem Tracks.plays (h : Tracks tenantId ticketId W openedAt c)
    (hscheduled : Scheduled c.db calls) (hprompt : Prompt tenantId ticketId c.db calls) :
    Tracks tenantId ticketId W openedAt (calls.foldl (Course.play tenantId ticketId) c) := by
  induction calls generalizing c with
  | nil => exact h
  | cons call calls ih => exact ih (h.play hscheduled.1 hprompt.1) hscheduled.2 hprompt.2

end Steps

/-- A ticket whose history is about to begin: no evaluation has seen it. -/
structure JustOpened (db : SlaDb) (tenantId ticketId : Uuid) (first : SlaFacts) : Prop where
  ok : db.Ok
  answered : db.Answered
  facts : db.facts tenantId ticketId = some first
  untimed : db.timersOf tenantId ticketId = []

def SlaDb.clockOf (db : SlaDb) (tenantId ticketId : Uuid) (kind : SlaTargetKind) :
    Option (SlaTimerState × Millis × Int) :=
  (db.timerOf tenantId ticketId kind).map fun t => (t.state, t.dueAt, t.pausedMs)

section Converge

variable {tenantId ticketId : Uuid} {db : SlaDb} {first : SlaFacts}

theorem JustOpened.tracks (h : JustOpened db tenantId ticketId first) :
    Tracks tenantId ticketId (db.windows tenantId ticketId) first.createdAt
      { db, history := { start := db.base.now, first } } := by
  have hnone : ∀ kind, db.timerOf tenantId ticketId kind = none := by
    intro kind
    by_contra hne
    obtain ⟨t, ht, _⟩ := SlaDb.timerOf_ne_none.mp hne
    rw [h.untimed] at ht
    cases ht
  refine ⟨h.ok, h.answered, h.facts, rfl, ⟨?_, ?_, ?_⟩, ?_, ?_, ?_⟩
  · simp [h.untimed]
  · simp [h.untimed]
  · intro _ f hf kind
    simp only [SlaDb.windows, h.untimed, List.head?_nil, hf, Option.bind_some]
  · exact fun kind => Kept.start _ _ _
  · intro kind minutes _
    simp only [SlaDb.watchOf, hnone]
    exact Lags.start _ _
  · intro hev
    cases hev

theorem Tracks.clockOf {c : Course}
    (h : Tracks tenantId ticketId W openedAt c) (hev : c.evaluated = true) (kind : SlaTargetKind) :
    (W kind = none → c.db.timerOf tenantId ticketId kind = none) ∧
      ∀ minutes, W kind = some minutes → ∃ t, c.db.timerOf tenantId ticketId kind = some t ∧
        t.state.phase = (c.history.watch (SlaFacts.target kind)).phase ∧
        t.dueAt = SlaDb.windowEnd openedAt minutes + (c.history.watch (SlaFacts.target kind)).shift ∧
        t.pausedAt = (c.history.watch (SlaFacts.target kind)).pausedAt ∧
        t.pausedMs = (c.history.watch (SlaFacts.target kind)).paused := by
  constructor
  · intro hnone
    by_contra hne
    obtain ⟨t, ht, _⟩ := SlaDb.timerOf_ne_none.mp hne
    exact (h.provisioned.whole t ht kind).mp hne hnone
  · intro minutes hminutes
    obtain ⟨hthere, hwatch⟩ := h.seen hev kind minutes hminutes
    obtain ⟨t, ht⟩ := Option.ne_none_iff_exists'.mp hthere
    simp only [SlaDb.watchOf, ht] at hwatch
    rw [← hwatch]
    refine ⟨t, ht, rfl, ?_, rfl, rfl⟩
    simp only [SlaTimer.watch]
    grind

/-- In two prompt schedules of one history the ticket's timers agree, charged with the time it was pending. -/
theorem evaluations_converge (hopened : JustOpened db tenantId ticketId first) {calls calls' : List SlaCall}
    (hscheduled : Scheduled db calls) (hscheduled' : Scheduled db calls') (hprompt : Prompt tenantId ticketId db calls)
    (hprompt' : Prompt tenantId ticketId db calls')
    (hhistory : (course tenantId ticketId db first calls).history = (course tenantId ticketId db first calls').history)
    (hevaluated : (course tenantId ticketId db first calls).evaluated = true)
    (hevaluated' : (course tenantId ticketId db first calls').evaluated = true) (kind : SlaTargetKind) :
    (course tenantId ticketId db first calls).db.clockOf tenantId ticketId kind =
        (course tenantId ticketId db first calls').db.clockOf tenantId ticketId kind ∧
      ∀ t, (course tenantId ticketId db first calls).db.timerOf tenantId ticketId kind = some t →
        t.pausedMs + t.openPause (course tenantId ticketId db first calls).db.base.now =
          (course tenantId ticketId db first calls).history.spent
            (fun f => f.status = .pending ∧ f.achieved kind = false)
            (course tenantId ticketId db first calls).db.base.now := by
  have h : Tracks tenantId ticketId _ first.createdAt (course tenantId ticketId db first calls) :=
    hopened.tracks.plays hscheduled hprompt
  have h' : Tracks tenantId ticketId _ first.createdAt (course tenantId ticketId db first calls') :=
    hopened.tracks.plays hscheduled' hprompt'
  obtain ⟨hnone, hsome⟩ := h.clockOf hevaluated kind
  obtain ⟨hnone', hsome'⟩ := h'.clockOf hevaluated' kind
  rw [← hhistory] at hsome'
  cases hwindow : db.windows tenantId ticketId kind with
  | none =>
    refine ⟨?_, fun t ht => ?_⟩
    · rw [SlaDb.clockOf, SlaDb.clockOf, hnone hwindow, hnone' hwindow]
    · rw [hnone hwindow] at ht
      cases ht
  | some minutes =>
    obtain ⟨t, ht, hphase, hdue, hpausedAt, hpausedMs⟩ := hsome minutes hwindow
    obtain ⟨t', ht', hphase', hdue', _, hpausedMs'⟩ := hsome' minutes hwindow
    constructor
    · have hstate : t.state = t'.state := SlaTimerState.phase_inj (hphase.trans hphase'.symm)
      rw [SlaDb.clockOf, SlaDb.clockOf, ht, ht', Option.map_some, Option.map_some, hstate, hdue, hdue', hpausedMs,
        hpausedMs']
    · intro u hu
      obtain rfl : t = u := Option.some.inj (ht.symm.trans hu)
      have htotal := (h.kept kind).total
      simp only [SlaFacts.target_eq_paused] at htotal
      rw [← htotal, Watch.total, ← hpausedMs]
      congr 1
      simp only [SlaTimer.openPause, Watch.openPause, ← hpausedAt]
      cases t.pausedAt <;> rfl

end Converge

def freshTicket : SlaDb :=
  { base := oneOpenTicket
    slaPolicies := [defaultPolicy 1 3 0] }

def freshFacts : SlaFacts :=
  { createdAt := 0
    status := .open
    priority := .normal
    replied := false
    resolved := false }

theorem freshTicket_opened : JustOpened freshTicket 1 1 freshFacts where
  ok :=
    { base := oneOpenTicket_ok
      id := show UniqueBy SlaTimer.idEntry freshTicket.slaTimers by decide
      kind := show UniqueBy SlaTimer.kindEntry freshTicket.slaTimers by decide
      policy := show UniqueBy SlaPolicy.idEntry freshTicket.slaPolicies by decide
      alert := show UniqueBy SlaAlert.recipientEntry freshTicket.slaAlerts by decide
      paused := by decide
      once := by decide
      breached := by simp [freshTicket, SlaDb.breachKeys, oneOpenTicket] }
  answered := show ∀ ticket ∈ freshTicket.base.tickets, ticket.firstRespondedAt ≠ none →
    freshTicket.firstReplyOf ticket ≠ none by decide
  facts := by decide
  untimed := by decide

def evaluateFrom (id : Uuid) : SlaCall :=
  .evaluate 1 1
    { policyId := id
      timerId := fun kind => match kind with
        | .firstResponse => id + 1
        | .resolution => id + 2 }

def pausedTwice : List SlaCall := [evaluateFrom 10, .ticket (.pauseSla 1 1), evaluateFrom 20, evaluateFrom 30]

def pausedOnce : List SlaCall := [evaluateFrom 10, .ticket (.pauseSla 1 1), evaluateFrom 20]

theorem prompt_pausedTwice : Prompt 1 1 freshTicket pausedTwice := by
  refine ⟨.of_same (by decide +kernel) (by decide +kernel), ?_, .of_same (by decide +kernel) (by decide +kernel),
    .of_same (by decide +kernel) (by decide +kernel), trivial⟩
  have hbefore : (freshTicket.after (evaluateFrom 10)).facts 1 1 = some freshFacts := by decide +kernel
  have hafter : ((freshTicket.after (evaluateFrom 10)).after (.ticket (.pauseSla 1 1))).facts 1 1 =
      some { freshFacts with status := .pending } := by decide +kernel
  constructor
  · intro _ f hf kind _
    rw [hbefore] at hf
    cases hf
    cases kind <;> decide +kernel
  · intro f f' hf hf' kind _ hcancelled
    rw [hbefore] at hf
    cases hf
    cases kind <;> cases hcancelled
  · intro f f' hf hf' _ kind
    rw [hbefore] at hf
    rw [hafter] at hf'
    cases hf
    cases hf'
    rfl

theorem prompt_pausedOnce : Prompt 1 1 freshTicket pausedOnce :=
  ⟨prompt_pausedTwice.1, prompt_pausedTwice.2.1, prompt_pausedTwice.2.2.1, trivial⟩

theorem evaluations_converge_freshTicket :
    (course 1 1 freshTicket freshFacts pausedTwice).db.clockOf 1 1 .firstResponse =
      (course 1 1 freshTicket freshFacts pausedOnce).db.clockOf 1 1 .firstResponse :=
  (evaluations_converge freshTicket_opened (by decide +kernel) (by decide +kernel) prompt_pausedTwice
    prompt_pausedOnce (by decide +kernel) (by decide +kernel) (by decide +kernel) .firstResponse).1

def pauseSchedule (evaluations : List SlaCall) : List SlaCall :=
  [evaluateFrom 10, .ticket (.pauseSla 1 1)] ++ evaluations ++
    [.ticket (.tick 3600000), .ticket (.applyAutomation 1 1 (.status .open) { workflowId := 8, workflowRunId := 9 }),
      evaluateFrom 30]

theorem late_evaluation_loses_pause :
    ¬ ∀ (db : SlaDb) (tenantId ticketId : Uuid) (first : SlaFacts), JustOpened db tenantId ticketId first →
      ∀ calls calls', Scheduled db calls → Scheduled db calls' →
        (course tenantId ticketId db first calls).history = (course tenantId ticketId db first calls').history →
        (course tenantId ticketId db first calls).evaluated = true →
        (course tenantId ticketId db first calls').evaluated = true →
        ∀ kind, (course tenantId ticketId db first calls).db.clockOf tenantId ticketId kind =
          (course tenantId ticketId db first calls').db.clockOf tenantId ticketId kind := by
  intro hclaim
  have hsame := hclaim freshTicket 1 1 freshFacts freshTicket_opened (pauseSchedule [evaluateFrom 20]) (pauseSchedule [])
    (by decide +kernel) (by decide +kernel) (by decide +kernel) (by decide +kernel) (by decide +kernel) .firstResponse
  revert hsame
  decide +kernel

end WhatsappCrm
