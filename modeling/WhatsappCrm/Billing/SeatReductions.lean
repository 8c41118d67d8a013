/-
Purpose: Who may lower the seat count at the provider.
-/
import WhatsappCrm.Billing.Effects

namespace WhatsappCrm

open Interleaving Table

namespace Billing

/-- The event was written, and that moved the bounds of the period. -/
def Rolled (event : BillingEvent) (db : BillingDb) : Prop :=
  ∃ a ∈ db.applications, a.event = event ∧ a.applied = true ∧ a.rolled = true

instance (event : BillingEvent) (db : BillingDb) : Decidable (Rolled event db) :=
  inferInstanceAs (Decidable (∃ a ∈ db.applications, a.event = event ∧ a.applied = true ∧ a.rolled = true))

/-- Who may ask for a reduction. -/
def Justified (db : BillingDb) : SeatRequestOrigin → Prop
  | .membership => False
  | .event event => Rolled event db
  | .reconciliation => True

def SeatPush.lowers (p : SeatPush) : Bool := p.before.any (p.seats < ·)

def Deferred (t : Uuid) (db : BillingDb) : Prop :=
  ∀ p ∈ db.seatPushes, p.tenantId = t → p.lowers = true → Justified db p.origin

/-- An event that asks for a reduction has moved the period, and a push that may only raise our count does not meet a
    higher one at the provider. -/
def defers (t : Uuid) : BillingStmt → BillingDb → Prop
  | .enqueue tenantId true (.event event), db => tenantId = t → Rolled event db
  | .updateSeats tenantId id stored false, db => tenantId = t → (db.providerSeats id).all (· ≤ stored) = true
  | _, _ => True

instance (t : Uuid) (tag : BillingStmt) (db : BillingDb) : Decidable (defers t tag db) := by
  unfold defers
  split <;> infer_instance

structure Deferring (t : Uuid) (db : BillingDb) : Prop where
  jobs : ∀ j ∈ db.seatJobs, j.tenantId = t → j.allowDecrease = true → Justified db j.origin
  pushes : Deferred t db

def Recorded (db db' : BillingDb) : Prop := ∀ a ∈ db.applications, a ∈ db'.applications

theorem Justified.later {db db' : BillingDb} (h : Recorded db db')
    (hjustified : Justified db origin) : Justified db' origin := by
  cases origin with
  | membership => exact hjustified
  | event =>
    obtain ⟨a, ha, hevent⟩ := hjustified
    exact ⟨a, h a ha, hevent⟩
  | reconciliation => trivial

def deferring (t : Uuid) : Rely BillingStmt BillingDb where
  inv := Deferring t
  later := Recorded
  cond := defers t
  effect _ db db' := Deferring t db' ∧ Recorded db db'

theorem deferring_sound (t : Uuid) : (deferring t).Sound where
  refl _ _ h := h
  trans h h' a ha := h' a (h a ha)
  keeps _ _ h := h

variable {tenantId : Uuid} {job : TakenJob}

section Statements

variable {t : Uuid} {db db' : BillingDb} (hdb : Deferring t db)

include hdb

theorem Deferring.of_jobs (hrecorded : Recorded db db') (hpushes : db'.seatPushes = db.seatPushes)
    (hjobs : ∀ j' ∈ db'.seatJobs, j'.tenantId = t → j'.allowDecrease = true →
      Justified db j'.origin ∨ ∃ j ∈ db.seatJobs, j.tenantId = j'.tenantId ∧ j.allowDecrease = j'.allowDecrease ∧
        j.origin = j'.origin) : Deferring t db' ∧ Recorded db db' := by
  refine ⟨⟨?_, ?_⟩, hrecorded⟩
  · intro j' hj' htenant hallow
    rcases hjobs j' hj' htenant hallow with hjustified | ⟨j, hj, hsame, hallow', horigin⟩
    · exact hjustified.later hrecorded
    · have hjustified := hdb.jobs j hj (hsame.trans htenant) (hallow'.trans hallow)
      rw [horigin] at hjustified
      exact hjustified.later hrecorded
  · intro p hp htenant hlowers
    rw [hpushes] at hp
    exact (hdb.pushes p hp htenant hlowers).later hrecorded

theorem Deferring.of_update (happlications : db'.applications = db.applications)
    (hpushes : db'.seatPushes = db.seatPushes) (hjobs : db'.seatJobs = updateWhere p f db.seatJobs)
    (hf : ∀ j, (f j).tenantId = j.tenantId ∧ (f j).allowDecrease = j.allowDecrease ∧ (f j).origin = j.origin) :
    Deferring t db' ∧ Recorded db db' := by
  apply hdb.of_jobs (fun a ha => happlications ▸ ha) hpushes
  intro j' hj' _ _
  rw [hjobs] at hj'
  obtain ⟨j, hj, ⟨-, rfl⟩ | ⟨-, rfl⟩⟩ := mem_updateWhere hj'
  · exact .inr ⟨j, hj, (hf j).1.symm, (hf j).2.1.symm, (hf j).2.2.symm⟩
  · exact .inr ⟨j', hj, rfl, rfl, rfl⟩

theorem Deferring.aside (happlications : db'.applications = db.applications)
    (hpushes : db'.seatPushes = db.seatPushes) (hjobs : db'.seatJobs = db.seatJobs) :
    Deferring t db' ∧ Recorded db db' := by
  apply hdb.of_jobs (fun a ha => happlications ▸ ha) hpushes
  intro j' hj' _ _
  exact .inr ⟨j', hjobs ▸ hj', rfl, rfl, rfl⟩

theorem Deferring.commit (h : SubscriptionEffect ws db db') : Deferring t db' ∧ Recorded db db' := by
  cases h with
  | unresolved => exact ⟨hdb, fun _ h => h⟩
  | _ =>
    apply hdb.of_jobs
    · exact fun a ha => List.mem_append_left _ ha
    · rfl
    · exact fun j' hj' _ _ => .inr ⟨j', hj', rfl, rfl, rfl⟩

theorem Deferring.request (hjustified : tenantId = t → allowDecrease = true → Justified db origin) :
    Deferring t (db.requestSeats tenantId allowDecrease origin) ∧
      Recorded db (db.requestSeats tenantId allowDecrease origin) := by
  simp only [BillingDb.requestSeats]
  split
  · exact hdb.aside rfl rfl rfl
  · apply hdb.of_jobs
    · exact fun a ha => ha
    · rfl
    intro j' hj' htenant hallow
    rcases List.mem_append.mp hj' with hj' | hj'
    · exact .inr ⟨j', hj', rfl, rfl, rfl⟩
    · rw [List.mem_singleton] at hj'
      subst hj'
      exact .inl (hjustified htenant hallow)

theorem Deferring.push {id : String} (hpush : tenantId = t → (job.allowDecrease = true ∧ Justified db job.origin) ∨
      (db.providerSeats id).all (· ≤ seats) = true) :
    Deferring t (db.pushSeats tenantId job id seats) ∧ Recorded db (db.pushSeats tenantId job id seats) := by
  refine ⟨⟨hdb.jobs, ?_⟩, fun _ h => h⟩
  intro p hp htenant hlowers
  rcases List.mem_append.mp hp with hp | hp
  · exact hdb.pushes p hp htenant hlowers
  · rw [List.mem_singleton] at hp
    subst hp
    rcases hpush htenant with ⟨-, hjustified⟩ | hall
    · exact hjustified
    · cases hbefore : db.providerSeats id with
      | none => simp [SeatPush.lowers, hbefore] at hlowers
      | some =>
        simp only [SeatPush.lowers, hbefore, Option.any_some, decide_eq_true_eq] at hlowers
        simp only [hbefore, Option.all_some, decide_eq_true_eq] at hall
        exact absurd hlowers (Nat.not_lt_of_le hall)

end Statements

theorem effect_defers {t : Uuid} {db db' : BillingDb} (hdb : Deferring t db)
    (hcond : defers t tag db) (h : BillingEffect tag db db') : Deferring t db' ∧ Recorded db db' := by
  cases h with
  | committed heffect => exact hdb.commit heffect
  | settled =>
    rw [BillingDb.settle]
    split <;> exact hdb.aside rfl rfl rfl
  | requested tenantId allowDecrease origin =>
    rename_i hmembership
    apply hdb.request
    intro htenant hallow
    subst hallow
    cases horigin : origin with
    | membership => cases hmembership horigin
    | event =>
      rw [horigin] at hcond
      exact hcond htenant
    | reconciliation => trivial
  | stalled => exact hdb.of_update rfl rfl rfl fun _ => ⟨rfl, rfl, rfl⟩
  | evicted =>
    apply hdb.of_jobs
    · exact fun a ha => ha
    · rfl
    · exact fun j' hj' _ _ => .inr ⟨j', List.mem_of_mem_filter hj', rfl, rfl, rfl⟩
  | _ => exact hdb.aside rfl rfl rfl

section Worker

variable {t : Uuid}

/-- What an attempt that may reduce knows of its job. -/
def Permitted (job : TakenJob) (db : BillingDb) : Prop := job.allowDecrease = true → Justified db job.origin

theorem Permitted.later {db db' : BillingDb} (h : Permitted job db) (hlater : Recorded db db') :
    Permitted job db' := fun hallow => (h hallow).later hlater

theorem pushEffect_defers {db db' : BillingDb}
    (hdb : Deferring t db) (hpermitted : tenantId = t → Permitted job db) (hcond : defers t tag db)
    (h : PushEffect tenantId job tag db db') : Deferring t db' ∧ Recorded db db' := by
  cases h with
  | pushed id stored seats _ hrule =>
    apply hdb.push
    intro htenant
    cases hallow : job.allowDecrease with
    | true => exact .inl ⟨rfl, hpermitted htenant hallow⟩
    | false =>
      right
      rw [hallow] at hcond hrule
      have hall := hcond htenant
      rw [Option.all_eq_true] at hall ⊢
      intro before hbefore
      have hle := hall before hbefore
      simp only [decide_eq_true_eq] at hle ⊢
      exact Nat.le_trans hle (hrule.resolve_right Bool.false_ne_true)
  | finished =>
    apply hdb.of_update
    · rfl
    · rfl
    · exact rfl
    intro j
    rw [SeatJob.after]
    split <;> exact ⟨rfl, rfl, rfl⟩
  | unchanged => exact ⟨hdb, fun _ h => h⟩
  | _ => exact hdb.aside rfl rfl rfl

theorem work_defers (tenantId : Uuid) (fault : Option (Fault PushStep)) (db : BillingDb) :
    Prog.Guards (deferring t) db (work tenantId fault) := by
  have htake : Prog.Ensures (deferring t) (fun r s => ∀ job, r = some job → tenantId = t → Permitted job s) db
      (take tenantId) := by
    apply Prog.Ensures.stmt
    intro s _ hinv _
    split
    · exact ⟨⟨hinv, fun _ h => h⟩, fun _ h => by cases h⟩
    · rename_i waiting hwaiting
      refine ⟨?_, fun job hjob htenant hallow => ?_⟩
      · exact hinv.of_update rfl rfl (p := SeatJob.waits tenantId)
          (f := fun j => { j with state := .active s.attempts }) rfl fun _ => ⟨rfl, rfl, rfl⟩
      · cases hjob
        have hwaits := List.find?_some hwaiting
        simp only [SeatJob.waits, decide_eq_true_eq] at hwaits
        exact hinv.jobs waiting (List.mem_of_find?_eq_some hwaiting) (hwaits.1.trans htenant) hallow
  apply (htake.bind (deferring_sound t) (R := fun _ _ => True) _).guards
  intro taken s _ hpermitted
  cases taken with
  | none => trivial
  | some job =>
    apply Prog.Ensures.of_guards _ fun _ _ => trivial
    have hpushes := (attempt_pushes tenantId job fault).weaken (J := (deferring t).inv) fun _ _ => trivial
    apply hpushes.guards_while (deferring_sound t) (M := fun s => tenantId = t → Permitted job s)
      (fun s s' hlater hM htenant => (hM htenant).later hlater) _ (hpermitted job rfl)
    exact fun tag s _ s' hinv hM hcond heffect => pushEffect_defers hinv hM hcond heffect

end Worker

theorem billingProgram_defers (t : Uuid) (maxAttempts : Nat) (call : BillingCall) (db : BillingDb) :
    Prog.Guards (deferring t) db (billingProgram maxAttempts call) := by
  by_cases hwork : ∃ tenantId fault, call = .work tenantId fault
  · obtain ⟨tenantId, fault, rfl⟩ := hwork
    exact (work_defers tenantId fault db).bind (deferring_sound t) fun _ _ _ => trivial
  · simp only [not_exists] at hwork
    have hworks := billingProgram_works maxAttempts hwork
    apply (hworks.weaken (J := (deferring t).inv) fun _ _ => trivial).guards
    exact fun tag s _ s' hinv hcond heffect => effect_defers hinv hcond heffect

/-- **Seat reductions.** In every run that meets the condition, every push that lowered the seats was asked for after
    the period had rolled, or by the nightly pass. -/
theorem reductions_wait_for_the_roll (maxAttempts : Nat) (t : Uuid) {db : BillingDb}
    (hjobs : ∀ j ∈ db.seatJobs, j.tenantId ≠ t) (hpushes : ∀ p ∈ db.seatPushes, p.tenantId ≠ t) {s : BillingSys}
    (hr : BillingRun maxAttempts (fun s _ tag => defers t tag s.db) db s) : Deferred t s.db := by
  have h₀ : Deferring t db :=
    ⟨fun j hj htenant => absurd htenant (hjobs j hj), fun p hp htenant => absurd htenant (hpushes p hp)⟩
  have hguarded := Reachable.guards (deferring_sound t) (fun call db => billingProgram_defers t maxAttempts call db)
    (fun _ _ _ h => h) (Sys.guarded_idle h₀) hr
  exact hguarded.inv.pushes

/-- A tenant that pays for three seats until 200, and of whose three members one has left. -/
def threeSeats : BillingDb :=
  { lifecycle := { tenants := [{ id := 1, slug := "acme", name := "Acme", status := .active }] }
    subscriptions := [{
      id := 1, tenantId := 1, planId := 1, seats := 3, status := .active, currentPeriodStart := some 100,
      currentPeriodEnd := some 200, lastEventAt := some 100, providerSubscriptionId := some "sub" }]
    seatHolders := [{ tenantId := 1, id := 1 }, { tenantId := 1, id := 2 }]
    providerSubscriptions := [{ id := "sub", tenantId := 1, customerId := "cus", seats := some 3 }] }

def updateEvent (periodStart periodEnd occurredAt : Millis) : BillingEvent :=
  { type := .subscriptionUpdated, tenantId := 1, providerEventId := "evt", occurredAt, status := some .active
    currentPeriodStart := some periodStart, currentPeriodEnd := some periodEnd, providerSubscriptionId := some "sub" }

def deliverThenWork (event : BillingEvent) : List (Move BillingCall) :=
  [.spawn (.ingest { id := 1, providerEventId := "evt", subject := { tenantId := some 1 }, parsed := .event event }),
    .step 0, .spawn (.process 1 { subscriptionId := 2, eventId := 3 } none)] ++ List.replicate 9 (.step 1) ++
    .spawn (.work 1 none) :: List.replicate 8 (.step 2)

theorem reductions_wait_for_the_roll_renewal :
    ∃ s, BillingRun 5 (fun s _ tag => defers 1 tag s.db) threeSeats s ∧ s.db.seatPushes.map (·.lowers) = [true] ∧
      Deferred 1 s.db := by
  have hrun : (run (billingProgram 5) (fun s _ tag => decide (defers 1 tag s.db))
      (deliverThenWork (updateEvent 200 300 210)) (.idle threeSeats)).map (fun s => s.db.seatPushes.map (·.lowers)) =
      some [true] := by
    decide +kernel
  obtain ⟨s, hreach, hend⟩ := ends_of_run hrun
  exact ⟨s, hreach, hend, reductions_wait_for_the_roll 5 1 (by simp [threeSeats]) (by simp [threeSeats]) hreach⟩

/-- An update in the middle of the period carries its bounds, and that alone lowers the seats. -/
theorem unchanged_period_reduces_seats :
    ¬ ∀ (maxAttempts : Nat) (t : Uuid) (db : BillingDb), (∀ j ∈ db.seatJobs, j.tenantId ≠ t) →
      (∀ p ∈ db.seatPushes, p.tenantId ≠ t) → ∀ s, BillingRun maxAttempts anyStep db s → Deferred t s.db := by
  intro hclaim
  have hrun : (run (billingProgram 5) (fun _ _ _ => true) (deliverThenWork (updateEvent 100 200 150))
      (.idle threeSeats)).map (fun s => (s.db.seatPushes.map fun p => (p.tenantId, p.lowers, p.origin),
        s.db.applications.map (·.rolled))) =
      some ([(1, true, .event (updateEvent 100 200 150))], [false]) := by
    decide +kernel
  obtain ⟨s, hreach, hend⟩ := ends_of_run_any hrun
  obtain ⟨hpushes, hrolled⟩ := Prod.mk.inj hend
  have hdeferred := hclaim 5 1 threeSeats (by simp [threeSeats]) (by simp [threeSeats]) s hreach
  obtain ⟨p, hp, hfields⟩ := List.mem_map.mp (hpushes ▸ List.mem_singleton_self _)
  simp only [Prod.mk.injEq] at hfields
  obtain ⟨htenant, hlowers, horigin⟩ := hfields
  have hjustified := hdeferred p hp htenant hlowers
  rw [horigin] at hjustified
  obtain ⟨a, ha, -, -, hmoved⟩ := hjustified
  have hmem := List.mem_map_of_mem (f := (·.rolled)) ha
  rw [hrolled, hmoved] at hmem
  simp at hmem

end Billing

end WhatsappCrm
