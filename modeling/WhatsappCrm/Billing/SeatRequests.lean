/-
Purpose: What becomes of a request for a push of the seat count.
-/
import WhatsappCrm.Billing.Effects

namespace WhatsappCrm

open Interleaving Table

namespace Billing

def covered (readings : List SeatReading) : Nat := (readings.map (·.covers)).foldl max 0

theorem covered_concat (readings : List SeatReading) (r : SeatReading) :
    covered (readings ++ [r]) = max (covered readings) r.covers := by
  simp [covered]

def InTurn (requests : List Bool) (readings : List SeatReading) : Prop :=
  ∀ before r after, readings = before ++ r :: after →
    ∀ i, covered before ≤ i → i < r.covers → requests[i]? = some true → r.allowDecrease = true

theorem InTurn.request (h : InTurn requests readings)
    (hbound : ∀ r ∈ readings, r.covers ≤ requests.length) (allowDecrease : Bool) :
    InTurn (requests ++ [allowDecrease]) readings := by
  intro before r after heq i hi hlt hrequest
  have hmem : r ∈ readings := heq ▸ List.mem_append_right before List.mem_cons_self
  apply h before r after heq i hi hlt
  rwa [List.getElem?_append_left (Nat.lt_of_lt_of_le hlt (hbound r hmem))] at hrequest

/-- No job of the tenant is still to run, or running. -/
def AtRest (t : Uuid) (db : BillingDb) : Prop :=
  ∀ job, db.findJob t = some job → job.state = .completed ∨ job.state = .failed

structure Served (t : Uuid) (db : BillingDb) : Prop where
  inTurn : InTurn (db.requests t) (db.readings t)
  atRest : AtRest t db → covered (db.readings t) = (db.requests t).length

def Holds (t : Uuid) (attempt : Nat) (db : BillingDb) : Prop :=
  ∃ job, db.findJob t = some job ∧ job.state = .active attempt

def HasRead (t : Uuid) (attempt : Nat) (db : BillingDb) : Prop := ∃ r ∈ db.readings t, r.attempt = attempt

/-- A request collapses into the job without loss: it is still to count, and may reduce where the request asks. -/
structure TakesIn (t : Uuid) (allowDecrease : Bool) (job : SeatJob) (db : BillingDb) : Prop where
  toCount : job.state = .waiting ∨ ∃ attempt, job.state = .active attempt ∧ db.coverOf t attempt = none
  allows : allowDecrease = true → job.allowDecrease = true

instance (t : Uuid) (attempt : Nat) (db : BillingDb) : Decidable (Holds t attempt db) :=
  decidable_of_iff ((db.findJob t).any (·.state = .active attempt) = true) (by simp [Holds, Option.any_eq_true])

instance (t : Uuid) (attempt : Nat) (db : BillingDb) : Decidable (HasRead t attempt db) :=
  inferInstanceAs (Decidable (∃ r ∈ db.readings t, r.attempt = attempt))

instance (job : SeatJob) (p : Nat → Prop) [DecidablePred p] :
    Decidable (∃ attempt, job.state = .active attempt ∧ p attempt) :=
  match h : job.state with
  | .active attempt => decidable_of_iff (p attempt) (by simp)
  | .waiting | .completed | .failed => isFalse (by simp)

instance (t : Uuid) (allowDecrease : Bool) (job : SeatJob) (db : BillingDb) :
    Decidable (TakesIn t allowDecrease job db) :=
  decidable_of_iff (_ ∧ _) ⟨fun h => ⟨h.1, h.2⟩, fun h => ⟨h.toCount, h.allows⟩⟩

/-- A request is taken by the queue, and a job it meets there takes it in; a push meets a subscription to meter, its
    attempt holds the job until it has counted, and a job is not given up before that. -/
def servesInTurn (t : Uuid) : BillingStmt → BillingDb → Prop
  | .enqueue tenantId allowDecrease _, db => tenantId = t →
      db.queueReachable = true ∧ ∀ job, db.findJob t = some job → TakesIn t allowDecrease job db
  | .readSubscription tenantId _, db => tenantId = t →
      ∃ s, db.findSubscription t = some s ∧ s.providerSubscriptionId ≠ none
  | .countMembers tenantId attempt, db => tenantId = t → Holds t attempt db
  | .countPending tenantId attempt, db => tenantId = t → Holds t attempt db
  | .finish tenantId attempt false, db => tenantId = t → ∀ job, db.findJob t = some job →
      job.state = .active attempt → job.failures + 1 < seatSyncAttempts ∨ HasRead t attempt db
  | .stall tenantId true, db => tenantId = t → ∀ job, db.findJob t = some job →
      ¬ ∃ attempt, job.state = .active attempt ∧ ¬ HasRead t attempt db
  | _, _ => True

instance (t : Uuid) (tag : BillingStmt) (db : BillingDb) : Decidable (servesInTurn t tag db) :=
  match tag with
  | .enqueue tenantId allowDecrease _ => inferInstanceAs (Decidable (tenantId = t →
      db.queueReachable = true ∧ ∀ job ∈ db.findJob t, TakesIn t allowDecrease job db))
  | .readSubscription tenantId _ => decidable_of_iff
      (tenantId = t → (db.findSubscription t).any (·.providerSubscriptionId ≠ none) = true)
      (by simp [servesInTurn, Option.any_eq_true])
  | .countMembers tenantId attempt | .countPending tenantId attempt =>
    inferInstanceAs (Decidable (tenantId = t → Holds t attempt db))
  | .finish tenantId attempt false => inferInstanceAs (Decidable (tenantId = t → ∀ job ∈ db.findJob t,
      job.state = .active attempt → job.failures + 1 < seatSyncAttempts ∨ HasRead t attempt db))
  | .stall tenantId true => inferInstanceAs (Decidable (tenantId = t → ∀ job ∈ db.findJob t,
      ¬ ∃ attempt, job.state = .active attempt ∧ ¬ HasRead t attempt db))
  | .finish _ _ true | .stall _ false | .read | .write | .commit _ | .transition _ | .store _ | .claim _
  | .markProcessed _ | .markFailed _ | .noteFailure _ | .replay _ | .changeSeats _ | .take _ | .updateSeats ..
  | .storeSeats _ | .evict _ | .outage | .readProvider _ | .providerChange _ | .tick => isTrue trivial

def BillingDb.jobs (t : Uuid) (db : BillingDb) : List SeatJob := db.seatJobs.filter (·.tenantId = t)

theorem BillingDb.findJob_eq (t : Uuid) (db : BillingDb) : db.findJob t = (db.jobs t).head? := by
  rw [jobs, List.head?_filter, findJob]

def JobOwes (t : Uuid) (db : BillingDb) (job : SeatJob) : Prop :=
  match job.state with
  | .waiting => true ∈ (db.requests t).drop (covered (db.readings t)) → job.allowDecrease = true
  | .active attempt =>
    attempt < db.attempts ∧ (∀ k, db.coverOf t attempt = some k → k = (db.requests t).length) ∧
      (HasRead t attempt db →
        db.coverOf t attempt ≠ none ∧ covered (db.readings t) = (db.requests t).length) ∧
      (true ∈ (db.requests t).drop (covered (db.readings t)) → job.allowDecrease = true)
  | .completed | .failed => covered (db.readings t) = (db.requests t).length

structure SeatQueue (t : Uuid) (db : BillingDb) : Prop where
  keyed : (db.jobs t).length ≤ 1
  bounded : ∀ r ∈ db.readings t, r.covers ≤ (db.requests t).length
  fresh : ∀ attempt, db.attempts ≤ attempt → db.coverOf t attempt = none
  known : ∀ r ∈ db.readings t, r.attempt < db.attempts
  inTurn : InTurn (db.requests t) (db.readings t)
  rest : db.findJob t = none → covered (db.readings t) = (db.requests t).length
  owes : ∀ job, db.findJob t = some job → JobOwes t db job

theorem SeatQueue.served {t : Uuid} {db : BillingDb} (h : SeatQueue t db) : Served t db where
  inTurn := h.inTurn
  atRest hrest := by
    cases hjob : db.findJob t with
    | none => exact h.rest hjob
    | some job =>
      have howes := h.owes job hjob
      rcases hrest job hjob with hstate | hstate
      · rwa [JobOwes, hstate] at howes
      · rwa [JobOwes, hstate] at howes

structure SeatLater (t : Uuid) (db db' : BillingDb) : Prop where
  attempts : db.attempts ≤ db'.attempts
  begun : ∀ attempt, db.coverOf t attempt ≠ none → db'.coverOf t attempt ≠ none
  hasRead : ∀ attempt, HasRead t attempt db → HasRead t attempt db'
  held : ∀ job' attempt, db'.findJob t = some job' → job'.state = .active attempt → attempt < db.attempts →
    ∃ job, db.findJob t = some job ∧ job.state = .active attempt ∧ job.allowDecrease = job'.allowDecrease

namespace SeatLater

variable {t : Uuid}

theorem refl (db : BillingDb) : SeatLater t db db where
  attempts := Nat.le_refl _
  begun _ h := h
  hasRead _ h := h
  held job' _ hjob hstate _ := ⟨job', hjob, hstate, rfl⟩

theorem trans (h : SeatLater t a b) (h' : SeatLater t b c) : SeatLater t a c where
  attempts := Nat.le_trans h.attempts h'.attempts
  begun attempt hbegun := h'.begun attempt (h.begun attempt hbegun)
  hasRead attempt hread := h'.hasRead attempt (h.hasRead attempt hread)
  held job' attempt hjob hstate hlt := by
    obtain ⟨job, hjob₁, hstate₁, hallow₁⟩ := h'.held job' attempt hjob hstate (Nat.lt_of_lt_of_le hlt h.attempts)
    obtain ⟨job₀, hjob₀, hstate₀, hallow₀⟩ := h.held job attempt hjob₁ hstate₁ hlt
    exact ⟨job₀, hjob₀, hstate₀, hallow₀.trans hallow₁⟩

end SeatLater

def serving (t : Uuid) : Rely BillingStmt BillingDb where
  inv := SeatQueue t
  later := SeatLater t
  cond := servesInTurn t
  effect _ db db' := SeatQueue t db' ∧ SeatLater t db db'

theorem serving_sound (t : Uuid) : (serving t).Sound where
  refl := SeatLater.refl
  trans := SeatLater.trans
  keeps _ _ h := h

structure SeatRecords (t : Uuid) (db db' : BillingDb) : Prop where
  requests : db'.requests t = db.requests t
  readings : db'.readings t = db.readings t
  begun : ∀ attempt, db'.coverOf t attempt = db.coverOf t attempt
  attempts : db.attempts ≤ db'.attempts

namespace SeatRecords

variable {t : Uuid} {db db' : BillingDb}

theorem hasRead (h : SeatRecords t db db') (attempt : Nat) : HasRead t attempt db' ↔ HasRead t attempt db := by
  rw [HasRead, HasRead, h.readings]

theorem owes (h : SeatRecords t db db') {job : SeatJob} (howes : JobOwes t db job) : JobOwes t db' job := by
  rw [JobOwes] at howes ⊢
  rw [h.requests, h.readings]
  cases hstate : job.state with
  | active =>
    rw [hstate] at howes
    obtain ⟨hlt, hbegun, hread, hallow⟩ := howes
    refine ⟨Nat.lt_of_lt_of_le hlt h.attempts, ?_, ?_, hallow⟩
    · rw [h.begun]
      exact hbegun
    · rw [h.hasRead, h.begun]
      exact hread
  | _ =>
    rw [hstate] at howes
    exact howes

theorem keeps (h : SeatRecords t db db') (hdb : SeatQueue t db) (hkeyed : (db'.jobs t).length ≤ 1)
    (hrest : db'.findJob t = none → covered (db.readings t) = (db.requests t).length)
    (howes : ∀ job, db'.findJob t = some job → JobOwes t db' job)
    (hheld : ∀ job' attempt, db'.findJob t = some job' → job'.state = .active attempt → attempt < db.attempts →
      ∃ job, db.findJob t = some job ∧ job.state = .active attempt ∧ job.allowDecrease = job'.allowDecrease) :
    SeatQueue t db' ∧ SeatLater t db db' := by
  refine ⟨⟨hkeyed, ?_, ?_, ?_, ?_, ?_, howes⟩, ⟨h.attempts, ?_, ?_, hheld⟩⟩
  · rw [h.readings, h.requests]
    exact hdb.bounded
  · intro attempt hle
    rw [h.begun]
    exact hdb.fresh attempt (Nat.le_trans h.attempts hle)
  · rw [h.readings]
    exact fun r hr => Nat.lt_of_lt_of_le (hdb.known r hr) h.attempts
  · rw [h.requests, h.readings]
    exact hdb.inTurn
  · rw [h.requests, h.readings]
    exact hrest
  · exact fun attempt hbegun => by rwa [h.begun]
  · exact fun attempt hread => (h.hasRead attempt).mpr hread

theorem update (h : SeatRecords t db db') (hdb : SeatQueue t db) (hjobs : db'.jobs t = updateWhere p f (db.jobs t))
    (hf : ∀ job, db.findJob t = some job → p job = true →
      JobOwes t db' (f job) ∧ ∀ attempt, (f job).state = .active attempt → db.attempts ≤ attempt) :
    SeatQueue t db' ∧ SeatLater t db db' := by
  have hfind : db'.findJob t = (db.findJob t).map fun job => if p job then f job else job := by
    rw [BillingDb.findJob_eq, BillingDb.findJob_eq, hjobs, updateWhere, List.head?_map]
  apply h.keeps hdb
  · rw [hjobs, length_updateWhere]
    exact hdb.keyed
  · intro hnone
    rw [hfind, Option.map_eq_none_iff] at hnone
    exact hdb.rest hnone
  · intro job' hjob'
    rw [hfind] at hjob'
    obtain ⟨job, hjob, rfl⟩ := Option.map_eq_some_iff.mp hjob'
    split
    · rename_i hp
      exact (hf job hjob hp).1
    · exact h.owes (hdb.owes job hjob)
  · intro job' attempt hjob' hstate hlt
    rw [hfind] at hjob'
    obtain ⟨job, hjob, rfl⟩ := Option.map_eq_some_iff.mp hjob'
    split at hstate
    · rename_i hp
      exact absurd hlt (Nat.not_lt_of_le ((hf job hjob hp).2 attempt hstate))
    · rename_i hp
      exact ⟨job, hjob, hstate, by rw [if_neg hp]⟩

end SeatRecords

structure SeatSame (t : Uuid) (db db' : BillingDb) : Prop extends SeatRecords t db db' where
  jobs : db'.jobs t = db.jobs t

namespace SeatSame

variable {t : Uuid} {db db' : BillingDb}

theorem refl (t : Uuid) (db : BillingDb) : SeatSame t db db := ⟨⟨rfl, rfl, fun _ => rfl, Nat.le_refl _⟩, rfl⟩

theorem of_tables (hjobs : db'.seatJobs = db.seatJobs) (hrequests : db'.seatRequests = db.seatRequests)
    (hreadings : db'.seatReadings = db.seatReadings) (hcounting : db'.counting = db.counting)
    (hattempts : db'.attempts = db.attempts) : SeatSame t db db' where
  jobs := by rw [BillingDb.jobs, BillingDb.jobs, hjobs]
  requests := by rw [BillingDb.requests, BillingDb.requests, hrequests]
  readings := by rw [BillingDb.readings, BillingDb.readings, hreadings]
  begun attempt := by rw [BillingDb.coverOf, BillingDb.coverOf, hcounting]
  attempts := Nat.le_of_eq hattempts.symm

theorem keeps (h : SeatSame t db db') (hdb : SeatQueue t db) : SeatQueue t db' ∧ SeatLater t db db' := by
  have hfind : db'.findJob t = db.findJob t := by
    rw [BillingDb.findJob_eq, BillingDb.findJob_eq, h.jobs]
  apply h.toSeatRecords.keeps hdb
  · rw [h.jobs]
    exact hdb.keyed
  · rw [hfind]
    exact hdb.rest
  · rw [hfind]
    exact fun job hjob => h.owes (hdb.owes job hjob)
  · rw [hfind]
    exact fun job attempt hjob hstate _ => ⟨job, hjob, hstate, rfl⟩

end SeatSame

theorem commit_seatSame (t : Uuid) {db db' : BillingDb} (h : SubscriptionEffect ws db db') : SeatSame t db db' := by
  cases h <;> exact .of_tables rfl rfl rfl rfl rfl

theorem settle_seatSame (t : Uuid) (event : BillingEvent) (eventId : Uuid) (db : BillingDb) :
    SeatSame t db (db.settle event eventId).2 := by
  rw [BillingDb.settle]
  split <;> exact .of_tables rfl rfl rfl rfl rfl

theorem jobs_updateWhere_of_ne {t : Uuid} {jobs : List SeatJob}
    (hp : ∀ j, p j = true → j.tenantId ≠ t) (hf : ∀ j, (f j).tenantId = j.tenantId) :
    (updateWhere p f jobs).filter (·.tenantId = t) = jobs.filter (·.tenantId = t) := by
  apply filter_updateWhere_of_not
  intro j _ hj
  have hne := hp j hj
  simp [hf, hne]

theorem SeatJob.after_tenantId (succeeded : Bool) (job : SeatJob) : (job.after succeeded).tenantId = job.tenantId := by
  rw [SeatJob.after]
  split <;> rfl

section Others

variable {t tenantId : Uuid} (hne : tenantId ≠ t) (db : BillingDb)

include hne

theorem requestSeats_seatSame (allowDecrease : Bool) (origin : SeatRequestOrigin) :
    SeatSame t db (db.requestSeats tenantId allowDecrease origin) := by
  have hrequests : ({ db with seatRequests := db.seatRequests ++ [{ tenantId, allowDecrease }] } : BillingDb).requests t =
      db.requests t := by
    simp [BillingDb.requests, hne]
  simp only [BillingDb.requestSeats]
  split
  · exact ⟨⟨hrequests, rfl, fun _ => rfl, Nat.le_refl _⟩, rfl⟩
  · exact ⟨⟨hrequests, rfl, fun _ => rfl, Nat.le_refl _⟩, by simp [BillingDb.jobs, hne]⟩

theorem holdJob_seatSame : SeatSame t db (db.holdJob tenantId) := by
  refine ⟨⟨rfl, rfl, fun _ => rfl, Nat.le_succ _⟩, jobs_updateWhere_of_ne ?_ fun _ => rfl⟩
  intro j hj
  simp only [SeatJob.waits, decide_eq_true_eq] at hj
  exact hj.1 ▸ hne

theorem beginCount_seatSame (attempt : Nat) : SeatSame t db (db.beginCount tenantId attempt) := by
  refine ⟨⟨rfl, rfl, fun other => ?_, Nat.le_refl _⟩, rfl⟩
  simp [BillingDb.coverOf, BillingDb.beginCount, List.find?_append, hne]

theorem endCount_seatSame (attempt : Nat) (allowDecrease : Bool) :
    SeatSame t db (db.endCount tenantId attempt allowDecrease) := by
  refine ⟨⟨rfl, ?_, fun _ => rfl, Nat.le_refl _⟩, rfl⟩
  simp [BillingDb.readings, BillingDb.endCount, hne]

theorem finishJob_seatSame (attempt : Nat) (succeeded : Bool) :
    SeatSame t db (db.finishJob tenantId attempt succeeded) := by
  refine ⟨⟨rfl, rfl, fun _ => rfl, Nat.le_refl _⟩, jobs_updateWhere_of_ne ?_ (SeatJob.after_tenantId succeeded)⟩
  intro j hj
  simp only [SeatJob.held, decide_eq_true_eq] at hj
  exact hj.1 ▸ hne

theorem stallJob_seatSame (gaveUp : Bool) : SeatSame t db (db.stallJob tenantId gaveUp) := by
  refine ⟨⟨rfl, rfl, fun _ => rfl, Nat.le_refl _⟩, jobs_updateWhere_of_ne ?_ fun _ => rfl⟩
  intro j hj
  simp only [SeatJob.isActive, Bool.and_eq_true, decide_eq_true_eq] at hj
  exact hj.1 ▸ hne

theorem evictJob_seatSame : SeatSame t db (db.evictJob tenantId) := by
  refine ⟨⟨rfl, rfl, fun _ => rfl, Nat.le_refl _⟩, ?_⟩
  rw [BillingDb.jobs, BillingDb.jobs, BillingDb.evictJob, List.filter_filter]
  apply List.filter_congr
  intro j _
  by_cases hj : j.tenantId = t
  · simp [hj, SeatJob.isOver, hne.symm]
  · simp [hj]

end Others

variable {tag : BillingStmt}

theorem workEffect_seatSame {t tenantId : Uuid} (hne : tenantId ≠ t) {db db' : BillingDb}
    (h : WorkEffect tenantId tag db db') : SeatSame t db db' := by
  cases h with
  | unchanged => exact .refl t db
  | held => exact holdJob_seatSame hne db
  | attempt h =>
    rename_i job
    cases h with
    | unchanged => exact .refl t db
    | counting => exact beginCount_seatSame hne db job.attempt
    | counted => exact endCount_seatSame hne db job.attempt job.allowDecrease
    | pushed | metered => exact .of_tables rfl rfl rfl rfl rfl
    | finished succeeded => exact finishJob_seatSame hne db job.attempt succeeded

section Own

variable {t : Uuid} {db : BillingDb} (hdb : SeatQueue t db)

include hdb

theorem SeatQueue.jobs_eq {job : SeatJob} (hjob : db.findJob t = some job) : db.jobs t = [job] := by
  have hkeyed := hdb.keyed
  rw [BillingDb.findJob_eq] at hjob
  cases hjobs : db.jobs t with
  | nil => simp [hjobs] at hjob
  | cons first rest =>
    rw [hjobs] at hjob hkeyed
    cases hjob
    cases rest with
    | nil => rfl
    | cons => simp at hkeyed

theorem SeatQueue.covered_le : covered (db.readings t) ≤ (db.requests t).length := by
  have hbounded := hdb.bounded
  rw [covered]
  generalize db.readings t = readings at hbounded
  induction readings using List.reverseRecOn with
  | nil => exact Nat.zero_le _
  | append_singleton readings r ih =>
    have hread := ih fun r' hr' => hbounded r' (List.mem_append_left _ hr')
    have hlast := hbounded r (List.mem_concat_self)
    simpa using ⟨hread, hlast⟩

theorem holdJob_keeps : SeatQueue t (db.holdJob t) ∧ SeatLater t db (db.holdJob t) := by
  have hrecords : SeatRecords t db (db.holdJob t) := ⟨rfl, rfl, fun _ => rfl, Nat.le_succ _⟩
  apply hrecords.update hdb (filter_updateWhere fun _ _ _ => rfl)
  intro job hjob hwaits
  simp only [SeatJob.waits, decide_eq_true_eq] at hwaits
  have howes := hdb.owes job hjob
  rw [JobOwes, hwaits.2] at howes
  refine ⟨⟨Nat.lt_succ_self _, ?_, ?_, howes⟩, ?_⟩
  · intro k hk
    rw [hrecords.begun, hdb.fresh _ (Nat.le_refl _)] at hk
    cases hk
  · rintro ⟨r, hr, hattempt⟩
    exact absurd (hdb.known r hr) (hattempt ▸ Nat.lt_irrefl _)
  · intro attempt hattempt
    cases hattempt
    exact Nat.le_refl _

variable {attempt : Nat} {succeeded : Bool}

theorem finishJob_keeps (hfinish : ∀ job, db.findJob t = some job → job.state = .active attempt →
      HasRead t attempt db ∨ succeeded = false ∧ job.failures + 1 < seatSyncAttempts) :
    SeatQueue t (db.finishJob t attempt succeeded) ∧ SeatLater t db (db.finishJob t attempt succeeded) := by
  have hrecords : SeatRecords t db (db.finishJob t attempt succeeded) := ⟨rfl, rfl, fun _ => rfl, Nat.le_refl _⟩
  apply hrecords.update hdb (filter_updateWhere fun j _ _ => by rw [SeatJob.after_tenantId])
  intro job hjob hheld
  simp only [SeatJob.held, decide_eq_true_eq] at hheld
  have howes := hdb.owes job hjob
  rw [JobOwes, hheld.2] at howes
  obtain ⟨-, -, hread, hallow⟩ := howes
  rw [SeatJob.after]
  rcases hfinish job hjob hheld.2 with hhas | ⟨rfl, hfailures⟩
  · have hcovered := (hread hhas).2
    have howed : (db.requests t).drop (covered (db.readings t)) = [] := by
      rw [hcovered, List.drop_length]
    cases succeeded with
    | true => exact ⟨hcovered, fun _ h => by cases h⟩
    | false =>
      by_cases hmore : job.failures + 1 < seatSyncAttempts
      · refine ⟨?_, fun _ h => by simp [hmore] at h⟩
        simp only [Bool.false_eq_true, if_false, JobOwes, hmore, if_true]
        intro howes
        rw [hrecords.requests, hrecords.readings, howed] at howes
        cases howes
      · refine ⟨?_, fun _ h => by simp [hmore] at h⟩
        simp only [Bool.false_eq_true, if_false, JobOwes, hmore]
        exact hcovered
  · refine ⟨?_, fun _ h => by simp [hfailures] at h⟩
    simp only [Bool.false_eq_true, if_false, JobOwes, hfailures, if_true]
    exact hallow

theorem stallJob_keeps
    (hstall : gaveUp = true → ∀ job attempt, db.findJob t = some job → job.state = .active attempt →
      HasRead t attempt db) : SeatQueue t (db.stallJob t gaveUp) ∧ SeatLater t db (db.stallJob t gaveUp) := by
  have hrecords : SeatRecords t db (db.stallJob t gaveUp) := ⟨rfl, rfl, fun _ => rfl, Nat.le_refl _⟩
  apply hrecords.update hdb (filter_updateWhere fun _ _ _ => rfl)
  intro job hjob hactive
  simp only [SeatJob.isActive, Bool.and_eq_true] at hactive
  have howes := hdb.owes job hjob
  rw [JobOwes] at howes
  cases hstate : job.state with
  | active attempt =>
    rw [hstate] at howes
    obtain ⟨-, -, hread, hallow⟩ := howes
    cases gaveUp with
    | true => exact ⟨(hread (hstall rfl job attempt hjob hstate)).2, fun _ h => by cases h⟩
    | false => exact ⟨hallow, fun _ h => by cases h⟩
  | _ => simp [hstate] at hactive

theorem evictJob_keeps : SeatQueue t (db.evictJob t) ∧ SeatLater t db (db.evictJob t) := by
  have hrecords : SeatRecords t db (db.evictJob t) := ⟨rfl, rfl, fun _ => rfl, Nat.le_refl _⟩
  have hjobs : (db.evictJob t).jobs t = (db.jobs t).filter (!SeatJob.isOver t ·) := by
    rw [BillingDb.jobs, BillingDb.jobs, BillingDb.evictJob, List.filter_filter, List.filter_filter]
    exact List.filter_congr fun _ _ => Bool.and_comm _ _
  cases hjob : db.findJob t with
  | none =>
    apply SeatSame.keeps ⟨hrecords, _⟩ hdb
    rw [BillingDb.findJob_eq, List.head?_eq_none_iff] at hjob
    rw [hjobs, hjob]
    rfl
  | some job =>
    rw [hdb.jobs_eq hjob] at hjobs
    cases hover : SeatJob.isOver t job with
    | false =>
      apply SeatSame.keeps ⟨hrecords, _⟩ hdb
      rw [hjobs, hdb.jobs_eq hjob]
      simp [hover]
    | true =>
      have hnil : (db.evictJob t).jobs t = [] := by
        rw [hjobs]
        simp [hover]
      have hnone : (db.evictJob t).findJob t = none := by
        rw [BillingDb.findJob_eq, hnil]
        rfl
      have howes := hdb.owes job hjob
      simp only [SeatJob.isOver, decide_eq_true_eq] at hover
      apply hrecords.keeps hdb
      · simp [hnil]
      · intro _
        rcases hover.2 with hstate | hstate
        · rwa [JobOwes, hstate] at howes
        · rwa [JobOwes, hstate] at howes
      · simp [hnone]
      · simp [hnone]

theorem requestSeats_keeps (hreachable : db.queueReachable = true)
    (htakes : ∀ job, db.findJob t = some job → TakesIn t allowDecrease job db) :
    SeatQueue t (db.requestSeats t allowDecrease origin) ∧ SeatLater t db (db.requestSeats t allowDecrease origin) := by
  have hrequests : (db.requestSeats t allowDecrease origin).requests t = db.requests t ++ [allowDecrease] := by
    simp only [BillingDb.requestSeats, BillingDb.requests]
    split <;> simp
  have hreadings : (db.requestSeats t allowDecrease origin).readings t = db.readings t := by
    simp only [BillingDb.requestSeats]
    split <;> rfl
  have hbegun : ∀ attempt, (db.requestSeats t allowDecrease origin).coverOf t attempt = db.coverOf t attempt := by
    intro attempt
    simp only [BillingDb.requestSeats]
    split <;> rfl
  have hattempts : (db.requestSeats t allowDecrease origin).attempts = db.attempts := by
    simp only [BillingDb.requestSeats]
    split <;> rfl
  have howed : true ∈ (db.requests t ++ [allowDecrease]).drop (covered (db.readings t)) →
      true ∈ (db.requests t).drop (covered (db.readings t)) ∨ allowDecrease = true := by
    rw [List.drop_append_of_le_length hdb.covered_le]
    intro hmem
    rcases mem_snoc.mp hmem with hmem | hmem
    · exact .inl hmem
    · exact .inr hmem.symm
  have hread : ∀ attempt, HasRead t attempt (db.requestSeats t allowDecrease origin) ↔ HasRead t attempt db := by
    intro attempt
    rw [HasRead, HasRead, hreadings]
  have hbounded : ∀ r ∈ db.readings t, r.covers ≤ (db.requests t ++ [allowDecrease]).length := fun r hr => by
    rw [List.length_append]
    exact Nat.le_add_right_of_le (hdb.bounded r hr)
  have hcommon : ∀ job', (db.requestSeats t allowDecrease origin).jobs t = [job'] →
      JobOwes t (db.requestSeats t allowDecrease origin) job' →
      (∀ attempt, job'.state = .active attempt → db.findJob t = some job') →
      SeatQueue t (db.requestSeats t allowDecrease origin) ∧
        SeatLater t db (db.requestSeats t allowDecrease origin) := by
    intro job' hjobs howes hsame
    have hfind : (db.requestSeats t allowDecrease origin).findJob t = some job' := by
      rw [BillingDb.findJob_eq, hjobs]
      rfl
    refine ⟨⟨?_, ?_, ?_, ?_, ?_, ?_, ?_⟩, ⟨?_, ?_, ?_, ?_⟩⟩
    · simp [hjobs]
    · rw [hreadings, hrequests]
      exact hbounded
    · intro attempt hle
      rw [hbegun]
      exact hdb.fresh attempt (hattempts ▸ hle)
    · rw [hreadings, hattempts]
      exact hdb.known
    · rw [hrequests, hreadings]
      exact hdb.inTurn.request hdb.bounded allowDecrease
    · intro hnone
      rw [hfind] at hnone
      cases hnone
    · intro job hjob
      rw [hfind] at hjob
      cases hjob
      exact howes
    · exact Nat.le_of_eq hattempts.symm
    · exact fun attempt h => by rwa [hbegun]
    · exact fun attempt h => (hread attempt).mpr h
    · intro job attempt hjob hstate _
      rw [hfind] at hjob
      cases hjob
      exact ⟨job', hsame attempt hstate, hstate, rfl⟩
  cases hjob : db.findJob t with
  | none =>
    have hnil : db.jobs t = [] := by
      rwa [BillingDb.findJob_eq, List.head?_eq_none_iff] at hjob
    have hjobs : (db.requestSeats t allowDecrease origin).jobs t =
        [{ tenantId := t, allowDecrease, origin }] := by
      rw [BillingDb.jobs] at hnil
      simp [BillingDb.requestSeats, hreachable, hjob, BillingDb.jobs, hnil]
    apply hcommon _ hjobs
    · intro howes
      rw [hrequests, hreadings] at howes
      rcases howed howes with hmem | hallow
      · rw [hdb.rest hjob, List.drop_length] at hmem
        cases hmem
      · exact hallow
    · intro attempt hstate
      cases hstate
  | some job =>
    have hjobs : (db.requestSeats t allowDecrease origin).jobs t = [job] := by
      rw [← hdb.jobs_eq hjob]
      simp [BillingDb.requestSeats, hjob, BillingDb.jobs]
    have htaken := htakes job hjob
    have howes := hdb.owes job hjob
    apply hcommon job hjobs _ fun _ _ => hjob
    rw [JobOwes] at howes ⊢
    rw [hrequests, hreadings]
    rcases htaken.toCount with hstate | ⟨attempt, hstate, hnone⟩
    · rw [hstate] at howes ⊢
      exact fun hmem => (howed hmem).elim howes htaken.allows
    · rw [hstate] at howes ⊢
      obtain ⟨hlt, -, hhas, hallow⟩ := howes
      refine ⟨hattempts ▸ hlt, ?_, ?_, fun hmem => (howed hmem).elim hallow htaken.allows⟩
      · intro k hk
        rw [hbegun, hnone] at hk
        cases hk
      · intro h
        exact absurd hnone (hhas ((hread attempt).mp h)).1

theorem beginCount_keeps (hholds : Holds t attempt db) :
    SeatQueue t (db.beginCount t attempt) ∧ SeatLater t db (db.beginCount t attempt) := by
  obtain ⟨job, hjob, hstate⟩ := hholds
  have howes := hdb.owes job hjob
  rw [JobOwes, hstate] at howes
  obtain ⟨hlt, hlength, hread, hallow⟩ := howes
  have hcover : ∀ other, (db.beginCount t attempt).coverOf t other =
      (db.coverOf t other).or (if attempt = other then some (db.requests t).length else none) := by
    intro other
    simp only [BillingDb.coverOf, BillingDb.beginCount, List.find?_append, List.find?_singleton]
    cases db.counting.find? fun c => c.tenantId = t ∧ c.attempt = other with
    | some => rfl
    | none => by_cases hother : attempt = other <;> simp [hother]
  refine ⟨⟨hdb.keyed, hdb.bounded, ?_, hdb.known, hdb.inTurn, hdb.rest, ?_⟩,
    ⟨Nat.le_refl _, ?_, fun _ h => h, fun job' _ hjob' hstate' _ => ⟨job', hjob', hstate', rfl⟩⟩⟩
  · intro other hle
    rw [hcover, hdb.fresh other hle, if_neg (Nat.ne_of_lt (Nat.lt_of_lt_of_le hlt hle))]
    rfl
  · intro job' hjob'
    cases hjob.symm.trans hjob'
    rw [JobOwes, hstate]
    refine ⟨hlt, ?_, ?_, hallow⟩
    · intro k hk
      rw [hcover] at hk
      cases hold : db.coverOf t attempt with
      | some =>
        rw [hold] at hk
        cases hk
        exact hlength k hold
      | none =>
        rw [hold, if_pos rfl] at hk
        exact (Option.some.inj hk).symm
    · intro h
      refine ⟨?_, (hread h).2⟩
      rw [hcover]
      simp
  · intro other hbegun
    rw [hcover]
    simp [hbegun]

/-- The reading of an attempt that has begun, and may reduce where its job may, covers every request. -/
theorem endCount_keeps (hholds : Holds t attempt db) (hbegun : db.coverOf t attempt ≠ none)
    (hallows : ∀ job, db.findJob t = some job → job.state = .active attempt → job.allowDecrease = allowDecrease) :
    SeatQueue t (db.endCount t attempt allowDecrease) ∧ SeatLater t db (db.endCount t attempt allowDecrease) := by
  obtain ⟨job, hjob, hstate⟩ := hholds
  have howes := hdb.owes job hjob
  rw [JobOwes, hstate] at howes
  obtain ⟨hlt, hlength, -, hallow⟩ := howes
  obtain ⟨k, hk⟩ := Option.ne_none_iff_exists'.mp hbegun
  have hcovers : (db.coverOf t attempt).getD 0 = (db.requests t).length := by
    rw [hk, Option.getD_some]
    exact hlength k hk
  have hreadings : (db.endCount t attempt allowDecrease).readings t =
      db.readings t ++ [{ tenantId := t, attempt, allowDecrease, covers := (db.requests t).length }] := by
    simp [BillingDb.readings, BillingDb.endCount, hcovers]
  have hcovered : covered ((db.endCount t attempt allowDecrease).readings t) = (db.requests t).length := by
    rw [hreadings, covered_concat]
    exact Nat.max_eq_right hdb.covered_le
  refine ⟨⟨hdb.keyed, ?_, hdb.fresh, ?_, ?_, fun _ => hcovered, ?_⟩,
    ⟨Nat.le_refl _, fun _ h => h, ?_, fun job' _ hjob' hstate' _ => ⟨job', hjob', hstate', rfl⟩⟩⟩
  · rw [hreadings]
    intro r hr
    rcases mem_snoc.mp hr with hr | rfl
    · exact hdb.bounded r hr
    · exact Nat.le_refl _
  · rw [hreadings]
    intro r hr
    rcases mem_snoc.mp hr with hr | rfl
    · exact hdb.known r hr
    · exact hlt
  · rw [hreadings]
    apply forall_before_concat hdb.inTurn
    intro i hle _ hrequest
    rw [← hallows job hjob hstate]
    apply hallow
    apply List.mem_of_getElem? (i := i - covered (db.readings t))
    rw [List.getElem?_drop, Nat.add_sub_cancel' hle]
    exact hrequest
  · intro job' hjob'
    cases hjob.symm.trans hjob'
    rw [JobOwes, hstate, hcovered]
    refine ⟨hlt, hlength, fun _ => ⟨hbegun, rfl⟩, ?_⟩
    intro howed
    rw [show (db.endCount t attempt allowDecrease).requests t = db.requests t from rfl, List.drop_length] at howed
    cases howed
  · rintro other ⟨r, hr, hattempt⟩
    refine ⟨r, ?_, hattempt⟩
    rw [hreadings]
    exact List.mem_append_left _ hr

end Own

theorem effect_serves {t : Uuid} {db db' : BillingDb} (hdb : SeatQueue t db)
    (hcond : servesInTurn t tag db) (h : BillingEffect tag db db') : SeatQueue t db' ∧ SeatLater t db db' := by
  cases h with
  | committed heffect => exact (commit_seatSame t heffect).keeps hdb
  | settled event eventId => exact (settle_seatSame t event eventId db).keeps hdb
  | requested tenantId allowDecrease origin =>
    by_cases htenant : tenantId = t
    · obtain ⟨hreachable, htakes⟩ := hcond htenant
      subst htenant
      exact requestSeats_keeps hdb hreachable htakes
    · exact (requestSeats_seatSame htenant db allowDecrease origin).keeps hdb
  | stalled tenantId gaveUp =>
    by_cases htenant : tenantId = t
    · subst htenant
      apply stallJob_keeps hdb
      intro hgaveUp job attempt hjob hstate
      subst hgaveUp
      by_contra hread
      exact hcond rfl job hjob ⟨attempt, hstate, hread⟩
    · exact (stallJob_seatSame htenant db gaveUp).keeps hdb
  | evicted tenantId =>
    by_cases htenant : tenantId = t
    · subst htenant
      exact evictJob_keeps hdb
    · exact (evictJob_seatSame htenant db).keeps hdb
  | _ =>
    apply SeatSame.keeps _ hdb
    exact .of_tables rfl rfl rfl rfl rfl

section Worker

variable {t : Uuid}

structure Knows (t : Uuid) (job : TakenJob) (db : BillingDb) : Prop where
  attempt : job.attempt < db.attempts
  allows : ∀ j, db.findJob t = some j → j.state = .active job.attempt → j.allowDecrease = job.allowDecrease

variable {job : TakenJob}

theorem Knows.later {db db' : BillingDb} (h : Knows t job db) (hlater : SeatLater t db db') : Knows t job db' where
  attempt := Nat.lt_of_lt_of_le h.attempt hlater.attempts
  allows j hj hstate := by
    obtain ⟨j₀, hj₀, hstate₀, hallow⟩ := hlater.held j job.attempt hj hstate h.attempt
    exact hallow.symm.trans (h.allows j₀ hj₀ hstate₀)

theorem attemptStep_ensures {step α : Type} [DecidableEq step] {fault : Option (Fault step)} {name : step}
    {work : BillingProg (Except BillingError α)} {Q : α → BillingDb → Prop} {db : BillingDb}
    (h : Prog.Ensures (serving t) (fun r s => ∀ a, r = .ok a → Q a s) db work) :
    Prog.Ensures (serving t) (fun r s => ∀ a, r = .ok a → Q a s) db (attemptStep fault name work) := by
  cases fault with
  | none => exact h
  | some =>
    simp only [attemptStep]
    split
    · exact h
    · split
      · exact h.bind (serving_sound t) fun _ _ _ _ _ ha => by cases ha
      · exact fun _ ha => by cases ha

theorem aside_ensures {α : Type} {act : BillingDb → α × BillingDb}
    (h : ∀ s, SeatSame t s (act s).2) (db : BillingDb) :
    Prog.Ensures (serving t) (fun _ _ => True) db (.stmt tag act) :=
  Prog.Ensures.stmt fun s _ hinv _ => ⟨(h s).keeps hinv, trivial⟩

theorem updateSeats_ensures (job : TakenJob) (stored seats : Nat) (fault : Option (Fault PushStep)) (db : BillingDb) :
    Prog.Ensures (serving t) (fun _ _ => True) db (updateSeats t job stored seats fault) := by
  have hread : Prog.Ensures (serving t) (fun r s => ∀ a, r = .ok a → (fun _ _ => True) a s) db
      (.read (.readProvider t) fun db => (.ok (db.currentSubscription t) : Except BillingError _)) :=
    (aside_ensures (fun s => .refl t s) db).mono fun _ _ _ _ _ => trivial
  apply (attemptStep_ensures hread).bind (serving_sound t)
  intro found s _ _
  cases found with
  | error => trivial
  | ok subscription =>
    cases subscription with
    | none => trivial
    | some subscription =>
      dsimp only
      split
      · trivial
      · have hpush : Prog.Ensures (serving t) (fun r s => ∀ a, r = .ok a → (fun _ _ => True) a s) s
            (.stmt (.updateSeats t subscription.id stored job.allowDecrease) fun db =>
              ((.ok () : Except BillingError Unit), db.pushSeats t job subscription.id seats)) := by
          apply (aside_ensures (t := t) _ s).mono fun _ _ _ _ _ => trivial
          exact fun s => .of_tables rfl rfl rfl rfl rfl
        exact (attemptStep_ensures hpush).mono fun _ _ _ => trivial

theorem currentSeatCount_ensures {db : BillingDb} (hknows : Knows t job db) (fault : Option (Fault PushStep)) :
    Prog.Ensures (serving t) (fun r s => ∀ a, r = .ok a → HasRead t job.attempt s) db (currentSeatCount t job fault) := by
  have hmembers : Prog.Ensures (serving t) (fun r s => ∀ a, r = .ok a → s.coverOf t job.attempt ≠ none) db
      (countMembers t job) := by
    apply Prog.Ensures.stmt
    intro s _ hinv hcond
    refine ⟨beginCount_keeps hinv (hcond rfl), fun _ _ => ?_⟩
    simp [BillingDb.coverOf, BillingDb.beginCount, List.find?_append]
  apply (attemptStep_ensures hmembers).bind (serving_sound t)
  intro members s hlater hbegun
  cases members with
  | error => exact fun _ h => by cases h
  | ok members =>
    have hbegun := hbegun members rfl
    have hknows := hknows.later hlater
    have hpending : Prog.Ensures (serving t) (fun r s => ∀ a, r = .ok a → HasRead t job.attempt s) s
        (countPending t job) := by
      apply Prog.Ensures.stmt
      intro s' hlater' hinv hcond
      refine ⟨endCount_keeps hinv (hcond rfl) (hlater'.begun _ hbegun) (hknows.later hlater').allows, fun _ _ => ?_⟩
      simp [HasRead, BillingDb.readings, BillingDb.endCount]
    apply (attemptStep_ensures hpending).bind (serving_sound t)
    intro pending s' _ hread
    cases pending with
    | error => exact fun _ h => by cases h
    | ok pending => exact fun _ _ => hread pending rfl

theorem pushCount_ensures {db : BillingDb} (hknows : Knows t job db) (stored : Nat)
    (fault : Option (Fault PushStep)) :
    Prog.Ensures (serving t) (fun r s => ∀ a, r = .ok a → HasRead t job.attempt s) db (pushCount t job stored fault) := by
  apply (currentSeatCount_ensures hknows fault).bind (serving_sound t)
  intro count s _ hread
  cases count with
  | error => exact fun _ h => by cases h
  | ok seats =>
    have hread := hread seats rfl
    dsimp only
    split
    · exact fun _ _ => hread
    · split
      · exact fun _ _ => hread
      · apply (updateSeats_ensures job stored seats fault s).bind (serving_sound t)
        intro answer s' hlater _
        cases answer with
        | error => exact fun _ h => by cases h
        | ok _ =>
          have hstore : Prog.Ensures (serving t) (fun r s => ∀ a, r = .ok a → HasRead t job.attempt s) s'
              (storeSeats t seats) := by
            have hseats : Prog.Ensures (serving t) (fun _ _ => True) s' (storeSeats t seats) :=
              aside_ensures (fun s => .of_tables rfl rfl rfl rfl rfl) s'
            apply (hseats.after (serving_sound t)).mono
            exact fun _ _ h _ _ => h.1.hasRead _ (hlater.hasRead _ hread)
          exact attemptStep_ensures hstore

theorem push_ensures {db : BillingDb} (hknows : Knows t job db) (fault : Option (Fault PushStep)) :
    Prog.Ensures (serving t) (fun r s => ∀ a, r = .ok a → HasRead t job.attempt s) db (push t job fault) := by
  have hfind : Prog.Ensures (serving t)
      (fun r _ => ∀ a, r = .ok a → ∃ s : Subscription, a = some s ∧ s.providerSubscriptionId ≠ none) db
      (.read (.readSubscription t job.attempt) fun db => (.ok (db.findSubscription t) : Except BillingError _)) := by
    apply Prog.Ensures.stmt
    intro s _ hinv hcond
    refine ⟨(SeatSame.refl t s).keeps hinv, fun a ha => ?_⟩
    obtain ⟨subscription, hsubscription, hmetered⟩ := hcond rfl
    cases ha
    exact ⟨subscription, hsubscription, hmetered⟩
  apply (attemptStep_ensures hfind).bind (serving_sound t)
  intro found s hlater hmetered
  cases found with
  | error => exact fun _ h => by cases h
  | ok found =>
    obtain ⟨subscription, rfl, hid⟩ := hmetered found rfl
    dsimp only
    rw [if_neg hid]
    exact pushCount_ensures (hknows.later hlater) _ fault

theorem taken_knows {db : BillingDb} {waiting : SeatJob} (hdb : SeatQueue t db)
    (hwaiting : db.seatJobs.find? (SeatJob.waits t) = some waiting) :
    Knows t { attempt := db.attempts, allowDecrease := waiting.allowDecrease, origin := waiting.origin }
      (db.holdJob t) where
  attempt := Nat.lt_succ_self _
  allows j hj _ := by
    have hmem : waiting ∈ db.jobs t := by
      have hwaits := List.find?_some hwaiting
      simp only [SeatJob.waits, decide_eq_true_eq] at hwaits
      exact List.mem_filter.mpr ⟨List.mem_of_find?_eq_some hwaiting, decide_eq_true hwaits.1⟩
    have hfind : (db.holdJob t).findJob t = (db.findJob t).map fun j =>
        if SeatJob.waits t j then { j with state := .active db.attempts } else j := by
      exact find?_updateWhere (f := fun j : SeatJob => { j with state := .active db.attempts })
        (q := fun j => decide (j.tenantId = t)) (fun _ => rfl) _
    rw [hfind] at hj
    obtain ⟨job, hjob, rfl⟩ := Option.map_eq_some_iff.mp hj
    rw [hdb.jobs_eq hjob, List.mem_singleton] at hmem
    rw [hmem]
    split <;> rfl

theorem work_guards (fault : Option (Fault PushStep)) (db : BillingDb) : Prog.Guards (serving t) db (work t fault) := by
  have htake : Prog.Ensures (serving t) (fun r s => ∀ job, r = some job → Knows t job s) db (take t) := by
    apply Prog.Ensures.stmt
    intro s _ hinv _
    split
    · exact ⟨(SeatSame.refl t s).keeps hinv, fun _ h => by cases h⟩
    · rename_i waiting hwaiting
      refine ⟨holdJob_keeps hinv, fun job hjob => ?_⟩
      cases hjob
      exact taken_knows hinv hwaiting
  apply (htake.bind (serving_sound t) (R := fun _ _ => True) _).guards
  intro taken s _ hknows
  cases taken with
  | none => trivial
  | some job =>
    apply (push_ensures (hknows job rfl) fault).bind (serving_sound t)
    intro outcome s' _ hread
    have hfinish : Prog.Ensures (serving t) (fun _ _ => True) s' (finish t job.attempt outcome.isOk) := by
      apply Prog.Ensures.stmt
      intro s'' hlater hinv hcond
      refine ⟨finishJob_keeps hinv ?_, trivial⟩
      intro j hj hstate
      cases outcome with
      | ok a => exact .inl (hlater.hasRead _ (hread a rfl))
      | error =>
        rcases hcond rfl j hj hstate with hmore | hhas
        · exact .inr ⟨rfl, hmore⟩
        · exact .inl hhas
    apply hfinish.bind (serving_sound t)
    intro _ _ _ _
    exact trivial

end Worker

theorem billingProgram_serves (t : Uuid) (maxAttempts : Nat) (call : BillingCall) (db : BillingDb) :
    Prog.Guards (serving t) db (billingProgram maxAttempts call) := by
  by_cases hwork : ∃ tenantId fault, call = .work tenantId fault
  · obtain ⟨tenantId, fault, rfl⟩ := hwork
    by_cases htenant : tenantId = t
    · subst htenant
      exact (work_guards fault db).bind (serving_sound tenantId) fun _ _ _ => trivial
    · have hworks : (billingProgram maxAttempts (.work tenantId fault)).Within (fun _ => True) (WorkEffect tenantId) :=
        (work_works tenantId fault).bind fun _ => trivial
      apply (hworks.weaken (J := (serving t).inv) fun _ _ => trivial).guards
      exact fun tag s _ s' hinv _ heffect => (workEffect_seatSame htenant heffect).keeps hinv
  · simp only [not_exists] at hwork
    have hworks := billingProgram_works maxAttempts hwork
    apply (hworks.weaken (J := (serving t).inv) fun _ _ => trivial).guards
    exact fun tag s _ s' hinv hcond heffect => effect_serves hinv hcond heffect

def NoSeatQueue (t : Uuid) (db : BillingDb) : Prop :=
  db.jobs t = [] ∧ db.requests t = [] ∧ db.readings t = [] ∧ db.counting = []

theorem NoSeatQueue.seatQueue {t : Uuid} {db : BillingDb} (h : NoSeatQueue t db) : SeatQueue t db := by
  obtain ⟨hjobs, hrequests, hreadings, hcounting⟩ := h
  have hnone : db.findJob t = none := by
    rw [BillingDb.findJob_eq, hjobs]
    rfl
  constructor
  · simp [hjobs]
  · simp [hreadings]
  · simp [BillingDb.coverOf, hcounting]
  · simp [hreadings]
  · intro before r after heq
    rw [hreadings] at heq
    exact absurd heq (by simp)
  · intro _
    rw [hreadings, hrequests]
    rfl
  · simp [hnone]

def serves (t : Uuid) : BillingSys → BillingCall → BillingStmt → Prop := fun s _ tag => servesInTurn t tag s.db

/-- **Seat requests.** In every run that meets the condition every reading may reduce where a request it covers first
    asks for that, and every request is covered when the job is over. -/
theorem seat_requests_are_served (maxAttempts : Nat) (t : Uuid) {db : BillingDb} (h₀ : NoSeatQueue t db)
    {s : BillingSys} (hr : BillingRun maxAttempts (serves t) db s) : Served t s.db := by
  have hguarded := Reachable.guards (serving_sound t) (fun call db => billingProgram_serves t maxAttempts call db)
    (fun _ _ _ h => h) (Sys.guarded_idle h₀.seatQueue) hr
  exact hguarded.inv.served

def meteredTenant : BillingDb :=
  { subscriptions := [{
      id := 1, tenantId := 1, planId := 1, seats := 1, status := .active, providerSubscriptionId := some "sub" }]
    seatHolders := [{ tenantId := 1, id := 1 }]
    providerSubscriptions := [{ id := "sub", tenantId := 1, customerId := "cus", seats := some 1 }] }

def twoMembers : List SeatHolder := [{ tenantId := 1, id := 1 }, { tenantId := 1, id := 2 }]

def threeMembers : List SeatHolder := twoMembers ++ [{ tenantId := 1, id := 3 }]

def joinTwice : List (Move BillingCall) :=
  [.spawn (.changeSeats 1 twoMembers), .spawn (.work 1 none)] ++ List.replicate 2 (.step 0) ++
    List.replicate 8 (.step 1) ++ [.spawn (.changeSeats 1 threeMembers), .spawn (.work 1 none)] ++
    List.replicate 2 (.step 2) ++ [.step 3]

/-- The same, where the job of the first push has been forgotten when the second member joins. -/
def joinTwiceEvicted : List (Move BillingCall) :=
  [.spawn (.changeSeats 1 twoMembers), .spawn (.work 1 none)] ++ List.replicate 2 (.step 0) ++
    List.replicate 8 (.step 1) ++ [.spawn (.evict 1), .step 2, .spawn (.changeSeats 1 threeMembers)] ++
    List.replicate 2 (.step 3) ++ .spawn (.work 1 none) :: List.replicate 8 (.step 4)

def seatAccount (db : BillingDb) : Option SeatJobState × List Bool × Nat × List Nat :=
  ((db.findJob 1).map (·.state), db.requests 1, covered (db.readings 1), db.seatPushes.map (·.seats))

theorem seat_requests_are_served_evicted :
    ∃ s, BillingRun 5 (serves 1) meteredTenant s ∧ seatAccount s.db = (some .completed, [false, false], 2, [2, 3]) ∧
      Served 1 s.db := by
  have hrun : (run (billingProgram 5) (fun s _ tag => decide (servesInTurn 1 tag s.db)) joinTwiceEvicted
      (.idle meteredTenant)).map (fun s => seatAccount s.db) =
      some (some .completed, [false, false], 2, [2, 3]) := by
    decide +kernel
  obtain ⟨s, hreach, hend⟩ := ends_of_run hrun
  exact ⟨s, hreach, hend, seat_requests_are_served 5 1 (by simp [NoSeatQueue, meteredTenant]; decide) hreach⟩

/-- The second request finds the completed job, and no push ever reads it. -/
theorem retained_job_swallows_request : ¬ ∀ (maxAttempts : Nat) (t : Uuid) (db : BillingDb), NoSeatQueue t db →
      ∀ s, BillingRun maxAttempts anyStep db s → Served t s.db := by
  intro hclaim
  have hrun : (run (billingProgram 5) (fun _ _ _ => true) joinTwice (.idle meteredTenant)).map
      (fun s => seatAccount s.db) = some (some .completed, [false, false], 1, [2]) := by
    decide +kernel
  obtain ⟨s, hreach, hend⟩ := ends_of_run_any hrun
  have hserved := hclaim 5 1 meteredTenant (by simp [NoSeatQueue, meteredTenant]; decide) s hreach
  simp only [seatAccount, Prod.mk.injEq] at hend
  obtain ⟨hjob, hrequests, hcovered, -⟩ := hend
  have hrest : AtRest 1 s.db := by
    intro job hfind
    rw [hfind] at hjob
    exact .inl (Option.some.inj hjob)
  have hall := hserved.atRest hrest
  rw [hcovered, hrequests] at hall
  cases hall

end Billing

end WhatsappCrm
