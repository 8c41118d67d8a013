/-
Purpose: What a pause adds to a timer (`applyTransition` of `sla/sla-timer.service.ts`).
-/
import Mathlib.Algebra.Group.Basic
import Mathlib.Algebra.Ring.Int.Defs
import WhatsappCrm.Sla.Breach

namespace WhatsappCrm

open Table

def InInt4 (value : Int) : Prop := -int4Max - 1 ≤ value ∧ value ≤ int4Max

/-- The pause is a value of the column, and so is what it adds up to. -/
def Fits (pausedMs pause : Int) : Prop := InInt4 pause ∧ InInt4 (pausedMs + pause)

instance (value : Int) : Decidable (InInt4 value) := by
  unfold InInt4
  infer_instance

instance (pausedMs pause : Int) : Decidable (Fits pausedMs pause) := by
  unfold Fits
  infer_instance

theorem int4?_eq (value : Int) : int4? value = if InInt4 value then .ok value else .error (.database .outOfRange) := by
  have hiff : InInt4 value ↔ ¬(value < -int4Max - 1 ∨ int4Max < value) := by
    unfold InInt4
    omega
  by_cases hint : InInt4 value
  · rw [if_pos hint, int4?, if_neg (hiff.mp hint)]
  · rw [if_neg hint, int4?, if_pos (not_not.mp fun hout => hint (hiff.mpr hout))]

theorem addPause_eq (pausedMs pause : Int) : addPause pausedMs pause =
      if Fits pausedMs pause then .ok (pausedMs + pause) else .error (.database .outOfRange) := by
  unfold addPause Fits
  rw [int4?_eq]
  by_cases hpause : InInt4 pause
  · rw [if_pos hpause]
    simp only [hpause, true_and]
    exact int4?_eq (pausedMs + pause)
  · have hnot : ¬(InInt4 pause ∧ InInt4 (pausedMs + pause)) := fun h => hpause h.1
    rw [if_neg hpause]
    exact (if_neg hnot).symm

section One

variable {db : SlaDb} {t : SlaTimer} {pausedAt now : Millis}

/-- The open pause ends with the change, in full: it is in `paused_ms`, and of a resumed timer in the deadline. -/
def PauseInFull (db : SlaDb) (t : SlaTimer) (target : SlaTimerTarget) (now : Millis) : Prop :=
  ∃ db' t', db.applyTransition t.tenantId t.id target now = .ok ([.timer t.id], db') ∧
    db'.findTimer t.tenantId t.id = some t' ∧ t'.state = target.state ∧ t'.pausedAt = none ∧
      t'.pausedMs - t.pausedMs = t.openPause now ∧
        t'.dueAt - t.dueAt = (if target = .running then t.openPause now else 0) ∧ InInt4 t'.pausedMs

def SlaTimer.ended (t : SlaTimer) (target : SlaTimerTarget) (pausedAt now : Millis) : SlaTimer :=
  { t with
    state := target.state
    dueAt := if target = .running then t.dueAt + (now - pausedAt) else t.dueAt
    stoppedAt := if target = .running then t.stoppedAt else some now
    pausedMs := t.pausedMs + (now - pausedAt)
    pausedAt := none }

variable {target : SlaTimerTarget}

theorem transitioned_of_paused (htarget : target ≠ .paused) (hpaused : t.pausedAt = some pausedAt) :
    transitioned target now t =
      if Fits t.pausedMs (now - pausedAt) then .ok (t.ended target pausedAt now) else .error (.database .outOfRange) := by
  have hopen : t.openPause now = now - pausedAt := by rw [SlaTimer.openPause, hpaused]
  by_cases hfits : Fits t.pausedMs (now - pausedAt)
  · rw [if_pos hfits]
    cases target with
    | paused => exact absurd rfl htarget
    | running =>
      simp only [transitioned, hpaused, addPause_eq, if_pos hfits]
      rfl
    | met | cancelled =>
      simp only [transitioned, hopen, addPause_eq, if_pos hfits]
      rfl
  · rw [if_neg hfits]
    cases target with
    | paused => exact absurd rfl htarget
    | running =>
      simp only [transitioned, hpaused, addPause_eq, if_neg hfits]
      rfl
    | met | cancelled =>
      simp only [transitioned, hopen, addPause_eq, if_neg hfits]
      rfl

theorem SlaDb.findTimer_putTimer {t' : SlaTimer} (hfind : db.findTimer t'.tenantId t'.id = some t) :
    (db.putTimer t').findTimer t'.tenantId t'.id = some t' := by
  obtain ⟨ht, hid, _⟩ := SlaDb.findTimer_some hfind
  have hmem : t' ∈ (db.putTimer t').slaTimers := SlaDb.putTimer_mem_self ht hid
  cases hnew : (db.putTimer t').findTimer t'.tenantId t'.id with
  | none =>
    have hnot := List.find?_eq_none.mp hnew t' hmem
    exact absurd (decide_eq_true ⟨rfl, rfl⟩) hnot
  | some =>
    obtain ⟨hu, huid, _⟩ := SlaDb.findTimer_some hnew
    rcases SlaDb.mem_putTimer hu with rfl | ⟨_, hne⟩
    · rfl
    · exact absurd huid hne

theorem applyTransition_of_find (hfind : db.findTimer t.tenantId t.id = some t)
    (hadmits : target.admits t.state = true) (now : Millis) : db.applyTransition t.tenantId t.id target now =
      (transitioned target now t).map fun t' => ([.timer t.id], db.putTimer t') := by
  simp only [SlaDb.applyTransition, hfind, hadmits, if_true]
  cases transitioned target now t <;> rfl

theorem admits_paused (htarget : target ≠ .paused) : target.admits .paused = true := by
  cases target with
  | paused => exact absurd rfl htarget
  | running | met | cancelled => rfl

theorem pauseInFull_iff (hfind : db.findTimer t.tenantId t.id = some t)
    (htarget : target ≠ .paused) (hstate : t.state = .paused) (hpaused : t.pausedAt = some pausedAt) :
    PauseInFull db t target now ↔ Fits t.pausedMs (now - pausedAt) := by
  have hopen : t.openPause now = now - pausedAt := by rw [SlaTimer.openPause, hpaused]
  have happly := applyTransition_of_find hfind (hstate ▸ admits_paused htarget) now
  rw [transitioned_of_paused htarget hpaused] at happly
  constructor
  · rintro ⟨db', t', hok, _⟩
    by_contra hnot
    rw [if_neg hnot] at happly
    rw [happly] at hok
    cases hok
  · intro hfits
    rw [if_pos hfits] at happly
    refine ⟨_, _, happly, SlaDb.findTimer_putTimer hfind, rfl, rfl, ?_, ?_, hfits.2⟩
    · rw [hopen]
      exact add_sub_cancel_left _ _
    · rw [hopen]
      simp only [SlaTimer.ended]
      split
      · exact add_sub_cancel_left _ _
      · exact Int.sub_self _

end One

def pauseAndResume (tenantId timerId : Uuid) : List (Millis × Millis) → SlaDb → Except ApiError SlaDb
  | [], db => .ok db
  | (pausedAt, resumedAt) :: rest, db => do
    let (_, db) ← db.applyTransition tenantId timerId .paused pausedAt
    let (_, db) ← db.applyTransition tenantId timerId .running resumedAt
    pauseAndResume tenantId timerId rest db

def elapsed (pauses : List (Millis × Millis)) : Int := (pauses.map fun p => p.2 - p.1).sum

def AllFit (pausedMs : Int) : List (Millis × Millis) → Prop
  | [] => InInt4 pausedMs
  | (pausedAt, resumedAt) :: rest => Fits pausedMs (resumedAt - pausedAt) ∧ AllFit (pausedMs + (resumedAt - pausedAt)) rest

/-- All pauses succeed, and both `paused_ms` and the deadline have grown by all of them. -/
def PausesInFull (db : SlaDb) (t : SlaTimer) (pauses : List (Millis × Millis)) : Prop :=
  ∃ db' t', pauseAndResume t.tenantId t.id pauses db = .ok db' ∧ db'.findTimer t.tenantId t.id = some t' ∧
    t'.state = .running ∧ t'.pausedMs - t.pausedMs = elapsed pauses ∧ t'.dueAt - t.dueAt = elapsed pauses ∧
      InInt4 t'.pausedMs

theorem sub_eq_add_iff (a b c d : Int) : a - b = c + d ↔ a - (b + c) = d := by omega

def SlaTimer.resumed (t : SlaTimer) (pausedAt resumedAt : Millis) : SlaTimer :=
  { t with
    state := .running
    dueAt := t.dueAt + (resumedAt - pausedAt)
    pausedMs := t.pausedMs + (resumedAt - pausedAt)
    pausedAt := none }

theorem pauseAndResume_cons {db : SlaDb} {t : SlaTimer} (hfind : db.findTimer t.tenantId t.id = some t)
    (hstate : t.state = .running) (pausedAt resumedAt : Millis) (rest : List (Millis × Millis)) :
    (Fits t.pausedMs (resumedAt - pausedAt) → ∃ db₁ : SlaDb,
        db₁.findTimer t.tenantId t.id = some (t.resumed pausedAt resumedAt) ∧
          pauseAndResume t.tenantId t.id ((pausedAt, resumedAt) :: rest) db = pauseAndResume t.tenantId t.id rest db₁) ∧
      (¬Fits t.pausedMs (resumedAt - pausedAt) →
        pauseAndResume t.tenantId t.id ((pausedAt, resumedAt) :: rest) db = .error (.database .outOfRange)) := by
  let t₁ : SlaTimer := { t with state := .paused, pausedAt := some pausedAt }
  have hpause : db.applyTransition t.tenantId t.id .paused pausedAt = .ok ([.timer t.id], db.putTimer t₁) :=
    applyTransition_of_find hfind (by rw [hstate]; rfl) pausedAt
  have hfind₁ : (db.putTimer t₁).findTimer t₁.tenantId t₁.id = some t₁ := SlaDb.findTimer_putTimer hfind
  have hresume := applyTransition_of_find hfind₁ (show SlaTimerTarget.running.admits t₁.state = true from rfl) resumedAt
  rw [transitioned_of_paused (t := t₁) (by decide) rfl] at hresume
  constructor
  · intro hfits
    rw [if_pos hfits] at hresume
    refine ⟨(db.putTimer t₁).putTimer (t.resumed pausedAt resumedAt), SlaDb.findTimer_putTimer hfind₁, ?_⟩
    rw [pauseAndResume, hpause]
    show (do
      let (_, db) ← (db.putTimer t₁).applyTransition t.tenantId t.id .running resumedAt
      pauseAndResume t.tenantId t.id rest db) = _
    rw [hresume]
    rfl
  · intro hnot
    rw [if_neg hnot] at hresume
    rw [pauseAndResume, hpause]
    show (do
      let (_, db) ← (db.putTimer t₁).applyTransition t.tenantId t.id .running resumedAt
      pauseAndResume t.tenantId t.id rest db) = _
    rw [hresume]
    rfl

theorem pausesInFull_iff {db : SlaDb} {t : SlaTimer} (pauses : List (Millis × Millis))
    (hfind : db.findTimer t.tenantId t.id = some t) (hstate : t.state = .running) :
    PausesInFull db t pauses ↔ AllFit t.pausedMs pauses := by
  -- over the pauses, the timer being what the ones before have made of it
  induction pauses generalizing db t with
  | nil =>
    constructor
    · rintro ⟨db', t', hok, hfind', _, _, _, hint⟩
      cases hok
      rw [hfind] at hfind'
      cases hfind'
      exact hint
    · intro hint
      exact ⟨db, t, rfl, hfind, hstate, Int.sub_self _, Int.sub_self _, hint⟩
  | cons pause rest ih =>
    obtain ⟨pausedAt, resumedAt⟩ := pause
    obtain ⟨hgood, hbad⟩ := pauseAndResume_cons hfind hstate pausedAt resumedAt rest
    by_cases hfits : Fits t.pausedMs (resumedAt - pausedAt)
    · obtain ⟨db₁, hfind₁, hrun⟩ := hgood hfits
      have hrest := ih (t := t.resumed pausedAt resumedAt) hfind₁ rfl
      have hsum : elapsed ((pausedAt, resumedAt) :: rest) = (resumedAt - pausedAt) + elapsed rest := rfl
      have hmore : PausesInFull db t ((pausedAt, resumedAt) :: rest) ↔
          PausesInFull db₁ (t.resumed pausedAt resumedAt) rest := by
        unfold PausesInFull
        rw [hrun]
        apply exists_congr
        intro db'
        apply exists_congr
        intro t'
        have hms : t'.pausedMs - t.pausedMs = elapsed ((pausedAt, resumedAt) :: rest) ↔
            t'.pausedMs - (t.resumed pausedAt resumedAt).pausedMs = elapsed rest := by
          rw [hsum]
          exact sub_eq_add_iff ..
        have hdue : t'.dueAt - t.dueAt = elapsed ((pausedAt, resumedAt) :: rest) ↔
            t'.dueAt - (t.resumed pausedAt resumedAt).dueAt = elapsed rest := by
          rw [hsum]
          exact sub_eq_add_iff ..
        rw [hms, hdue]
        rfl
      rw [hmore, hrest]
      exact (and_iff_right hfits).symm
    · constructor
      · rintro ⟨db', t', hok, _⟩
        rw [hbad hfits] at hok
        cases hok
      · intro h
        exact absurd h.1 hfits

/-- A pause that ends is accounted for exactly when it fits the column and so does what it adds up to. -/
theorem pause_accounting (db : SlaDb) (t : SlaTimer) (hfind : db.findTimer t.tenantId t.id = some t) :
    (∀ target now pausedAt, target ≠ .paused → t.state = .paused → t.pausedAt = some pausedAt →
        (PauseInFull db t target now ↔ Fits t.pausedMs (now - pausedAt))) ∧
      (t.state = .running → ∀ pauses, PausesInFull db t pauses ↔ AllFit t.pausedMs pauses) :=
  ⟨fun _ _ _ htarget hstate hpaused => pauseInFull_iff hfind htarget hstate hpaused,
    fun hstate pauses => pausesInFull_iff pauses hfind hstate⟩

def pendingTimer : SlaTimer :=
  { id := 2
    tenantId := 1
    ticketId := 1
    policyId := 3
    kind := .resolution
    state := .paused
    startedAt := 0
    dueAt := 3600000
    pausedAt := some 0 }

theorem pause_accounting_pendingTimer : PauseInFull { slaTimers := [pendingTimer] } pendingTimer .met 2147483647 :=
  ((pause_accounting { slaTimers := [pendingTimer] } pendingTimer (by decide)).1 .met 2147483647 0 (by decide) rfl
    rfl).mpr (by decide)

/-- A millisecond later it can be neither resumed nor stopped; and two pauses of twenty days each do not add up. -/
theorem long_pause_never_ends :
    let db : SlaDb := { slaTimers := [pendingTimer] }
    let running : SlaTimer := { pendingTimer with state := .running, pausedAt := none }
    db.applyTransition 1 2 .running 2147483648 = .error (.database .outOfRange) ∧
      db.applyTransition 1 2 .met 2147483648 = .error (.database .outOfRange) ∧
        ¬PauseInFull db pendingTimer .running 2147483648 ∧
          pauseAndResume 1 2 [(0, 1728000000), (1728000000, 3456000000)] { slaTimers := [running] } =
            .error (.database .outOfRange) := by
  refine ⟨rfl, rfl, ?_, rfl⟩
  rintro ⟨db', t', hok, _⟩
  cases hok

end WhatsappCrm
