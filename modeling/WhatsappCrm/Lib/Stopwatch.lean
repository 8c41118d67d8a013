/-
Purpose: A pausable clock and a signal it follows. A timeline says at which moments a signal changed.
-/
import Mathlib.Data.List.Basic
import Mathlib.Tactic.Common

namespace Stopwatch

/-- What a watch does: it runs, it is paused, or it has stopped for good with an outcome. -/
inductive Phase (ω : Type) where
  | running
  | paused
  | stopped (outcome : ω)
deriving DecidableEq

structure Watch (ω : Type) where
  phase : Phase ω := .running
  pausedAt : Option Int := none
  paused : Int := 0
  shift : Int := 0

namespace Watch

variable {ω : Type} {w : Watch ω} {target : Phase ω} {now later : Int}

def Ok (w : Watch ω) : Prop := w.pausedAt ≠ none ↔ w.phase = .paused

theorem Ok.pausedAt_eq (h : w.Ok) (hphase : w.phase ≠ .paused) : w.pausedAt = none := by
  by_contra hne
  exact hphase (h.mp hne)

def openPause (w : Watch ω) (now : Int) : Int :=
  match w.pausedAt with
  | none => 0
  | some pausedAt => now - pausedAt

def total (w : Watch ω) (now : Int) : Int := w.paused + w.openPause now

/-- Turning a watch: a pause is charged when it ends, and puts the watch forward when it goes on running. -/
def turn (target : Phase ω) (now : Int) (w : Watch ω) : Watch ω :=
  match w.phase, target with
  | .stopped _, _ => w
  | .running, .running => w
  | .paused, .paused => w
  | .running, .paused => { w with phase := .paused, pausedAt := some now }
  | .paused, .running =>
    { phase := .running
      pausedAt := none
      paused := w.paused + w.openPause now
      shift := w.shift + w.openPause now }
  | _, .stopped outcome =>
    { w with phase := .stopped outcome, pausedAt := none, paused := w.paused + w.openPause now }

theorem turn_of_stopped (h : w.phase = .stopped outcome) : w.turn target now = w := by
  obtain ⟨phase, _, _, _⟩ := w
  cases h
  rfl

theorem turn_self (h : w.phase = target) : w.turn target now = w := by
  subst h
  obtain ⟨phase, _, _, _⟩ := w
  cases phase <;> rfl

theorem turn_phase (h : ∀ outcome, w.phase ≠ .stopped outcome) : (w.turn target now).phase = target := by
  obtain ⟨phase, _, _, _⟩ := w
  cases phase with
  | running | paused => cases target <;> rfl
  | stopped outcome => exact absurd rfl (h outcome)

theorem Ok.turn (h : w.Ok) : (w.turn target now).Ok := by
  cases hphase : w.phase with
  | running | paused => cases target <;> simp_all [Ok, Watch.turn]
  | stopped => rwa [turn_of_stopped hphase]

theorem Ok.total_turn (h : w.Ok) : (w.turn target now).total now = w.total now := by
  cases hphase : w.phase with
  | running =>
    have hnone := h.pausedAt_eq (by simp [hphase])
    cases target <;> simp [Watch.turn, hphase, total, openPause, hnone]
  | paused => cases target <;> simp [Watch.turn, hphase, total, openPause]
  | stopped => rw [turn_of_stopped hphase]

theorem Ok.total_later [DecidableEq ω] (h : w.Ok) (now later : Int) :
    w.total later = w.total now + if w.phase = .paused then later - now else 0 := by
  by_cases hphase : w.phase = .paused
  · obtain ⟨pausedAt, hpausedAt⟩ := Option.ne_none_iff_exists'.mp (h.mpr hphase)
    simp only [total, openPause, hpausedAt, if_pos hphase]
    omega
  · simp [total, openPause, h.pausedAt_eq hphase, if_neg hphase]

theorem Ok.turn_stopped (h : w.Ok) (hphase : w.phase ≠ .paused) (outcome : ω) (now later : Int) :
    w.turn (.stopped outcome) later = w.turn (.stopped outcome) now := by
  have hnone := h.pausedAt_eq hphase
  cases hw : w.phase with
  | running => simp [Watch.turn, hw, openPause, hnone]
  | paused => exact absurd hw hphase
  | stopped => rw [turn_of_stopped hw, turn_of_stopped hw]

end Watch

structure Timeline (φ : Type) where
  start : Int
  first : φ
  changes : List (Int × φ) := []
deriving DecidableEq

namespace Timeline

variable {φ ω : Type}

def last (h : Timeline φ) : φ := ((h.changes.getLast?).map (·.2)).getD h.first

def snoc (h : Timeline φ) (moment : Int) (value : φ) : Timeline φ :=
  { h with changes := h.changes ++ [(moment, value)] }

/-- The signal is looked at: what is new is a change. -/
def observe [DecidableEq φ] (h : Timeline φ) (moment : Int) (value : φ) : Timeline φ :=
  if h.last = value then h else h.snoc moment value

def watch (target : φ → Phase ω) (h : Timeline φ) : Watch ω :=
  h.changes.foldl (fun w change => w.turn (target change.2) change.1) (({} : Watch ω).turn (target h.first) h.start)

/-- How long a signal that had the value `value` at `since` satisfied `p`, up to `now`. -/
def spentFrom (p : φ → Bool) (now : Int) : Int → φ → List (Int × φ) → Int
  | since, value, [] => if p value then now - since else 0
  | since, value, (moment, next) :: changes =>
    (if p value then moment - since else 0) + spentFrom p now moment next changes

/-- How long the signal satisfied `p`. -/
def spent (p : φ → Bool) (h : Timeline φ) (now : Int) : Int :=
  spentFrom p now h.start h.first h.changes

@[simp] theorem last_snoc (h : Timeline φ) (moment : Int) (value : φ) : (h.snoc moment value).last = value := by
  simp [last, snoc]

theorem observe_last [DecidableEq φ] (h : Timeline φ) (moment : Int) (value : φ) :
    (h.observe moment value).last = value := by
  unfold observe
  split
  · assumption
  · exact last_snoc h moment value

theorem watch_snoc (target : φ → Phase ω) (h : Timeline φ) (moment : Int) (value : φ) :
    (h.snoc moment value).watch target = (h.watch target).turn (target value) moment := by
  simp [watch, snoc]

theorem watch_ok (target : φ → Phase ω) (h : Timeline φ) : (h.watch target).Ok := by
  have hstart : (({} : Watch ω).turn (target h.first) h.start).Ok := by
    refine Watch.Ok.turn ?_
    simp [Watch.Ok]
  suffices hfold : ∀ (changes : List (Int × φ)) (w : Watch ω), w.Ok →
      (changes.foldl (fun w change => w.turn (target change.2) change.1) w).Ok from hfold _ _ hstart
  intro changes
  induction changes with
  | nil => exact fun w hw => hw
  | cons change changes ih => exact fun w hw => ih _ hw.turn

theorem spent_later (p : φ → Bool) (h : Timeline φ) (now later : Int) :
    h.spent p later = h.spent p now + if p h.last then later - now else 0 := by
  suffices hfrom : ∀ (changes : List (Int × φ)) (since : Int) (value : φ),
      spentFrom p later since value changes = spentFrom p now since value changes +
        if p (((changes.getLast?).map (·.2)).getD value) then later - now else 0 from hfrom _ _ _
  intro changes
  induction changes with
  | nil =>
    intro since value
    cases hp : p value
    · simp [spentFrom, hp]
    · simp only [spentFrom, hp, if_true, List.getLast?_nil, Option.map_none, Option.getD_none]
      omega
  | cons change changes ih =>
    intro since value
    have hlast : (((change :: changes).getLast?).map (·.2)).getD value =
        ((changes.getLast?).map (·.2)).getD change.2 := by
      cases changes with
      | nil => rfl
      | cons => rw [List.getLast?_cons_cons, List.getLast?_eq_getLast_of_ne_nil (by simp)]; rfl
    rw [hlast, spentFrom, spentFrom, ih change.1 change.2]
    omega

/-- A change is not yet spent when it happens. -/
theorem spent_snoc (p : φ → Bool) (h : Timeline φ) (moment : Int) (value : φ) :
    (h.snoc moment value).spent p moment = h.spent p moment := by
  suffices hfrom : ∀ (changes : List (Int × φ)) (since : Int) (first : φ),
      spentFrom p moment since first (changes ++ [(moment, value)]) = spentFrom p moment since first changes from
    hfrom _ _ _
  intro changes
  induction changes with
  | nil =>
    intro since first
    simp [spentFrom]
  | cons change changes ih =>
    intro since first
    simp [spentFrom, ih]

end Timeline

/-- What the watch of the observer accounts for, at a moment. -/
structure Kept {φ ω : Type} [DecidableEq ω] (target : φ → Phase ω) (h : Timeline φ) (now : Int) : Prop where
  total : (h.watch target).total now = h.spent (fun value => target value = .paused) now
  stopped : ∀ outcome, (h.watch target).phase = .stopped outcome → ∃ outcome', target h.last = .stopped outcome'
  following : (∀ outcome, (h.watch target).phase ≠ .stopped outcome) → (h.watch target).phase = target h.last

namespace Kept

variable {φ ω : Type} [DecidableEq ω] {target : φ → Phase ω} {h : Timeline φ} {now : Int}

theorem paused_iff (hk : Kept target h now) : (h.watch target).phase = .paused ↔ target h.last = .paused := by
  cases hphase : (h.watch target).phase with
  | stopped outcome =>
    obtain ⟨outcome', hlast⟩ := hk.stopped outcome hphase
    simp [hlast]
  | running | paused => simp [← hk.following (by simp [hphase]), hphase]

theorem start (target : φ → Phase ω) (moment : Int) (first : φ) : Kept target { start := moment, first } moment := by
  have hwatch : ({ start := moment, first } : Timeline φ).watch target =
      ({} : Watch ω).turn (target first) moment := rfl
  have hphase : (({} : Watch ω).turn (target first) moment).phase = target first := Watch.turn_phase (by simp)
  constructor
  · have hok : ({} : Watch ω).Ok := by simp [Watch.Ok]
    rw [hwatch, hok.total_turn]
    simp [Watch.total, Watch.openPause, Timeline.spent, Timeline.spentFrom]
  · intro outcome houtcome
    exact ⟨outcome, by rwa [hwatch, hphase] at houtcome⟩
  · intro _
    rw [hwatch, hphase]
    rfl

theorem later (hk : Kept target h now) (later : Int) : Kept target h later where
  total := by
    rw [(h.watch_ok target).total_later now later, h.spent_later _ now, hk.total]
    simp only [hk.paused_iff, decide_eq_true_eq]
  stopped := hk.stopped
  following := hk.following

theorem snoc (hk : Kept target h now)
    (hstopped : ∀ outcome, target h.last = .stopped outcome → ∃ outcome', target value = .stopped outcome') :
    Kept target (h.snoc now value) now where
  total := by rw [h.watch_snoc, (h.watch_ok target).total_turn, h.spent_snoc, hk.total]
  stopped := by
    intro outcome houtcome
    rw [Timeline.last_snoc]
    rw [h.watch_snoc] at houtcome
    by_cases hlive : ∀ outcome, (h.watch target).phase ≠ .stopped outcome
    · exact ⟨outcome, by rwa [Watch.turn_phase hlive] at houtcome⟩
    · obtain ⟨outcome₁, hphase⟩ := not_forall_not.mp hlive
      obtain ⟨outcome₂, hlast⟩ := hk.stopped outcome₁ hphase
      exact hstopped outcome₂ hlast
  following := by
    intro hlive
    rw [h.watch_snoc] at hlive ⊢
    rw [Timeline.last_snoc]
    apply Watch.turn_phase
    intro outcome hphase
    rw [Watch.turn_of_stopped hphase] at hlive
    exact hlive outcome hphase

theorem observe [DecidableEq φ] (hk : Kept target h now)
    (hstopped : ∀ outcome, target h.last = .stopped outcome → ∃ outcome', target value = .stopped outcome') :
    Kept target (h.observe now value) now := by
  unfold Timeline.observe
  split
  · exact hk
  · exact hk.snoc hstopped

end Kept

/-- `w` lags behind the watch `m`: a look now would show `m`, which is where the signal wants it, or both have
    stopped. -/
structure Lags {ω : Type} (w m : Watch ω) (target : Phase ω) (now : Int) : Prop where
  caught : w.turn m.phase now = m
  aimed : m.phase = target ∨ ∃ outcome, w.phase = .stopped outcome

namespace Lags

variable {ω : Type} {w m : Watch ω} {target : Phase ω} {now later : Int}

theorem eq_of_stopped (h : Lags w m target now) (hw : w.phase = .stopped outcome) : w = m := by
  rw [← h.caught, Watch.turn_of_stopped hw]

theorem look (h : Lags w m target now) : w.turn target now = m := by
  rcases h.aimed with haimed | ⟨outcome, hw⟩
  · rw [← haimed]
    exact h.caught
  · rw [Watch.turn_of_stopped hw]
    exact h.eq_of_stopped hw

theorem start (target : Phase ω) (now : Int) : Lags {} (({} : Watch ω).turn target now) target now where
  caught := by rw [Watch.turn_phase (by simp)]
  aimed := .inl (Watch.turn_phase (by simp))

theorem looked (h : Lags w m target now) : Lags m m target now where
  caught := Watch.turn_self rfl
  aimed := by
    rcases h.aimed with haimed | ⟨outcome, hw⟩
    · exact .inl haimed
    · exact .inr ⟨outcome, by rwa [← h.eq_of_stopped hw]⟩

theorem noticed (h : Lags w m target now) (hprompt : w.phase = .paused ↔ target = .paused) :
    w = m ∨ (w.phase = .running ∧ ∃ outcome, m.phase = .stopped outcome) := by
  rcases h.aimed with haimed | ⟨outcome, hw⟩
  · cases hw : w.phase with
    | stopped => exact .inl (h.eq_of_stopped hw)
    | paused =>
      left
      rw [← h.caught, haimed, hprompt.mp hw, Watch.turn_self hw]
    | running =>
      cases hm : m.phase with
      | stopped outcome => exact .inr ⟨rfl, outcome, rfl⟩
      | running => exact .inl (by rw [← h.caught, hm, Watch.turn_self hw])
      | paused =>
        have hpaused := hprompt.mpr (haimed.symm.trans hm)
        rw [hw] at hpaused
        cases hpaused
  · exact .inl (h.eq_of_stopped hw)

theorem pass (hw : w.Ok) (h : Lags w m target now) (hprompt : w.phase = .paused ↔ target = .paused) :
    Lags w m target later where
  caught := by
    rcases h.noticed hprompt with rfl | ⟨hrunning, outcome, hm⟩
    · exact Watch.turn_self rfl
    · have hcaught := h.caught
      rw [hm] at hcaught ⊢
      rw [hw.turn_stopped (by simp [hrunning]) outcome now later, hcaught]
  aimed := h.aimed

/-- The signal changes: what the last change meant for a pause was noticed, and a watch that the new value takes out of
    where it was to stop had stopped. -/
theorem change (h : Lags w m target now) (hprompt : w.phase = .paused ↔ target = .paused)
    (hstopped : ∀ outcome, target = .stopped outcome → target' ≠ target → ∃ outcome', w.phase = .stopped outcome') :
    Lags w (m.turn target' now) target' now := by
  rcases h.noticed hprompt with rfl | ⟨hrunning, outcome, hm⟩
  · cases hw : w.phase with
    | stopped outcome =>
      rw [Watch.turn_of_stopped hw]
      exact ⟨Watch.turn_self rfl, .inr ⟨outcome, hw⟩⟩
    | running | paused =>
      have hphase : (w.turn target' now).phase = target' := Watch.turn_phase (by simp [hw])
      exact ⟨by rw [hphase], .inl hphase⟩
  · have htarget : target = .stopped outcome := by
      rcases h.aimed with haimed | ⟨outcome', hw⟩
      · rw [← haimed, hm]
      · rw [hrunning] at hw
        cases hw
    have hsame : target' = target := by
      by_contra hne
      obtain ⟨outcome', hw⟩ := hstopped outcome htarget hne
      rw [hrunning] at hw
      cases hw
    rw [Watch.turn_of_stopped hm]
    exact ⟨h.caught, .inl (by rw [hm, hsame, htarget])⟩

end Lags

end Stopwatch
