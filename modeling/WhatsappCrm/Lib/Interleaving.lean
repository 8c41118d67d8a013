/-
Purpose: Programs made of atomic statements on a shared state, any number of them running interleaved, and the invariant
  rule for them.
-/
import Mathlib.Logic.Relation
import Mathlib.Tactic.Common

namespace Interleaving

/-- A program over the shared state `σ` that answers an `α`. A statement's tag `τ` says which one it is. -/
inductive Prog (τ σ α : Type) : Type 1 where
  | pure (a : α)
  | atomic {β : Type} (tag : τ) (act : σ → β × σ) (next : β → Prog τ σ α)

variable {υ : Type}

namespace Prog

variable {τ σ α β : Type}

/-- Sequencing: run the first program and hand its answer to the second. -/
def bind : Prog τ σ α → (α → Prog τ σ β) → Prog τ σ β
  | .pure a, f => f a
  | .atomic tag act next, f => .atomic tag act fun b => (next b).bind f

instance : Monad (Prog τ σ) where
  pure := .pure
  bind := bind

@[simp] theorem pure_def (a : α) : (Pure.pure a : Prog τ σ α) = .pure a := rfl

@[simp] theorem bind_def (p : Prog τ σ α) (f : α → Prog τ σ β) : (p >>= f) = p.bind f := rfl

@[simp] theorem bind_pure_left (a : α) (f : α → Prog τ σ β) : (Prog.pure a).bind f = f a := rfl

@[simp] theorem bind_atomic {γ : Type} (tag : τ) (act : σ → γ × σ) (next : γ → Prog τ σ α) (f : α → Prog τ σ β) :
    (Prog.atomic tag act next).bind f = .atomic tag act fun b => (next b).bind f := rfl

theorem bind_assoc {γ : Type} (p : Prog τ σ α) (f : α → Prog τ σ β) (g : β → Prog τ σ γ) :
    (p.bind f).bind g = p.bind fun a => (f a).bind g := by
  induction p with
  | pure => rfl
  | atomic tag act next ih =>
    simp only [bind_atomic, ih]

/-- One statement as a program. -/
def stmt (tag : τ) (act : σ → β × σ) : Prog τ σ β := .atomic tag act .pure

def read (tag : τ) (f : σ → β) : Prog τ σ β := stmt tag fun s => (f s, s)

@[simp] theorem bind_stmt (tag : τ) (act : σ → β × σ) (f : β → Prog τ σ α) :
    (stmt tag act).bind f = .atomic tag act f := rfl

@[simp] theorem bind_read (tag : τ) (g : σ → β) (f : β → Prog τ σ α) :
    (read tag g).bind f = .atomic tag (fun s => (g s, s)) f := rfl

/-- The same program on a part of a larger state, and with its tags among others. -/
def zoom {ρ υ : Type} (get : σ → ρ) (set : ρ → σ → σ) (f : τ → υ) : Prog τ ρ α → Prog υ σ α
  | .pure a => .pure a
  | .atomic tag act next =>
    .atomic (f tag) (fun s => ((act (get s)).1, set (act (get s)).2 s)) fun b =>
      (next b).zoom get set f

/-- The same program under other tags. -/
def retag {υ : Type} (f : τ → υ) : Prog τ σ α → Prog υ σ α
  | .pure a => .pure a
  | .atomic tag act next => .atomic (f tag) act fun b => (next b).retag f

@[simp] theorem retag_pure (f : τ → υ) (a : α) : (Prog.pure a : Prog τ σ α).retag f = .pure a := rfl

theorem retag_bind {γ : Type} (f : τ → υ) (p : Prog τ σ α) (g : α → Prog τ σ γ) :
    (p.bind g).retag f = (p.retag f).bind fun a => (g a).retag f := by
  induction p with
  | pure => rfl
  | atomic tag act next ih =>
    simp only [bind_atomic, retag, ih]

theorem retag_retag (f : τ → υ) (g : υ → ρ) (p : Prog τ σ α) : (p.retag f).retag g = p.retag fun tag => g (f tag) := by
  induction p with
  | pure => rfl
  | atomic tag act next ih =>
    simp only [retag, ih]

@[simp] theorem retag_id (p : Prog τ σ α) : (p.retag fun tag => tag) = p := by
  induction p with
  | pure => rfl
  | atomic tag act next ih =>
    simp only [retag, ih]

/-- The program executed to its end with nothing in between. -/
def alone : Prog τ σ α → σ → α × σ
  | .pure a, s => (a, s)
  | .atomic _ act next, s => (next (act s).1).alone (act s).2

theorem alone_bind (p : Prog τ σ α) (f : α → Prog τ σ β) (s : σ) :
    (p.bind f).alone s = (f (p.alone s).1).alone (p.alone s).2 := by
  induction p generalizing s with
  | pure => rfl
  | atomic tag act next ih => exact ih _ _

/-- The answer of a program that has finished. -/
def result? : Prog τ σ α → Option α
  | .pure a => some a
  | .atomic .. => none

@[simp] theorem result?_pure (a : α) : (Prog.pure a : Prog τ σ α).result? = some a := rfl

@[simp] theorem result?_atomic (tag : τ) (act : σ → β × σ) (next : β → Prog τ σ α) :
    (Prog.atomic tag act next).result? = none := rfl

theorem eq_pure_of_result? {p : Prog τ σ α} (h : p.result? = some a) : p = .pure a := by
  cases p with
  | pure =>
    cases h
    rfl
  | atomic => cases h

/-- The statement a program takes next. -/
def next? : Prog τ σ α → Option τ
  | .pure _ => none
  | .atomic tag _ _ => some tag

/-- What is left of a program once its next statement has been executed in `s`. -/
def advance (s : σ) : Prog τ σ α → Prog τ σ α
  | .pure a => .pure a
  | .atomic _ act next => next (act s).1

end Prog

/-- The shared state and every call made so far, with what is left of its program. -/
structure Sys (τ σ κ α : Type) : Type 1 where
  db : σ
  calls : List (κ × Prog τ σ α)

variable {i : Nat}

namespace Sys

variable {τ σ κ α : Type}

def idle (db : σ) : Sys τ σ κ α := { db, calls := [] }

def spawn (prog : κ → Prog τ σ α) (s : Sys τ σ κ α) (c : κ) : Sys τ σ κ α :=
  { s with calls := s.calls ++ [(c, prog c)] }

/-- Executes the next statement of call `i`. -/
def exec {β : Type} (s : Sys τ σ κ α) (i : Nat) (c : κ) (act : σ → β × σ) (next : β → Prog τ σ α) : Sys τ σ κ α :=
  { db := (act s.db).2, calls := s.calls.set i (c, next (act s.db).1) }

/-- Call `c` has finished with answer `a`. -/
def Finished (s : Sys τ σ κ α) (c : κ) (a : α) : Prop := (c, .pure a) ∈ s.calls

/-- Call `i` and its answer, when it has finished. -/
def answer? (s : Sys τ σ κ α) (i : Nat) : Option (κ × α) :=
  s.calls[i]?.bind fun e => e.2.result?.map fun a => (e.1, a)

theorem finished_of_answer? {s : Sys τ σ κ α} (h : s.answer? i = some (c, a)) : s.Finished c a := by
  obtain ⟨⟨c', p⟩, hcall, hanswer⟩ := Option.bind_eq_some_iff.mp h
  obtain ⟨a', hresult, heq⟩ := Option.map_eq_some_iff.mp hanswer
  cases heq
  rw [Finished, ← Prog.eq_pure_of_result? hresult]
  exact List.mem_of_getElem? hcall

def results (s : Sys τ σ κ α) : List (κ × α) :=
  s.calls.filterMap fun e => e.2.result?.map fun a => (e.1, a)

end Sys

section Steps

variable {τ σ κ α : Type}

/-- One step of a run: a call starts, or takes its next statement when the condition of the run allows it. -/
inductive Step (prog : κ → Prog τ σ α) (cond : Sys τ σ κ α → κ → τ → Prop) : Sys τ σ κ α → Sys τ σ κ α → Prop where
  | spawn (s : Sys τ σ κ α) (c : κ) : Step prog cond s (s.spawn prog c)
  | exec {β : Type} (s : Sys τ σ κ α) (i : Nat) (c : κ) (tag : τ) (act : σ → β × σ)
      (next : β → Prog τ σ α) (hcall : s.calls[i]? = some (c, .atomic tag act next))
      (hcond : cond s c tag) : Step prog cond s (s.exec i c act next)

/-- The states of the runs from `s₀` whose steps all meet the condition. -/
abbrev Reachable (prog : κ → Prog τ σ α) (cond : Sys τ σ κ α → κ → τ → Prop) (s₀ s : Sys τ σ κ α) : Prop :=
  Relation.ReflTransGen (Step prog cond) s₀ s

/-- The condition every statement meets: runs without a restriction. -/
def anyStep : Sys τ σ κ α → κ → τ → Prop := fun _ _ _ => True

theorem Step.mono {prog : κ → Prog τ σ α} {cond cond' : Sys τ σ κ α → κ → τ → Prop}
    (h : ∀ s c tag, cond s c tag → cond' s c tag) {s s' : Sys τ σ κ α}
    (hs : Step prog cond s s') : Step prog cond' s s' := by
  cases hs with
  | spawn _ c => exact .spawn s c
  | exec _ i c tag act next hcall hcond =>
    exact .exec s i c tag act next hcall (h _ _ _ hcond)

theorem Reachable.mono {prog : κ → Prog τ σ α} {cond cond' : Sys τ σ κ α → κ → τ → Prop}
    (h : ∀ s c tag, cond s c tag → cond' s c tag) {s₀ s : Sys τ σ κ α}
    (hr : Reachable prog cond s₀ s) : Reachable prog cond' s₀ s :=
  Relation.ReflTransGen.mono (fun _ _ hs => Step.mono h hs) _ _ hr

/-- What a schedule says: start this call, or let call `i` execute its next statement. -/
inductive Move (κ : Type) where
  | spawn (c : κ)
  | step (i : Nat)

/-- Plays one move; `none` when call `i` has nothing to execute or the condition forbids it. -/
def play (prog : κ → Prog τ σ α) (ok : Sys τ σ κ α → κ → τ → Bool) (s : Sys τ σ κ α) : Move κ → Option (Sys τ σ κ α)
  | .spawn c => some (s.spawn prog c)
  | .step i =>
    match s.calls[i]? with
    | some (c, .atomic tag act next) => if ok s c tag then some (s.exec i c act next) else none
    | _ => none

/-- Plays a schedule from left to right. -/
def run (prog : κ → Prog τ σ α) (ok : Sys τ σ κ α → κ → τ → Bool) : List (Move κ) → Sys τ σ κ α → Option (Sys τ σ κ α)
  | [], s => some s
  | m :: ms, s => (play prog ok s m).bind (run prog ok ms)

variable {ok : Sys τ σ κ α → κ → τ → Bool}

theorem play_step (h : play prog ok s m = some s') : Step prog (fun s c tag => ok s c tag = true) s s' := by
  cases m with
  | spawn c =>
    cases h
    exact .spawn s c
  | step i =>
    simp only [play] at h
    split at h
    · rename_i c β tag act next hcall
      split at h
      · rename_i hok
        cases h
        exact .exec s i c tag act next hcall hok
      · cases h
    · cases h

theorem play_exec (h : play prog ok s (.step i) = some s') :
    ∃ (c : κ) (tag : τ) (β : Type) (act : σ → β × σ) (next : β → Prog τ σ α),
      s.calls[i]? = some (c, .atomic tag act next) ∧ s' = s.exec i c act next := by
  simp only [play] at h
  split at h
  · rename_i c β tag act next hcall
    split at h
    · cases h
      exact ⟨c, tag, β, act, next, hcall, rfl⟩
    · cases h
  · cases h

/-- A schedule that plays through is a run whose steps all meet the condition. -/
theorem reachable_of_run : ∀ {ms : List (Move κ)} {s s' : Sys τ σ κ α}, run prog ok ms s = some s' →
      Reachable prog (fun s c tag => ok s c tag = true) s s'
  | [], s, s', h => by
    cases h
    exact .refl
  | m :: ms, s, s', h => by
    obtain ⟨s₁, hplay, hrest⟩ := Option.bind_eq_some_iff.mp h
    exact .head (play_step hplay) (reachable_of_run hrest)

variable {ms : List (Move κ)}

theorem reachable_of_run_any (h : run prog (fun _ _ _ => true) ms s = some s') : Reachable prog anyStep s s' :=
  (reachable_of_run h).mono fun _ _ _ _ => trivial

theorem ends_of_run {cond : Sys τ σ κ α → κ → τ → Prop} {hdec : ∀ s c tag, Decidable (cond s c tag)}
    (h : (run prog (fun s c tag => decide (cond s c tag)) ms s).map f = some b) :
    ∃ s', Reachable prog cond s s' ∧ f s' = b := by
  obtain ⟨s', hs', hend⟩ := Option.map_eq_some_iff.mp h
  exact ⟨s', (reachable_of_run hs').mono fun _ _ _ h => of_decide_eq_true h, hend⟩

theorem ends_of_run_any (h : (run prog (fun _ _ _ => true) ms s).map f = some b) :
    ∃ s', Reachable prog anyStep s s' ∧ f s' = b := by
  obtain ⟨s', hs', hend⟩ := Option.map_eq_some_iff.mp h
  exact ⟨s', reachable_of_run_any hs', hend⟩

/-- The system under other tags. -/
def Sys.retag {υ : Type} (f : τ → υ) (s : Sys τ σ κ α) : Sys υ σ κ α where
  db := s.db
  calls := s.calls.map fun e => (e.1, e.2.retag f)

/-- A run under other tags is a run. -/
theorem Reachable.retag (f : τ → υ) (hr : Reachable prog anyStep s s') :
    Reachable (fun c => (prog c).retag f) anyStep (s.retag f) (s'.retag f) := by
  induction hr with
  | refl => exact .refl
  | @tail t t' _ hstep ih =>
    apply ih.tail
    cases hstep with
    | spawn _ c =>
      have hspawn : (t.spawn prog c).retag f = (t.retag f).spawn (fun c => (prog c).retag f) c := by
        simp [Sys.spawn, Sys.retag]
      rw [hspawn]
      exact .spawn _ c
    | exec _ i c tag act next hcall _ =>
      have hexec : (t.exec i c act next).retag f = (t.retag f).exec i c act fun b => (next b).retag f := by
        simp [Sys.exec, Sys.retag, List.map_set]
      rw [hexec]
      exact .exec _ i c (f tag) act _ (by simp [Sys.retag, hcall, Prog.retag]) trivial

/-- Every run is a run under other tags. -/
theorem Reachable.of_retag {prog : κ → Prog τ σ α} {s : Sys τ σ κ α}
    (hr : Reachable (fun c => (prog c).retag f) anyStep (s.retag f) t) :
    ∃ s', Reachable prog anyStep s s' ∧ t = s'.retag f := by
  induction hr with
  | refl => exact ⟨s, .refl, rfl⟩
  | tail _ hstep ih =>
    obtain ⟨u, hreach, rfl⟩ := ih
    cases hstep with
    | spawn _ c =>
      refine ⟨u.spawn prog c, hreach.tail (.spawn u c), ?_⟩
      simp [Sys.spawn, Sys.retag]
    | exec _ i c tag act next hcall _ =>
      simp only [Sys.retag, List.getElem?_map, Option.map_eq_some_iff, Prod.mk.injEq] at hcall
      obtain ⟨⟨c', p⟩, hcall, rfl, hp⟩ := hcall
      cases p with
      | pure => cases hp
      | atomic tag' act' next' =>
        cases hp
        refine ⟨u.exec i c' act next', hreach.tail (.exec u i c' tag' act next' hcall trivial), ?_⟩
        simp [Sys.exec, Sys.retag, List.map_set]

theorem Reachable.exists_step {cond : Sys τ σ κ α → κ → τ → Prop}
    {P : Sys τ σ κ α → Prop} (hr : Reachable prog cond s s') (h : P s) (h' : ¬ P s') :
    ∃ t t', Reachable prog cond s t ∧ Step prog cond t t' ∧ Reachable prog cond t' s' ∧ P t ∧ ¬ P t' := by
  induction hr using Relation.ReflTransGen.head_induction_on with
  | refl => exact absurd h h'
  | head hstep hrest ih =>
    rename_i a b
    by_cases hb : P b
    · obtain ⟨t, t', hreach, hrest'⟩ := ih hb
      exact ⟨t, t', .head hstep hreach, hrest'⟩
    · exact ⟨a, b, .refl, hstep, hrest, h, hb⟩

theorem Step.call {cond : Sys τ σ κ α → κ → τ → Prop}
    (hstep : Step prog cond s s') (hcall : s.calls[i]? = some (c, p)) :
    ∃ p', s'.calls[i]? = some (c, p') ∧ (p.result?.isSome = true → p' = p) := by
  have hlength : i < s.calls.length := (List.getElem?_eq_some_iff.mp hcall).1
  cases hstep with
  | spawn _ => exact ⟨p, by simp [Sys.spawn, List.getElem?_append_left hlength, hcall], fun _ => rfl⟩
  | exec _ j c' tag act next hcall' _ =>
    by_cases hij : j = i
    · subst hij
      rw [hcall] at hcall'
      cases hcall'
      refine ⟨next (act s.db).1, ?_, fun hfinished => by cases hfinished⟩
      simp [Sys.exec, hlength]
    · exact ⟨p, by simp [Sys.exec, hij, hcall], fun _ => rfl⟩

theorem Reachable.call {cond : Sys τ σ κ α → κ → τ → Prop}
    (hr : Reachable prog cond s s') (hcall : s.calls[i]? = some (c, p)) :
    ∃ p', s'.calls[i]? = some (c, p') ∧ (p.result?.isSome = true → p' = p) := by
  induction hr with
  | refl => exact ⟨p, hcall, fun _ => rfl⟩
  | tail _ hstep ih =>
    obtain ⟨p', hcall', hsame⟩ := ih
    obtain ⟨p'', hcall'', hsame'⟩ := hstep.call hcall'
    refine ⟨p'', hcall'', fun hfinished => ?_⟩
    have hp := hsame hfinished
    rw [hsame' (hp ▸ hfinished), hp]

end Steps

/-!
### What every statement of a program does

`Follows I N` says that wherever the program gets to, its next statement, executed in a state that satisfies
`I`, relates the state before, what is left of the program, and the state after as `N` says. `Within I W` leaves
the program out of it. Both speak about one statement at a time and assume nothing about what the others do in
between, except that they keep `I`.
-/

section Effects

variable {τ σ κ α γ : Type}

variable {tag : τ}

namespace Prog

/-- Every statement the program can come to satisfies `N` in every state that satisfies `I`. -/
def Follows (I : σ → Prop) (N : τ → σ → Prog τ σ α → σ → Prop) : Prog τ σ α → Prop
  | .pure _ => True
  | .atomic tag act next =>
    ∀ s, I s → N tag s (next (act s).1) (act s).2 ∧ (next (act s).1).Follows I N

/-- Every statement the program can come to changes a state that satisfies `I` as `W` says. -/
abbrev Within (I : σ → Prop) (W : τ → σ → σ → Prop) (p : Prog τ σ α) : Prop :=
  p.Follows I fun tag s _ s' => W tag s s'

@[simp] theorem follows_pure (a : α) : (Prog.pure a).Follows I N :=
  trivial

theorem Follows.mono (hN : ∀ tag s q s', I s → N tag s q s' → N' tag s q s') {p : Prog τ σ α}
    (h : p.Follows I N) : p.Follows I N' := by
  induction p with
  | pure => trivial
  | atomic tag act next ih =>
    intro s hs
    obtain ⟨hn, hnext⟩ := h s hs
    exact ⟨hN _ _ _ _ hs hn, ih _ hnext⟩

theorem Follows.and {p : Prog τ σ α} (h : p.Follows I N)
    (h' : p.Follows I N') : p.Follows I fun tag s q s' => N tag s q s' ∧ N' tag s q s' := by
  induction p with
  | pure => trivial
  | atomic tag act next ih =>
    intro s hs
    obtain ⟨hn, hnext⟩ := h s hs
    obtain ⟨hn', hnext'⟩ := h' s hs
    exact ⟨⟨hn, hn'⟩, ih _ hnext hnext'⟩

theorem Follows.weaken (hJ : ∀ s, J s → I s) {p : Prog τ σ α} (h : p.Follows I N) : p.Follows J N := by
  induction p with
  | pure => trivial
  | atomic tag act next ih =>
    intro s hs
    obtain ⟨hn, hnext⟩ := h s (hJ s hs)
    exact ⟨hn, ih _ hnext⟩

theorem Within.bind {f : α → Prog τ σ γ} {p : Prog τ σ α}
    (h : p.Within I W) (hf : ∀ a, (f a).Within I W) : (p.bind f).Within I W := by
  induction p with
  | pure a => exact hf a
  | atomic tag act next ih =>
    intro s hs
    obtain ⟨hw, hnext⟩ := h s hs
    exact ⟨hw, ih _ hnext⟩

theorem follows_of (h : ∀ tag s q s', N tag s q s') (p : Prog τ σ α) : p.Follows I N := by
  induction p with
  | pure => trivial
  | atomic tag act next ih => exact fun s _ => ⟨h _ _ _ _, ih _⟩

theorem Within.stmt {act : σ → α × σ} (h : ∀ s, I s → W tag s (act s).2) : (Prog.stmt tag act).Within I W :=
  fun s hs => ⟨h s hs, trivial⟩

theorem Within.read {f : σ → α} (h : ∀ s, I s → W tag s s) : (Prog.read tag f).Within I W :=
  Within.stmt h

theorem Within.alone {K : σ → Prop}
    (hkeep : ∀ tag s s', I s → K s → W tag s s' → I s' ∧ K s') {p : Prog τ σ α} (h : p.Within I W)
    (hI : I s) (hK : K s) : I (p.alone s).2 ∧ K (p.alone s).2 := by
  induction p generalizing s with
  | pure => exact ⟨hI, hK⟩
  | atomic tag act next ih =>
    obtain ⟨hw, hnext⟩ := h s hI
    obtain ⟨hI', hK'⟩ := hkeep tag s _ hI hK hw
    exact ih _ hnext hI' hK'

theorem follows_wrapped (f : α → γ) (p : Prog τ σ α) :
    (p.bind (.pure ∘ f)).Follows I fun _ _ q _ => ∀ c, q.result? = some c → ∃ a, c = f a := by
  induction p with
  | pure => trivial
  | atomic tag act next ih =>
    intro s _
    refine ⟨fun c hc => ?_, ih _⟩
    cases hnext : next (act s).1 with
    | pure a =>
      simp only [hnext, bind_pure_left, Function.comp_apply, result?_pure, Option.some.injEq] at hc
      exact ⟨a, hc.symm⟩
    | atomic => simp [hnext] at hc

theorem Within.zoom {get : σ → ρ} {set : ρ → σ → σ} {p : Prog τ ρ α} (h : p.Within J V)
    (hJ : ∀ s, I s → J (get s)) (hW : ∀ tag s r, I s → V tag (get s) r → W (f tag) s (set r s)) :
    (p.zoom get set f).Within I W := by
  induction p with
  | pure => trivial
  | atomic tag act next ih =>
    intro s hs
    obtain ⟨hv, hnext⟩ := h (get s) (hJ s hs)
    exact ⟨hW tag s _ hs hv, ih _ hnext⟩

end Prog

def Sys.Follows (I : σ → Prop) (N : κ → τ → σ → Prog τ σ α → σ → Prop) (s : Sys τ σ κ α) : Prop :=
  ∀ e ∈ s.calls, e.2.Follows I (N e.1)

variable {cond : Sys τ σ κ α → κ → τ → Prop}

theorem Sys.follows_idle (db : σ) : (Sys.idle db : Sys τ σ κ α).Follows I N := by
  simp [Sys.Follows, Sys.idle]

theorem Sys.Follows.exec_spec {s : Sys τ σ κ α} (hs : s.Follows I N) (hI : I s.db) {β : Type}
    {act : σ → β × σ} {next : β → Prog τ σ α} (hcall : s.calls[i]? = some (c, .atomic tag act next)) :
    N c tag s.db (next (act s.db).1) (act s.db).2 ∧ (next (act s.db).1).Follows I (N c) :=
  hs _ (List.mem_of_getElem? hcall) s.db hI

theorem Step.follows (hprog : ∀ c, (prog c).Follows I (N c)) {s s' : Sys τ σ κ α}
    (hs : s.Follows I N) (hI : I s.db) (hstep : Step prog cond s s') : s'.Follows I N := by
  cases hstep with
  | spawn _ c =>
    intro e he
    rcases List.mem_append.mp he with he | he
    · exact hs e he
    · rw [List.mem_singleton.mp he]
      exact hprog c
  | exec _ i c tag act next hcall =>
    intro e he
    rcases List.mem_or_eq_of_mem_set he with he | rfl
    · exact hs e he
    · exact (hs.exec_spec hI hcall).2

variable {db : σ}

theorem Reachable.keeps (hprog : ∀ c, (prog c).Follows I (N c))
    (hkeep : ∀ (s : Sys τ σ κ α) c tag q db', I s.db → cond s c tag → N c tag s.db q db' → I db')
    {s : Sys τ σ κ α} (h₀ : I db) (hr : Reachable prog cond (.idle db) s) : I s.db ∧ s.Follows I N := by
  induction hr with
  | refl => exact ⟨h₀, Sys.follows_idle db⟩
  | tail hr hstep ih =>
    obtain ⟨hI, hfollows⟩ := ih
    refine ⟨?_, hstep.follows hprog hfollows hI⟩
    cases hstep with
    | spawn => exact hI
    | exec _ i c tag act next hcall hcond =>
      exact hkeep _ c tag _ _ hI hcond (hfollows.exec_spec hI hcall).1

/-- What is left of every call follows its specification when the runs keep the invariant for another reason. -/
theorem Reachable.follows (hprog : ∀ c, (prog c).Follows I (N c))
    (hinv : ∀ s : Sys τ σ κ α, Reachable prog cond (.idle db) s → I s.db)
    (hr : Reachable prog cond (.idle db) s) : s.Follows I N := by
  induction hr with
  | refl => exact Sys.follows_idle db
  | tail hr hstep ih => exact hstep.follows hprog ih (hinv _ hr)

theorem Reachable.invariant {W : κ → τ → σ → σ → Prop} (hprog : ∀ c, (prog c).Within I (W c))
    (hkeep : ∀ (s : Sys τ σ κ α) c tag db', I s.db → cond s c tag → W c tag s.db db' → I db')
    (h₀ : I db) (hr : Reachable prog cond (.idle db) s) : I s.db :=
  (Reachable.keeps hprog (fun s c tag _ db' => hkeep s c tag db') h₀ hr).1

theorem Step.effect {W : κ → τ → σ → σ → Prop} {s s' : Sys τ σ κ α}
    (hs : s.Follows I fun c tag a _ b => W c tag a b) (hI : I s.db) (hstep : Step prog cond s s') :
    s'.db = s.db ∨ ∃ c tag, cond s c tag ∧ W c tag s.db s'.db := by
  cases hstep with
  | spawn => exact .inl rfl
  | exec _ i c tag act next hcall hcond =>
    exact .inr ⟨c, tag, hcond, (hs.exec_spec hI hcall).1⟩

end Effects

end Interleaving
