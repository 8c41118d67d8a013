/-
Purpose: What a program in progress owns. Each call remembers a value of its own, which says what holds of the shared state
  as long as the others leave it alone; two calls own things that are apart.
-/
import WhatsappCrm.Lib.Interleaving

namespace Interleaving

variable {τ σ κ α β μ : Type}

/-- What the programs of a system may own, and what a statement is required to do. -/
structure Ownership (τ σ μ : Type) where
  inv : σ → Prop
  /-- What holds of the shared state while a program owns `m`. -/
  holds : μ → σ → Prop
  /-- Two programs may own the one and the other at once. -/
  apart : μ → μ → Prop
  cond : τ → σ → Prop
  effect : τ → σ → σ → Prop

/-- A program that owns nothing yet is apart from every other. -/
structure Ownership.Sound (O : Ownership τ σ μ) (start : μ) : Prop where
  symm : ∀ {m k}, O.apart m k → O.apart k m
  start_holds : ∀ {s}, O.inv s → O.holds start s
  start_apart : ∀ k, O.apart start k

/-- A statement takes its program from owning `m` to owning `m'`, and whatever is apart from `m` stays owned. -/
structure Ownership.Yields (O : Ownership τ σ μ) (m m' : μ) (s s' : σ) : Prop where
  inv : O.inv s'
  holds : O.holds m' s'
  others : ∀ k, O.apart m k → O.holds k s → O.apart m' k ∧ O.holds k s'

theorem Ownership.Yields.same {O : Ownership τ σ μ} {m : μ} (hinv : O.inv s) (hm' : O.holds m' s)
    (hapart : ∀ k, O.apart m k → O.apart m' k) : O.Yields m m' s s where
  inv := hinv
  holds := hm'
  others k hk hholds := ⟨hapart k hk, hholds⟩

def Ownership.retag {υ : Type} (P : Ownership υ σ μ) (f : τ → υ) : Ownership τ σ μ where
  inv := P.inv
  holds := P.holds
  apart := P.apart
  cond tag := P.cond (f tag)
  effect tag := P.effect (f tag)

theorem Ownership.Yields.retag {P : Ownership υ σ μ} {m : μ} (h : P.Yields m m' s s')
    (f : τ → υ) : (P.retag f).Yields m m' s s' :=
  ⟨h.inv, h.holds, h.others⟩

namespace Prog

/-- From owning `m` on, every statement does what is required and yields what the program owns after it. -/
def Owns (O : Ownership τ σ μ) (Q : μ → α → Prop) : μ → Prog τ σ α → Prop
  | m, .pure a => Q m a
  | m, .atomic tag act next => ∀ s, O.inv s → O.holds m s → O.cond tag s →
      O.effect tag s (act s).2 ∧ ∃ m', O.Yields m m' s (act s).2 ∧ Owns O Q m' (next (act s).1)

variable {O : Ownership τ σ μ} {p : Prog τ σ α} {m : μ}

@[simp] theorem owns_pure : Owns O Q m (.pure a) ↔ Q m a := Iff.rfl

theorem Owns.mono (h : Owns O Q m p) (hQ : ∀ m a, Q m a → Q' m a) : Owns O Q' m p := by
  induction p generalizing m with
  | pure a => exact hQ m a h
  | atomic tag act next ih =>
    intro s hinv hholds hcond
    obtain ⟨heffect, m', hyields, hnext⟩ := h s hinv hholds hcond
    exact ⟨heffect, m', hyields, ih _ hnext⟩

theorem Owns.bind (h : Owns O Q m p) (hf : ∀ m a, Q m a → Owns O R m (f a)) : Owns O R m (p.bind f) := by
  induction p generalizing m with
  | pure a => exact hf m a h
  | atomic tag act next ih =>
    intro s hinv hholds hcond
    obtain ⟨heffect, m', hyields, hnext⟩ := h s hinv hholds hcond
    exact ⟨heffect, m', hyields, ih _ hnext⟩

theorem Owns.read (heffect : ∀ s, O.effect tag s s)
    (h : ∀ s, O.inv s → O.holds m s → Owns O Q m (next (f s))) : Owns O Q m ((Prog.read tag f).bind next) :=
  fun s hinv hholds _ => ⟨heffect s, m, .same hinv hholds fun _ hk => hk, h s hinv hholds⟩

theorem Within.owns (h : p.Within (fun _ => True) W)
    (hW : ∀ tag s s', O.inv s → O.holds m s → W tag s s' → O.effect tag s s' ∧ O.Yields m m s s') :
    Owns O (fun k _ => k = m) m p := by
  induction p with
  | pure => rfl
  | atomic tag act next ih =>
    intro s hinv hholds _
    obtain ⟨hw, hnext⟩ := h s trivial
    obtain ⟨heffect, hyields⟩ := hW tag s _ hinv hholds hw
    exact ⟨heffect, m, hyields, ih _ hnext⟩

theorem Owns.retag {P : Ownership υ σ μ} (h : Owns (P.retag f) Q m p) : (p.retag f).Owns P Q m := by
  induction p generalizing m with
  | pure => exact h
  | atomic tag act next ih =>
    intro s hinv hholds hcond
    obtain ⟨heffect, m', hyields, hnext⟩ := h s hinv hholds hcond
    exact ⟨heffect, m', ⟨hyields.inv, hyields.holds, hyields.others⟩, ih _ hnext⟩

end Prog

structure Sys.Owned (O : Ownership τ σ μ) (Q : κ → μ → α → Prop) (s : Sys τ σ κ α) : Prop where
  inv : O.inv s.db
  owners : ∃ own : Nat → μ,
    (∀ i e, s.calls[i]? = some e → O.holds (own i) s.db ∧ e.2.Owns O (Q e.1) (own i)) ∧
      ∀ i j, i < s.calls.length → j < s.calls.length → i ≠ j → O.apart (own i) (own j)

section Systems

variable {O : Ownership τ σ μ} {start : μ} {cond : Sys τ σ κ α → κ → τ → Prop}

theorem Sys.owned_idle (start : μ) {db : σ} (hinv : O.inv db) : (Sys.idle db : Sys τ σ κ α).Owned O Q where
  inv := hinv
  owners := ⟨fun _ => start, by simp [Sys.idle], by simp [Sys.idle]⟩

/-- What a step does to the shared state: nothing, or what is required of some statement. -/
def Ownership.Moves (O : Ownership τ σ μ) (s s' : σ) : Prop := s' = s ∨ ∃ tag, O.cond tag s ∧ O.effect tag s s'

theorem apart_update (hO : O.Sound start) {own : Nat → μ}
    (hapart : ∀ j k, j < n → k < n → j ≠ k → O.apart (own j) (own k))
    (hothers : ∀ j, j < n → j ≠ i → O.apart m' (own j)) :
    ∀ j k, j < n → k < n → j ≠ k → O.apart (Function.update own i m' j) (Function.update own i m' k) := by
  intro j k hj hk hjk
  by_cases hji : j = i
  · subst hji
    rw [Function.update_self, Function.update_of_ne (Ne.symm hjk)]
    exact hothers k hk (Ne.symm hjk)
  · rw [Function.update_of_ne hji]
    by_cases hki : k = i
    · subst hki
      rw [Function.update_self]
      exact hO.symm (hothers j hj hji)
    · rw [Function.update_of_ne hki]
      exact hapart j k hj hk hjk

theorem Step.owned (hO : O.Sound start) (hprog : ∀ c, (prog c).Owns O (Q c) start)
    (hcond : ∀ (s : Sys τ σ κ α) c tag, cond s c tag → O.cond tag s.db) {s : Sys τ σ κ α} (hs : s.Owned O Q)
    (hstep : Step prog cond s s') : s'.Owned O Q ∧ O.Moves s.db s'.db := by
  obtain ⟨hinv, own, howns, hapart⟩ := hs
  cases hstep with
  | spawn _ c =>
    refine ⟨⟨hinv, Function.update own s.calls.length start, ?_, ?_⟩, .inl rfl⟩
    · intro i e he
      by_cases hi : i = s.calls.length
      · subst hi
        simp only [Sys.spawn, List.getElem?_concat_length, Option.some.injEq] at he
        subst he
        rw [Function.update_self]
        exact ⟨hO.start_holds hinv, hprog c⟩
      · rw [Function.update_of_ne hi]
        have hlt : i < s.calls.length := by
          have := (List.getElem?_eq_some_iff.mp he).1
          simp only [Sys.spawn, List.length_append, List.length_singleton] at this
          omega
        rw [Sys.spawn, List.getElem?_append_left hlt] at he
        exact howns i e he
    · intro j k hj hk hjk
      simp only [Sys.spawn, List.length_append, List.length_singleton] at hj hk
      by_cases hjn : j = s.calls.length
      · subst hjn
        rw [Function.update_self]
        exact hO.start_apart _
      · by_cases hkn : k = s.calls.length
        · subst hkn
          rw [Function.update_self]
          exact hO.symm (hO.start_apart _)
        · rw [Function.update_of_ne hjn, Function.update_of_ne hkn]
          exact hapart j k (by omega) (by omega) hjk
  | exec _ i c tag act next hcall hallowed =>
    have htag := hcond s c tag hallowed
    obtain ⟨hholds, hprogram⟩ := howns i _ hcall
    obtain ⟨heffect, m', hyields, hnext⟩ := hprogram s.db hinv hholds htag
    have hi : i < s.calls.length := (List.getElem?_eq_some_iff.mp hcall).1
    have hothers : ∀ j, j < s.calls.length → j ≠ i → O.apart m' (own j) ∧ O.holds (own j) (act s.db).2 := by
      intro j hj hji
      obtain ⟨hholdsj, _⟩ := howns j _ (List.getElem?_eq_getElem hj)
      exact hyields.others (own j) (hapart i j hi hj (Ne.symm hji)) hholdsj
    refine ⟨⟨hyields.inv, Function.update own i m', ?_, ?_⟩, .inr ⟨tag, htag, heffect⟩⟩
    · intro j e he
      by_cases hji : j = i
      · subst hji
        simp only [Sys.exec, List.getElem?_set_self hi, Option.some.injEq] at he
        subst he
        rw [Function.update_self]
        exact ⟨hyields.holds, hnext⟩
      · simp only [Sys.exec, List.getElem?_set_ne (Ne.symm hji)] at he
        rw [Function.update_of_ne hji]
        have hj := (List.getElem?_eq_some_iff.mp he).1
        exact ⟨(hothers j hj hji).2, (howns j e he).2⟩
    · simp only [Sys.exec, List.length_set]
      exact apart_update hO hapart fun j hj hji => (hothers j hj hji).1

/-- The ownership rule: every run keeps the invariant, and every call what it owns. -/
theorem Reachable.owned (hO : O.Sound start) (hprog : ∀ c, (prog c).Owns O (Q c) start)
    (hcond : ∀ (s : Sys τ σ κ α) c tag, cond s c tag → O.cond tag s.db) {db : σ} (hinv : O.inv db)
    (hr : Reachable prog cond (.idle db) s) : s.Owned O Q := by
  induction hr with
  | refl => exact Sys.owned_idle start hinv
  | tail _ hstep ih => exact (hstep.owned hO hprog hcond ih).1

theorem Sys.Owned.finished {s : Sys τ σ κ α} (hs : s.Owned O Q) (h : s.Finished c a) : ∃ m, O.holds m s.db ∧ Q c m a := by
  obtain ⟨own, howns, _⟩ := hs.owners
  obtain ⟨i, hi⟩ := List.mem_iff_getElem?.mp h
  obtain ⟨hholds, hanswer⟩ := howns i _ hi
  exact ⟨own i, hholds, hanswer⟩

theorem Sys.Owned.exec_spec {s : Sys τ σ κ α} (hs : s.Owned O Q) {γ : Type} {i : Nat}
    {act : σ → γ × σ} {next : γ → Prog τ σ α} (hcall : s.calls[i]? = some (c, .atomic tag act next))
    (hcond : O.cond tag s.db) : O.effect tag s.db (act s.db).2 := by
  obtain ⟨own, howns, _⟩ := hs.owners
  obtain ⟨hholds, hprogram⟩ := howns i _ hcall
  exact (hprogram s.db hs.inv hholds hcond).1

end Systems

end Interleaving
