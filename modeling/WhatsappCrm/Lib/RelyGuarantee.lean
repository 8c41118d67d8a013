/-
Purpose: What a statement does when it depends on what the program read before.
-/
import WhatsappCrm.Lib.Interleaving

namespace Interleaving

variable {τ σ κ α β : Type}

/-- What programs count on: an invariant, a preorder, a condition on each statement, and what it is then to do. -/
structure Rely (τ σ : Type) where
  inv : σ → Prop
  later : σ → σ → Prop
  cond : τ → σ → Prop
  effect : τ → σ → σ → Prop

/-- The preorder is one, and what a statement does keeps the invariant and moves along it. -/
structure Rely.Sound (L : Rely τ σ) : Prop where
  refl : ∀ s, L.later s s
  trans : ∀ {s₁ s₂ s₃}, L.later s₁ s₂ → L.later s₂ s₃ → L.later s₁ s₃
  keeps : ∀ {tag s s'}, L.inv s → L.cond tag s → L.effect tag s s' → L.inv s' ∧ L.later s s'

/-- The same for fewer runs: those whose statements meet a further condition. -/
def Rely.under (L : Rely τ σ) (cond : τ → σ → Prop) : Rely τ σ :=
  { L with cond := fun tag s => L.cond tag s ∧ cond tag s }

theorem Rely.Sound.under {L : Rely τ σ} (hL : L.Sound) (cond : τ → σ → Prop) : (L.under cond).Sound where
  refl := hL.refl
  trans := hL.trans
  keeps hinv hcond heffect := hL.keeps hinv hcond.1 heffect

namespace Prog

/-- From the remembered state `s₀` on, every statement of the program does what is required of it. -/
def Guards (L : Rely τ σ) : σ → Prog τ σ α → Prop
  | _, .pure _ => True
  | s₀, .atomic tag act next => ∀ s, L.later s₀ s → L.inv s → L.cond tag s →
      L.effect tag s (act s).2 ∧ Guards L (act s).2 (next (act s).1)

variable {L : Rely τ σ}

@[simp] theorem guards_pure (s₀ : σ) (a : α) : Guards L s₀ (.pure a) := trivial

theorem Guards.later (hL : L.Sound) {s₀ : σ} {p : Prog τ σ α} (h : Guards L s₀ p)
    (hlater : L.later s₀ s₁) : Guards L s₁ p := by
  cases p with
  | pure => trivial
  | atomic => exact fun s hs => h s (hL.trans hlater hs)

theorem Guards.under {s₀ : σ} {p : Prog τ σ α} (h : Guards L s₀ p) (cond : τ → σ → Prop) :
    Guards (L.under cond) s₀ p := by
  induction p generalizing s₀ with
  | pure => trivial
  | atomic tag act next ih =>
    intro s hs hinv hcond
    obtain ⟨heffect, hnext⟩ := h s hs hinv hcond.1
    exact ⟨heffect, ih _ hnext⟩

theorem Follows.guards {p : Prog τ σ α} (h : p.Follows L.inv N)
    (hN : ∀ tag s q s', L.inv s → L.cond tag s → N tag s q s' → L.effect tag s s') (s₀ : σ) : Guards L s₀ p := by
  induction p generalizing s₀ with
  | pure => trivial
  | atomic tag act next ih =>
    intro s _ hinv hcond
    obtain ⟨hn, hnext⟩ := h s hinv
    exact ⟨hN _ _ _ _ hinv hcond hn, ih _ hnext _⟩

theorem Follows.guards_while {M : σ → Prop} {p : Prog τ σ α} (hL : L.Sound)
    (hM : ∀ s s', L.later s s' → M s → M s') (h : p.Follows L.inv N)
    (hN : ∀ tag s q s', L.inv s → M s → L.cond tag s → N tag s q s' → L.effect tag s s') {s₀ : σ} (h₀ : M s₀) :
    Guards L s₀ p := by
  induction p generalizing s₀ with
  | pure => trivial
  | atomic tag act next ih =>
    intro s hs hinv hcond
    obtain ⟨hn, hnext⟩ := h s hinv
    have hMs := hM s₀ s hs h₀
    have heffect := hN _ _ _ _ hinv hMs hcond hn
    exact ⟨heffect, ih _ hnext (hM s _ (hL.keeps hinv hcond heffect).2 hMs)⟩

theorem Guards.zoom {M : Rely υ ρ} {get : σ → ρ} {set : ρ → σ → σ} {p : Prog υ ρ α}
    {s₀ : σ} (hget : ∀ r s, get (set r s) = r) (hinv : ∀ s, L.inv s → M.inv (get s))
    (hlater : ∀ s s', L.later s s' → M.later (get s) (get s')) (hcond : ∀ tag s, L.cond (f tag) s → M.cond tag (get s))
    (heffect : ∀ tag s r, L.inv s → M.effect tag (get s) r → L.effect (f tag) s (set r s))
    (hs₀ : get s₀ = r₀) (h : Guards M r₀ p) : Guards L s₀ (p.zoom get set f) := by
  induction p generalizing r₀ s₀ with
  | pure => trivial
  | atomic tag act next ih =>
    intro s hs hs_inv hs_cond
    obtain ⟨hr, hnext⟩ := h (get s) (hs₀ ▸ hlater s₀ s hs) (hinv s hs_inv) (hcond tag s hs_cond)
    exact ⟨heffect tag s _ hs_inv hr, ih _ (hget _ s) hnext⟩

/-- The program does what is required of it, and when it has answered `a` the state it left satisfies `Q a`. -/
def Ensures (L : Rely τ σ) (Q : α → σ → Prop) : σ → Prog τ σ α → Prop
  | s₀, .pure a => Q a s₀
  | s₀, .atomic tag act next => ∀ s, L.later s₀ s → L.inv s → L.cond tag s →
      L.effect tag s (act s).2 ∧ Ensures L Q (act s).2 (next (act s).1)

namespace Ensures

variable {Q : α → σ → Prop} {p : Prog τ σ α} {s₀ : σ}

@[simp] theorem of_pure : Ensures L Q s₀ (.pure a) ↔ Q a s₀ := Iff.rfl

theorem mono (h : Ensures L Q s₀ p) (hQR : ∀ a s, Q a s → R a s) : Ensures L R s₀ p := by
  induction p generalizing s₀ with
  | pure a => exact hQR a s₀ h
  | atomic tag act next ih =>
    intro s hs hinv hcond
    obtain ⟨heffect, hnext⟩ := h s hs hinv hcond
    exact ⟨heffect, ih _ hnext⟩

theorem after (hL : L.Sound) (h : Ensures L Q s₀ p) : Ensures L (fun a s => L.later s₀ s ∧ Q a s) s₀ p := by
  induction p generalizing s₀ with
  | pure => exact ⟨hL.refl s₀, h⟩
  | atomic tag act next ih =>
    intro s hs hinv hcond
    obtain ⟨heffect, hnext⟩ := h s hs hinv hcond
    have hstep := (hL.keeps hinv hcond heffect).2
    refine ⟨heffect, (ih _ hnext).mono fun a s' hs' => ?_⟩
    exact ⟨hL.trans hs (hL.trans hstep hs'.1), hs'.2⟩

theorem guards_iff : Guards L s₀ p ↔ Ensures L (fun _ _ => True) s₀ p := by
  induction p generalizing s₀ with
  | pure => exact Iff.rfl
  | atomic tag act next ih =>
    exact forall₄_congr fun _ _ _ _ => and_congr_right fun _ => ih _

theorem of_guards (h : Guards L s₀ p) (hQ : ∀ a s, Q a s) : Ensures L Q s₀ p :=
  (guards_iff.mp h).mono fun a s _ => hQ a s

theorem guards (h : Ensures L Q s₀ p) : Guards L s₀ p := guards_iff.mpr (h.mono fun _ _ _ => trivial)

theorem later (hL : L.Sound) (hQ : ∀ a s s', L.later s s' → Q a s → Q a s') (h : Ensures L Q s₀ p)
    (hlater : L.later s₀ s₁) : Ensures L Q s₁ p := by
  cases p with
  | pure a => exact hQ a s₀ s₁ hlater h
  | atomic => exact fun s hs => h s (hL.trans hlater hs)

theorem bind (hL : L.Sound) {R : β → σ → Prop} {f : α → Prog τ σ β} (h : Ensures L Q s₀ p)
    (hf : ∀ a s, L.later s₀ s → Q a s → Ensures L R s (f a)) : Ensures L R s₀ (p.bind f) := by
  induction p generalizing s₀ with
  | pure a => exact hf a s₀ (hL.refl s₀) h
  | atomic tag act next ih =>
    intro s hs hinv hcond
    obtain ⟨heffect, hnext⟩ := h s hs hinv hcond
    refine ⟨heffect, ih _ hnext fun a s' hs' => ?_⟩
    have hstep := (hL.keeps hinv hcond heffect).2
    exact hf a s' (hL.trans hs (hL.trans hstep hs'))

theorem stmt (h : ∀ s, L.later s₀ s → L.inv s → L.cond tag s → L.effect tag s (act s).2 ∧ Q (act s).1 (act s).2) :
    Ensures L Q s₀ (.stmt tag act) :=
  fun s hs hinv hcond => h s hs hinv hcond

end Ensures

theorem Guards.bind (hL : L.Sound) {p : Prog τ σ α} {s₀ : σ} (h : Guards L s₀ p)
    (hf : ∀ a s, L.later s₀ s → Guards L s (f a)) : Guards L s₀ (p.bind f) :=
  ((Ensures.guards_iff.mp h).bind hL fun a s hs _ => Ensures.guards_iff.mp (hf a s hs)).guards

end Prog

section Systems

variable {L : Rely τ σ} {cond : Sys τ σ κ α → κ → τ → Prop}

/-- The invariant holds, and what is left of every call is sound from the present state on. -/
structure Sys.Guarded (L : Rely τ σ) (s : Sys τ σ κ α) : Prop where
  inv : L.inv s.db
  calls : ∀ e ∈ s.calls, Prog.Guards L s.db e.2

/-- What a step does to the shared state: nothing, or what is required of some statement. -/
def Rely.Moves (L : Rely τ σ) (s s' : σ) : Prop :=
  s' = s ∨ ∃ tag, L.cond tag s ∧ L.effect tag s s'

theorem Step.guarded (hL : L.Sound) (hprog : ∀ c db, Prog.Guards L db (prog c))
    (hcond : ∀ (s : Sys τ σ κ α) c tag, cond s c tag → L.cond tag s.db) {s : Sys τ σ κ α}
    (hs : s.Guarded L) (hstep : Step prog cond s s') : s'.Guarded L ∧ L.Moves s.db s'.db := by
  cases hstep with
  | spawn _ c =>
    refine ⟨⟨hs.inv, ?_⟩, .inl rfl⟩
    intro e he
    rcases List.mem_append.mp he with he | he
    · exact hs.calls e he
    · rw [List.mem_singleton.mp he]
      exact hprog c _
  | exec _ i c tag act next hcall hallowed =>
    have htag := hcond s c tag hallowed
    have hguards : Prog.Guards L s.db (.atomic tag act next) :=
      hs.calls _ (List.mem_of_getElem? hcall)
    obtain ⟨heffect, hnext⟩ := hguards s.db (hL.refl _) hs.inv htag
    obtain ⟨hinv, hlater⟩ := hL.keeps hs.inv htag heffect
    refine ⟨⟨hinv, ?_⟩, .inr ⟨tag, htag, heffect⟩⟩
    intro e he
    rcases List.mem_or_eq_of_mem_set he with he | rfl
    · exact (hs.calls e he).later hL hlater
    · exact hnext

/-- The rely–guarantee rule: every run keeps the invariant, and every call goes on as it should. -/
theorem Reachable.guards (hL : L.Sound) (hprog : ∀ c db, Prog.Guards L db (prog c))
    (hcond : ∀ (s : Sys τ σ κ α) c tag, cond s c tag → L.cond tag s.db) {s₀ : Sys τ σ κ α}
    (hs₀ : s₀.Guarded L) (hr : Reachable prog cond s₀ s) : s.Guarded L := by
  induction hr with
  | refl => exact hs₀
  | tail hr hstep ih => exact (hstep.guarded hL hprog hcond ih).1

/-- What every effect keeps, every run keeps. -/
theorem Reachable.effect (hL : L.Sound) (hprog : ∀ c db, Prog.Guards L db (prog c))
    (hcond : ∀ (s : Sys τ σ κ α) c tag, cond s c tag → L.cond tag s.db) {K : σ → Prop}
    (hK : ∀ tag s s', L.inv s → L.cond tag s → L.effect tag s s' → K s → K s') {s₀ : Sys τ σ κ α}
    (hs₀ : s₀.Guarded L) (h₀ : K s₀.db) (hr : Reachable prog cond s₀ s) : K s.db := by
  induction hr with
  | refl => exact h₀
  | tail hr hstep ih =>
    have hs := Reachable.guards hL hprog hcond hs₀ hr
    rcases (hstep.guarded hL hprog hcond hs).2 with heq | ⟨tag, htag, heffect⟩
    · rwa [heq]
    · exact hK tag _ _ hs.inv htag heffect ih

theorem Reachable.later (hL : L.Sound) (hprog : ∀ c db, Prog.Guards L db (prog c))
    (hcond : ∀ (s : Sys τ σ κ α) c tag, cond s c tag → L.cond tag s.db) {s₀ : Sys τ σ κ α}
    (hs₀ : s₀.Guarded L) (hr : Reachable prog cond s₀ s) : L.later s₀.db s.db :=
  Reachable.effect hL hprog hcond
    (fun _ _ _ hinv htag heffect h => hL.trans h (hL.keeps hinv htag heffect).2) hs₀ (hL.refl _) hr

structure Sys.Ensured (L : Rely τ σ) (Q : κ → α → σ → Prop) (s : Sys τ σ κ α) : Prop where
  inv : L.inv s.db
  calls : ∀ e ∈ s.calls, Prog.Ensures L (Q e.1) s.db e.2

/-- The rule for answers: what a call leaves when it answers still holds in every later state of the run. -/
theorem Reachable.ensures {Q : κ → α → σ → Prop} (hL : L.Sound)
    (hprog : ∀ c db, Prog.Ensures L (Q c) db (prog c)) (hQ : ∀ c a s s', L.later s s' → Q c a s → Q c a s')
    (hcond : ∀ (s : Sys τ σ κ α) c tag, cond s c tag → L.cond tag s.db) (hinv : L.inv db)
    (hr : Reachable prog cond (.idle db) s) : s.Ensured L Q := by
  induction hr with
  | refl => exact ⟨hinv, by simp [Sys.idle]⟩
  | tail _ hstep ih =>
    cases hstep with
    | spawn _ c =>
      refine ⟨ih.inv, fun e he => ?_⟩
      rcases List.mem_append.mp he with he | he
      · exact ih.calls e he
      · rw [List.mem_singleton.mp he]
        exact hprog c _
    | exec _ i c tag act next hcall hallowed =>
      have htag := hcond _ c tag hallowed
      obtain ⟨heffect, hnext⟩ := ih.calls _ (List.mem_of_getElem? hcall) _ (hL.refl _) ih.inv htag
      obtain ⟨hinv', hlater⟩ := hL.keeps ih.inv htag heffect
      refine ⟨hinv', fun e he => ?_⟩
      rcases List.mem_or_eq_of_mem_set he with he | rfl
      · exact (ih.calls e he).later hL (hQ e.1) hlater
      · exact hnext

theorem Reachable.ensures_since {Q : κ → α → σ → Prop} (hL : L.Sound) (hprog : ∀ c db, Prog.Guards L db (prog c))
    (hcond : ∀ (s : Sys τ σ κ α) c tag, cond s c tag → L.cond tag s.db) {s₀ : Sys τ σ κ α} (hs₀ : s₀.Guarded L)
    (hsince : ∀ c db, L.later s₀.db db → Prog.Ensures L (Q c) db (prog c))
    (hQ : ∀ c a s s', L.later s s' → Q c a s → Q c a s') (hr : Reachable prog cond s₀ s) :
    ∀ i e, s₀.calls.length ≤ i → s.calls[i]? = some e → Prog.Ensures L (Q e.1) s.db e.2 := by
  induction hr with
  | refl =>
    intro i e hi he
    rw [List.getElem?_eq_none hi] at he
    cases he
  | @tail t _ hr hstep ih =>
    have hguarded := Reachable.guards hL hprog hcond hs₀ hr
    have hlater := Reachable.later hL hprog hcond hs₀ hr
    intro i e hi he
    cases hstep with
    | spawn _ c =>
      simp only [Sys.spawn] at he
      by_cases hold : i < t.calls.length
      · rw [List.getElem?_append_left hold] at he
        exact ih i e hi he
      · rw [List.getElem?_append_right (Nat.le_of_not_lt hold), List.getElem?_singleton] at he
        cases (Option.ite_none_right_eq_some.mp he).2
        exact hsince c _ hlater
    | exec _ j c tag act next hcall hallowed =>
      have htag := hcond t c tag hallowed
      by_cases hij : j = i
      · subst hij
        have hlength : j < t.calls.length := (List.getElem?_eq_some_iff.mp hcall).1
        simp only [Sys.exec, List.getElem?_set_self hlength, Option.some.injEq] at he
        subst he
        exact (ih j _ hi hcall t.db (hL.refl _) hguarded.inv htag).2
      · simp only [Sys.exec, List.getElem?_set_ne hij] at he
        have heffect := (hguarded.calls _ (List.mem_of_getElem? hcall) t.db (hL.refl _) hguarded.inv htag).1
        exact (ih i e hi he).later hL (hQ e.1) (hL.keeps hguarded.inv htag heffect).2

theorem Sys.guarded_idle {db : σ} (hdb : L.inv db) : (Sys.idle db : Sys τ σ κ α).Guarded L :=
  ⟨hdb, by simp [Sys.idle]⟩

end Systems

end Interleaving
