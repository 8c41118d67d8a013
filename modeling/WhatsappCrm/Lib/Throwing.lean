/-
Purpose: Programs that may throw: what a statement raises ends the program unless a handler is around it. What the answer of a
  program says of what it did: the states its statements were executed in, and left, in their order.
-/
import WhatsappCrm.Lib.Credit
import WhatsappCrm.Lib.RelyGuarantee

namespace Interleaving

/-- A program over the shared state `σ` that answers an `α` or throws an `ε`. -/
abbrev Throwing (τ σ ε : Type) := ExceptT ε (Prog τ σ)

namespace Throwing

variable {τ σ ε α β : Type}

/-- One statement, which answers or raises. -/
def statement (tag : τ) (act : σ → Except ε α × σ) : Throwing τ σ ε α := ExceptT.mk (.stmt tag act)

/-- One statement that never raises. -/
def ghost (tag : τ) (act : σ → α × σ) : Throwing τ σ ε α :=
  statement tag fun s => (.ok (act s).1, (act s).2)

def rescue (p : Throwing τ σ ε α) (handler : ε → Throwing τ σ ε α) : Throwing τ σ ε α := tryCatch p handler

def rethrow {ε' : Type} (f : ε → ε') (p : Throwing τ σ ε α) : Throwing τ σ ε' α :=
  ExceptT.mk (p.run.bind fun
    | .ok a => .pure (.ok a)
    | .error e => .pure (.error (f e)))

@[simp] theorem run_statement (tag : τ) (act : σ → Except ε α × σ) : (statement tag act).run = .stmt tag act := rfl

theorem run_bind (p : Throwing τ σ ε α) (f : α → Throwing τ σ ε β) :
    (p >>= f).run = p.run.bind fun
      | .ok a => (f a).run
      | .error e => .pure (.error e) :=
  rfl

theorem run_rescue (p : Throwing τ σ ε α) (handler : ε → Throwing τ σ ε α) :
    (p.rescue handler).run = p.run.bind fun
      | .ok a => .pure (.ok a)
      | .error e => (handler e).run :=
  rfl

section Alone

variable {p : Throwing τ σ ε α} {f : α → Throwing τ σ ε β} {s : σ}

theorem alone_bind (h : p.run.alone s = (.ok a, s')) : (p >>= f).run.alone s = (f a).run.alone s' := by
  rw [run_bind, Prog.alone_bind, h]

theorem alone_bind_error (h : p.run.alone s = (.error e, s')) : (p >>= f).run.alone s = (.error e, s') := by
  rw [run_bind, Prog.alone_bind, h]
  rfl

theorem of_alone_bind (h : (p >>= f).run.alone s = (.ok b, s'')) :
    ∃ a s', p.run.alone s = (.ok a, s') ∧ (f a).run.alone s' = (.ok b, s'') := by
  cases hp : p.run.alone s with
  | mk r s' =>
    cases r with
    | ok a => exact ⟨a, s', rfl, (alone_bind hp).symm.trans h⟩
    | error =>
      rw [alone_bind_error hp] at h
      cases h

theorem alone_rescue (h : p.run.alone s = (.ok a, s')) : (p.rescue handler).run.alone s = (.ok a, s') := by
  rw [run_rescue, Prog.alone_bind, h]
  rfl

theorem alone_rescue_error (h : p.run.alone s = (.error e, s')) :
    (p.rescue handler).run.alone s = (handler e).run.alone s' := by
  rw [run_rescue, Prog.alone_bind, h]

theorem of_alone_rethrow (h : (p.rethrow g).run.alone s = (.ok a, s')) : p.run.alone s = (.ok a, s') := by
  unfold rethrow at h
  rw [ExceptT.run_mk, Prog.alone_bind] at h
  cases hp : p.run.alone s with
  | mk r =>
    rw [hp] at h
    cases r with
    | ok =>
      cases h
      rfl
    | error => cases h

end Alone

end Throwing

namespace Prog

variable {τ σ ε α β : Type}

theorem Within.throwing_bind {p : Throwing τ σ ε α} {f : α → Throwing τ σ ε β} (h : p.run.Within I W)
    (hf : ∀ a, (f a).run.Within I W) : (p >>= f).run.Within I W := by
  rw [Throwing.run_bind]
  apply h.bind
  intro r
  cases r with
  | ok a => exact hf a
  | error => trivial

theorem Within.throwing_rescue {p : Throwing τ σ ε α} (h : p.run.Within I W)
    (hhandler : ∀ e, (handler e).run.Within I W) : (p.rescue handler).run.Within I W := by
  rw [Throwing.run_rescue]
  apply h.bind
  intro r
  cases r with
  | ok => trivial
  | error e => exact hhandler e

theorem Within.throwing_rethrow {p : Throwing τ σ ε α} (h : p.run.Within I W) : (p.rethrow g).run.Within I W := by
  apply h.bind
  intro r
  cases r <;> trivial

theorem Within.statement {act : σ → Except ε α × σ} (h : ∀ s, I s → W tag s (act s).2) :
    (Throwing.statement tag act).run.Within I W :=
  Within.stmt h

theorem Within.ghost (h : ∀ s, I s → W tag s (act s).2) : (Throwing.ghost tag act : Throwing τ σ ε α).run.Within I W :=
  Within.stmt h

theorem Affords.throwing_bind {p : Throwing τ σ ε α} {f : α → Throwing τ σ ε β}
    (h : p.run.Affords I L n) (hf : ∀ a n', (f a).run.Affords I L n') : (p >>= f).run.Affords I L n := by
  rw [Throwing.run_bind]
  apply h.bind
  intro r n'
  cases r with
  | ok a => exact hf a n'
  | error => trivial

theorem Affords.statement_bind {f : α → Throwing τ σ ε β}
    (h : ∀ s, I s → ∃ n', L.Settles s (act s).2 n n' ∧ ∀ a, (act s).1 = .ok a → (f a).run.Affords I L n') :
    (Throwing.statement tag act >>= f).run.Affords I L n := by
  intro s hs
  obtain ⟨n', hsettles, hnext⟩ := h s hs
  refine ⟨n', hsettles, ?_⟩
  show (Prog.bind (.pure (act s).1) (ExceptT.bindCont f)).Affords I L n'
  cases hanswer : (act s).1 with
  | ok a => exact hnext a hanswer
  | error => trivial

theorem Affords.throwing_rescue {p : Throwing τ σ ε α}
    (h : p.run.Affords I L n) (hhandler : ∀ e n', (handler e).run.Affords I L n') :
    (p.rescue handler).run.Affords I L n := by
  rw [Throwing.run_rescue]
  apply h.bind
  intro r n'
  cases r with
  | ok => trivial
  | error e => exact hhandler e n'

theorem Within.affords_throwing_bind {p : Throwing τ σ ε α} {f : α → Throwing τ σ ε β}
    (h : p.run.Within I fun _ s s' => L.Idle s s') (hf : ∀ a, (f a).run.Affords I L n) :
    (p >>= f).run.Affords I L n := by
  rw [Throwing.run_bind]
  apply h.affords_bind
  intro r
  cases r with
  | ok a => exact hf a
  | error => trivial

end Prog

/-- Whatever it finds, the program answers only what satisfies `Q`. -/
def Prog.Answers {τ σ α : Type} (Q : α → Prop) : Prog τ σ α → Prop
  | .pure a => Q a
  | .atomic _ act next => ∀ s, (next (act s).1).Answers Q

namespace Throwing

variable {τ σ ε α β : Type}

/-- Whatever it finds, an answer of the program that is not an error satisfies `Q`. -/
def Answers (Q : α → Prop) (p : Throwing τ σ ε α) : Prop := p.run.Answers fun r => ∀ a, r = .ok a → Q a

theorem Answers.of_pure (h : Q a) : Answers Q (pure a : Throwing τ σ ε α) := by
  rintro a' ⟨⟩
  exact h

theorem Answers.statement {act : σ → Except ε α × σ} (h : ∀ s a, (act s).1 = .ok a → Q a) :
    Answers Q (Throwing.statement tag act) :=
  fun s a ha => h s a ha

theorem Answers.bind {p : Throwing τ σ ε α} {f : α → Throwing τ σ ε β} (h : Answers Q p)
    (hf : ∀ a, Q a → Answers R (f a)) : Answers R (p >>= f) := by
  have hbind : ∀ q : Prog τ σ (Except ε α), q.Answers (fun r => ∀ a, r = .ok a → Q a) →
      (q.bind fun
        | .ok a => (f a).run
        | .error e => .pure (.error e)).Answers fun r => ∀ b, r = .ok b → R b := by
    intro q
    induction q with
    | pure r =>
      intro hq
      cases r with
      | ok a => exact hf a (hq a rfl)
      | error => exact nofun
    | atomic tag act next ih => exact fun hq s => ih _ (hq s)
  exact hbind p.run h

theorem Answers.mono {p : Throwing τ σ ε α} (h : Answers Q p) (hQR : ∀ a, Q a → R a) : Answers R p := by
  have hmono : ∀ q : Prog τ σ (Except ε α), q.Answers (fun r => ∀ a, r = .ok a → Q a) →
      q.Answers fun r => ∀ a, r = .ok a → R a := by
    intro q
    induction q with
    | pure => exact fun hq a ha => hQR a (hq a ha)
    | atomic tag act next ih => exact fun hq s => ih _ (hq s)
  exact hmono p.run h

theorem Answers.any (p : Throwing τ σ ε α) : Answers (fun _ => True) p := by
  have hany : ∀ q : Prog τ σ (Except ε α), q.Answers fun r => ∀ a, r = .ok a → True := by
    intro q
    induction q with
    | pure => exact fun _ _ => trivial
    | atomic tag act next ih => exact fun s => ih _
  exact hany p.run

end Throwing

theorem Prog.Within.affords_throwing_bind_of {τ σ ε α β : Type} {I : σ → Prop} {L : Ledger σ} {Q : α → Prop}
    {p : Throwing τ σ ε α} {f : α → Throwing τ σ ε β} (h : p.run.Within I fun _ s s' => L.Idle s s')
    (hp : p.Answers Q) (hf : ∀ a, Q a → (f a).run.Affords I L n) : (p >>= f).run.Affords I L n := by
  have hbind : ∀ q : Prog τ σ (Except ε α), (q.Within I fun _ s s' => L.Idle s s') →
      q.Answers (fun r => ∀ a, r = .ok a → Q a) →
      (q.bind fun
        | .ok a => (f a).run
        | .error e => .pure (.error e)).Affords I L n := by
    intro q
    induction q with
    | pure r =>
      intro _ hq
      cases r with
      | ok a => exact hf a (hq a rfl)
      | error => trivial
    | atomic tag act next ih =>
      intro hwithin hq s hs
      obtain ⟨hidle, hnext⟩ := hwithin s hs
      exact ⟨n, hidle.settles n, ih _ hnext (hq s)⟩
  exact hbind p.run h hp

namespace Throwing

variable {τ σ ε α β : Type}

/-- Every statement does what is required of it, and an answer that is not an error satisfies `Q`. -/
def Ensures (L : Rely τ σ) (Q : α → σ → Prop) (s₀ : σ) (p : Throwing τ σ ε α) : Prop :=
  Prog.Ensures L (fun r s => ∀ a, r = .ok a → Q a s) s₀ p.run

namespace Ensures

variable {s₀ : σ} {p : Throwing τ σ ε α}

theorem of_pure (h : Q a s₀) : Ensures L Q s₀ (pure a : Throwing τ σ ε α) := by
  rintro a' ⟨⟩
  exact h

theorem of_throw (e : ε) : Ensures L Q s₀ (throw e : Throwing τ σ ε α) := nofun

theorem bind (hL : L.Sound) {f : α → Throwing τ σ ε β} (h : Ensures L Q s₀ p)
    (hf : ∀ a s, L.later s₀ s → Q a s → Ensures L R s (f a)) : Ensures L R s₀ (p >>= f) := by
  unfold Ensures
  rw [run_bind]
  apply Prog.Ensures.bind hL h
  intro r s hlater hr
  cases r with
  | ok a => exact hf a s hlater (hr a rfl)
  | error => exact nofun

theorem rescue (hL : L.Sound) (h : Ensures L Q s₀ p)
    (hhandler : ∀ e s, L.later s₀ s → Ensures L Q s (handler e)) : Ensures L Q s₀ (Throwing.rescue p handler) := by
  unfold Ensures
  rw [run_rescue]
  apply Prog.Ensures.bind hL h
  intro r s hlater hr
  cases r with
  | ok => exact hr
  | error e => exact hhandler e s hlater

theorem statement {tag : τ} {act : σ → Except ε α × σ} (h : ∀ s, L.later s₀ s → L.inv s → L.cond tag s →
      L.effect tag s (act s).2 ∧ ∀ a, (act s).1 = .ok a → Q a (act s).2) :
    Ensures L Q s₀ (Throwing.statement tag act) :=
  Prog.Ensures.stmt h

theorem of_within (h : p.run.Within L.inv W)
    (hW : ∀ tag s s', L.inv s → L.cond tag s → W tag s s' → L.effect tag s s') :
    Ensures L (fun _ _ => True) s₀ p := by
  have hprog : ∀ {γ : Type} {q : Prog τ σ γ} {s : σ}, q.Within L.inv W → Prog.Ensures L (fun _ _ => True) s q := by
    intro γ q
    induction q with
    | pure => exact fun _ => trivial
    | atomic tag act next ih =>
      intro s hq s' _ hinv hcond
      obtain ⟨hw, hnext⟩ := hq s' hinv
      exact ⟨hW _ _ _ hinv hcond hw, ih _ hnext⟩
  exact (hprog h).mono fun _ _ _ _ _ => trivial

end Ensures

end Throwing

variable {τ σ κ α β ε : Type}

/-- The states a program's statements were executed in, each with the state it left. -/
abbrev Trace (σ : Type) := List (σ × σ)

/-- Whatever its statements find from here on, the answer satisfies `Q` with the whole trace. -/
def Prog.Tells (Q : Trace σ → α → Prop) : Trace σ → Prog τ σ α → Prop
  | trace, .pure a => Q trace a
  | trace, .atomic _ act next => ∀ s, (next (act s).1).Tells Q (trace ++ [(s, (act s).2)])

namespace Prog.Tells

variable {Q : Trace σ → α → Prop} {R : Trace σ → β → Prop} {trace : Trace σ} {p : Prog τ σ α}

theorem mono (h : p.Tells Q trace) (hQ : ∀ trace a, Q trace a → Q' trace a) : p.Tells Q' trace := by
  induction p generalizing trace with
  | pure => exact hQ _ _ h
  | atomic tag act next ih => exact fun s => ih _ (h s)

theorem bind (h : p.Tells Q trace) (hf : ∀ trace a, Q trace a → (f a).Tells R trace) : (p.bind f).Tells R trace := by
  induction p generalizing trace with
  | pure => exact hf _ _ h
  | atomic tag act next ih => exact fun s => ih _ (h s)

theorem extends_trace (p : Prog τ σ α) (trace : Trace σ) : p.Tells (fun whole _ => trace <+: whole) trace := by
  induction p generalizing trace with
  | pure => exact List.prefix_rfl
  | atomic tag act next ih => exact fun s => (ih _ _).mono fun whole a h => (List.prefix_append _ _).trans h

end Prog.Tells

namespace Throwing

def Tells (Q : Trace σ → α → Prop) (trace : Trace σ) (p : Throwing τ σ ε α) : Prop :=
  p.run.Tells (fun trace r => ∀ a, r = .ok a → Q trace a) trace

namespace Tells

variable {Q : Trace σ → α → Prop} {R : Trace σ → β → Prop} {trace : Trace σ} {p : Throwing τ σ ε α}

theorem of_pure (h : Q trace a) : Tells Q trace (pure a : Throwing τ σ ε α) := by
  rintro a' ⟨⟩
  exact h

theorem of_throw (e : ε) : Tells Q trace (throw e : Throwing τ σ ε α) := nofun

theorem bind (h : Tells Q trace p) (hf : ∀ trace a, Q trace a → Tells R trace (f a)) : Tells R trace (p >>= f) := by
  unfold Tells
  rw [run_bind]
  apply Prog.Tells.bind h
  intro trace r hr
  cases r with
  | ok a => exact hf trace a (hr a rfl)
  | error => exact nofun

theorem rescue (h : Tells Q trace p)
    (hhandler : ∀ trace e, Tells Q trace (handler e)) : Tells Q trace (Throwing.rescue p handler) := by
  unfold Tells
  rw [run_rescue]
  apply Prog.Tells.bind h
  intro trace r hr
  cases r with
  | ok => exact hr
  | error e => exact hhandler trace e

theorem statement {act : σ → Except ε α × σ}
    (h : ∀ s a, (act s).1 = .ok a → Q (trace ++ [(s, (act s).2)]) a) : Tells Q trace (Throwing.statement tag act) :=
  fun s a ha => h s a ha

end Tells

end Throwing

section Runs

variable {cond : Sys τ σ κ α → κ → τ → Prop}

/-- A run from one state to another in which the statements of the trace were executed, in their order. -/
inductive Performed (prog : κ → Prog τ σ α) (cond : Sys τ σ κ α → κ → τ → Prop) (s₀ : Sys τ σ κ α) :
    Trace σ → Sys τ σ κ α → Prop
  | idle {s : Sys τ σ κ α} (hreach : Reachable prog cond s₀ s) : Performed prog cond s₀ [] s
  | execute {trace : Trace σ} {s s' s'' : Sys τ σ κ α} (hbefore : Performed prog cond s₀ trace s)
      (hstep : Step prog cond s s') (hafter : Reachable prog cond s' s'') :
      Performed prog cond s₀ (trace ++ [(s.db, s'.db)]) s''

theorem Performed.step {trace : Trace σ} (h : Performed prog cond s₀ trace s)
    (hstep : Step prog cond s s') : Performed prog cond s₀ trace s' := by
  cases h with
  | idle hreach => exact .idle (.tail hreach hstep)
  | execute hbefore hstep' hafter => exact .execute hbefore hstep' (.tail hafter hstep)

/-- In every state of a run each call has performed a trace, and its answer is going to satisfy `Q` with it. -/
theorem Reachable.tells {Q : κ → Trace σ → α → Prop} (hprog : ∀ c, (prog c).Tells (Q c) [])
    {s : Sys τ σ κ α} (hr : Reachable prog cond (.idle db) s) {i : Nat} {p : Prog τ σ α}
    (hcall : s.calls[i]? = some (c, p)) : ∃ trace, Performed prog cond (.idle db) trace s ∧ p.Tells (Q c) trace := by
  induction hr generalizing i c p with
  | refl => simp [Sys.idle] at hcall
  | tail hr hstep ih =>
    cases hstep with
    | spawn _ =>
      rcases List.mem_append.mp (List.mem_of_getElem? hcall) with hold | hnew
      · obtain ⟨j, hj⟩ := List.mem_iff_getElem?.mp hold
        obtain ⟨trace, hperformed, htells⟩ := ih hj
        exact ⟨trace, hperformed.step (.spawn _ _), htells⟩
      · cases List.mem_singleton.mp hnew
        exact ⟨[], .idle (.tail hr (.spawn _ _)), hprog _⟩
    | exec _ j c' tag act next hcall' hcond =>
      rcases List.mem_or_eq_of_mem_set (List.mem_of_getElem? hcall) with hold | hnew
      · obtain ⟨j', hj'⟩ := List.mem_iff_getElem?.mp hold
        obtain ⟨trace, hperformed, htells⟩ := ih hj'
        exact ⟨trace, hperformed.step (.exec _ _ _ _ _ _ hcall' hcond), htells⟩
      · cases hnew
        obtain ⟨trace, hperformed, htells⟩ := ih hcall'
        exact ⟨_, .execute hperformed (.exec _ _ _ _ _ _ hcall' hcond) .refl, htells _⟩

theorem Reachable.told {Q : κ → Trace σ → α → Prop} (hprog : ∀ c, (prog c).Tells (Q c) [])
    {s : Sys τ σ κ α} (hr : Reachable prog cond (.idle db) s) {c : κ} (hfinished : s.Finished c a) :
    ∃ trace, Performed prog cond (.idle db) trace s ∧ Q c trace a := by
  obtain ⟨i, hi⟩ := List.mem_iff_getElem?.mp hfinished
  exact Reachable.tells hprog hr hi

end Runs

end Interleaving
