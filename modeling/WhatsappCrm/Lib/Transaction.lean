/-
Purpose: Transactions at READ COMMITTED as programs. Each statement of a transaction sees the committed state of its moment
  with the transaction's own writes on top.
-/
import WhatsappCrm.Lib.RelyGuarantee

namespace Interleaving

/-- The body of a transaction whose writes are `ω`s and answer lists of rows `ι`. -/
inductive Tx (τ σ ω ι ε α : Type) : Type 1 where
  | pure (a : α)
  | abort (e : ε)
  | read {β : Type} (tag : τ) (f : σ → β) (next : β → Tx τ σ ω ι ε α)
  | write (tag : τ) (w : ω) (next : List ι → Tx τ σ ω ι ε α)

namespace Tx

variable {τ σ ω ι ε α β γ : Type}

def bind : Tx τ σ ω ι ε α → (α → Tx τ σ ω ι ε β) → Tx τ σ ω ι ε β
  | .pure a, f => f a
  | .abort e, _ => .abort e
  | .read tag g next, f => .read tag g fun b => (next b).bind f
  | .write tag w next, f => .write tag w fun rows => (next rows).bind f

instance : Monad (Tx τ σ ω ι ε) where
  pure := .pure
  bind := bind

@[simp] theorem pure_def (a : α) : (Pure.pure a : Tx τ σ ω ι ε α) = .pure a := rfl

@[simp] theorem bind_def (p : Tx τ σ ω ι ε α) (f : α → Tx τ σ ω ι ε β) : (p >>= f) = p.bind f := rfl

@[simp] theorem bind_pure_left (a : α) (f : α → Tx τ σ ω ι ε β) : (Tx.pure a : Tx τ σ ω ι ε α).bind f = f a := rfl

def query (tag : τ) (f : σ → α) : Tx τ σ ω ι ε α := .read tag f .pure

def execute (tag : τ) (w : ω) : Tx τ σ ω ι ε (List ι) := .write tag w .pure

@[simp] theorem bind_query (tag : τ) (f : σ → α) (g : α → Tx τ σ ω ι ε β) :
    (query tag f : Tx τ σ ω ι ε α).bind g = .read tag f g := rfl

@[simp] theorem bind_execute (tag : τ) (w : ω) (g : List ι → Tx τ σ ω ι ε β) :
    (execute tag w : Tx τ σ ω ι ε (List ι)).bind g = .write tag w g := rfl

/-- The same transaction with its tags among others. -/
def retag {υ : Type} (f : τ → υ) : Tx τ σ ω ι ε α → Tx υ σ ω ι ε α
  | .pure a => .pure a
  | .abort e => .abort e
  | .read tag g next => .read (f tag) g fun b => (next b).retag f
  | .write tag w next => .write (f tag) w fun rows => (next rows).retag f

@[simp] theorem retag_id (p : Tx τ σ ω ι ε α) : p.retag id = p := by
  induction p with
  | pure | abort => rfl
  | read tag g next ih => simp only [retag, ih, id_eq]
  | write tag w next ih => simp only [retag, ih, id_eq]

end Tx

/-- How writes are applied, and the error of a commit whose writes no longer match what they hold. -/
structure Writes (σ ω ι ε : Type) where
  apply : ω → σ → Except ε (List ι × σ)
  conflict : ε

section Run

variable {τ σ ω ι ε α : Type} [DecidableEq ι] (W : Writes σ ω ι ε)

def applyAll : List (ω × List ι) → σ → Except ε σ
  | [], s => .ok s
  | (w, rows) :: ws, s =>
    match W.apply w s with
    | .ok (rows', s') => if rows' = rows then applyAll ws s' else .error W.conflict
    | .error e => .error e

/-- What a write matches on top of the writes before it. -/
def matched (ws : List (ω × List ι)) (w : ω) (s : σ) : Except ε (List ι) :=
  match applyAll W ws s with
  | .error e => .error e
  | .ok s' =>
    match W.apply w s' with
    | .ok (rows, _) => .ok rows
    | .error e => .error e

/-- The program of a transaction that holds the rows of the writes `ws`. The tag of its commit says what it writes. -/
def Tx.runAs (commit : List (ω × List ι) → τ) : List (ω × List ι) → Tx τ σ ω ι ε α → Prog τ σ (Except ε α)
  | ws, .pure a => .atomic (commit ws) (fun s =>
    match applyAll W ws s with
    | .ok s' => (.ok a, s')
    | .error e => (.error e, s)) .pure
  | _, .abort e => .pure (.error e)
  | ws, .read tag f next => .atomic tag (fun s => ((applyAll W ws s).map f, s)) fun
      | .ok b => (next b).runAs commit ws
      | .error e => .pure (.error e)
  | ws, .write tag w next => .atomic tag (fun s => (matched W ws w s, s)) fun
      | .ok [] => (next []).runAs commit ws
      | .ok (row :: rows) => (next (row :: rows)).runAs commit (ws ++ [(w, row :: rows)])
      | .error e => .pure (.error e)

/-- The same where every commit has the one tag. -/
abbrev Tx.run (commit : τ) (ws : List (ω × List ι)) (p : Tx τ σ ω ι ε α) : Prog τ σ (Except ε α) :=
  p.runAs W (fun _ => commit) ws

/-- The program of a transaction changes the state at its commit only, by its writes. -/
theorem Tx.runAs_within {υ : Type} {W : Writes σ ω ι ε} {V : υ → σ → σ → Prop} {f : τ → υ}
    {commit : List (ω × List ι) → υ} (hsame : ∀ tag s, I s → V (f tag) s s)
    (hnothing : ∀ ws s, I s → V (commit ws) s s)
    (hcommit : ∀ ws s s', I s → applyAll W ws s = .ok s' → V (commit ws) s s') (p : Tx τ σ ω ι ε α)
    (ws : List (ω × List ι)) : ((p.retag f).runAs W commit ws).Within I V := by
  induction p generalizing ws with
  | pure a =>
    intro s hs
    refine ⟨?_, trivial⟩
    dsimp only
    split
    · rename_i s' happly
      exact hcommit ws s s' hs happly
    · exact hnothing ws s hs
  | abort => trivial
  | read tag g next ih =>
    simp only [retag, runAs]
    intro s hs
    refine ⟨hsame tag s hs, ?_⟩
    dsimp only
    cases applyAll W ws s with
    | error => trivial
    | ok => exact ih _ ws
  | write tag w next ih =>
    simp only [retag, runAs]
    intro s hs
    refine ⟨hsame tag s hs, ?_⟩
    dsimp only
    cases matched W ws w s with
    | error => trivial
    | ok rows =>
      cases rows with
      | nil => exact ih _ ws
      | cons => exact ih _ _

theorem Tx.run_within {υ : Type} {W : Writes σ ω ι ε} {V : υ → σ → σ → Prop} {f : τ → υ}
    {commit : υ} (hsame : ∀ tag s, I s → V (f tag) s s) (hnothing : ∀ s, I s → V commit s s)
    (hcommit : ∀ ws s s', I s → applyAll W ws s = .ok s' → V commit s s') (p : Tx τ σ ω ι ε α)
    (ws : List (ω × List ι)) : ((p.retag f).run W commit ws).Within I V :=
  Tx.runAs_within hsame (fun _ => hnothing) hcommit p ws

end Run

section Lists

variable {σ ω ι ε : Type} [DecidableEq ι] {W : Writes σ ω ι ε}

theorem applyAll_cons_ok {ws : List (ω × List ι)} : applyAll W ((w, rows) :: ws) s = .ok s' ↔
      ∃ s₁, W.apply w s = .ok (rows, s₁) ∧ applyAll W ws s₁ = .ok s' := by
  simp only [applyAll]
  constructor
  · intro h
    split at h
    · rename_i rows' s₁ hw
      split at h
      · rename_i heq
        rw [heq] at hw
        exact ⟨s₁, hw, h⟩
      · cases h
    · cases h
  · intro h
    obtain ⟨s₁, hw, hws⟩ := h
    simp [hw, hws]

theorem applyAll_single : applyAll W [(w, rows)] s = .ok s' ↔ W.apply w s = .ok (rows, s') := by
  rw [applyAll_cons_ok]
  simp [applyAll]

theorem applyAll_append_ok {ws ws' : List (ω × List ι)} {s s' : σ} : applyAll W (ws ++ ws') s = .ok s' ↔
      ∃ s₁, applyAll W ws s = .ok s₁ ∧ applyAll W ws' s₁ = .ok s' := by
  induction ws generalizing s with
  | nil => simp [applyAll]
  | cons e ws ih =>
    obtain ⟨w, rows⟩ := e
    simp only [List.cons_append, applyAll_cons_ok, ih]
    constructor
    · rintro ⟨s₂, hw, s₁, hws, hws'⟩
      exact ⟨s₁, ⟨s₂, hw, hws⟩, hws'⟩
    · rintro ⟨s₁, ⟨s₂, hw, hws⟩, hws'⟩
      exact ⟨s₂, hw, s₁, hws, hws'⟩

theorem applyAll_snoc_ok {ws : List (ω × List ι)} {w : ω} {rows : List ι} {s s' : σ} :
    applyAll W (ws ++ [(w, rows)]) s = .ok s' ↔
      ∃ s₁, applyAll W ws s = .ok s₁ ∧ W.apply w s₁ = .ok (rows, s') := by
  simp only [applyAll_append_ok, applyAll_single]

def Justifies (W : Writes σ ω ι ε) (J : σ → ω → Prop) : List (ω × List ι) → σ → Prop
  | [], _ => True
  | (w, rows) :: ws, s => J s w ∧ ∀ s', W.apply w s = .ok (rows, s') → Justifies W J ws s'

theorem justifies_snoc {ws : List (ω × List ι)}
    (hws : Justifies W J ws s) (hw : ∀ s', applyAll W ws s = .ok s' → J s' w) :
    Justifies W J (ws ++ [(w, rows)]) s := by
  induction ws generalizing s with
  | nil => exact ⟨hw s rfl, fun _ _ => trivial⟩
  | cons e ws ih =>
    obtain ⟨w', rows'⟩ := e
    refine ⟨hws.1, fun s' hs' => ih (hws.2 s' hs') fun s'' hs'' => ?_⟩
    exact hw s'' (applyAll_cons_ok.mpr ⟨s', hs', hs''⟩)

theorem applyAll_keeps {K : σ → Prop} (hkeep : ∀ w s rows s', K s → J s w → W.apply w s = .ok (rows, s') → K s')
    {ws : List (ω × List ι)} (hws : Justifies W J ws s) (hs : K s) (h : applyAll W ws s = .ok s') : K s' := by
  induction ws generalizing s with
  | nil =>
    cases h
    exact hs
  | cons e ws ih =>
    obtain ⟨w, rows⟩ := e
    obtain ⟨s₁, hw, hws'⟩ := applyAll_cons_ok.mp h
    exact ih (hws.2 s₁ hw) (hkeep w s rows s₁ hs hws.1 hw) hws'

/-- What each write keeps when it matches the rows beside it, a list of them keeps. -/
theorem applyAll_induct {Q : ω → List ι → Prop} {K : σ → Prop}
    (hkeep : ∀ w rows s s', Q w rows → K s → W.apply w s = .ok (rows, s') → K s')
    {ws : List (ω × List ι)} (hws : ∀ e ∈ ws, Q e.1 e.2) (hs : K s) (h : applyAll W ws s = .ok s') : K s' := by
  induction ws generalizing s with
  | nil =>
    cases h
    exact hs
  | cons e ws ih =>
    obtain ⟨w, rows⟩ := e
    obtain ⟨s₁, hw, hws'⟩ := applyAll_cons_ok.mp h
    have hs₁ := hkeep w rows s s₁ (hws _ List.mem_cons_self) hs hw
    exact ih (fun e he => hws e (List.mem_cons_of_mem _ he)) hs₁ hws'

end Lists

section Alone

variable {τ σ ω ι ε α β : Type} (W : Writes σ ω ι ε)

/-- A transaction that runs alone: every write takes effect at once. -/
def Tx.exec : Tx τ σ ω ι ε α → σ → Except ε (α × σ)
  | .pure a, s => .ok (a, s)
  | .abort e, _ => .error e
  | .read _ f next, s => (next (f s)).exec s
  | .write _ w next, s =>
    match W.apply w s with
    | .ok (rows, s') => (next rows).exec s'
    | .error e => .error e

variable {W}

theorem Tx.exec_bind {p : Tx τ σ ω ι ε α} {f : α → Tx τ σ ω ι ε β} :
    (p.bind f).exec W s = .ok r ↔ ∃ a s₁, p.exec W s = .ok (a, s₁) ∧ (f a).exec W s₁ = .ok r := by
  induction p generalizing s with
  | pure | abort => simp [Tx.bind, Tx.exec]
  | read tag g next ih => exact ih _
  | write tag w next ih =>
    simp only [Tx.bind, Tx.exec]
    cases W.apply w s with
    | error => simp
    | ok => exact ih _

theorem Tx.exec_execute :
    (Tx.execute tag w : Tx τ σ ω ι ε (List ι)).exec W s = .ok (rows, s') ↔ W.apply w s = .ok (rows, s') := by
  simp only [Tx.execute, Tx.exec]
  cases W.apply w s <;> simp [Prod.ext_iff]

@[simp] theorem Tx.exec_retag {υ : Type} (f : τ → υ) (p : Tx τ σ ω ι ε α) (s : σ) :
    (p.retag f).exec W s = p.exec W s := by
  induction p generalizing s with
  | pure | abort => rfl
  | read tag g next ih => exact ih _ s
  | write tag w next ih =>
    simp only [Tx.retag, Tx.exec]
    cases W.apply w s with
    | error => rfl
    | ok => exact ih _ _

theorem Tx.exec_keeps {K : σ → Prop} (hkeep : ∀ w s rows s', K s → W.apply w s = .ok (rows, s') → K s')
    {p : Tx τ σ ω ι ε α} (hs : K s) (h : p.exec W s = .ok (a, s')) : K s' := by
  induction p generalizing s with
  | pure =>
    cases h
    exact hs
  | abort => cases h
  | read tag f next ih => exact ih _ hs h
  | write tag w next ih =>
    simp only [Tx.exec] at h
    split at h
    · rename_i rows s₁ happly
      exact ih _ (hkeep w s rows s₁ hs happly) h
    · cases h

/-- The program of a transaction, with nothing in between, is the transaction running alone. -/
theorem Tx.run_alone [DecidableEq ι] (hnothing : ∀ w s s', W.apply w s = .ok ([], s') → s' = s)
    {p : Tx τ σ ω ι ε α} {ws : List (ω × List ι)} (hv : applyAll W ws s = .ok v) :
    (p.run W commit ws).alone s = match p.exec W v with
      | .ok (a, v') => (.ok a, v')
      | .error e => (.error e, s) := by
  induction p generalizing ws v with
  | pure => simp only [run, runAs, Prog.alone, hv, exec]
  | abort => rfl
  | read tag f next ih =>
    simp only [run, runAs, Prog.alone, hv, Except.map, exec]
    exact ih _ hv
  | write tag w next ih =>
    simp only [run, runAs, Prog.alone, matched, hv, exec]
    cases happly : W.apply w v with
    | error => rfl
    | ok answer =>
      obtain ⟨rows, v'⟩ := answer
      cases rows with
      | nil =>
        rw [hnothing w v v' happly]
        exact ih _ hv
      | cons => exact ih _ (applyAll_snoc_ok.mpr ⟨v, hv, happly⟩)

end Alone

/-!
### What a transaction knows

Whatever the others commit, the view of the transaction's next statement, the committed state with its own writes
on top, is later than the view of its last one: a write that still matches the rows it holds turns later states
into later ones. So a transaction can be checked as if it ran alone on a view that others move along the preorder,
and a write that is justified in every later view is justified at the commit.
-/

section Rules

variable {τ σ ω ι ε α β : Type}

structure Writes.Steady (W : Writes σ ω ι ε) (L : Rely τ σ) : Prop where
  nothing : ∀ {w s s'}, W.apply w s = .ok ([], s') → s' = s
  valid : ∀ {w s rows s'}, L.inv s → W.apply w s = .ok (rows, s') → L.inv s'
  mono : ∀ {w s₁ s₂ rows s₁' s₂'}, L.inv s₁ → L.inv s₂ → L.later s₁ s₂ → rows ≠ [] →
    W.apply w s₁ = .ok (rows, s₁') → W.apply w s₂ = .ok (rows, s₂') → L.later s₁' s₂'

/-- Moreover each write moves along the preorder. -/
structure Writes.Sound (W : Writes σ ω ι ε) (L : Rely τ σ) : Prop where
  nothing : ∀ {w s s'}, W.apply w s = .ok ([], s') → s' = s
  keeps : ∀ {w s rows s'}, L.inv s → W.apply w s = .ok (rows, s') → L.inv s' ∧ L.later s s'
  mono : ∀ {w s₁ s₂ rows s₁' s₂'}, L.inv s₁ → L.inv s₂ → L.later s₁ s₂ → rows ≠ [] →
    W.apply w s₁ = .ok (rows, s₁') → W.apply w s₂ = .ok (rows, s₂') → L.later s₁' s₂'

theorem Writes.Sound.steady {W : Writes σ ω ι ε} {L : Rely τ σ} (h : W.Sound L) : W.Steady L where
  nothing := h.nothing
  valid hinv happly := (h.keeps hinv happly).1
  mono := h.mono

namespace Tx

/-- From the view `v₀` on, every write is justified in every later view, and the answer satisfies `Q` in its view. -/
def Justified (W : Writes σ ω ι ε) (L : Rely τ σ) (J : σ → ω → Prop) (Q : α → σ → Prop) : σ → Tx τ σ ω ι ε α → Prop
  | v₀, .pure a => Q a v₀
  | _, .abort _ => True
  | v₀, .read _ f next => ∀ v, L.later v₀ v → L.inv v → Justified W L J Q v (next (f v))
  | v₀, .write _ w next =>
    (∀ v, L.later v₀ v → L.inv v → J v w) ∧
      ∀ v rows v', L.later v₀ v → L.inv v → W.apply w v = .ok (rows, v') →
        Justified W L J Q v' (next rows)

variable {W : Writes σ ω ι ε} {L : Rely τ σ}

namespace Justified

theorem bind (hL : L.Sound) (hW : W.Sound L)
    {p : Tx τ σ ω ι ε α} {f : α → Tx τ σ ω ι ε β} {v₀ : σ} (h : Justified W L J Q v₀ p)
    (hf : ∀ a v, L.later v₀ v → Q a v → Justified W L J R v (f a)) : Justified W L J R v₀ (p.bind f) := by
  induction p generalizing v₀ with
  | pure a => exact hf a v₀ (hL.refl v₀) h
  | abort => trivial
  | read tag g next ih =>
    intro v hv hinv
    exact ih _ (h v hv hinv) fun a v' hv' => hf a v' (hL.trans hv hv')
  | write tag w next ih =>
    refine ⟨h.1, fun v rows v' hv hinv happly => ?_⟩
    have hstep := (hW.keeps hinv happly).2
    exact ih _ (h.2 v rows v' hv hinv happly) fun a v'' hv'' =>
      hf a v'' (hL.trans hv (hL.trans hstep hv''))

theorem of_forall (hJ : ∀ v w, J v w) (v₀ : σ) (p : Tx τ σ ω ι ε α) : Justified W L J (fun _ _ => True) v₀ p := by
  induction p generalizing v₀ with
  | pure | abort => trivial
  | read tag f next ih => exact fun v _ _ => ih _ v
  | write tag w next ih => exact ⟨fun v _ _ => hJ v w, fun _ rows v' _ _ _ => ih rows v'⟩

/-- Alone the transaction applies each write in the view that justifies it. -/
theorem exec (hL : L.Sound) (hW : W.Sound L) {K : σ → Prop}
    (hkeep : ∀ w s rows s', L.inv s → K s → J s w → W.apply w s = .ok (rows, s') → K s')
    {p : Tx τ σ ω ι ε α} (h : Justified W L J Q s p) (hinv : L.inv s) (hs : K s)
    (hexec : p.exec W s = .ok (a, s')) : L.inv s' ∧ L.later s s' ∧ K s' ∧ Q a s' := by
  induction p generalizing s with
  | pure =>
    cases hexec
    exact ⟨hinv, hL.refl _, hs, h⟩
  | abort => cases hexec
  | read tag f next ih => exact ih _ (h s (hL.refl s) hinv) hinv hs hexec
  | write tag w next ih =>
    simp only [Tx.exec] at hexec
    split at hexec
    · rename_i rows s₁ happly
      obtain ⟨hinv₁, hlater₁⟩ := hW.keeps hinv happly
      have hs₁ := hkeep w s rows s₁ hinv hs (h.1 s (hL.refl s) hinv) happly
      obtain ⟨hinv', hlater', hrest⟩ :=
        ih rows (h.2 s rows s₁ (hL.refl s) hinv happly) hinv₁ hs₁ hexec
      exact ⟨hinv', hL.trans hlater₁ hlater', hrest⟩
    · cases hexec

end Justified

variable [DecidableEq ι]

theorem applyAll_later (hL : L.Sound) (hW : W.Sound L) {ws : List (ω × List ι)}
    (hinv : L.inv s) (h : applyAll W ws s = .ok v) : L.inv v ∧ L.later s v := by
  induction ws generalizing s with
  | nil =>
    cases h
    exact ⟨hinv, hL.refl _⟩
  | cons e ws ih =>
    obtain ⟨w, rows⟩ := e
    obtain ⟨s₁, hw, hws⟩ := applyAll_cons_ok.mp h
    obtain ⟨hinv₁, hlater₁⟩ := hW.keeps hinv hw
    obtain ⟨hinv', hlater'⟩ := ih hinv₁ hws
    exact ⟨hinv', hL.trans hlater₁ hlater'⟩

theorem applyAll_valid (hW : W.Steady L) {ws : List (ω × List ι)} (hinv : L.inv s)
    (h : applyAll W ws s = .ok v) : L.inv v :=
  applyAll_induct (Q := fun _ _ => True) (fun _ _ _ _ _ hs happly => hW.valid hs happly) (fun _ _ => trivial) hinv h

/-- The view moves along when the committed state does. -/
theorem applyAll_mono (hW : W.Steady L) {ws : List (ω × List ι)} (hheld : ∀ e ∈ ws, e.2 ≠ [])
    (h₁ : L.inv s₁) (h₂ : L.inv s₂) (hlater : L.later s₁ s₂)
    (hv₁ : applyAll W ws s₁ = .ok v₁) (hv₂ : applyAll W ws s₂ = .ok v₂) : L.later v₁ v₂ := by
  induction ws generalizing s₁ s₂ with
  | nil =>
    cases hv₁
    cases hv₂
    exact hlater
  | cons e ws ih =>
    obtain ⟨w, rows⟩ := e
    obtain ⟨t₁, hw₁, hws₁⟩ := applyAll_cons_ok.mp hv₁
    obtain ⟨t₂, hw₂, hws₂⟩ := applyAll_cons_ok.mp hv₂
    have hrows := hheld (w, rows) List.mem_cons_self
    exact ih (fun e' he' => hheld e' (List.mem_cons_of_mem _ he')) (hW.valid h₁ hw₁)
      (hW.valid h₂ hw₂) (hW.mono h₁ h₂ hlater hrows hw₁ hw₂) hws₁ hws₂

/-- What the transaction holds since its view `v₀`: the writes are justified at every later commit. -/
structure Holds (W : Writes σ ω ι ε) (L : Rely τ σ) (J : σ → ω → Prop) (ws : List (ω × List ι)) (s₀ v₀ : σ) : Prop where
  held : ∀ e ∈ ws, e.2 ≠ []
  view : ∀ s v, L.later s₀ s → L.inv s → applyAll W ws s = .ok v → L.later v₀ v
  justified : ∀ s, L.later s₀ s → L.inv s → Justifies W J ws s

namespace Holds

theorem nil (s₀ : σ) : Holds W L J [] s₀ s₀ where
  held := by simp
  view s v hs _ hv := by
    cases hv
    exact hs
  justified _ _ _ := trivial

theorem now (hL : L.Sound) (hW : W.Steady L) {ws : List (ω × List ι)} {v₀ : σ}
    (h : Holds W L J ws s₀ v₀) (hs : L.later s₀ s) (hinv : L.inv s) (hv : applyAll W ws s = .ok v) :
    Holds W L J ws s v where
  held := h.held
  view _ _ hs' hinv' hv' := applyAll_mono hW h.held hinv hinv' hs' hv hv'
  justified s' hs' hinv' := h.justified s' (hL.trans hs hs') hinv'

theorem snoc (hW : W.Steady L) {ws : List (ω × List ι)} (hrows : rows ≠ []) (h : Holds W L J ws s v) (hinv : L.inv s)
    (hv : applyAll W ws s = .ok v) (happly : W.apply w v = .ok (rows, v'))
    (hJ : ∀ v₁, L.later v v₁ → L.inv v₁ → J v₁ w) : Holds W L J (ws ++ [(w, rows)]) s v' where
  held e he := by
    rcases List.mem_append.mp he with he | he
    · exact h.held e he
    · rw [List.mem_singleton.mp he]
      exact hrows
  view s₁ v₁' hs₁ hinv₁ hv₁' := by
    obtain ⟨v₁, hv₁, happly₁⟩ := applyAll_snoc_ok.mp hv₁'
    have hinv_v := applyAll_valid hW hinv hv
    have hinv_v₁ := applyAll_valid hW hinv₁ hv₁
    exact hW.mono hinv_v hinv_v₁ (h.view s₁ v₁ hs₁ hinv₁ hv₁) hrows happly happly₁
  justified s₁ hs₁ hinv₁ := by
    refine justifies_snoc (h.justified s₁ hs₁ hinv₁) fun v₁ hv₁ => ?_
    exact hJ v₁ (h.view s₁ v₁ hs₁ hinv₁ hv₁) (applyAll_valid hW hinv₁ hv₁)

end Holds

theorem run_guards (hL : L.Sound) (hW : W.Steady L) (hsame : ∀ tag s, L.inv s → L.cond tag s → L.effect tag s s)
    (hcommit : ∀ ws s s', L.inv s → L.cond (commit ws) s → Justifies W J ws s →
      applyAll W ws s = .ok s' → L.effect (commit ws) s s') {p : Tx τ σ ω ι ε α} {ws : List (ω × List ι)} {v₀ : σ}
    (hp : Justified W L J Q v₀ p) (hws : Holds W L J ws s₀ v₀) : Prog.Guards L s₀ (p.runAs W commit ws) := by
  induction p generalizing ws s₀ v₀ with
  | pure a =>
    intro s hs hinv hcond
    refine ⟨?_, trivial⟩
    dsimp only
    split
    · rename_i s' h
      exact hcommit ws s s' hinv hcond (hws.justified s hs hinv) h
    · exact hsame _ s hinv hcond
  | abort => trivial
  | read tag f next ih =>
    simp only [runAs]
    intro s hs hinv hcond
    refine ⟨hsame tag s hinv hcond, ?_⟩
    dsimp only
    cases hv : applyAll W ws s with
    | error => trivial
    | ok v =>
      have hinv_v := applyAll_valid hW hinv hv
      exact ih _ (hp v (hws.view s v hs hinv hv) hinv_v) (hws.now hL hW hs hinv hv)
  | write tag w next ih =>
    simp only [runAs]
    intro s hs hinv hcond
    refine ⟨hsame tag s hinv hcond, ?_⟩
    dsimp only [matched]
    cases hv : applyAll W ws s with
    | error => trivial
    | ok v =>
      have hinv_v := applyAll_valid hW hinv hv
      have hlater_v := hws.view s v hs hinv hv
      have hnow := hws.now hL hW hs hinv hv
      dsimp only
      cases happly : W.apply w v with
      | error => trivial
      | ok answer =>
        obtain ⟨rows, v'⟩ := answer
        have hnext := hp.2 v rows v' hlater_v hinv_v happly
        cases rows with
        | nil =>
          rw [hW.nothing happly] at hnext
          exact ih _ hnext hnow
        | cons =>
          exact ih _ hnext (hnow.snoc hW (by simp) hinv hv happly fun v₁ hv₁ =>
            hp.1 v₁ (hL.trans hlater_v hv₁))

omit [DecidableEq ι] in
/-- Every write of the transaction, under its tag, is one of `Q`. -/
def Only {υ : Type} (Q : υ → ω → Prop) : Tx υ σ ω ι ε α → Prop
  | .pure _ => True
  | .abort _ => True
  | .read _ _ next => ∀ b, (next b).Only Q
  | .write tag w next => Q tag w ∧ ∀ rows, (next rows).Only Q

omit [DecidableEq ι] in
theorem Only.bind {υ : Type} {Q : υ → ω → Prop} {p : Tx υ σ ω ι ε α} {f : α → Tx υ σ ω ι ε β} (h : p.Only Q)
    (hf : ∀ a, (f a).Only Q) : (p.bind f).Only Q := by
  induction p with
  | pure a => exact hf a
  | abort => trivial
  | read tag g next ih => exact fun b => ih b (h b)
  | write tag w next ih => exact ⟨h.1, fun rows => ih rows (h.2 rows)⟩

/-- From the view `v₀` and the held writes `ws` on: whatever later views it finds, the transaction ends with `P`. -/
def Tracks (W : Writes σ ω ι ε) (L : Rely τ σ) (P : α → List (ω × List ι) → σ → Prop) {υ : Type} :
    List (ω × List ι) → σ → Tx υ σ ω ι ε α → Prop
  | ws, v₀, .pure a => P a ws v₀
  | _, _, .abort _ => True
  | ws, v₀, .read _ f next => ∀ v, L.later v₀ v → L.inv v → Tracks W L P ws v (next (f v))
  | ws, v₀, .write _ w next => ∀ v rows v', L.later v₀ v → L.inv v → W.apply w v = .ok (rows, v') →
      Tracks W L P (if rows = [] then ws else ws ++ [(w, rows)]) v' (next rows)

namespace Tracks

variable {υ : Type} {ws : List (ω × List ι)} {v₀ : σ}

variable {p : Tx υ σ ω ι ε α}

omit [DecidableEq ι] in
theorem mono (h : p.Tracks W L P ws v₀) (hPR : ∀ a ws' v, P a ws' v → R a ws' v) : p.Tracks W L R ws v₀ := by
  induction p generalizing ws v₀ with
  | pure a => exact hPR a ws v₀ h
  | abort => trivial
  | read tag g next ih => exact fun v hv hinv => ih _ (h v hv hinv)
  | write tag w next ih => exact fun v rows v' hv hinv happly => ih _ (h v rows v' hv hinv happly)

omit [DecidableEq ι] in
theorem bind {f : α → Tx υ σ ω ι ε β}
    (h : p.Tracks W L P ws v₀) (hf : ∀ a ws' v, P a ws' v → (f a).Tracks W L R ws' v) :
    (p.bind f).Tracks W L R ws v₀ := by
  induction p generalizing ws v₀ with
  | pure a => exact hf a ws v₀ h
  | abort => trivial
  | read tag g next ih => exact fun v hv hinv => ih _ (h v hv hinv)
  | write tag w next ih => exact fun v rows v' hv hinv happly => ih _ (h v rows v' hv hinv happly)

omit [DecidableEq ι] in
theorem of_stable (hlater : ∀ ws v v', K ws v → L.later v v' → L.inv v' → K ws v')
    (hwrite : ∀ tag w rows ws v v', Q tag w → K ws v → L.inv v → W.apply w v = .ok (rows, v') →
      K (if rows = [] then ws else ws ++ [(w, rows)]) v')
    (hp : p.Only Q) (h : K ws v₀) : p.Tracks W L (fun _ => K) ws v₀ := by
  induction p generalizing ws v₀ with
  | pure => exact h
  | abort => trivial
  | read tag g next ih => exact fun v hv hinv => ih _ (hp (g v)) (hlater ws v₀ v h hv hinv)
  | write tag w next ih =>
    intro v rows v' hv hinv happly
    exact ih rows (hp.2 rows) (hwrite tag w rows ws v v' hp.1 (hlater ws v₀ v h hv hinv) hinv happly)

variable {f : υ → τ}

theorem program (hL : L.Sound) (hW : W.Steady L) {G : σ → Prog τ σ (Except ε α) → Prop}
    (herror : ∀ e s, G s (.pure (.error e))) (hidle : ∀ {γ : Type} tag s₀ (act : σ → γ × σ) next,
      (∀ s, L.later s₀ s → L.inv s → (act s).2 = s ∧ G s (next (act s).1)) → G s₀ (.atomic (f tag) act next))
    (hcommit : ∀ a ws v s₀, P a ws v → Holds W L (fun _ _ => True) ws s₀ v →
      G s₀ ((Tx.pure a : Tx τ σ ω ι ε α).runAs W commit ws))
    (hp : p.Tracks W L P ws v₀) (hws : Holds W L (fun _ _ => True) ws s₀ v₀) :
    G s₀ ((p.retag f).runAs W commit ws) := by
  induction p generalizing ws s₀ v₀ with
  | pure a => exact hcommit a ws v₀ s₀ hp hws
  | abort e => exact herror e s₀
  | read tag g next ih =>
    simp only [retag, runAs]
    apply hidle
    intro s hs hinv
    refine ⟨rfl, ?_⟩
    cases hv : applyAll W ws s with
    | error e => exact herror e s
    | ok v =>
      have hinv_v := applyAll_valid hW hinv hv
      exact ih _ (hp v (hws.view s v hs hinv hv) hinv_v) (hws.now hL hW hs hinv hv)
  | write tag w next ih =>
    simp only [retag, runAs]
    apply hidle
    intro s hs hinv
    refine ⟨rfl, ?_⟩
    dsimp only [matched]
    cases hv : applyAll W ws s with
    | error e => exact herror e s
    | ok v =>
      have hinv_v := applyAll_valid hW hinv hv
      have hnow := hws.now hL hW hs hinv hv
      dsimp only
      cases happly : W.apply w v with
      | error e => exact herror e s
      | ok answer =>
        obtain ⟨rows, v'⟩ := answer
        have hnext := hp v rows v' (hws.view s v hs hinv hv) hinv_v happly
        cases rows with
        | nil =>
          rw [hW.nothing happly] at hnext
          exact ih _ hnext hnow
        | cons =>
          exact ih _ hnext (hnow.snoc hW (by simp) hinv hv happly fun _ _ _ => trivial)

/-- The program of such a transaction changes nothing before its commit, which applies its writes to a later state. -/
theorem ensures_from (hL : L.Sound) (hW : W.Steady L) (hsame : ∀ tag s, L.inv s → L.effect (f tag) s s) (hnothing : ∀ ws s, L.inv s → L.effect (commit ws) s s)
    (herror : ∀ e s, Q (.error e) s)
    (hcommit : ∀ a ws v s s', P a ws v → (∀ e ∈ ws, e.2 ≠ []) → L.later b s → L.inv s → L.cond (commit ws) s →
      applyAll W ws s = .ok s' → L.later v s' → L.effect (commit ws) s s' ∧ Q (.ok a) s')
    (hb : L.later b s₀) (hp : p.Tracks W L P ws v₀)
    (hws : Holds W L (fun _ _ => True) ws s₀ v₀) : Prog.Ensures L Q s₀ ((p.retag f).runAs W commit ws) := by
  refine hp.program (G := fun s p => L.later b s → Prog.Ensures L Q s p) hL hW ?_ ?_ ?_ hws hb
  · exact fun e s _ => herror e s
  · intro _ tag s₀ act next hnext hb s hs hinv _
    obtain ⟨hact, hrest⟩ := hnext s hs hinv
    rw [hact]
    exact ⟨hsame tag s hinv, hrest (hL.trans hb hs)⟩
  · intro a ws v s₀ hP hws hb s hs hinv hcond
    dsimp only
    cases happly : applyAll W ws s with
    | error e => exact ⟨hnothing ws s hinv, herror e s⟩
    | ok s' => exact hcommit a ws v s s' hP hws.held (hL.trans hb hs) hinv hcond happly (hws.view s s' hs hinv happly)

theorem ensures (hL : L.Sound) (hW : W.Steady L)
    (hsame : ∀ tag s, L.inv s → L.effect (f tag) s s) (hnothing : ∀ ws s, L.inv s → L.effect (commit ws) s s)
    (herror : ∀ e s, Q (.error e) s)
    (hcommit : ∀ a ws v s s', P a ws v → (∀ e ∈ ws, e.2 ≠ []) → L.inv s → L.cond (commit ws) s →
      applyAll W ws s = .ok s' → L.later v s' → L.effect (commit ws) s s' ∧ Q (.ok a) s') (hp : p.Tracks W L P ws v₀)
    (hws : Holds W L (fun _ _ => True) ws s₀ v₀) : Prog.Ensures L Q s₀ ((p.retag f).runAs W commit ws) :=
  ensures_from hL hW hsame hnothing herror (fun a ws v s s' hP hheld _ => hcommit a ws v s s' hP hheld) (hL.refl s₀) hp
    hws

end Tracks

end Tx

end Rules

/-!
### What a transaction comes to hold

Another way to check a transaction: follow the list of the writes it holds. The rows beside a write are locked, so
what was seen of them is still true at the commit, where the whole list is applied.
-/

section Holdings

variable {τ σ ω ι ε α β : Type} [DecidableEq ι]

/-- From the held writes `ws` on, where its condition allows every statement, the transaction ends with `P`. -/
def Tx.Gathers (W : Writes σ ω ι ε) (C : τ → σ → Prop) (P : α → List (ω × List ι) → Prop) :
    List (ω × List ι) → Tx τ σ ω ι ε α → Prop
  | ws, .pure a => P a ws
  | _, .abort _ => True
  | ws, .read tag f next => ∀ s v, C tag s → applyAll W ws s = .ok v → (next (f v)).Gathers W C P ws
  | ws, .write tag w next => ∀ s v rows v', C tag s → applyAll W ws s = .ok v →
      W.apply w v = .ok (rows, v') →
        (next rows).Gathers W C P (if rows = [] then ws else ws ++ [(w, rows)])

namespace Tx.Gathers

variable {W : Writes σ ω ι ε}

theorem mono {p : Tx τ σ ω ι ε α} {ws : List (ω × List ι)}
    (h : p.Gathers W C P ws) (hPQ : ∀ a ws', P a ws' → Q a ws') : p.Gathers W C Q ws := by
  induction p generalizing ws with
  | pure a => exact hPQ a ws h
  | abort => trivial
  | read tag f next ih => exact fun s v hcond hv => ih _ (h s v hcond hv)
  | write tag w next ih => exact fun s v rows v' hcond hv happly => ih _ (h s v rows v' hcond hv happly)

theorem bind {p : Tx τ σ ω ι ε α} {f : α → Tx τ σ ω ι ε β}
    {ws : List (ω × List ι)} (h : p.Gathers W C P ws) (hf : ∀ a ws', P a ws' → (f a).Gathers W C R ws') :
    (p.bind f).Gathers W C R ws := by
  induction p generalizing ws with
  | pure a => exact hf a ws h
  | abort => trivial
  | read tag g next ih => exact fun s v hcond hv => ih _ (h s v hcond hv)
  | write tag w next ih => exact fun s v rows v' hcond hv happly => ih _ (h s v rows v' hcond hv happly)

/-- What every write of the transaction keeps of the list. -/
theorem of_only
    (hwrite : ∀ tag w rows ws, Q tag w → K ws → K (ws ++ [(w, rows)])) {p : Tx τ σ ω ι ε α} (hp : p.Only Q)
    {ws : List (ω × List ι)} (hws : K ws) : p.Gathers W C (fun _ => K) ws := by
  induction p generalizing ws with
  | pure => exact hws
  | abort => trivial
  | read tag g next ih => exact fun _ v _ _ => ih (g v) (hp (g v)) hws
  | write tag w next ih =>
    intro _ _ rows _ _ _ _
    apply ih rows (hp.2 rows)
    split
    · exact hws
    · exact hwrite tag w rows ws hp.1 hws

theorem of_forall (hP : ∀ a ws, P a ws) (ws : List (ω × List ι)) (p : Tx τ σ ω ι ε α) : p.Gathers W C P ws := by
  induction p generalizing ws with
  | pure a => exact hP a ws
  | abort => trivial
  | read tag g next ih => exact fun _ v _ _ => ih (g v) ws
  | write tag w next ih => exact fun _ _ rows _ _ _ _ => ih rows _

/-- Where nothing is asked of the states, such a transaction is one whose commit has such writes. -/
theorem within (hsame : ∀ tag s, I s → V tag s s)
    (hcommit : ∀ a ws s s', I s → P a ws → applyAll W ws s = .ok s' → V (commit ws) s s')
    {p : Tx τ σ ω ι ε α} {ws : List (ω × List ι)} (h : p.Gathers W (fun _ _ => True) P ws) :
    (p.runAs W commit ws).Within I V := by
  induction p generalizing ws with
  | pure a =>
    intro s hs
    refine ⟨?_, trivial⟩
    dsimp only
    split
    · rename_i s' happly
      exact hcommit a ws s s' hs h happly
    · exact hsame _ s hs
  | abort => trivial
  | read tag f next ih =>
    simp only [runAs]
    intro s hs
    refine ⟨hsame tag s hs, ?_⟩
    dsimp only
    cases hv : applyAll W ws s with
    | error => trivial
    | ok v => exact ih _ (h s v trivial hv)
  | write tag w next ih =>
    simp only [runAs]
    intro s hs
    refine ⟨hsame tag s hs, ?_⟩
    dsimp only [matched]
    cases hv : applyAll W ws s with
    | error => trivial
    | ok v =>
      dsimp only
      cases happly : W.apply w v with
      | error => trivial
      | ok answer =>
        obtain ⟨rows, v'⟩ := answer
        have hnext := h s v rows v' trivial hv happly
        cases rows with
        | nil | cons => exact ih _ hnext

theorem narrow (hC : ∀ tag s, C' tag s → C tag s) {p : Tx τ σ ω ι ε α} {ws : List (ω × List ι)}
    (h : p.Gathers W C P ws) : p.Gathers W C' P ws := by
  induction p generalizing ws with
  | pure => exact h
  | abort => trivial
  | read tag f next ih => exact fun s v hcond hv => ih _ (h s v (hC tag s hcond) hv)
  | write tag w next ih => exact fun s v rows v' hcond hv happly => ih _ (h s v rows v' (hC tag s hcond) hv happly)

theorem retag {υ : Type} {f : υ → τ} {p : Tx υ σ ω ι ε α} {ws : List (ω × List ι)}
    (h : p.Gathers W (fun tag s => C (f tag) s) P ws) : (p.retag f).Gathers W C P ws := by
  induction p generalizing ws with
  | pure => exact h
  | abort => trivial
  | read tag g next ih => exact fun s v hcond hv => ih _ (h s v hcond hv)
  | write tag w next ih => exact fun s v rows v' hcond hv happly => ih _ (h s v rows v' hcond hv happly)

/-- The program of such a transaction does what its commit does with such writes, and nothing before. -/
theorem guards {L : Rely τ σ} (hsame : ∀ tag s, L.inv s → L.cond tag s → L.effect tag s s)
    (hcommit : ∀ a ws s s', L.inv s → L.cond (commit ws) s → P a ws → applyAll W ws s = .ok s' →
      L.effect (commit ws) s s')
    {p : Tx τ σ ω ι ε α} {ws : List (ω × List ι)} (h : p.Gathers W (fun tag s => L.inv s ∧ L.cond tag s) P ws) (s₀ : σ) :
    Prog.Guards L s₀ (p.runAs W commit ws) := by
  induction p generalizing ws s₀ with
  | pure a =>
    intro s _ hinv hcond
    refine ⟨?_, trivial⟩
    dsimp only
    split
    · rename_i s' happly
      exact hcommit a ws s s' hinv hcond h happly
    · exact hsame _ s hinv hcond
  | abort => trivial
  | read tag f next ih =>
    simp only [runAs]
    intro s _ hinv hcond
    refine ⟨hsame tag s hinv hcond, ?_⟩
    dsimp only
    cases hv : applyAll W ws s with
    | error => trivial
    | ok v => exact ih _ (h s v ⟨hinv, hcond⟩ hv) _
  | write tag w next ih =>
    simp only [runAs]
    intro s _ hinv hcond
    refine ⟨hsame tag s hinv hcond, ?_⟩
    dsimp only [matched]
    cases hv : applyAll W ws s with
    | error => trivial
    | ok v =>
      dsimp only
      cases happly : W.apply w v with
      | error => trivial
      | ok answer =>
        obtain ⟨rows, v'⟩ := answer
        have hnext := h s v rows v' ⟨hinv, hcond⟩ hv happly
        cases rows with
        | nil | cons => exact ih _ hnext _

end Tx.Gathers

end Holdings

section Parts

variable {τ σ ς ω ϖ ι κ ε α : Type}

/-- How a part of a state is read and written. -/
structure Part (σ ς ω ϖ ι κ : Type) where
  get : ς → σ
  write : ω → ϖ
  row? : κ → Option ι

/-- The transaction as one of the whole. -/
def Tx.inPart (part : Part σ ς ω ϖ ι κ) : Tx τ σ ω ι ε α → Tx τ ς ϖ κ ε α
  | .pure a => .pure a
  | .abort e => .abort e
  | .read tag f next => .read tag (fun s => f (part.get s)) fun b => (next b).inPart part
  | .write tag w next => .write tag (part.write w) fun rows => (next (rows.filterMap part.row?)).inPart part

theorem Tx.Only.inPart {part : Part σ ς ω ϖ ι κ}
    (hQR : ∀ tag w, Q tag w → R tag (part.write w)) {p : Tx τ σ ω ι ε α} (hp : p.Only Q) :
    (p.inPart part).Only R := by
  induction p with
  | pure | abort => trivial
  | read tag f next ih => exact fun b => ih b (hp b)
  | write tag w next ih => exact ⟨hQR tag w hp.1, fun rows => ih _ (hp.2 _)⟩

end Parts

end Interleaving
