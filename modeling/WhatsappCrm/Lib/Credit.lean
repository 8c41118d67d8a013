/-
Purpose: At most as much is spent as was granted.
-/
import WhatsappCrm.Lib.Interleaving
import Mathlib.Algebra.BigOperators.Group.List.Basic
import Mathlib.Algebra.GroupWithZero.Nat
import Mathlib.Data.List.Forall2

namespace Interleaving

variable {τ σ κ α β : Type}

/-- The two counts. -/
structure Ledger (σ : Type) where
  granted : σ → Nat
  spent : σ → Nat

/-- A statement that takes the state from `s` to `s'` takes its program's credit from `n` to `n'`. -/
def Ledger.Settles (L : Ledger σ) (s s' : σ) (n n' : Nat) : Prop :=
  L.spent s' + n' + L.granted s ≤ L.spent s + n + L.granted s'

def Ledger.Idle (L : Ledger σ) (s s' : σ) : Prop := L.spent s' ≤ L.spent s ∧ L.granted s ≤ L.granted s'

theorem Ledger.Idle.refl {L : Ledger σ} (s : σ) : L.Idle s s := ⟨Nat.le_refl _, Nat.le_refl _⟩

theorem Ledger.Idle.settles {L : Ledger σ} (h : L.Idle s s') (n : Nat) : L.Settles s s' n n := by
  obtain ⟨hspent, hgranted⟩ := h
  unfold Ledger.Settles
  omega

/-- From a credit of `n` on, the program can pay for every statement it comes to in a state that satisfies `I`. -/
def Prog.Affords (I : σ → Prop) (L : Ledger σ) : Nat → Prog τ σ α → Prop
  | _, .pure _ => True
  | n, .atomic _ act next => ∀ s, I s → ∃ n', L.Settles s (act s).2 n n' ∧ (next (act s).1).Affords I L n'

section Programs

/-- A program of idle statements hands its credit on. -/
theorem Prog.Within.affords_bind {p : Prog τ σ α} {f : α → Prog τ σ β}
    (h : p.Within I fun _ s s' => L.Idle s s') (hf : ∀ a, (f a).Affords I L n) : (p.bind f).Affords I L n := by
  induction p with
  | pure a => exact hf a
  | atomic tag act next ih =>
    intro s hs
    obtain ⟨hidle, hnext⟩ := h s hs
    exact ⟨n, hidle.settles n, ih _ hnext⟩

theorem Prog.Within.affords {p : Prog τ σ α} (h : p.Within I fun _ s s' => L.Idle s s') (n : Nat) : p.Affords I L n := by
  induction p with
  | pure => trivial
  | atomic tag act next ih =>
    intro s hs
    obtain ⟨hidle, hnext⟩ := h s hs
    exact ⟨n, hidle.settles n, ih _ hnext⟩

theorem Prog.Affords.bind {p : Prog τ σ α} {f : α → Prog τ σ β} (h : p.Affords I L n)
    (hf : ∀ a n', (f a).Affords I L n') : (p.bind f).Affords I L n := by
  induction p generalizing n with
  | pure a => exact hf a n
  | atomic tag act next ih =>
    intro s hs
    obtain ⟨n', hsettles, hnext⟩ := h s hs
    exact ⟨n', hsettles, ih _ hnext⟩

theorem Prog.Affords.stmt {act : σ → α × σ}
    (h : ∀ s, I s → ∃ n', L.Settles s (act s).2 n n') : (Prog.stmt tag act).Affords I L n := by
  intro s hs
  obtain ⟨n', hsettles⟩ := h s hs
  exact ⟨n', hsettles, trivial⟩

end Programs

def Sys.Solvent (I : σ → Prop) (L : Ledger σ) (s : Sys τ σ κ α) : Prop :=
  ∃ credits : List Nat, List.Forall₂ (fun e n => e.2.Affords I L n) s.calls credits ∧
    L.spent s.db + credits.sum ≤ L.granted s.db

section Runs

variable {cond : Sys τ σ κ α → κ → τ → Prop}

theorem Sys.Solvent.spent_le {s : Sys τ σ κ α} (h : s.Solvent I L) : L.spent s.db ≤ L.granted s.db := by
  obtain ⟨credits, _, hsum⟩ := h
  omega

theorem forall₂_set {ρ : Type 1} {ι : Type} {R : ρ → ι → Prop} {as : List ρ} {bs : List ι}
    (h : List.Forall₂ R as bs) {a : ρ} (ha : as[i]? = some a) :
    ∃ b, bs[i]? = some b ∧ R a b ∧ ∀ a' b', R a' b' → List.Forall₂ R (as.set i a') (bs.set i b') := by
  induction h generalizing i with
  | nil => simp at ha
  | cons hr hrest ih =>
    cases i with
    | zero =>
      simp only [List.getElem?_cons_zero, Option.some.injEq] at ha
      subst ha
      exact ⟨_, rfl, hr, fun a' b' hb' => .cons hb' hrest⟩
    | succ =>
      obtain ⟨b, hb, hab, hset⟩ := ih ha
      exact ⟨b, by simpa using hb, hab, fun a' b' hb' => .cons hr (hset a' b' hb')⟩

theorem sum_set_add {M : Type} [AddCommMonoid M] {ns : List M} {i : Nat} {n : M} (h : ns[i]? = some n) (n' : M) :
    (ns.set i n').sum + n = ns.sum + n' := by
  induction ns generalizing i with
  | nil => simp at h
  | cons m ns ih =>
    cases i with
    | zero =>
      simp only [List.getElem?_cons_zero, Option.some.injEq] at h
      subst h
      simp only [List.set_cons_zero, List.sum_cons]
      rw [add_right_comm, add_comm n', add_right_comm]
    | succ =>
      simp only [List.set_cons_succ, List.sum_cons, add_assoc, ih h]

theorem countP_set_add {ρ : Type 1} {as : List ρ} {a : ρ} (h : as[i]? = some a) (p : ρ → Bool) (b : ρ) :
    (as.set i b).countP p + (p a).toNat = as.countP p + (p b).toNat := by
  induction as generalizing i with
  | nil => simp at h
  | cons c as ih =>
    cases i with
    | zero =>
      simp only [List.getElem?_cons_zero, Option.some.injEq] at h
      subst h
      simp only [List.set_cons_zero, List.countP_cons]
      cases p c <;> cases p b <;> simp
    | succ =>
      have hrest := ih h
      simp only [List.set_cons_succ, List.countP_cons]
      omega

theorem Step.solvent (hprog : ∀ c, (prog c).Affords I L 0) {s s' : Sys τ σ κ α} (hI : I s.db)
    (h : s.Solvent I L) (hstep : Step prog cond s s') : s'.Solvent I L := by
  obtain ⟨credits, hcalls, hsum⟩ := h
  cases hstep with
  | spawn _ c =>
    refine ⟨credits ++ [0], List.rel_append hcalls (.cons (hprog c) .nil), ?_⟩
    simpa [Sys.spawn] using hsum
  | exec _ i c tag act next hcall _ =>
    obtain ⟨n, hn, haffords, hset⟩ := forall₂_set hcalls hcall
    obtain ⟨n', hsettles, hnext⟩ := haffords s.db hI
    refine ⟨credits.set i n', hset _ n' hnext, ?_⟩
    have hcredits := sum_set_add hn n'
    simp only [Ledger.Settles] at hsettles
    simp only [Sys.exec]
    omega

/-- The credit rule: calls that start with none never spend more than was granted. -/
theorem Reachable.solvent (hprog : ∀ c, (prog c).Affords I L 0) {db : σ} (hdb : L.spent db ≤ L.granted db)
    (hI : ∀ s : Sys τ σ κ α, Reachable prog cond (.idle db) s → I s.db) {s : Sys τ σ κ α}
    (hr : Reachable prog cond (.idle db) s) : s.Solvent I L := by
  induction hr with
  | refl => exact ⟨[], .nil, by simpa [Sys.idle] using hdb⟩
  | tail hr hstep ih => exact hstep.solvent hprog (hI _ hr) ih

end Runs

end Interleaving
