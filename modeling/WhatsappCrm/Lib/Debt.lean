/-
Purpose: Whatever is recorded is settled, once: two multisets of the shared state, and a debt for each program in
  progress.
-/
import WhatsappCrm.Lib.Credit
import WhatsappCrm.Lib.Transaction
import Mathlib.Algebra.Order.BigOperators.Group.List
import Mathlib.Algebra.Order.Group.Nat
import Mathlib.Algebra.Order.Group.Multiset
import Mathlib.Tactic.Abel

namespace Interleaving

variable {τ σ κ α β δ : Type}

structure Accounts (σ δ : Type) where
  recorded : σ → Multiset δ
  settled : σ → Multiset δ

/-- A statement that takes the state from `s` to `s'` takes its program's debt from `owed` to `owed'`. -/
def Accounts.Balances (A : Accounts σ δ) (s s' : σ) (owed owed' : Multiset δ) : Prop :=
  A.recorded s' + A.settled s + owed = A.recorded s + A.settled s' + owed'

/-- Neither multiset changes. -/
def Accounts.Same (A : Accounts σ δ) (s s' : σ) : Prop :=
  A.recorded s' = A.recorded s ∧ A.settled s' = A.settled s

theorem Accounts.Same.refl {A : Accounts σ δ} (s : σ) : A.Same s s := ⟨rfl, rfl⟩

theorem Accounts.Same.balances {A : Accounts σ δ} (h : A.Same s s') (owed : Multiset δ) : A.Balances s s' owed owed := by
  rw [Balances, h.1, h.2]

/-- From the state `s₀` on, with a debt of `owed`, every statement keeps account; the program ends with `Q`. -/
def Prog.Owes (L : Rely τ σ) (A : Accounts σ δ) (Q : α → σ → Multiset δ → Prop) : σ → Multiset δ → Prog τ σ α → Prop
  | s₀, owed, .pure a => Q a s₀ owed
  | s₀, owed, .atomic tag act next => ∀ s, L.later s₀ s → L.inv s → L.cond tag s →
      L.effect tag s (act s).2 ∧
        ∃ owed', A.Balances s (act s).2 owed owed' ∧ Owes L A Q (act s).2 owed' (next (act s).1)

namespace Prog.Owes

variable {L : Rely τ σ} {A : Accounts σ δ} {Q : α → σ → Multiset δ → Prop} {p : Prog τ σ α} {s₀ : σ} {owed : Multiset δ}

@[simp] theorem of_pure : Owes L A Q s₀ owed (.pure a) ↔ Q a s₀ owed := Iff.rfl

theorem guards (h : Owes L A Q s₀ owed p) : Guards L s₀ p := by
  induction p generalizing s₀ owed with
  | pure => trivial
  | atomic tag act next ih =>
    intro s hs hinv hcond
    obtain ⟨heffect, owed', _, hnext⟩ := h s hs hinv hcond
    exact ⟨heffect, ih _ hnext⟩

theorem later (hL : L.Sound) (hQ : ∀ a s s' o, L.later s s' → Q a s o → Q a s' o)
    (h : Owes L A Q s₀ owed p) (hlater : L.later s₀ s₁) : Owes L A Q s₁ owed p := by
  cases p with
  | pure a => exact hQ a s₀ s₁ owed hlater h
  | atomic => exact fun s hs => h s (hL.trans hlater hs)

theorem bind (hL : L.Sound) (h : Owes L A Q s₀ owed p)
    (hf : ∀ a s o, L.later s₀ s → Q a s o → Owes L A R s o (f a)) : Owes L A R s₀ owed (p.bind f) := by
  induction p generalizing s₀ owed with
  | pure a => exact hf a s₀ owed (hL.refl s₀) h
  | atomic tag act next ih =>
    intro s hs hinv hcond
    obtain ⟨heffect, owed', hbalance, hnext⟩ := h s hs hinv hcond
    refine ⟨heffect, owed', hbalance, ih _ hnext fun a s' o hs' => ?_⟩
    have hstep := (hL.keeps hinv hcond heffect).2
    exact hf a s' o (hL.trans hs (hL.trans hstep hs'))

theorem stmt (h : ∀ s, L.later s₀ s → L.inv s → L.cond tag s → L.effect tag s (act s).2 ∧
      ∃ owed', A.Balances s (act s).2 owed owed' ∧ Q (act s).1 (act s).2 owed') :
    Owes L A Q s₀ owed (.stmt tag act) :=
  fun s hs hinv hcond => h s hs hinv hcond

theorem read (heffect : ∀ s, L.inv s → L.cond tag s → L.effect tag s s)
    (hQ : ∀ s, L.later s₀ s → L.inv s → Q (f s) s owed) : Owes L A Q s₀ owed (.read tag f) :=
  stmt fun s hs hinv hcond => ⟨heffect s hinv hcond, owed, (Accounts.Same.refl s).balances owed, hQ s hs hinv⟩

end Prog.Owes

section Transactions

variable {ω ι ε υ : Type} [DecidableEq ι] {L : Rely τ σ} {A : Accounts σ δ}

theorem Tx.Tracks.owes (hL : L.Sound) (hW : W.Steady L) (hsame : ∀ tag s, L.inv s → L.effect (f tag) s s)
    (hnothing : ∀ ws s, L.inv s → L.effect (commit ws) s s) {Q : Except ε α → σ → Multiset δ → Prop}
    (herror : ∀ e s, Q (.error e) s 0)
    (hcommit : ∀ a ws v s s', P a ws v → (∀ e ∈ ws, e.2 ≠ []) → L.inv s → L.cond (commit ws) s →
      applyAll W ws s = .ok s' → L.later v s' → L.effect (commit ws) s s' ∧
        ∃ owed, A.Balances s s' 0 owed ∧ Q (.ok a) s' owed)
    {p : Tx υ σ ω ι ε α} {s₀ : σ} (hp : p.Tracks W L P ws v₀) (hws : Holds W L (fun _ _ => True) ws s₀ v₀) :
    Prog.Owes L A Q s₀ 0 ((p.retag f).runAs W commit ws) := by
  have hbalance : ∀ s, A.Balances s s 0 0 := fun s => (Accounts.Same.refl s).balances 0
  refine hp.program (G := fun s p => Prog.Owes L A Q s 0 p) hL hW herror ?_ ?_ hws
  · intro _ tag s₀ act next hnext s hs hinv _
    obtain ⟨hact, hrest⟩ := hnext s hs hinv
    rw [hact]
    exact ⟨hsame tag s hinv, 0, hbalance s, hrest⟩
  · intro a ws v s₀ hP hws s hs hinv hcond
    dsimp only
    cases happly : applyAll W ws s with
    | error e => exact ⟨hnothing ws s hinv, 0, hbalance s, herror e s⟩
    | ok s' => exact hcommit a ws v s s' hP hws.held hinv hcond happly (hws.view s s' hs hinv happly)

end Transactions

structure Sys.Honest (L : Rely τ σ) (A : Accounts σ δ) (Q : κ → α → σ → Multiset δ → Prop) (s : Sys τ σ κ α) : Prop where
  inv : L.inv s.db
  owed : ∃ owed : List (Multiset δ),
    List.Forall₂ (fun e o => Prog.Owes L A (Q e.1) s.db o e.2) s.calls owed ∧
      A.recorded s.db = A.settled s.db + owed.sum

section Runs

variable {L : Rely τ σ} {A : Accounts σ δ} {Q : κ → α → σ → Multiset δ → Prop} {cond : Sys τ σ κ α → κ → τ → Prop}

theorem Step.honest (hL : L.Sound) (hprog : ∀ c db, Prog.Owes L A (Q c) db 0 (prog c))
    (hQ : ∀ c a s s' o, L.later s s' → Q c a s o → Q c a s' o)
    (hcond : ∀ (s : Sys τ σ κ α) c tag, cond s c tag → L.cond tag s.db) {s : Sys τ σ κ α}
    (h : s.Honest L A Q) (hstep : Step prog cond s s') : s'.Honest L A Q := by
  obtain ⟨owed, hcalls, hsum⟩ := h.owed
  cases hstep with
  | spawn _ c =>
    refine ⟨h.inv, owed ++ [0], List.rel_append hcalls (.cons (hprog c _) .nil), ?_⟩
    simpa [Sys.spawn] using hsum
  | exec _ i c tag act next hcall hallowed =>
    have htag := hcond s c tag hallowed
    obtain ⟨o, ho, howes, hset⟩ := forall₂_set hcalls hcall
    obtain ⟨heffect, o', hbalance, hnext⟩ := howes s.db (hL.refl _) h.inv htag
    obtain ⟨hinv, hlater⟩ := hL.keeps h.inv htag heffect
    refine ⟨hinv, owed.set i o', ?_, ?_⟩
    · -- the other calls remember the state before the step; it is earlier than the present one
      have hcalls' : List.Forall₂ (fun e o => Prog.Owes L A (Q e.1) (act s.db).2 o e.2) s.calls owed :=
        hcalls.imp fun e o he => he.later hL (hQ e.1) hlater
      obtain ⟨_, _, _, hset'⟩ := forall₂_set hcalls' hcall
      exact hset' _ o' hnext
    · have hsums := sum_set_add ho o'
      apply add_right_cancel (b := A.settled s.db + o)
      calc A.recorded (act s.db).2 + (A.settled s.db + o)
          = A.recorded s.db + A.settled (act s.db).2 + o' := by rw [← add_assoc, hbalance]
        _ = A.settled (act s.db).2 + (A.settled s.db + (owed.sum + o')) := by
            rw [hsum]
            abel
        _ = A.settled (act s.db).2 + (owed.set i o').sum + (A.settled s.db + o) := by
            rw [← hsums]
            abel

theorem forall₂_forall_right {ρ : Type 1} {ι : Type} {R : ρ → ι → Prop} {P : ι → Prop} {as : List ρ} {bs : List ι}
    (h : List.Forall₂ R as bs) (hP : ∀ a ∈ as, ∀ b, R a b → P b) : ∀ b ∈ bs, P b := by
  induction h with
  | nil => simp
  | cons hr _ ih =>
    intro b hb
    rcases List.mem_cons.mp hb with rfl | hb
    · exact hP _ List.mem_cons_self _ hr
    · exact ih (fun a ha => hP a (List.mem_cons_of_mem _ ha)) b hb

/-- The account rule: calls that start without a debt settle, all together, what they record. -/
theorem Reachable.honest (hL : L.Sound) (hprog : ∀ c db, Prog.Owes L A (Q c) db 0 (prog c))
    (hQ : ∀ c a s s' o, L.later s s' → Q c a s o → Q c a s' o)
    (hcond : ∀ (s : Sys τ σ κ α) c tag, cond s c tag → L.cond tag s.db) (hinv : L.inv db)
    (hdb : A.recorded db = A.settled db) (hr : Reachable prog cond (.idle db) s) : s.Honest L A Q := by
  induction hr with
  | refl => exact ⟨hinv, [], .nil, by simpa [Sys.idle] using hdb⟩
  | tail hr hstep ih => exact hstep.honest hL hprog hQ hcond ih

end Runs

/-- What the next statement of a program weighs. -/
def Prog.due (v : τ → Nat) (p : Prog τ σ α) : Nat := (p.next?.map v).getD 0

@[simp] theorem Prog.due_pure (v : τ → Nat) (a : α) : (Prog.pure a : Prog τ σ α).due v = 0 := rfl

@[simp] theorem Prog.due_atomic (v : τ → Nat) (tag : τ) (act : σ → γ × σ) (next : γ → Prog τ σ α) :
    (Prog.atomic tag act next).due v = v tag := rfl

/-- A count that each statement lowers by its own weight and raises by that of its call's next statement is what the
    next statements of all calls weigh. -/
theorem Reachable.due {cond : Sys τ σ κ α → κ → τ → Prop} {g : σ → Nat}
    (hprog : ∀ c, (prog c).Follows (fun _ => True) fun tag s q s' => v tag ≤ g s → g s' + v tag = g s + q.due v)
    (hstart : ∀ c, (prog c).due v = 0) (hdb : g db = 0)
    (hr : Reachable prog cond (.idle db) s) : g s.db = (s.calls.map fun e => e.2.due v).sum := by
  induction hr with
  | refl => simpa [Sys.idle] using hdb
  | @tail t _ hr hstep ih =>
    have hfollows := Reachable.follows hprog (fun _ _ => trivial) hr
    cases hstep with
    | spawn _ c => simpa [Sys.spawn, hstart c] using ih
    | exec _ i c tag act next hcall =>
      have hweights : (t.calls.map fun e => e.2.due v)[i]? = some (v tag) := by simp [hcall]
      have hsum := sum_set_add hweights ((next (act t.db).1).due v)
      have hle : v tag ≤ g t.db := by
        rw [ih]
        exact List.le_sum_of_mem (List.mem_of_getElem? hweights)
      have hcount := (hfollows.exec_spec trivial hcall).1 hle
      simp only [Sys.exec, List.map_set]
      omega

end Interleaving
