/-
Purpose: A register that only a write no older than its mark overwrites.
-/
import WhatsappCrm.Lib.Table

namespace Register

variable {ε σ θ : Type} [LinearOrder θ] {stamp : ε → θ} {applied : ε → Bool} {mark : σ → Option θ} {write : σ → ε → σ}

def UpTo (stamp : ε → θ) (first : Option θ) (ledger : List ε) (x : θ) : Prop :=
  (∀ m ∈ first, m ≤ x) ∧ ∀ b ∈ ledger, stamp b ≤ x

theorem UpTo.mono {x y : θ} (h : UpTo stamp first ledger x) (hxy : x ≤ y) : UpTo stamp first ledger y :=
  ⟨fun m hm => le_trans (h.1 m hm) hxy, fun b hb => le_trans (h.2 b hb) hxy⟩

theorem upTo_concat : UpTo stamp first (ledger ++ [a]) x ↔ UpTo stamp first ledger x ∧ stamp a ≤ x := by
  simp [UpTo, or_imp, forall_and, and_assoc]

/-- The ledger lists every write that was tried; of an applied one, nothing before it is newer. -/
structure Replays (stamp : ε → θ) (applied : ε → Bool) (mark : σ → Option θ) (write : σ → ε → σ) (start : σ)
    (ledger : List ε) (state : σ) : Prop where
  fresh : ∀ before a after, ledger = before ++ a :: after →
    (applied a = true ↔ UpTo stamp (mark start) before (stamp a))
  latest : ∀ x, (∀ m ∈ mark state, m ≤ x) ↔ UpTo stamp (mark start) ledger x
  replay : state = (ledger.filter applied).foldl write start

theorem Replays.concat (hmark : ∀ s a, mark (write s a) = some (stamp a))
    (h : Replays stamp applied mark write start ledger state)
    (ha : applied a = true ↔ ∀ m ∈ mark state, m ≤ stamp a) :
    Replays stamp applied mark write start (ledger ++ [a]) (if applied a then write state a else state) := by
  have hfresh := ha.trans (h.latest _)
  refine ⟨Table.forall_before_concat h.fresh hfresh, fun x => ?_, ?_⟩
  · rw [upTo_concat]
    by_cases happ : applied a = true
    · rw [if_pos happ, hmark]
      simp only [Option.mem_some, forall_eq']
      exact ⟨fun hx => ⟨(hfresh.mp happ).mono hx, hx⟩, And.right⟩
    · rw [if_neg happ, h.latest]
      refine ⟨fun hx => ⟨hx, ?_⟩, And.left⟩
      -- Whatever bounds the mark bounds the stale write, or it would not have been stale.
      by_contra hle
      exact happ (hfresh.mpr (hx.mono (le_of_not_ge hle)))
  · rw [List.filter_append, List.foldl_append, ← h.replay]
    cases happ : applied a <;> simp [happ]

end Register
