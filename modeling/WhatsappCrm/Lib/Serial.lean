/-
Purpose: Transactions that hold a row nobody else can have while they write have the outcome of running one after another.
-/
import WhatsappCrm.Lib.Transaction

namespace Interleaving

variable {τ σ κ α ε : Type}

/-- What the calls do alone, what they keep, their preorder, their condition, and the errors they may answer. -/
structure SerialRules (τ σ κ ε : Type) where
  inv : σ → Prop
  later : σ → σ → Prop
  cond : τ → σ → Prop
  refusal : ε → Prop
  body : κ → σ → Option σ

structure SerialRules.Sound (S : SerialRules τ σ κ ε) : Prop where
  refl : ∀ s, S.later s s
  trans : ∀ {s₁ s₂ s₃}, S.later s₁ s₂ → S.later s₂ s₃ → S.later s₁ s₃
  keeps : ∀ {c s s'}, S.inv s → S.body c s = some s' → S.inv s' ∧ S.later s s'

variable {S : SerialRules τ σ κ ε}

/-- The turn has passed on, or nothing has changed. -/
def Since (turn : σ → Nat) (s s' : σ) : Prop := turn s < turn s' ∨ s' = s

theorem Since.trans (h : Since turn s₁ s₂) (h' : Since turn s₂ s₃) : Since turn s₁ s₃ := by
  rcases h with h | rfl
  · rcases h' with h' | rfl
    · exact .inl (Nat.lt_trans h h')
    · exact .inl h
  · exact h'

/-- From `b` on, a statement changes nothing, or it is the last one and does all that the call does alone. -/
def Prog.Serial (S : SerialRules τ σ κ ε) (c : κ) : σ → Prog τ σ (Except ε α) → Prop
  | _, .pure _ => True
  | b, .atomic tag act next => ∀ s, S.inv s → S.later b s → S.cond tag s →
    ((act s).2 = s ∧ (∀ r, next (act s).1 = .pure r → ∃ e, r = .error e ∧ S.refusal e) ∧ Serial S c s (next (act s).1)) ∨
      ∃ a, next (act s).1 = .pure (.ok a) ∧ S.body c s = some (act s).2

/-- The call, when the program has answered without an error. -/
def succeeded (e : κ × Prog τ σ (Except ε α)) : Option κ :=
  match e.2 with
  | .pure (.ok _) => some e.1
  | _ => none

/-- The calls that have answered without an error. -/
def Sys.committed (s : Sys τ σ κ (Except ε α)) : List κ := s.calls.filterMap succeeded

theorem filterMap_set_perm {β : Type 1} {δ : Type} {f : β → Option δ} {l : List β} {x y : β} (h : l[i]? = some x)
    (hx : f x = none) : (f y = none → (l.set i y).filterMap f = l.filterMap f) ∧
      ∀ d, f y = some d → ((l.set i y).filterMap f).Perm (d :: l.filterMap f) := by
  obtain ⟨hlength, rfl⟩ := List.getElem?_eq_some_iff.mp h
  obtain ⟨l₁, l₂, hl, -, hset⟩ := List.exists_of_set hlength
  rw [hset]
  generalize l[i] = x at hl hx
  subst hl
  constructor
  · intro hy
    simp [hx, hy]
  · intro d hy
    simp only [List.filterMap_append, List.filterMap_cons, hx, hy]
    exact List.perm_middle

theorem Prog.Serial.later (hS : S.Sound) {c : κ} {p : Prog τ σ (Except ε α)} (h : p.Serial S c b)
    (hb : S.later b b') : p.Serial S c b' := by
  cases p with
  | pure => trivial
  | atomic => exact fun s hinv hs => h s hinv (hS.trans hb hs)

structure Sys.Serial (S : SerialRules τ σ κ ε) (s : Sys τ σ κ (Except ε α)) : Prop where
  inv : S.inv s.db
  calls : ∀ e ∈ s.calls, e.2.Serial S e.1 s.db
  refusals : ∀ e ∈ s.calls, ∀ x, e.2 = .pure (.error x) → S.refusal x

section Runs

variable {cond : Sys τ σ κ (Except ε α) → κ → τ → Prop}

/-- A step changes nothing and commits nothing, or one more call has done all that it does alone. -/
theorem Step.serial (hS : S.Sound) (hprog : ∀ c b, (prog c).Serial S c b) (hstart : ∀ c r, prog c ≠ .pure r)
    (hcond : ∀ s c tag, cond s c tag → S.cond tag s.db) {s s' : Sys τ σ κ (Except ε α)} (hs : s.Serial S)
    (hstep : Step prog cond s s') : s'.Serial S ∧ (s'.db = s.db ∧ s'.committed = s.committed ∨
      ∃ c, S.body c s.db = some s'.db ∧ s'.committed.Perm (c :: s.committed)) := by
  cases hstep with
  | spawn _ c =>
    have hopen : succeeded (c, prog c) = none := by
      unfold succeeded
      split
      · rename_i hdone
        exact absurd hdone (hstart c _)
      · rfl
    refine ⟨⟨hs.inv, fun e he => ?_, fun e he x hx => ?_⟩, .inl ⟨rfl, by simp [Sys.committed, Sys.spawn, hopen]⟩⟩
    · rcases List.mem_append.mp he with he | he
      · exact hs.calls e he
      · rw [List.mem_singleton.mp he]
        exact hprog c _
    · rcases List.mem_append.mp he with he | he
      · exact hs.refusals e he x hx
      · rw [List.mem_singleton.mp he] at hx
        exact absurd hx (hstart c _)
  | exec _ i c tag act next hcall hallowed =>
    have hrunning : succeeded (c, Prog.atomic tag act next) = none := rfl
    have hall := hcond s c tag hallowed
    rcases hs.calls _ (List.mem_of_getElem? hcall) s.db hs.inv (hS.refl _) hall with ⟨hsame, hopen, hnext⟩ | ⟨a, hdone, hbody⟩
    · have hdb : (s.exec i c act next).db = s.db := hsame
      have hnone : succeeded (c, next (act s.db).1) = none := by
        unfold succeeded
        split
        · rename_i hdone
          obtain ⟨e, heq, -⟩ := hopen _ hdone
          cases heq
        · rfl
      refine ⟨⟨hdb ▸ hs.inv, fun e he => ?_, fun e he x hx => ?_⟩, .inl ⟨hdb, (filterMap_set_perm hcall hrunning).1 hnone⟩⟩
      · rw [hdb]
        rcases List.mem_or_eq_of_mem_set he with he | rfl
        · exact hs.calls e he
        · exact hnext
      · rcases List.mem_or_eq_of_mem_set he with he | rfl
        · exact hs.refusals e he x hx
        · obtain ⟨e, heq, hrefusal⟩ := hopen _ hx
          cases heq
          exact hrefusal
    · obtain ⟨hinv, hlater⟩ := hS.keeps hs.inv hbody
      refine ⟨⟨hinv, fun e he => ?_, fun e he x hx => ?_⟩, .inr ⟨c, hbody, ?_⟩⟩
      · rcases List.mem_or_eq_of_mem_set he with he | rfl
        · exact (hs.calls e he).later hS hlater
        · simp only [hdone]
          trivial
      · rcases List.mem_or_eq_of_mem_set he with he | rfl
        · exact hs.refusals e he x hx
        · simp [hdone] at hx
      · apply (filterMap_set_perm hcall hrunning).2
        simp [succeeded, hdone]

/-- Every run leaves what the calls that it committed leave, one after another in some order. -/
theorem Reachable.serial (hS : S.Sound) (hprog : ∀ c b, (prog c).Serial S c b) (hstart : ∀ c r, prog c ≠ .pure r)
    (hcond : ∀ s c tag, cond s c tag → S.cond tag s.db) (hdb : S.inv db)
    (hr : Reachable prog cond (.idle db) s) : s.Serial S ∧
      ∃ order : List κ, order.Perm s.committed ∧ order.foldlM (fun t c => S.body c t) db = some s.db := by
  induction hr with
  | refl => exact ⟨⟨hdb, by simp [Sys.idle], by simp [Sys.idle]⟩, [], .nil, rfl⟩
  | tail _ hstep ih =>
    obtain ⟨hserial, order, hperm, hfold⟩ := ih
    obtain ⟨hnext, ⟨hsame, hcommitted⟩ | ⟨c, hbody, hcommitted⟩⟩ := hstep.serial hS hprog hstart hcond hserial
    · exact ⟨hnext, order, hcommitted ▸ hperm, hsame ▸ hfold⟩
    · refine ⟨hnext, order ++ [c], ?_, ?_⟩
      · exact (List.perm_append_singleton c order).trans ((hperm.cons c).trans hcommitted.symm)
      · simp [List.foldlM_append, hfold, hbody]

end Runs

section Lock

variable {ω ι : Type} [DecidableEq ι] {commit : List (ω × List ι) → τ} {c : κ}

theorem Tx.runAs_ended {p : Tx τ σ ω ι ε α}
    (hrefusal : ∀ e, p.exec W v = .error e → S.refusal e) (r : Except ε α) (h : p.runAs W commit ws = .pure r) :
    ∃ e, r = .error e ∧ S.refusal e := by
  cases p with
  | abort e =>
    cases h
    exact ⟨e, rfl, hrefusal e rfl⟩
  | pure | read | write => simp [Tx.runAs] at h

/-- While nobody else can have what a transaction holds, it sees the state it began in or fails: it has the outcome of
    running alone. -/
theorem Tx.runAs_serial (hnothing : ∀ {w s s'}, W.apply w s = .ok ([], s') → s' = s) (hconflict : S.refusal W.conflict)
    {p : Tx τ σ ω ι ε α}
    (hheld : ∀ s, S.inv s → S.later b s → s = b ∨ ∀ ws', applyAll W (ws ++ ws') s = .error W.conflict)
    (hv : applyAll W ws b = .ok v) (hbody : ∀ a s', p.exec W v = .ok (a, s') → S.body c b = some s')
    (hrefusal : ∀ e, p.exec W v = .error e → S.refusal e) : (p.runAs W commit ws).Serial S c b := by
  have hfails : ∀ e, S.refusal e → ∀ r, (.pure (.error e) : Prog τ σ (Except ε α)) = .pure r → ∃ e, r = .error e ∧ S.refusal e := by
    rintro e he _ ⟨⟩
    exact ⟨e, rfl, he⟩
  -- the view of a statement is the view alone, unless the writes can no longer be applied
  have hview : ∀ {ws v}, applyAll W ws b = .ok v →
      (∀ s, S.inv s → S.later b s → s = b ∨ ∀ ws', applyAll W (ws ++ ws') s = .error W.conflict) →
      ∀ s, S.inv s → S.later b s → (s = b ∧ applyAll W ws s = .ok v) ∨ applyAll W ws s = .error W.conflict := by
    intro ws v hv hheld s hinv hs
    rcases hheld s hinv hs with rfl | hconflicts
    · exact .inl ⟨rfl, hv⟩
    · exact .inr (by simpa using hconflicts [])
  induction p generalizing ws v with
  | pure a =>
    intro s hinv hs _
    dsimp only
    rcases hview hv hheld s hinv hs with ⟨rfl, happly⟩ | happly <;> rw [happly]
    · exact .inr ⟨a, rfl, hbody a v rfl⟩
    · exact .inl ⟨rfl, hfails _ hconflict, trivial⟩
  | abort => trivial
  | read tag g next ih =>
    simp only [runAs]
    intro s hinv hs _
    dsimp only
    rcases hview hv hheld s hinv hs with ⟨rfl, happly⟩ | happly <;> rw [happly]
    · exact .inl ⟨rfl, runAs_ended hrefusal, ih _ hheld hv hbody hrefusal⟩
    · exact .inl ⟨rfl, hfails _ hconflict, trivial⟩
  | write tag w next ih =>
    simp only [runAs]
    intro s hinv hs _
    dsimp only [matched]
    rcases hview hv hheld s hinv hs with ⟨rfl, happly⟩ | happly <;> rw [happly]
    · dsimp only
      cases hw : W.apply w v with
      | error e => exact .inl ⟨rfl, hfails e (hrefusal e (by simp [Tx.exec, hw])), trivial⟩
      | ok answer =>
        obtain ⟨rows, v'⟩ := answer
        simp only [Tx.exec, hw] at hbody hrefusal
        cases rows with
        | nil =>
          obtain rfl := hnothing hw
          exact .inl ⟨rfl, runAs_ended hrefusal, ih _ hheld hv hbody hrefusal⟩
        | cons row rows =>
          refine .inl ⟨rfl, runAs_ended hrefusal, ih _ (fun t hinv ht => ?_) (applyAll_snoc_ok.mpr ⟨v, hv, hw⟩) hbody hrefusal⟩
          rcases hheld t hinv ht with rfl | hconflicts
          · exact .inl rfl
          · exact .inr fun ws' => by simpa using hconflicts ((w, row :: rows) :: ws')
    · exact .inl ⟨rfl, hfails _ hconflict, trivial⟩

/-- What follows a lock, that answers differently once another has had it. -/
theorem Tx.serial_of_lock (hnothing : ∀ {w s s'}, W.apply w s = .ok ([], s') → s' = s) (hconflict : S.refusal W.conflict)
    (hlock : W.apply lock b = .ok (rows, v))
    (hunique : ∀ s, S.inv s → S.later b s → s = b ∨ ∃ rows' s', W.apply lock s = .ok (rows', s') ∧ rows' ≠ rows)
    {p : Tx τ σ ω ι ε α} (hbody : ∀ a s', p.exec W v = .ok (a, s') → S.body c b = some s')
    (hrefusal : ∀ e, p.exec W v = .error e → S.refusal e) : (p.runAs W commit [(lock, rows)]).Serial S c b := by
  refine runAs_serial hnothing hconflict (fun s hinv hs => ?_) (applyAll_cons_ok.mpr ⟨v, hlock, rfl⟩) hbody hrefusal
  rcases hunique s hinv hs with rfl | ⟨rows', s', happly, hne⟩
  · exact .inl rfl
  · exact .inr fun ws' => by simp [applyAll, happly, hne]

end Lock

end Interleaving
