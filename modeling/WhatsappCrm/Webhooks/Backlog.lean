/-
Purpose: Poison events and the sweeper.
-/
import Mathlib.Algebra.Order.BigOperators.Group.List
import Mathlib.Algebra.Order.Group.Nat
import WhatsappCrm.Lib.Credit
import WhatsappCrm.Webhooks.Attempts

namespace WhatsappCrm.Webhooks

open Interleaving Table

def passesOver (config : WebhookConfig) (e : WebhookEvent) (c : WebhookCall × WebhookProg WebhookReply) : Bool :=
  match c.1, c.2.result? with
  | .sweep now, some (.stale ids) => decide (e.receivedAt < now - config.stuckAfterMs) && !ids.contains e.id
  | _, _ => false

def WebhookSys.missed (config : WebhookConfig) (e : WebhookEvent) (s : WebhookSys) : Nat :=
  s.calls.countP (passesOver config e)

def WebhookDb.older (e : WebhookEvent) (db : WebhookDb) : List WebhookEvent :=
  db.events.filter fun x => decide (x.provider = whatsappProvider) && decide (x.receivedAt ≤ e.receivedAt) &&
    decide (x.id ≠ e.id)

def WebhookDb.unsettled (id : Uuid) (db : WebhookDb) : Bool := db.events.any (·.claimable id)

structure PoisonParked (config : WebhookConfig) (s s' : WebhookSys) : Prop where
  bounded : ∀ id, s'.db.replaysOf id = s.db.replaysOf id →
    s'.db.claims.count id ≤ s.db.claims.count id + config.maxAttempts
  parked : ∀ e ∈ s'.db.events, config.maxAttempts ≤ e.attempts → e.claimable e.id = true →
    ∃ c ∈ s'.calls, c.1 = .process e.id ∧ SettlesAtEnd e.id c.2
  reached : ∀ e ∈ s.db.events, e.provider = whatsappProvider → s'.db.unsettled e.id = true →
    s'.db.replaysOf e.id = s.db.replaysOf e.id →
      s'.missed config e * sweepBatchSize ≤ s.missed config e * sweepBatchSize +
        ((s'.db.older e).map fun x => config.maxAttempts * (s'.db.replaysOf x.id + 1) + 1).sum

variable {e : WebhookEvent} {id : Uuid}

/-- A sweep that passes over an event it could select selects as many others as it may, none received later. -/
theorem staleIds_of_passed {config : WebhookConfig} {db : WebhookDb} (hunique : UniqueEvents db)
    (he : e ∈ db.events) (hstale : e.stale whatsappProvider (now - config.stuckAfterMs) = true)
    (hpassed : e.id ∉ db.staleIds config now) :
    (db.staleIds config now).length = sweepBatchSize ∧ (db.staleIds config now).Nodup ∧
      ∀ id ∈ db.staleIds config now, ∃ x ∈ db.older e, x.id = id := by
  let le : WebhookEvent → WebhookEvent → Bool := fun a b => a.receivedAt ≤ b.receivedAt
  let rows := (db.events.filter (WebhookEvent.stale whatsappProvider (now - config.stuckAfterMs))).mergeSort le
  have hids : db.staleIds config now = (rows.take sweepBatchSize).map (·.id) := rfl
  have hmem : ∀ x ∈ rows, x ∈ db.events ∧ x.stale whatsappProvider (now - config.stuckAfterMs) = true := by
    intro x hx
    exact List.mem_filter.mp (List.mem_mergeSort.mp hx)
  have hrow : e ∈ rows := List.mem_mergeSort.mpr (List.mem_filter.mpr ⟨he, hstale⟩)
  have hsorted : rows.Pairwise fun a b => le a b = true := by
    apply List.pairwise_mergeSort
    · intro a b c hab hbc
      simp only [le, decide_eq_true_eq] at hab hbc ⊢
      exact le_trans hab hbc
    · intro a b
      simp only [le, Bool.or_eq_true, decide_eq_true_eq]
      exact le_total _ _
  have hnot : e ∉ rows.take sweepBatchSize := fun htaken => hpassed (hids ▸ List.mem_map_of_mem htaken)
  have hsplit := List.take_append_drop sweepBatchSize rows
  have hdropped : e ∈ rows.drop sweepBatchSize := by
    rw [← hsplit] at hrow
    exact (List.mem_append.mp hrow).resolve_left hnot
  have hbefore : ∀ x ∈ rows.take sweepBatchSize, x.receivedAt ≤ e.receivedAt := by
    intro x hx
    rw [← hsplit, List.pairwise_append] at hsorted
    simpa [le] using hsorted.2.2 x hx e hdropped
  refine ⟨?_, ?_, ?_⟩
  · have hlong : 0 < (rows.drop sweepBatchSize).length := List.length_pos_of_mem hdropped
    rw [List.length_drop] at hlong
    rw [hids, List.length_map, List.length_take]
    omega
  · have hperm : rows.Perm _ := List.mergeSort_perm _ _
    have hnodup : (rows.map (·.id)).Nodup := by
      rw [(hperm.map _).nodup_iff]
      apply List.Nodup.sublist ((List.filter_sublist).map _)
      exact UniqueBy.nodup_map hunique fun _ => rfl
    rw [hids]
    exact hnodup.sublist ((List.take_sublist _ _).map _)
  · intro id hid
    rw [hids] at hid
    obtain ⟨x, hx, rfl⟩ := List.mem_map.mp hid
    obtain ⟨hevent, hstale'⟩ := hmem x (List.mem_of_mem_take hx)
    refine ⟨x, List.mem_filter.mpr ⟨hevent, ?_⟩, rfl⟩
    have hother : x.id ≠ e.id := by
      intro hsame
      rw [UniqueBy.eq_of_entry hunique hevent he (congrArg some hsame) rfl] at hx
      exact hnot hx
    simp only [WebhookEvent.stale, decide_eq_true_eq] at hstale'
    simp [hstale'.1, hbefore x hx, hother]

theorem webhookProgram_answers (config : WebhookConfig) (call : WebhookCall) :
    (webhookProgram config call).Follows UniqueEvents fun tag db q _ => ∀ ids, q.result? = some (.stale ids) →
      tag = .findStale ∧ ∃ now, call = .sweep now ∧ ids = db.staleIds config now := by
  have hwrapped : ∀ {α : Type} (f : α → WebhookReply) (p : WebhookProg α), (∀ a ids, f a ≠ .stale ids) →
      (p.bind (.pure ∘ f)).Follows UniqueEvents fun tag db q _ => ∀ ids, q.result? = some (.stale ids) →
        tag = .findStale ∧ ∃ now, call = .sweep now ∧ ids = db.staleIds config now := by
    intro α f p hf
    apply Prog.Follows.mono _ (Prog.follows_wrapped f p)
    intro tag db q db' _ hq ids hids
    obtain ⟨a, ha⟩ := hq _ hids
    exact absurd ha.symm (hf a ids)
  cases call with
  | sweep now =>
    intro db _
    refine ⟨fun ids hids => ⟨rfl, now, rfl, ?_⟩, trivial⟩
    cases hids
    rfl
  | ingest | process | replay | connect => exact hwrapped _ _ (by simp)
  | serve | elapse => exact hwrapped (fun _ => .done (.ok ())) _ (by simp)

theorem webhookProgram_started (config : WebhookConfig) (call : WebhookCall) :
    (webhookProgram config call).result? = none := by
  cases call <;> rfl

section Steps

variable {db : WebhookDb} {s s' : WebhookSys}

theorem BudgetRun.answers (hdb : Untouched db) (hs : BudgetRun config (.idle db) s) :
    s.Follows UniqueEvents fun call tag db q _ => ∀ ids, q.result? = some (.stale ids) →
      tag = .findStale ∧ ∃ now, call = .sweep now ∧ ids = db.staleIds config now :=
  Reachable.follows (webhookProgram_answers config) (fun _ hs => BudgetRun.unique hdb hs) hs

theorem BudgetRun.effect (hdb : Untouched db) (hs : BudgetRun config (.idle db) s) (hstep : BudgetStep config s s') :
    s'.db = s.db ∨ ∃ call tag q, AttemptEffect config call tag s.db q s'.db := by
  cases hstep with
  | spawn => exact .inl rfl
  | exec _ i call tag act next hcall =>
    exact .inr ⟨call, tag, _, ((BudgetRun.attempts hdb hs).exec_spec (BudgetRun.unique hdb hs) hcall).1⟩

theorem counts_nothing (config : WebhookConfig) {p : WebhookProg WebhookReply} (h : ∀ ids, p.result? ≠ some (.stale ids)) (call : WebhookCall) :
    (∀ id, offers id (call, p) = false) ∧ ∀ e, passesOver config e (call, p) = false := by
  cases hresult : p.result? with
  | none =>
    refine ⟨fun id => by simp [offers, hresult], fun e => ?_⟩
    cases call <;> simp [passesOver, hresult]
  | some reply =>
    cases reply with
    | stale ids => exact absurd hresult (h ids)
    | _ =>
      refine ⟨fun id => by simp [offers, hresult], fun e => ?_⟩
      cases call <;> simp [passesOver, hresult]

theorem BudgetRun.swept (hdb : Untouched db) (hs : BudgetRun config (.idle db) s) (hstep : BudgetStep config s s') :
    (∀ id, s'.offered id = s.offered id) ∧ (∀ e, s'.missed config e = s.missed config e) ∨
      ∃ now, MeetsBudget config s (.sweep now) .findStale = true ∧
        (∀ id, s'.offered id = s.offered id + ((s.db.staleIds config now).contains id).toNat) ∧
        ∀ e, s'.missed config e = s.missed config e +
          (decide (e.receivedAt < now - config.stuckAfterMs) && !(s.db.staleIds config now).contains e.id).toNat := by
  cases hstep with
  | spawn _ call =>
    have hstarted : ∀ ids, (webhookProgram config call).result? ≠ some (.stale ids) := by
      simp [webhookProgram_started]
    obtain ⟨hoffers, hmissed⟩ := counts_nothing config hstarted call
    left
    constructor
    · intro id
      simp [WebhookSys.offered, Sys.spawn, List.countP_append, hoffers]
    · intro e
      simp [WebhookSys.missed, Sys.spawn, List.countP_append, hmissed]
  | exec _ i call tag act next hcall hcond =>
    have hanswer := ((BudgetRun.answers hdb hs).exec_spec (BudgetRun.unique hdb hs) hcall).1
    have hatomic : ∀ ids, (Prog.atomic tag act next : WebhookProg WebhookReply).result? ≠ some (.stale ids) := by simp
    obtain ⟨hbefore, hbefore'⟩ := counts_nothing config hatomic call
    have hoffered := fun id => countP_set_add hcall (offers id) (call, next (act s.db).1)
    have hmissed := fun e => countP_set_add hcall (passesOver config e) (call, next (act s.db).1)
    simp only [hbefore, hbefore', Bool.toNat_false, Nat.add_zero] at hoffered hmissed
    by_cases hstale : ∃ ids, (next (act s.db).1).result? = some (.stale ids)
    · obtain ⟨ids, hresult⟩ := hstale
      obtain ⟨rfl, now, rfl, rfl⟩ := hanswer ids hresult
      refine .inr ⟨now, hcond, fun id => ?_, fun e => ?_⟩
      · simpa [WebhookSys.offered, Sys.exec, offers, hresult] using hoffered id
      · simpa [WebhookSys.missed, Sys.exec, passesOver, hresult] using hmissed e
    · obtain ⟨hafter, hafter'⟩ := counts_nothing config (not_exists.mp hstale) call
      simp only [hafter, hafter', Bool.toNat_false, Nat.add_zero] at hoffered hmissed
      exact .inl ⟨hoffered, hmissed⟩

theorem BudgetRun.grows (hdb : Untouched db) (hs : BudgetRun config (.idle db) s) (hs' : BudgetRun config s s') :
    (∀ id, s.db.replaysOf id ≤ s'.db.replaysOf id) ∧
      ∀ r ∈ s.db.events.map WebhookEvent.receipt, r ∈ s'.db.events.map WebhookEvent.receipt := by
  induction hs' with
  | refl => exact ⟨fun _ => Nat.le_refl _, fun _ hr => hr⟩
  | tail hs₁ hstep ih =>
    rcases BudgetRun.effect hdb (hs.trans hs₁) hstep with heq | ⟨call, tag, q, heffect⟩
    · rw [heq]
      exact ih
    · exact ⟨fun id => (ih.1 id).trans (heffect.trails.le id), fun r hr => heffect.events.receipts r (ih.2 r hr)⟩

theorem AttemptEffect.unsettled {call : WebhookCall}
    (h : AttemptEffect config call tag db q db') (hunique : UniqueEvents db) (hstored : ∃ e ∈ db.events, e.id = id) (hreplays : db'.replaysOf id = db.replaysOf id)
    (hunsettled : db'.unsettled id = true) : db.unsettled id = true := by
  obtain ⟨e', he', hclaimable⟩ := List.any_eq_true.mp hunsettled
  have hid : e'.id = id := by
    simp only [WebhookEvent.claimable, decide_eq_true_eq] at hclaimable
    exact hclaimable.1
  rcases h.events.row hunique he' with hfresh | ⟨e, he, hreceipt, hmove⟩
  · obtain ⟨e, he, hsame⟩ := hstored
    exact absurd (hsame.trans hid.symm) (hfresh.fresh e he)
  · obtain rfl : e.id = id := (congrArg Prod.fst hreceipt).symm.trans hid
    apply List.any_eq_true.mpr
    cases hmove with
    | kept _ _ hwas => exact ⟨e, he, hwas hclaimable⟩
    | claimed _ hwas => exact ⟨e, he, hwas⟩
    | reset htag hparked hrow =>
      subst htag hrow
      have hmore := h.trails.reset hunique he hparked he'
      omega

end Steps

section Attempts

variable {db : WebhookDb} {s s' : WebhookSys}

theorem BudgetRun.claims_le (hmax : 0 < config.maxAttempts) (hdb : Untouched db) (hs : BudgetRun config (.idle db) s)
    (hs' : BudgetRun config s s') (hreplays : s'.db.replaysOf id = s.db.replaysOf id) :
    ∀ e ∈ s'.db.events, e.id = id → s'.db.claims.count id ≤ s.db.claims.count id + e.attempts := by
  induction hs' with
  | refl => exact fun e _ _ => Nat.le_add_right _ _
  | @tail t t' hs₁ hstep ih =>
    have ht := hs.trans hs₁
    rcases BudgetRun.effect hdb ht hstep with heq | ⟨call, tag, q, heffect⟩
    · rw [heq] at hreplays ⊢
      exact ih hreplays
    · have hle := heffect.trails.le id
      have hge := (BudgetRun.grows hdb hs hs₁).1 id
      have hsame : t.db.replaysOf id = s.db.replaysOf id := by omega
      intro e' he' hid
      rcases heffect.events.row (BudgetRun.unique hdb ht) he' with hfresh | ⟨e, he, hreceipt, hmove⟩
      · have hnone : id ∉ t.db.claims := by
          intro hclaimed
          obtain ⟨e, he, hsame⟩ := (BudgetRun.budgeted hmax hdb ht).stored id hclaimed
          exact hfresh.fresh e he (hsame.trans hid.symm)
        rw [hfresh.claims, List.count_eq_zero_of_not_mem hnone]
        exact Nat.zero_le _
      · obtain rfl : e.id = id := (congrArg Prod.fst hreceipt).symm.trans hid
        have hbefore := ih hsame e he rfl
        cases hmove with
        | kept | claimed => omega
        | reset htag hparked hrow =>
          subst htag hrow
          have hmore := heffect.trails.reset (BudgetRun.unique hdb ht) he hparked he'
          omega

theorem BudgetRun.bounded (hmax : 0 < config.maxAttempts) (hdb : Untouched db) (hs : BudgetRun config (.idle db) s)
    (hs' : BudgetRun config s s') (hreplays : s'.db.replaysOf id = s.db.replaysOf id) :
    s'.db.claims.count id ≤ s.db.claims.count id + config.maxAttempts := by
  have hbudgeted := BudgetRun.budgeted hmax hdb (hs.trans hs')
  by_cases hclaimed : id ∈ s'.db.claims
  · obtain ⟨e, he, hid⟩ := hbudgeted.stored id hclaimed
    have hclaims := BudgetRun.claims_le hmax hdb hs hs' hreplays e he hid
    have hbudget := hbudgeted.budget e he
    omega
  · rw [List.count_eq_zero_of_not_mem hclaimed]
    exact Nat.zero_le _

end Attempts

section Sweeps

variable {db : WebhookDb} {s s' : WebhookSys}

theorem BudgetRun.offered_le (hdb : Untouched db) (hs : BudgetRun config (.idle db) s) (id : Uuid) :
    s.offered id ≤ s.db.claims.count id + 1 := by
  induction hs with
  | refl => simp [WebhookSys.offered, Sys.idle]
  | @tail t t' hs hstep ih =>
    have hclaims : t.db.claims.count id ≤ t'.db.claims.count id := by
      rcases BudgetRun.effect hdb hs hstep with heq | ⟨call, tag, q, heffect⟩
      · rw [heq]
      · rcases heffect.events.claims with heq | ⟨claimedId, heq, _⟩
        · rw [heq]
        · rw [heq, List.count_append]
          exact Nat.le_add_right _ _
    rcases BudgetRun.swept hdb hs hstep with ⟨hoffered, _⟩ | ⟨now, hcond, hoffered, _⟩
    · rw [hoffered]
      omega
    · rw [hoffered]
      cases hselected : (t.db.staleIds config now).contains id with
      | false =>
        rw [Bool.toNat_false]
        omega
      | true =>
        have hall : ((t.db.staleIds config now).all fun id => decide (t.offered id ≤ t.db.claims.count id)) = true :=
          hcond
        have hclaimed := List.all_eq_true.mp hall id (by simpa using hselected)
        rw [decide_eq_true_eq] at hclaimed
        rw [Bool.toNat_true]
        omega

theorem sum_map_toNat (p : Uuid → Bool) (ids : List Uuid) : (ids.map fun id => (p id).toNat).sum = ids.countP p := by
  induction ids with
  | nil => rfl
  | cons id ids ih =>
    rw [List.map_cons, List.sum_cons, ih, List.countP_cons]
    cases p id <;> simp [Nat.add_comm]

theorem sum_offered {ids selected : List Uuid} (hnodup : selected.Nodup) (hsub : ∀ id ∈ selected, id ∈ ids)
    (f : Uuid → Nat) :
    (ids.map f).sum + selected.length ≤ (ids.map fun id => f id + (selected.contains id).toNat).sum := by
  rw [List.sum_map_add, sum_map_toNat, List.countP_eq_length_filter]
  apply Nat.add_le_add_left
  apply List.Subperm.length_le
  apply List.subperm_of_subset hnodup
  intro id hid
  exact List.mem_filter.mpr ⟨hsub id hid, by simpa using hid⟩

theorem older_eq {e' : WebhookEvent} (h : e'.receipt = e.receipt) (db : WebhookDb) : db.older e' = db.older e := by
  simp only [WebhookEvent.receipt, Prod.mk.injEq] at h
  simp only [WebhookDb.older, h.1, h.2.2]

theorem BudgetRun.older_later (hdb : Untouched db) (hs : BudgetRun config (.idle db) s) (hs' : BudgetRun config s s')
    (hx : x ∈ s.db.older e) : ∃ x' ∈ s'.db.older e, x'.id = x.id := by
  obtain ⟨hmem, hold⟩ := List.mem_filter.mp hx
  obtain ⟨x', hx', hreceipt⟩ := List.mem_map.mp ((BudgetRun.grows hdb hs hs').2 _ (List.mem_map_of_mem hmem))
  simp only [WebhookEvent.receipt, Prod.mk.injEq] at hreceipt
  obtain ⟨hid, hprovider, hreceived⟩ := hreceipt
  refine ⟨x', List.mem_filter.mpr ⟨hx', ?_⟩, hid⟩
  rw [hid, hprovider, hreceived]
  exact hold

theorem BudgetRun.missed_le (hdb : Untouched db) (hs : BudgetRun config (.idle db) s) (hs' : BudgetRun config s s')
    (he : e ∈ s.db.events) (hprovider : e.provider = whatsappProvider)
    (hunsettled : s'.db.unsettled e.id = true) (hreplays : s'.db.replaysOf e.id = s.db.replaysOf e.id)
    {ids : List Uuid} (hids : ∀ x ∈ s'.db.older e, x.id ∈ ids) :
    s'.missed config e * sweepBatchSize + (ids.map (s.offered ·)).sum ≤
      s.missed config e * sweepBatchSize + (ids.map (s'.offered ·)).sum := by
  induction hs' with
  | refl => exact Nat.le_refl _
  | @tail t t' hs₁ hstep ih =>
    have ht := hs.trans hs₁
    have hunique := BudgetRun.unique hdb ht
    have hgrows := BudgetRun.grows hdb hs hs₁
    obtain ⟨row, hrow, hreceipt⟩ := List.mem_map.mp (hgrows.2 _ (List.mem_map_of_mem he))
    have hrowid : row.id = e.id := congrArg Prod.fst hreceipt
    have hsame : t.db.replaysOf e.id = s.db.replaysOf e.id := by
      have hge := hgrows.1 e.id
      have hle := (BudgetRun.grows hdb ht (.single hstep)).1 e.id
      omega
    have hwas : t.db.unsettled e.id = true := by
      rcases BudgetRun.effect hdb ht hstep with heq | ⟨call, tag, q, heffect⟩
      · rwa [heq] at hunsettled
      · exact heffect.unsettled hunique ⟨row, hrow, hrowid⟩ (hreplays.trans hsame.symm) hunsettled
    have hids' : ∀ x ∈ t.db.older e, x.id ∈ ids := by
      intro x hx
      obtain ⟨x', hx', hid⟩ := BudgetRun.older_later hdb ht (.single hstep) hx
      exact hid ▸ hids x' hx'
    have hbefore := ih hwas hsame hids'
    rcases BudgetRun.swept hdb ht hstep with ⟨hoffered, hmissed⟩ | ⟨now, _, hoffered, hmissed⟩
    · simpa only [hoffered, hmissed] using hbefore
    · simp only [hoffered, hmissed, Nat.add_mul]
      cases hpassed : decide (e.receivedAt < now - config.stuckAfterMs) && !(t.db.staleIds config now).contains e.id with
      | false =>
        have hmore : (ids.map (t.offered ·)).sum ≤
            (ids.map fun id => t.offered id + ((t.db.staleIds config now).contains id).toNat).sum :=
          List.sum_le_sum fun id _ => Nat.le_add_right _ _
        rw [Bool.toNat_false]
        omega
      | true =>
        simp only [Bool.and_eq_true, decide_eq_true_eq, Bool.not_eq_true', List.contains_eq_mem,
          decide_eq_false_iff_not] at hpassed
        obtain ⟨held, hheld, hclaimable⟩ := List.any_eq_true.mp hwas
        have hstatus : held.id = e.id ∧ (held.status = .received ∨ held.status = .processing) := by
          simpa [WebhookEvent.claimable] using hclaimable
        have heq : held = row :=
          UniqueBy.eq_of_entry hunique hheld hrow (congrArg some (hstatus.1.trans hrowid.symm)) rfl
        subst heq
        have hstale : held.stale whatsappProvider (now - config.stuckAfterMs) = true := by
          simp only [WebhookEvent.receipt, Prod.mk.injEq] at hreceipt
          simp [WebhookEvent.stale, hreceipt.2.1, hprovider, hreceipt.2.2, hstatus.2, hpassed.1]
        obtain ⟨hlength, hnodup, hselected⟩ := staleIds_of_passed hunique hrow hstale (hrowid ▸ hpassed.2)
        rw [older_eq hreceipt] at hselected
        have hsum := sum_offered hnodup (fun id hid => by
          obtain ⟨x, hx, hxid⟩ := hselected id hid
          exact hxid ▸ hids' x hx) (t.offered ·)
        rw [hlength] at hsum
        rw [Bool.toNat_true, Nat.one_mul]
        omega

theorem BudgetRun.reached (hmax : 0 < config.maxAttempts) (hdb : Untouched db) (hs : BudgetRun config (.idle db) s)
    (hs' : BudgetRun config s s') (he : e ∈ s.db.events) (hprovider : e.provider = whatsappProvider)
    (hunsettled : s'.db.unsettled e.id = true) (hreplays : s'.db.replaysOf e.id = s.db.replaysOf e.id) :
    s'.missed config e * sweepBatchSize ≤ s.missed config e * sweepBatchSize +
      ((s'.db.older e).map fun x => config.maxAttempts * (s'.db.replaysOf x.id + 1) + 1).sum := by
  have hend := hs.trans hs'
  have hmissed := BudgetRun.missed_le hdb hs hs' he hprovider hunsettled hreplays
    (fun x hx => List.mem_map_of_mem (f := WebhookEvent.id) hx)
  have hoffered : (((s'.db.older e).map WebhookEvent.id).map (s'.offered ·)).sum ≤
      ((s'.db.older e).map fun x => config.maxAttempts * (s'.db.replaysOf x.id + 1) + 1).sum := by
    rw [List.map_map]
    apply List.sum_le_sum
    intro x hx
    have hbudgeted := BudgetRun.budgeted hmax hdb hend
    have hmem := (List.mem_filter.mp hx).1
    have htotal := hbudgeted.total x hmem
    have hbudget := hbudgeted.budget x hmem
    have hclaimed := BudgetRun.offered_le hdb hend x.id
    rw [Function.comp_apply, Nat.mul_add, Nat.mul_one]
    omega
  omega

end Sweeps

/-- In a run whose statements meet their conditions a poison event is parked within its budget and no sweep is blocked
    by it. -/
theorem poison_event_is_parked {config : WebhookConfig} (hmax : 0 < config.maxAttempts) {db : WebhookDb}
    (hdb : Untouched db) {s s' : WebhookSys} (hs : BudgetRun config (.idle db) s) (hs' : BudgetRun config s s') :
    PoisonParked config s s' where
  bounded _ hreplays := BudgetRun.bounded hmax hdb hs hs' hreplays
  parked e he hspent hclaimable :=
    (BudgetRun.budgeted hmax hdb (hs.trans hs')).owned e.id (spent_iff.mpr ⟨e, he, hclaimable, hspent⟩)
  reached _ he hprovider hunsettled hreplays := BudgetRun.reached hmax hdb hs hs' he hprovider hunsettled hreplays

/-- A delivery whose application the database refuses, and one that came later. -/
def poisonAndLater : WebhookDb :=
  { now := 100
    accounts := [{ id := 1, tenantId := 1, phoneNumberId := "100" }]
    serviceable := [1]
    events := [{ id := 1, provider := whatsappProvider, providerEventId := "a", receivedAt := 0
                 payload := .inr [{ field := messagesField
                                    value := .inr {
                                      phoneNumberId := "100"
                                      messages := [{ id := "m1", source := "15551234567", timestamp := 0 }] } }] },
               { id := 2, provider := whatsappProvider, providerEventId := "b", receivedAt := 1, payload := .inl "later" }]
    uuids := [11, 12]
    deliveries := [.answered, .answered, .refused "connection reset"] }

theorem poisonAndLater_untouched : Untouched poisonAndLater where
  unique := by decide
  attempts := by decide
  claims := rfl

/-- A worker claims the event, is refused the transaction it applies it in, and parks it. -/
def refuseAndPark : List (Move WebhookCall) :=
  .spawn (.process 1) :: List.replicate 9 (.step 0)

theorem poison_event_is_parked_refused : ∃ s, BudgetRun ⟨1, 10⟩ (.idle poisonAndLater) s ∧
    (s.db.events.map (·.status) = [.failed, .received] ∧ PoisonParked ⟨1, 10⟩ (.idle poisonAndLater) s) := by
  have hrun : (run (webhookProgram ⟨1, 10⟩) (MeetsBudget ⟨1, 10⟩) refuseAndPark (.idle poisonAndLater)).map
      (fun s => s.db.events.map (·.status)) = some [.failed, .received] := by
    decide +kernel
  obtain ⟨s, hs, hstatus⟩ := Option.map_eq_some_iff.mp hrun
  have hreach : BudgetRun ⟨1, 10⟩ (.idle poisonAndLater) s := reachable_of_run hs
  exact ⟨s, hreach, hstatus, poison_event_is_parked Nat.one_pos poisonAndLater_untouched .refl hreach⟩

/-- A worker claims the event, and is never scheduled again; another claims it. -/
def crashAndReclaim : List (Move WebhookCall) :=
  [.spawn (.process 1), .step 0, .step 0, .spawn (.process 1), .step 1, .step 1]

theorem poison_event_is_not_parked :
    ¬ ∀ (config : WebhookConfig), 0 < config.maxAttempts → ∀ db, Untouched db → ∀ s, WebhookRun config db s →
      ∀ s', Reachable (webhookProgram config) anyStep s s' → PoisonParked config s s' := by
  intro hclaim
  have hrun : (run (webhookProgram ⟨1, 10⟩) (fun _ _ _ => true) crashAndReclaim (.idle poisonAndLater)).map
      (fun s => (s.db.claims.count 1, s.db.replaysOf 1)) = some (2, 0) := by
    decide +kernel
  obtain ⟨s, hreach, hcounts⟩ := ends_of_run_any hrun
  simp only [Prod.mk.injEq] at hcounts
  have hparked := hclaim ⟨1, 10⟩ Nat.one_pos poisonAndLater poisonAndLater_untouched _ .refl s hreach
  have hbounded := hparked.bounded 1 (by rw [hcounts.2]; rfl)
  rw [hcounts.1] at hbounded
  have htwice : 2 ≤ 1 := hbounded
  exact absurd htwice (by decide)

end WhatsappCrm.Webhooks
