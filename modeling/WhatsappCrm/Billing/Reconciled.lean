/-
Purpose: The nightly pass beside the deliveries.
-/
import WhatsappCrm.Billing.Effects

namespace WhatsappCrm

open Interleaving Table

namespace Billing

def ofTenant (t : Uuid) (db : BillingDb) : List Application := db.applications.filter (·.event.tenantId = t)

def lastApplied (applications : List Application) : Option Application :=
  (applications.filter (·.applied)).getLast?

def Fair (before : List Application) (a : Application) : Prop :=
  match a.source with
  | .webhook => a.applied = false → ∀ r readAt, lastApplied before = some r → r.source = .reconciliation readAt →
      a.event.occurredAt ≤ readAt
  | .reconciliation readAt => a.applied = true → ∀ w ∈ before, w.source = .webhook → w.applied = true →
      w.event.occurredAt ≤ readAt

def Unhidden (t : Uuid) (db : BillingDb) : Prop :=
  ∀ before a after, ofTenant t db = before ++ a :: after → Fair before a

def Between (w r : Application) : Prop :=
  match r.source with
  | .webhook => False
  | .reconciliation readAt => readAt < w.event.occurredAt ∧ w.event.occurredAt ≤ r.event.occurredAt

instance (w r : Application) : Decidable (Between w r) :=
  match h : r.source with
  | .webhook => isFalse (by simp [Between, h])
  | .reconciliation readAt =>
    decidable_of_iff (readAt < w.event.occurredAt ∧ w.event.occurredAt ≤ r.event.occurredAt) (by simp [Between, h])

/-- The condition, for what a commit records. -/
def unhurriedRecord (t : Uuid) (db : BillingDb) (a : Application) : Prop :=
  a.event.tenantId = t → ∀ b ∈ ofTenant t db,
    (a.source = .webhook → ¬ Between a b) ∧ (b.source = .webhook → ¬ Between b a)

instance (t : Uuid) (db : BillingDb) (a : Application) : Decidable (unhurriedRecord t db a) :=
  inferInstanceAs (Decidable (a.event.tenantId = t → ∀ b ∈ ofTenant t db,
    (a.source = .webhook → ¬ Between a b) ∧ (b.source = .webhook → ¬ Between b a)))

/-- Neither of two applications is a delivery that the provider stamped between the other's read and its stamp. -/
def unhurried (t : Uuid) : BillingStmt → BillingDb → Prop
  | .commit writes, db => ∀ a ∈ recordOf writes, unhurriedRecord t db a
  | _, _ => True

instance (t : Uuid) (tag : BillingStmt) (db : BillingDb) : Decidable (unhurried t tag db) := by
  cases tag with
  | commit writes => exact inferInstanceAs (Decidable (∀ a ∈ recordOf writes, unhurriedRecord t db a))
  | _ => exact isTrue trivial

def mark (t : Uuid) (db : BillingDb) : Option Millis := (db.findSubscription t).bind (·.lastEventAt)

structure Marked (t : Uuid) (db : BillingDb) : Prop where
  last : ∀ a, lastApplied (ofTenant t db) = some a → mark t db = some a.event.occurredAt
  bound : ∀ a ∈ ofTenant t db, a.applied = true → ∃ m, mark t db = some m ∧ a.event.occurredAt ≤ m
  unhidden : Unhidden t db

section Statements

variable {t : Uuid} {db : BillingDb}

theorem Marked.same (h : Marked t db) (hrecords : ofTenant t db' = ofTenant t db) (hmark : mark t db' = mark t db) :
    Marked t db' where
  last := by
    rw [hrecords, hmark]
    exact h.last
  bound := by
    rw [hrecords, hmark]
    exact h.bound
  unhidden := by
    intro before a after heq
    exact h.unhidden before a after (hrecords ▸ heq)

theorem lastApplied_concat (applications : List Application) (a : Application) :
    lastApplied (applications ++ [a]) = if a.applied then some a else lastApplied applications := by
  rw [lastApplied, List.filter_append]
  cases ha : a.applied with
  | true => simp [ha]
  | false => simp [ha, lastApplied]

theorem Marked.stale (h : Marked t db)
    (hrecords : ofTenant t db' = ofTenant t db ++ [{ event, source, applied := false, rolled := false }])
    (hmark : mark t db' = mark t db) (htenant : event.tenantId = t)
    (hstale : isStale (db.findSubscription event.tenantId) event = true)
    (hcond : ∀ b ∈ ofTenant t db, source = .webhook → ¬ Between { event, source, applied := false, rolled := false } b) :
    Marked t db' where
  last a ha := by
    rw [hrecords, lastApplied_concat] at ha
    rw [hmark]
    exact h.last a ha
  bound a ha happlied := by
    rw [hrecords] at ha
    rw [hmark]
    rcases List.mem_append.mp ha with ha | ha
    · exact h.bound a ha happlied
    · rw [List.mem_singleton] at ha
      subst ha
      cases happlied
  unhidden := by
    rw [Unhidden, hrecords]
    apply forall_before_concat h.unhidden
    rw [Fair]
    cases source with
    | reconciliation => exact fun happlied => by cases happlied
    | webhook =>
      intro _ r readAt hr hsource
      have hmem : r ∈ ofTenant t db := by
        rw [lastApplied] at hr
        exact List.mem_of_mem_filter (List.mem_of_getLast? hr)
      have hnot := hcond r hmem rfl
      have hlater : event.occurredAt < r.event.occurredAt := by
        have hlast := h.last r hr
        rw [mark, ← htenant] at hlast
        rw [isStale, hlast] at hstale
        simpa using hstale
      simp only [Between, hsource, not_and, not_le] at hnot
      by_contra hread
      exact absurd hlater (lt_asymm (hnot (not_le.mp hread)))

theorem Marked.applied (h : Marked t db)
    (hrecords : ofTenant t db' = ofTenant t db ++ [{ event, source, applied := true, rolled }])
    (hmark : mark t db' = some event.occurredAt) (htenant : event.tenantId = t)
    (hfresh : isStale (db.findSubscription event.tenantId) event = false)
    (hcond : ∀ b ∈ ofTenant t db, b.source = .webhook → ¬ Between b { event, source, applied := true, rolled }) :
    Marked t db' := by
  have hbefore : ∀ a ∈ ofTenant t db, a.applied = true → a.event.occurredAt ≤ event.occurredAt := by
    intro a ha happlied
    obtain ⟨m, hm, hle⟩ := h.bound a ha happlied
    rw [mark, ← htenant] at hm
    rw [isStale, hm] at hfresh
    simp only [Option.any_some, decide_eq_false_iff_not, not_lt] at hfresh
    exact le_trans hle hfresh
  constructor
  · intro a ha
    rw [hrecords, lastApplied_concat] at ha
    cases ha
    exact hmark
  · intro a ha happlied
    rw [hrecords] at ha
    refine ⟨event.occurredAt, hmark, ?_⟩
    rcases mem_snoc.mp ha with ha | rfl
    · exact hbefore a ha happlied
    · rfl
  · rw [Unhidden, hrecords]
    apply forall_before_concat h.unhidden
    rw [Fair]
    cases source with
    | webhook => exact fun hfalse => by cases hfalse
    | reconciliation =>
      intro _ w hw hsource happlied
      have hnot := hcond w hw hsource
      simp only [Between, not_and] at hnot
      by_contra hread
      exact hnot (not_le.mp hread) (hbefore w hw happlied)

theorem find_replaced (row : Subscription) (tenantId : Uuid) (rows : List Subscription) (hrow : row.tenantId = tenantId) :
    (row :: rows.filter (·.tenantId ≠ tenantId)).find? (·.tenantId = t) =
      if tenantId = t then some row else rows.find? (·.tenantId = t) := by
  subst hrow
  rw [List.find?_cons]
  by_cases hrow : row.tenantId = t
  · simp [hrow]
  · simp only [hrow, decide_false, if_false, List.find?_filter]
    congr 1
    funext s
    by_cases hs : s.tenantId = t
    · simp [hs, Ne.symm hrow]
    · simp [hs]

theorem upsert_lastEventAt (id : Uuid) (event : BillingEvent) (planId : Uuid) (seats : Nat) (since : Option Millis)
    (found : Option Subscription) :
    (Subscription.upsert id event planId seats since found).lastEventAt = some event.occurredAt := by
  cases found <;> rfl

theorem Marked.commit (h : Marked t db) (heffect : SubscriptionEffect ws db db')
    (hcond : unhurried t (.commit ws) db) : Marked t db' := by
  cases heffect with
  | unresolved => exact h
  | stale event source _ hrecord hstale =>
    by_cases htenant : event.tenantId = t
    · refine h.stale ?_ ?_ htenant hstale fun b hb hsource => (hcond _ hrecord htenant b hb).1 hsource
      · simp [ofTenant, htenant]
      · rfl
    · apply h.same
      · simp [ofTenant, htenant]
      · rfl
  | applied event source id planId seats since entitlements _ hrecord hfresh =>
    have hfind := find_replaced (t := t) _ event.tenantId db.subscriptions
      (upsert_tenantId id event planId seats since db)
    by_cases htenant : event.tenantId = t
    · refine h.applied ?_ ?_ htenant hfresh fun b hb hsource => (hcond _ hrecord htenant b hb).2 hsource
      · simp [ofTenant, htenant]
      · rw [if_pos htenant] at hfind
        rw [mark, BillingDb.findSubscription, hfind]
        exact upsert_lastEventAt ..
    · rw [if_neg htenant] at hfind
      apply h.same
      · simp [ofTenant, htenant]
      · rw [mark, mark, BillingDb.findSubscription, hfind, BillingDb.findSubscription]

theorem find_storeSeats (tenantId : Uuid) (seats : Nat) (db : BillingDb) :
    (db.storeSeats tenantId seats).findSubscription t = (db.findSubscription t).map fun s =>
      if s.tenantId = tenantId then { s with seats } else s := by
  have h := find?_updateWhere (p := fun s : Subscription => decide (s.tenantId = tenantId))
    (q := fun s => decide (s.tenantId = t)) (f := fun s => { s with seats }) (fun _ => rfl) db.subscriptions
  simpa only [decide_eq_true_eq, BillingDb.findSubscription, BillingDb.storeSeats] using h

theorem mark_storeSeats (tenantId : Uuid) (seats : Nat) (db : BillingDb) :
    mark t (db.storeSeats tenantId seats) = mark t db := by
  rw [mark, mark, find_storeSeats]
  cases db.findSubscription t with
  | none => rfl
  | some =>
    simp only [Option.map_some, Option.bind_some]
    split <;> rfl

theorem Marked.effect (h : Marked t db) (hcond : unhurried t tag db)
    (heffect : PipelineEffect tag db db') : Marked t db' := by
  rcases heffect with heffect | ⟨tenantId, heffect⟩
  · cases heffect with
    | committed heffect => exact h.commit heffect hcond
    | settled =>
      rw [BillingDb.settle]
      split <;> exact h.same rfl rfl
    | requested =>
      rw [BillingDb.requestSeats]
      split <;> exact h.same rfl rfl
    | _ => exact h.same rfl rfl
  · cases heffect with
    | attempt heffect =>
      cases heffect with
      | metered seats => exact h.same rfl (mark_storeSeats tenantId seats db)
      | _ => exact h.same rfl rfl
    | _ => exact h.same rfl rfl

end Statements

/-- **Reconciliation.** Where the provider stamps no delivery of the tenant between a nightly read and its stamp,
    none is dropped because of a reconciliation that had read something older, and none is overwritten by one. -/
theorem newer_webhook_prevails (maxAttempts : Nat) (t : Uuid) {db : BillingDb} (h₀ : ofTenant t db = [])
    {s : BillingSys} (hr : BillingRun maxAttempts (fun s _ tag => unhurried t tag s.db) db s) : Unhidden t s.db := by
  have hdb : Marked t db := by
    constructor
    · simp [h₀, lastApplied]
    · simp [h₀]
    · intro before a after heq
      rw [h₀] at heq
      exact absurd heq (by simp)
  have hkept := Reachable.keeps (I := Marked t) (N := fun _ tag s _ s' => PipelineEffect tag s s')
    (fun call => (billingProgram_effects maxAttempts call).weaken fun _ _ => trivial)
    (fun _ _ _ _ _ hinv hcond heffect => hinv.effect hcond heffect) hdb hr
  exact hkept.1.unhidden

def quietTenant : BillingDb :=
  { lifecycle := { now := 110, tenants := [{ id := 1, slug := "acme", name := "Acme", status := .active }] }
    providerNow := 110
    subscriptions := [{
      id := 1, tenantId := 1, planId := 1, seats := 1, status := .active, lastEventAt := some 100,
      providerSubscriptionId := some "sub" }]
    providerSubscriptions := [{ id := "sub", tenantId := 1, customerId := "cus", status := some .active }] }

/-- The provider reports at `occurredAt` that a payment is overdue. -/
def overdueEvent (occurredAt : Millis) : BillingEvent :=
  { type := .subscriptionPastDue, tenantId := 1, providerEventId := "evt", occurredAt, status := some .pastDue
    providerSubscriptionId := some "sub" }

def readThenDeliver (occurredAt : Millis) : List (Move BillingCall) :=
  [.spawn (.reconcile (fun _ => { subscriptionId := 2, eventId := 3 }) fun _ => none), .step 0, .step 0,
    .spawn (.tick 90 90), .step 1] ++ List.replicate 6 (.step 0) ++
    [.spawn (.ingest { id := 1, providerEventId := "evt", subject := { tenantId := some 1 },
                       parsed := .event (overdueEvent occurredAt) }),
      .step 2, .spawn (.process 1 { subscriptionId := 4, eventId := 5 } none)] ++ List.replicate 6 (.step 3)

/-- What became of the events, each with its stamp. -/
def outcomes (t : Uuid) (db : BillingDb) : List (EventSource × Millis × Bool) :=
  (ofTenant t db).map fun a => (a.source, a.event.occurredAt, a.applied)

theorem newer_webhook_prevails_later : ∃ s, BillingRun 5 (fun s _ tag => unhurried 1 tag s.db) quietTenant s ∧
      outcomes 1 s.db = [(.reconciliation 110, 200, true), (.webhook, 250, true)] ∧ Unhidden 1 s.db := by
  have hrun : (run (billingProgram 5) (fun s _ tag => decide (unhurried 1 tag s.db)) (readThenDeliver 250)
      (.idle quietTenant)).map (fun s => outcomes 1 s.db) =
      some [(.reconciliation 110, 200, true), (.webhook, 250, true)] := by
    decide +kernel
  obtain ⟨s, hreach, hend⟩ := ends_of_run hrun
  exact ⟨s, hreach, hend, newer_webhook_prevails 5 1 (by decide) hreach⟩

/-- The delivery of 150 is newer than what was read at 110, and dropped for what was stamped 200. -/
theorem reconciliation_hides_newer_webhook : ¬ ∀ (maxAttempts : Nat) (t : Uuid) (db : BillingDb), ofTenant t db = [] →
      ∀ s, BillingRun maxAttempts anyStep db s → Unhidden t s.db := by
  intro hclaim
  have hrun : (run (billingProgram 5) (fun _ _ _ => true) (readThenDeliver 150) (.idle quietTenant)).map
      (fun s => outcomes 1 s.db) = some [(.reconciliation 110, 200, true), (.webhook, 150, false)] := by
    decide +kernel
  obtain ⟨s, hreach, hend⟩ := ends_of_run_any hrun
  have hunhidden := hclaim 5 1 quietTenant (by decide) s hreach
  rw [outcomes] at hend
  cases hrecords : ofTenant 1 s.db with
  | nil =>
    rw [hrecords] at hend
    cases hend
  | cons r rest =>
    rw [hrecords, List.map_cons, List.cons.injEq] at hend
    obtain ⟨hr, hrest⟩ := hend
    cases rest with
    | nil => cases hrest
    | cons w rest =>
      rw [List.map_cons, List.cons.injEq] at hrest
      simp only [Prod.mk.injEq] at hr hrest
      obtain ⟨hread, -, happlied⟩ := hr
      obtain ⟨⟨hsource, hstamp, hstale⟩, -⟩ := hrest
      have hfair := hunhidden [r] w rest hrecords
      simp only [Fair, hsource] at hfair
      have hlast : lastApplied [r] = some r := by simp [lastApplied, happlied]
      have hle := hfair hstale r 110 hlast hread
      rw [hstamp] at hle
      exact absurd hle (by decide)

end Billing

end WhatsappCrm
