/-
Purpose: What each statement of the pipeline can do to the database, said once for all its programs.
-/
import WhatsappCrm.Billing.System

namespace WhatsappCrm

open Interleaving Table Billing

variable (maxAttempts : Nat) (id : Uuid)

variable (row : ReconciliationRow) (ids : ProcessIds)

def recordOf (writes : List (BillingWrite × List BillingRow)) : Option Application :=
  writes.findSome? fun e => match e.1 with
    | .record application => some application
    | _ => none

/-- The writes the transaction holds when it answers: what it has read of the row is what the lock holds. -/
inductive SubscriptionWrites (event : BillingEvent) (source : EventSource) :
    SubscriptionSyncOutcome → List (BillingWrite × List BillingRow) → Prop where
  | stale (row : Option Subscription) (hstale : isStale row event = true) :
      SubscriptionWrites event source .stale
        [(.lockSubscription event.tenantId, [.lock row]),
          (.record { event, source, applied := false, rolled := false }, [.recorded])]
  | unresolved (row : Option Subscription) (detail : String) :
      SubscriptionWrites event source (.unresolvedPlan detail) [(.lockSubscription event.tenantId, [.lock row])]
  | applied (row : Option Subscription) (id planId : Uuid) (seats : Nat) (since : Option Millis)
      (planKey : Option String) (upserted recorded : List BillingRow) (copies : List (BillingWrite × List BillingRow))
      (hfresh : isStale row event = false)
      (hcopies : ∀ e ∈ copies, ∃ plan entitlements, e.1 = .copyEntitlements event.tenantId plan entitlements) :
      SubscriptionWrites event source (.applied planKey seats)
        ((.lockSubscription event.tenantId, [.lock row]) ::
          (.upsertSubscription id event planId seats since, upserted) :: copies ++
            [(.record { event, source, applied := true, rolled := periodMoves row event }, recorded)])

inductive SubscriptionEffect (writes : List (BillingWrite × List BillingRow)) : BillingDb → BillingDb → Prop where
  | unresolved (db : BillingDb) : SubscriptionEffect writes db db
  | stale (event : BillingEvent) (source : EventSource) (db : BillingDb)
      (hrecord : recordOf writes = some { event, source, applied := false, rolled := false })
      (hstale : isStale (db.findSubscription event.tenantId) event = true) :
      SubscriptionEffect writes db
        { db with applications := db.applications ++ [{ event, source, applied := false, rolled := false }] }
  | applied (event : BillingEvent) (source : EventSource) (id planId : Uuid) (seats : Nat) (since : Option Millis)
      (entitlements : List TenantEntitlements) (db : BillingDb)
      (hrecord : recordOf writes = some
        { event, source, applied := true, rolled := periodMoves (db.findSubscription event.tenantId) event })
      (hfresh : isStale (db.findSubscription event.tenantId) event = false) :
      SubscriptionEffect writes db
        { db with
          subscriptions :=
            .upsert id event planId seats since (db.findSubscription event.tenantId) ::
              db.subscriptions.filter (·.tenantId ≠ event.tenantId)
          entitlements
          applications := db.applications ++
            [{ event, source, applied := true,
               rolled := periodMoves (db.findSubscription event.tenantId) event }] }

inductive BillingEffect : BillingStmt → BillingDb → BillingDb → Prop where
  | unchanged (tag : BillingStmt) (db : BillingDb) : BillingEffect tag db db
  | committed {writes : List (BillingWrite × List BillingRow)} {db db' : BillingDb}
      (heffect : SubscriptionEffect writes db db') : BillingEffect (.commit writes) db db'
  | settled (event : BillingEvent) (eventId : Uuid) (db : BillingDb) :
      BillingEffect (.transition event) db (db.settle event eventId).2
  | stored (delivery : BillingDelivery) (db : BillingDb) (hnew : db.knows delivery = false) :
      BillingEffect (.store delivery) db { db with deliveries := db.deliveries ++ [delivery.stored] }
  | claimed (id : Uuid) (db : BillingDb) :
      BillingEffect (.claim id) db (db.updateDeliveries (BillingDelivery.claimable id) BillingDelivery.startAttempt)
  | processed (id : Uuid) (tenantId : Option Uuid) (db : BillingDb) :
      BillingEffect (.markProcessed id) db (db.updateDeliveries (·.id = id) (BillingDelivery.succeed tenantId))
  | parked (id : Uuid) (reason : String) (tenantId : Option Uuid) (db : BillingDb) :
      BillingEffect (.markFailed id) db (db.updateDeliveries (·.id = id) (BillingDelivery.park reason tenantId))
  | noted (id : Uuid) (reason : String) (db : BillingDb) :
      BillingEffect (.noteFailure id) db (db.updateDeliveries (·.id = id) (BillingDelivery.note reason))
  | reset (id : Uuid) (db : BillingDb) :
      BillingEffect (.replay id) db (db.updateDeliveries (BillingDelivery.parked id) BillingDelivery.reset)
  | peopled (tenantId : Uuid) (seatHolders : List SeatHolder) (db : BillingDb) :
      BillingEffect (.changeSeats tenantId) db (db.withSeatHolders tenantId seatHolders)
  | requested (tenantId : Uuid) (allowDecrease : Bool) (origin : SeatRequestOrigin) (db : BillingDb)
      (hmembership : origin = .membership → allowDecrease = false) :
      BillingEffect (.enqueue tenantId allowDecrease origin) db (db.requestSeats tenantId allowDecrease origin)
  | stalled (tenantId : Uuid) (gaveUp : Bool) (db : BillingDb) :
      BillingEffect (.stall tenantId gaveUp) db (db.stallJob tenantId gaveUp)
  | evicted (tenantId : Uuid) (db : BillingDb) : BillingEffect (.evict tenantId) db (db.evictJob tenantId)
  | outage (queueReachable : Bool) (db : BillingDb) : BillingEffect .outage db { db with queueReachable }
  | provided (tenantId : Uuid) (subscriptions : List ProviderSubscription) (db : BillingDb) :
      BillingEffect (.providerChange tenantId) db (db.withProviderSubscriptions tenantId subscriptions)
  | ticked (ours theirs : Nat) (db : BillingDb) : BillingEffect .tick db (db.elapse ours theirs)

inductive PushEffect (tenantId : Uuid) (job : TakenJob) : BillingStmt → BillingDb → BillingDb → Prop where
  | unchanged (tag : BillingStmt) (db : BillingDb) : PushEffect tenantId job tag db db
  | counting (db : BillingDb) :
      PushEffect tenantId job (.countMembers tenantId job.attempt) db (db.beginCount tenantId job.attempt)
  | counted (db : BillingDb) :
      PushEffect tenantId job (.countPending tenantId job.attempt) db (db.endCount tenantId job.attempt job.allowDecrease)
  | pushed (id : String) (stored seats : Nat) (db : BillingDb) (hrule : stored ≤ seats ∨ job.allowDecrease = true) :
      PushEffect tenantId job (.updateSeats tenantId id stored job.allowDecrease) db (db.pushSeats tenantId job id seats)
  | metered (seats : Nat) (db : BillingDb) :
      PushEffect tenantId job (.storeSeats tenantId) db (db.storeSeats tenantId seats)
  | finished (succeeded : Bool) (db : BillingDb) :
      PushEffect tenantId job (.finish tenantId job.attempt succeeded) db (db.finishJob tenantId job.attempt succeeded)

inductive WorkEffect (tenantId : Uuid) : BillingStmt → BillingDb → BillingDb → Prop where
  | unchanged (tag : BillingStmt) (db : BillingDb) : WorkEffect tenantId tag db db
  | held (db : BillingDb) : WorkEffect tenantId (.take tenantId) db (db.holdJob tenantId)
  | attempt {job : TakenJob} {tag : BillingStmt} {db db' : BillingDb} (h : PushEffect tenantId job tag db db') :
      WorkEffect tenantId tag db db'

namespace Billing

abbrev Works {α : Type} (p : BillingProg α) : Prop := p.Within (fun _ => True) BillingEffect

variable {α : Type} {tag : BillingStmt} {tenantId : Uuid} {event : BillingEvent}
  {ws : List (BillingWrite × List BillingRow)}

theorem read_works : Works (.read tag f) :=
  Prog.Within.read fun s _ => .unchanged tag s

theorem attemptStep_within {W : BillingStmt → BillingDb → BillingDb → Prop} {step : Type} [DecidableEq step]
    {fault : Option (Fault step)} {name : step} {work : BillingProg (Except BillingError α)}
    (h : work.Within (fun _ => True) W) : (attemptStep fault name work).Within (fun _ => True) W := by
  cases fault with
  | none => exact h
  | some =>
    simp only [attemptStep]
    split
    · exact h
    · split
      · exact h.bind fun _ => trivial
      · trivial

theorem attemptRead_within {W : BillingStmt → BillingDb → BillingDb → Prop} {step : Type} [DecidableEq step]
    {fault : Option (Fault step)} {name : step} {work : BillingProg (Except BillingError α)}
    (h : work.Within (fun _ => True) W) : (attemptRead fault name work).Within (fun _ => True) W :=
  attemptStep_within h

theorem enqueue_works {origin : SeatRequestOrigin}
    (hmembership : origin = .membership → allowDecrease = false) : Works (enqueue tenantId allowDecrease origin) :=
  Prog.Within.stmt fun s _ => .requested tenantId allowDecrease origin s hmembership

theorem isStale_unmetered (row : Option Subscription) (event : BillingEvent) :
    isStale (row.map Subscription.unmetered) event = isStale row event := by
  cases row <;> rfl

theorem periodMoves_unmetered (row : Option Subscription) (event : BillingEvent) :
    periodMoves (row.map Subscription.unmetered) event = periodMoves row event := by
  cases row <;> rfl

theorem findSubscription_tenantId {db : BillingDb} {s : Subscription}
    (h : db.findSubscription tenantId = some s) : s.tenantId = tenantId := by
  have hfound := List.find?_some h
  simpa using hfound

theorem upsert_tenantId (event : BillingEvent) (planId : Uuid) (seats : Nat) (since : Option Millis)
    (db : BillingDb) :
    (Subscription.upsert id event planId seats since (db.findSubscription event.tenantId)).tenantId =
      event.tenantId := by
  have hkeeps : ∀ s : Subscription, (s.apply event planId seats since).tenantId = s.tenantId := by
    intro s
    simp only [Subscription.apply, Subscription.withCancellation, Subscription.withPeriod, Subscription.withProvider]
    split <;> split <;> rfl
  cases hfound : db.findSubscription event.tenantId with
  | none => exact hkeeps _
  | some s => exact (hkeeps s).trans (findSubscription_tenantId hfound)

/-- The reads and the copies of the transaction change no table the guard is about. -/
theorem resolvePlan_gathers : (resolvePlan event).Gathers billingWrites (fun _ _ => True) (fun _ ws' => ws' = ws) ws := by
  have hkey : (resolvePlanKey event).Gathers billingWrites (fun _ _ => True) (fun _ ws' => ws' = ws) ws := by
    rw [resolvePlanKey]
    split
    · rfl
    · exact fun _ _ _ _ => rfl
  rw [resolvePlan]
  split
  · exact hkey
  · rename_i providerProductId _
    have hproduct : (findPlanByProduct providerProductId).Gathers billingWrites (fun _ _ => True)
        (fun _ ws' => ws' = ws) ws := fun _ _ _ _ => rfl
    apply hproduct.bind
    intro found ws' hws'
    subst hws'
    cases found with
    | some => rfl
    | none => exact hkey

theorem copyEntitlements_gathers :
    (copyEntitlements tenantId plan).Gathers billingWrites (fun _ _ => True) (fun _ ws' => ∃ copies, ws' = ws ++ copies ∧
      ∀ e ∈ copies, ∃ plan entitlements, e.1 = .copyEntitlements tenantId plan entitlements) ws := by
  cases plan with
  | none => exact ⟨[], by simp⟩
  | some plan =>
    rw [copyEntitlements]
    cases plan.entitlements with
    | none => exact ⟨[], by simp⟩
    | some =>
      intro _ _ rows _ _ _ _
      by_cases hrows : rows = []
      · rw [if_pos hrows]
        exact ⟨[], by simp⟩
      · rw [if_neg hrows]
        exact ⟨_, rfl, by simp⟩

theorem lock_reads {row : Option Subscription}
    (h : applyAll billingWrites [(.lockSubscription tenantId, [.lock row])] s = .ok v) :
    v = s ∧ row = (s.findSubscription tenantId).map Subscription.unmetered := by
  have hlock := applyAll_single.mp h
  simp only [billingWrites, BillingWrite.apply, Except.ok.injEq, Prod.mk.injEq] at hlock
  obtain ⟨hrow, hsame⟩ := hlock
  exact ⟨hsame.symm, by simpa using hrow.symm⟩

theorem applySubscriptionEvent_gathers (event : BillingEvent) (source : EventSource) (id : Uuid) :
    (applySubscriptionEvent event source id).Gathers billingWrites (fun _ _ => True)
      (SubscriptionWrites event source) [] := by
  rw [applySubscriptionEvent]
  intro s v rows v' _ hv hlock
  cases hv
  cases hlock
  intro s' v₁ _ hv₁
  simp only [List.nil_append, List.cons_ne_nil, if_false] at hv₁ ⊢
  obtain ⟨hsame, hrow⟩ := lock_reads hv₁
  rw [hsame, hrow]
  generalize s'.findSubscription event.tenantId = existing
  simp only [Tx.bind_pure_left]
  cases hstale : isStale existing event with
  | true =>
    rw [if_pos rfl]
    intro s₂ v₂ rows v₂' _ _ hrecord
    cases hrecord
    exact .stale _ (by rwa [isStale_unmetered])
  | false =>
    rw [if_neg Bool.false_ne_true]
    apply resolvePlan_gathers.bind
    intro plan ws hws
    subst hws
    split
    · exact .unresolved _ _
    · rename_i planId _
      intro s₂ v₂ upserted v₂' _ _ hupsert
      have hheld : upserted ≠ [] := by
        cases (ok_of_ite hupsert).2
        exact List.cons_ne_nil _ _
      rw [if_neg hheld]
      apply copyEntitlements_gathers.bind
      intro _ ws hws
      obtain ⟨copies, rfl, hcopies⟩ := hws
      intro s₃ v₃ recorded v₃' _ _ hrecord
      cases hrecord
      rw [← periodMoves_unmetered]
      exact .applied _ id planId _ _ _ upserted _ copies (by rwa [isStale_unmetered]) hcopies

theorem copies_apply (hcopies : ∀ e ∈ copies, ∃ plan entitlements, e.1 = .copyEntitlements tenantId plan entitlements)
    (h : applyAll billingWrites copies s = .ok s') : ∃ entitlements, s' = { s with entitlements } := by
  apply applyAll_induct (Q := fun w _ => ∃ plan entitlements, w = .copyEntitlements tenantId plan entitlements)
    (K := fun v => ∃ entitlements, v = { s with entitlements }) _ hcopies ⟨s.entitlements, rfl⟩ h
  rintro w rows v v' ⟨plan, entitlements, rfl⟩ ⟨before, rfl⟩ happly
  cases happly
  exact ⟨_, rfl⟩

theorem recordOf_applied {id : Uuid} {seats : Nat} {held recorded : List BillingRow}
    (hcopies : ∀ e ∈ copies, ∃ plan entitlements, e.1 = .copyEntitlements tenantId plan entitlements) :
    recordOf ((.lockSubscription t, held) :: (.upsertSubscription id event planId seats since, upserted) :: copies ++
      [(.record application, recorded)]) = some application := by
  have hnone : copies.findSome? (fun e => match e.1 with
      | .record application => some application
      | _ => none) = none := by
    apply List.findSome?_eq_none_iff.mpr
    intro e he
    obtain ⟨plan, entitlements, he⟩ := hcopies e he
    rw [he]
  simp [recordOf, List.findSome?_append, hnone]

theorem subscriptionWrites_commit (hws : SubscriptionWrites event source outcome ws)
    (happly : applyAll billingWrites ws s = .ok s') : SubscriptionEffect ws s s' := by
  cases hws with
  | stale row hstale =>
    obtain ⟨s₁, hlock, hrecord⟩ := (@applyAll_snoc_ok _ _ _ _ _ billingWrites [_] _ _ _ _).mp happly
    obtain ⟨rfl, rfl⟩ := lock_reads hlock
    cases hrecord
    rw [isStale_unmetered] at hstale
    exact .stale event source _ rfl hstale
  | unresolved =>
    obtain ⟨rfl, -⟩ := lock_reads happly
    exact .unresolved _
  | applied row id planId seats since planKey upserted recorded copies hfresh hcopies =>
    obtain ⟨s₃, hwrites, hrecord⟩ := applyAll_snoc_ok.mp happly
    obtain ⟨s₁, hlock, hrest⟩ := (@applyAll_append_ok _ _ _ _ _ billingWrites [_] (_ :: copies) _ _).mp hwrites
    obtain ⟨rfl, rfl⟩ := lock_reads hlock
    obtain ⟨s₂, hupsert, hcopied⟩ := applyAll_cons_ok.mp hrest
    obtain ⟨entitlements, rfl⟩ := copies_apply hcopies hcopied
    cases (ok_of_ite hupsert).2
    cases hrecord
    rw [isStale_unmetered] at hfresh
    rw [periodMoves_unmetered, upsert_tenantId]
    exact .applied event source id planId seats since entitlements _ (recordOf_applied hcopies) hfresh

theorem applyEvent_works (event : BillingEvent) (source : EventSource) (newId : Uuid) :
    Works (applyEvent event source newId) := by
  apply Tx.Gathers.within (fun tag s _ => .unchanged tag s) _ (applySubscriptionEvent_gathers event source newId)
  exact fun _ _ _ _ _ hws happly => .committed (subscriptionWrites_commit hws happly)

theorem applyBillingEvent_works (event : BillingEvent) (eventId : Uuid) : Works (applyBillingEvent event eventId) :=
  Prog.Within.stmt fun s _ => .settled event eventId s

theorem updateDelivery_works {id : Uuid}
    (h : ∀ db : BillingDb, BillingEffect tag db (db.updateDeliveries (·.id = id) f)) : Works (updateDelivery tag id f) := by
  apply Prog.Within.stmt
  intro s _
  split
  · exact h s
  · exact .unchanged tag s

theorem markProcessed_works (tenantId : Option Uuid) : Works (markProcessed id tenantId) :=
  updateDelivery_works fun db => .processed id tenantId db

theorem markFailed_works (reason : String) (tenantId : Option Uuid) : Works (markFailed id reason tenantId) :=
  updateDelivery_works fun db => .parked id reason tenantId db

theorem recordAttemptFailure_works (reason : String) : Works (recordAttemptFailure id reason) :=
  updateDelivery_works fun db => .noted id reason db

theorem ingest_works (delivery : BillingDelivery) : Works (ingest delivery) := by
  apply Prog.Within.stmt
  intro s _
  split
  · exact .unchanged _ s
  · rename_i hknown
    exact .stored delivery s (Bool.eq_false_of_not_eq_true hknown)

theorem claim_works : Works (claim id) := by
  apply Prog.Within.stmt
  intro s _
  split
  · exact .unchanged _ s
  · exact .claimed id s

theorem replay_works : Works (replay id) :=
  Prog.Within.stmt fun s _ => .reset id s

theorem resolveByCustomer_works (providerCustomerId : Option String) : Works (resolveByCustomer providerCustomerId) := by
  cases providerCustomerId with
  | none => trivial
  | some => exact read_works

theorem resolveTenant_works (subject : WebhookSubject) : Works (resolveTenant subject) := by
  simp only [resolveTenant, resolveByProvider]
  split
  · trivial
  · split
    · exact resolveByCustomer_works _
    · apply read_works.bind
      intro found
      cases found with
      | some => trivial
      | none => exact resolveByCustomer_works _

theorem settle_works (event : BillingEvent) (eventId : Uuid) (fault : Option (Fault ProcessStep)) :
    Works (settle event eventId fault) := by
  apply (attemptStep_within (applyBillingEvent_works event eventId)).bind
  intro answer
  cases answer with
  | error => trivial
  | ok _ =>
    dsimp only
    split
    · trivial
    · exact Prog.Within.bind (enqueue_works fun h => by cases h) fun _ => trivial

theorem applyDelivery_works (event : BillingEvent) (ids : ProcessIds) (fault : Option (Fault ProcessStep)) :
    Works (applyDelivery id event ids fault) := by
  apply (attemptStep_within (applyEvent_works event .webhook ids.subscriptionId)).bind
  intro answer
  cases answer with
  | error => trivial
  | ok outcome =>
    cases outcome with
    | unresolvedPlan => exact attemptStep_within (markFailed_works _ _ _)
    | stale => exact attemptStep_within (markProcessed_works _ _)
    | applied =>
      apply (settle_works event ids.eventId fault).bind
      intro settled
      cases settled with
      | error => trivial
      | ok _ => exact attemptStep_within (markProcessed_works _ _)

theorem handleFailure_works (claimed : ClaimedDelivery) (tenantId : Uuid) (error : BillingError) :
    Works (handleFailure maxAttempts claimed tenantId error) := by
  simp only [handleFailure]
  split
  · exact markFailed_works _ _ _
  · apply (recordAttemptFailure_works _ _).bind
    intro answer
    cases answer <;> trivial

theorem processFor_works (claimed : ClaimedDelivery) (ids : ProcessIds)
    (fault : Option (Fault ProcessStep)) (tenantId : Uuid) :
    Works (processFor maxAttempts claimed ids fault tenantId) := by
  simp only [processFor]
  split
  · exact markFailed_works _ _ _
  · exact markProcessed_works _ _
  · apply (applyDelivery_works _ _ _ _).bind
    intro answer
    cases answer with
    | ok => trivial
    | error => exact handleFailure_works _ _ _ _

theorem process_works (fault : Option (Fault ProcessStep)) : Works (process maxAttempts id ids fault) := by
  apply (claim_works id).bind
  intro found
  cases found with
  | none => trivial
  | some =>
    apply (resolveTenant_works _).bind
    intro tenant
    cases tenant with
    | none => exact markFailed_works _ _ _
    | some => exact processFor_works _ _ _ _ _

theorem getSubscription_works (tenantId : Uuid) (fault : Option (Fault ReconcileStep)) :
    Works (getSubscription tenantId fault) := by
  apply Prog.Within.bind (attemptRead_within read_works)
  intro answer
  cases answer with
  | error => trivial
  | ok reading =>
    obtain ⟨subscription, readAt⟩ := reading
    cases subscription with
    | none => trivial
    | some => exact read_works.bind fun _ => trivial

theorem correctTenant_works (event : BillingEvent) (eventId : Uuid) : Works (correctTenant row event eventId) := by
  simp only [correctTenant]
  split
  · exact applyBillingEvent_works event eventId
  · trivial

theorem correctSeats_works (event : BillingEvent) : Works (correctSeats row event) := by
  simp only [correctSeats]
  split
  · exact Prog.Within.bind (enqueue_works fun h => by cases h) fun _ => trivial
  · trivial

theorem reconcileOne_works (fault : Option (Fault ReconcileStep)) : Works (reconcileOne row ids fault) := by
  apply (getSubscription_works row.tenantId fault).bind
  intro reading
  cases reading with
  | error => trivial
  | ok found =>
    cases found with
    | none => trivial
    | some reading =>
      apply (attemptStep_within (applyEvent_works reading.1 _ ids.subscriptionId)).bind
      intro answer
      cases answer with
      | error => trivial
      | ok outcome =>
        cases outcome with
        | applied =>
          apply (attemptStep_within (correctTenant_works row reading.1 ids.eventId)).bind
          intro corrected
          cases corrected with
          | error => trivial
          | ok _ => exact (correctSeats_works row reading.1).bind fun _ => trivial
        | _ => trivial

theorem reconcileRows_works (ids : Uuid → ProcessIds) (faults : Uuid → Option (Fault ReconcileStep))
    (rows : List ReconciliationRow) (report : ReconciliationReport) :
    Works (reconcileRows ids faults rows report) := by
  induction rows generalizing report with
  | nil => trivial
  | cons row rows ih =>
    apply (reconcileOne_works row (ids row.tenantId) (faults row.tenantId)).bind
    intro answer
    cases answer <;> exact ih _

theorem reconcile_works (ids : Uuid → ProcessIds) (faults : Uuid → Option (Fault ReconcileStep)) :
    Works (reconcile ids faults) :=
  read_works.bind fun _ => reconcileRows_works ids faults _ _

abbrev Pushes {α : Type} (tenantId : Uuid) (job : TakenJob) (p : BillingProg α) : Prop :=
  p.Within (fun _ => True) (PushEffect tenantId job)

theorem read_pushes : Pushes tenantId job (.read tag f) :=
  Prog.Within.read fun s _ => .unchanged tag s

theorem currentSeatCount_pushes (tenantId : Uuid) (job : TakenJob) (fault : Option (Fault PushStep)) :
    Pushes tenantId job (currentSeatCount tenantId job fault) := by
  have hmembers : Pushes tenantId job (countMembers tenantId job) := Prog.Within.stmt fun s _ => .counting s
  have hpending : Pushes tenantId job (countPending tenantId job) := Prog.Within.stmt fun s _ => .counted s
  apply (attemptRead_within hmembers).bind
  intro members
  cases members with
  | error => trivial
  | ok =>
    apply (attemptRead_within hpending).bind
    intro pending
    cases pending <;> trivial

theorem updateSeats_pushes (tenantId : Uuid) {job : TakenJob} {stored seats : Nat} (fault : Option (Fault PushStep))
    (hrule : stored ≤ seats ∨ job.allowDecrease = true) :
    Pushes tenantId job (updateSeats tenantId job stored seats fault) := by
  apply Prog.Within.bind (attemptRead_within read_pushes)
  intro found
  cases found with
  | error => trivial
  | ok subscription =>
    cases subscription with
    | none => trivial
    | some subscription =>
      dsimp only
      split
      · trivial
      · exact attemptStep_within (Prog.Within.stmt fun s _ => .pushed subscription.id stored seats s hrule)

theorem pushCount_pushes (tenantId : Uuid) (job : TakenJob) (stored : Nat) (fault : Option (Fault PushStep)) :
    Pushes tenantId job (pushCount tenantId job stored fault) := by
  apply (currentSeatCount_pushes tenantId job fault).bind
  intro count
  cases count with
  | error => trivial
  | ok seats =>
    dsimp only
    split
    · trivial
    · split
      · trivial
      · rename_i hrefused
        have hrule : stored ≤ seats ∨ job.allowDecrease = true := by
          by_cases hlt : seats < stored
          · exact .inr (Bool.eq_true_of_not_eq_false fun h => hrefused ⟨hlt, h⟩)
          · exact .inl (Nat.le_of_not_lt hlt)
        apply (updateSeats_pushes tenantId fault hrule).bind
        intro answer
        cases answer with
        | error => trivial
        | ok _ => exact attemptStep_within (Prog.Within.stmt fun s _ => .metered seats s)

theorem attempt_pushes (tenantId : Uuid) (job : TakenJob) (fault : Option (Fault PushStep)) :
    Pushes tenantId job ((push tenantId job fault).bind fun outcome =>
      (finish tenantId job.attempt outcome.isOk).bind fun _ => .pure outcome) := by
  have hpush : Pushes tenantId job (push tenantId job fault) := by
    apply Prog.Within.bind (attemptRead_within read_pushes)
    intro found
    cases found with
    | error => trivial
    | ok subscription =>
      cases subscription with
      | none => trivial
      | some =>
        dsimp only
        split
        · trivial
        · exact pushCount_pushes tenantId job _ fault
  apply hpush.bind
  intro outcome
  exact Prog.Within.bind (Prog.Within.stmt fun s _ => .finished outcome.isOk s) fun _ => trivial

theorem work_works (tenantId : Uuid) (fault : Option (Fault PushStep)) :
    (work tenantId fault).Within (fun _ => True) (WorkEffect tenantId) := by
  have htake : (take tenantId).Within (fun _ => True) (WorkEffect tenantId) := by
    apply Prog.Within.stmt
    intro s _
    split
    · exact .unchanged _ s
    · exact .held s
  apply htake.bind
  intro taken
  cases taken with
  | none => trivial
  | some job => exact (attempt_pushes tenantId job fault).mono fun _ _ _ _ _ heffect => .attempt heffect

theorem billingProgram_works {call : BillingCall} (hcall : ∀ t fault, call ≠ .work t fault) :
    Works (billingProgram maxAttempts call) := by
  cases call with
  | ingest delivery => exact (ingest_works delivery).bind fun _ => trivial
  | process id ids fault => exact (process_works maxAttempts id ids fault).bind fun _ => trivial
  | replay id => exact (replay_works id).bind fun _ => trivial
  | reconcile ids faults => exact (reconcile_works ids faults).bind fun _ => trivial
  | changeSeats tenantId seatHolders =>
    have hpeople : Works (.stmt (.changeSeats tenantId) fun db => ((), db.withSeatHolders tenantId seatHolders)) :=
      Prog.Within.stmt fun s _ => .peopled tenantId seatHolders s
    exact (hpeople.bind fun _ => enqueue_works fun _ => rfl).bind fun _ => trivial
  | work tenantId fault => exact absurd rfl (hcall tenantId fault)
  | stall tenantId gaveUp => exact (Prog.Within.stmt fun s _ => .stalled tenantId gaveUp s).bind fun _ => trivial
  | evict tenantId => exact (Prog.Within.stmt fun s _ => .evicted tenantId s).bind fun _ => trivial
  | outage queueReachable => exact (Prog.Within.stmt fun s _ => .outage queueReachable s).bind fun _ => trivial
  | providerChange tenantId subscriptions =>
    exact (Prog.Within.stmt fun s _ => .provided tenantId subscriptions s).bind fun _ => trivial
  | tick ours theirs => exact (Prog.Within.stmt fun s _ => .ticked ours theirs s).bind fun _ => trivial

def PipelineEffect (tag : BillingStmt) (db db' : BillingDb) : Prop :=
  BillingEffect tag db db' ∨ ∃ tenantId, WorkEffect tenantId tag db db'

theorem billingProgram_effects (call : BillingCall) :
    (billingProgram maxAttempts call).Within (fun _ => True) PipelineEffect := by
  by_cases hwork : ∃ tenantId fault, call = .work tenantId fault
  · obtain ⟨tenantId, fault, rfl⟩ := hwork
    have hworks : (billingProgram maxAttempts (.work tenantId fault)).Within (fun _ => True) (WorkEffect tenantId) :=
      (work_works tenantId fault).bind fun _ => trivial
    exact hworks.mono fun _ _ _ _ _ heffect => .inr ⟨tenantId, heffect⟩
  · simp only [not_exists] at hwork
    have hworks := billingProgram_works maxAttempts hwork
    exact hworks.mono fun _ _ _ _ _ heffect => .inl heffect

end Billing

end WhatsappCrm
