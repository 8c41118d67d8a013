/-
Purpose: What a subscription makes of its events.
-/
import WhatsappCrm.Billing.Reconciled
import WhatsappCrm.Lib.Register

namespace WhatsappCrm

open Interleaving Table Register

namespace Billing

/-- The columns that the events alone decide. -/
def Subscription.standing (s : Subscription) : Subscription := { s with id := 0, planId := 0, seats := 0, pastDueSince := none }

def standing (t : Uuid) (db : BillingDb) : Option Subscription := (db.findSubscription t).map Subscription.standing

def Application.occurredAt (a : Application) : Millis := a.event.occurredAt

def overwrite (found : Option Subscription) (a : Application) : Option Subscription :=
  some (.upsert 0 a.event 0 0 none found)

/-- Of the events that reached the row, those that no newer one had preceded made it what it is. -/
abbrev ReplaysFrom (t : Uuid) (db₀ db : BillingDb) : Prop :=
  Replays Application.occurredAt Application.applied (·.bind (·.lastEventAt)) overwrite (standing t db₀)
    (ofTenant t db) (standing t db)

theorem upsert_standing (id : Uuid) (event : BillingEvent) (planId : Uuid) (seats : Nat) (since : Option Millis) (found : Option Subscription) :
    (Subscription.upsert id event planId seats since found).standing =
      .upsert 0 event 0 0 none (found.map Subscription.standing) := by
  cases found <;>
    simp only [Subscription.upsert, Subscription.create, Subscription.apply, Subscription.withProvider,
      Subscription.withPeriod, Subscription.withCancellation, Option.map] <;>
    split <;> split <;> rfl

theorem fresh_iff (event : BillingEvent) (found : Option Subscription) :
    isStale found event = false ↔
      ∀ m ∈ (found.map Subscription.standing).bind (·.lastEventAt), m ≤ event.occurredAt := by
  cases found with
  | none => simp [isStale]
  | some s => cases hmark : s.lastEventAt <;> simp [isStale, Subscription.standing, hmark]

theorem ReplaysFrom.record (h : ReplaysFrom t db₀ db) (a : Application) (htenant : a.event.tenantId = t)
    (ha : a.applied = !isStale (db.findSubscription t) a.event)
    (hrecords : db'.applications = db.applications ++ [a])
    (hrow : standing t db' = if a.applied then overwrite (standing t db) a else standing t db) :
    ReplaysFrom t db₀ db' := by
  have hfresh : a.applied = true ↔ ∀ m ∈ (standing t db).bind (·.lastEventAt), m ≤ a.occurredAt := by
    rw [ha, Bool.not_eq_true', fresh_iff]
    rfl
  have hledger : ofTenant t db' = ofTenant t db ++ [a] := by simp [ofTenant, hrecords, htenant]
  rw [ReplaysFrom, hledger, hrow]
  exact h.concat (fun found a => upsert_lastEventAt 0 a.event 0 0 none found) hfresh

theorem ReplaysFrom.same (h : ReplaysFrom t db₀ db) (hrecords : ofTenant t db' = ofTenant t db)
    (hrow : standing t db' = standing t db) : ReplaysFrom t db₀ db' := by
  rw [ReplaysFrom, hrecords, hrow]
  exact h

theorem ReplaysFrom.commit (h : ReplaysFrom t db₀ db) (heffect : SubscriptionEffect ws db db') :
    ReplaysFrom t db₀ db' := by
  cases heffect with
  | unresolved => exact h
  | stale event source _ _ hstale =>
    by_cases htenant : event.tenantId = t
    · subst htenant
      exact h.record _ rfl (by rw [hstale]; rfl) rfl rfl
    · exact h.same (by simp [ofTenant, htenant]) rfl
  | applied event source id planId seats since entitlements _ _ hfresh =>
    have hfind := find_replaced (t := t) _ event.tenantId db.subscriptions
      (upsert_tenantId id event planId seats since db)
    by_cases htenant : event.tenantId = t
    · subst htenant
      refine h.record _ rfl (by rw [hfresh]; rfl) rfl ?_
      rw [if_pos rfl] at hfind
      rw [standing, BillingDb.findSubscription, hfind]
      exact congrArg some (upsert_standing ..)
    · rw [if_neg htenant] at hfind
      refine h.same (by simp [ofTenant, htenant]) ?_
      rw [standing, standing, BillingDb.findSubscription, hfind, BillingDb.findSubscription]

theorem ReplaysFrom.effect (h : ReplaysFrom t db₀ db) (heffect : PipelineEffect tag db db') : ReplaysFrom t db₀ db' := by
  rcases heffect with heffect | ⟨tenantId, heffect⟩
  · cases heffect with
    | committed heffect => exact h.commit heffect
    | settled =>
      rw [BillingDb.settle]
      split <;> exact h
    | requested =>
      rw [BillingDb.requestSeats]
      split <;> exact h
    | _ => exact h
  · cases heffect with
    | attempt heffect =>
      cases heffect with
      | metered seats =>
        refine h.same rfl ?_
        rw [standing, find_storeSeats]
        cases hrow : db.findSubscription t <;> simp [standing, hrow]
        split <;> rfl
      | _ => exact h
    | _ => exact h

/-- **The ledger.** In every run, an event of the tenant is applied exactly if no newer one reached the subscription
    before it, the row's mark is the newest stamp there was, and what the events decide of the row is what the
    applied ones make of it in the order of their stamps. -/
theorem subscription_replays_its_events (maxAttempts : Nat) (t : Uuid) {db : BillingDb} (h₀ : ofTenant t db = [])
    {s : BillingSys} (hr : BillingRun maxAttempts anyStep db s) : ReplaysFrom t db s.db := by
  have hdb : ReplaysFrom t db db := by
    rw [ReplaysFrom, h₀]
    exact ⟨by simp, by simp [UpTo], rfl⟩
  have hkept := Reachable.keeps (I := ReplaysFrom t db) (N := fun _ tag s _ s' => PipelineEffect tag s s')
    (fun call => (billingProgram_effects maxAttempts call).weaken fun _ _ => trivial)
    (fun _ _ _ _ _ hinv _ heffect => hinv.effect heffect) hdb hr
  exact hkept.1

theorem subscription_replays_its_events_outOfOrder : ∃ s, BillingRun 5 anyStep quietTenant s ∧
    outcomes 1 s.db = [(.reconciliation 110, 200, true), (.webhook, 150, false)] ∧ ReplaysFrom 1 quietTenant s.db := by
  have hrun : (run (billingProgram 5) (fun _ _ _ => true) (readThenDeliver 150) (.idle quietTenant)).map
      (fun s => outcomes 1 s.db) = some [(.reconciliation 110, 200, true), (.webhook, 150, false)] := by
    decide +kernel
  obtain ⟨s, hreach, hend⟩ := ends_of_run_any hrun
  exact ⟨s, hreach, hend, subscription_replays_its_events 5 1 (by decide) hreach⟩

end Billing

end WhatsappCrm
