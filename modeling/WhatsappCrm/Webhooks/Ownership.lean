/-
Purpose: Who may write the status of a stored event.
-/
import WhatsappCrm.Webhooks.Events

namespace WhatsappCrm.Webhooks

open Interleaving Table

def ByLatestClaim (db : WebhookDb) (tag : WebhookStmt) (id : Uuid) : Prop :=
  match tag with
  | .claim claimedId => claimedId = id
  | .markProcessed markedId claimed => markedId = id ∧ db.claims.count id = claimed
  | .markFailed markedId claimed => markedId = id ∧ db.claims.count id = claimed
  | _ => False

def WebhookStmt.isMarkProcessed : WebhookStmt → Bool
  | .markProcessed _ _ => true
  | _ => false

def RespectsOwner (tag : WebhookStmt) (db db' : WebhookDb) : Prop :=
  ∀ e ∈ db.events, ∀ e' ∈ db'.events, e'.id = e.id →
    (e.status = .processed → e'.status = .processed ∧ (tag.isMarkProcessed = false → e' = e)) ∧
      (e'.status ≠ e.status → ByLatestClaim db tag e.id)

/-- The condition on a worker's statement. A mark is the latest claimant's, or it writes the status the event has;
    nothing parks a processed event or writes another error text to it. -/
def OwnerMayWrite (db : WebhookDb) : WebhookStmt → Prop
  | .markProcessed id claimed => ∀ e ∈ db.events, e.id = id → e.status = .processed ∨ db.claims.count id = claimed
  | .markFailed id claimed => ∀ e ∈ db.events, e.id = id →
      e.status ≠ .processed ∧ (e.status = .failed ∨ db.claims.count id = claimed)
  | .recordAttemptFailure id reason => ∀ e ∈ db.events, e.id = id →
      e.status = .processed → e.lastError = some reason
  | _ => True

theorem withId_iff {id : Uuid} {e : WebhookEvent} : e.withId id = true ↔ e.id = id := by
  simp [WebhookEvent.withId]

theorem UniqueEvents.eq_updated {db db' : WebhookDb} (hdb : UniqueEvents db)
    {f : WebhookEvent → WebhookEvent} (hevents : db'.events = updateWhere p f db.events) (hf : ∀ e, (f e).id = e.id)
    (he : e ∈ db.events) (he' : e' ∈ db'.events) (hid : e'.id = e.id) : e' = if p e then f e else e := by
  rw [hevents] at he'
  exact UniqueBy.eq_updated hdb (fun e => congrArg some (hf e)) he he' rfl (congrArg some hid)

section Marks

variable {db db' : WebhookDb} {tag : WebhookStmt} {id : Uuid} {f : WebhookEvent → WebhookEvent}

theorem UpdatesEvent.respects_iff (h : UpdatesEvent id f db db') (hf : ∀ e, (f e).id = e.id)
    (hdb : UniqueEvents db) : RespectsOwner tag db db' ↔ ∀ e ∈ db.events, e.id = id →
      (e.status = .processed → (f e).status = .processed ∧ (tag.isMarkProcessed = false → f e = e)) ∧
        ((f e).status ≠ e.status → ByLatestClaim db tag e.id) := by
  constructor
  · intro hrespects e he hid
    apply hrespects e he
    · rw [h.1]
      simpa [withId_iff.mpr hid] using mem_updateWhere_of_mem (p := WebhookEvent.withId id) (f := f) he
    · exact hf e
  · intro hrow e he e' he' hid
    rw [hdb.eq_updated h.1 hf he he' hid]
    cases hp : e.withId id with
    | true => simpa [hp] using hrow e he (withId_iff.mp hp)
    | false => simp

end Marks

theorem WorkerEffect.respectsOwner_iff {tag : WebhookStmt} {db db' : WebhookDb} (h : WorkerEffect tag db db')
    (hdb : UniqueEvents db) : RespectsOwner tag db db' ↔ OwnerMayWrite db tag := by
  obtain ⟨hworker, heffect⟩ := h
  cases heffect with
  | same htag hnote h =>
    have hmay : OwnerMayWrite db tag := by
      cases tag with
      | markProcessed id claimed => exact absurd rfl (htag id claimed).1
      | markFailed id claimed => exact absurd rfl (htag id claimed).2
      | recordAttemptFailure id reason => exact absurd rfl (hnote id reason)
      | _ => trivial
    refine iff_of_true (fun e he e' he' hid => ?_) hmay
    rw [h.1] at he'
    rw [UniqueBy.eq_of_entry hdb he' he (congrArg some hid) rfl]
    exact ⟨fun hprocessed => ⟨hprocessed, fun _ => rfl⟩, fun hne => absurd rfl hne⟩
  | store | reset => cases hworker
  | claim id h =>
    refine iff_of_true (fun e he e' he' hid => ?_) trivial
    rw [hdb.eq_updated h.events (fun _ => rfl) he he' hid]
    cases hp : e.claimable id with
    | false => exact ⟨fun hprocessed => ⟨hprocessed, fun _ => rfl⟩, fun hne => absurd rfl hne⟩
    | true =>
      simp only [WebhookEvent.claimable, decide_eq_true_eq] at hp
      obtain ⟨hid, hstatus⟩ := hp
      refine ⟨fun hprocessed => ?_, fun _ => hid.symm⟩
      rw [hprocessed] at hstatus
      simp at hstatus
  | processed id claimed tenantId h =>
    rw [h.respects_iff (fun _ => rfl) hdb]
    refine forall₃_congr fun e he hid => ?_
    simp only [WebhookEvent.succeed, WebhookStmt.isMarkProcessed, ByLatestClaim, hid, true_and, reduceCtorEq,
      false_imp_iff, and_self, implies_true, ne_eq]
    rw [eq_comm (a := WebhookEventStatus.processed), or_iff_not_imp_left]
  | failed id claimed reason tenantId h =>
    rw [h.respects_iff (fun _ => rfl) hdb]
    refine forall₃_congr fun e he hid => ?_
    simp only [WebhookEvent.park, ByLatestClaim, hid, true_and, reduceCtorEq, false_and, imp_false, ne_eq]
    rw [eq_comm (a := WebhookEventStatus.failed), or_iff_not_imp_left]
  | noted id reason h =>
    rw [h.respects_iff (fun _ => rfl) hdb]
    refine forall₃_congr fun e he hid => ?_
    constructor
    · intro hrespects hprocessed
      exact (congrArg WebhookEvent.lastError ((hrespects.1 hprocessed).2 rfl)).symm
    · intro hmay
      refine ⟨fun hprocessed => ⟨hprocessed, fun _ => ?_⟩, fun hne => absurd rfl hne⟩
      rw [WebhookEvent.note, ← hmay hprocessed]

def WebhookCall.isProcess : WebhookCall → Bool
  | .process _ => true
  | _ => false

def WorkerStep (s : WebhookSys) (tag : WebhookStmt) (s' : WebhookSys) : Prop :=
  ∃ (i : Nat) (call : WebhookCall) (β : Type) (act : WebhookDb → β × WebhookDb)
      (next : β → WebhookProg WebhookReply), call.isProcess = true ∧
    s.calls[i]? = some (call, .atomic tag act next) ∧ s' = s.exec i call act next

def onlyOwners (s : WebhookSys) (_ : WebhookCall) (tag : WebhookStmt) : Prop := OwnerMayWrite s.db tag

/-- What a call's statement does; of a worker's it says more. -/
def CallEffect : WebhookCall → WebhookStmt → WebhookDb → WebhookDb → Prop
  | .process _, tag, db, db' => WorkerEffect tag db db'
  | _, tag, db, db' => EventEffect tag db db'

theorem webhookProgram_effect (config : WebhookConfig) (call : WebhookCall) :
    (webhookProgram config call).Within (fun _ => True) (CallEffect call) := by
  cases call with
  | process id => exact (process_within config id).bind fun _ => trivial
  | ingest providerEventId payload => exact webhookProgram_within config (.ingest providerEventId payload)
  | sweep now => exact webhookProgram_within config (.sweep now)
  | replay id actorLabel => exact webhookProgram_within config (.replay id actorLabel)
  | connect account => exact webhookProgram_within config (.connect account)
  | serve tenantId active => exact webhookProgram_within config (.serve tenantId active)
  | elapse ms => exact webhookProgram_within config (.elapse ms)

theorem WorkerStep.effect {db : WebhookDb} {tag : WebhookStmt}
    (hs : WebhookRun config db s) (hstep : WorkerStep s tag s') : WorkerEffect tag s.db s'.db := by
  have hfollows := Reachable.follows (fun call => webhookProgram_effect config call) (fun _ _ => trivial) hs
  obtain ⟨i, call, β, act, next, hprocess, hcall, rfl⟩ := hstep
  have hspec := (hfollows.exec_spec trivial hcall).1
  cases call <;> first | exact hspec | cases hprocess

def HoldsProcessed (id : Uuid) (db : WebhookDb) : Prop := ∃ e ∈ db.events, e.id = id ∧ e.status = .processed

theorem HoldsProcessed.updated {id : Uuid} {db db' : WebhookDb}
    {f : WebhookEvent → WebhookEvent} (hevents : db'.events = updateWhere p f db.events) (hf : ∀ e, (f e).id = e.id)
    (hkeep : ∀ e ∈ db.events, e.id = id → p e = true → e.status = .processed → (f e).status = .processed)
    (h : HoldsProcessed id db) : HoldsProcessed id db' := by
  obtain ⟨e, he, hid, hstatus⟩ := h
  have hmem := mem_updateWhere_of_mem (p := p) (f := f) he
  rw [← hevents] at hmem
  refine ⟨_, hmem, ?_⟩
  cases hp : p e with
  | false => exact ⟨hid, hstatus⟩
  | true => exact ⟨(hf e).trans hid, hkeep e he hid hp hstatus⟩

theorem EventEffect.holdsProcessed {tag : WebhookStmt} {db db' : WebhookDb} {id : Uuid}
    (heffect : EventEffect tag db db') (hmay : OwnerMayWrite db tag) (h : HoldsProcessed id db) :
    HoldsProcessed id db' := by
  cases heffect with
  | same _ _ hsame =>
    rw [HoldsProcessed, hsame.1]
    exact h
  | store event hstore =>
    obtain ⟨e, he, hprocessed⟩ := h
    rw [HoldsProcessed, hstore.events]
    exact ⟨e, List.mem_append_left _ he, hprocessed⟩
  | claim claimedId hclaim =>
    apply h.updated hclaim.events (fun _ => rfl)
    intro e _ _ hp hprocessed
    simp [WebhookEvent.claimable, hprocessed] at hp
  | processed markedId claimed tenantId hmark =>
    exact h.updated hmark.1 (fun _ => rfl) fun _ _ _ _ _ => rfl
  | failed markedId claimed reason tenantId hmark =>
    apply h.updated hmark.1 (fun _ => rfl)
    intro e he _ hp hprocessed
    exact absurd hprocessed (hmay e he (withId_iff.mp hp)).1
  | noted markedId reason hmark => exact h.updated hmark.1 (fun _ => rfl) fun _ _ _ _ hprocessed => hprocessed
  | reset resetId hreset =>
    apply h.updated hreset.1 (fun _ => rfl)
    intro e _ _ hp hprocessed
    simp [WebhookEvent.parked, hprocessed] at hp

theorem processed_events_stay {db : WebhookDb} (hs : Reachable (webhookProgram config) onlyOwners (.idle db) s)
    (hs' : Reachable (webhookProgram config) onlyOwners s s') {id : Uuid} (h : HoldsProcessed id s.db) :
    HoldsProcessed id s'.db := by
  induction hs' with
  | refl => exact h
  | @tail s₁ s₂ hs₁ hstep ih =>
    have hfollows := Reachable.follows (webhookProgram_within config) (fun _ _ => trivial) (hs.trans hs₁)
    rcases hstep.effect hfollows trivial with heq | ⟨_, tag, hmay, heffect⟩
    · rwa [heq]
    · exact heffect.holdsProcessed hmay ih

def oneStoredEvent : WebhookDb :=
  { serviceable := [1]
    events := [{ id := 1, provider := whatsappProvider, providerEventId := "a", receivedAt := 0
                 payload := .inr [{ field := messagesField
                                    value := .inr {
                                      phoneNumberId := "100"
                                      messages := [{ id := "m1", source := "15551234567", timestamp := 0 }] } }] }]
    uuids := [11, 12] }

/-- A worker is about to draw what becomes of its claim. -/
def processStarted (config : WebhookConfig) : WebhookSys :=
  (Sys.idle oneStoredEvent).spawn (webhookProgram config) (.process 1)

def slowWorkerSchedule : List (Move WebhookCall) :=
  [.spawn (.process 1), .step 0, .step 0, .step 0, .step 0, .step 0,
    .spawn (.connect { id := 2, tenantId := 1, phoneNumberId := "100" }), .step 1,
    .spawn (.process 1)] ++ List.replicate 17 (.step 2)

end WhatsappCrm.Webhooks
