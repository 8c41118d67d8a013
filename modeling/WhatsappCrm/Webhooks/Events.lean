/-
Purpose: What each statement of the pipeline does to the stored events and to the record of their claims. The transactions
  of the writer leave both alone.
-/
import WhatsappCrm.Webhooks.Processor

namespace WhatsappCrm.Webhooks

open Interleaving Table

variable (claimed : ClaimedWebhookEvent)

variable (account : RoutedWhatsAppAccount) (config : WebhookConfig) (id : Uuid)

def SameEvents (db db' : WebhookDb) : Prop := db'.events = db.events ∧ db'.claims = db.claims

def UpdatesEvent (id : Uuid) (f : WebhookEvent → WebhookEvent) (db db' : WebhookDb) : Prop :=
  db'.events = updateWhere (WebhookEvent.withId id) f db.events ∧ db'.claims = db.claims

/-- A new row that clashes with none, as `store` writes it. -/
structure StoresEvent (event : WebhookEvent) (db db' : WebhookDb) : Prop where
  events : db'.events = db.events ++ [event]
  claims : db'.claims = db.claims
  status : event.status = .received
  attempts : event.attempts = 0
  fresh : ∀ e ∈ db.events, ¬ Clash WebhookEvent.idEntry event e
  first : ∀ e ∈ db.events, ¬ Clash WebhookEvent.providerEntry event e

structure ClaimsEvent (id : Uuid) (db db' : WebhookDb) : Prop where
  events : db'.events = updateWhere (WebhookEvent.claimable id) WebhookEvent.startAttempt db.events
  claims : db'.claims = db.claims ++ [id]
  found : ∃ e ∈ db.events, e.claimable id = true

/-- What a statement does to the events and their claims. -/
inductive EventEffect : WebhookStmt → WebhookDb → WebhookDb → Prop where
  | same {tag db db'} (htag : ∀ id n, tag ≠ .markProcessed id n ∧ tag ≠ .markFailed id n)
      (hnote : ∀ id reason, tag ≠ .recordAttemptFailure id reason) (h : SameEvents db db') : EventEffect tag db db'
  | store {db db'} (event : WebhookEvent) (h : StoresEvent event db db') : EventEffect .store db db'
  | claim {db db'} (id : Uuid) (h : ClaimsEvent id db db') : EventEffect (.claim id) db db'
  | processed {db db'} (id : Uuid) (claimed : Nat) (tenantId : Option Uuid)
      (h : UpdatesEvent id (WebhookEvent.succeed tenantId db.now) db db') :
      EventEffect (.markProcessed id claimed) db db'
  | failed {db db'} (id : Uuid) (claimed : Nat) (reason : String) (tenantId : Option Uuid)
      (h : UpdatesEvent id (WebhookEvent.park reason tenantId) db db') : EventEffect (.markFailed id claimed) db db'
  | noted {db db'} (id : Uuid) (reason : String) (h : UpdatesEvent id (WebhookEvent.note reason) db db') :
      EventEffect (.recordAttemptFailure id reason) db db'
  | reset {db db'} (id : Uuid)
      (h : db'.events = updateWhere (WebhookEvent.parked id) WebhookEvent.reset db.events ∧ db'.claims = db.claims) :
      EventEffect (.replay id) db db'

variable {tag : WebhookStmt} {db db' : WebhookDb}

section Programs

abbrev EventProg {α : Type} (p : WebhookProg α) : Prop := p.Within (fun _ => True) EventEffect

def WebhookStmt.ofWorker : WebhookStmt → Bool
  | .store | .replay _ | .findStale | .operate => false
  | _ => true

def WebhookStmt.afterClaim : WebhookStmt → Bool
  | .claim _ => false
  | tag => tag.ofWorker

def WorkerEffect (tag : WebhookStmt) (db db' : WebhookDb) : Prop := tag.ofWorker = true ∧ EventEffect tag db db'

abbrev WorkerProg {α : Type} (p : WebhookProg α) : Prop := p.Within (fun _ => True) WorkerEffect

def AppliesEffect (tag : WebhookStmt) (db db' : WebhookDb) : Prop :=
  tag.afterClaim = true ∧ EventEffect tag db db' ∧ db'.replays = db.replays

abbrev AppliesProg {α : Type} (p : WebhookProg α) : Prop := p.Within (fun _ => True) AppliesEffect

variable {α : Type}

theorem EventProg.stmt {act : WebhookDb → α × WebhookDb}
    (h : ∀ db, EventEffect tag db (act db).2) : EventProg (.stmt tag act) :=
  Prog.Within.stmt fun db _ => h db

theorem AppliesEffect.same (htag : tag.afterClaim = true)
    (hmark : ∀ id n, tag ≠ .markProcessed id n ∧ tag ≠ .markFailed id n)
    (hnote : ∀ id reason, tag ≠ .recordAttemptFailure id reason) (hevents : SameEvents db db')
    (hreplays : db'.replays = db.replays) : AppliesEffect tag db db' :=
  ⟨htag, .same hmark hnote hevents, hreplays⟩

theorem AppliesProg.stmt {act : WebhookDb → α × WebhookDb}
    (htag : tag.afterClaim = true) (h : ∀ db, EventEffect tag db (act db).2)
    (hreplays : ∀ db, (act db).2.replays = db.replays) : AppliesProg (.stmt tag act) :=
  Prog.Within.stmt fun db _ => ⟨htag, h db, hreplays db⟩

theorem AppliesProg.worker (h : AppliesProg p) : WorkerProg p := by
  apply Prog.Follows.mono _ h
  intro tag db _ db' _ heffect
  refine ⟨?_, heffect.2.1⟩
  have htag := heffect.1
  cases tag <;> first | rfl | cases htag

theorem WorkerProg.events (h : WorkerProg p) : EventProg p :=
  Prog.Follows.mono (fun _ _ _ _ _ heffect => heffect.2) h

theorem apply_events {w : InboundWrite} (h : w.apply db = .ok (rows, db')) : SameEvents db db' ∧ db'.replays = db.replays := by
  cases w with
  | upsertContact =>
    simp only [InboundWrite.apply] at h
    split at h
    · cases h
      exact ⟨⟨rfl, rfl⟩, rfl⟩
    · cases (ok_of_ite h).2
      exact ⟨⟨rfl, rfl⟩, rfl⟩
  | openConversation | createMessage =>
    simp only [InboundWrite.apply] at h
    split at h
    · cases h
      exact ⟨⟨rfl, rfl⟩, rfl⟩
    · split at h
      all_goals cases h
      all_goals exact ⟨⟨rfl, rfl⟩, rfl⟩
  | _ =>
    cases h
    exact ⟨⟨rfl, rfl⟩, rfl⟩

theorem applyAll_events (h : applyAll inboundWrites ws db = .ok db') : SameEvents db db' ∧ db'.replays = db.replays :=
  applyAll_induct (Q := fun _ _ => True) (K := fun s => SameEvents db s ∧ s.replays = db.replays)
    (fun _ _ _ _ _ hs happly => by
      obtain ⟨⟨hevents, hclaims⟩, hreplays⟩ := apply_events happly
      exact ⟨⟨hevents.trans hs.1.1, hclaims.trans hs.1.2⟩, hreplays.trans hs.2⟩)
    (fun _ _ => trivial) ⟨⟨rfl, rfl⟩, rfl⟩ h

theorem drawUuid_within : AppliesProg drawUuid :=
  .stmt rfl (fun _ => .same (by simp) (by simp) ⟨rfl, rfl⟩) fun _ => rfl

theorem drawDelivery_within : AppliesProg drawDelivery :=
  .stmt rfl (fun _ => .same (by simp) (by simp) ⟨rfl, rfl⟩) fun _ => rfl

theorem attempt_within {work : WebhookProg (Except WebhookError α)} (hdraw : drawDelivery.Within (fun _ => True) V)
    (h : work.Within (fun _ => True) V) : (attempt work).Within (fun _ => True) V := by
  apply Prog.Within.bind hdraw
  intro delivery
  cases delivery with
  | answered => exact h
  | refused => trivial
  | lost => exact h.bind fun _ => trivial

theorem generating_within (work : GeneratedIds → WriterTx α) : AppliesProg (generating work) := by
  apply Prog.Within.bind drawUuid_within
  intro contactId
  apply Prog.Within.bind drawUuid_within
  intro conversationId
  apply attempt_within drawDelivery_within
  apply Tx.run_within
  · exact fun _ _ _ => .same rfl (by simp) (by simp) ⟨rfl, rfl⟩ rfl
  · exact fun _ _ => .same rfl (by simp) (by simp) ⟨rfl, rfl⟩ rfl
  · intro _ _ _ _ happly
    obtain ⟨hevents, hreplays⟩ := applyAll_events happly
    exact .same rfl (by simp) (by simp) hevents hreplays

theorem applyInboundMessage_within (message : WhatsAppInboundMessage)
    (displayName : Option String) : AppliesProg (applyInboundMessage account message displayName) := by
  simp only [applyInboundMessage]
  cases toPhoneE164 message.source with
  | none => trivial
  | some => exact (generating_within _).bind fun _ => trivial

theorem applyStatusUpdate_within (update : WhatsAppMessageStatusUpdate) :
    AppliesProg (applyStatusUpdate account update) := by
  simp only [applyStatusUpdate]
  cases toMessageStatus update.status with
  | none => trivial
  | some =>
    cases toPhoneE164 update.recipientId with
    | none => trivial
    | some => exact (generating_within _).bind fun _ => trivial

theorem applyEach_within {write : α → WebhookProg (Except WebhookError Bool)} (waId : α → String)
    (hwrite : ∀ a, AppliesProg (write a)) (as : List α) (unroutable : Option String) :
    AppliesProg (applyEach write waId as unroutable) := by
  induction as generalizing unroutable with
  | nil => trivial
  | cons a as ih =>
    apply Prog.Within.bind (hwrite a)
    intro attributed
    cases attributed with
    | error => trivial
    | ok attributed => cases attributed <;> exact ih _

theorem writeChange_within (value : WhatsAppChangeValue) : AppliesProg (writeChange account value) := by
  apply Prog.Within.bind (applyEach_within _ (fun m => applyInboundMessage_within _ _ _) _ _)
  intro messages
  cases messages with
  | error => trivial
  | ok =>
    apply Prog.Within.bind (applyEach_within _ (applyStatusUpdate_within account) _ _)
    intro statuses
    cases statuses <;> trivial

theorem applyChanges_within (changes : List WhatsAppChange) (outcome : ApplyOutcome) :
    AppliesProg (applyChanges changes outcome) := by
  induction changes generalizing outcome with
  | nil => trivial
  | cons change changes ih =>
    simp only [applyChanges]
    split
    · exact ih outcome
    · cases change.value with
      | inl => exact ih _
      | inr value =>
        have hresolve : AppliesProg (resolveAccount value.phoneNumberId) :=
          .stmt rfl (fun _ => .same (by simp) (by simp) ⟨rfl, rfl⟩) fun _ => rfl
        apply Prog.Within.bind (attempt_within drawDelivery_within hresolve)
        intro resolved
        cases resolved with
        | error => trivial
        | ok account =>
          cases account with
          | none => exact ih _
          | some account =>
            apply Prog.Within.bind (writeChange_within account value)
            intro reason
            cases reason with
            | error => trivial
            | ok => exact ih _

theorem updateEvent_within {id : Uuid} {f : Millis → WebhookEvent → WebhookEvent}
    (htag : tag.afterClaim = true) (h : ∀ db db', UpdatesEvent id (f db.now) db db' → EventEffect tag db db') :
    AppliesProg (updateEvent tag id f) := by
  apply AppliesProg.stmt htag
  · intro db
    apply h
    split
    · exact ⟨rfl, rfl⟩
    · rename_i hnone
      refine ⟨(updateWhere_of_none fun e he => ?_).symm, rfl⟩
      simp only [Bool.not_eq_true, List.any_eq_false] at hnone
      simpa using hnone e he
  · intro db
    split <;> rfl

theorem markProcessed_within (tenantId : Option Uuid) : AppliesProg (markProcessed claimed tenantId) :=
  updateEvent_within rfl fun _ _ h => .processed _ _ tenantId h

theorem markFailed_within (reason : String) (tenantId : Option Uuid) : AppliesProg (markFailed claimed reason tenantId) :=
  updateEvent_within rfl fun _ _ h => .failed _ _ reason tenantId h

theorem recordAttemptFailure_within (reason : String) : AppliesProg (recordAttemptFailure claimed reason) :=
  updateEvent_within rfl fun _ _ h => .noted _ reason h

theorem claim_within : WorkerProg (claim id) := by
  apply Prog.Within.stmt
  intro db _
  refine ⟨rfl, ?_⟩
  split
  · exact .same (by simp) (by simp) ⟨rfl, rfl⟩
  · rename_i e hfind
    exact .claim id ⟨rfl, rfl, e, List.mem_of_find?_eq_some hfind, List.find?_some hfind⟩

theorem applyAndMark_within (changes : List WhatsAppChange) : AppliesProg (applyAndMark claimed changes) := by
  apply Prog.Within.bind (applyChanges_within changes {})
  intro applied
  cases applied with
  | error => trivial
  | ok outcome =>
    dsimp only
    cases outcome.parkedReason with
    | none => exact attempt_within drawDelivery_within (markProcessed_within _ _)
    | some => exact attempt_within drawDelivery_within (markFailed_within _ _ _)

theorem handleFailure_within (claimed : ClaimedWebhookEvent) (error : WebhookError) :
    AppliesProg (handleFailure config claimed error) := by
  simp only [handleFailure]
  split
  · exact attempt_within drawDelivery_within (markFailed_within _ _ _)
  · apply Prog.Within.bind (attempt_within drawDelivery_within (recordAttemptFailure_within _ _))
    intro noted
    cases noted <;> trivial

theorem processClaimed_within (claimed : ClaimedWebhookEvent) : AppliesProg (processClaimed config claimed) := by
  simp only [processClaimed]
  cases claimed.payload with
  | inl => exact attempt_within drawDelivery_within (markFailed_within _ _ _)
  | inr changes =>
    apply Prog.Within.bind (applyAndMark_within claimed changes)
    intro applied
    cases applied with
    | error e => exact handleFailure_within config claimed e
    | ok => trivial

theorem process_within : WorkerProg (process config id) := by
  apply Prog.Within.bind (attempt_within drawDelivery_within.worker (claim_within id))
  intro claimed
  cases claimed with
  | error => trivial
  | ok claimed =>
    cases claimed with
    | none => trivial
    | some claimed => exact (processClaimed_within config claimed).worker

theorem ingest_within (providerEventId : String) (payload : WebhookPayload) :
    EventProg (ingest providerEventId payload) := by
  apply Prog.Within.bind drawUuid_within.worker.events
  intro id
  apply attempt_within drawDelivery_within.worker.events
  apply EventProg.stmt
  intro db
  dsimp only
  split
  · exact .same (by simp) (by simp) ⟨rfl, rfl⟩
  · rename_i hnone
    simp only [Bool.not_eq_true, List.any_eq_false, decide_eq_true_eq, not_or] at hnone
    exact .store _ ⟨rfl, rfl, rfl, rfl, fun e he => (hnone e he).2, fun e he => (hnone e he).1⟩

theorem replayEvent_within (actorLabel : String) : EventProg (replayEvent id actorLabel) := by
  have hread : ∀ db, EventEffect (.replay id) db db := fun db => .same (by simp) (by simp) ⟨rfl, rfl⟩
  apply Prog.Within.bind (Prog.Within.read fun db _ => hread db)
  intro found
  cases found with
  | none => trivial
  | some =>
    dsimp only
    split
    · trivial
    · apply Prog.Within.bind
      · apply EventProg.stmt
        intro db
        split
        · exact .reset id ⟨rfl, rfl⟩
        · exact hread db
      · intro replayedAt
        cases replayedAt with
        | some => trivial
        | none =>
          apply Prog.Within.bind (Prog.Within.read fun db _ => hread db)
          intro current
          cases current <;> trivial

end Programs

theorem webhookProgram_within (call : WebhookCall) : EventProg (webhookProgram config call) := by
  have hsame : ∀ db db', SameEvents db db' → EventEffect .operate db db' :=
    fun _ _ h => .same (by simp) (by simp) h
  cases call with
  | ingest => exact (ingest_within _ _).bind fun _ => trivial
  | process => exact (process_within _ _).events.bind fun _ => trivial
  | sweep =>
    exact Prog.Within.bind (Prog.Within.read fun _ _ => .same (by simp) (by simp) ⟨rfl, rfl⟩) fun _ => trivial
  | replay => exact (replayEvent_within _ _).bind fun _ => trivial
  | connect =>
    refine Prog.Within.bind (EventProg.stmt fun db => hsame _ _ ?_) fun _ => trivial
    split <;> exact ⟨rfl, rfl⟩
  | serve | elapse => exact Prog.Within.bind (EventProg.stmt fun db => hsame _ _ ⟨rfl, rfl⟩) fun _ => trivial

def UniqueEvents (db : WebhookDb) : Prop := UniqueBy WebhookEvent.idEntry db.events

instance (db : WebhookDb) : Decidable (UniqueEvents db) := inferInstanceAs (Decidable (UniqueBy _ _))

theorem UpdatesEvent.unique {id : Uuid} (h : UpdatesEvent id f db db') (hf : ∀ e, (f e).id = e.id) (hdb : UniqueEvents db) : UniqueEvents db' := by
  rw [UniqueEvents, h.1]
  exact hdb.updateWhere fun e _ _ => .inr (congrArg some (hf e))

theorem EventEffect.unique (h : EventEffect tag db db') (hdb : UniqueEvents db) : UniqueEvents db' := by
  cases h with
  | same _ _ h =>
    rw [UniqueEvents, h.1]
    exact hdb
  | store event h =>
    rw [UniqueEvents, h.events]
    exact hdb.concat fun e he hclash => h.fresh e he hclash.symm
  | claim id h =>
    rw [UniqueEvents, h.events]
    exact hdb.updateWhere fun _ _ _ => .inr rfl
  | processed _ _ _ h | failed _ _ _ _ h | noted _ _ h => exact h.unique (fun _ => rfl) hdb
  | reset id h =>
    rw [UniqueEvents, h.1]
    exact hdb.updateWhere fun _ _ _ => .inr rfl

theorem WebhookRun.unique {config : WebhookConfig} (hdb : UniqueEvents db)
    (hs : WebhookRun config db s) : UniqueEvents s.db :=
  Reachable.invariant (W := fun _ => EventEffect)
    (fun call => (webhookProgram_within config call).weaken fun _ _ => trivial)
    (fun _ _ _ _ hI _ heffect => heffect.unique hI) hdb hs

end WhatsappCrm.Webhooks
