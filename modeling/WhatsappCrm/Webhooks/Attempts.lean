/-
Purpose: The attempt budget of a stored event over whole runs.
-/
import WhatsappCrm.Webhooks.Ownership

namespace WhatsappCrm.Webhooks

open Interleaving Table

/-- The event can still be claimed, and `n` attempts more spend its budget. -/
def WebhookDb.spent (config : WebhookConfig) (id : Uuid) (n : Nat) (db : WebhookDb) : Bool :=
  db.events.any fun e => e.claimable id && decide (config.maxAttempts ≤ e.attempts + n)

def WebhookDb.replaysOf (id : Uuid) (db : WebhookDb) : Nat := db.replays.countP (·.webhookEventId = id)

def WebhookCall.works (id : Uuid) : WebhookCall → Bool
  | .process webhookEventId => webhookEventId = id
  | _ => false

def WebhookSys.working (id : Uuid) (s : WebhookSys) : Bool :=
  s.calls.any fun e => e.1.works id && e.2.result?.isNone && decide (e.2.next? ≠ some (.claim id))

def LosesClaim (id : Uuid) (db : WebhookDb) (p : WebhookProg WebhookReply) : Bool :=
  decide (p.next? = some (.claim id)) && (p.advance db).result?.isSome

def WebhookStmt.isMarkFailed : WebhookStmt → Bool
  | .markFailed _ _ => true
  | _ => false

/-- The worker is about to be refused the statement by which it parks its event, and to end. -/
def RefusesPark (db : WebhookDb) (p : WebhookProg WebhookReply) : Bool :=
  decide (p.next? = some .draw) && (p.advance db).result?.isSome &&
    (p.advance { db with deliveries := [] }).next?.any WebhookStmt.isMarkFailed

def WebhookDb.staleIds (config : WebhookConfig) (now : Millis) (db : WebhookDb) : List Uuid :=
  (((db.events.filter (WebhookEvent.stale whatsappProvider (now - config.stuckAfterMs))).mergeSort
    fun a b => a.receivedAt ≤ b.receivedAt).take sweepBatchSize).map (·.id)

def offers (id : Uuid) (e : WebhookCall × WebhookProg WebhookReply) : Bool :=
  match e.2.result? with
  | some (.stale ids) => ids.contains id
  | _ => false

/-- How many sweeps so far have put the event back on the queue. -/
def WebhookSys.offered (id : Uuid) (s : WebhookSys) : Nat := s.calls.countP (offers id)

/-- The condition on a statement: an event whose budget is spent is claimed only once its workers have ended, and what a
    sweep selects has been claimed as often as it was selected. -/
def MeetsBudget (config : WebhookConfig) (s : WebhookSys) (call : WebhookCall) : WebhookStmt → Bool
  | .claim id =>
    (!s.db.spent config id 0 || !s.working id) &&
      (!s.db.spent config id 1 || !s.calls.any fun e => e.1.works id && LosesClaim id s.db e.2)
  | .draw =>
    match call with
    | .process id => !s.db.spent config id 0 || !s.calls.any fun e => e.1.works id && RefusesPark s.db e.2
    | _ => true
  | .findStale =>
    match call with
    | .sweep now => (s.db.staleIds config now).all fun id => decide (s.offered id ≤ s.db.claims.count id)
    | _ => true
  | _ => true

abbrev BudgetStep (config : WebhookConfig) (s s' : WebhookSys) : Prop :=
  Step (webhookProgram config) (fun s call tag => MeetsBudget config s call tag = true) s s'

abbrev BudgetRun (config : WebhookConfig) (s₀ s : WebhookSys) : Prop :=
  Reachable (webhookProgram config) (fun s call tag => MeetsBudget config s call tag = true) s₀ s

def WebhookStmt.settles (id : Uuid) : WebhookStmt → Bool
  | .markProcessed markedId _ => markedId = id
  | .markFailed markedId _ => markedId = id
  | _ => false

def SettlesAtEnd (id : Uuid) : WebhookProg WebhookReply → Prop
  | .pure _ => False
  | .atomic tag act next => tag.afterClaim = true ∧ ∀ db,
      tag.settles id = true ∨ SettlesAtEnd id (next (act db).1) ∨ RefusesPark db (.atomic tag act next) = true

section Workers

variable {α : Type} {id : Uuid}

theorem AppliesProg.settles_bind (hp : AppliesProg p) (hf : ∀ a, SettlesAtEnd id (f a)) : SettlesAtEnd id (p.bind f) := by
  induction p with
  | pure a => exact hf a
  | atomic tag act next ih => exact ⟨(hp {} trivial).1.1, fun db => .inr (.inl (ih _ (hp db trivial).2))⟩

theorem updateEvent_settles {tag : WebhookStmt} (hafter : tag.afterClaim = true) (htag : tag.settles id = true)
    (f : Except WebhookError Unit → WebhookProg WebhookReply) : SettlesAtEnd id ((updateEvent tag updatedId g).bind f) :=
  ⟨hafter, fun _ => .inl htag⟩

theorem attempt_settles {work : WebhookProg (Except WebhookError α)} (hwork : ∀ g, SettlesAtEnd id (work.bind g))
    (hf : ∀ message, SettlesAtEnd id (f (.error (.thrown message)))) : SettlesAtEnd id ((attempt work).bind f) := by
  refine ⟨rfl, fun db => .inr (.inl ?_)⟩
  dsimp only
  cases db.deliveries.headD .answered with
  | answered => exact hwork f
  | refused message => exact hf message
  | lost =>
    simp only [Prog.bind_def, Prog.bind_pure_left, Prog.bind_assoc]
    exact hwork _

theorem markFailed_settles {claimed : ClaimedWebhookEvent} (hid : claimed.id = id) (reason : String)
    (tenantId : Option Uuid) (f : Except WebhookError Unit → WebhookReply) :
    SettlesAtEnd id ((attempt (markFailed claimed reason tenantId)).bind (.pure ∘ f)) := by
  refine ⟨rfl, fun db => .inr ?_⟩
  have hmark : ∀ g, SettlesAtEnd id ((markFailed claimed reason tenantId).bind g) :=
    updateEvent_settles rfl (by simp [WebhookStmt.settles, hid])
  cases hdelivery : db.deliveries.headD .answered with
  | answered =>
    left
    simp only [hdelivery]
    exact hmark _
  | refused =>
    right
    simp only [RefusesPark, Prog.advance, hdelivery]
    rfl
  | lost =>
    left
    simp only [hdelivery, Prog.bind_def, Prog.bind_assoc]
    exact hmark _

theorem processClaimed_settles (config : WebhookConfig) (claimed : ClaimedWebhookEvent)
    (hspent : config.maxAttempts ≤ claimed.attempts) (f : Except WebhookError Unit → WebhookReply) :
    SettlesAtEnd claimed.id ((processClaimed config claimed).bind (.pure ∘ f)) := by
  have hfailure : ∀ e, SettlesAtEnd claimed.id ((handleFailure config claimed e).bind (.pure ∘ f)) := by
    intro e
    rw [handleFailure, if_pos hspent]
    exact markFailed_settles rfl _ _ _
  simp only [processClaimed]
  cases claimed.payload with
  | inl => exact markFailed_settles rfl _ _ _
  | inr changes =>
    simp only [applyAndMark, Prog.bind_def, Prog.bind_assoc]
    apply (applyChanges_within changes {}).settles_bind
    intro applied
    cases applied with
    | error e => exact hfailure e
    | ok outcome =>
      have hmark : ∀ {tag : WebhookStmt} (g : Millis → WebhookEvent → WebhookEvent), tag.afterClaim = true →
          tag.settles claimed.id = true → ∀ f, SettlesAtEnd claimed.id ((updateEvent tag claimed.id g).bind f) :=
        fun _ hafter htag => updateEvent_settles hafter htag
      dsimp only
      cases outcome.parkedReason with
      | some | none => exact attempt_settles (hmark _ rfl (by simp [WebhookStmt.settles])) fun _ => hfailure _

end Workers

def Trails (tag : WebhookStmt) (db db' : WebhookDb) : Prop :=
  (db'.replays = db.replays ∧ ∀ id, tag = .replay id → db'.events = db.events) ∨
    ∃ row : WebhookEventReplay, tag = .replay row.webhookEventId ∧ db'.replays = db.replays ++ [row]

structure AttemptEffect (config : WebhookConfig) (call : WebhookCall) (tag : WebhookStmt) (db : WebhookDb)
    (q : WebhookProg WebhookReply) (db' : WebhookDb) : Prop where
  events : EventEffect tag db db'
  trails : Trails tag db db'
  worker : ∀ id, tag = .claim id → call = .process id ∧
    (db.spent config id 1 = true → SettlesAtEnd id q ∨ q.result?.isSome = true)

section Calls

variable {call : WebhookCall}

theorem AppliesEffect.attempt {tag : WebhookStmt} {db : WebhookDb}
    (h : AppliesEffect tag db db') : AttemptEffect config call tag db q db' where
  events := h.2.1
  trails := by
    refine .inl ⟨h.2.2, fun id htag => ?_⟩
    have hafter := h.1
    rw [htag] at hafter
    cases hafter
  worker id htag := by
    have hafter := h.1
    rw [htag] at hafter
    cases hafter

theorem AppliesProg.attempts (h : AppliesProg p) : p.Follows UniqueEvents (AttemptEffect config call) :=
  (Prog.Follows.mono (fun _ _ _ _ _ heffect => heffect.attempt) h).weaken fun _ _ => trivial

theorem spent_iff {id : Uuid} {db : WebhookDb} :
    db.spent config id n = true ↔ ∃ e ∈ db.events, e.claimable id = true ∧ config.maxAttempts ≤ e.attempts + n := by
  simp [WebhookDb.spent]

theorem claim_attempts (id : Uuid) (hk : ∀ a, (k a).Follows UniqueEvents (AttemptEffect config (.process id)))
    (hnone : (k (.ok none)).result?.isSome = true)
    (hsome : ∀ claimed, claimed.id = id → (config.maxAttempts ≤ claimed.attempts → SettlesAtEnd id (k (.ok (some claimed)))) ∨
      (k (.ok (some claimed))).result?.isSome = true) :
    ((claim id).bind k).Follows UniqueEvents (AttemptEffect config (.process id)) := by
  intro db hunique
  obtain ⟨heffect, -⟩ := claim_within id db trivial
  refine ⟨⟨heffect.2, ?_, ?_⟩, hk _⟩
  · refine .inl ⟨?_, fun _ h => by cases h⟩
    dsimp only
    split <;> rfl
  · rintro claimedId ⟨⟩
    refine ⟨rfl, fun hspent => ?_⟩
    cases hfind : db.events.find? (WebhookEvent.claimable id) with
    | none =>
      right
      simpa only [hfind, Prog.bind_pure_left] using hnone
    | some e =>
      simp only [hfind, Prog.bind_pure_left]
      obtain ⟨e', he', hclaimable, hattempts⟩ := spent_iff.mp hspent
      have hmatch := List.find?_some hfind
      have hid : e.id = id ∧ e'.id = id := by
        simp only [WebhookEvent.claimable, decide_eq_true_eq] at hmatch hclaimable
        exact ⟨hmatch.1, hclaimable.1⟩
      have heq : e' = e := UniqueBy.eq_of_entry hunique he' (List.mem_of_find?_eq_some hfind)
        (congrArg some (hid.2.trans hid.1.symm)) rfl
      subst heq
      rcases hsome ⟨id, e'.payload, e'.attempts + 1, (db.claims ++ [id]).count id⟩ rfl with hsettles | hends
      · exact .inl (hsettles hattempts)
      · exact .inr hends

theorem process_attempts (config : WebhookConfig) (id : Uuid) :
    (webhookProgram config (.process id)).Follows UniqueEvents (AttemptEffect config (.process id)) := by
  intro db _
  obtain ⟨hdraw, -⟩ := drawDelivery_within db trivial
  refine ⟨hdraw.attempt, ?_⟩
  simp only [Prog.bind_pure_left]
  cases db.deliveries.headD .answered with
  | answered =>
    refine claim_attempts id ?_ rfl ?_
    · intro claimed
      cases claimed with
      | error => trivial
      | ok claimed =>
        cases claimed with
        | none => trivial
        | some claimed =>
          exact AppliesProg.attempts ((processClaimed_within config claimed).bind fun _ => trivial)
    · rintro claimed rfl
      exact .inl fun hspent => processClaimed_settles config claimed hspent _
  | refused => trivial
  | lost =>
    exact claim_attempts id (fun _ => trivial) rfl fun _ _ => .inr rfl

def Beside (tag : WebhookStmt) (db db' : WebhookDb) : Prop := Trails tag db db' ∧ ∀ id, tag ≠ .claim id

theorem attempts_of_beside (h : (webhookProgram config call).Within (fun _ => True) Beside) :
    (webhookProgram config call).Follows UniqueEvents (AttemptEffect config call) := by
  apply Prog.Follows.weaken fun _ _ => trivial
  apply Prog.Follows.mono _ ((webhookProgram_within config call).and h)
  intro tag db q db' _ heffect
  exact ⟨heffect.1, heffect.2.1, fun id htag => absurd htag (heffect.2.2 id)⟩

theorem replayEvent_beside (id : Uuid) (actorLabel : String) :
    (replayEvent id actorLabel).Within (fun _ => True) Beside := by
  have hread : ∀ db, Beside (.replay id) db db := fun db => ⟨.inl ⟨rfl, fun _ _ => rfl⟩, by simp⟩
  apply Prog.Within.bind (Prog.Within.read fun db _ => hread db)
  intro found
  cases found with
  | none => trivial
  | some =>
    dsimp only
    split
    · trivial
    · apply Prog.Within.bind
      · apply Prog.Within.stmt
        intro db _
        split
        · exact ⟨.inr ⟨_, rfl, rfl⟩, by simp⟩
        · exact hread db
      · intro replayedAt
        cases replayedAt with
        | some => trivial
        | none =>
          apply Prog.Within.bind (Prog.Within.read fun db _ => hread db)
          intro current
          cases current <;> trivial

theorem webhookProgram_attempts (config : WebhookConfig) (call : WebhookCall) :
    (webhookProgram config call).Follows UniqueEvents (AttemptEffect config call) := by
  have hstmt : ∀ {α : Type} {tag : WebhookStmt} {act : WebhookDb → α × WebhookDb}, (∀ id, tag ≠ .replay id) →
      (∀ id, tag ≠ .claim id) → (∀ db, (act db).2.replays = db.replays) →
        (Prog.stmt tag act).Within (fun _ => True) Beside :=
    fun hreplay hclaim hreplays => Prog.Within.stmt fun db _ =>
      ⟨.inl ⟨hreplays db, fun id htag => absurd htag (hreplay id)⟩, hclaim⟩
  cases call with
  | process id => exact process_attempts config id
  | ingest =>
    apply attempts_of_beside
    refine Prog.Within.bind ?_ fun _ => trivial
    apply Prog.Within.bind (hstmt (by simp) (by simp) fun _ => rfl)
    intro id
    apply attempt_within (hstmt (by simp) (by simp) fun _ => rfl)
    apply hstmt (by simp) (by simp)
    intro db
    dsimp only
    split <;> rfl
  | sweep | serve | elapse =>
    apply attempts_of_beside
    exact Prog.Within.bind (hstmt (by simp) (by simp) fun _ => rfl) fun _ => trivial
  | replay id actorLabel =>
    apply attempts_of_beside
    exact (replayEvent_beside id actorLabel).bind fun _ => trivial
  | connect =>
    apply attempts_of_beside
    refine Prog.Within.bind ?_ fun _ => trivial
    apply hstmt (by simp) (by simp)
    intro db
    split <;> rfl

end Calls

inductive RowMove (tag : WebhookStmt) (db db' : WebhookDb) (e e' : WebhookEvent) : Prop where
  | kept (attempts : e'.attempts = e.attempts) (claims : db'.claims.count e.id = db.claims.count e.id)
      (claimable : e'.claimable e.id = true → e.claimable e.id = true) : RowMove tag db db' e e'
  | claimed (stmt : tag = .claim e.id) (claimable : e.claimable e.id = true) (attempts : e'.attempts = e.attempts + 1)
      (claims : db'.claims.count e.id = db.claims.count e.id + 1) : RowMove tag db db' e e'
  | reset (stmt : tag = .replay e.id) (parked : e.status = .failed) (row : e' = e.reset)
      (claims : db'.claims.count e.id = db.claims.count e.id) : RowMove tag db db' e e'

structure FreshRow (db db' : WebhookDb) (e' : WebhookEvent) : Prop where
  attempts : e'.attempts = 0
  fresh : ∀ e ∈ db.events, e.id ≠ e'.id
  claims : db'.claims = db.claims

def WebhookEvent.receipt (e : WebhookEvent) : Uuid × String × Millis := (e.id, e.provider, e.receivedAt)

section Rows

variable {tag : WebhookStmt} {db : WebhookDb}

theorem UpdatesEvent.row {id : Uuid} (h : UpdatesEvent id f db db')
    (hreceipt : ∀ e, (f e).receipt = e.receipt) (hattempts : ∀ e, (f e).attempts = e.attempts)
    (hclaimable : ∀ e, (f e).claimable e.id = true → e.claimable e.id = true) (he' : e' ∈ db'.events) :
    ∃ e ∈ db.events, e'.receipt = e.receipt ∧ RowMove tag db db' e e' := by
  rw [h.1] at he'
  obtain ⟨e, he, ⟨_, rfl⟩ | ⟨_, rfl⟩⟩ := mem_updateWhere he'
  · exact ⟨e, he, hreceipt e, .kept (hattempts e) (by rw [h.2]) (hclaimable e)⟩
  · exact ⟨e', he, rfl, .kept rfl (by rw [h.2]) fun h => h⟩

theorem EventEffect.row (h : EventEffect tag db db') (hunique : UniqueEvents db) (he' : e' ∈ db'.events) :
    FreshRow db db' e' ∨ ∃ e ∈ db.events, e'.receipt = e.receipt ∧ RowMove tag db db' e e' := by
  cases h with
  | same _ _ h =>
    rw [h.1] at he'
    exact .inr ⟨e', he', rfl, .kept rfl (by rw [h.2]) id⟩
  | store event h =>
    rw [h.events] at he'
    rcases mem_snoc.mp he' with he' | rfl
    · exact .inr ⟨e', he', rfl, .kept rfl (by rw [h.claims]) id⟩
    · refine .inl ⟨h.attempts, fun e he hid => h.fresh e he ?_, h.claims⟩
      exact ⟨by simp [WebhookEvent.idEntry], congrArg some hid.symm⟩
  | claim id h =>
    right
    rw [h.events] at he'
    obtain ⟨e, he, ⟨hclaimable, rfl⟩ | ⟨hnot, rfl⟩⟩ := mem_updateWhere he'
    · have hid : e.id = id := by
        simp only [WebhookEvent.claimable, decide_eq_true_eq] at hclaimable
        exact hclaimable.1
      subst hid
      exact ⟨e, he, rfl, .claimed rfl hclaimable rfl (by rw [h.claims, List.count_append]; simp)⟩
    · refine ⟨e', he, rfl, .kept rfl ?_ fun h => h⟩
      have hother : e'.id ≠ id := by
        rintro rfl
        obtain ⟨e, hmem, hclaimable⟩ := h.found
        have hid : e.id = e'.id := by
          simp only [WebhookEvent.claimable, decide_eq_true_eq] at hclaimable
          exact hclaimable.1
        rw [UniqueBy.eq_of_entry hunique hmem he (congrArg some hid) rfl] at hclaimable
        rw [hclaimable] at hnot
        cases hnot
      rw [h.claims, List.count_append, List.count_singleton]
      simp [Ne.symm hother]
  | processed id _ tenantId h =>
    exact .inr (h.row (fun _ => rfl) (fun _ => rfl) (by simp [WebhookEvent.claimable, WebhookEvent.succeed]) he')
  | failed id _ reason tenantId h =>
    exact .inr (h.row (fun _ => rfl) (fun _ => rfl) (by simp [WebhookEvent.claimable, WebhookEvent.park]) he')
  | noted id reason h => exact .inr (h.row (fun _ => rfl) (fun _ => rfl) (fun _ h => h) he')
  | reset id h =>
    right
    rw [h.1] at he'
    obtain ⟨e, he, ⟨hparked, rfl⟩ | ⟨_, rfl⟩⟩ := mem_updateWhere he'
    · simp only [WebhookEvent.parked, decide_eq_true_eq] at hparked
      obtain ⟨rfl, hstatus⟩ := hparked
      exact ⟨e, he, rfl, .reset rfl hstatus rfl (by rw [h.2])⟩
    · exact ⟨e', he, rfl, .kept rfl (by rw [h.2]) fun h => h⟩

theorem EventEffect.settled {id : Uuid} (h : EventEffect tag db db') (htag : tag.settles id = true)
    (he' : e' ∈ db'.events) : e'.claimable id = false := by
  have hupdated : ∀ {f : WebhookEvent → WebhookEvent}, UpdatesEvent id f db db' → (∀ e, (f e).claimable id = false) →
      e'.claimable id = false := by
    intro f hupdate hf
    rw [hupdate.1] at he'
    obtain ⟨e, _, ⟨_, rfl⟩ | ⟨hother, rfl⟩⟩ := mem_updateWhere he'
    · exact hf e
    · simp only [WebhookEvent.withId, decide_eq_false_iff_not] at hother
      simp [WebhookEvent.claimable, hother]
  cases h with
  | same hmark _ _ =>
    cases tag with
    | markProcessed id n => exact absurd rfl (hmark id n).1
    | markFailed id n => exact absurd rfl (hmark id n).2
    | _ => cases htag
  | processed markedId _ tenantId h =>
    simp only [WebhookStmt.settles, decide_eq_true_eq] at htag
    subst htag
    exact hupdated h (by simp [WebhookEvent.claimable, WebhookEvent.succeed])
  | failed markedId _ reason tenantId h =>
    simp only [WebhookStmt.settles, decide_eq_true_eq] at htag
    subst htag
    exact hupdated h (by simp [WebhookEvent.claimable, WebhookEvent.park])
  | _ => cases htag

theorem EventEffect.receipts (h : EventEffect tag db db') :
    ∀ r ∈ db.events.map WebhookEvent.receipt, r ∈ db'.events.map WebhookEvent.receipt := by
  intro r hr
  have hupdated : ∀ {p : WebhookEvent → Bool} {f : WebhookEvent → WebhookEvent},
      db'.events = updateWhere p f db.events → (∀ e, (f e).receipt = e.receipt) →
        r ∈ db'.events.map WebhookEvent.receipt := by
    intro p f hevents hf
    rw [hevents, map_updateWhere hf]
    exact hr
  cases h with
  | same _ _ h => rwa [h.1]
  | store event h =>
    rw [h.events, List.map_append]
    exact List.mem_append_left _ hr
  | claim id h => exact hupdated h.events fun _ => rfl
  | processed _ _ _ h | failed _ _ _ _ h | noted _ _ h | reset id h => exact hupdated h.1 fun _ => rfl

theorem EventEffect.claims (h : EventEffect tag db db') :
    db'.claims = db.claims ∨ ∃ id, db'.claims = db.claims ++ [id] ∧ ∃ e ∈ db.events, e.id = id := by
  cases h with
  | same _ _ h | processed _ _ _ h | failed _ _ _ _ h | noted _ _ h | reset _ h => exact .inl h.2
  | store event h => exact .inl h.claims
  | claim id h =>
    obtain ⟨e, he, hclaimable⟩ := h.found
    simp only [WebhookEvent.claimable, decide_eq_true_eq] at hclaimable
    exact .inr ⟨id, h.claims, e, he, hclaimable.1⟩

theorem Trails.le (h : Trails tag db db') (id : Uuid) : db.replaysOf id ≤ db'.replaysOf id := by
  rcases h with ⟨h, _⟩ | ⟨row, _, h⟩
  · simp only [WebhookDb.replaysOf, h, Nat.le_refl]
  · simp only [WebhookDb.replaysOf, h, List.countP_append, Nat.le_add_right]

theorem Trails.reset {e : WebhookEvent} (h : Trails (.replay e.id) db db') (hunique : UniqueEvents db)
    (he : e ∈ db.events) (hparked : e.status = .failed) (he' : e.reset ∈ db'.events) :
    db'.replaysOf e.id = db.replaysOf e.id + 1 := by
  rcases h with ⟨_, h⟩ | ⟨row, hrow, h⟩
  · rw [h e.id rfl] at he'
    have hsame : e.reset = e := UniqueBy.eq_of_entry hunique he' he rfl rfl
    have hstatus := congrArg WebhookEvent.status hsame
    rw [hparked] at hstatus
    cases hstatus
  · simp only [WebhookStmt.replay.injEq] at hrow
    simp [WebhookDb.replaysOf, h, List.countP_append, ← hrow]

end Rows

structure Budgeted (config : WebhookConfig) (s : WebhookSys) : Prop where
  stored : ∀ id ∈ s.db.claims, ∃ e ∈ s.db.events, e.id = id
  budget : ∀ e ∈ s.db.events, e.attempts ≤ config.maxAttempts
  total : ∀ e ∈ s.db.events,
    s.db.claims.count e.id ≤ config.maxAttempts * s.db.replaysOf e.id + e.attempts
  owned : ∀ id, s.db.spent config id 0 = true → ∃ e ∈ s.calls, e.1 = .process id ∧ SettlesAtEnd id e.2

section Budgets

theorem SettlesAtEnd.working {id : Uuid} (h : SettlesAtEnd id p) :
    (p.result?.isNone && decide (p.next? ≠ some (.claim id))) = true := by
  cases p with
  | pure => exact h.elim
  | atomic tag act next =>
    have htag : tag ≠ .claim id := by
      rintro rfl
      exact absurd h.1 (by simp [WebhookStmt.afterClaim])
    simpa [Prog.next?] using htag

theorem Budgeted.working (h : Budgeted config s) {id : Uuid} (hspent : s.db.spent config id 0 = true) :
    s.working id = true := by
  obtain ⟨e, he, hprocess, hsettles⟩ := h.owned id hspent
  have hworking := hsettles.working
  rw [WebhookSys.working, List.any_eq_true]
  refine ⟨e, he, ?_⟩
  rw [hprocess, Bool.and_assoc, hworking]
  simp [WebhookCall.works]

theorem Budgeted.unspent (h : Budgeted config s) {call : WebhookCall} {id : Uuid}
    (hcond : MeetsBudget config s call (.claim id) = true) : s.db.spent config id 0 = false := by
  have hclaim : (!s.db.spent config id 0 || !s.working id) = true := (Bool.and_eq_true_iff.mp hcond).1
  cases hspent : s.db.spent config id 0 with
  | false => rfl
  | true =>
    rw [hspent, h.working hspent] at hclaim
    cases hclaim

variable {call : WebhookCall} {tag : WebhookStmt}

theorem Budgeted.attempt_le (h : Budgeted config s) (hunique : UniqueEvents s.db)
    (hcond : MeetsBudget config s call tag = true) (heffect : AttemptEffect config call tag s.db q db') :
    ∀ e' ∈ db'.events, e'.attempts ≤ config.maxAttempts := by
  intro e' he'
  rcases heffect.events.row hunique he' with hfresh | ⟨e, he, _, hmove⟩
  · simp [hfresh.attempts]
  · cases hmove with
    | kept hattempts =>
      rw [hattempts]
      exact h.budget e he
    | claimed htag hclaimable =>
      subst htag
      have hleft : ¬ config.maxAttempts ≤ e.attempts := by
        intro hle
        have hunspent := h.unspent hcond
        rw [spent_iff.mpr ⟨e, he, hclaimable, hle⟩] at hunspent
        cases hunspent
      omega
    | reset _ _ hrow => simp [hrow, WebhookEvent.reset]

theorem Budgeted.total_le (h : Budgeted config s) (hunique : UniqueEvents s.db)
    (heffect : AttemptEffect config call tag s.db q db') :
    ∀ e' ∈ db'.events, db'.claims.count e'.id ≤ config.maxAttempts * db'.replaysOf e'.id + e'.attempts := by
  intro e' he'
  rcases heffect.events.row hunique he' with hfresh | ⟨e, he, hreceipt, hmove⟩
  · have hnone : e'.id ∉ s.db.claims := by
      intro hclaimed
      obtain ⟨e, he, hid⟩ := h.stored e'.id hclaimed
      exact hfresh.fresh e he hid
    rw [hfresh.claims, List.count_eq_zero_of_not_mem hnone]
    exact Nat.zero_le _
  · have hid : e'.id = e.id := congrArg Prod.fst hreceipt
    have htotal := h.total e he
    have hreplays := Nat.mul_le_mul_left config.maxAttempts (heffect.trails.le e.id)
    rw [hid]
    cases hmove with
    | kept | claimed => omega
    | reset htag hparked hrow hclaims =>
      subst htag hrow
      have hbudget := h.budget e he
      rw [hclaims, heffect.trails.reset hunique he hparked he', Nat.mul_add, Nat.mul_one]
      omega

theorem Budgeted.stored_later (h : Budgeted config s) (heffect : EventEffect tag s.db db') :
    ∀ id ∈ db'.claims, ∃ e ∈ db'.events, e.id = id := by
  have hstays : ∀ id, (∃ e ∈ s.db.events, e.id = id) → ∃ e ∈ db'.events, e.id = id := by
    rintro id ⟨e, he, hid⟩
    obtain ⟨e', he', hreceipt⟩ := List.mem_map.mp (heffect.receipts _ (List.mem_map_of_mem he))
    exact ⟨e', he', (congrArg Prod.fst hreceipt).trans hid⟩
  intro id hclaimed
  rcases heffect.claims with heq | ⟨claimedId, heq, hfound⟩
  · exact hstays id (h.stored id (heq ▸ hclaimed))
  · rw [heq] at hclaimed
    rcases List.mem_append.mp hclaimed with hclaimed | hclaimed
    · exact hstays id (h.stored id hclaimed)
    · rw [List.mem_singleton.mp hclaimed]
      exact hstays claimedId hfound

theorem EventEffect.spent {db : WebhookDb} (hmax : 0 < config.maxAttempts) (h : EventEffect tag db db')
    (hunique : UniqueEvents db) {id : Uuid} (hspent : db'.spent config id 0 = true) :
    db.spent config id 0 = true ∨ tag = .claim id ∧ db.spent config id 1 = true := by
  obtain ⟨e', he', hclaimable, hattempts⟩ := spent_iff.mp hspent
  rcases h.row hunique he' with hfresh | ⟨e, he, hreceipt, hmove⟩
  · rw [hfresh.attempts] at hattempts
    omega
  · have hid : e'.id = e.id := congrArg Prod.fst hreceipt
    have hown : e.id = id := by
      simp only [WebhookEvent.claimable, decide_eq_true_eq] at hclaimable
      exact hid.symm.trans hclaimable.1
    subst hown
    cases hmove with
    | kept hsame _ hwas => exact .inl (spent_iff.mpr ⟨e, he, hwas hclaimable, by omega⟩)
    | claimed htag hwas => exact .inr ⟨htag, spent_iff.mpr ⟨e, he, hwas, by omega⟩⟩
    | reset _ _ hrow =>
      subst hrow
      simp only [WebhookEvent.reset] at hattempts
      omega

/-- A worker that settles its event has done so, goes on to, or was refused the statement that parks it. -/
theorem Budgeted.owned_later (hmax : 0 < config.maxAttempts) (h : Budgeted config s) (hunique : UniqueEvents s.db)
    (hcall : s.calls[i]? = some (call, .atomic tag act next)) (hcond : MeetsBudget config s call tag = true)
    (heffect : AttemptEffect config call tag s.db (next (act s.db).1) (act s.db).2) {id : Uuid}
    (hspent : (act s.db).2.spent config id 0 = true) :
    ∃ e ∈ (s.exec i call act next).calls, e.1 = .process id ∧ SettlesAtEnd id e.2 := by
  have hlength : i < s.calls.length := (List.getElem?_eq_some_iff.mp hcall).1
  have hown : call = .process id → SettlesAtEnd id (next (act s.db).1) →
      ∃ e ∈ (s.exec i call act next).calls, e.1 = .process id ∧ SettlesAtEnd id e.2 :=
    fun hprocess hsettles => ⟨_, List.mem_set hlength _, hprocess, hsettles⟩
  rcases heffect.events.spent hmax hunique hspent with hwas | ⟨rfl, hlast⟩
  · obtain ⟨e, he, hprocess, hsettles⟩ := h.owned id hwas
    obtain ⟨k, hk⟩ := List.mem_iff_getElem?.mp he
    by_cases hki : k = i
    · subst hki
      rw [hcall, Option.some.injEq] at hk
      subst hk
      rcases hsettles.2 s.db with hmark | hnext | hrefused
      · obtain ⟨e', he', hclaimable, _⟩ := spent_iff.mp hspent
        rw [heffect.events.settled hmark he'] at hclaimable
        cases hclaimable
      · exact hown hprocess hnext
      · -- the statement is the refusal, which the condition rules out
        have hdraw : tag = .draw := by
          simp only [RefusesPark, Prog.next?, Bool.and_eq_true, decide_eq_true_eq, Option.some.injEq] at hrefused
          exact hrefused.1.1
        subst hdraw
        subst hprocess
        have hany : (s.calls.any fun e => e.1.works id && RefusesPark s.db e.2) = true := by
          rw [List.any_eq_true]
          exact ⟨_, he, by simp [WebhookCall.works, hrefused]⟩
        have hcond' : (!s.db.spent config id 0 || !s.calls.any fun e => e.1.works id && RefusesPark s.db e.2) = true :=
          hcond
        rw [hwas, hany] at hcond'
        cases hcond'
    · refine ⟨e, List.mem_iff_getElem?.mpr ⟨k, ?_⟩, hprocess, hsettles⟩
      simpa [Sys.exec, Ne.symm hki] using hk
  · obtain ⟨hprocess, hworker⟩ := heffect.worker id rfl
    rcases hworker hlast with hsettles | hends
    · exact hown hprocess hsettles
    · have hany : (s.calls.any fun e => e.1.works id && LosesClaim id s.db e.2) = true := by
        rw [List.any_eq_true]
        refine ⟨_, List.mem_of_getElem? hcall, ?_⟩
        simp [hprocess, WebhookCall.works, LosesClaim, Prog.next?, Prog.advance, hends]
      have hcond' := (Bool.and_eq_true_iff.mp hcond).2
      rw [hlast, hany] at hcond'
      cases hcond'

theorem Budgeted.step (hmax : 0 < config.maxAttempts) (h : Budgeted config s) (hunique : UniqueEvents s.db)
    (hfollows : s.Follows UniqueEvents (AttemptEffect config))
    (hstep : BudgetStep config s s') : Budgeted config s' := by
  cases hstep with
  | spawn _ =>
    refine ⟨h.stored, h.budget, h.total, fun id hspent => ?_⟩
    obtain ⟨e, he, howned⟩ := h.owned id hspent
    exact ⟨e, List.mem_append_left _ he, howned⟩
  | exec _ i call tag act next hcall hcond =>
    have heffect := (hfollows.exec_spec hunique hcall).1
    exact ⟨h.stored_later heffect.events, h.attempt_le hunique hcond heffect, h.total_le hunique heffect,
      fun id hspent => h.owned_later hmax hunique hcall hcond heffect hspent⟩

end Budgets

structure Untouched (db : WebhookDb) : Prop where
  unique : UniqueEvents db
  attempts : ∀ e ∈ db.events, e.attempts = 0
  claims : db.claims = []

section Runs

variable {db : WebhookDb}

theorem BudgetRun.unique (hdb : Untouched db) (hs : BudgetRun config (.idle db) s) : UniqueEvents s.db :=
  WebhookRun.unique hdb.unique (hs.mono fun _ _ _ _ => trivial)

theorem BudgetRun.attempts (hdb : Untouched db) (hs : BudgetRun config (.idle db) s) :
    s.Follows UniqueEvents (AttemptEffect config) :=
  Reachable.follows (webhookProgram_attempts config) (fun _ hs => BudgetRun.unique hdb hs) hs

theorem BudgetRun.budgeted (hmax : 0 < config.maxAttempts) (hdb : Untouched db)
    (hs : BudgetRun config (.idle db) s) : Budgeted config s := by
  induction hs with
  | refl =>
    refine ⟨by simp [Sys.idle, hdb.claims], fun e he => by simp [hdb.attempts e he],
      fun e _ => by simp [Sys.idle, hdb.claims], fun id hspent => ?_⟩
    obtain ⟨e, he, _, hattempts⟩ := spent_iff.mp hspent
    rw [hdb.attempts e he] at hattempts
    omega
  | tail hs hstep ih => exact ih.step hmax (BudgetRun.unique hdb hs) (BudgetRun.attempts hdb hs) hstep

end Runs

end WhatsappCrm.Webhooks
