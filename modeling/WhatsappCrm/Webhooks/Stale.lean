/-
Purpose: Two events of one contact in either order.
-/
import WhatsappCrm.Webhooks.Window

namespace WhatsappCrm.Webhooks

open Interleaving Table

variable (status : MessageStatus) (t : Millis)

structure StepTimes where
  sentAt : Millis
  deliveredAt : Option Millis
  readAt : Option Millis
deriving DecidableEq

def Steps.times (s : Steps) : StepTimes := ⟨s.sentAt, s.deliveredAt, s.readAt⟩

/-- What an event may leave of its time: the contact's name and last-seen time, the activity of its threads, the times
    of the messages. -/
@[ext] structure Columns where
  contact : Option Profile
  activity : Uuid → Option Millis
  times : String → Option StepTimes

def Feed.columns (f : Feed) : Columns where
  contact := f.contact
  activity whatsappAccountId := (f.thread whatsappAccountId).map Activity.lastMessageAt
  times id := (f.message id).map Steps.times

def WebhookDb.columns (db : WebhookDb) (tenantId : Uuid) (phoneE164 : String) : Columns :=
  (db.feed tenantId phoneE164).columns

def ProviderEvent.displayName : ProviderEvent → Option String
  | .message _ displayName => displayName
  | .receipt _ => none

def ProviderEvent.shows (e : ProviderEvent) (f : Feed) : Bool :=
  e.writes && (e.inboundTime.isSome || (f.message e.id).isNone)

/-- The activity after an event: a new message moves it. -/
def ProviderEvent.heard (e : ProviderEvent) (f : Feed) (last : Millis) : Millis :=
  if f.message e.id = none ∧ e.inboundTime ≠ none then max last e.timestamp else last

section Step

variable {f : Feed} {whatsappAccountId : Uuid} {e : ProviderEvent}

theorem Activity.lastMessageAt_advance (a : Activity) (t : Millis) :
    (a.advance t).lastMessageAt = max a.lastMessageAt t := by
  rcases lt_or_ge a.lastMessageAt t with hlt | hge
  · rw [Activity.advance_of_lt hlt, max_eq_right hlt.le]
  · rw [Activity.advance_of_le hge, max_eq_left hge]

theorem applyEvent_contact : (f.applyEvent whatsappAccountId e).contact =
    if e.shows f then some ((f.contact.getD {}).see e.displayName e.timestamp) else f.contact := by
  cases e with
  | message m n =>
    have hshows : (ProviderEvent.message m n).shows f = true := rfl
    rw [if_pos hshows]
    simp only [Feed.applyEvent, Feed.applyMessage]
    split <;> rfl
  | receipt u =>
    cases hstatus : toMessageStatus u.status with
    | none => simp [Feed.applyEvent, ProviderEvent.shows, ProviderEvent.writes, hstatus]
    | some =>
      cases hmessage : f.message u.id <;>
        simp [Feed.applyEvent, Feed.applyReceipt, ProviderEvent.shows, ProviderEvent.writes, hstatus,
          ProviderEvent.inboundTime, ProviderEvent.id, hmessage, Feed.store, Feed.openThread, Feed.see,
          ProviderEvent.displayName, ProviderEvent.timestamp]

theorem lastMessageAt_getD (a : Option Activity) (birth : Activity) :
    (a.getD birth).lastMessageAt = (a.map Activity.lastMessageAt).getD birth.lastMessageAt := by
  cases a <;> rfl

theorem activity_update (thread : Uuid → Option Activity) (a : Activity) :
    (fun id => (Function.update thread whatsappAccountId (some a) id).map Activity.lastMessageAt) =
      Function.update (fun id => (thread id).map Activity.lastMessageAt) whatsappAccountId (some a.lastMessageAt) :=
  Function.comp_update (Option.map Activity.lastMessageAt) thread whatsappAccountId (some a)

theorem applyEvent_activity : (f.applyEvent whatsappAccountId e).columns.activity = if e.shows f then
      Function.update f.columns.activity whatsappAccountId
        (some (e.heard f ((f.columns.activity whatsappAccountId).getD e.timestamp))) else f.columns.activity := by
  cases e with
  | message m n =>
    have hshows : (ProviderEvent.message m n).shows f = true := rfl
    rw [if_pos hshows]
    simp only [Feed.applyEvent, Feed.applyMessage]
    cases hmessage : f.message m.id with
    | some =>
      have hheard : ∀ last, (ProviderEvent.message m n).heard f last = last := by
        simp [ProviderEvent.heard, ProviderEvent.id, hmessage]
      simp only [hheard, Feed.openThread, Feed.columns, Feed.see, activity_update, lastMessageAt_getD]
      rfl
    | none =>
      have hheard : ∀ last, (ProviderEvent.message m n).heard f last = max last m.timestamp := by
        simp [ProviderEvent.heard, ProviderEvent.id, hmessage, ProviderEvent.inboundTime, ProviderEvent.timestamp]
      simp only [hheard, Feed.advance, Feed.store, Feed.openThread, Feed.columns, Feed.see,
        Function.update_self, Option.map_some, Function.update_idem, activity_update,
        Activity.lastMessageAt_advance, lastMessageAt_getD]
      rfl
  | receipt u =>
    cases hstatus : toMessageStatus u.status with
    | none => simp [Feed.applyEvent, ProviderEvent.shows, ProviderEvent.writes, hstatus]
    | some =>
      have hheard : ∀ last, (ProviderEvent.receipt u).heard f last = last := by
        simp [ProviderEvent.heard, ProviderEvent.inboundTime]
      cases hmessage : f.message u.id with
      | some =>
        simp [Feed.applyEvent, Feed.applyReceipt, ProviderEvent.shows, ProviderEvent.inboundTime,
          ProviderEvent.id, hstatus, hmessage, Feed.store, Feed.columns]
      | none =>
        have hshows : (ProviderEvent.receipt u).shows f = true := by
          simp [ProviderEvent.shows, ProviderEvent.writes, ProviderEvent.id, hstatus, hmessage]
        rw [if_pos hshows]
        simp only [Feed.applyEvent, Feed.applyReceipt, hstatus, hmessage, hheard, Feed.store, Feed.openThread,
          Feed.columns, Feed.see, activity_update, lastMessageAt_getD]
        rfl

end Step

variable {s : Steps} {status₁ status₂ : MessageStatus} {db : WebhookDb}

namespace Steps

def stampedAt : MessageStatus → Steps → Option Millis
  | .delivered, s => s.deliveredAt
  | .read, s => s.readAt
  | _, _ => none

/-- A step the message has not taken has no time. -/
def InOrder (s : Steps) : Prop := ∀ status, s.Advances status → s.stampedAt status = none

def TakenAfter (s : Steps) (status other : MessageStatus) : Prop :=
  s.Advances status → s.Advances other → isMessageStatusAdvance other status = true

theorem advances_iff {status : MessageStatus} :
    s.Advances status ↔ ∃ source, s.status = .ladder source ∧ isMessageStatusAdvance source status = true := by
  simp [Advances, and_comm]

theorem status_advance (s : Steps) (status : MessageStatus) (t : Millis) :
    (s.advance status t).status = if s.Advances status then .ladder status else s.status := by
  simp only [advance]
  split
  · cases status <;> rfl
  · rfl

theorem sentAt_advance (s : Steps) (status : MessageStatus) (t : Millis) : (s.advance status t).sentAt = s.sentAt := by
  simp only [advance]
  split
  · cases status <;> rfl
  · rfl

theorem stampedAt_advance (hstep : step = .delivered ∨ step = .read) (s : Steps)
    (status : MessageStatus) (t : Millis) :
    (s.advance status t).stampedAt step = if s.Advances status ∧ status = step then some t else s.stampedAt step := by
  by_cases hadvances : s.Advances status
  · rcases hstep with rfl | rfl <;> cases status <;> simp [advance, hadvances, stamp, stampedAt]
  · simp [advance, hadvances]

theorem advances_advance (s : Steps) (status other : MessageStatus) (t : Millis) :
    (s.advance status t).Advances other ↔
      if s.Advances status then isMessageStatusAdvance status other = true else s.Advances other := by
  by_cases hadvances : s.Advances status
  · rw [if_pos hadvances, advances_iff, status_advance, if_pos hadvances]
    simp
  · rw [if_neg hadvances, advance, if_neg hadvances]

theorem Advances.trans {status : MessageStatus} (h : s.Advances status)
    (hother : isMessageStatusAdvance status other = true) : s.Advances other := by
  obtain ⟨source, hsource, hadvance⟩ := advances_iff.mp h
  rw [isMessageStatusAdvance_iff] at hadvance hother
  exact advances_iff.mpr ⟨source, hsource, isMessageStatusAdvance_iff.mpr ⟨hadvance.1, hadvance.2.trans hother.2⟩⟩

theorem not_advance_self : isMessageStatusAdvance status status = false := by
  cases status <;> rfl

theorem stampedAt_comm (hstep : step = .delivered ∨ step = .read) (hs : s.InOrder) (ht : t₁ < t₂) :
    ((s.advance status₁ t₁).advance status₂ t₂).stampedAt step =
        ((s.advance status₂ t₂).advance status₁ t₁).stampedAt step ↔
      (status₁ = step → s.TakenAfter status₁ status₂) ∧ (status₂ = step → s.TakenAfter status₂ status₁) := by
  simp only [stampedAt_advance hstep, advances_advance, TakenAfter]
  have hself := not_advance_self step
  have hnone := hs step
  have hreach : ∀ other, s.Advances other → isMessageStatusAdvance other step = true → s.Advances step :=
    fun other h hother => h.trans hother
  by_cases h₁ : status₁ = step <;> by_cases h₂ : status₂ = step
  · subst h₁ h₂
    by_cases hadvances : s.Advances status₂
    · simp [hadvances, hself, ht.ne]
    · simp [hadvances]
  · subst h₁
    by_cases hadvances : s.Advances status₁
    · have hold := hnone hadvances
      by_cases hother : s.Advances status₂ <;> simp [h₂, hadvances, hold, hother]
    · have hnot : s.Advances status₂ → isMessageStatusAdvance status₂ status₁ ≠ true :=
        fun h hadvance => hadvances (hreach status₂ h hadvance)
      by_cases hother : s.Advances status₂
      · simp [h₂, hadvances, hother, hnot hother]
      · simp [h₂, hadvances, hother]
  · subst h₂
    by_cases hadvances : s.Advances status₂
    · have hold := hnone hadvances
      by_cases hother : s.Advances status₁ <;> simp [h₁, hadvances, hold, hother]
    · have hnot : s.Advances status₁ → isMessageStatusAdvance status₁ status₂ ≠ true :=
        fun h hadvance => hadvances (hreach status₁ h hadvance)
      by_cases hother : s.Advances status₁
      · simp [h₁, hadvances, hother, hnot hother]
      · simp [h₁, hadvances, hother]
  · simp [h₁, h₂]

/-- Both reports leave their times whichever comes first. -/
def StepsCommute (s : Steps) (status₁ status₂ : MessageStatus) : Prop :=
  (status₁ = .delivered ∨ status₁ = .read → s.TakenAfter status₁ status₂) ∧
    (status₂ = .delivered ∨ status₂ = .read → s.TakenAfter status₂ status₁)

theorem times_comm (hs : s.InOrder) (ht : t₁ < t₂) :
    ((s.advance status₁ t₁).advance status₂ t₂).times = ((s.advance status₂ t₂).advance status₁ t₁).times ↔
      s.StepsCommute status₁ status₂ := by
  have hstep : ∀ step, step = .delivered ∨ step = .read →
      (((s.advance status₁ t₁).advance status₂ t₂).stampedAt step =
          ((s.advance status₂ t₂).advance status₁ t₁).stampedAt step ↔
        (status₁ = step → s.TakenAfter status₁ status₂) ∧ (status₂ = step → s.TakenAfter status₂ status₁)) :=
    fun step hstep => stampedAt_comm hstep hs ht
  have hdelivered := hstep .delivered (.inl rfl)
  have hread := hstep .read (.inr rfl)
  simp only [stampedAt] at hdelivered hread
  simp only [times, sentAt_advance, StepTimes.mk.injEq, true_and, hdelivered, hread, StepsCommute, or_imp]
  exact and_and_and_comm

end Steps

/-- At most one of the names is news. -/
def NamesAgree (e₁ e₂ : ProviderEvent) : Prop :=
  e₁.displayName = none ∨ e₂.displayName = none ∨ e₁.displayName = e₂.displayName

def OpensEarly (f : Feed) (account₁ account₂ : Uuid) (e₁ e₂ : ProviderEvent) : Prop :=
  account₁ = account₂ ∧ f.thread account₂ = none ∧ e₁.writes = true ∧ e₂.writes = true ∧ e₂.inboundTime = none

/-- Two receipts of one message find it, and each takes its step whichever comes first. -/
def StepsAgree (f : Feed) (e₁ e₂ : ProviderEvent) : Prop :=
  ∀ u₁ u₂ status₁ status₂, e₁ = .receipt u₁ → e₂ = .receipt u₂ → u₁.id = u₂.id →
    toMessageStatus u₁.status = some status₁ → toMessageStatus u₂.status = some status₂ →
      ∃ steps, f.message u₁.id = some steps ∧ steps.StepsCommute status₁ status₂

structure FeedPair (f : Feed) (account₁ account₂ : Uuid) (e₁ e₂ : ProviderEvent) : Prop where
  older : e₁.timestamp < e₂.timestamp
  identified : e₁.id = e₂.id → account₁ = account₂ ∧ e₁.inboundTime = e₂.inboundTime
  placed₁ : f.message e₁.id ≠ none → f.thread account₁ ≠ none
  placed₂ : f.message e₂.id ≠ none → f.thread account₂ ≠ none
  inOrder : ∀ id steps, f.message id = some steps → steps.InOrder

section Pair

variable {f : Feed} {e e₁ e₂ : ProviderEvent}

theorem shows_other (hid : e.id ≠ e'.id) : e.shows (f.applyEvent account e') = e.shows f := by
  rw [ProviderEvent.shows, applyEvent_message_other hid, ProviderEvent.shows]

theorem heard_other (hid : e.id ≠ e'.id) : e.heard (f.applyEvent account e') = e.heard f := by
  funext last
  rw [ProviderEvent.heard, applyEvent_message_other hid, ProviderEvent.heard]

theorem displayName_of_not_shows (h : e.shows f = false) : e.displayName = none := by
  cases e with
  | message => cases h
  | receipt => rfl

theorem Profile.see_comm (p : Profile) (n₁ n₂ : Option String) (t₁ t₂ : Millis) :
    (p.see n₁ t₁).see n₂ t₂ = (p.see n₂ t₂).see n₁ t₁ ↔ n₁ = none ∨ n₂ = none ∨ n₁ = n₂ := by
  have htime : ((p.see n₁ t₁).see n₂ t₂).lastSeenAt = ((p.see n₂ t₂).see n₁ t₁).lastSeenAt := by
    simp only [Profile.see, Option.elim_some]
    cases p.lastSeenAt with
    | none => exact congrArg some (max_comm t₁ t₂)
    | some t => exact congrArg some (max_right_comm t t₁ t₂)
  have hname : n₂.or (n₁.or p.displayName) = n₁.or (n₂.or p.displayName) ↔ n₁ = none ∨ n₂ = none ∨ n₁ = n₂ := by
    cases n₁ with
    | none => simp
    | some =>
      cases n₂ with
      | none => simp
      | some => simp [eq_comm]
  rw [Profile.mk.injEq]
  exact (and_iff_left htime).trans hname

theorem contact_comm (hid : e₁.id ≠ e₂.id) : ((f.applyEvent account₁ e₁).applyEvent account₂ e₂).contact =
      ((f.applyEvent account₂ e₂).applyEvent account₁ e₁).contact ↔
        (e₁.shows f = true → e₂.shows f = true → NamesAgree e₁ e₂) := by
  simp only [applyEvent_contact, shows_other hid, shows_other hid.symm]
  cases h₁ : e₁.shows f <;> cases h₂ : e₂.shows f
  · simp
  · simp
  · simp
  · simp [Profile.see_comm, NamesAgree]

theorem writes_of_shows (h : e.shows f = true) : e.writes = true := by
  simp only [ProviderEvent.shows, Bool.and_eq_true] at h
  exact h.1

theorem stored_of_not_shows (hw : e.writes = true) (h : e.shows f = false) : f.message e.id ≠ none := by
  intro hnone
  simp [ProviderEvent.shows, hw, hnone] at h

theorem heard_comm (last : Millis) : e₂.heard f (e₁.heard f last) = e₁.heard f (e₂.heard f last) := by
  simp only [ProviderEvent.heard]
  split <;> split
  · exact max_right_comm _ _ _
  · rfl
  · rfl
  · rfl

theorem heard_le (h : e.timestamp ≤ last) : e.heard f last = last := by
  simp only [ProviderEvent.heard]
  split
  · exact max_eq_left h
  · rfl

/-- Two events of one thread that both reach it, when neither of their messages could be there without it. -/
theorem activity_comm_same (h : FeedPair f account account e₁ e₂) (h₁ : e₁.shows f = true) (h₂ : e₂.shows f = true) :
    e₂.heard f (e₁.heard f ((f.columns.activity account).getD e₁.timestamp)) =
      e₁.heard f (e₂.heard f ((f.columns.activity account).getD e₂.timestamp)) ↔
        ¬ OpensEarly f account account e₁ e₂ := by
  cases hthread : f.thread account with
  | some a =>
    have hactivity : f.columns.activity account = some a.lastMessageAt := by simp [Feed.columns, hthread]
    simp [hactivity, heard_comm, OpensEarly, hthread]
  | none =>
    have hactivity : f.columns.activity account = none := by simp [Feed.columns, hthread]
    have hnew : f.message e₂.id = none := by
      by_contra hstored
      exact h.placed₂ hstored hthread
    rw [hactivity, Option.getD_none, Option.getD_none, heard_le (le_refl _), heard_le (e := e₂) (le_refl _),
      heard_le h.older.le]
    simp only [OpensEarly, hthread, writes_of_shows h₁, writes_of_shows h₂, true_and]
    cases hin : e₂.inboundTime with
    | none => simp [ProviderEvent.heard, hin, h.older.ne]
    | some => simp [ProviderEvent.heard, hin, hnew, max_eq_right h.older.le]

/-- The activity of the threads after two events of different messages. -/
theorem activity_comm (h : FeedPair f account₁ account₂ e₁ e₂) (hid : e₁.id ≠ e₂.id) :
    ((f.applyEvent account₁ e₁).applyEvent account₂ e₂).columns.activity =
      ((f.applyEvent account₂ e₂).applyEvent account₁ e₁).columns.activity ↔ ¬ OpensEarly f account₁ account₂ e₁ e₂ := by
  simp only [applyEvent_activity, shows_other hid, shows_other hid.symm, heard_other hid, heard_other hid.symm]
  by_cases haccount : account₁ = account₂
  · subst haccount
    have hnot : e₁.shows f = false ∨ e₂.shows f = false → ¬ OpensEarly f account₁ account₁ e₁ e₂ := by
      rintro hshows ⟨_, hthread, hw₁, hw₂, _⟩
      rcases hshows with hshows | hshows
      · exact h.placed₁ (stored_of_not_shows hw₁ hshows) hthread
      · exact h.placed₂ (stored_of_not_shows hw₂ hshows) hthread
    cases h₁ : e₁.shows f <;> cases h₂ : e₂.shows f
    · simp [hnot, h₁]
    · simp [hnot, h₁]
    · simp [hnot, h₂]
    · simp only [if_true, Function.update_self, Function.update_idem, Option.getD_some]
      rw [(Function.update_injective _ _).eq_iff, Option.some.injEq]
      exact activity_comm_same h h₁ h₂
  · have hother := Ne.symm haccount
    have hnot : ¬ OpensEarly f account₁ account₂ e₁ e₂ := fun h => haccount h.1
    cases e₁.shows f <;> cases e₂.shows f
    · simp [hnot]
    · simp [hnot]
    · simp [hnot]
    · simp [hnot, Function.update_of_ne haccount, Function.update_of_ne hother, Function.update_comm hother]

/-- What an event makes of its own message. -/
def ProviderEvent.step (e : ProviderEvent) (row : Option Steps) : Option Steps :=
  match e with
  | .message m _ => some (row.getD { status := .received, sentAt := m.timestamp })
  | .receipt u =>
    match toMessageStatus u.status with
    | none => row
    | some status => some (row.elim (Steps.placeholder status u.timestamp) (·.advance status u.timestamp))

theorem applyEvent_message_own : (f.applyEvent account e).message e.id = e.step (f.message e.id) := by
  cases e with
  | message m =>
    simp only [Feed.applyEvent, Feed.applyMessage, ProviderEvent.id, ProviderEvent.step]
    cases hrow : f.message m.id with
    | none => exact Function.update_self _ _ _
    | some => exact hrow
  | receipt u =>
    simp only [Feed.applyEvent, ProviderEvent.id, ProviderEvent.step]
    cases toMessageStatus u.status with
    | none => rfl
    | some =>
      simp only [Feed.applyReceipt]
      cases f.message u.id <;> exact Function.update_self _ _ _

theorem message_comm (hid : e₁.id ≠ e₂.id) : ((f.applyEvent account₁ e₁).applyEvent account₂ e₂).message =
    ((f.applyEvent account₂ e₂).applyEvent account₁ e₁).message := by
  funext id
  by_cases h₁ : id = e₁.id
  · subst h₁
    rw [applyEvent_message_other hid, applyEvent_message_own, applyEvent_message_own, applyEvent_message_other hid]
  · by_cases h₂ : id = e₂.id
    · subst h₂
      rw [applyEvent_message_own, applyEvent_message_other hid.symm, applyEvent_message_other hid.symm,
        applyEvent_message_own]
    · rw [applyEvent_message_other h₂, applyEvent_message_other h₁, applyEvent_message_other h₁,
        applyEvent_message_other h₂]

theorem sentAt_placeholder : (Steps.placeholder status t).sentAt = t := by
  cases status <;> rfl

theorem store_columns {id : String} : (f.store id s).columns = (f.store id s').columns ↔ s.times = s'.times := by
  have htimes : ∀ s : Steps, (f.store id s).columns.times = Function.update f.columns.times id (some s.times) :=
    fun s => Function.comp_update (Option.map Steps.times) f.message id (some s)
  constructor
  · intro h
    have htimes' := congrArg Columns.times h
    rw [htimes, htimes, (Function.update_injective _ _).eq_iff, Option.some.injEq] at htimes'
    exact htimes'
  · intro h
    apply Columns.ext
    · rfl
    · rfl
    · rw [htimes, htimes, h]

theorem receipts_comm {id : String} (ht : t₁ < t₂) (hinOrder : ∀ steps, f.message id = some steps → steps.InOrder) :
    ((f.applyReceipt account id status₁ t₁).applyReceipt account id status₂ t₂).columns =
        ((f.applyReceipt account id status₂ t₂).applyReceipt account id status₁ t₁).columns ↔
      ∃ steps, f.message id = some steps ∧ steps.StepsCommute status₁ status₂ := by
  have hstored : ∀ (g : Feed) steps status t, g.message id = some steps →
      g.applyReceipt account id status t = g.store id (steps.advance status t) := by
    intro g steps status t h
    rw [Feed.applyReceipt, h]
  cases hmessage : f.message id with
  | none =>
    have hfirst : ∀ status t, (f.applyReceipt account id status t).message id =
        some (Steps.placeholder status t) := by
      intro status t
      rw [Feed.applyReceipt, hmessage]
      exact Function.update_self _ _ _
    have hsent : ∀ status t status' t', (((f.applyReceipt account id status t).applyReceipt account id status'
        t').columns.times id).map StepTimes.sentAt = some t := by
      intro status t status' t'
      rw [hstored _ _ status' t' (hfirst status t)]
      simp [Feed.columns, Feed.store, Steps.times, Steps.sentAt_advance, sentAt_placeholder]
    simp only [reduceCtorEq, false_and, exists_false, iff_false]
    intro heq
    have hsame := (hsent status₁ t₁ status₂ t₂).symm.trans ((congrArg (fun c => (c.times id).map StepTimes.sentAt)
      heq).trans (hsent status₂ t₂ status₁ t₁))
    exact ht.ne (Option.some.inj hsame)
  | some steps =>
    have htwice : ∀ status t status' t', (f.applyReceipt account id status t).applyReceipt account id status' t' =
        f.store id ((steps.advance status t).advance status' t') := by
      intro status t status' t'
      rw [hstored _ _ status t hmessage, hstored _ _ status' t' (Function.update_self _ _ _)]
      simp [Feed.store]
    rw [htwice, htwice, store_columns]
    simp only [Option.some.injEq, exists_eq_left']
    exact Steps.times_comm (hinOrder steps hmessage) ht

theorem FeedPair.receipts (h : FeedPair f account₁ account₂ e₁ e₂) (hid : e₁.id = e₂.id) :
    ∃ u₁ u₂, e₁ = .receipt u₁ ∧ e₂ = .receipt u₂ := by
  obtain ⟨_, htime⟩ := h.identified hid
  cases e₁ with
  | message =>
    cases e₂ with
    | message => exact absurd (Option.some.inj htime) h.older.ne
    | receipt => cases htime
  | receipt u₁ =>
    cases e₂ with
    | message => cases htime
    | receipt u₂ => exact ⟨u₁, u₂, rfl, rfl⟩

theorem columns_comm_same (h : FeedPair f account₁ account₂ e₁ e₂) (hid : e₁.id = e₂.id) (hw₁ : e₁.writes = true)
    (hw₂ : e₂.writes = true) : ((f.applyEvent account₁ e₁).applyEvent account₂ e₂).columns =
        ((f.applyEvent account₂ e₂).applyEvent account₁ e₁).columns ↔
      NamesAgree e₁ e₂ ∧ ¬ OpensEarly f account₁ account₂ e₁ e₂ ∧ StepsAgree f e₁ e₂ := by
  obtain ⟨u₁, u₂, rfl, rfl⟩ := h.receipts hid
  obtain ⟨rfl, _⟩ := h.identified hid
  obtain ⟨status₁, hstatus₁⟩ := Option.isSome_iff_exists.mp hw₁
  obtain ⟨status₂, hstatus₂⟩ := Option.isSome_iff_exists.mp hw₂
  have hid' : u₁.id = u₂.id := hid
  have hsteps : StepsAgree f (.receipt u₁) (.receipt u₂) ↔
      ∃ steps, f.message u₁.id = some steps ∧ steps.StepsCommute status₁ status₂ := by
    constructor
    · exact fun h => h u₁ u₂ status₁ status₂ rfl rfl hid' hstatus₁ hstatus₂
    · rintro h _ _ _ _ ⟨⟩ ⟨⟩ _ hstatus₁' hstatus₂'
      rw [hstatus₁] at hstatus₁'
      rw [hstatus₂] at hstatus₂'
      cases hstatus₁'
      cases hstatus₂'
      exact h
  have hopens : StepsAgree f (.receipt u₁) (.receipt u₂) → ¬ OpensEarly f account₁ account₁ (.receipt u₁) (.receipt u₂) := by
    intro h' hopens
    obtain ⟨steps, hstored, _⟩ := hsteps.mp h'
    exact h.placed₁ (by simp [ProviderEvent.id, hstored]) hopens.2.1
  have hname : NamesAgree (.receipt u₁) (.receipt u₂) := .inl rfl
  simp only [Feed.applyEvent, hstatus₁, hstatus₂, ← hid']
  rw [and_iff_right hname, and_iff_right_of_imp hopens, hsteps]
  exact receipts_comm h.older (h.inOrder u₁.id)

theorem columns_comm_other (h : FeedPair f account₁ account₂ e₁ e₂) (hid : e₁.id ≠ e₂.id) :
    ((f.applyEvent account₁ e₁).applyEvent account₂ e₂).columns =
        ((f.applyEvent account₂ e₂).applyEvent account₁ e₁).columns ↔
      NamesAgree e₁ e₂ ∧ ¬ OpensEarly f account₁ account₂ e₁ e₂ ∧ StepsAgree f e₁ e₂ := by
  have hname : (e₁.shows f = true → e₂.shows f = true → NamesAgree e₁ e₂) ↔ NamesAgree e₁ e₂ := by
    constructor
    · intro h
      cases h₁ : e₁.shows f with
      | false => exact .inl (displayName_of_not_shows h₁)
      | true =>
        cases h₂ : e₂.shows f with
        | false => exact .inr (.inl (displayName_of_not_shows h₂))
        | true => exact h h₁ h₂
    · exact fun h _ _ => h
  have hsteps : StepsAgree f e₁ e₂ := by
    rintro u₁ u₂ _ _ rfl rfl hid' _ _
    exact absurd hid' hid
  have htimes : ((f.applyEvent account₁ e₁).applyEvent account₂ e₂).columns.times =
      ((f.applyEvent account₂ e₂).applyEvent account₁ e₁).columns.times := by
    simp only [Feed.columns, message_comm hid]
  rw [Columns.ext_iff, and_iff_left htimes, activity_comm h hid, and_iff_left hsteps]
  exact and_congr_left' ((contact_comm hid).trans hname)

/-- **Two events in either order.** -/
theorem columns_comm_iff (h : FeedPair f account₁ account₂ e₁ e₂) :
    ((f.applyEvent account₁ e₁).applyEvent account₂ e₂).columns =
        ((f.applyEvent account₂ e₂).applyEvent account₁ e₁).columns ↔
      NamesAgree e₁ e₂ ∧ ¬ OpensEarly f account₁ account₂ e₁ e₂ ∧ StepsAgree f e₁ e₂ := by
  cases hw₁ : e₁.writes with
  | false =>
    have hshows : e₁.shows f = false := by simp [ProviderEvent.shows, hw₁]
    have hname := displayName_of_not_shows hshows
    have hsteps : StepsAgree f e₁ e₂ := by
      rintro u₁ u₂ status₁ status₂ rfl rfl _ hstatus₁ _
      simp [ProviderEvent.writes, hstatus₁] at hw₁
    simp [applyEvent_silent hw₁, NamesAgree, hname, OpensEarly, hw₁, hsteps]
  | true =>
    cases hw₂ : e₂.writes with
    | false =>
      have hshows : e₂.shows f = false := by simp [ProviderEvent.shows, hw₂]
      have hname := displayName_of_not_shows hshows
      have hsteps : StepsAgree f e₁ e₂ := by
        rintro u₁ u₂ status₁ status₂ rfl rfl _ _ hstatus₂
        simp [ProviderEvent.writes, hstatus₂] at hw₂
      simp [applyEvent_silent hw₂, NamesAgree, hname, OpensEarly, hw₂, hsteps]
    | true =>
      by_cases hid : e₁.id = e₂.id
      · exact columns_comm_same h hid hw₁ hw₂
      · exact columns_comm_other h hid

theorem shows_again (hw : e.writes = true) : e.shows (f.applyEvent account e) = e.inboundTime.isSome := by
  have hstored : (f.applyEvent account e).message e.id ≠ none := by
    rw [applyEvent_message_own]
    cases e with
    | message => exact Option.some_ne_none _
    | receipt =>
      obtain ⟨status, hstatus⟩ := Option.isSome_iff_exists.mp hw
      simp [ProviderEvent.step, hstatus]
  simp [ProviderEvent.shows, hw, hstored]

theorem not_advances_again (s : Steps) (status : MessageStatus) (t : Millis) :
    ¬ (s.advance status t).Advances status := by
  rw [Steps.advances_advance]
  split
  · simp [Steps.not_advance_self]
  · assumption

theorem step_again (row : Option Steps) : e.step (e.step row) = e.step row := by
  cases e with
  | message => rfl
  | receipt u =>
    simp only [ProviderEvent.step]
    cases toMessageStatus u.status with
    | none => rfl
    | some status =>
      have hstatus : (Steps.placeholder status u.timestamp).status = .ladder status := by cases status <;> rfl
      have hplaceholder : ¬ (Steps.placeholder status u.timestamp).Advances status := by
        simp [Steps.advances_iff, hstatus, Steps.not_advance_self]
      cases row with
      | none => simp [Steps.advance, hplaceholder]
      | some s =>
        have hagain := not_advances_again s status u.timestamp
        simp only [Option.elim_some, Option.some.injEq]
        rw [Steps.advance, if_neg hagain]

theorem Profile.see_again (p : Profile) (displayName : Option String) (t : Millis) :
    (p.see displayName t).see displayName t = p.see displayName t := by
  rw [Profile.mk.injEq]
  constructor
  · cases displayName <;> rfl
  · simp only [Profile.see, Option.elim_some]
    cases p.lastSeenAt with
    | none => exact congrArg some (max_self t)
    | some s =>
      have htwice : max (max s t) t = max s t := by rw [max_assoc, max_self]
      exact congrArg some htwice

theorem columns_again : ((f.applyEvent account e).applyEvent account e).columns = (f.applyEvent account e).columns := by
  cases hw : e.writes with
  | false => rw [applyEvent_silent hw, applyEvent_silent hw]
  | true =>
    have hmessage : ((f.applyEvent account e).applyEvent account e).message = (f.applyEvent account e).message := by
      funext id
      by_cases hid : id = e.id
      · subst hid
        rw [applyEvent_message_own, applyEvent_message_own, step_again]
      · rw [applyEvent_message_other hid]
    have htimes : ((f.applyEvent account e).applyEvent account e).columns.times =
        (f.applyEvent account e).columns.times := by
      simp only [Feed.columns, hmessage]
    have hagain : e.shows (f.applyEvent account e) = e.inboundTime.isSome := shows_again hw
    cases e with
    | receipt u =>
      have hnot : (ProviderEvent.receipt u).shows (f.applyEvent account (.receipt u)) = false := hagain
      refine Columns.ext ?_ ?_ htimes
      · exact applyEvent_contact.trans (if_neg (ne_true_of_eq_false hnot))
      · exact applyEvent_activity.trans (if_neg (ne_true_of_eq_false hnot))
    | message m n =>
      have hstored : (f.applyEvent account (.message m n)).message m.id ≠ none := by
        have hown : (f.applyEvent account (.message m n)).message m.id = _ := applyEvent_message_own
        rw [hown]
        exact Option.some_ne_none _
      have hshows : (ProviderEvent.message m n).shows (f.applyEvent account (.message m n)) = true := hagain
      have hfirst : (ProviderEvent.message m n).shows f = true := rfl
      have hcontact : ((f.applyEvent account (.message m n)).applyEvent account (.message m n)).contact =
          (f.applyEvent account (.message m n)).contact := by
        rw [applyEvent_contact, if_pos hshows, applyEvent_contact, if_pos hfirst, Option.getD_some,
          Profile.see_again]
      refine Columns.ext hcontact ?_ htimes
      rw [applyEvent_activity, if_pos hshows, applyEvent_activity, if_pos hfirst]
      simp [ProviderEvent.heard, ProviderEvent.id, hstored]

end Pair

def WebhookDb.Stamped (db : WebhookDb) (tenantId : Uuid) : Prop :=
  ∀ id m, db.findMessage tenantId id = some m → m.steps.InOrder

theorem stamped_iff (phoneE164 : String) :
    db.Stamped tenantId ↔ ∀ id steps, (db.feed tenantId phoneE164).message id = some steps → steps.InOrder := by
  simp only [WebhookDb.Stamped, feed_message, Option.map_eq_some_iff]
  constructor
  · rintro h id _ ⟨m, hm, rfl⟩
    exact h id m hm
  · exact fun h id m hm => h id _ ⟨m, hm, rfl⟩

theorem Steps.InOrder.advance (hs : s.InOrder) (status : MessageStatus) (t : Millis) : (s.advance status t).InOrder := by
  intro step hstep
  by_cases htimed : step = .delivered ∨ step = .read
  · rw [Steps.stampedAt_advance htimed]
    rw [Steps.advances_advance] at hstep
    by_cases hadvances : s.Advances status
    · rw [if_pos hadvances] at hstep
      have hne : ¬ (s.Advances status ∧ status = step) := by
        rintro ⟨_, rfl⟩
        simp [Steps.not_advance_self] at hstep
      rw [if_neg hne]
      exact hs step (hadvances.trans hstep)
    · rw [if_neg hadvances] at hstep
      rw [if_neg fun h => hadvances h.1]
      exact hs step hstep
  · cases step <;> simp_all [Steps.stampedAt]

theorem Steps.InOrder.placeholder : (Steps.placeholder status t).InOrder := by
  intro step hstep
  obtain ⟨source, hsource, hadvance⟩ := Steps.advances_iff.mp hstep
  have hstatus : (Steps.placeholder status t).status = .ladder status := by cases status <;> rfl
  rw [hstatus] at hsource
  cases hsource
  cases status <;> cases step <;> first | rfl | cases hadvance

theorem deliver_stamped {account : RoutedWhatsAppAccount} {e : ProviderEvent}
    (hdb : Kept db) (hstamped : db.Stamped account.tenantId) (hphone : e.phoneE164 = some phoneE164)
    (h : e.deliver account db = some db') : db'.Stamped account.tenantId := by
  rw [stamped_iff phoneE164] at hstamped ⊢
  rw [(deliver_feed hdb hphone h).2]
  intro id steps hsteps
  by_cases hid : id = e.id
  · subst hid
    rw [applyEvent_message_own] at hsteps
    cases hrow : (db.feed account.tenantId phoneE164).message e.id with
    | some row =>
      have horder := hstamped _ row hrow
      rw [hrow] at hsteps
      cases e with
      | message =>
        cases hsteps
        exact horder
      | receipt =>
        simp only [ProviderEvent.step] at hsteps
        split at hsteps <;> cases hsteps
        · exact horder
        · exact horder.advance _ _
    | none =>
      rw [hrow] at hsteps
      cases e with
      | message =>
        cases hsteps
        rintro step ⟨_, _, ⟨⟩⟩
      | receipt =>
        simp only [ProviderEvent.step] at hsteps
        split at hsteps <;> cases hsteps
        exact Steps.InOrder.placeholder _ _
  · rw [applyEvent_message_other hid] at hsteps
    exact hstamped id steps hsteps

structure EventOf (db : WebhookDb) (account : RoutedWhatsAppAccount) (phoneE164 : String) (e : ProviderEvent) : Prop where
  phone : e.phoneE164 = some phoneE164
  placed : ∀ m, db.findMessage account.tenantId e.id = some m →
    ∃ v, db.findThread account.tenantId phoneE164 account.whatsappAccountId = some v ∧ v.id = m.conversationId

/-- **A late event is absorbed** exactly when at most one of the two names is news, the later event is no receipt that
    opens the thread, and two receipts of one message commute. -/
theorem late_event_absorbed_iff {db d₁ d₁₂ d₂ d₂₁ d₁₁ d₂₂ : WebhookDb} {account₁ account₂ : RoutedWhatsAppAccount}
    {phoneE164 : String} {e₁ e₂ : ProviderEvent} (hdb : Kept db) (hstamped : db.Stamped account₁.tenantId)
    (htenant : account₁.tenantId = account₂.tenantId) (he₁ : EventOf db account₁ phoneE164 e₁)
    (he₂ : EventOf db account₂ phoneE164 e₂) (holder : e₁.timestamp < e₂.timestamp)
    (hidentified : e₁.id = e₂.id → account₁ = account₂ ∧ e₁.inboundTime = e₂.inboundTime)
    (h₁ : e₁.deliver account₁ db = some d₁) (h₁₂ : e₂.deliver account₂ d₁ = some d₁₂)
    (h₂ : e₂.deliver account₂ db = some d₂) (h₂₁ : e₁.deliver account₁ d₂ = some d₂₁)
    (h₁₁ : e₁.deliver account₁ d₁ = some d₁₁) (h₂₂ : e₂.deliver account₂ d₂ = some d₂₂) :
    (d₂₁.columns account₁.tenantId phoneE164 = d₁₂.columns account₁.tenantId phoneE164 ∧
        d₁₁.columns account₁.tenantId phoneE164 = d₁.columns account₁.tenantId phoneE164 ∧
        d₂₂.columns account₁.tenantId phoneE164 = d₂.columns account₁.tenantId phoneE164) ↔
      NamesAgree e₁ e₂ ∧
        ¬ OpensEarly (db.feed account₁.tenantId phoneE164) account₁.whatsappAccountId account₂.whatsappAccountId e₁ e₂ ∧
        StepsAgree (db.feed account₁.tenantId phoneE164) e₁ e₂ := by
  obtain ⟨tenantId, whatsappAccountId₁⟩ := account₁
  obtain ⟨_, whatsappAccountId₂⟩ := account₂
  cases htenant
  obtain ⟨hd₁, hf₁⟩ := deliver_feed hdb he₁.phone h₁
  obtain ⟨hd₂, hf₂⟩ := deliver_feed hdb he₂.phone h₂
  obtain ⟨_, hf₁₂⟩ := deliver_feed hd₁ he₂.phone h₁₂
  obtain ⟨_, hf₂₁⟩ := deliver_feed hd₂ he₁.phone h₂₁
  obtain ⟨_, hf₁₁⟩ := deliver_feed hd₁ he₁.phone h₁₁
  obtain ⟨_, hf₂₂⟩ := deliver_feed hd₂ he₂.phone h₂₂
  have hplaced : ∀ {a e}, EventOf db ⟨tenantId, a⟩ phoneE164 e →
      (db.feed tenantId phoneE164).message e.id ≠ none → (db.feed tenantId phoneE164).thread a ≠ none := by
    intro a e he hstored
    rw [feed_message, ne_eq, Option.map_eq_none_iff] at hstored
    obtain ⟨m, hm⟩ := Option.ne_none_iff_exists'.mp hstored
    obtain ⟨v, hv, _⟩ := he.placed m hm
    have hthread : (db.feed tenantId phoneE164).thread a = some v.activity :=
      congrArg (Option.map InboundConversation.activity) hv
    rw [hthread]
    exact Option.some_ne_none _
  have hpair : FeedPair (db.feed tenantId phoneE164) whatsappAccountId₁ whatsappAccountId₂ e₁ e₂ := {
    older := holder
    identified := fun hid => ⟨congrArg RoutedWhatsAppAccount.whatsappAccountId (hidentified hid).1, (hidentified hid).2⟩
    placed₁ := hplaced he₁
    placed₂ := hplaced he₂
    inOrder := (stamped_iff phoneE164).mp hstamped }
  simp only [WebhookDb.columns]
  rw [hf₁₁, hf₂₂, hf₁₂, hf₂₁, hf₁, hf₂, columns_again, columns_again, ← columns_comm_iff hpair]
  simp only [and_true]
  exact eq_comm

theorem deliverAll_pair {e : ProviderEvent} : deliverAll account [e, e'] db = some db' ↔
      ∃ d, e.deliver account db = some d ∧ e'.deliver account d = some db' := by
  simp [deliverAll, Option.bind_eq_some_iff]

/-- A thread with a message in it, and a message of ours that was sent. -/
def sentMessage : WebhookDb :=
  { serviceable := [1]
    contacts := [{ id := 11, tenantId := 1, phoneE164 := "+15551234567", displayName := some "Layla"
                   lastSeenAt := some 10 }]
    conversations := [{ id := 12, tenantId := 1, whatsappAccountId := 2, contactId := 11, lastMessageAt := 10
                        serviceWindowExpiresAt := some (serviceWindowEnd 10) }]
    messages := [{ tenantId := 1, conversationId := 12, direction := .outbound, status := .ladder .sent
                   providerMessageId := some "r1", sentAt := 5 }] }

theorem sentMessage_kept : Kept sentMessage where
  indexed := by constructor <;> decide
  linked := by decide
  attached := by decide

theorem sentMessage_stamped : sentMessage.Stamped 1 := by
  intro id m hm
  have hmem := List.mem_of_find?_eq_some hm
  rw [List.mem_singleton.mp hmem]
  intro status hstatus
  cases status <;> rfl

theorem late_event_absorbed_iff_sentMessage : ∃ d₁ d₁₂ d₂ d₂₁ d₁₁ d₂₂ : WebhookDb,
    (customerMessage "m1" 50 (some "Layla")).deliver servedNumber sentMessage = some d₁ ∧
    (customerReceipt "r1" "delivered" 70).deliver servedNumber d₁ = some d₁₂ ∧
    ((d₂₁.columns 1 "+15551234567" = d₁₂.columns 1 "+15551234567" ∧
        d₁₁.columns 1 "+15551234567" = d₁.columns 1 "+15551234567" ∧
        d₂₂.columns 1 "+15551234567" = d₂.columns 1 "+15551234567") ↔
      NamesAgree (customerMessage "m1" 50 (some "Layla")) (customerReceipt "r1" "delivered" 70) ∧
        ¬ OpensEarly (sentMessage.feed 1 "+15551234567") 2 2 (customerMessage "m1" 50 (some "Layla"))
          (customerReceipt "r1" "delivered" 70) ∧
        StepsAgree (sentMessage.feed 1 "+15551234567") (customerMessage "m1" 50 (some "Layla"))
          (customerReceipt "r1" "delivered" 70)) := by
  have hsome : ∀ events, (deliverAll servedNumber events sentMessage).isSome = true →
      ∃ d, deliverAll servedNumber events sentMessage = some d := fun _ h => Option.isSome_iff_exists.mp h
  obtain ⟨d₁₂, h₁₂⟩ := hsome [customerMessage "m1" 50 (some "Layla"), customerReceipt "r1" "delivered" 70]
    (by decide +kernel)
  obtain ⟨d₂₁, h₂₁⟩ := hsome [customerReceipt "r1" "delivered" 70, customerMessage "m1" 50 (some "Layla")]
    (by decide +kernel)
  obtain ⟨d₁₁, h₁₁⟩ := hsome [customerMessage "m1" 50 (some "Layla"), customerMessage "m1" 50 (some "Layla")]
    (by decide +kernel)
  obtain ⟨d₂₂, h₂₂⟩ := hsome [customerReceipt "r1" "delivered" 70, customerReceipt "r1" "delivered" 70]
    (by decide +kernel)
  obtain ⟨d₁, h₁, h₁₂⟩ := deliverAll_pair.mp h₁₂
  obtain ⟨d₂, h₂, h₂₁⟩ := deliverAll_pair.mp h₂₁
  obtain ⟨d₁', h₁', h₁₁⟩ := deliverAll_pair.mp h₁₁
  obtain ⟨d₂', h₂', h₂₂⟩ := deliverAll_pair.mp h₂₂
  cases h₁.symm.trans h₁'
  cases h₂.symm.trans h₂'
  have he₁ : EventOf sentMessage servedNumber "+15551234567" (customerMessage "m1" 50 (some "Layla")) :=
    ⟨by decide +kernel, fun m hm => by cases hm⟩
  have he₂ : EventOf sentMessage servedNumber "+15551234567" (customerReceipt "r1" "delivered" 70) := by
    refine ⟨by decide +kernel, fun m hm => ?_⟩
    cases hm
    exact ⟨_, rfl, rfl⟩
  exact ⟨d₁, d₁₂, d₂, d₂₁, d₁₁, d₂₂, h₁, h₁₂, late_event_absorbed_iff sentMessage_kept sentMessage_stamped rfl he₁ he₂
    (by decide) (by decide) h₁ h₁₂ h₂ h₂₁ h₁₁ h₂₂⟩

theorem deliverAll_column (db : WebhookDb) (events : List ProviderEvent) (column : WebhookDb → α) (a : α)
    (h : (deliverAll servedNumber events db).map column = some a) :
    ∃ d, deliverAll servedNumber events db = some d ∧ column d = a := Option.map_eq_some_iff.mp h

/-- Applied late, the report of a delivery leaves no time; and the name with a late message replaces a newer one. -/
theorem late_events_not_absorbed : (∃ e₁ e₂ d₁₂ d₂₁, EventOf sentMessage servedNumber "+15551234567" e₁ ∧
      EventOf sentMessage servedNumber "+15551234567" e₂ ∧ e₁.timestamp < e₂.timestamp ∧
      deliverAll servedNumber [e₁, e₂] sentMessage = some d₁₂ ∧
      deliverAll servedNumber [e₂, e₁] sentMessage = some d₂₁ ∧
      (d₁₂.columns 1 "+15551234567").times "r1" = some ⟨5, some 70, some 80⟩ ∧
      (d₂₁.columns 1 "+15551234567").times "r1" = some ⟨5, none, some 80⟩) ∧
    ∃ e₁ e₂ d₁₂ d₂₁, EventOf sentMessage servedNumber "+15551234567" e₁ ∧
      EventOf sentMessage servedNumber "+15551234567" e₂ ∧ e₁.timestamp < e₂.timestamp ∧
      deliverAll servedNumber [e₁, e₂] sentMessage = some d₁₂ ∧
      deliverAll servedNumber [e₂, e₁] sentMessage = some d₂₁ ∧
      (d₁₂.columns 1 "+15551234567").contact = some ⟨some "Lina", some 60⟩ ∧
      (d₂₁.columns 1 "+15551234567").contact = some ⟨some "Layla", some 60⟩ := by
  have hphone : toPhoneE164 "15551234567" = some "+15551234567" := by decide +kernel
  have hreceipt : ∀ status t, EventOf sentMessage servedNumber "+15551234567" (customerReceipt "r1" status t) := by
    refine fun status t => ⟨hphone, fun m hm => ?_⟩
    cases hm
    exact ⟨_, rfl, rfl⟩
  have hmessage : ∀ id t n, sentMessage.findMessage 1 id = none →
      EventOf sentMessage servedNumber "+15551234567" (customerMessage id t n) := by
    refine fun id t n hnone => ⟨hphone, fun m hm => ?_⟩
    cases hnone.symm.trans hm
  constructor
  · obtain ⟨d₁₂, h₁₂, htimes₁₂⟩ := deliverAll_column sentMessage
      [customerReceipt "r1" "delivered" 70, customerReceipt "r1" "read" 80]
      (fun d => (d.columns 1 "+15551234567").times "r1") (some ⟨5, some 70, some 80⟩) (by decide +kernel)
    obtain ⟨d₂₁, h₂₁, htimes₂₁⟩ := deliverAll_column sentMessage
      [customerReceipt "r1" "read" 80, customerReceipt "r1" "delivered" 70]
      (fun d => (d.columns 1 "+15551234567").times "r1") (some ⟨5, none, some 80⟩) (by decide +kernel)
    exact ⟨_, _, d₁₂, d₂₁, hreceipt _ _, hreceipt _ _, by decide, h₁₂, h₂₁, htimes₁₂, htimes₂₁⟩
  · obtain ⟨d₁₂, h₁₂, hcontact₁₂⟩ := deliverAll_column sentMessage
      [customerMessage "m1" 50 (some "Layla"), customerMessage "m2" 60 (some "Lina")]
      (fun d => (d.columns 1 "+15551234567").contact) (some ⟨some "Lina", some 60⟩) (by decide +kernel)
    obtain ⟨d₂₁, h₂₁, hcontact₂₁⟩ := deliverAll_column sentMessage
      [customerMessage "m2" 60 (some "Lina"), customerMessage "m1" 50 (some "Layla")]
      (fun d => (d.columns 1 "+15551234567").contact) (some ⟨some "Layla", some 60⟩) (by decide +kernel)
    exact ⟨_, _, d₁₂, d₂₁, hmessage _ _ _ rfl, hmessage _ _ _ rfl, by decide, h₁₂, h₂₁, hcontact₁₂, hcontact₂₁⟩

/-- **Deliveries refine the feed.** Whatever events of a customer are delivered, in whatever order, the tables stay
    linked, no message has the time of a step above its status, and the feed is what the events make of it. -/
theorem deliveries_refine_feed {account : RoutedWhatsAppAccount} {phoneE164 : String} {events : List ProviderEvent}
    (hphone : ∀ e ∈ events, e.phoneE164 = some phoneE164) {db db' : WebhookDb} (hdb : Kept db)
    (hstamped : db.Stamped account.tenantId) (h : deliverAll account events db = some db') :
    Kept db' ∧ db'.Stamped account.tenantId ∧ db'.feed account.tenantId phoneE164 =
      events.foldl (·.applyEvent account.whatsappAccountId ·) (db.feed account.tenantId phoneE164) := by
  induction events generalizing db with
  | nil =>
    cases h
    exact ⟨hdb, hstamped, rfl⟩
  | cons e events ih =>
    obtain ⟨d, hd, hrest⟩ := Option.bind_eq_some_iff.mp h
    have hown := hphone e List.mem_cons_self
    obtain ⟨hkept, hfeed⟩ := deliver_feed hdb hown hd
    have hthen := ih (fun e he => hphone e (List.mem_cons_of_mem _ he)) hkept (deliver_stamped hdb hstamped hown hd) hrest
    rwa [hfeed] at hthen

/-- The receipts come in the wrong order. -/
def lateReceipts : List ProviderEvent :=
  [customerReceipt "r1" "read" 90, customerMessage "m1" 50 none, customerReceipt "r1" "delivered" 70]

theorem deliveries_refine_feed_late : ∃ db, deliverAll servedNumber lateReceipts sentMessage = some db ∧ Kept db ∧
    db.Stamped 1 := by
  have hphone : ∀ e ∈ lateReceipts, e.phoneE164 = some "+15551234567" := by decide +kernel
  have hsome : (deliverAll servedNumber lateReceipts sentMessage).isSome = true := by decide +kernel
  obtain ⟨db, hdb⟩ := Option.isSome_iff_exists.mp hsome
  obtain ⟨hkept, hstamped, _⟩ := deliveries_refine_feed hphone sentMessage_kept sentMessage_stamped hdb
  exact ⟨db, hdb, hkept, hstamped⟩

end WhatsappCrm.Webhooks
