/-
Purpose: Conversation volume: the counters of `conversations_opened`, the period one belongs to
  (`entitlements/usage-period.resolver.ts`), the plan's ceiling and its notices, and the inbound writer with its
  metering.
-/
import WhatsappCrm.Webhooks.Store
import WhatsappCrm.Lib.Calendar

namespace WhatsappCrm.Usage

open Interleaving Table Webhooks

/-- The half-open window a counter is recorded against. -/
structure UsagePeriod where
  start : Millis
  end_ : Millis

/-- What the deployment brings along: the notifier's warning line for a cap, and Postgres's calendar. -/
structure VolumeConfig where
  warnLine : Nat → Nat
  warnLine_pos : ∀ cap, 0 < cap → 0 < warnLine cap
  anniversary : Millis → Millis → UsagePeriod

structure PeriodAnchor where
  id : Uuid
  createdAt : Millis

structure BillingPeriod where
  tenantId : Uuid
  currentPeriodStart : Option Millis
  currentPeriodEnd : Option Millis

structure TenantEntitlements where
  tenantId : Uuid
  conversationsPerPeriod : Option Int

/-- A row of `usage_counters` whose metric is `conversations_opened`. -/
structure UsageCounter where
  tenantId : Uuid
  periodStart : Millis
  periodEnd : Millis
  value : Nat

inductive VolumeTemplate where
  | volumeWarning
  | volumeLimitReached
deriving DecidableEq

structure VolumeNotice where
  tenantId : Uuid
  periodStart : Millis
  template : VolumeTemplate
deriving DecidableEq

/-- The tables of ingestion with those of usage, and the notices the notifier has been caused to send. -/
structure VolumeDb where
  webhooks : WebhookDb := {}
  tenants : List PeriodAnchor := []
  subscriptions : List BillingPeriod := []
  entitlements : List TenantEntitlements := []
  usageCounters : List UsageCounter := []
  notices : List VolumeNotice := []

def UsageCounter.entry (c : UsageCounter) : Option (Uuid × Millis) := some (c.tenantId, c.periodStart)

def UsageCounter.named (tenantId : Uuid) (periodStart : Millis) (c : UsageCounter) : Bool :=
  c.tenantId = tenantId ∧ c.periodStart = periodStart

def UsageCounter.increment (c : UsageCounter) : UsageCounter := { c with value := c.value + 1 }

/-- `limitOf`: a ceiling is a positive integer, and anything else is none. -/
def limitOf (value : Option Int) : Option Nat :=
  match value with
  | some n => if 0 < n then some n.toNat else none
  | none => none

namespace VolumeDb

def conversationCap (db : VolumeDb) (tenantId : Uuid) : Option Nat :=
  (db.entitlements.find? fun e => e.tenantId = tenantId).bind fun e => limitOf e.conversationsPerPeriod

/-- `UsagePeriodResolver.resolve`: the subscription's own period when it has both bounds, else the anniversary window
    on the tenant's creation; none when there is no tenant. -/
def resolve (config : VolumeConfig) (db : VolumeDb) (tenantId : Uuid) (at_ : Millis) : Option UsagePeriod :=
  (db.tenants.find? fun t => t.id = tenantId).map fun tenant =>
    let window := config.anniversary tenant.createdAt at_
    match db.subscriptions.find? fun s =>
      s.tenantId = tenantId ∧ s.currentPeriodStart ≠ none ∧ s.currentPeriodEnd ≠ none with
    | some s => { start := s.currentPeriodStart.getD window.start, end_ := s.currentPeriodEnd.getD window.end_ }
    | none => window

def opened (db : VolumeDb) (tenantId : Uuid) (periodStart : Millis) : Nat :=
  match db.usageCounters.find? (UsageCounter.named tenantId periodStart) with
  | some counter => counter.value
  | none => 0

end VolumeDb

/-- `ConversationVolumeChangedEvent`: the count after an increment of one. -/
structure ConversationVolumeChanged where
  tenantId : Uuid
  opened : Nat
  cap : Nat
  periodStart : Millis

/-- `crossedTemplate`: the cap is checked before the warning line. -/
def crossedTemplate (config : VolumeConfig) (event : ConversationVolumeChanged) : Option VolumeTemplate :=
  let previous : Int := event.opened - 1
  if previous < event.cap ∧ event.opened ≥ event.cap then some .volumeLimitReached
  else
    let warnThreshold := config.warnLine event.cap
    if previous < warnThreshold ∧ event.opened ≥ warnThreshold then some .volumeWarning else none

theorem crossedTemplate_eq (config : VolumeConfig) (event : ConversationVolumeChanged) :
    crossedTemplate config event =
      if event.opened = event.cap then some .volumeLimitReached
      else if event.opened = config.warnLine event.cap then some .volumeWarning
      else none := by
  have hcap : (event.opened : Int) - 1 < event.cap ∧ event.opened ≥ event.cap ↔ event.opened = event.cap := by omega
  have hwarn : (event.opened : Int) - 1 < config.warnLine event.cap ∧ event.opened ≥ config.warnLine event.cap ↔
      event.opened = config.warnLine event.cap := by omega
  simp only [crossedTemplate, hcap, hwarn]

def ConversationVolumeChanged.notice? (config : VolumeConfig) (event : ConversationVolumeChanged) : Option VolumeNotice :=
  (crossedTemplate config event).map fun template =>
    { tenantId := event.tenantId, periodStart := event.periodStart, template }

inductive VolumeWrite where
  | inbound (w : InboundWrite)
  | increment (tenantId : Uuid) (period : UsagePeriod)

/-- What a write answers: the row of the inbound writer, or the value the counter now holds. -/
inductive VolumeRow where
  | inbound (row : InboundRow)
  | counter (value : Nat)
deriving DecidableEq

def VolumeWrite.apply (w : VolumeWrite) (db : VolumeDb) : Except WebhookError (List VolumeRow × VolumeDb) :=
  match w with
  | .inbound w =>
    match w.apply db.webhooks with
    | .ok (rows, webhooks) => .ok (rows.map .inbound, { db with webhooks })
    | .error e => .error e
  | .increment tenantId period =>
    -- `ON CONFLICT (tenant_id, metric, period_start) DO UPDATE` leaves `period_end` alone
    match db.usageCounters.find? (UsageCounter.named tenantId period.start) with
    | some counter =>
      .ok ([.counter (counter.value + 1)],
        { db with
          usageCounters := updateWhere (UsageCounter.named tenantId period.start) UsageCounter.increment
            db.usageCounters })
    | none =>
      .ok ([.counter 1],
        { db with
          usageCounters := db.usageCounters ++
            [{ tenantId, periodStart := period.start, periodEnd := period.end_, value := 1 }] })

def volumeWrites : Writes VolumeDb VolumeWrite VolumeRow WebhookError where
  apply := VolumeWrite.apply
  conflict := inboundWrites.conflict

def webhookPart : Part WebhookDb VolumeDb InboundWrite VolumeWrite InboundRow VolumeRow where
  get := VolumeDb.webhooks
  write := .inbound
  row?
    | .inbound row => some row
    | .counter _ => none

structure Opened where
  tenantId : Uuid
  periodStart : Millis
  value : Nat

def openings (ws : List (VolumeWrite × List VolumeRow)) : List Opened :=
  ws.filterMap fun
    | (.increment tenantId period, [.counter value]) => some { tenantId, periodStart := period.start, value }
    | _ => none

def storesInbound (ws : List (VolumeWrite × List VolumeRow)) : Bool :=
  ws.any fun
    | (.inbound (.createMessage message), _) => message.direction = .inbound
    | _ => false

/-- The statements of ingestion. A commit says what it opens, and whether it stores a message of a customer. -/
inductive VolumeStmt where
  | tenant
  | commit (opened : List Opened) (stored : Bool)
  | announce (event : ConversationVolumeChanged)

abbrev VolumeProg := Prog VolumeStmt VolumeDb

abbrev VolumeTx := Tx Unit VolumeDb VolumeWrite VolumeRow WebhookError

variable (config : VolumeConfig)

def tenantTransaction {α : Type} (tenantId : Uuid) (work : VolumeTx α) : VolumeTx α := do
  let serviceable ← .query () fun db => db.webhooks.serviceable.contains tenantId
  if serviceable then work else .abort (.tenantNotActive tenantId)

def noUsagePeriod : WebhookError := .thrown "No usage period could be resolved for tenant"

def resolvePeriod (tenantId : Uuid) (at_ : Millis) : VolumeTx UsagePeriod := do
  let period ← .query () fun db => db.resolve config tenantId at_
  match period with
  | some period => pure period
  | none => .abort noUsagePeriod

def counterValue (rows : List VolumeRow) : Nat :=
  match rows with
  | .counter value :: _ => value
  | _ => 0

/-- `UsageCounterService.increment` of `conversations_opened`, by one. -/
def increment (tenantId : Uuid) (at_ : Millis) : VolumeTx Nat := do
  let period ← resolvePeriod config tenantId at_
  let rows ← .execute () (.increment tenantId period)
  pure (counterValue rows)

def current (tenantId : Uuid) (at_ : Millis) : VolumeTx (Nat × UsagePeriod) := do
  let period ← resolvePeriod config tenantId at_
  let value ← .query () fun db => db.opened tenantId period.start
  pure (value, period)

/-- `observeVolume`: nothing is said for a tenant without a ceiling. -/
def observeVolume (tenantId : Uuid) (opened : Nat) (at_ : Millis) : VolumeTx (Option ConversationVolumeChanged) := do
  let cap ← .query () fun db => db.conversationCap tenantId
  match cap with
  | none => pure none
  | some cap => do
    let (_, period) ← current config tenantId at_
    pure (some { tenantId, opened, cap, periodStart := period.start })

/-- What `upsertConversation` found or created: the thread, and the total if opening it moved one. -/
structure OpenedConversation where
  id : Uuid
  volume : Option ConversationVolumeChanged

def findConversation (account : RoutedWhatsAppAccount) (contactId : Uuid) : WriterTx Uuid := do
  let existing ← .query () fun db => db.findConversation account.tenantId account.whatsappAccountId contactId
  let conversation ← orThrow existing
  pure conversation.id

/-- `upsertConversation`: only a thread that is created is counted. -/
def upsertConversation (id : Uuid) (account : RoutedWhatsAppAccount) (contactId : Uuid) (lastMessageAt : Millis)
    (serviceWindowExpiresAt : Option Millis) : VolumeTx OpenedConversation := do
  let inserted ← .execute () (.inbound (.openConversation
    { id, tenantId := account.tenantId, whatsappAccountId := account.whatsappAccountId, contactId, lastMessageAt
      serviceWindowExpiresAt }))
  if inserted ≠ [] then do
    let opened ← increment config account.tenantId lastMessageAt
    let volume ← observeVolume config account.tenantId opened lastMessageAt
    pure { id, volume }
  else do
    let existing ← (findConversation account contactId).inPart webhookPart
    pure { id := existing, volume := none }

/-- What an inbound delivery turned out to be about, with the total it moved. -/
structure AppliedInboundMessage extends Webhooks.AppliedInboundMessage where
  volume : Option ConversationVolumeChanged

/-- `replayOf`: a replay announces nothing. -/
def replayOf (tenantId : Uuid) (providerMessageId : String) (contactId conversationId : Uuid) :
    VolumeTx (Option AppliedInboundMessage) := do
  let existing ← (Webhooks.replayOf tenantId providerMessageId contactId conversationId).inPart webhookPart
  pure (existing.map fun applied => { applied with volume := none })

def inboundTransaction (ids : GeneratedIds) (account : RoutedWhatsAppAccount) (message : WhatsAppInboundMessage)
    (phoneE164 : String) (displayName : Option String) : VolumeTx (Option AppliedInboundMessage) :=
  tenantTransaction account.tenantId do
    let contactId ← (upsertContact ids.contactId account.tenantId phoneE164 displayName message.timestamp).inPart
      webhookPart
    let conversation ← upsertConversation config ids.conversationId account contactId message.timestamp
      (some (serviceWindowEnd message.timestamp))
    let stored ← .execute () (.inbound (.createMessage (message.row account.tenantId conversation.id)))
    if stored = [] then replayOf account.tenantId message.id contactId conversation.id
    else do
      (advanceConversation account.tenantId conversation.id message.timestamp).inPart webhookPart
      pure (some
        { contactId, conversationId := conversation.id, created := true, volume := conversation.volume })

/-- `createStatusPlaceholder`: the total it may have moved is dropped. -/
def createStatusPlaceholder (ids : GeneratedIds) (account : RoutedWhatsAppAccount)
    (update : WhatsAppMessageStatusUpdate) (status : MessageStatus) (phoneE164 : String) : VolumeTx Bool := do
  let contactId ← (upsertContact ids.contactId account.tenantId phoneE164 none update.timestamp).inPart webhookPart
  let conversation ← upsertConversation config ids.conversationId account contactId update.timestamp none
  let stored ← .execute () (.inbound (.createMessage (update.row account.tenantId conversation.id status)))
  pure (decide (stored ≠ []))

def createIfMissing (ids : GeneratedIds) (account : RoutedWhatsAppAccount) (update : WhatsAppMessageStatusUpdate)
    (status : MessageStatus) (phoneE164 : String) : Option InboundMessage → VolumeTx Bool
  | none => createStatusPlaceholder config ids account update status phoneE164
  | some _ => pure false

/-- What becomes of a receipt whose message is there: the status advances, and the row is read for the event. -/
def applyAdvance (account : RoutedWhatsAppAccount) (update : WhatsAppMessageStatusUpdate) (status : MessageStatus)
    (existing : Option InboundMessage) : WriterTx Unit := do
  let advanced ← advanceMessageStatus account.tenantId update status
  if advanced ∧ existing = none then
    let found ← .query () fun db => db.findMessage account.tenantId update.id
    let _ ← orThrow found
    pure ()
  else pure ()

def statusTransaction (ids : GeneratedIds) (account : RoutedWhatsAppAccount) (update : WhatsAppMessageStatusUpdate)
    (status : MessageStatus) (phoneE164 : String) : VolumeTx Unit :=
  tenantTransaction account.tenantId do
    let existing ← .query () fun db => db.webhooks.findMessage account.tenantId update.id
    let created ← createIfMissing config ids account update status phoneE164 existing
    if created then pure () else (applyAdvance account update status existing).inPart webhookPart

/-- `onVolumeChanged`: a notice is caused by the event that crosses into it. -/
def onVolumeChanged (event : ConversationVolumeChanged) (db : VolumeDb) : VolumeDb :=
  { db with notices := db.notices ++ (event.notice? config).toList }

/-- After the commit, and only when a ceiling exists. -/
def announce : Option ConversationVolumeChanged → VolumeProg Unit
  | none => pure ()
  | some event => .stmt (.announce event) fun db => ((), onVolumeChanged config event db)

def transact {α : Type} (work : VolumeTx α) : VolumeProg (Except WebhookError α) :=
  (work.retag fun _ => .tenant).runAs volumeWrites (fun ws => .commit (openings ws) (storesInbound ws)) []

def applyInboundMessage (ids : GeneratedIds) (account : RoutedWhatsAppAccount) (message : WhatsAppInboundMessage)
    (displayName : Option String) : VolumeProg (Except WebhookError Bool) :=
  match toPhoneE164 message.source with
  | none => pure (.ok false)
  | some phoneE164 => do
    let applied ← transact (inboundTransaction config ids account message phoneE164 displayName)
    match applied with
    | .error e => pure (.error e)
    | .ok applied => do
      announce config (applied.bind (·.volume))
      pure (.ok true)

/-- `applyStatusUpdate`: a status the product does not model is a no-op. -/
def applyStatusUpdate (ids : GeneratedIds) (account : RoutedWhatsAppAccount) (update : WhatsAppMessageStatusUpdate) :
    VolumeProg (Except WebhookError Bool) :=
  match toMessageStatus update.status with
  | none => pure (.ok true)
  | some status =>
    match toPhoneE164 update.recipientId with
    | none => pure (.ok false)
    | some phoneE164 => do
      let applied ← transact (statusTransaction config ids account update status phoneE164)
      pure (applied.map fun _ => true)

inductive VolumeCall where
  | inbound (ids : GeneratedIds) (account : RoutedWhatsAppAccount) (message : WhatsAppInboundMessage)
      (displayName : Option String)
  | receipt (ids : GeneratedIds) (account : RoutedWhatsAppAccount) (update : WhatsAppMessageStatusUpdate)

def volumeProgram : VolumeCall → VolumeProg (Except WebhookError Bool)
  | .inbound ids account message displayName => applyInboundMessage config ids account message displayName
  | .receipt ids account update => applyStatusUpdate config ids account update

abbrev VolumeSys := Sys VolumeStmt VolumeDb VolumeCall (Except WebhookError Bool)

end WhatsappCrm.Usage

namespace WhatsappCrm.Usage

open Calendar

/-- Both bounds of the query, from the anchor and the months that have passed since. -/
def anniversary (createdAt at_ : Millis) : UsagePeriod where
  start := addMonths createdAt (wholeMonths at_ createdAt)
  end_ := addMonths createdAt (wholeMonths at_ createdAt + 1)

def VolumeConfig.inPostgres (config : VolumeConfig) : VolumeConfig := { config with anniversary := Usage.anniversary }

def UsagePeriod.Contains (p : UsagePeriod) (t : Millis) : Prop := p.start ≤ t ∧ t < p.end_

instance (p : UsagePeriod) (t : Millis) : Decidable (p.Contains t) := inferInstanceAs (Decidable (_ ∧ _))

def UsagePeriod.Disjoint (p p' : UsagePeriod) : Prop := ∀ t, ¬ (p.Contains t ∧ p'.Contains t)

variable {createdAt : Millis}

namespace VolumeDb

structure OnAnniversaries (db : VolumeDb) (tenantId : Uuid) (createdAt : Millis) : Prop where
  tenant : ∃ tenant, (db.tenants.find? fun t => t.id = tenantId) = some tenant ∧ tenant.createdAt = createdAt
  unbilled : ∀ s ∈ db.subscriptions, s.tenantId = tenantId → s.currentPeriodStart = none ∨ s.currentPeriodEnd = none

theorem OnAnniversaries.resolve {db : VolumeDb} (h : db.OnAnniversaries tenantId createdAt) (config : VolumeConfig) (at_ : Millis) :
    db.resolve config.inPostgres tenantId at_ = some (anniversary createdAt at_) := by
  obtain ⟨tenant, htenant, rfl⟩ := h.tenant
  have hnone : db.subscriptions.find? (fun s =>
      s.tenantId = tenantId ∧ s.currentPeriodStart ≠ none ∧ s.currentPeriodEnd ≠ none) = none := by
    rw [List.find?_eq_none]
    intro s hs
    have hunbilled := h.unbilled s hs
    simp only [decide_eq_true_eq]
    rintro ⟨htenant, hstart, hend⟩
    rcases hunbilled htenant with h | h
    · exact hstart h
    · exact hend h
  rw [VolumeDb.resolve, htenant, Option.map_some, hnone]
  rfl

end VolumeDb

theorem anniversary_contains_iff (h : createdAt ≤ at_) :
    (anniversary createdAt at_).Contains at_ ↔ ¬ PastShortMonth at_ createdAt := by
  rw [← lt_addMonths_wholeMonths_iff h]
  exact and_iff_right (addMonths_wholeMonths_le h)

/-- Windows that are not the same follow one another. -/
theorem anniversary_eq_or_disjoint (createdAt at_ at' : Millis) :
    anniversary createdAt at_ = anniversary createdAt at' ∨
      (anniversary createdAt at_).Disjoint (anniversary createdAt at') := by
  have hfollow : ∀ n n' : Int, n < n' → addMonths createdAt (n + 1) ≤ addMonths createdAt n' :=
    fun n n' hlt => (addMonths_strictMono createdAt).monotone hlt
  rcases lt_trichotomy (wholeMonths at_ createdAt) (wholeMonths at' createdAt) with hlt | heq | hlt
  · right
    rintro t ⟨⟨_, hbefore⟩, hafter, _⟩
    exact absurd (hafter.trans_lt hbefore) (hfollow _ _ hlt).not_gt
  · left
    rw [anniversary, anniversary, heq]
  · right
    rintro t ⟨⟨hafter, _⟩, _, hbefore⟩
    exact absurd (hafter.trans_lt hbefore) (hfollow _ _ hlt).not_gt

theorem exists_anniversary_contains (h : createdAt ≤ t) :
    ∃ at_, createdAt ≤ at_ ∧ (anniversary createdAt at_).Contains t := by
  by_cases hpast : PastShortMonth t createdAt
  · -- the window the instant lies in is resolved from the beginning of the next month on
    obtain ⟨hlater, hmonths⟩ := wholeMonths_next_month h hpast
    refine ⟨_, h.trans hlater.le, ?_⟩
    rw [anniversary, hmonths]
    constructor
    · exact not_lt.mp fun hbefore => (lt_addMonths_wholeMonths_iff h).mp hbefore hpast
    · exact lt_addMonths_wholeMonths_add_two h
  · exact ⟨t, h, (anniversary_contains_iff h).mpr hpast⟩

/-- The windows resolved for a tenant without a billing period tile the time from its creation on, and one contains the
    instant exactly if this is not a last day cut short. -/
theorem usage_period_contains_iff (config : VolumeConfig) {db : VolumeDb} {tenantId : Uuid} {createdAt : Millis}
    (h : db.OnAnniversaries tenantId createdAt) :
    (∀ at_, createdAt ≤ at_ → ∃ p, db.resolve config.inPostgres tenantId at_ = some p ∧
      (∃ n : Nat, p.start = addMonths createdAt n ∧ p.end_ = addMonths createdAt (n + 1)) ∧
        (p.Contains at_ ↔ ¬ PastShortMonth at_ createdAt)) ∧
    (∀ at_ at' p p', db.resolve config.inPostgres tenantId at_ = some p →
      db.resolve config.inPostgres tenantId at' = some p' → p = p' ∨ p.Disjoint p') ∧
    ∀ t, createdAt ≤ t → ∃ at_ p, createdAt ≤ at_ ∧ db.resolve config.inPostgres tenantId at_ = some p ∧ p.Contains t := by
  refine ⟨?_, ?_, ?_⟩
  · intro at_ hafter
    refine ⟨_, h.resolve config at_, ?_, anniversary_contains_iff hafter⟩
    obtain ⟨n, hn⟩ := Int.eq_ofNat_of_zero_le (wholeMonths_nonneg hafter)
    exact ⟨n, congrArg (addMonths createdAt) hn, by rw [anniversary, hn]⟩
  · intro at_ at' p p' hp hp'
    rw [h.resolve config] at hp hp'
    cases hp
    cases hp'
    exact anniversary_eq_or_disjoint createdAt at_ at'
  · intro t hafter
    obtain ⟨at_, hat, hcontains⟩ := exists_anniversary_contains hafter
    exact ⟨at_, _, hat, h.resolve config at_, hcontains⟩

def createdInJanuary : VolumeDb where
  tenants := [{ id := 1, createdAt := 1769817600000 }]

def lateFebruary : Millis := 1772280000000

theorem createdInJanuary_onAnniversaries : createdInJanuary.OnAnniversaries 1 1769817600000 :=
  ⟨⟨_, rfl, rfl⟩, nofun⟩

/-- A notice is sent at the cap itself. -/
def warnsAtCap : VolumeConfig where
  warnLine cap := cap
  warnLine_pos _ hcap := hcap
  anniversary := anniversary

/-- Two weeks into its first window. -/
theorem usage_period_contains_iff_midFebruary :
    ∃ p, createdInJanuary.resolve warnsAtCap.inPostgres 1 1771070400000 = some p ∧ p.Contains 1771070400000 := by
  obtain ⟨p, hp, _, hcontains⟩ :=
    (usage_period_contains_iff warnsAtCap createdInJanuary_onAnniversaries).1 1771070400000 (by decide)
  exact ⟨p, hp, hcontains.mpr (by decide +kernel)⟩

/-- At noon of the last of February the window that is resolved has ended at midnight. -/
theorem instant_past_its_period :
    ¬ ∀ (config : VolumeConfig) (db : VolumeDb) (tenantId : Uuid) (createdAt at_ : Millis),
      db.OnAnniversaries tenantId createdAt → createdAt ≤ at_ →
        ∀ p, db.resolve config.inPostgres tenantId at_ = some p → p.Contains at_ := by
  intro hclaim
  have hcontains := hclaim warnsAtCap createdInJanuary 1 1769817600000 lateFebruary createdInJanuary_onAnniversaries
    (by decide) _ (createdInJanuary_onAnniversaries.resolve warnsAtCap lateFebruary)
  revert hcontains
  decide +kernel

end WhatsappCrm.Usage
