/-
Purpose: Each volume notice is owed once.
-/
import WhatsappCrm.Usage.Writer
import WhatsappCrm.Webhooks.Persistence
import WhatsappCrm.Lib.Debt

namespace WhatsappCrm.Usage

open Interleaving Table Webhooks

variable {config : VolumeConfig}

variable (ids : GeneratedIds) (account : RoutedWhatsAppAccount) (update : WhatsAppMessageStatusUpdate)

def UsageCounter.notice (template : VolumeTemplate) (c : UsageCounter) : VolumeNotice :=
  { tenantId := c.tenantId, periodStart := c.periodStart, template }

def UsageCounter.due (config : VolumeConfig) (cap : Option Nat) (c : UsageCounter) : Multiset VolumeNotice :=
  match cap with
  | none => 0
  | some cap =>
    (if cap ≤ c.value then {c.notice .volumeLimitReached} else 0) +
    (if config.warnLine cap ≤ c.value ∧ config.warnLine cap ≠ cap then {c.notice .volumeWarning} else 0)

def noticesDue (config : VolumeConfig) (db : VolumeDb) : Multiset VolumeNotice :=
  (db.usageCounters.map fun c => c.due config (db.conversationCap c.tenantId)).sum

def ConversationVolumeChanged.caused (config : VolumeConfig) (event : ConversationVolumeChanged) :
    Multiset VolumeNotice :=
  (event.notice? config).toList

def crossing (config : VolumeConfig) (db : VolumeDb) (o : Opened) : Multiset VolumeNotice :=
  match db.conversationCap o.tenantId with
  | none => 0
  | some cap =>
    ({ tenantId := o.tenantId, opened := o.value, cap, periodStart := o.periodStart } :
      ConversationVolumeChanged).caused config

theorem limitOf_pos (h : limitOf value = some cap) : 0 < cap := by
  unfold limitOf at h
  split at h
  · split at h
    · cases h
      omega
    · cases h
  · cases h

variable {db db' v : VolumeDb} {tenantId : Uuid} {c : UsageCounter} {rows : List VolumeRow} {w : InboundWrite}
  {α β : Type}

theorem VolumeDb.conversationCap_pos {cap : Nat} (h : db.conversationCap tenantId = some cap) : 0 < cap := by
  obtain ⟨_, _, hlimit⟩ := Option.bind_eq_some_iff.mp h
  exact limitOf_pos hlimit

theorem UsageCounter.due_increment (cap : Nat) (c : UsageCounter) :
    c.increment.due config (some cap) = c.due config (some cap) +
      ({ tenantId := c.tenantId, opened := c.value + 1, cap, periodStart := c.periodStart } :
        ConversationVolumeChanged).caused config := by
  have hlimit : c.increment.notice .volumeLimitReached = c.notice .volumeLimitReached := rfl
  have hwarning : c.increment.notice .volumeWarning = c.notice .volumeWarning := rfl
  have hvalue : c.increment.value = c.value + 1 := rfl
  simp only [due, hlimit, hwarning, hvalue, ConversationVolumeChanged.caused, ConversationVolumeChanged.notice?,
    crossedTemplate_eq]
  by_cases hcap : c.value + 1 = cap
  · subst hcap
    have hwarn : (config.warnLine (c.value + 1) ≤ c.value + 1 ∧ config.warnLine (c.value + 1) ≠ c.value + 1) ↔
        (config.warnLine (c.value + 1) ≤ c.value ∧ config.warnLine (c.value + 1) ≠ c.value + 1) := by omega
    have hbelow : ¬ c.value + 1 ≤ c.value := by omega
    simp only [hwarn, if_pos (Nat.le_refl _), if_neg hbelow, if_true, zero_add, Option.map_some, Option.toList_some]
    exact Multiset.add_comm _ _
  · have hsame : cap ≤ c.value + 1 ↔ cap ≤ c.value := by omega
    by_cases hwarn : c.value + 1 = config.warnLine cap
    · have hreached : config.warnLine cap ≤ c.value + 1 ∧ config.warnLine cap ≠ cap := by omega
      have hbelow : ¬ (config.warnLine cap ≤ c.value ∧ config.warnLine cap ≠ cap) := by omega
      simp only [hsame, if_neg hcap, if_pos hwarn, if_pos hreached, if_neg hbelow, add_zero, Option.map_some,
        Option.toList_some]
      rfl
    · have hline : (config.warnLine cap ≤ c.value + 1 ∧ config.warnLine cap ≠ cap) ↔
          (config.warnLine cap ≤ c.value ∧ config.warnLine cap ≠ cap) := by omega
      simp only [hsame, hline, if_neg hcap, if_neg hwarn, Option.map_none, Option.toList_none]
      exact (add_zero _).symm

theorem UsageCounter.due_eq_zero (h : ∀ n, cap = some n → c.value < n ∧ c.value < config.warnLine n) : c.due config cap = 0 := by
  cases cap with
  | none => rfl
  | some cap =>
    obtain ⟨hcap, hwarn⟩ := h cap rfl
    simp [due, Nat.not_le.mpr hcap, Nat.not_le.mpr hwarn]

theorem sum_map_updateWhere [AddCommMonoid M] (g : ρ → M) {rows : List ρ}
    (hrows : rows.filter p = [r]) (hd : g (f r) = g r + d) :
    ((updateWhere p f rows).map g).sum = (rows.map g).sum + d := by
  induction rows with
  | nil => cases hrows
  | cons a rows ih =>
    simp only [updateWhere, List.map_cons, List.sum_cons]
    cases hp : p a with
    | true =>
      rw [List.filter_cons_of_pos hp] at hrows
      obtain ⟨rfl, hrest⟩ := List.cons.inj hrows
      have hsame : rows.map (fun b => if p b then f b else b) = rows := updateWhere_of_filter_eq_nil hrest
      rw [hsame]
      simp only [if_true, hd]
      exact add_right_comm _ _ _
    | false =>
      rw [List.filter_cons_of_neg (by simp [hp])] at hrows
      have hrest := ih hrows
      simp only [updateWhere] at hrest
      simp only [hrest, Bool.false_eq_true, if_false]
      exact (add_assoc _ _ _).symm

theorem UsageCounter.named_iff {periodStart : Millis} :
    c.named tenantId periodStart = true ↔ c.tenantId = tenantId ∧ c.periodStart = periodStart := by
  simp [named]

theorem filter_named {rows : List UsageCounter} (hrows : UniqueBy UsageCounter.entry rows) (h : rows.find? (UsageCounter.named tenantId periodStart) = some c) :
    rows.filter (UsageCounter.named tenantId periodStart) = [c] := by
  apply hrows.filter_eq_singleton (k := (tenantId, periodStart)) (List.mem_of_find?_eq_some h) (List.find?_some h)
  intro other _ hother
  rw [UsageCounter.named_iff] at hother
  exact congrArg some (Prod.ext hother.1 hother.2)

/-- What a run keeps: the index of the counters, and the ceilings with what the periods are read off. -/
structure Later (db db' : VolumeDb) : Prop where
  entitlements : db'.entitlements = db.entitlements
  tenants : db'.tenants = db.tenants
  subscriptions : db'.subscriptions = db.subscriptions

theorem Later.refl (db : VolumeDb) : Later db db := ⟨rfl, rfl, rfl⟩

theorem Later.trans {c : VolumeDb} (hab : Later a b) (hbc : Later b c) : Later a c where
  entitlements := hbc.entitlements.trans hab.entitlements
  tenants := hbc.tenants.trans hab.tenants
  subscriptions := hbc.subscriptions.trans hab.subscriptions

theorem Later.cap (h : Later db db') (tenantId : Uuid) : db'.conversationCap tenantId = db.conversationCap tenantId := by
  simp only [VolumeDb.conversationCap, h.entitlements]

theorem Later.resolve (h : Later db db') (tenantId : Uuid) (at_ : Millis) :
    db'.resolve config tenantId at_ = db.resolve config tenantId at_ := by
  simp only [VolumeDb.resolve, h.tenants, h.subscriptions]

theorem Later.crossing (h : Later db db') (o : Opened) : crossing config db' o = crossing config db o := by
  simp only [Usage.crossing, h.cap]

structure Moves (config : VolumeConfig) (ws : List (VolumeWrite × List VolumeRow)) (db db' : VolumeDb) : Prop where
  later : Later db db'
  counters : UniqueBy UsageCounter.entry db'.usageCounters
  notices : db'.notices = db.notices
  due : noticesDue config db' = noticesDue config db + ((openings ws).map (crossing config db)).sum

theorem due_increment (config : VolumeConfig) (db : VolumeDb) (c : UsageCounter) :
    c.increment.due config (db.conversationCap c.tenantId) = c.due config (db.conversationCap c.tenantId) +
      crossing config db { tenantId := c.tenantId, periodStart := c.periodStart, value := c.value + 1 } := by
  unfold crossing
  cases db.conversationCap c.tenantId with
  | none => rfl
  | some cap => exact c.due_increment cap

theorem increment_moves (hdb : UniqueBy UsageCounter.entry db.usageCounters) (h : (VolumeWrite.increment tenantId period).apply db = .ok (rows, db')) :
    Moves config [(.increment tenantId period, rows)] db db' := by
  simp only [VolumeWrite.apply] at h
  split at h
  · -- the counter is there, and holds one more
    rename_i c hfind
    cases h
    obtain ⟨rfl, hstart⟩ := UsageCounter.named_iff.mp (List.find?_some hfind)
    constructor
    · exact ⟨rfl, rfl, rfl⟩
    · apply hdb.updateWhere
      exact fun _ _ _ => .inr rfl
    · rfl
    · have hopened : openings [(.increment c.tenantId period, [.counter (c.value + 1)])] =
          [{ tenantId := c.tenantId, periodStart := c.periodStart, value := c.value + 1 }] := by
        rw [hstart]
        rfl
      rw [hopened, List.map_singleton, List.sum_singleton]
      apply sum_map_updateWhere _ (filter_named hdb hfind)
      exact due_increment config db c
  · -- the first conversation of the period: the counter was at 0
    rename_i hfind
    cases h
    let zero : UsageCounter := { tenantId, periodStart := period.start, periodEnd := period.end_, value := 0 }
    have hzero : zero.due config (db.conversationCap tenantId) = 0 := by
      apply UsageCounter.due_eq_zero
      intro cap hcap
      have hpos := VolumeDb.conversationCap_pos hcap
      exact ⟨hpos, config.warnLine_pos cap hpos⟩
    have hdue := due_increment config db zero
    rw [hzero, zero_add] at hdue
    constructor
    · exact ⟨rfl, rfl, rfl⟩
    · apply hdb.concat
      intro c hc hclash
      have hentry : some (c.tenantId, c.periodStart) = some (tenantId, period.start) := hclash.2
      have hnamed := List.find?_eq_none.mp hfind c hc
      simp only [Option.some.injEq, Prod.mk.injEq] at hentry
      exact hnamed (UsageCounter.named_iff.mpr hentry)
    · rfl
    · have hopened : openings [(.increment tenantId period, [.counter 1])] =
          [{ tenantId, periodStart := period.start, value := 1 }] := rfl
      rw [hopened, List.map_singleton, List.sum_singleton, ← hdue]
      simp only [noticesDue, List.map_append, List.sum_append, List.map_singleton, List.sum_singleton]
      rfl

theorem inbound_moves (hdb : UniqueBy UsageCounter.entry db.usageCounters) (h : (VolumeWrite.inbound w).apply db = .ok (rows, db')) :
    Moves config [(.inbound w, rows)] db db' := by
  simp only [VolumeWrite.apply] at h
  split at h
  · cases h
    constructor
    · exact ⟨rfl, rfl, rfl⟩
    · exact hdb
    · rfl
    · exact (add_zero _).symm
  · cases h

theorem write_moves (hdb : UniqueBy UsageCounter.entry db.usageCounters) {w : VolumeWrite}
    (h : w.apply db = .ok (rows, db')) : Moves config [(w, rows)] db db' := by
  cases w with
  | inbound => exact inbound_moves hdb h
  | increment => exact increment_moves hdb h

theorem commit_moves {ws : List (VolumeWrite × List VolumeRow)} (hdb : UniqueBy UsageCounter.entry db.usageCounters) (h : applyAll volumeWrites ws db = .ok db') :
    Moves config ws db db' := by
  induction ws generalizing db with
  | nil =>
    cases h
    exact ⟨.refl _, hdb, rfl, (add_zero _).symm⟩
  | cons e ws ih =>
    obtain ⟨w, rows⟩ := e
    obtain ⟨db₁, hw, hws⟩ := applyAll_cons_ok.mp h
    have hfirst : Moves config [(w, rows)] db db₁ := write_moves hdb hw
    have hrest := ih hfirst.counters hws
    have hopenings : openings ((w, rows) :: ws) = openings [(w, rows)] ++ openings ws :=
      List.filterMap_append (l := [(w, rows)])
    have hcrossing : (openings ws).map (crossing config db₁) = (openings ws).map (crossing config db) :=
      List.map_congr_left fun o _ => hfirst.later.crossing o
    constructor
    · exact hfirst.later.trans hrest.later
    · exact hrest.counters
    · exact hrest.notices.trans hfirst.notices
    · rw [hrest.due, hfirst.due, hcrossing, hopenings, List.map_append, List.sum_append, add_assoc]

theorem apply_nothing {w : VolumeWrite} (h : w.apply db = .ok ([], db')) : db' = db := by
  cases w with
  | inbound w =>
    simp only [VolumeWrite.apply] at h
    split at h
    · rename_i rows webhooks happly
      obtain ⟨hrows, rfl⟩ := Prod.mk.inj (Except.ok.inj h)
      rw [List.map_eq_nil_iff] at hrows
      subst hrows
      rw [Webhooks.apply_nothing happly]
    · cases h
  | increment =>
    simp only [VolumeWrite.apply] at h
    split at h <;> cases h

def ReachesThreshold (config : VolumeConfig) (db : VolumeDb) (o : Opened) : Prop :=
  ∃ cap ∈ db.conversationCap o.tenantId, o.value = cap ∨ o.value = config.warnLine cap

instance (db : VolumeDb) (o : Opened) : Decidable (ReachesThreshold config db o) :=
  inferInstanceAs (Decidable (∃ cap ∈ db.conversationCap o.tenantId, _))

def Carried (config : VolumeConfig) (tag : VolumeStmt) (db : VolumeDb) : Prop :=
  match tag with
  | .commit opened stored => ∀ o ∈ opened, ReachesThreshold config db o → stored = true
  | _ => True

instance (tag : VolumeStmt) (db : VolumeDb) : Decidable (Carried config tag db) :=
  match tag with
  | .commit opened stored => inferInstanceAs (Decidable (∀ o ∈ opened, ReachesThreshold config db o → stored = true))
  | .tenant | .announce _ => inferInstanceAs (Decidable True)

theorem crossing_eq_zero (h : ¬ ReachesThreshold config db o) : crossing config db o = 0 := by
  unfold crossing
  cases hcap : db.conversationCap o.tenantId with
  | none => rfl
  | some cap =>
    have hlimit : ¬ o.value = cap := fun hvalue => h ⟨cap, hcap, .inl hvalue⟩
    have hwarn : ¬ o.value = config.warnLine cap := fun hvalue => h ⟨cap, hcap, .inr hvalue⟩
    simp only [ConversationVolumeChanged.caused, ConversationVolumeChanged.notice?, crossedTemplate_eq,
      if_neg hlimit, if_neg hwarn, Option.map_none, Option.toList_none]
    rfl

def metering (config : VolumeConfig) : Rely VolumeStmt VolumeDb where
  inv db := UniqueBy UsageCounter.entry db.usageCounters
  later := Later
  cond := Carried config
  effect _ db db' := UniqueBy UsageCounter.entry db'.usageCounters ∧ Later db db'

theorem metering_sound : (metering config).Sound where
  refl := .refl
  trans := .trans
  keeps _ _ heffect := heffect

theorem volumeWrites_steady : volumeWrites.Steady (metering config) where
  nothing := apply_nothing
  valid := by
    intro w db rows db' hinv happly
    have hmoves : Moves config [(w, rows)] db db' := write_moves hinv happly
    exact hmoves.counters
  mono := by
    intro w db₁ db₂ rows db₁' db₂' hinv₁ hinv₂ hlater _ h₁ h₂
    have hmoves₁ : Moves config [(w, rows)] db₁ db₁' := write_moves hinv₁ h₁
    have hmoves₂ : Moves config [(w, rows)] db₂ db₂' := write_moves hinv₂ h₂
    constructor
    · rw [hmoves₂.later.entitlements, hmoves₁.later.entitlements, hlater.entitlements]
    · rw [hmoves₂.later.tenants, hmoves₁.later.tenants, hlater.tenants]
    · rw [hmoves₂.later.subscriptions, hmoves₁.later.subscriptions, hlater.subscriptions]

/-- What the total a transaction carries on causes. -/
def volumeCaused (config : VolumeConfig) : Option ConversationVolumeChanged → Multiset VolumeNotice
  | none => 0
  | some event => event.caused config

def Accounted (config : VolumeConfig) (volume : Option ConversationVolumeChanged)
    (ws : List (VolumeWrite × List VolumeRow)) (v : VolumeDb) : Prop :=
  ((openings ws).map (crossing config v)).sum = volumeCaused config volume

theorem Accounted.later {ws : List (VolumeWrite × List VolumeRow)}
    (h : Accounted config volume ws v) (hlater : Later v v') : Accounted config volume ws v' := by
  have hcrossing : (openings ws).map (crossing config v') = (openings ws).map (crossing config v) :=
    List.map_congr_left fun o _ => hlater.crossing o
  rw [Accounted, hcrossing]
  exact h

def StoresNone (w : InboundWrite) : Prop :=
  match w with
  | .createMessage message => message.direction ≠ .inbound
  | _ => True

theorem openings_inbound (ws : List (VolumeWrite × List VolumeRow)) (w : InboundWrite) (rows : List VolumeRow) :
    openings (if rows = [] then ws else ws ++ [(.inbound w, rows)]) = openings ws := by
  split
  · rfl
  · rw [openings, List.filterMap_append]
    exact List.append_nil _

theorem storesInbound_inbound (hw : StoresNone w) (ws : List (VolumeWrite × List VolumeRow)) (rows : List VolumeRow) :
    storesInbound (if rows = [] then ws else ws ++ [(.inbound w, rows)]) = storesInbound ws := by
  split
  · rfl
  · have hlast : storesInbound [(.inbound w, rows)] = false := by
      cases w with
      | createMessage message =>
        have hnot : message.direction ≠ .inbound := hw
        simp [storesInbound, hnot]
      | _ => rfl
    rw [storesInbound, List.any_append]
    exact (congrArg (storesInbound ws || ·) hlast).trans (Bool.or_false _)

/-- From held writes on that open `os`, and store a message of a customer or not. -/
structure Since (os : List Opened) (stored : Bool) (v₀ : VolumeDb) (ws : List (VolumeWrite × List VolumeRow))
    (v : VolumeDb) : Prop where
  openings : openings ws = os
  stored : storesInbound ws = stored
  later : Later v₀ v

variable {ws : List (VolumeWrite × List VolumeRow)} {v₀ : VolumeDb} {stored : Bool}

theorem Since.after (h : Since os stored v₀ ws v) (hlater : Later v v') : Since os stored v₀ ws v' :=
  ⟨h.openings, h.stored, h.later.trans hlater⟩

theorem Since.inbound (h : Since os stored v₀ ws v) (hw : StoresNone w) (hlater : Later v v') :
    Since os stored v₀ (if rows = [] then ws else ws ++ [(.inbound w, rows)]) v' where
  openings := (openings_inbound ws w rows).trans h.openings
  stored := (storesInbound_inbound hw ws rows).trans h.stored
  later := h.later.trans hlater

theorem inPart_tracks {p : WriterTx α} (hp : p.Only fun _ => StoresNone) (hws : Since os stored v₀ ws v₀) :
    (p.inPart webhookPart).Tracks volumeWrites (metering config) (fun _ => Since os stored v₀) ws v₀ := by
  apply Tx.Tracks.of_stable (Q := fun _ w => ∃ w', w = .inbound w' ∧ StoresNone w') _ _ _ hws
  · exact fun ws v v' h hlater _ => h.after hlater
  · intro _ w rows ws v v' hw h hinv happly
    obtain ⟨w', rfl, hnone⟩ := hw
    have hmoves : Moves config [(.inbound w', rows)] v v' := write_moves hinv happly
    exact h.inbound hnone hmoves.later
  · exact hp.inPart fun _ w hw => ⟨w, rfl, hw⟩

theorem query_tracks {next : α → VolumeTx β} (h : ∀ v, Later v₀ v → UniqueBy UsageCounter.entry v.usageCounters →
      (next (f v)).Tracks volumeWrites (metering config) P ws v) :
    ((Tx.query () f : VolumeTx α).bind next).Tracks volumeWrites (metering config) P ws v₀ :=
  h

theorem inbound_tracks {next : List VolumeRow → VolumeTx β}
    (h : ∀ rows v, Later v₀ v → (next rows).Tracks volumeWrites (metering config) P
      (if rows = [] then ws else ws ++ [(.inbound w, rows)]) v) :
    ((Tx.execute () (.inbound w) : VolumeTx (List VolumeRow)).bind next).Tracks volumeWrites (metering config) P ws
      v₀ := by
  intro v rows v' hv hinv happly
  have hmoves : Moves config [(.inbound w, rows)] v v' := write_moves hinv happly
  exact h rows v' (hv.trans hmoves.later)

theorem idle_tracks {next : List VolumeRow → VolumeTx β} (hw : StoresNone w) (hws : Since os stored v₀ ws v₀)
    (h : ∀ rows ws' v, Since os stored v₀ ws' v → (next rows).Tracks volumeWrites (metering config) P ws' v) :
    ((Tx.execute () (.inbound w) : VolumeTx (List VolumeRow)).bind next).Tracks volumeWrites (metering config) P ws
      v₀ := by
  apply inbound_tracks
  exact fun rows v hlater => h rows _ v (hws.inbound hw hlater)

theorem orThrow_only (found : Option α) : (orThrow found).Only fun _ => StoresNone := by
  cases found <;> trivial

theorem upsertContact_only (id tenantId : Uuid) (phoneE164 : String) (displayName : Option String) (seenAt : Millis) :
    (upsertContact id tenantId phoneE164 displayName seenAt).Only fun _ => StoresNone := by
  refine ⟨trivial, fun rows => ?_⟩
  apply Tx.Only.bind (orThrow_only _)
  exact fun _ => ⟨trivial, fun _ => trivial⟩

theorem findConversation_only (contactId : Uuid) : (findConversation account contactId).Only fun _ => StoresNone := by
  intro existing
  apply Tx.Only.bind (orThrow_only existing)
  exact fun _ => trivial

theorem replayOf_only (tenantId : Uuid) (providerMessageId : String) (contactId conversationId : Uuid) :
    (Webhooks.replayOf tenantId providerMessageId contactId conversationId).Only fun _ => StoresNone :=
  fun _ => trivial

theorem advanceConversation_only (tenantId conversationId : Uuid) (sentAt : Millis) :
    (advanceConversation tenantId conversationId sentAt).Only fun _ => StoresNone :=
  ⟨trivial, fun _ => ⟨trivial, fun _ => trivial⟩⟩

theorem applyAdvance_only (status : MessageStatus) (existing : Option InboundMessage) :
    (applyAdvance account update status existing).Only fun _ => StoresNone := by
  apply Tx.Only.bind
  · unfold advanceMessageStatus
    split
    · trivial
    · exact ⟨trivial, fun _ => trivial⟩
  · intro advanced
    split
    · intro found
      apply Tx.Only.bind (orThrow_only found)
      exact fun _ => trivial
    · trivial

/-! A conversation that is counted. -/

theorem resolvePeriod_tracks (hP : ∀ period v, Later v₀ v → UniqueBy UsageCounter.entry v.usageCounters →
      v.resolve config tenantId at_ = some period → P period ws v) :
    (resolvePeriod config tenantId at_).Tracks volumeWrites (metering config) P ws v₀ := by
  apply query_tracks
  intro v hv hinv
  cases hperiod : v.resolve config tenantId at_ with
  | none => trivial
  | some period => exact hP period v hv hinv hperiod

theorem increment_rows (h : (VolumeWrite.increment tenantId period).apply db = .ok (rows, db')) : ∃ value, rows = [.counter value] := by
  simp only [VolumeWrite.apply] at h
  split at h
  · rename_i c _
    cases h
    exact ⟨c.value + 1, rfl⟩
  · cases h
    exact ⟨1, rfl⟩

theorem increment_tracks (hws : Since [] false v₀ ws v₀) :
    (increment config tenantId at_).Tracks volumeWrites (metering config)
      (fun value ws' v' => ∃ period, v'.resolve config tenantId at_ = some period ∧
        Since [{ tenantId, periodStart := period.start, value }] false v₀ ws' v') ws v₀ := by
  apply Tx.Tracks.bind
  · apply resolvePeriod_tracks (P := fun period ws' v' => v'.resolve config tenantId at_ = some period ∧
      Since [] false v₀ ws' v')
    exact fun period v hv _ hperiod => ⟨hperiod, hws.after hv⟩
  intro period ws₁ v₁ ⟨hperiod, hws₁⟩ v rows v' hv hinv happly
  obtain ⟨value, rfl⟩ := increment_rows happly
  have hmoves : Moves config [(.increment tenantId period, [.counter value])] v v' := write_moves hinv happly
  have hlater := hv.trans hmoves.later
  rw [if_neg (List.cons_ne_nil _ _)]
  refine ⟨period, (hlater.resolve tenantId at_).trans hperiod, ?_, ?_, hws₁.later.trans hlater⟩
  · rw [openings, List.filterMap_append]
    exact congrArg (· ++ [_]) hws₁.openings
  · rw [storesInbound, List.any_append]
    exact congrArg (· || false) hws₁.stored

theorem current_tracks (hperiod : v₀.resolve config tenantId at_ = some period) :
    (current config tenantId at_).Tracks volumeWrites (metering config)
      (fun answer ws' v' => ws' = ws ∧ Later v₀ v' ∧ answer.2 = period) ws v₀ := by
  apply Tx.Tracks.bind
  · apply resolvePeriod_tracks (P := fun period' ws' v' => ws' = ws ∧ Later v₀ v' ∧ period' = period)
    intro period' v hv _ hperiod'
    rw [hv.resolve, hperiod] at hperiod'
    exact ⟨rfl, hv, (Option.some.inj hperiod').symm⟩
  intro period' ws₁ v₁ ⟨hsame, hv₁, hsame'⟩
  apply query_tracks
  exact fun v₂ hv₂ _ => ⟨hsame, hv₁.trans hv₂, hsame'⟩

/-- The total is carried on exactly when it may cross into something. -/
theorem observeVolume_tracks {value : Nat} (hperiod : v₀.resolve config tenantId at_ = some period)
    (hws : Since [{ tenantId, periodStart := period.start, value }] stored v₀ ws v₀) :
    (observeVolume config tenantId value at_).Tracks volumeWrites (metering config)
      (fun volume ws' v' => storesInbound ws' = stored ∧ Later v₀ v' ∧ Accounted config volume ws' v') ws v₀ := by
  apply query_tracks
  intro v hv _
  cases hcap : v.conversationCap tenantId with
  | none =>
    refine ⟨hws.stored, hv, ?_⟩
    rw [Accounted, hws.openings, List.map_singleton, List.sum_singleton, crossing, hcap]
    rfl
  | some cap =>
    apply Tx.Tracks.bind (current_tracks ((hv.resolve tenantId at_).trans hperiod))
    intro answer ws₁ v₁ ⟨hsame, hv₁, hanswer⟩
    subst hsame
    refine ⟨hws.stored, hv.trans hv₁, ?_⟩
    rw [Accounted, hws.openings, List.map_singleton, List.sum_singleton, crossing, hv₁.cap, hcap, hanswer]
    rfl

theorem upsertConversation_tracks (id : Uuid) (account : RoutedWhatsAppAccount) (contactId : Uuid)
    (lastMessageAt : Millis) (serviceWindowExpiresAt : Option Millis) (hws : Since [] false v₀ ws v₀) :
    (upsertConversation config id account contactId lastMessageAt serviceWindowExpiresAt).Tracks volumeWrites
      (metering config) (fun conversation ws' v' => storesInbound ws' = false ∧ Later v₀ v' ∧
        Accounted config conversation.volume ws' v') ws v₀ := by
  apply idle_tracks (w := .openConversation _) trivial hws
  intro rows ws₁ v hws₁
  have hstart : Since [] false v ws₁ v := ⟨hws₁.openings, hws₁.stored, .refl v⟩
  by_cases hinserted : rows = []
  · -- the thread was there
    rw [if_neg (not_not.mpr hinserted)]
    apply Tx.Tracks.bind (inPart_tracks (findConversation_only account contactId) hstart)
    intro existing ws₂ v₂ hws₂
    refine ⟨hws₂.stored, hws₁.later.trans hws₂.later, ?_⟩
    rw [Accounted, hws₂.openings]
    rfl
  · rw [if_pos hinserted]
    apply Tx.Tracks.bind (increment_tracks hstart)
    intro value ws₂ v₂ ⟨period, hperiod, hws₂⟩
    apply Tx.Tracks.bind (observeVolume_tracks hperiod ⟨hws₂.openings, hws₂.stored, .refl v₂⟩)
    intro volume ws₃ v₃ ⟨hstored, hlater₃, haccounted⟩
    exact ⟨hstored, hws₁.later.trans (hws₂.later.trans hlater₃), haccounted⟩

theorem tenantTransaction_tracks {work : VolumeTx α}
    (h : ∀ v, Later v₀ v → work.Tracks volumeWrites (metering config) P ws v) :
    (tenantTransaction tenantId work).Tracks volumeWrites (metering config) P ws v₀ := by
  apply query_tracks
  intro v hv _
  split
  · exact h v hv
  · trivial

def Carries (config : VolumeConfig) (applied : Option AppliedInboundMessage) (ws : List (VolumeWrite × List VolumeRow))
    (v : VolumeDb) : Prop :=
  (storesInbound ws = true ∧ Accounted config (applied.bind (·.volume)) ws v) ∨
    (storesInbound ws = false ∧ applied.bind (·.volume) = none)

theorem replayOf_tracks (tenantId : Uuid) (providerMessageId : String) (contactId conversationId : Uuid)
    (hws : storesInbound ws = false) :
    (replayOf tenantId providerMessageId contactId conversationId).Tracks volumeWrites (metering config)
      (Carries config) ws v₀ := by
  have hstart : Since (openings ws) false v₀ ws v₀ := ⟨rfl, hws, .refl v₀⟩
  apply Tx.Tracks.bind (inPart_tracks (replayOf_only tenantId providerMessageId contactId conversationId) hstart)
  intro existing ws₁ v₁ hws₁
  refine .inr ⟨hws₁.stored, ?_⟩
  cases existing <;> rfl

theorem inboundTransaction_tracks (message : WhatsAppInboundMessage) (phoneE164 : String) (displayName : Option String) (v₀ : VolumeDb)
    (config : VolumeConfig) :
    (inboundTransaction config ids account message phoneE164 displayName).Tracks volumeWrites (metering config)
      (Carries config) [] v₀ := by
  apply tenantTransaction_tracks
  intro v _
  have hstart : Since [] false v [] v := ⟨rfl, rfl, .refl v⟩
  apply Tx.Tracks.bind (inPart_tracks (upsertContact_only _ _ _ _ _) hstart)
  intro contactId ws₁ v₁ hws₁
  apply Tx.Tracks.bind (upsertConversation_tracks _ _ _ _ _ ⟨hws₁.openings, hws₁.stored, .refl v₁⟩)
  intro conversation ws₂ v₂ ⟨hstored, _, haccounted⟩
  apply inbound_tracks
  intro rows v₃ hlater₃
  by_cases hrows : rows = []
  · -- the message had been recorded before
    subst hrows
    exact replayOf_tracks _ _ _ _ hstored
  · have hopenings : openings (ws₂ ++ [(.inbound (.createMessage (message.row account.tenantId conversation.id)), rows)]) =
        openings ws₂ := by
      rw [openings, List.filterMap_append]
      exact List.append_nil _
    have hstores : storesInbound
        (ws₂ ++ [(.inbound (.createMessage (message.row account.tenantId conversation.id)), rows)]) = true := by
      rw [storesInbound, List.any_append]
      exact Bool.or_true _
    rw [if_neg hrows, if_neg hrows]
    apply Tx.Tracks.bind (inPart_tracks (advanceConversation_only _ _ _) ⟨hopenings, hstores, .refl v₃⟩)
    intro _ ws₄ v₄ hws₄
    refine .inl ⟨hws₄.stored, ?_⟩
    have hafter := haccounted.later (hlater₃.trans hws₄.later)
    rw [Accounted, hws₄.openings]
    exact hafter

theorem statusTransaction_tracks (status : MessageStatus) (phoneE164 : String) (v₀ : VolumeDb)
    (config : VolumeConfig) :
    (statusTransaction config ids account update status phoneE164).Tracks volumeWrites (metering config)
      (fun _ ws' _ => storesInbound ws' = false) [] v₀ := by
  apply tenantTransaction_tracks
  intro v _
  apply query_tracks
  intro v₁ _ _
  apply Tx.Tracks.bind (P := fun _ ws' _ => storesInbound ws' = false)
  · unfold createIfMissing
    split
    · have hstart : Since [] false v₁ [] v₁ := ⟨rfl, rfl, .refl v₁⟩
      apply Tx.Tracks.bind (inPart_tracks (upsertContact_only _ _ _ _ _) hstart)
      intro contactId ws₂ v₂ hws₂
      apply Tx.Tracks.bind (upsertConversation_tracks _ _ _ _ _ ⟨hws₂.openings, hws₂.stored, .refl v₂⟩)
      intro conversation ws₃ v₃ ⟨hstored, _, _⟩
      have houtbound : StoresNone (.createMessage (update.row account.tenantId conversation.id status)) := by
        cases status <;> nofun
      apply idle_tracks houtbound ⟨rfl, hstored, .refl v₃⟩
      exact fun rows ws₄ v₄ hws₄ => hws₄.stored
    · rfl
  intro created ws₂ v₂ hstored
  cases created with
  | true => exact hstored
  | false =>
    have hstart : Since (openings ws₂) false v₂ ws₂ v₂ := ⟨rfl, hstored, .refl v₂⟩
    exact (inPart_tracks (applyAdvance_only account update status _) hstart).mono fun _ _ _ h => h.stored

def volumeAccounts (config : VolumeConfig) : Accounts VolumeDb VolumeNotice where
  recorded := noticesDue config
  settled db := db.notices

theorem commit_owes (hdb : UniqueBy UsageCounter.entry db.usageCounters) (h : applyAll volumeWrites ws db = .ok db')
    (howed : ((openings ws).map (crossing config db)).sum = owed) :
    (UniqueBy UsageCounter.entry db'.usageCounters ∧ Later db db') ∧
      (volumeAccounts config).Balances db db' 0 owed := by
  have hmoves : Moves config ws db db' := commit_moves hdb h
  refine ⟨⟨hmoves.counters, hmoves.later⟩, ?_⟩
  simp only [Accounts.Balances, volumeAccounts, hmoves.due, hmoves.notices, howed, add_zero]
  exact add_right_comm _ _ _

theorem sum_crossing_eq_zero (hcond : Carried config (.commit (openings ws) (storesInbound ws)) db) (hstored : storesInbound ws = false) :
    ((openings ws).map (crossing config db)).sum = 0 := by
  apply List.sum_eq_zero
  intro due hdue
  obtain ⟨o, ho, rfl⟩ := List.mem_map.mp hdue
  apply crossing_eq_zero
  intro hreaches
  rw [hcond o ho hreaches] at hstored
  cases hstored

theorem transact_owes {work : VolumeTx α} (owes : α → Multiset VolumeNotice) (db : VolumeDb)
    (hwork : work.Tracks volumeWrites (metering config) P [] db)
    (howes : ∀ a ws v s, P a ws v → Later v s → Carried config (.commit (openings ws) (storesInbound ws)) s →
      ((openings ws).map (crossing config s)).sum = owes a) :
    (transact work).Owes (metering config) (volumeAccounts config)
      (fun answer _ owed => match answer with
        | .ok a => owed = owes a
        | .error _ => owed = 0) db 0 := by
  apply Tx.Tracks.owes metering_sound volumeWrites_steady _ _ _ _ hwork (Tx.Holds.nil db)
  · exact fun _ s hinv => ⟨hinv, .refl s⟩
  · exact fun _ s hinv => ⟨hinv, .refl s⟩
  · exact fun _ _ => rfl
  · intro a ws v s s' hP _ hinv hcond happly hlater
    have hmoves : Moves config ws s s' := commit_moves hinv happly
    have hcap : Later v s := by
      constructor
      · rw [← hmoves.later.entitlements, hlater.entitlements]
      · rw [← hmoves.later.tenants, hlater.tenants]
      · rw [← hmoves.later.subscriptions, hlater.subscriptions]
    obtain ⟨heffect, hbalance⟩ := commit_owes hinv happly (howes a ws v s hP hcap hcond)
    exact ⟨heffect, owes a, hbalance, rfl⟩

theorem announce_owes (volume : Option ConversationVolumeChanged) (db : VolumeDb) :
    (announce config volume).Owes (metering config) (volumeAccounts config) (fun _ _ owed => owed = 0) db
      (volumeCaused config volume) := by
  cases volume with
  | none => rfl
  | some =>
    apply Prog.Owes.stmt
    intro s _ hinv _
    refine ⟨⟨hinv, ⟨rfl, rfl, rfl⟩⟩, 0, ?_, rfl⟩
    simp only [Accounts.Balances, volumeAccounts, volumeCaused, onVolumeChanged, ← Multiset.coe_add, add_zero]
    exact add_assoc _ _ _

theorem applyInboundMessage_owes (message : WhatsAppInboundMessage) (displayName : Option String) (db : VolumeDb) :
    (applyInboundMessage config ids account message displayName).Owes (metering config) (volumeAccounts config)
      (fun _ _ owed => owed = 0) db 0 := by
  unfold applyInboundMessage
  split
  · rfl
  · rename_i phoneE164 _
    have hwork := inboundTransaction_tracks ids account message phoneE164 displayName db config
    apply Prog.Owes.bind metering_sound
    · apply transact_owes (fun applied => volumeCaused config (applied.bind (·.volume))) db hwork
      intro applied ws v s hcarries hlater hcond
      rcases hcarries with ⟨_, haccounted⟩ | ⟨hstored, hnone⟩
      · exact haccounted.later hlater
      · rw [sum_crossing_eq_zero hcond hstored, hnone]
        rfl
    intro answer s owed _ howed
    cases answer with
    | error => exact howed
    | ok applied =>
      rw [show owed = volumeCaused config (applied.bind (·.volume)) from howed]
      apply Prog.Owes.bind metering_sound (announce_owes _ s)
      exact fun _ _ _ _ hpaid => hpaid

theorem applyStatusUpdate_owes (db : VolumeDb) :
    (applyStatusUpdate config ids account update).Owes (metering config) (volumeAccounts config)
      (fun _ _ owed => owed = 0) db 0 := by
  unfold applyStatusUpdate
  split
  · rfl
  · rename_i status _
    split
    · rfl
    · rename_i phoneE164 _
      have hwork := statusTransaction_tracks ids account update status phoneE164 db config
      apply Prog.Owes.bind metering_sound
      · apply transact_owes (fun _ => 0) db hwork
        exact fun _ ws v s hstored _ hcond => sum_crossing_eq_zero hcond hstored
      intro answer s owed _ howed
      cases answer with
      | error | ok => exact howed

theorem volumeProgram_owes (call : VolumeCall) (db : VolumeDb) :
    (volumeProgram config call).Owes (metering config) (volumeAccounts config) (fun _ _ owed => owed = 0) db 0 := by
  cases call with
  | inbound ids account message displayName => exact applyInboundMessage_owes ids account message displayName db
  | receipt ids account update => exact applyStatusUpdate_owes ids account update db

/-- The index of the counters, and a period in which nothing is due yet. -/
structure VolumeDb.Fresh (config : VolumeConfig) (db : VolumeDb) : Prop where
  counters : UniqueBy UsageCounter.entry db.usageCounters
  below : ∀ c ∈ db.usageCounters, ∀ cap, db.conversationCap c.tenantId = some cap →
    c.value < cap ∧ c.value < config.warnLine cap
  notices : db.notices = []

theorem VolumeDb.Fresh.due (hdb : db.Fresh config) : noticesDue config db = 0 := by
  apply List.sum_eq_zero
  intro due hdue
  obtain ⟨c, hc, rfl⟩ := List.mem_map.mp hdue
  exact UsageCounter.due_eq_zero (hdb.below c hc)

abbrev VolumeRun (config : VolumeConfig) (db : VolumeDb) (s : VolumeSys) : Prop :=
  Reachable (volumeProgram config) (fun s _ tag => Carried config tag s.db) (.idle db) s

theorem VolumeRun.honest (hdb : db.Fresh config) (hs : VolumeRun config db s) :
    s.Honest (metering config) (volumeAccounts config) fun _ _ _ owed => owed = 0 := by
  apply Reachable.honest metering_sound volumeProgram_owes _ (fun _ _ _ h => h) hdb.counters _ hs
  · exact fun _ _ _ _ _ _ hpaid => hpaid
  · simp only [volumeAccounts, hdb.due, hdb.notices]
    rfl

def IsDue (config : VolumeConfig) (cap : Option Nat) (value : Nat) : VolumeTemplate → Prop
  | .volumeLimitReached => ∃ n ∈ cap, n ≤ value
  | .volumeWarning => ∃ n ∈ cap, config.warnLine n ≠ n ∧ config.warnLine n ≤ value

instance (cap : Option Nat) (value : Nat) (template : VolumeTemplate) : Decidable (IsDue config cap value template) :=
  match template with
  | .volumeLimitReached => inferInstanceAs (Decidable (∃ n ∈ cap, _))
  | .volumeWarning => inferInstanceAs (Decidable (∃ n ∈ cap, _ ∧ _))

theorem IsDue.pos (hcap : ∀ n ∈ cap, 0 < n) (h : IsDue config cap value template) : 0 < value := by
  cases template with
  | volumeLimitReached =>
    obtain ⟨n, hn, hreached⟩ := h
    exact Nat.lt_of_lt_of_le (hcap n hn) hreached
  | volumeWarning =>
    obtain ⟨n, hn, _, hreached⟩ := h
    exact Nat.lt_of_lt_of_le (config.warnLine_pos n (hcap n hn)) hreached

theorem UsageCounter.count_due (cap : Option Nat) (c : UsageCounter) (notice : VolumeNotice) :
    (c.due config cap).count notice =
      if notice = c.notice notice.template ∧ IsDue config cap c.value notice.template then 1 else 0 := by
  have hcount : ∀ (cond : Prop) [Decidable cond] template,
      (if cond then ({c.notice template} : Multiset VolumeNotice) else 0).count notice =
        if cond ∧ notice = c.notice template then 1 else 0 := by
    intro cond _ template
    by_cases hcond : cond <;> simp [hcond, Multiset.count_singleton]
  cases cap with
  | none =>
    have hnot : ¬ IsDue config none c.value notice.template := by
      cases notice.template <;> simp [IsDue]
    rw [if_neg fun h => hnot h.2]
    rfl
  | some =>
    obtain ⟨tenantId, periodStart, template⟩ := notice
    rw [due, Multiset.count_add, hcount, hcount]
    cases template with
    | volumeLimitReached | volumeWarning => simp [notice, IsDue, and_comm]

theorem count_sum_map [DecidableEq δ] (g : ρ → Multiset δ)
    (hg : ∀ r, p r = false → (g r).count d = 0) (rows : List ρ) :
    ((rows.map g).sum).count d = ((rows.filter p).map fun r => (g r).count d).sum := by
  induction rows with
  | nil => rfl
  | cons r rows ih =>
    rw [List.map_cons, List.sum_cons, Multiset.count_add, ih]
    cases hp : p r with
    | true => rw [List.filter_cons_of_pos hp, List.map_cons, List.sum_cons]
    | false => rw [List.filter_cons_of_neg (Bool.not_eq_true _ ▸ hp), hg r hp, zero_add]

theorem count_noticesDue (hdb : UniqueBy UsageCounter.entry db.usageCounters) (notice : VolumeNotice) :
    (noticesDue config db).count notice =
      if IsDue config (db.conversationCap notice.tenantId) (db.opened notice.tenantId notice.periodStart)
        notice.template then 1 else 0 := by
  have hothers : ∀ c : UsageCounter, c.named notice.tenantId notice.periodStart = false →
      (c.due config (db.conversationCap c.tenantId)).count notice = 0 := by
    intro c hnamed
    rw [UsageCounter.count_due, if_neg]
    rintro ⟨heq, _⟩
    have hnamed' : c.named notice.tenantId notice.periodStart = true := by
      rw [heq]
      exact UsageCounter.named_iff.mpr ⟨rfl, rfl⟩
    rw [hnamed'] at hnamed
    cases hnamed
  rw [noticesDue, count_sum_map _ hothers]
  unfold VolumeDb.opened
  cases hfind : db.usageCounters.find? (UsageCounter.named notice.tenantId notice.periodStart) with
  | none =>
    have hnone : db.usageCounters.filter (UsageCounter.named notice.tenantId notice.periodStart) = [] :=
      List.filter_eq_nil_iff.mpr (List.find?_eq_none.mp hfind)
    have hnot : ¬ IsDue config (db.conversationCap notice.tenantId) 0 notice.template :=
      fun h => Nat.lt_irrefl 0 (h.pos fun _ => VolumeDb.conversationCap_pos)
    rw [hnone, if_neg hnot]
    rfl
  | some c =>
    obtain ⟨htenant, hstart⟩ := UsageCounter.named_iff.mp (List.find?_some hfind)
    have hnotice : notice = c.notice notice.template := by
      obtain ⟨tenantId, periodStart, template⟩ := notice
      rw [UsageCounter.notice, htenant, hstart]
    rw [filter_named hdb hfind, List.map_singleton, List.sum_singleton, UsageCounter.count_due, htenant]
    simp only [← hnotice, true_and]

def VolumeDb.noticed (db : VolumeDb) (tenantId : Uuid) (periodStart : Millis) (template : VolumeTemplate) : Nat :=
  db.notices.count { tenantId, periodStart, template }

def VolumeDb.IsDue (config : VolumeConfig) (db : VolumeDb) (tenantId : Uuid) (periodStart : Millis)
    (template : VolumeTemplate) : Prop :=
  Usage.IsDue config (db.conversationCap tenantId) (db.opened tenantId periodStart) template

instance (db : VolumeDb) (tenantId : Uuid) (periodStart : Millis) (template : VolumeTemplate) :
    Decidable (db.IsDue config tenantId periodStart template) :=
  inferInstanceAs (Decidable (Usage.IsDue config _ _ template))

/-- Where each counter reaches the cap or the warning line by an inbound message its transaction stores: of each
    period no notice is caused twice, none that is not due, and each that is due has been caused in the end. -/
theorem volume_notices_once {db : VolumeDb} (hdb : db.Fresh config) {s : VolumeSys} (hs : VolumeRun config db s)
    (tenantId : Uuid) (periodStart : Millis) (template : VolumeTemplate) :
    s.db.noticed tenantId periodStart template ≤ 1 ∧
    (0 < s.db.noticed tenantId periodStart template → s.db.IsDue config tenantId periodStart template) ∧
    ((∀ e ∈ s.calls, e.2.result?.isSome = true) → s.db.IsDue config tenantId periodStart template →
      s.db.noticed tenantId periodStart template = 1) := by
  have hhonest := hs.honest hdb
  obtain ⟨owed, hcalls, hsum⟩ := hhonest.owed
  have hcount := congrArg (Multiset.count { tenantId, periodStart, template }) hsum
  rw [Multiset.count_add] at hcount
  simp only [volumeAccounts, count_noticesDue hhonest.inv, Multiset.coe_count] at hcount
  change (if s.db.IsDue config tenantId periodStart template then 1 else 0) =
    s.db.noticed tenantId periodStart template + _ at hcount
  refine ⟨?_, fun hpos => ?_, fun hfinished hdue => ?_⟩
  · split at hcount <;> omega
  · by_contra hnot
    rw [if_neg hnot] at hcount
    omega
  · have hzero : ∀ o ∈ owed, o = 0 := by
      refine forall₂_forall_right hcalls fun e he o howes => ?_
      have hpure := hfinished e he
      obtain ⟨call, p⟩ := e
      cases p with
      | pure => exact howes
      | atomic => cases hpure
    rw [if_pos hdue, List.sum_eq_zero hzero] at hcount
    exact hcount.symm

def fourFifths : VolumeConfig where
  warnLine cap := (cap * 4 + 4) / 5
  warnLine_pos cap hcap := by omega
  anniversary createdAt _ := { start := createdAt, end_ := createdAt + 31 * 24 * 60 * 60 * 1000 }

def threeOfFive : VolumeDb where
  webhooks := { serviceable := [1] }
  tenants := [⟨1, 0⟩]
  entitlements := [⟨1, some 5⟩]
  usageCounters := [⟨1, 0, 31 * 24 * 60 * 60 * 1000, 3⟩]

theorem threeOfFive_fresh : threeOfFive.Fresh fourFifths where
  counters := by decide
  below := by
    intro c hc cap hcap
    obtain rfl : c = ⟨1, 0, 31 * 24 * 60 * 60 * 1000, 3⟩ := List.mem_singleton.mp hc
    obtain rfl : 5 = cap := Option.some.inj hcap
    decide
  notices := rfl

def firstMessage (n : Nat) (source : String) : VolumeCall :=
  .inbound ⟨BitVec.ofNat 128 (10 * n), BitVec.ofNat 128 (10 * n + 1)⟩ ⟨1, 2⟩
    { id := "wamid." ++ source, source, timestamp := 1000 } none

def strayReceipt (n : Nat) (recipientId : String) : VolumeCall :=
  .receipt ⟨BitVec.ofNat 128 (10 * n), BitVec.ofNat 128 (10 * n + 1)⟩ ⟨1, 2⟩
    { id := "wamid." ++ recipientId, status := "delivered", timestamp := 1000, recipientId }

/-- The fourth conversation and the fifth, each opened by a message: the warning and the limit. -/
theorem volume_notices_once_fifth :
    ∃ s, VolumeRun fourFifths threeOfFive s ∧ s.db.noticed 1 0 .volumeLimitReached = 1 := by
  have hrun : (run (volumeProgram fourFifths) (fun s _ tag => decide (Carried fourFifths tag s.db))
      ([.spawn (firstMessage 1 "15550000001"), .spawn (firstMessage 2 "15550000002")] ++ List.replicate 14 (.step 0) ++
        List.replicate 14 (.step 1)) (.idle threeOfFive)).map
      (fun s => (s.calls.all (·.2.result?.isSome), decide (s.db.IsDue fourFifths 1 0 .volumeLimitReached))) =
        some (true, true) := by
    decide +kernel
  obtain ⟨s, hreach, hend⟩ := ends_of_run hrun
  obtain ⟨hfinished, hdue⟩ := Prod.mk.inj hend
  exact ⟨s, hreach, (volume_notices_once threeOfFive_fresh hreach 1 0 .volumeLimitReached).2.2
    (List.all_eq_true.mp hfinished) (of_decide_eq_true hdue)⟩

/-- The fifth conversation is opened by a receipt, and nobody is told that the limit is reached. -/
theorem volume_notices_once_fails : ¬ ∀ (config : VolumeConfig) (db : VolumeDb), db.Fresh config → ∀ s : VolumeSys,
      Reachable (volumeProgram config) anyStep (.idle db) s → (∀ e ∈ s.calls, e.2.result?.isSome = true) →
        ∀ tenantId periodStart template, s.db.IsDue config tenantId periodStart template →
          s.db.noticed tenantId periodStart template = 1 := by
  intro hclaim
  have hrun : (run (volumeProgram fourFifths) (fun _ _ _ => true)
      ([.spawn (firstMessage 1 "15550000001"), .spawn (strayReceipt 2 "15550000002"),
        .spawn (firstMessage 3 "15550000003")] ++ List.replicate 14 (.step 0) ++ List.replicate 12 (.step 1) ++
        List.replicate 14 (.step 2)) (.idle threeOfFive)).map
      (fun s => (s.calls.all (·.2.result?.isSome), decide (s.db.IsDue fourFifths 1 0 .volumeLimitReached),
        s.db.noticed 1 0 .volumeLimitReached)) = some (true, true, 0) := by
    decide +kernel
  obtain ⟨s, hreach, hend⟩ := ends_of_run_any hrun
  obtain ⟨hfinished, hend⟩ := Prod.mk.inj hend
  obtain ⟨hdue, hnone⟩ := Prod.mk.inj hend
  have hnoticed := hclaim fourFifths threeOfFive threeOfFive_fresh s hreach
    (List.all_eq_true.mp hfinished) 1 0 .volumeLimitReached (of_decide_eq_true hdue)
  rw [hnone] at hnoticed
  cases hnoticed

end WhatsappCrm.Usage
