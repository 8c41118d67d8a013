/-
Purpose: What every run of the SLA jobs keeps: pauses, stopped timers, and one event and one alert a recipient for a
  breach.
-/
import WhatsappCrm.Sla.System

namespace WhatsappCrm

open Interleaving Table

def TicketEvent.breachKey (e : TicketEvent) : Option (Uuid × Uuid × SlaTargetKind) :=
  match e.data with
  | .slaBreached kind _ => some (e.tenantId, e.ticketId, kind)
  | _ => none

def SlaDb.breachKeys (db : SlaDb) : List (Uuid × Uuid × SlaTargetKind) :=
  db.base.ticketEvents.filterMap TicketEvent.breachKey

structure SlaDb.Ok (db : SlaDb) : Prop where
  base : db.base.Ok
  id : UniqueBy SlaTimer.idEntry db.slaTimers
  kind : UniqueBy SlaTimer.kindEntry db.slaTimers
  policy : UniqueBy SlaPolicy.idEntry db.slaPolicies
  alert : UniqueBy SlaAlert.recipientEntry db.slaAlerts
  paused : ∀ t ∈ db.slaTimers, t.pausedAt ≠ none ↔ t.state = .paused
  once : db.breachKeys.Nodup
  breached : ∀ key, key ∈ db.breachKeys ↔
    ∃ t ∈ db.slaTimers, t.state = .breached ∧ t.kindEntry = some key

/-- How a later state may differ: rows are never lost, and what identifies them stays. -/
structure SlaDb.Later (a b : SlaDb) : Prop where
  now : a.base.now ≤ b.base.now
  tickets : ∀ t ∈ a.base.tickets, ∃ t' ∈ b.base.tickets, Evolves t t'
  messages : ∀ m ∈ a.base.messages, m ∈ b.base.messages
  policies : ∀ p ∈ a.slaPolicies, p ∈ b.slaPolicies
  timers : ∀ t ∈ a.slaTimers, ∃ t' ∈ b.slaTimers, SameTarget t t'

def SlaDb.Frozen (a b : SlaDb) : Prop :=
  ∀ t ∈ a.slaTimers, t.state.isMutable = false → t ∈ b.slaTimers

variable {a b : SlaDb} {u : SlaTimer} {w : SlaWrite} {rows : List SlaRow} {tag : Stmt}

namespace SlaDb

theorem Later.refl (db : SlaDb) : db.Later db where
  now := Int.le_refl _
  tickets t ht := ⟨t, ht, .refl t⟩
  messages _ h := h
  policies _ h := h
  timers t ht := ⟨t, ht, .refl t⟩

theorem Later.trans (h : a.Later b) (h' : b.Later c) : a.Later c where
  now := Int.le_trans h.now h'.now
  tickets t ht := by
    obtain ⟨t₁, ht₁, hev₁⟩ := h.tickets t ht
    obtain ⟨t₂, ht₂, hev₂⟩ := h'.tickets t₁ ht₁
    exact ⟨t₂, ht₂, hev₁.trans hev₂⟩
  messages m hm := h'.messages m (h.messages m hm)
  policies p hp := h'.policies p (h.policies p hp)
  timers t ht := by
    obtain ⟨t₁, ht₁, hsame₁⟩ := h.timers t ht
    obtain ⟨t₂, ht₂, hsame₂⟩ := h'.timers t₁ ht₁
    exact ⟨t₂, ht₂, hsame₁.trans hsame₂⟩

theorem Frozen.refl (db : SlaDb) : db.Frozen db := fun _ ht _ => ht

theorem Frozen.trans (h : a.Frozen b) (h' : b.Frozen c) : a.Frozen c :=
  fun t ht hstate => h' t (h t ht hstate) hstate

variable {db : SlaDb}

theorem findTimer_some {t : SlaTimer} (h : db.findTimer tenantId timerId = some t) :
    t ∈ db.slaTimers ∧ t.id = timerId ∧ t.tenantId = tenantId := by
  exact of_find? h

theorem Ok.eq_of_id (h : db.Ok) {t t' : SlaTimer} (ht : t ∈ db.slaTimers) (ht' : t' ∈ db.slaTimers)
    (hid : t.id = t'.id) : t = t' :=
  h.id.eq_of_entry ht ht' (k := t'.id) (by rw [SlaTimer.idEntry, hid]) rfl

theorem Ok.eq_of_kind (h : db.Ok) {t t' : SlaTimer} (ht : t ∈ db.slaTimers) (ht' : t' ∈ db.slaTimers)
    (hkind : t.kindEntry = t'.kindEntry) : t = t' :=
  h.kind.eq_of_entry ht ht' (k := (t'.tenantId, t'.ticketId, t'.kind)) (by rw [hkind]; rfl) rfl

theorem mem_putTimer {t' : SlaTimer} (h : u ∈ (db.putTimer t').slaTimers) :
    u = t' ∨ (u ∈ db.slaTimers ∧ u.id ≠ t'.id) := by
  obtain ⟨r, hr, ⟨_, rfl⟩ | ⟨hne, rfl⟩⟩ := mem_updateWhere h
  · exact .inl rfl
  · exact .inr ⟨hr, by simpa using hne⟩

theorem putTimer_mem_self {t t' : SlaTimer} (ht : t ∈ db.slaTimers) (hid : t.id = t'.id) :
    t' ∈ (db.putTimer t').slaTimers := by
  have h := mem_updateWhere_of_mem (p := fun r => decide (r.id = t'.id)) (f := fun _ => t') ht
  rwa [if_pos (by simpa using hid)] at h

theorem putTimer_mem_of_ne {t' : SlaTimer} (hu : u ∈ db.slaTimers) (hne : u.id ≠ t'.id) :
    u ∈ (db.putTimer t').slaTimers :=
  mem_updateWhere_of_not hu (by simpa using hne)

end SlaDb

section Put

variable {db : SlaDb} (hdb : db.Ok) {now : Millis} {t t' : SlaTimer} (ht : t ∈ db.slaTimers) (hmove : TimerMove now t t')

include hmove in
theorem putTimer_forall {P : SlaTimer → Prop} (hP : ∀ u ∈ db.slaTimers, u ≠ t → P u) (ht' : P t') :
    ∀ u ∈ (db.putTimer t').slaTimers, P u := by
  intro u hu
  rcases SlaDb.mem_putTimer hu with rfl | ⟨hu, hne⟩
  · exact ht'
  · refine hP u hu ?_
    rintro rfl
    exact hne hmove.sameTarget.id.symm

include hdb ht hmove in
theorem putTimer_indexed : UniqueBy SlaTimer.idEntry (db.putTimer t').slaTimers ∧
    UniqueBy SlaTimer.kindEntry (db.putTimer t').slaTimers := by
  have hsame := hmove.sameTarget
  have hrow : ∀ r ∈ db.slaTimers, decide (r.id = t'.id) = true → r = t := by
    intro r hr hid
    exact hdb.eq_of_id hr ht (by simpa [hsame.id] using hid)
  constructor
  · refine hdb.id.updateWhere fun r hr hid => .inr ?_
    rw [hrow r hr hid]
    simp [SlaTimer.idEntry, hsame.id]
  · refine hdb.kind.updateWhere fun r hr hid => .inr ?_
    rw [hrow r hr hid]
    simp [SlaTimer.kindEntry, hsame.tenantId, hsame.ticketId, hsame.kind]

include hdb ht hmove in
theorem putTimer_timers (u : SlaTimer) (hu : u ∈ db.slaTimers) : ∃ u' ∈ (db.putTimer t').slaTimers, SameTarget u u' := by
  have hsame := hmove.sameTarget
  by_cases hid : u.id = t'.id
  · rw [hdb.eq_of_id hu ht (hid.trans hsame.id)]
    exact ⟨t', SlaDb.putTimer_mem_self ht hsame.id.symm, hsame⟩
  · exact ⟨u, SlaDb.putTimer_mem_of_ne hu hid, .refl u⟩

include ht hmove in
theorem putTimer_timers_before (hu' : u' ∈ (db.putTimer t').slaTimers) : ∃ u ∈ db.slaTimers, SameTarget u u' := by
  rcases SlaDb.mem_putTimer hu' with rfl | ⟨hu, _⟩
  · exact ⟨t, ht, hmove.sameTarget⟩
  · exact ⟨u', hu, .refl u'⟩

include hdb ht hmove in
theorem putTimer_frozen : db.Frozen (db.putTimer t') := by
  intro u hu hstate
  refine SlaDb.putTimer_mem_of_ne hu fun hid => ?_
  rw [hdb.eq_of_id hu ht (hid.trans hmove.sameTarget.id), hmove.isMutable] at hstate
  cases hstate

end Put

theorem SlaDb.breachKeys_append {db : SlaDb} (hevents : ∀ e ∈ events, e.breachKey = none) :
    (db.base.ticketEvents ++ events).filterMap TicketEvent.breachKey = db.breachKeys := by
  rw [List.filterMap_append, List.filterMap_eq_nil_iff.mpr hevents, List.append_nil]
  rfl

theorem stamp_evolves (respondedAt : Millis) (userId : Option Uuid) {t : Ticket} (hnone : t.firstRespondedAt = none) :
    Evolves t { t with firstRespondedAt := some respondedAt, firstResponseUserId := userId } :=
  { Evolves.refl t with firstRespondedAt := fun h => absurd hnone h }

theorem stamp_ok {db : TicketDb} (hdb : db.Ok) (tenantId ticketId : Uuid) (respondedAt : Millis)
    (userId : Option Uuid) (events : List TicketEvent) : (({ db with
        tickets := updateWhere (SlaDb.unanswered tenantId ticketId)
          (fun t => { t with firstRespondedAt := some respondedAt, firstResponseUserId := userId })
          db.tickets } : TicketDb).appendEvents events).Ok where
  indexed :=
    { id := hdb.indexed.id.updateWhere fun _ _ _ => .inr rfl
      number := hdb.indexed.number.updateWhere fun _ _ _ => .inr rfl
      active := hdb.indexed.active.updateWhere fun _ _ _ => .inr rfl }
  numbered := by
    intro t ht
    obtain ⟨t₀, ht₀, ⟨_, rfl⟩ | ⟨_, rfl⟩⟩ := mem_updateWhere ht
    · exact hdb.numbered t₀ ht₀
    · exact hdb.numbered _ ht₀
  stamped := by
    intro t ht
    obtain ⟨t₀, ht₀, ⟨_, rfl⟩ | ⟨_, rfl⟩⟩ := mem_updateWhere ht
    · exact { hdb.stamped t₀ ht₀ with }
    · exact hdb.stamped _ ht₀

theorem appendEvents_ok {db : TicketDb} (hdb : db.Ok) (events : List TicketEvent) : (db.appendEvents events).Ok where
  indexed := hdb.indexed
  numbered := hdb.numbered
  stamped := hdb.stamped

theorem SlaTimer.breach_move {t : SlaTimer} {now : Millis} (hdue : t.isDue now = true) :
    TimerMove now t { t with state := .breached, breachedAt := some now } := by
  obtain ⟨hrunning, hdueAt⟩ : t.state = .running ∧ t.dueAt ≤ now := by
    simpa [isDue] using hdue
  exact .breach t hrunning hdueAt

theorem Written.ok {db : SlaDb} (h : Written w rows db db') (hdb : db.Ok) : db'.Ok := by
  cases h with
  | nothing => exact hdb
  | stamped tenantId ticketId respondedAt userId _ =>
    let event : TicketEvent := { tenantId, ticketId, data := .firstResponse respondedAt }
    have hkeys : (db.base.ticketEvents ++ [event]).filterMap TicketEvent.breachKey = db.breachKeys :=
      SlaDb.breachKeys_append (by simp [event, TicketEvent.breachKey])
    exact
      { hdb with
        base := stamp_ok hdb.base tenantId ticketId respondedAt userId _
        once := by
          have h := hdb.once
          rw [← hkeys] at h
          exact h
        breached := by
          intro key
          have h := hdb.breached key
          rw [← hkeys] at h
          exact h }
  | defaulted policy _ hfree =>
    have hnew : ∀ p ∈ db.slaPolicies, ¬ Clash SlaPolicy.idEntry p policy := by
      intro p hp hclash
      have hid : p.id = policy.id := by simpa [SlaPolicy.idEntry] using hclash.2
      simp only [SlaDb.policyTaken, List.any_eq_false, decide_eq_true_eq] at hfree
      exact hfree p hp (.inl hid)
    exact { hdb with policy := hdb.policy.concat hnew }
  | created data =>
    have hmutable : ∀ t ∈ (newTimers db.slaTimers data).map (·.row), t.state = .running ∧ t.pausedAt = none := by
      intro t ht
      obtain ⟨d, _, rfl⟩ := List.mem_map.mp ht
      exact ⟨rfl, rfl⟩
    exact
      { hdb with
        id := hdb.id.skipDuplicates (fun a b h => by simpa [SlaTimer.idEntry] using Or.inl h.2) data
        kind := hdb.kind.skipDuplicates (fun a b h => by simpa using Or.inr h.2) data
        paused := by
          intro t ht
          rcases List.mem_append.mp ht with ht | ht
          · exact hdb.paused t ht
          · simp [hmutable t ht]
        breached := by
          intro key
          refine (hdb.breached key).trans ⟨?_, ?_⟩
          · rintro ⟨t, ht, hstate, hkey⟩
            exact ⟨t, List.mem_append_left _ ht, hstate, hkey⟩
          · rintro ⟨t, ht, hstate, hkey⟩
            rcases List.mem_append.mp ht with ht | ht
            · exact ⟨t, ht, hstate, hkey⟩
            · simp [hmutable t ht] at hstate }
  | moved tenantId timerId target now _ t t' hfind hmove hstate =>
    obtain ⟨ht, _, _⟩ := SlaDb.findTimer_some hfind
    obtain ⟨hid, hkind⟩ := putTimer_indexed hdb ht hmove
    have hrunning : t.state ≠ .breached := by
      intro h
      have hmutable := hmove.isMutable
      simp [h, SlaTimerState.isMutable] at hmutable
    have hstate' : t'.state ≠ .breached := by
      rw [hstate]
      cases target <;> simp [SlaTimerTarget.state]
    exact
      { hdb with
        id := hid
        kind := hkind
        paused := putTimer_forall hmove (fun u hu _ => hdb.paused u hu) (hmove.pausedAt_iff (hdb.paused t ht))
        breached := by
          intro key
          refine (hdb.breached key).trans ⟨?_, ?_⟩
          · rintro ⟨u, hu, hbreached, hkey⟩
            refine ⟨u, putTimer_frozen hdb ht hmove u hu ?_, hbreached, hkey⟩
            simp [hbreached, SlaTimerState.isMutable]
          · rintro ⟨u, hu, hbreached, hkey⟩
            rcases SlaDb.mem_putTimer hu with rfl | ⟨hu, _⟩
            · exact absurd hbreached hstate'
            · exact ⟨u, hu, hbreached, hkey⟩ }
  | breached tenantId timerId now recipientUserIds _ t hfind hdue =>
    obtain ⟨ht, hid, htenant⟩ := SlaDb.findTimer_some hfind
    have hmove := SlaTimer.breach_move hdue
    have hrunning : t.state = .running := by
      simp only [SlaTimer.isDue, decide_eq_true_eq] at hdue
      exact hdue.1
    obtain ⟨hid', hkind'⟩ := putTimer_indexed hdb ht hmove
    have hkeys : (db.base.ticketEvents ++
        [({ tenantId, ticketId := t.ticketId, data := .slaBreached t.kind t.dueAt } : TicketEvent)]).filterMap
          TicketEvent.breachKey = db.breachKeys ++ [(t.tenantId, t.ticketId, t.kind)] := by
      simp [SlaDb.breachKeys, TicketEvent.breachKey, htenant]
    have hfresh : (t.tenantId, t.ticketId, t.kind) ∉ db.breachKeys := by
      intro hmem
      obtain ⟨u, hu, hbreached, hkey⟩ := (hdb.breached _).mp hmem
      rw [hdb.eq_of_kind hu ht hkey, hrunning] at hbreached
      cases hbreached
    exact
      { base := appendEvents_ok hdb.base _
        id := hid'
        kind := hkind'
        policy := hdb.policy
        alert := by
          have h : UniqueBy SlaAlert.recipientEntry (db.slaAlerts ++
              (newAlerts db.slaAlerts (alertsFor t recipientUserIds)).map id) :=
            hdb.alert.skipDuplicates (fun a b h => by simpa using h.2) (alertsFor t recipientUserIds)
          simpa using h
        paused := putTimer_forall hmove (fun u hu _ => hdb.paused u hu) (hmove.pausedAt_iff (hdb.paused t ht))
        once := by
          have h := List.nodup_append.mpr ⟨hdb.once, List.nodup_singleton (t.tenantId, t.ticketId, t.kind), by
            intro key hkey key' hkey' heq
            rw [heq, List.mem_singleton.mp hkey'] at hkey
            exact hfresh hkey⟩
          rw [← hkeys] at h
          exact h
        breached := by
          intro key
          have hmem : key ∈ db.breachKeys ++ [(t.tenantId, t.ticketId, t.kind)] ↔
              (∃ u ∈ db.slaTimers, u.state = .breached ∧ u.kindEntry = some key) ∨
                key = (t.tenantId, t.ticketId, t.kind) := by
            rw [List.mem_append, hdb.breached key, List.mem_singleton]
          rw [← hkeys] at hmem
          refine Iff.trans hmem ?_
          constructor
          · rintro (⟨u, hu, hbreached, hkey⟩ | rfl)
            · refine ⟨u, putTimer_frozen hdb ht hmove u hu ?_, hbreached, hkey⟩
              simp [hbreached, SlaTimerState.isMutable]
            · exact ⟨_, SlaDb.putTimer_mem_self ht rfl, rfl, rfl⟩
          · rintro ⟨u, hu, hbreached, hkey⟩
            rcases SlaDb.mem_putTimer hu with rfl | ⟨hu, _⟩
            · right
              simpa [SlaTimer.kindEntry] using hkey.symm
            · exact .inl ⟨u, hu, hbreached, hkey⟩ }

theorem Written.later {db : SlaDb} (h : Written w rows db db') (hdb : db.Ok) : db.Later db' := by
  cases h with
  | nothing => exact .refl _
  | stamped tenantId ticketId respondedAt userId _ t ht hunanswered =>
    refine { SlaDb.Later.refl db with tickets := fun t ht => ?_ }
    refine ⟨_, mem_updateWhere_of_mem (p := SlaDb.unanswered tenantId ticketId) ht, ?_⟩
    split
    · rename_i hnone
      simp only [SlaDb.unanswered, decide_eq_true_eq] at hnone
      exact stamp_evolves respondedAt userId hnone.2.2
    · exact .refl t
  | defaulted =>
    exact { SlaDb.Later.refl db with policies := fun p hp => List.mem_append_left _ hp }
  | created =>
    exact { SlaDb.Later.refl db with timers := fun t ht => ⟨t, List.mem_append_left _ ht, .refl t⟩ }
  | moved tenantId timerId target now _ t t' hfind hmove =>
    have ht := (SlaDb.findTimer_some hfind).1
    exact { SlaDb.Later.refl db with timers := putTimer_timers hdb ht hmove }
  | breached tenantId timerId now recipientUserIds _ t hfind hdue =>
    have ht := (SlaDb.findTimer_some hfind).1
    exact { SlaDb.Later.refl db with timers := putTimer_timers hdb ht (SlaTimer.breach_move hdue) }

theorem Written.frozen {db : SlaDb} (h : Written w rows db db') (hdb : db.Ok) : db.Frozen db' := by
  cases h with
  | nothing => exact .refl _
  | stamped | defaulted => exact fun _ ht _ => ht
  | created => exact fun _ ht _ => List.mem_append_left _ ht
  | moved tenantId timerId target now _ t t' hfind hmove =>
    exact putTimer_frozen hdb (SlaDb.findTimer_some hfind).1 hmove
  | breached tenantId timerId now recipientUserIds _ t hfind hdue =>
    exact putTimer_frozen hdb (SlaDb.findTimer_some hfind).1 (SlaTimer.breach_move hdue)

theorem Written.nothing_eq {db : SlaDb} (h : Written w [] db db') : db' = db := by
  generalize hrows : ([] : List SlaRow) = rows at h
  cases h with
  | nothing => rfl
  | created data =>
    have hnew : newTimers db.slaTimers data = [] := List.map_eq_nil_iff.mp hrows.symm
    simp [hnew]
  | stamped | defaulted | moved | breached => cases hrows

theorem putTimer_mono (hb : b.Ok) (hlater : a.Later b) {now : Millis}
    {t t' : SlaTimer} (ht : t ∈ a.slaTimers) (hmove : TimerMove now t t') (hu : u ∈ b.slaTimers)
    (hmove' : TimerMove now' u u') :
    ∀ r' ∈ (a.putTimer t').slaTimers, ∃ q' ∈ (b.putTimer u').slaTimers, SameTarget r' q' := by
  intro r' hr'
  obtain ⟨r, hr, hrr'⟩ := putTimer_timers_before ht hmove hr'
  obtain ⟨q, hq, hrq⟩ := hlater.timers r hr
  obtain ⟨q', hq', hqq'⟩ := putTimer_timers hb hu hmove' q hq
  exact ⟨q', hq', hrr'.symm.trans (hrq.trans hqq')⟩

/-- A write that matches the same rows respects the order of states. -/
theorem Written.mono (ha : a.Ok) (hb : b.Ok)
    (hlater : a.Later b) (hrows : rows ≠ []) (h : Written w rows a a') (h' : Written w rows b b') : a'.Later b' := by
  cases h with
  | nothing => exact absurd rfl hrows
  | stamped tenantId ticketId respondedAt userId _ t ht hunanswered =>
    cases h' with
    | stamped _ _ _ _ _ u hu hunanswered' =>
      refine { hlater with tickets := fun r' hr' => ?_ }
      simp only [SlaDb.unanswered, decide_eq_true_eq] at hunanswered hunanswered'
      obtain ⟨r, hr, hcase⟩ := mem_updateWhere hr'
      obtain ⟨q, hq, hev⟩ := hlater.tickets r hr
      have hq' := mem_updateWhere_of_mem (p := SlaDb.unanswered tenantId ticketId)
        (f := fun t => { t with firstRespondedAt := some respondedAt, firstResponseUserId := userId }) hq
      refine ⟨_, hq', ?_⟩
      rcases hcase with ⟨hp, rfl⟩ | ⟨hp, rfl⟩
      · -- the row the guard matches later is the same one, and still has no response
        simp only [SlaDb.unanswered, decide_eq_true_eq] at hp
        have hsame : q = u := by
          apply hb.base.indexed.eq_of_id hq hu
          rw [hev.id, hp.2.1, hunanswered'.2.1]
        subst hsame
        rw [if_pos (by simpa [SlaDb.unanswered] using hunanswered')]
        exact { hev with firstRespondedAt := fun _ => rfl }
      · have hne : SlaDb.unanswered tenantId ticketId q = false := by
          by_contra hq'
          simp only [SlaDb.unanswered, Bool.not_eq_false, decide_eq_true_eq] at hq'
          have hsame : r' = t := by
            apply ha.base.indexed.eq_of_id hr ht
            rw [← hev.id, hq'.2.1, hunanswered.2.1]
          subst hsame
          simp [SlaDb.unanswered, hunanswered] at hp
        simpa [hne] using hev
  | defaulted policy _ =>
    cases h' with
    | defaulted =>
      refine { hlater with policies := fun p hp => ?_ }
      rcases List.mem_append.mp hp with hp | hp
      · exact List.mem_append_left _ (hlater.policies p hp)
      · exact List.mem_append_right _ hp
  | created data =>
    generalize hsame : (newTimers a.slaTimers data).map SlaRow.created = rows at h'
    cases h' with
    | nothing => exact absurd hsame hrows
    | created =>
      have hnew : newTimers a.slaTimers data = newTimers b.slaTimers data :=
        List.map_injective_iff.mpr (fun _ _ h => by cases h; rfl) hsame
      refine { hlater with timers := fun t ht => ?_ }
      rcases List.mem_append.mp ht with ht | ht
      · obtain ⟨t', ht', hst⟩ := hlater.timers t ht
        exact ⟨t', List.mem_append_left _ ht', hst⟩
      · rw [hnew] at ht
        exact ⟨t, List.mem_append_right _ ht, .refl t⟩
  | moved tenantId timerId target now _ t t' hfind hmove =>
    cases h' with
    | moved _ _ _ _ _ u u' hfind' hmove' =>
      have ht := (SlaDb.findTimer_some hfind).1
      have hu := (SlaDb.findTimer_some hfind').1
      exact { hlater with timers := putTimer_mono hb hlater ht hmove hu hmove' }
  | breached tenantId timerId now recipientUserIds _ t hfind hdue =>
    cases h' with
    | breached _ _ _ _ _ u hfind' hdue' =>
      have ht := (SlaDb.findTimer_some hfind).1
      have hu := (SlaDb.findTimer_some hfind').1
      exact { hlater with
        timers := putTimer_mono hb hlater ht (SlaTimer.breach_move hdue) hu (SlaTimer.breach_move hdue') }

theorem TicketEvent.breachKey_eq_none {e : TicketEvent} (h : e.data.isSla = false) : e.breachKey = none := by
  simp only [breachKey]
  split
  · rename_i heq
    simp [heq, TicketEventData.isSla] at h
  · rfl

theorem Effect.breachKeys {db : TicketDb} (h : Effect tag db db') :
    db'.ticketEvents.filterMap TicketEvent.breachKey = db.ticketEvents.filterMap TicketEvent.breachKey := by
  have happend : ∀ events : List TicketEvent, (∀ e ∈ events, e.data.isSla = false) →
      (db.ticketEvents ++ events).filterMap TicketEvent.breachKey =
        db.ticketEvents.filterMap TicketEvent.breachKey := by
    intro events hevents
    have hnone : events.filterMap TicketEvent.breachKey = [] :=
      List.filterMap_eq_nil_iff.mpr fun e he => TicketEvent.breachKey_eq_none (hevents e he)
    rw [List.filterMap_append, hnone, List.append_nil]
  cases h with
  | same | counted | ticked => rfl
  | inserted => exact happend _ (by simp [createdEvent, TicketEventData.isSla])
  | updated _ _ _ _ events _ hevents | appended _ _ events hevents => exact happend events hevents

theorem Effect.messages_eq {db : TicketDb} (h : Effect tag db db') : db'.messages = db.messages := by
  cases h <;> rfl

theorem Effect.now_le {db : TicketDb} (h : Effect tag db db') : db.now ≤ db'.now := by
  cases h with
  | ticked elapsed => exact Int.le_add_of_nonneg_right (Int.natCast_nonneg elapsed)
  | same | counted | inserted | updated | appended => exact Int.le_refl _

theorem Effect.withBase_ok {db : SlaDb} (h : Effect tag db.base base) (hdb : db.Ok) : (db.withBase base).Ok where
  base := h.ok hdb.base
  id := hdb.id
  kind := hdb.kind
  policy := hdb.policy
  alert := hdb.alert
  paused := hdb.paused
  once := by
    show (base.ticketEvents.filterMap TicketEvent.breachKey).Nodup
    rw [h.breachKeys]
    exact hdb.once
  breached := by
    intro key
    show key ∈ base.ticketEvents.filterMap TicketEvent.breachKey ↔ _
    rw [h.breachKeys]
    exact hdb.breached key

theorem Effect.withBase_later {db : SlaDb} (h : Effect tag db.base base) (hdb : db.Ok) : db.Later (db.withBase base) where
  now := h.now_le
  tickets _ ht := h.evolves hdb.base ht
  messages m hm := by
    show m ∈ base.messages
    rwa [h.messages_eq]
  policies _ hp := hp
  timers t ht := ⟨t, ht, .refl t⟩

theorem ticket_within (call : TicketCall) :
    ((program call).zoom SlaDb.base SlaDb.withBase SlaStmt.ticket).Within SlaDb.Ok fun tag a b =>
      ∃ stmt base, tag = .ticket stmt ∧ b = a.withBase base ∧ Effect stmt a.base base := by
  have hwithin : (program call).Within TicketDb.Indexed fun tag a b => Effect tag a b :=
    (program_sound call).follows.mono fun _ _ _ _ _ hs => hs.effect
  refine Prog.Within.zoom hwithin (fun s hs => hs.base.indexed) ?_
  exact fun tag s base _ heffect => ⟨tag, base, rfl, rfl, heffect⟩

/-- What the calls on the SLA database count on, with the condition and the effect a result adds. -/
def slaRely (cond : SlaStmt → SlaDb → Prop) (effect : SlaStmt → SlaDb → SlaDb → Prop) : Rely SlaStmt SlaDb where
  inv := SlaDb.Ok
  later := SlaDb.Later
  cond
  effect tag a b := b.Ok ∧ a.Later b ∧ a.Frozen b ∧ effect tag a b

section Rely

variable {cond : SlaStmt → SlaDb → Prop} {effect : SlaStmt → SlaDb → SlaDb → Prop}

theorem slaRely_sound : (slaRely cond effect).Sound where
  refl := SlaDb.Later.refl
  trans := SlaDb.Later.trans
  keeps _ _ h := ⟨h.1, h.2.1⟩

theorem slaWrites_sound : slaWrites.Sound (slaRely cond effect) where
  nothing h := (SlaWrite.written h).nothing_eq
  keeps hdb h := ⟨(SlaWrite.written h).ok hdb, (SlaWrite.written h).later hdb⟩
  mono ha hb hlater hrows h h' := Written.mono ha hb hlater hrows (SlaWrite.written h) (SlaWrite.written h')

/-- What a result has to show of the statements, given what justifies the writes of a transaction. -/
structure Shows (cond : SlaStmt → SlaDb → Prop) (effect : SlaStmt → SlaDb → SlaDb → Prop)
    (J : Millis → Uuid → SlaScope → SlaDb → SlaWrite → Prop) : Prop where
  same : ∀ tag db, effect tag db db
  ticket : ∀ tag db base, db.Ok → Effect tag db.base base →
    effect (.ticket tag) db (db.withBase base)
  sent : ∀ (message : Message) (db : SlaDb), db.Ok → cond (.sendMessage message) db →
    effect (.sendMessage message) db (db.withBase { db.base with messages := db.base.messages ++ [message] })
  commit : ∀ now tenantId scope ws a b, a.Ok → cond (.commit now tenantId scope) a →
    Justifies slaWrites (J now tenantId scope) ws a → applyAll slaWrites ws a = .ok b →
    effect (.commit now tenantId scope) a b

theorem tenantTransaction_guards {α : Type} (h : Shows cond effect J) {body : Millis → SlaTx α}
    (hbody : ∀ now db, (body now).Justified slaWrites (slaRely cond effect) (J now tenantId scope)
      (fun _ _ => True) db) (db : SlaDb) : (tenantTransaction tenantId scope body).Guards (slaRely cond effect) db := by
  intro s _ hinv _
  refine ⟨⟨hinv, .refl s, .refl s, h.same _ s⟩, ?_⟩
  refine Tx.run_guards slaRely_sound slaWrites_sound.steady ?_ ?_ (hbody s.base.now s) (Tx.Holds.nil s)
  · intro tag a ha _
    exact ⟨ha, .refl a, .refl a, h.same tag a⟩
  · intro ws a b ha hcond hjust happly
    have hkeeps : b.Ok ∧ a.Later b ∧ a.Frozen b := by
      refine applyAll_keeps (K := fun x => x.Ok ∧ a.Later x ∧ a.Frozen x) ?_ hjust ⟨ha, .refl a, .refl a⟩ happly
      intro w x rows y hx _ hw
      have hwritten := SlaWrite.written hw
      exact ⟨hwritten.ok hx.1, hx.2.1.trans (hwritten.later hx.1), hx.2.2.trans (hwritten.frozen hx.1)⟩
    exact ⟨hkeeps.1, hkeeps.2.1, hkeeps.2.2, h.commit _ _ _ ws a b ha hcond hjust happly⟩

theorem send_guards (h : Shows cond effect J) (message : Message) (db : SlaDb) :
    (send message).Guards (slaRely cond effect) db := by
  intro s _ hs _
  refine ⟨⟨hs, .refl s, .refl s, h.same _ s⟩, ?_⟩
  intro s' _ hs' hcond
  refine ⟨⟨?_, ?_, fun _ ht _ => ht, h.sent _ s' hs' hcond⟩, trivial⟩
  · exact { hs' with base := { hs'.base with } }
  · exact { SlaDb.Later.refl s' with messages := fun _ hm => List.mem_append_left _ hm }

theorem ticket_guards (h : Shows cond effect J) (call : TicketCall) (db : SlaDb) :
    Prog.Guards (slaRely cond effect) db ((program call).zoom SlaDb.base SlaDb.withBase .ticket) := by
  refine (ticket_within call).guards (fun tag a _ b ha _ hw => ?_) db
  obtain ⟨stmt, base, rfl, rfl, heffect⟩ := hw
  exact ⟨heffect.withBase_ok ha, heffect.withBase_later ha, fun _ ht _ => ht, h.ticket stmt a base ha heffect⟩

theorem slaProgram_guards (h : Shows cond effect J) (hreconcile : ∀ tenantId ids now ticketId db,
      (reconcile tenantId ids now ticketId).Justified slaWrites (slaRely cond effect)
        (J now tenantId (.ticket ticketId)) (fun _ _ => True) db) (hclaim : ∀ tenantId ids now timerIds skipped db,
      (claimAndAlert tenantId ids now timerIds skipped).Justified slaWrites (slaRely cond effect)
        (J now tenantId (.timers timerIds)) (fun _ _ => True) db)
    (call : SlaCall) (db : SlaDb) : Prog.Guards (slaRely cond effect) db (slaProgram call) := by
  cases call with
  | ticket call => exact (ticket_guards h call db).bind slaRely_sound fun _ _ _ => trivial
  | send message => exact (send_guards h message db).bind slaRely_sound fun _ _ _ => trivial
  | evaluate tenantId ticketId ids =>
    have hbody := tenantTransaction_guards h (fun now => hreconcile tenantId ids now ticketId) db
    exact hbody.bind slaRely_sound fun _ _ _ => trivial
  | breachChunk tenantId ids timerIds skipped =>
    have hbody := tenantTransaction_guards h (fun now => hclaim tenantId ids now timerIds skipped) db
    exact hbody.bind slaRely_sound fun _ _ _ => trivial

end Rely

abbrev plainRely : Rely SlaStmt SlaDb := slaRely (fun _ _ => True) fun _ _ _ => True

theorem plain_guards (call : SlaCall) (db : SlaDb) : Prog.Guards plainRely db (slaProgram call) := by
  have hshows : Shows (fun _ _ => True) (fun _ _ _ => True) fun _ _ _ _ _ => True :=
    { same := fun _ _ => trivial
      ticket := fun _ _ _ _ _ => trivial
      sent := fun _ _ _ _ => trivial
      commit := fun _ _ _ _ _ _ _ _ _ _ => trivial }
  exact slaProgram_guards hshows (fun _ _ _ _ db => .of_forall (fun _ _ => trivial) db _)
    (fun _ _ _ _ _ db => .of_forall (fun _ _ => trivial) db _) call db

theorem SlaRun.guarded {db : SlaDb} (hdb : db.Ok) (hs : SlaRun db s) : s.Guarded plainRely :=
  Reachable.guards slaRely_sound plain_guards (fun _ _ _ _ => trivial) (Sys.guarded_idle hdb) hs

theorem SlaRun.frozen {db : SlaDb} (hdb : db.Ok) (hs : SlaRun db s)
    (hlater : Reachable slaProgram anyStep s s') : s.db.Frozen s'.db :=
  Reachable.effect slaRely_sound plain_guards (fun _ _ _ _ => trivial)
    (fun _ _ _ _ _ heffect h => h.trans heffect.2.2.1) (SlaRun.guarded hdb hs) (.refl s.db) hlater

def SlaDb.breachEvents (db : SlaDb) (t : SlaTimer) : Nat :=
  db.breachKeys.count (t.tenantId, t.ticketId, t.kind)

def breachedTimer : SlaTimer :=
  { id := 2
    tenantId := 1
    ticketId := 1
    policyId := 3
    kind := .firstResponse
    state := .breached
    startedAt := 0
    dueAt := 3600000
    breachedAt := some 3600000 }

/-- The open ticket with its first-response timer, breached an hour after the ticket was created. -/
def oneBreachedTimer : SlaDb :=
  { base :=
      { oneOpenTicket with
        now := 3600000
        ticketEvents := [{ tenantId := 1, ticketId := 1, data := .slaBreached .firstResponse 3600000 }] }
    slaTimers := [breachedTimer]
    slaAlerts := [{ tenantId := 1, slaTimerId := 2, ticketId := 1, recipientUserId := 4,
                    kind := .firstResponse, dueAt := 3600000 }] }

theorem oneBreachedTimer_ok : oneBreachedTimer.Ok where
  base := { oneOpenTicket_ok with }
  id := show UniqueBy SlaTimer.idEntry oneBreachedTimer.slaTimers by decide
  kind := show UniqueBy SlaTimer.kindEntry oneBreachedTimer.slaTimers by decide
  policy := show UniqueBy SlaPolicy.idEntry oneBreachedTimer.slaPolicies by decide
  alert := show UniqueBy SlaAlert.recipientEntry oneBreachedTimer.slaAlerts by decide
  paused := by decide
  once := by decide
  breached key := by
    simp only [SlaDb.breachKeys, oneBreachedTimer, breachedTimer, TicketEvent.breachKey, List.filterMap_cons,
      List.filterMap_nil, List.mem_singleton, SlaTimer.kindEntry, exists_eq_left, true_and, Option.some.injEq]
    exact eq_comm

end WhatsappCrm
