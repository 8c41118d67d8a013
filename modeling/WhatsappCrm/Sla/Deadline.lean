/-
Purpose: Whether a timer is met in time.
-/
import WhatsappCrm.Sla.Breach

namespace WhatsappCrm

open Interleaving Table

namespace SlaDb

variable (db : SlaDb)

def firstReplyOf (ticket : Ticket) : Option Message :=
  ticket.conversationId.bind fun conversationId =>
    db.firstReply ticket.tenantId conversationId ticket.createdAt

def achievedAt (kind : SlaTargetKind) (ticket : Ticket) : Option Millis :=
  match kind with
  | .firstResponse => (db.firstReplyOf ticket).map (·.sentAt)
  | .resolution => ticket.resolvedAt

def ticketOf (t : SlaTimer) : Option Ticket := db.base.findTicket t.tenantId t.ticketId

def timerAchievedAt (t : SlaTimer) : Option Millis := (db.ticketOf t).bind (db.achievedAt t.kind)

def windowOf (t : SlaTimer) : Option Nat :=
  (db.findPolicy t.tenantId t.policyId).bind fun p => p.windowFor t.kind

def windowEnd (startedAt : Millis) (minutes : Nat) : Millis := startedAt + minutes * millisecondsPerMinute

/-- `due_at` with every pause accounted for that the row has accumulated. -/
def deadline (t : SlaTimer) : Millis := windowEnd t.startedAt ((db.windowOf t).getD 0) + t.pausedMs

def InScope (tenantId : Uuid) (scope : SlaScope) (ticketId : Uuid) : Prop :=
  match scope with
  | .ticket id => ticketId = id
  | .timers ids => ∃ t ∈ db.slaTimers, t.tenantId = tenantId ∧ t.id ∈ ids ∧ t.ticketId = ticketId

def Usable (tenantId : Uuid) (now : Millis) (p : SlaPolicy) : Prop :=
  p.tenantId = tenantId ∧
    (p ∈ db.slaPolicies ∨ ∃ id, p = defaultPolicy tenantId id now ∧ db.policyTaken p = false)

end SlaDb

def recordedAt (kind : SlaTargetKind) (ticket : Ticket) : Option Millis :=
  match kind with
  | .firstResponse => ticket.firstRespondedAt
  | .resolution => ticket.resolvedAt

structure SlaDb.Settled (db : SlaDb) : Prop where
  windowed : ∀ t ∈ db.slaTimers, db.windowOf t ≠ none
  accounted : ∀ t ∈ db.slaTimers, t.state ≠ .met → t.state ≠ .cancelled → t.dueAt = db.deadline t
  answered : ∀ ticket ∈ db.base.tickets, ticket.firstRespondedAt ≠ none → db.firstReplyOf ticket ≠ none
  met : ∀ t ∈ db.slaTimers, t.state = .met → db.timerAchievedAt t ≠ none
  cancelled : ∀ t ∈ db.slaTimers, t.state = .cancelled →
    ∃ ticket, db.ticketOf t = some ticket ∧ ticket.status.isActive = false
  late : ∀ t ∈ db.slaTimers, t.state = .met ∨ t.state = .cancelled →
    ∀ m, db.timerAchievedAt t = some m → m ≤ db.deadline t

/-- No target of the tickets in `S` was achieved too late for a timer that is still live, or missing. -/
structure InTime (db : SlaDb) (now : Millis) (tenantId : Uuid) (S : Uuid → Prop) : Prop where
  live : ∀ t ∈ db.slaTimers, t.tenantId = tenantId → S t.ticketId → t.state.isMutable = true →
    ∀ m, db.timerAchievedAt t = some m → m ≤ db.deadline t + t.openPause now
  missing : ∀ ticket, db.base.findTicket tenantId ticket.id = some ticket → S ticket.id →
    ∀ kind, (∀ t ∈ db.slaTimers, t.kindEntry ≠ some (tenantId, ticket.id, kind)) →
      ∀ p minutes, db.Usable tenantId now p → p.windowFor kind = some minutes →
        ∀ m, db.achievedAt kind ticket = some m → m ≤ SlaDb.windowEnd ticket.createdAt minutes

theorem firstReply_isSome_iff {db : SlaDb} {tenantId : Uuid} :
    db.firstReply tenantId conversationId createdAt ≠ none ↔
      ∃ m ∈ db.base.messages, m.answers tenantId conversationId createdAt = true := by
  simp only [SlaDb.firstReply, ne_eq, firstBy_eq_none, List.filter_eq_nil_iff, not_forall, Bool.not_eq_true,
    Bool.not_eq_false, exists_prop]

variable {w : SlaWrite} {rows : List SlaRow}

theorem Written.messages_eq {a b : SlaDb} (h : Written w rows a b) : b.base.messages = a.base.messages := by
  cases h <;> rfl

/-- A write only looks at tickets for their first response. -/
theorem Written.findTicket_eq {a b : SlaDb} (h : Written w rows a b)
    (tenantId ticketId : Uuid) : ∃ f : Ticket → Ticket,
      b.base.findTicket tenantId ticketId = (a.base.findTicket tenantId ticketId).map f ∧
        ∀ t, ((f t).status = t.status ∧ (f t).priority = t.priority) ∧ (f t).createdAt = t.createdAt ∧
          (f t).id = t.id ∧ ∀ kind, b.achievedAt kind (f t) = a.achievedAt kind t := by
  cases h with
  | stamped =>
    refine ⟨_, find?_updateWhere (by simp) _, fun t => ?_⟩
    split
    · exact ⟨⟨rfl, rfl⟩, rfl, rfl, fun kind => by cases kind <;> rfl⟩
    · exact ⟨⟨rfl, rfl⟩, rfl, rfl, fun kind => by cases kind <;> rfl⟩
  | nothing => exact ⟨id, by simp, fun t => ⟨⟨rfl, rfl⟩, rfl, rfl, fun kind => rfl⟩⟩
  | defaulted | created => exact ⟨id, by simp, fun t => ⟨⟨rfl, rfl⟩, rfl, rfl, fun kind => by cases kind <;> rfl⟩⟩
  | moved | breached => exact ⟨id, by simp; rfl, fun t => ⟨⟨rfl, rfl⟩, rfl, rfl, fun kind => by cases kind <;> rfl⟩⟩

theorem Written.timerAchievedAt_eq {a b : SlaDb} (h : Written w rows a b)
    (t : SlaTimer) : b.timerAchievedAt t = a.timerAchievedAt t := by
  obtain ⟨f, hfind, hf⟩ := h.findTicket_eq t.tenantId t.ticketId
  simp only [SlaDb.timerAchievedAt, SlaDb.ticketOf, hfind]
  cases a.base.findTicket t.tenantId t.ticketId with
  | none => rfl
  | some ticket => exact (hf ticket).2.2.2 t.kind

theorem SlaDb.Ok.findPolicy_mem {db : SlaDb} (hdb : db.Ok) {tenantId : Uuid} :
    db.findPolicy tenantId policyId = some p ↔
      p ∈ db.slaPolicies ∧ p.id = policyId ∧ p.tenantId = tenantId := by
  constructor
  · intro h
    exact of_find? h
  · rintro ⟨hmem, hid, htenant⟩
    refine hdb.policy.find?_eq_some (k := policyId) hmem (decide_eq_true ⟨hid, htenant⟩) fun q _ hq => ?_
    exact congrArg some (of_decide_eq_true hq).1

theorem SlaDb.Later.findPolicy {a b : SlaDb} (h : a.Later b) (ha : a.Ok) (hb : b.Ok)
    {tenantId : Uuid} (hp : a.findPolicy tenantId policyId = some p) : b.findPolicy tenantId policyId = some p := by
  obtain ⟨hmem, hid, htenant⟩ := ha.findPolicy_mem.mp hp
  exact hb.findPolicy_mem.mpr ⟨h.policies p hmem, hid, htenant⟩

theorem SlaDb.Later.windowOf {a b : SlaDb} (h : a.Later b) (ha : a.Ok) (hb : b.Ok) {t : SlaTimer}
    (ht : a.windowOf t ≠ none) : b.windowOf t = a.windowOf t := by
  cases hp : a.findPolicy t.tenantId t.policyId with
  | none => simp [SlaDb.windowOf, hp] at ht
  | some => simp [SlaDb.windowOf, hp, h.findPolicy ha hb hp]

theorem SlaDb.Later.deadline {a b : SlaDb} (h : a.Later b) (ha : a.Ok) (hb : b.Ok) {t : SlaTimer}
    (ht : a.windowOf t ≠ none) : b.deadline t = a.deadline t := by
  simp only [SlaDb.deadline, h.windowOf ha hb ht]

theorem SlaTimer.openPause_of_not_paused {t : SlaTimer} {now : Millis} (h : t.pausedAt = none) : t.openPause now = 0 := by
  simp [openPause, h]

namespace TimerMove

variable {now : Millis} {t t' : SlaTimer}

theorem windowOf (h : TimerMove now t t') (db : SlaDb) : db.windowOf t' = db.windowOf t := by
  have hsame := h.sameTarget
  simp only [SlaDb.windowOf, hsame.tenantId, hsame.policyId, hsame.kind]

theorem pausedMs (h : TimerMove now t t') (ht : t.pausedAt ≠ none ↔ t.state = .paused) :
    t'.pausedMs + t'.openPause now = t.pausedMs + t.openPause now := by
  cases h with
  | pause hrunning =>
    have hnone : t.pausedAt = none := by
      by_contra hne
      simp [hrunning] at ht
      exact hne ht
    simp [SlaTimer.openPause, hnone]
  | resume pausedAt _ hpausedAt => simp [SlaTimer.openPause, hpausedAt]
  | stop => simp [SlaTimer.openPause]
  | breach => rfl

theorem dueAt (h : TimerMove now t t') (hmet : t'.state ≠ .met) (hcancelled : t'.state ≠ .cancelled) :
    t'.dueAt - t'.pausedMs = t.dueAt - t.pausedMs := by
  cases h with
  | pause | breach => rfl
  | resume => grind
  | stop state _ hstate =>
    rcases hstate with rfl | rfl
    · exact absurd rfl hmet
    · exact absurd rfl hcancelled

end TimerMove

namespace SlaDb

/-- What justifies a write of a transaction: where it looked before it decided, the reason is still there. -/
def Backed (now : Millis) (tenantId : Uuid) (scope : SlaScope) (db : SlaDb) : SlaWrite → Prop
  | .stampFirstResponse tn ticketId _ _ =>
    ∀ t ∈ db.base.tickets, t.tenantId = tn → t.id = ticketId → db.firstReplyOf t ≠ none
  | .createDefault policy => ∃ id, policy = defaultPolicy tenantId id now
  | .createTimers rows => ∀ row ∈ rows, row.tenantId = tenantId ∧ db.InScope tenantId scope row.ticketId ∧
      ∃ ticket p minutes, db.base.findTicket tenantId row.ticketId = some ticket ∧
        row.startedAt = ticket.createdAt ∧ db.findPolicy tenantId row.policyId = some p ∧
        p.windowFor row.kind = some minutes ∧ row.dueAt = windowEnd ticket.createdAt minutes
  | .applyTransition tn timerId target n => tn = tenantId ∧ n = now ∧
      ∀ t ∈ db.slaTimers, t.id = timerId → db.InScope tenantId scope t.ticketId ∧
        ∃ ticket, db.ticketOf t = some ticket ∧ (target = .met → recordedAt t.kind ticket ≠ none) ∧
          (target = .cancelled → ticket.status.isActive = false)
  | .breach .. => ∃ timerIds, scope = .timers timerIds

end SlaDb

/-- What a transaction of a scope keeps while it applies its writes. -/
structure Settling (db : SlaDb) (now : Millis) (tenantId : Uuid) (scope : SlaScope) (S : Uuid → Prop) : Prop where
  ok : db.Ok
  settled : db.Settled
  inTime : InTime db now tenantId S
  scope : ∀ ticketId, db.InScope tenantId scope ticketId → S ticketId

section Settling

variable {now : Millis} {tenantId : Uuid} {scope : SlaScope} {S : Uuid → Prop} {a b : SlaDb}

theorem SlaDb.InScope.before (hnew : ∀ t ∈ b.slaTimers, (∃ u ∈ a.slaTimers, SameTarget u t) ∨
      a.InScope tenantId scope t.ticketId) {ticketId : Uuid}
    (h : b.InScope tenantId scope ticketId) : a.InScope tenantId scope ticketId := by
  cases scope with
  | ticket => exact h
  | timers =>
    obtain ⟨t, ht, htenant, hid, rfl⟩ := h
    rcases hnew t ht with ⟨u, hu, hsame⟩ | hscope
    · exact ⟨u, hu, hsame.tenantId.symm.trans htenant, hsame.id ▸ hid, hsame.ticketId.symm⟩
    · exact hscope

theorem Settling.of_same (h : Settling a now tenantId scope S) (hw : Written w rows a b) (htimers : b.slaTimers = a.slaTimers) (hpolicies : b.slaPolicies = a.slaPolicies)
    (hanswered : ∀ ticket ∈ b.base.tickets, ticket.firstRespondedAt ≠ none → b.firstReplyOf ticket ≠ none) :
    Settling b now tenantId scope S := by
  have hachieved := hw.timerAchievedAt_eq
  have hwindow : ∀ t, b.windowOf t = a.windowOf t := fun t => by
    simp [SlaDb.windowOf, SlaDb.findPolicy, hpolicies]
  have hdeadline : ∀ t, b.deadline t = a.deadline t := fun t => by
    simp only [SlaDb.deadline, hwindow]
  refine ⟨hw.ok h.ok, ?_, ?_, ?_⟩
  · constructor
    · intro t ht
      rw [hwindow]
      exact h.settled.windowed t (htimers ▸ ht)
    · intro t ht
      rw [hdeadline]
      exact h.settled.accounted t (htimers ▸ ht)
    · exact hanswered
    · intro t ht
      rw [hachieved]
      exact h.settled.met t (htimers ▸ ht)
    · intro t ht hstate
      obtain ⟨ticket, hticket, hinactive⟩ := h.settled.cancelled t (htimers ▸ ht) hstate
      obtain ⟨f, hfind, hf⟩ := hw.findTicket_eq t.tenantId t.ticketId
      refine ⟨f ticket, ?_, by rw [(hf ticket).1.1, hinactive]⟩
      rw [SlaDb.ticketOf, hfind, show a.base.findTicket t.tenantId t.ticketId = some ticket from hticket]
      rfl
    · intro t ht
      rw [hachieved, hdeadline]
      exact h.settled.late t (htimers ▸ ht)
  · constructor
    · intro t ht
      rw [hachieved, hdeadline]
      exact h.inTime.live t (htimers ▸ ht)
    · intro ticket hticket hS kind hmissing p minutes husable
      obtain ⟨f, hfind, hf⟩ := hw.findTicket_eq tenantId ticket.id
      rw [hfind, Option.map_eq_some_iff] at hticket
      obtain ⟨ticket₀, hticket₀, rfl⟩ := hticket
      obtain ⟨_, hcreated, hid, hach⟩ := hf ticket₀
      rw [hid] at hticket₀ hS hmissing
      rw [hach, hcreated]
      refine h.inTime.missing ticket₀ hticket₀ hS kind (htimers ▸ hmissing) p minutes ?_
      simpa [SlaDb.Usable, SlaDb.policyTaken, hpolicies] using husable
  · intro ticketId hscope
    refine h.scope ticketId (SlaDb.InScope.before (b := b) ?_ hscope)
    intro t ht
    exact .inl ⟨t, htimers ▸ ht, .refl t⟩

theorem Settling.defaulted (h : Settling a now tenantId scope S) (hw : Written (.createDefault policy) rows a b) (hbacked : a.Backed now tenantId scope (.createDefault policy)) :
    Settling b now tenantId scope S := by
  have hok := hw.ok h.ok
  have hlater := hw.later h.ok
  have hachieved := hw.timerAchievedAt_eq
  have hdeadline : ∀ t ∈ a.slaTimers, b.deadline t = a.deadline t := fun t ht =>
    hlater.deadline h.ok hok (h.settled.windowed t ht)
  cases hw with
  | nothing => exact h
  | defaulted _ _ hfree =>
    obtain ⟨id, hid⟩ := hbacked
    refine ⟨hok, ?_, ?_, ?_⟩
    · constructor
      · intro t ht
        rw [hlater.windowOf h.ok hok (h.settled.windowed t ht)]
        exact h.settled.windowed t ht
      · intro t ht
        rw [hdeadline t ht]
        exact h.settled.accounted t ht
      · exact h.settled.answered
      · intro t ht
        rw [hachieved]
        exact h.settled.met t ht
      · exact h.settled.cancelled
      · intro t ht
        rw [hachieved, hdeadline t ht]
        exact h.settled.late t ht
    · constructor
      · intro t ht
        rw [hachieved, hdeadline t ht]
        exact h.inTime.live t ht
      · intro ticket hticket hS kind hmissing p minutes husable
        refine h.inTime.missing ticket hticket hS kind hmissing p minutes ?_
        obtain ⟨htenant, hmem | ⟨id', hp, hfree'⟩⟩ := husable
        · rcases mem_snoc.mp hmem with hmem | rfl
          · exact ⟨htenant, .inl hmem⟩
          · exact ⟨htenant, .inr ⟨id, hid, hfree⟩⟩
        · refine ⟨htenant, .inr ⟨id', hp, ?_⟩⟩
          simp only [SlaDb.policyTaken, List.any_append, Bool.or_eq_false_iff] at hfree'
          exact hfree'.1
    · exact fun ticketId hscope => h.scope ticketId (SlaDb.InScope.before (fun t ht => .inl ⟨t, ht, .refl t⟩) hscope)

theorem Settling.created (h : Settling a now tenantId scope S) (hw : Written (.createTimers data) rows a b)
    (hbacked : a.Backed now tenantId scope (.createTimers data)) : Settling b now tenantId scope S := by
  cases hw with
  | nothing => exact h
  | created =>
    have hw := Written.created data a
    have hok := hw.ok h.ok
    -- every new timer runs, was missing before, and ends its window at its deadline
    have hnew : ∀ t ∈ (newTimers a.slaTimers data).map (·.row), t.state = .running ∧ t.pausedAt = none ∧
        t.tenantId = tenantId ∧ a.InScope tenantId scope t.ticketId ∧
        (∀ u ∈ a.slaTimers, u.kindEntry ≠ t.kindEntry) ∧
        ∃ ticket p minutes, a.base.findTicket tenantId t.ticketId = some ticket ∧ a.windowOf t = some minutes ∧
          a.findPolicy tenantId t.policyId = some p ∧ p.windowFor t.kind = some minutes ∧
          a.deadline t = SlaDb.windowEnd ticket.createdAt minutes ∧ t.dueAt = a.deadline t := by
      intro t ht
      obtain ⟨d, hd, rfl⟩ := List.mem_map.mp ht
      obtain ⟨htenant, hscope, ticket, p, minutes, hticket, hstarted, hp, hminutes, hdue⟩ :=
        hbacked d (mem_of_mem_skipDuplicates hd)
      have hwindow : a.windowOf d.row = some minutes := by
        simp only [SlaDb.windowOf, SlaTimerCreate.row, htenant, hp, Option.bind_some, hminutes]
      have hdeadline : a.deadline d.row = SlaDb.windowEnd ticket.createdAt minutes := by
        rw [SlaDb.deadline, hwindow]
        show SlaDb.windowEnd d.startedAt minutes + 0 = _
        rw [hstarted, Int.add_zero]
      refine ⟨rfl, rfl, htenant, hscope, ?_, ticket, p, minutes, hticket, hwindow, hp, hminutes, hdeadline, ?_⟩
      · intro u hu heq
        have hclash := not_clash_of_mem_skipDuplicates hd hu
        simp [heq] at hclash
      · rw [hdeadline, ← hdue]
        rfl
    refine ⟨hok, ?_, ?_, ?_⟩
    · constructor
      · intro t ht
        rcases List.mem_append.mp ht with ht | ht
        · exact h.settled.windowed t ht
        · obtain ⟨_, _, _, _, _, ticket, p, minutes, _, hwindow, _⟩ := hnew t ht
          show a.windowOf t ≠ none
          simp [hwindow]
      · intro t ht hmet hcancelled
        rcases List.mem_append.mp ht with ht | ht
        · exact h.settled.accounted t ht hmet hcancelled
        · obtain ⟨_, _, _, _, _, ticket, p, minutes, _, _, _, _, _, hdue⟩ := hnew t ht
          exact hdue
      · exact h.settled.answered
      · intro t ht hmet
        rcases List.mem_append.mp ht with ht | ht
        · exact h.settled.met t ht hmet
        · simp [hnew t ht] at hmet
      · intro t ht hcancelled
        rcases List.mem_append.mp ht with ht | ht
        · exact h.settled.cancelled t ht hcancelled
        · simp [hnew t ht] at hcancelled
      · intro t ht hstate
        rcases List.mem_append.mp ht with ht | ht
        · exact h.settled.late t ht hstate
        · simp [hnew t ht] at hstate
    · constructor
      · intro t ht htenant hS hmutable m hm
        rcases List.mem_append.mp ht with ht | ht
        · exact h.inTime.live t ht htenant hS hmutable m hm
        · obtain ⟨_, hpausedAt, htn, _, hmissing, ticket, p, minutes, hticket, _, hp, hminutes, hdeadline, _⟩ :=
            hnew t ht
          have hm' : a.achievedAt t.kind ticket = some m := by
            have hfound : a.ticketOf t = some ticket := by
              rw [SlaDb.ticketOf, htn]
              exact hticket
            have hm₀ : (a.ticketOf t).bind (a.achievedAt t.kind) = some m := hm
            rwa [hfound] at hm₀
          obtain ⟨hmem, hid, hptenant⟩ := h.ok.findPolicy_mem.mp hp
          obtain ⟨_, htid, _⟩ := TicketDb.findTicket_some hticket
          have hle := h.inTime.missing ticket (by rwa [htid]) (by rwa [htid]) t.kind
            (fun u hu heq => hmissing u hu (by rw [heq, htid, ← htn]; rfl))
            p minutes ⟨hptenant, .inl hmem⟩ hminutes m hm'
          show m ≤ a.deadline t + t.openPause now
          rw [t.openPause_of_not_paused hpausedAt, hdeadline, Int.add_zero]
          exact hle
      · intro ticket hticket hS kind hmissing
        exact h.inTime.missing ticket hticket hS kind fun t ht => hmissing t (List.mem_append_left _ ht)
    · intro ticketId hscope
      refine h.scope ticketId (SlaDb.InScope.before (fun t ht => ?_) hscope)
      rcases List.mem_append.mp ht with ht | ht
      · exact .inl ⟨t, ht, .refl t⟩
      · exact .inr (hnew t ht).2.2.2.1

theorem Settling.put (h : Settling a now tenantId scope S) (hw : Written w rows a b) {t t' : SlaTimer} (ht : t ∈ a.slaTimers) (hmove : TimerMove n t t')
    (htimers : b.slaTimers = (a.putTimer t').slaTimers) (hpolicies : b.slaPolicies = a.slaPolicies)
    (htickets : b.base.tickets = a.base.tickets)
    (hcancelled : t'.state = .cancelled → ∃ ticket, a.ticketOf t = some ticket ∧ ticket.status.isActive = false)
    (hmet : t'.state = .met → a.timerAchievedAt t ≠ none)
    (hlate : t'.state ≠ .breached → t.tenantId = tenantId ∧ S t.ticketId ∧ n = now) :
    Settling b now tenantId scope S := by
  have hsame := hmove.sameTarget
  have hpaused := h.ok.paused t ht
  have hreply : ∀ ticket, b.firstReplyOf ticket = a.firstReplyOf ticket := fun ticket => by
    simp only [SlaDb.firstReplyOf, SlaDb.firstReply, hw.messages_eq]
  have hachieved : ∀ u, b.timerAchievedAt u = a.timerAchievedAt u := hw.timerAchievedAt_eq
  have hachieved' : a.timerAchievedAt t' = a.timerAchievedAt t := by
    simp only [SlaDb.timerAchievedAt, SlaDb.ticketOf, hsame.tenantId, hsame.ticketId, hsame.kind]
  have hwindow : ∀ u, b.windowOf u = a.windowOf u := fun u => by
    simp only [SlaDb.windowOf, SlaDb.findPolicy, hpolicies]
  have hdeadline : ∀ u, b.deadline u = a.deadline u := fun u => by
    simp only [SlaDb.deadline, hwindow]
  have hdeadline' : a.deadline t' = a.deadline t - t.pausedMs + t'.pausedMs := by
    simp only [SlaDb.deadline, hmove.windowOf, hsame.startedAt]
    grind
  have hticketOf : ∀ u, b.ticketOf u = a.ticketOf u := fun u => by
    simp only [SlaDb.ticketOf, TicketDb.findTicket, htickets]
  have hforall : ∀ {P : SlaTimer → Prop}, (∀ u ∈ a.slaTimers, P u) → P t' → ∀ u ∈ b.slaTimers, P u := by
    intro P hP hP' u hu
    exact putTimer_forall hmove (fun u hu _ => hP u hu) hP' u (htimers ▸ hu)
  -- as of the transaction's `now()` the move neither grants nor takes any time
  have hintime : t'.state ≠ .breached → ∀ m, a.timerAchievedAt t = some m →
      m ≤ a.deadline t' + t'.openPause now := by
    intro hstate m hm
    obtain ⟨htenant, hS, rfl⟩ := hlate hstate
    have hle := h.inTime.live t ht htenant hS hmove.isMutable m hm
    have hpause := hmove.pausedMs hpaused
    rw [hdeadline']
    grind
  refine ⟨hw.ok h.ok, ?_, ?_, ?_⟩
  · constructor
    · refine hforall (fun u hu => by rw [hwindow]; exact h.settled.windowed u hu) ?_
      rw [hwindow, hmove.windowOf]
      exact h.settled.windowed t ht
    · refine hforall (fun u hu => by rw [hdeadline]; exact h.settled.accounted u hu) ?_
      intro hmet' hcancelled'
      have hbefore : t.dueAt = a.deadline t := by
        apply h.settled.accounted t ht
        · intro hstate
          have hmutable := hmove.isMutable
          simp [hstate, SlaTimerState.isMutable] at hmutable
        · intro hstate
          have hmutable := hmove.isMutable
          simp [hstate, SlaTimerState.isMutable] at hmutable
      have hdue := hmove.dueAt hmet' hcancelled'
      rw [hdeadline, hdeadline']
      grind
    · intro ticket hticket hresponded
      rw [hreply]
      exact h.settled.answered ticket (htickets ▸ hticket) hresponded
    · refine hforall (fun u hu => by rw [hachieved]; exact h.settled.met u hu) ?_
      rw [hachieved, hachieved']
      exact hmet
    · refine hforall (fun u hu => by rw [hticketOf]; exact h.settled.cancelled u hu) ?_
      rw [hticketOf]
      simp only [SlaDb.ticketOf, hsame.tenantId, hsame.ticketId]
      exact hcancelled
    · refine hforall (fun u hu => by rw [hachieved, hdeadline]; exact h.settled.late u hu) ?_
      intro hstate m hm
      rw [hachieved, hachieved'] at hm
      have hstopped : t'.pausedAt = none := by
        by_contra hne
        have hpaused' := (hmove.pausedAt_iff hpaused).mp hne
        rcases hstate with hs | hs <;> rw [hs] at hpaused' <;> cases hpaused'
      have hle := hintime (by rcases hstate with hs | hs <;> simp [hs]) m hm
      rw [t'.openPause_of_not_paused hstopped, Int.add_zero] at hle
      rwa [hdeadline]
  · constructor
    · refine hforall (fun u hu => by rw [hachieved, hdeadline]; exact h.inTime.live u hu) ?_
      intro _ _ hmutable m hm
      rw [hachieved, hachieved'] at hm
      rw [hdeadline]
      refine hintime ?_ m hm
      rintro hstate
      simp [hstate, SlaTimerState.isMutable] at hmutable
    · intro ticket hticket hS kind hmissing p minutes husable hminutes m hm
      have hticket' : a.base.findTicket tenantId ticket.id = some ticket := by
        simpa only [TicketDb.findTicket, htickets] using hticket
      refine h.inTime.missing ticket hticket' hS kind ?_ p minutes ?_ hminutes m ?_
      · intro u hu hkey
        obtain ⟨u', hu', hsame'⟩ := putTimer_timers h.ok ht hmove u hu
        refine hmissing u' (htimers ▸ hu') ?_
        rw [← hkey]
        simp only [SlaTimer.kindEntry, hsame'.tenantId, hsame'.ticketId, hsame'.kind]
      · simpa [SlaDb.Usable, SlaDb.policyTaken, hpolicies] using husable
      · cases kind with
        | firstResponse =>
          rw [← hm]
          simp only [SlaDb.achievedAt, hreply]
        | resolution => exact hm
  · intro ticketId hscope
    refine h.scope ticketId (SlaDb.InScope.before (fun u hu => .inl ?_) hscope)
    exact putTimer_timers_before ht hmove (htimers ▸ hu)

theorem SlaDb.Settled.achieved {db : SlaDb} (h : db.Settled) {t : SlaTimer}
    (hticket : db.ticketOf t = some ticket) (hrecorded : recordedAt t.kind ticket ≠ none) :
    db.timerAchievedAt t ≠ none := by
  have hmem := (TicketDb.findTicket_some hticket).1
  rw [SlaDb.timerAchievedAt, hticket, Option.bind_some]
  cases hkind : t.kind with
  | firstResponse =>
    rw [hkind] at hrecorded
    simpa [SlaDb.achievedAt] using h.answered ticket hmem hrecorded
  | resolution =>
    rw [hkind] at hrecorded
    exact hrecorded

theorem Settling.written (h : Settling a now tenantId scope S) (hbacked : a.Backed now tenantId scope w) (hw : Written w rows a b) :
    Settling b now tenantId scope S := by
  cases w with
  | stampFirstResponse tn ticketId respondedAt userId =>
    cases hw with
    | nothing => exact h
    | stamped _ _ _ _ _ t ht hunanswered =>
      refine h.of_same (.stamped tn ticketId respondedAt userId a t ht hunanswered) rfl rfl ?_
      intro ticket hticket hresponded
      obtain ⟨ticket₀, hticket₀, ⟨hp, rfl⟩ | ⟨_, rfl⟩⟩ := mem_updateWhere hticket
      · simp only [SlaDb.unanswered, decide_eq_true_eq] at hp
        exact hbacked ticket₀ hticket₀ hp.1 hp.2.1
      · exact h.settled.answered _ hticket₀ hresponded
  | createDefault => exact h.defaulted hw hbacked
  | createTimers => exact h.created hw hbacked
  | applyTransition tn timerId target n =>
    cases hw with
    | nothing => exact h
    | moved _ _ _ _ _ t t' hfind hmove hstate =>
      obtain ⟨rfl, rfl, htimer⟩ := hbacked
      obtain ⟨ht, hid, htenant⟩ := SlaDb.findTimer_some hfind
      obtain ⟨hscope, ticket, hticket, hmet, hcancelled⟩ := htimer t ht hid
      refine h.put (.moved tn timerId target n a t t' hfind hmove hstate) ht hmove rfl rfl rfl ?_ ?_ ?_
      · intro hstate'
        refine ⟨ticket, hticket, hcancelled ?_⟩
        rw [hstate'] at hstate
        cases target <;> first | rfl | cases hstate
      · intro hstate'
        refine h.settled.achieved hticket (hmet ?_)
        rw [hstate'] at hstate
        cases target <;> first | rfl | cases hstate
      · exact fun _ => ⟨htenant, h.scope _ hscope, rfl⟩
  | breach tn timerId n recipientUserIds =>
    cases hw with
    | nothing => exact h
    | breached _ _ _ _ _ t hfind hdue =>
      have ht := (SlaDb.findTimer_some hfind).1
      refine h.put (.breached tn timerId n recipientUserIds a t hfind hdue) ht (SlaTimer.breach_move hdue)
        rfl rfl rfl ?_ ?_ ?_
      · intro hstate
        cases hstate
      · intro hstate
        cases hstate
      · exact fun hstate => absurd rfl hstate

end Settling

section Remembers

variable {cond : SlaStmt → SlaDb → Prop} {effect : SlaStmt → SlaDb → SlaDb → Prop}
  {now : Millis} {tenantId ticketId : Uuid} {scope : SlaScope} {a b : SlaDb}

def Remembers (row : Ticket) (db : SlaDb) : Prop := ∃ t ∈ db.base.tickets, Evolves row t

def RemembersTimer (timer : SlaTimer) (db : SlaDb) : Prop := ∃ t ∈ db.slaTimers, SameTarget timer t

variable {row : Ticket}

theorem Remembers.later (h : Remembers row a) (hlater : a.Later b) : Remembers row b := by
  obtain ⟨t, ht, hev⟩ := h
  obtain ⟨t', ht', hev'⟩ := hlater.tickets t ht
  exact ⟨t', ht', hev.trans hev'⟩

theorem RemembersTimer.later (h : RemembersTimer timer a) (hlater : a.Later b) : RemembersTimer timer b := by
  obtain ⟨t, ht, hsame⟩ := h
  obtain ⟨t', ht', hsame'⟩ := hlater.timers t ht
  exact ⟨t', ht', hsame.trans hsame'⟩

theorem SlaDb.InScope.later (h : a.InScope tenantId scope ticketId) (hlater : a.Later b) :
    b.InScope tenantId scope ticketId := by
  cases scope with
  | ticket => exact h
  | timers =>
    obtain ⟨t, ht, htenant, hid, hticket⟩ := h
    obtain ⟨t', ht', hsame⟩ := hlater.timers t ht
    exact ⟨t', ht', hsame.tenantId.trans htenant, hsame.id.symm ▸ hid, hsame.ticketId.trans hticket⟩

theorem Remembers.find (h : Remembers row a) (ha : a.Ok) :
    ∃ t, a.base.findTicket row.tenantId row.id = some t ∧ Evolves row t := by
  obtain ⟨t, ht, hev⟩ := h
  refine ⟨t, ha.base.indexed.id.find?_eq_some (k := row.id) ht (decide_eq_true ⟨hev.id, hev.tenantId⟩) fun t' _ hp => ?_, hev⟩
  exact congrArg some (of_decide_eq_true hp).1

theorem Remembers.firstReplyOf (hreply : a.firstReplyOf row ≠ none) (hlater : a.Later b)
    {t : Ticket} (hev : Evolves row t) : b.firstReplyOf t ≠ none := by
  simp only [SlaDb.firstReplyOf, hev.conversationId, hev.tenantId, hev.createdAt] at hreply ⊢
  cases hconversation : row.conversationId with
  | none => simp [hconversation] at hreply
  | some =>
    rw [hconversation, Option.bind_some] at hreply
    rw [Option.bind_some]
    obtain ⟨m, hm, hanswers⟩ := firstReply_isSome_iff.mp hreply
    exact firstReply_isSome_iff.mpr ⟨m, hlater.messages m hm, hanswers⟩

end Remembers

end WhatsappCrm
