/-
Purpose: When a met timer was met in time.
-/
import WhatsappCrm.Sla.Deadline

namespace WhatsappCrm

open Interleaving Table

variable {t : Ticket} {tag : Stmt} {base : TicketDb}

section Justified

variable {cond : SlaStmt → SlaDb → Prop} {effect : SlaStmt → SlaDb → SlaDb → Prop}
  {now : Millis} {tenantId : Uuid} {scope : SlaScope} {db : SlaDb}

/-- The transaction body backs its writes from the view `db` on, and its answer satisfies `Q`. -/
abbrev Backs {α : Type} (cond : SlaStmt → SlaDb → Prop) (effect : SlaStmt → SlaDb → SlaDb → Prop)
    (now : Millis) (tenantId : Uuid) (scope : SlaScope) (Q : α → SlaDb → Prop) (db : SlaDb) (p : SlaTx α) : Prop :=
  p.Justified slaWrites (slaRely cond effect) (SlaDb.Backed now tenantId scope) Q db

theorem Backs.bind {α β : Type} {Q : α → SlaDb → Prop} {R : β → SlaDb → Prop} {p : SlaTx α} {f : α → SlaTx β}
    (h : Backs cond effect now tenantId scope Q db p)
    (hf : ∀ a v, db.Later v → Q a v → Backs cond effect now tenantId scope R v (f a)) :
    Backs cond effect now tenantId scope R db (p.bind f) :=
  Tx.Justified.bind slaRely_sound slaWrites_sound h hf

/-- Where the answer of `stampFirstResponse` is a moment, the row records one. -/
def Responded (row : Ticket) (firstRespondedAt : Option Millis) (db : SlaDb) : Prop :=
  firstRespondedAt ≠ none → ∃ t ∈ db.base.tickets, Evolves row t ∧ t.firstRespondedAt ≠ none

variable {row : Ticket} {firstRespondedAt : Option Millis} {a b : SlaDb} {timers : List SlaTimer}

theorem Responded.later (h : Responded row firstRespondedAt a) (hlater : a.Later b) : Responded row firstRespondedAt b := by
  intro hne
  obtain ⟨t, ht, hev, hresponded⟩ := h hne
  obtain ⟨t', ht', hev'⟩ := hlater.tickets t ht
  refine ⟨t', ht', hev.trans hev', ?_⟩
  rwa [hev'.firstRespondedAt hresponded]

theorem stampFirstResponse_justified (hrow : Remembers row db) (htenant : row.tenantId = tenantId) :
    Backs cond effect now tenantId scope (Responded row) db (stampFirstResponse tenantId row) := by
  simp only [stampFirstResponse]
  split
  · rename_i respondedAt hresponded
    intro _
    obtain ⟨t, ht, hev⟩ := hrow
    refine ⟨t, ht, hev, ?_⟩
    rw [hev.firstRespondedAt (by simp [hresponded]), hresponded]
    simp
  · exact fun h => absurd rfl h
  · rename_i conversationId _ hconversation
    intro v hv _
    dsimp only
    cases hreply : v.firstReply tenantId conversationId row.createdAt with
    | none => exact fun h => absurd rfl h
    | some reply =>
      have hreplied : v.firstReplyOf row ≠ none := by
        simp [SlaDb.firstReplyOf, hconversation, htenant, hreply]
      refine ⟨?_, ?_⟩
      · intro v' hv' hok t ht _ hid
        obtain ⟨t', ht', hev⟩ := (hrow.later hv).later hv'
        rw [hok.base.indexed.eq_of_id ht ht' (hid.trans hev.id.symm)]
        exact Remembers.firstReplyOf hreplied hv' hev
      · intro v' rows v'' hv' hok happly _
        have hrow' := (hrow.later hv).later hv'
        obtain ⟨t, ht, hev⟩ := hrow'
        have hwrite : SlaWrite.apply (.stampFirstResponse tenantId row.id reply.sentAt reply.senderUserId) v' =
            .ok (rows, v'') := happly
        have hwritten := SlaWrite.written hwrite
        obtain ⟨t'', ht'', hev''⟩ := (hwritten.later hok).tickets t ht
        refine ⟨t'', ht'', hev.trans hev'', ?_⟩
        -- either the row has a response already, or this write gives it one
        cases hnone : t.firstRespondedAt with
        | some =>
          rw [hev''.firstRespondedAt (by simp [hnone]), hnone]
          simp
        | none =>
          have hunanswered : SlaDb.unanswered tenantId row.id t = true := by
            simp [SlaDb.unanswered, hev.id, hev.tenantId, htenant, hnone]
          have hany : v'.base.tickets.any (SlaDb.unanswered tenantId row.id) = true :=
            List.any_eq_true.mpr ⟨t, ht, hunanswered⟩
          have heq : v'.stampFirstResponse tenantId row.id reply.sentAt reply.senderUserId = (rows, v'') := by
            simpa only [SlaWrite.apply, Except.ok.injEq] using hwrite
          have hok'' := hwritten.ok hok
          have hmem : (if SlaDb.unanswered tenantId row.id t = true then
              { t with firstRespondedAt := some reply.sentAt, firstResponseUserId := reply.senderUserId }
              else t) ∈ v''.base.tickets := by
            simp only [SlaDb.stampFirstResponse, hany, if_true, Prod.mk.injEq] at heq
            rw [← heq.2]
            exact mem_updateWhere_of_mem ht
          rw [if_pos hunanswered] at hmem
          rw [hok''.base.indexed.eq_of_id ht'' hmem hev''.id]
          simp

def Held (tenantId : Uuid) (policy : Option SlaPolicy) (db : SlaDb) : Prop :=
  ∀ p ∈ policy, p ∈ db.slaPolicies ∧ p.tenantId = tenantId

theorem Held.later {policy : Option SlaPolicy} (h : Held tenantId policy a) (hlater : a.Later b) :
    Held tenantId policy b :=
  fun p hp => ⟨hlater.policies p (h p hp).1, (h p hp).2⟩

theorem firstBy_resolve (h : resolvePolicyForPriority policies priority = some p) : p ∈ policies := by
  have hfilter : ∀ q : SlaPolicy → Bool, firstBy SlaPolicy.oldestFirst ((policies.filter (·.isActive)).filter q) =
      some p → p ∈ policies := by
    intro q hq
    exact (List.mem_filter.mp (List.mem_filter.mp (firstBy_mem hq)).1).1
  simp only [resolvePolicyForPriority] at h
  split at h
  · rename_i policy hpolicy
    cases h
    exact hfilter _ hpolicy
  · exact hfilter _ h

theorem resolveForTicket_justified (policyId : Uuid) (priority : TicketPriority) :
    Backs cond effect now tenantId scope (Held tenantId) db (resolveForTicket tenantId policyId now priority) := by
  simp only [resolveForTicket, Tx.bind_def, Tx.bind_query]
  intro v _ _
  dsimp only
  split
  · refine ⟨fun _ _ _ => ⟨policyId, rfl⟩, ?_⟩
    intro v' rows v'' _ _ happly p hp
    rw [← Option.mem_some_iff.mp hp]
    cases (ok_of_ite happly).2
    exact ⟨List.mem_concat_self, rfl⟩
  · intro p hp
    have hmem := firstBy_resolve (Option.mem_def.mp hp)
    simpa [SlaDb.policiesOf] using hmem

theorem policyForTicket_justified (policyId : Uuid) (row : Ticket) (timers : List SlaTimer) :
    Backs cond effect now tenantId scope (Held tenantId) db (policyForTicket tenantId policyId now row timers) := by
  simp only [policyForTicket]
  split
  · exact resolveForTicket_justified policyId row.priority
  · rename_i timer _
    intro v _ hok p hp
    obtain ⟨hmem, _, htenant⟩ := hok.findPolicy_mem.mp (Option.mem_def.mp hp)
    exact ⟨hmem, htenant⟩

theorem mem_missingTimers {ids : NewIds} {held : List SlaTargetKind} {policy : SlaPolicy}
    {data : SlaTimerCreate} (h : data ∈ missingTimers tenantId ids row held policy) :
    ∃ kind minutes, policy.windowFor kind = some minutes ∧
      data = timerData tenantId ids row policy.id kind minutes := by
  simp only [missingTimers, List.mem_filterMap] at h
  obtain ⟨kind, _, hkind⟩ := h
  split at hkind
  · cases hkind
  · obtain ⟨minutes, hminutes, rfl⟩ := Option.map_eq_some_iff.mp hkind
    exact ⟨kind, minutes, hminutes, rfl⟩

theorem createMissingTimers_justified (ids : NewIds) (timers : List SlaTimer)
    (hrow : Remembers row db) (htenant : row.tenantId = tenantId) (hscope : db.InScope tenantId scope row.id) :
    Backs cond effect now tenantId scope (fun _ _ => True) db (createMissingTimers tenantId ids now row timers) := by
  refine (policyForTicket_justified ids.policyId row timers).bind fun policy v hv hheld => ?_
  split
  · trivial
  · rename_i policy
    split
    · trivial
    · refine ⟨?_, fun _ _ _ _ _ _ => trivial⟩
      intro v' hv' hok data hdata
      obtain ⟨kind, minutes, hminutes, rfl⟩ := mem_missingTimers hdata
      obtain ⟨t, hfind, hev⟩ := ((hrow.later hv).later hv').find hok
      obtain ⟨hmem, hptenant⟩ := hheld.later hv' policy rfl
      rw [htenant] at hfind
      refine ⟨rfl, (hscope.later hv).later hv', t, policy, minutes, hfind, ?_, ?_, hminutes, ?_⟩
      · exact hev.createdAt.symm
      · exact hok.findPolicy_mem.mpr ⟨hmem, rfl, hptenant⟩
      · simp only [timerData, SlaDb.windowEnd, hev.createdAt]

def ReadFor (tenantId : Uuid) (row : Ticket) (timers : List SlaTimer) (db : SlaDb) : Prop :=
  ∀ timer ∈ timers, RemembersTimer timer db ∧ timer.tenantId = tenantId ∧ timer.ticketId = row.id

theorem ReadFor.later (h : ReadFor tenantId row timers a) (hlater : a.Later b) : ReadFor tenantId row timers b :=
  fun timer htimer => ⟨(h timer htimer).1.later hlater, (h timer htimer).2⟩

theorem readFor_timersOf : ReadFor tenantId row (db.timersOf tenantId row.id) db := by
  intro timer htimer
  simp only [SlaDb.timersOf, List.mem_filter, decide_eq_true_eq] at htimer
  exact ⟨⟨timer, htimer.1, .refl timer⟩, htimer.2.2, htimer.2.1⟩

theorem slaTimerTargetFor_backed (kind : SlaTargetKind) (hok : db.Ok) (hev : Evolves row t) (ht : t ∈ db.base.tickets)
    (hresponded : Responded row firstRespondedAt db) :
    (slaTimerTargetFor kind row.status firstRespondedAt row.resolvedAt = .met → recordedAt kind t ≠ none) ∧
      (slaTimerTargetFor kind row.status firstRespondedAt row.resolvedAt = .cancelled →
        t.status.isActive = false) := by
  constructor
  · intro htarget
    have hne := slaTimerTargetFor_eq_met.mp htarget
    cases kind with
    | firstResponse =>
      obtain ⟨t', ht', hev', hrecorded⟩ := hresponded hne
      rw [hok.base.indexed.eq_of_id ht ht' (hev.id.trans hev'.id.symm)]
      exact hrecorded
    | resolution =>
      show t.resolvedAt ≠ none
      rwa [hev.resolvedAt hne]
  · exact fun htarget => hev.inactive (slaTimerTargetFor_cancelled htarget)

theorem moveTimer_justified {timer : SlaTimer} (hrow : Remembers row db) (htenant : row.tenantId = tenantId) (hscope : db.InScope tenantId scope row.id)
    (hresponded : Responded row firstRespondedAt db) (htimer : RemembersTimer timer db)
    (htn : timer.tenantId = tenantId) (htk : timer.ticketId = row.id) :
    Backs cond effect now tenantId scope (fun _ _ => True) db (moveTimer tenantId now timer
      (slaTimerTargetFor timer.kind row.status firstRespondedAt row.resolvedAt)) := by
  simp only [moveTimer]
  split
  · trivial
  · refine ⟨?_, fun _ _ _ _ _ _ => trivial⟩
    intro v hv hok
    refine ⟨rfl, rfl, ?_⟩
    intro t ht hid
    obtain ⟨t', ht', hsame⟩ := htimer.later hv
    obtain rfl : t = t' := hok.eq_of_id ht ht' (hid.trans hsame.id.symm)
    obtain ⟨ticket, hticket, hev⟩ := (hrow.later hv).find hok
    have hmem := (TicketDb.findTicket_some hticket).1
    obtain ⟨hmet, hcancelled⟩ := slaTimerTargetFor_backed timer.kind hok hev hmem (hresponded.later hv)
    refine ⟨?_, ticket, ?_, ?_, hcancelled⟩
    · rw [hsame.ticketId, htk]
      exact hscope.later hv
    · rw [SlaDb.ticketOf, hsame.tenantId, hsame.ticketId, htn, htk, ← htenant]
      exact hticket
    · rw [hsame.kind]
      exact hmet

theorem moveTimers_justified (hrow : Remembers row db) (htenant : row.tenantId = tenantId) (hscope : db.InScope tenantId scope row.id)
    (hresponded : Responded row firstRespondedAt db) (htimers : ReadFor tenantId row timers db) :
    Backs cond effect now tenantId scope (fun _ _ => True) db (moveTimers tenantId now row firstRespondedAt timers) := by
  induction timers generalizing db with
  | nil => trivial
  | cons timer timers ih =>
    obtain ⟨htimer, htn, htk⟩ := htimers timer List.mem_cons_self
    have hrest : ReadFor tenantId row timers db := fun u hu => htimers u (List.mem_cons_of_mem _ hu)
    simp only [moveTimers]
    split
    · refine (moveTimer_justified hrow htenant hscope hresponded htimer htn htk).bind fun _ v hv _ => ?_
      exact (ih (hrow.later hv) (hscope.later hv) (hresponded.later hv) (hrest.later hv)).bind fun _ _ _ _ => trivial
    · exact ih hrow hscope hresponded hrest

theorem reconcileTimers_justified (reread : Bool) (hrow : Remembers row db) (htenant : row.tenantId = tenantId)
    (hscope : db.InScope tenantId scope row.id) (hresponded : Responded row firstRespondedAt db)
    (htimers : ReadFor tenantId row timers db) : Backs cond effect now tenantId scope (fun _ _ => True) db
      (reconcileTimers tenantId now row timers firstRespondedAt reread) := by
  simp only [reconcileTimers, Tx.bind_def]
  split
  · intro v hv _
    exact moveTimers_justified (hrow.later hv) htenant (hscope.later hv) (hresponded.later hv) readFor_timersOf
  · exact moveTimers_justified hrow htenant hscope hresponded htimers

theorem reconcile_justified (ids : NewIds) (ticketId : Uuid) (hscope : db.InScope tenantId scope ticketId) :
    Backs cond effect now tenantId scope (fun _ _ => True) db (reconcile tenantId ids now ticketId) := by
  simp only [reconcile, Tx.bind_def, Tx.bind_query]
  intro v hv _
  dsimp only
  split
  · trivial
  · rename_i row hrow
    obtain ⟨hmem, hid, htenant⟩ := TicketDb.findTicket_some hrow
    subst hid
    have hremembers : Remembers row v := ⟨row, hmem, .refl row⟩
    intro v₁ hv₁ _
    have hscope₁ := (hscope.later hv).later hv₁
    refine (stampFirstResponse_justified (hremembers.later hv₁) htenant).bind ?_
    intro firstRespondedAt v₂ hv₂ hresponded
    refine (createMissingTimers_justified ids _ ((hremembers.later hv₁).later hv₂) htenant (hscope₁.later hv₂)).bind ?_
    intro created v₃ hv₃ _
    refine (reconcileTimers_justified _ (((hremembers.later hv₁).later hv₂).later hv₃) htenant
      ((hscope₁.later hv₂).later hv₃) (hresponded.later hv₃)
      ((readFor_timersOf.later hv₂).later hv₃)).bind fun _ _ _ _ => trivial

theorem reconcileAll_justified (ids : Uuid → NewIds) {ticketIds : List Uuid}
    (hscope : ∀ ticketId ∈ ticketIds, db.InScope tenantId scope ticketId) :
    Backs cond effect now tenantId scope (fun _ _ => True) db (reconcileAll tenantId ids now ticketIds) := by
  induction ticketIds generalizing db with
  | nil => trivial
  | cons ticketId ticketIds ih =>
    refine (reconcile_justified (ids ticketId) ticketId (hscope ticketId List.mem_cons_self)).bind ?_
    intro _ v hv _
    exact ih fun id hid => (hscope id (List.mem_cons_of_mem _ hid)).later hv

theorem dueTickets_inScope {timerIds : List Uuid} {ticketId : Uuid}
    (h : ticketId ∈ db.dueTickets tenantId timerIds now) : db.InScope tenantId (.timers timerIds) ticketId := by
  simp only [SlaDb.dueTickets, List.mem_insertionSort, List.mem_dedup, List.mem_map, SlaDb.dueTimers,
    List.mem_filter, decide_eq_true_eq] at h
  obtain ⟨t, ⟨ht, htenant, hid, _⟩, rfl⟩ := h
  exact ⟨t, ht, htenant, by simpa using hid, rfl⟩

theorem resolveRecipients_justified {β : Type} {Q : β → SlaDb → Prop} {f : List Uuid → SlaTx β}
    (hf : ∀ recipientUserIds v, Backs cond effect now tenantId scope Q v (f recipientUserIds)) :
    Backs cond effect now tenantId scope Q db ((resolveRecipients tenantId candidates ticket).bind f) := by
  simp only [resolveRecipients]
  split
  · exact hf _ _
  · split
    · exact hf _ _
    · exact fun v _ _ => hf _ v

theorem breachTimer_justified (timerIds : List Uuid) (candidates : List AlertCandidate) (timer : SlaTimer) :
    Backs cond effect now tenantId (.timers timerIds) (fun _ _ => True) db
      (breachTimer tenantId now candidates timer) := by
  simp only [breachTimer, Tx.bind_def, Tx.bind_query]
  intro v _ _
  dsimp only
  split
  · exact ⟨fun _ _ _ => ⟨timerIds, rfl⟩, fun _ _ _ _ _ _ => trivial⟩
  · refine resolveRecipients_justified fun recipientUserIds v' => ?_
    refine ⟨fun _ _ _ => ⟨timerIds, rfl⟩, fun _ rows _ _ _ _ => ?_⟩
    simp only [Tx.bind_pure_left]
    split <;> trivial

theorem breachAll_justified (timerIds : List Uuid) (candidates : List AlertCandidate) (timers : List SlaTimer) :
    Backs cond effect now tenantId (.timers timerIds) (fun _ _ => True) db
      (breachAll tenantId now candidates timers) := by
  induction timers generalizing db with
  | nil => trivial
  | cons timer timers ih =>
    exact (breachTimer_justified timerIds candidates timer).bind fun _ _ _ _ => ih.bind fun _ _ _ _ => trivial

theorem claimAndAlert_justified (ids : Uuid → NewIds) (timerIds skipped : List Uuid) :
    Backs cond effect now tenantId (.timers timerIds) (fun _ _ => True) db
      (claimAndAlert tenantId ids now timerIds skipped) := by
  simp only [claimAndAlert, reconcileDueTickets, claim, Tx.bind_def, Tx.bind_query]
  intro v _ _
  refine (reconcileAll_justified ids fun _ hid => dueTickets_inScope hid).bind fun _ v₁ _ _ => ?_
  intro v₂ _ _
  dsimp only
  split
  · trivial
  · exact fun v₃ _ _ => breachAll_justified _ _ _

end Justified

theorem Message.earlier_le {a b : Message} (h : a.earlier b = true) : a.sentAt ≤ b.sentAt := by
  simp only [earlier, decide_eq_true_eq] at h
  rcases h with h | ⟨h, _⟩
  · exact Int.le_of_lt h
  · exact Int.le_of_eq h

theorem Message.le_of_not_earlier {a b : Message} (h : a.earlier b = false) : b.sentAt ≤ a.sentAt := by
  simp only [earlier, decide_eq_false_iff_not, not_or] at h
  exact Int.not_lt.mp h.1

theorem firstReplyOf_send {db : SlaDb}
    (h : (db.withBase { db.base with messages := db.base.messages ++ [message] }).firstReplyOf ticket = some r) :
    (∃ r₀, db.firstReplyOf ticket = some r₀ ∧ r.sentAt ≤ r₀.sentAt) ∨
      (db.firstReplyOf ticket = none ∧ r = message ∧ ∃ conversationId, ticket.conversationId = some conversationId ∧
        message.answers ticket.tenantId conversationId ticket.createdAt = true) := by
  simp only [SlaDb.firstReplyOf] at h ⊢
  cases hconversation : ticket.conversationId with
  | none => simp [hconversation] at h
  | some conversationId =>
    rw [hconversation, Option.bind_some] at h
    rw [Option.bind_some]
    have hmem := List.mem_filter.mp (firstBy_mem h)
    cases hbefore : db.firstReply ticket.tenantId conversationId ticket.createdAt with
    | some r₀ =>
      have hmem₀ := List.mem_filter.mp (firstBy_mem hbefore)
      refine .inl ⟨r₀, rfl, ?_⟩
      exact firstBy_le Message.sentAt (fun _ _ => Message.earlier_le)
        (fun _ _ => Message.le_of_not_earlier) h
        (List.mem_filter.mpr ⟨List.mem_append_left _ hmem₀.1, hmem₀.2⟩)
    | none =>
      have hnone : ¬ ∃ m ∈ db.base.messages, m.answers ticket.tenantId conversationId ticket.createdAt = true :=
        fun hex => firstReply_isSome_iff.mpr hex hbefore
      rcases mem_snoc.mp hmem.1 with hold | hnew
      · exact absurd ⟨r, hold, hmem.2⟩ hnone
      · have heq := hnew
        subst heq
        exact .inr ⟨rfl, rfl, conversationId, rfl, hmem.2⟩

theorem firstReplyOf_send_ne_none {db : SlaDb} (message : Message) (h : db.firstReplyOf ticket ≠ none) :
    (db.withBase { db.base with messages := db.base.messages ++ [message] }).firstReplyOf ticket ≠ none := by
  simp only [SlaDb.firstReplyOf] at h ⊢
  cases hconversation : ticket.conversationId with
  | none => simp [hconversation] at h
  | some =>
    rw [hconversation, Option.bind_some] at h
    rw [Option.bind_some]
    obtain ⟨m, hm, hanswers⟩ := firstReply_isSome_iff.mp h
    exact firstReply_isSome_iff.mpr ⟨m, List.mem_append_left _ hm, hanswers⟩

/-- The condition on a commit: no target of its tickets was achieved too late for a live or missing timer, and no
    reply that is too late reaches a ticket whose first-response timer was cancelled unanswered. -/
def Punctual : SlaStmt → SlaDb → Prop
  | .commit now tenantId scope, db => InTime db now tenantId (db.InScope tenantId scope)
  | .sendMessage message, db => ∀ t ∈ db.slaTimers, t.state = .cancelled → t.kind = .firstResponse →
      ∀ ticket, db.ticketOf t = some ticket → db.firstReplyOf ticket = none →
        ∀ conversationId, ticket.conversationId = some conversationId →
          message.answers ticket.tenantId conversationId ticket.createdAt = true → message.sentAt ≤ db.deadline t
  | _, _ => True

abbrev PunctualRun (db : SlaDb) (s : SlaSys) : Prop :=
  Reachable slaProgram (fun s _ tag => Punctual tag s.db) (.idle db) s

theorem SlaDb.Settled.send {db : SlaDb} (h : db.Settled) (hcond : Punctual (.sendMessage message) db) :
    (db.withBase { db.base with messages := db.base.messages ++ [message] }).Settled where
  windowed := h.windowed
  accounted := h.accounted
  answered ticket hticket hresponded := firstReplyOf_send_ne_none message (h.answered ticket hticket hresponded)
  met t ht hmet := by
    have hbefore := h.met t ht hmet
    cases hticket : db.ticketOf t with
    | none => simp [SlaDb.timerAchievedAt, hticket] at hbefore
    | some ticket =>
      simp only [SlaDb.timerAchievedAt, hticket, Option.bind_some] at hbefore
      show (db.ticketOf t).bind _ ≠ none
      rw [hticket, Option.bind_some]
      cases hkind : t.kind with
      | firstResponse =>
        rw [hkind] at hbefore
        have hreply := firstReplyOf_send_ne_none message
          (show db.firstReplyOf ticket ≠ none by simpa [SlaDb.achievedAt] using hbefore)
        simpa [SlaDb.achievedAt] using hreply
      | resolution =>
        rw [hkind] at hbefore
        exact hbefore
  cancelled := h.cancelled
  late t ht hstate m hm := by
    cases hticket : db.ticketOf t with
    | none =>
      have hnone : (db.ticketOf t).bind ((db.withBase
          { db.base with messages := db.base.messages ++ [message] }).achievedAt t.kind) = some m := hm
      simp [hticket] at hnone
    | some ticket =>
      have hm' : (db.withBase { db.base with messages := db.base.messages ++ [message] }).achievedAt t.kind ticket =
          some m := by
        have h₀ : (db.ticketOf t).bind ((db.withBase
            { db.base with messages := db.base.messages ++ [message] }).achievedAt t.kind) = some m := hm
        rwa [hticket] at h₀
      show m ≤ db.deadline t
      have hlate : ∀ m₀, db.achievedAt t.kind ticket = some m₀ → m₀ ≤ db.deadline t := fun m₀ hm₀ =>
        h.late t ht hstate m₀ (by rw [SlaDb.timerAchievedAt, hticket, Option.bind_some, hm₀])
      cases hkind : t.kind with
      | resolution =>
        rw [hkind] at hm' hlate
        exact hlate m hm'
      | firstResponse =>
        rw [hkind] at hm' hlate
        obtain ⟨r, hr, rfl⟩ := Option.map_eq_some_iff.mp hm'
        rcases firstReplyOf_send hr with ⟨r₀, hr₀, hle⟩ | ⟨hnone, rfl, conversationId, hconversation, hanswers⟩
        · exact Int.le_trans hle (hlate r₀.sentAt (by simp [SlaDb.achievedAt, hr₀]))
        · rcases hstate with hmet | hcancelled
          · have hne := h.met t ht hmet
            simp [SlaDb.timerAchievedAt, hticket, hkind, SlaDb.achievedAt, hnone] at hne
          · exact hcond t ht hcancelled hkind ticket hticket hnone conversationId hconversation hanswers

theorem RowMove.firstRespondedAt_eq {now : Millis} (h : RowMove now tag t t') :
    t'.firstRespondedAt = t.firstRespondedAt := by
  cases h <;> rfl

def SlaDb.Answered (db : SlaDb) : Prop :=
  ∀ ticket ∈ db.base.tickets, ticket.firstRespondedAt ≠ none → db.firstReplyOf ticket ≠ none

theorem Effect.firstReplyOf_eq {db : SlaDb} (heffect : Effect tag db.base base)
    (hev : Evolves t t') : (db.withBase base).firstReplyOf t' = db.firstReplyOf t := by
  simp only [SlaDb.firstReplyOf, SlaDb.firstReply, SlaDb.withBase, heffect.messages_eq, hev.conversationId,
    hev.tenantId, hev.createdAt]

theorem Effect.answered {db : SlaDb} (heffect : Effect tag db.base base)
    (hdb : db.Ok) (h : db.Answered) : (db.withBase base).Answered := by
  intro ticket' hticket' hresponded
  rcases heffect.row_before hticket' with ⟨ticket, hticket, rfl | hmove⟩ | ⟨tenantId, target, ticketId, _, rfl⟩
  · rw [heffect.firstReplyOf_eq (.refl _)]
    exact h _ hticket hresponded
  · rw [heffect.firstReplyOf_eq (hmove.stamped (hdb.base.stamped ticket hticket)).2]
    exact h ticket hticket (hmove.firstRespondedAt_eq ▸ hresponded)
  · exact absurd rfl hresponded

theorem SlaDb.Settled.ticket {db : SlaDb} (heffect : Effect tag db.base base)
    (hdb : db.Ok) (h : db.Settled) : (db.withBase base).Settled := by
  have hok := heffect.withBase_ok hdb
  have hlater := heffect.withBase_later hdb
  have hfind : ∀ {t : SlaTimer} {ticket : Ticket}, db.ticketOf t = some ticket →
      ∃ ticket', (db.withBase base).ticketOf t = some ticket' ∧ Evolves ticket ticket' := by
    intro t ticket hticket
    obtain ⟨hmem, hid, htenant⟩ := TicketDb.findTicket_some hticket
    obtain ⟨ticket', hticket', hev⟩ := Remembers.find ⟨ticket, hmem, .refl ticket⟩ hdb
    have hremembers : Remembers ticket (db.withBase base) := Remembers.later ⟨ticket, hmem, .refl ticket⟩ hlater
    obtain ⟨ticket'', hticket'', hev''⟩ := hremembers.find hok
    exact ⟨ticket'', by rw [SlaDb.ticketOf, ← hid, ← htenant]; exact hticket'', hev''⟩
  -- a stopped timer's target stays where it is
  have hstopped : ∀ t ∈ db.slaTimers, t.state = .met ∨ t.state = .cancelled →
      (db.withBase base).timerAchievedAt t = db.timerAchievedAt t := by
    intro t ht hstate
    have hsame : ∀ ticket, db.ticketOf t = some ticket → (t.kind = .resolution → ticket.resolvedAt = none →
        ticket.status.isActive = false) → (db.withBase base).timerAchievedAt t = db.timerAchievedAt t := by
      intro ticket hticket hinactive
      obtain ⟨ticket', hticket', hev⟩ := hfind hticket
      rw [SlaDb.timerAchievedAt, hticket', SlaDb.timerAchievedAt, hticket, Option.bind_some, Option.bind_some]
      cases hkind : t.kind with
      | firstResponse => simp only [SlaDb.achievedAt, heffect.firstReplyOf_eq hev]
      | resolution =>
        show ticket'.resolvedAt = ticket.resolvedAt
        cases hresolved : ticket.resolvedAt with
        | some => rw [hev.resolvedAt (by simp [hresolved]), hresolved]
        | none => rw [hev.settled (hinactive hkind hresolved), hresolved]
    rcases hstate with hmet | hcancelled
    · have hne := h.met t ht hmet
      cases hticket : db.ticketOf t with
      | none => simp [SlaDb.timerAchievedAt, hticket] at hne
      | some ticket =>
        refine hsame ticket hticket fun hkind hnone => ?_
        simp [SlaDb.timerAchievedAt, hticket, hkind, SlaDb.achievedAt, hnone] at hne
    · obtain ⟨ticket, hticket, hinactive⟩ := h.cancelled t ht hcancelled
      exact hsame ticket hticket fun _ _ => hinactive
  constructor
  · exact h.windowed
  · exact h.accounted
  · exact heffect.answered hdb h.answered
  · intro t ht hmet
    rw [hstopped t ht (.inl hmet)]
    exact h.met t ht hmet
  · intro t ht hcancelled
    obtain ⟨ticket, hticket, hinactive⟩ := h.cancelled t ht hcancelled
    obtain ⟨ticket', hticket', hev⟩ := hfind hticket
    exact ⟨ticket', hticket', hev.inactive hinactive⟩
  · intro t ht hstate m hm
    rw [hstopped t ht hstate] at hm
    exact h.late t ht hstate m hm

/-- A statement that meets the condition keeps the timers in agreement with their deadlines. -/
def keepsSettled (_ : SlaStmt) (a b : SlaDb) : Prop := a.Settled → b.Settled

theorem punctual_shows : Shows Punctual keepsSettled SlaDb.Backed where
  same _ _ h := h
  ticket _ _ _ hdb heffect h := h.ticket heffect hdb
  sent _ _ _ hcond h := h.send hcond
  commit now tenantId scope ws a b ha hcond hjust happly h := by
    have hstart : Settling a now tenantId scope (a.InScope tenantId scope) :=
      { ok := ha, settled := h, inTime := hcond, scope := fun _ hscope => hscope }
    have hend := applyAll_keeps (K := fun x => Settling x now tenantId scope (a.InScope tenantId scope))
      (fun w x rows y hx hbacked hw => hx.written hbacked (SlaWrite.written hw)) hjust hstart happly
    exact hend.settled

theorem punctual_guards (call : SlaCall) (db : SlaDb) :
    Prog.Guards (slaRely Punctual keepsSettled) db (slaProgram call) :=
  slaProgram_guards punctual_shows (fun _ ids _ ticketId _ => reconcile_justified ids ticketId rfl)
    (fun _ ids _ timerIds skipped _ => claimAndAlert_justified ids timerIds skipped) call db

def metTimer : SlaTimer :=
  { id := 2
    tenantId := 1
    ticketId := 1
    policyId := 3
    kind := .firstResponse
    state := .met
    startedAt := 0
    dueAt := 3600000
    stoppedAt := some 2700000 }

/-- The open ticket at a quarter to the hour, answered by the agent a minute before, with its timer stopped. -/
def answeredInTime : SlaDb :=
  { base :=
      { oneOpenTicket with
        now := 2700000
        tickets := [{ id := 1, tenantId := 1, number := 1, conversationId := some 1, contactId := some 1,
                      createdAt := 0, firstRespondedAt := some 2640000, firstResponseUserId := some 4 }]
        messages := [{ id := 5, tenantId := 1, conversationId := 1, direction := .outbound,
                       senderUserId := some 4, sentAt := 2640000 }] }
    slaTimers := [metTimer]
    slaPolicies := [defaultPolicy 1 3 0] }

theorem answeredInTime_ok : answeredInTime.Ok where
  base :=
    { indexed := show Indexed answeredInTime.base.tickets by decide
      numbered := by
        intro t ht
        rw [List.mem_singleton.mp ht]
        exact ⟨2, by decide⟩
      stamped := by
        intro t ht
        rw [List.mem_singleton.mp ht]
        exact .fresh rfl rfl rfl rfl }
  id := show UniqueBy SlaTimer.idEntry answeredInTime.slaTimers by decide
  kind := show UniqueBy SlaTimer.kindEntry answeredInTime.slaTimers by decide
  policy := show UniqueBy SlaPolicy.idEntry answeredInTime.slaPolicies by decide
  alert := show UniqueBy SlaAlert.recipientEntry answeredInTime.slaAlerts by decide
  paused := by decide
  once := by decide
  breached key := by simp [answeredInTime, metTimer, SlaDb.breachKeys, oneOpenTicket]

theorem answeredInTime_settled : answeredInTime.Settled where
  windowed := by decide
  accounted := by decide
  answered := by decide
  met := by decide
  cancelled t ht hstate := by
    rw [List.mem_singleton.mp ht] at hstate
    cases hstate
  late t ht _ m hm := by
    rw [List.mem_singleton.mp ht] at hm ⊢
    have hachieved : answeredInTime.timerAchievedAt metTimer = some 2640000 := by decide
    rw [hachieved] at hm
    cases hm
    decide

/-- The open ticket a minute after its deadline: unanswered, and no sweep has run yet. -/
def overdueUnswept : SlaDb :=
  { base := { oneOpenTicket with now := 3660000 }
    slaTimers := [{ id := 2, tenantId := 1, ticketId := 1, policyId := 3, kind := .firstResponse,
                    startedAt := 0, dueAt := 3600000 }]
    slaPolicies := [defaultPolicy 1 3 0] }

theorem overdueUnswept_ok : overdueUnswept.Ok where
  base := { oneOpenTicket_ok with }
  id := show UniqueBy SlaTimer.idEntry overdueUnswept.slaTimers by decide
  kind := show UniqueBy SlaTimer.kindEntry overdueUnswept.slaTimers by decide
  policy := show UniqueBy SlaPolicy.idEntry overdueUnswept.slaPolicies by decide
  alert := show UniqueBy SlaAlert.recipientEntry overdueUnswept.slaAlerts by decide
  paused := by decide
  once := by decide
  breached key := by simp [overdueUnswept, SlaDb.breachKeys, oneOpenTicket]

theorem overdueUnswept_settled : overdueUnswept.Settled where
  windowed := by decide
  accounted := by decide
  answered := by decide
  met := by decide
  cancelled t ht hstate := by
    rw [List.mem_singleton.mp ht] at hstate
    cases hstate
  late t ht hstate := by
    rw [List.mem_singleton.mp ht] at hstate
    rcases hstate with h | h <;> cases h

def lateReply : Message :=
  { id := 5
    tenantId := 1
    conversationId := 1
    direction := .outbound
    senderUserId := some 4
    sentAt := 0 }

/-- The agent answers, and the evaluation of the answer runs before the next sweep. -/
def lateReplySchedule : List (Move SlaCall) :=
  [.spawn (.send lateReply), .step 0, .step 0,
    .spawn (.evaluate 1 1 { policyId := 6, timerId := fun _ => 7 }),
    .step 1, .step 1, .step 1, .step 1, .step 1, .step 1, .step 1, .step 1]

def SlaDb.MetLate (db : SlaDb) : Prop :=
  ∃ t ∈ db.slaTimers, t.state = .met ∧ ∃ m ∈ db.timerAchievedAt t, db.deadline t < m

instance (db : SlaDb) : Decidable db.MetLate :=
  inferInstanceAs (Decidable (∃ t ∈ db.slaTimers, t.state = .met ∧ ∃ m ∈ db.timerAchievedAt t, db.deadline t < m))

end WhatsappCrm
