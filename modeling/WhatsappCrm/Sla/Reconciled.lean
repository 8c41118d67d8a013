/-
Purpose: What one reconciliation that runs alone leaves behind: a timer for every target of the policy, as the facts
  call for.
-/
import WhatsappCrm.Sla.Facts

namespace WhatsappCrm

open Interleaving Table Stopwatch

variable {tenantId ticketId : Uuid} {now : Millis} {a b : SlaDb}

/-- The windows `W` are those of the ticket's policy, and its timers are there once one of them is. -/
structure SlaDb.Provisioned (db : SlaDb) (tenantId ticketId : Uuid) (W : SlaTargetKind → Option Nat) : Prop where
  held : ∀ t ∈ db.timersOf tenantId ticketId,
    ∃ p, db.findPolicy tenantId t.policyId = some p ∧ ∀ kind, p.windowFor kind = W kind
  whole : ∀ t ∈ db.timersOf tenantId ticketId, ∀ kind, db.timerOf tenantId ticketId kind ≠ none ↔ W kind ≠ none
  opening : db.timersOf tenantId ticketId = [] →
    ∀ f, db.facts tenantId ticketId = some f → ∀ kind, db.windowsFor tenantId f.priority kind = W kind

structure NewIds.Fresh (ids : NewIds) (db : SlaDb) : Prop where
  unused : ∀ t ∈ db.slaTimers, ∀ kind, t.id ≠ ids.timerId kind
  distinct : ids.timerId .firstResponse ≠ ids.timerId .resolution

theorem NewIds.fresh_iff (ids : NewIds) (db : SlaDb) : ids.Fresh db ↔
    (∀ t ∈ db.slaTimers, ∀ kind ∈ slaTimerKinds, t.id ≠ ids.timerId kind) ∧
      ids.timerId .firstResponse ≠ ids.timerId .resolution :=
  ⟨fun h => ⟨fun t ht kind _ => h.unused t ht kind, h.distinct⟩,
    fun h => ⟨fun t ht kind => h.1 t ht kind (by cases kind <;> decide), h.2⟩⟩

instance (ids : NewIds) (db : SlaDb) : Decidable (ids.Fresh db) := decidable_of_iff _ (ids.fresh_iff db).symm

variable {f : SlaFacts} {ticket : Ticket} {timers : List SlaTimer} {t : SlaTimer} {moved : Nat}
  {summary : SlaEvaluationSummary}

theorem SlaDb.Provisioned.windows_eq (h : a.Provisioned tenantId ticketId W)
    (hf : a.facts tenantId ticketId = some f) : a.windows tenantId ticketId = W := by
  funext kind
  simp only [SlaDb.windows]
  split
  · rename_i t ht
    obtain ⟨p, hp, hwindow⟩ := h.held t (List.mem_of_mem_head? ht)
    rw [hp, Option.bind_some, hwindow]
  · rename_i hnone
    rw [hf, Option.bind_some, h.opening (List.head?_eq_none_iff.mp hnone) f hf]

theorem SlaDb.Provisioned.congr (h : a.Provisioned tenantId ticketId W)
    (htimers : ∀ t, t ∈ b.timersOf tenantId ticketId ↔ t ∈ a.timersOf tenantId ticketId)
    (hpolicy : ∀ policyId p, a.findPolicy tenantId policyId = some p → b.findPolicy tenantId policyId = some p)
    (hopening : a.timersOf tenantId ticketId = [] →
      ∀ f, b.facts tenantId ticketId = some f → ∀ kind, b.windowsFor tenantId f.priority kind = W kind) :
    b.Provisioned tenantId ticketId W where
  held t ht := by
    obtain ⟨p, hp, hwindow⟩ := h.held t ((htimers t).mp ht)
    exact ⟨p, hpolicy _ p hp, hwindow⟩
  whole t ht kind := by
    rw [← h.whole t ((htimers t).mp ht) kind, SlaDb.timerOf_ne_none, SlaDb.timerOf_ne_none]
    simp only [htimers]
  opening hnone := by
    refine hopening (List.eq_nil_iff_forall_not_mem.mpr fun t ht => ?_)
    rw [← htimers t, hnone] at ht
    cases ht

theorem slaTx_exec {p : SlaTx α} (hok : a.Ok) (h : p.exec slaWrites a = .ok (r, b)) :
    b.Ok ∧ a.Later b ∧ ∀ tenantId ticketId, b.facts tenantId ticketId = a.facts tenantId ticketId := by
  refine Tx.exec_keeps (K := fun x => x.Ok ∧ a.Later x ∧
    ∀ tenantId ticketId, x.facts tenantId ticketId = a.facts tenantId ticketId) ?_ ⟨hok, .refl a, fun _ _ => rfl⟩ h
  intro w s rows s' hs hw
  have hwritten := SlaWrite.written hw
  exact ⟨hwritten.ok hs.1, hs.2.1.trans (hwritten.later hs.1),
    fun tenantId ticketId => (hwritten.facts_eq tenantId ticketId).trans (hs.2.2 tenantId ticketId)⟩

theorem SlaDb.stampFirstResponse_tables (db : SlaDb) (respondedAt : Millis) (userId : Option Uuid) :
    (db.stampFirstResponse tenantId ticketId respondedAt userId).2.slaTimers = db.slaTimers ∧
      (db.stampFirstResponse tenantId ticketId respondedAt userId).2.slaPolicies = db.slaPolicies := by
  unfold SlaDb.stampFirstResponse
  split <;> exact ⟨rfl, rfl⟩

theorem stampFirstResponse_tables (h : (stampFirstResponse tenantId ticket).exec slaWrites a = .ok (answer, b)) :
    b.slaTimers = a.slaTimers ∧ b.slaPolicies = a.slaPolicies := by
  simp only [stampFirstResponse] at h
  split at h
  · cases h
    exact ⟨rfl, rfl⟩
  · cases h
    exact ⟨rfl, rfl⟩
  · simp only [Tx.bind_def, Tx.bind_query, Tx.exec] at h
    split at h
    · cases h
      exact ⟨rfl, rfl⟩
    · cases h
      exact SlaDb.stampFirstResponse_tables a _ _

/-- The answer is a moment exactly when somebody has replied. -/
theorem stampFirstResponse_isSome (htenant : ticket.tenantId = tenantId)
    (hanswered : ticket.firstRespondedAt ≠ none → a.firstReplyOf ticket ≠ none)
    (h : (stampFirstResponse tenantId ticket).exec slaWrites a = .ok (answer, b)) :
    answer.isSome = (a.achievedAt .firstResponse ticket).isSome := by
  subst htenant
  simp only [SlaDb.achievedAt, Option.isSome_map]
  simp only [stampFirstResponse] at h
  split at h
  · rename_i respondedAt hresponded
    cases h
    have hreply := hanswered (by simp [hresponded])
    exact (Option.isSome_iff_ne_none.mpr hreply).symm
  · rename_i hconversation
    cases h
    simp [SlaDb.firstReplyOf, hconversation]
  · rename_i conversationId _ hconversation
    have hreplyOf : a.firstReplyOf ticket = a.firstReply ticket.tenantId conversationId ticket.createdAt := by
      simp [SlaDb.firstReplyOf, hconversation]
    simp only [Tx.bind_def, Tx.bind_query, Tx.exec] at h
    split at h
    · rename_i hreply
      cases h
      rw [hreplyOf, hreply]
      rfl
    · rename_i reply hreply
      cases h
      rw [hreplyOf, hreply]
      rfl

def Defaulted (tenantId : Uuid) (a b : SlaDb) : Prop :=
  b.slaPolicies = a.slaPolicies ∨
    (a.policiesOf tenantId = [] ∧ ∃ id now, b.slaPolicies = a.slaPolicies ++ [defaultPolicy tenantId id now])

theorem Defaulted.windowsFor (h : Defaulted tenantId a b) (tenantId' : Uuid) (priority : TicketPriority)
    (kind : SlaTargetKind) : b.windowsFor tenantId' priority kind = a.windowsFor tenantId' priority kind := by
  rcases h with hsame | ⟨hnone, id, now, hpolicies⟩
  · have hpolicies : b.policiesOf tenantId' = a.policiesOf tenantId' := by simp only [SlaDb.policiesOf, hsame]
    simp only [SlaDb.windowsFor, hpolicies]
  · by_cases htenant : tenantId' = tenantId
    · subst htenant
      have hone : b.policiesOf tenantId' = [defaultPolicy tenantId' id now] := by
        have hnone' : a.slaPolicies.filter (fun p => decide (p.tenantId = tenantId')) = [] := hnone
        simp [SlaDb.policiesOf, hpolicies, hnone', defaultPolicy]
      simp only [SlaDb.windowsFor, hone, hnone]
      cases kind <;> rfl
    · have hother : b.policiesOf tenantId' = a.policiesOf tenantId' := by
        simp [SlaDb.policiesOf, hpolicies, defaultPolicy, Ne.symm htenant]
      simp only [SlaDb.windowsFor, hother]

theorem resolveForTicket_exec
    (h : (resolveForTicket tenantId policyId now priority).exec slaWrites a = .ok (policy, b)) :
    b.slaTimers = a.slaTimers ∧ Defaulted tenantId a b ∧
      (∀ kind, policy.bind (·.windowFor kind) = a.windowsFor tenantId priority kind) ∧ Held tenantId policy b := by
  simp only [resolveForTicket, Tx.bind_def, Tx.bind_query, Tx.exec] at h
  split at h
  · rename_i hnone
    simp only [Tx.bind_execute, Tx.exec, slaWrites, SlaWrite.apply, SlaDb.createDefault] at h
    split at h
    · rename_i hcreate
      cases (ok_of_ite hcreate).2
      cases h
      refine ⟨rfl, .inr ⟨hnone, policyId, now, rfl⟩, ?_, ?_⟩
      · intro kind
        simp only [SlaDb.windowsFor, hnone, if_true, Option.bind_some]
        cases kind <;> rfl
      · intro p hp
        rw [← Option.mem_some_iff.mp hp]
        exact ⟨List.mem_concat_self, rfl⟩
    · cases h
  · rename_i hsome
    cases h
    refine ⟨rfl, .inl rfl, ?_, ?_⟩
    · intro kind
      simp only [SlaDb.windowsFor, if_neg hsome]
    · intro p hp
      have hmem := firstBy_resolve (Option.mem_def.mp hp)
      simpa [SlaDb.policiesOf] using hmem

theorem policyForTicket_exec
    (h : (policyForTicket tenantId policyId now ticket timers).exec slaWrites a = .ok (policy, b)) :
    b.slaTimers = a.slaTimers ∧ Defaulted tenantId a b ∧
      (timers.head? = none → (∀ kind, policy.bind (·.windowFor kind) = a.windowsFor tenantId ticket.priority kind) ∧
        Held tenantId policy b) ∧
      ∀ timer, timers.head? = some timer → policy = a.findPolicy tenantId timer.policyId ∧ b = a := by
  simp only [policyForTicket] at h
  cases hhead : timers.head? with
  | none =>
    rw [hhead] at h
    obtain ⟨htimers, hdefaulted, hrest⟩ := resolveForTicket_exec h
    refine ⟨htimers, hdefaulted, fun _ => hrest, ?_⟩
    intro timer hsome
    cases hsome
  | some =>
    rw [hhead] at h
    cases h
    refine ⟨rfl, .inl rfl, ?_, ?_⟩
    · intro hnone
      cases hnone
    · intro timer hsome
      cases hsome
      exact ⟨rfl, rfl⟩

/-- What `createMissingTimers` wrote: the rows for the windows the ticket had no timer for. -/
structure CreatedFor (ticket : Ticket) (W : SlaTargetKind → Option Nat) (rows : List SlaTimerCreate) (a b : SlaDb) :
    Prop where
  timers : b.slaTimers = a.slaTimers ++ rows.map (·.row)
  opened : ∀ data ∈ rows, data.tenantId = ticket.tenantId ∧ data.ticketId = ticket.id ∧
    ∃ minutes, W data.kind = some minutes ∧ data.dueAt = SlaDb.windowEnd ticket.createdAt minutes
  missing : ∀ kind, W kind ≠ none → a.timerOf ticket.tenantId ticket.id kind = none → ∃ data ∈ rows, data.kind = kind
  policy : ∀ data ∈ rows, ∃ p ∈ b.slaPolicies, p.id = data.policyId ∧ p.tenantId = ticket.tenantId ∧
    ∀ kind, p.windowFor kind = W kind

theorem newTimers_missingTimers (hfresh : ids.Fresh a) (policy : SlaPolicy) :
    newTimers a.slaTimers (missingTimers tenantId ids ticket ((a.timersOf tenantId ticket.id).map (·.kind)) policy) =
      missingTimers tenantId ids ticket ((a.timersOf tenantId ticket.id).map (·.kind)) policy := by
  refine skipDuplicates_eq_self ?_ ?_
  · intro data hdata t ht
    simp only [missingTimers, List.mem_filterMap] at hdata
    obtain ⟨kind, _, hkind⟩ := hdata
    obtain ⟨hnew, hkind⟩ := Option.ite_none_left_eq_some.mp hkind
    obtain ⟨minutes, _, rfl⟩ := Option.map_eq_some_iff.mp hkind
    have hid : t.id ≠ (timerData tenantId ids ticket policy.id kind minutes).row.id := hfresh.unused t ht kind
    have hentry : t.kindEntry ≠ some (tenantId, ticket.id, kind) := by
      intro heq
      have hkinds : t.kind = kind := by
        simp only [SlaTimer.kindEntry, Option.some.injEq, Prod.mk.injEq] at heq
        exact heq.2.2
      refine hnew (List.contains_iff_mem.mpr (List.mem_map.mpr ⟨t, SlaDb.mem_timersOf.mpr ⟨ht, ?_⟩, hkinds⟩))
      rw [hkinds, heq]
    have hentry' : ¬ t.kindEntry = (timerData tenantId ids ticket policy.id kind minutes).row.kindEntry := hentry
    simpa [hentry'] using hid
  · refine List.Pairwise.filterMap _ ?_ (show slaTimerKinds.Pairwise (· ≠ ·) by decide)
    intro kind kind' hne data hdata data' hdata'
    split at hdata
    · cases hdata
    · split at hdata'
      · cases hdata'
      · obtain ⟨minutes, _, rfl⟩ := Option.map_eq_some_iff.mp hdata
        obtain ⟨minutes', _, rfl⟩ := Option.map_eq_some_iff.mp hdata'
        have hid : ids.timerId kind ≠ ids.timerId kind' := by
          have hdistinct := hfresh.distinct
          cases kind <;> cases kind' <;> first | exact absurd rfl hne | exact hdistinct | exact hdistinct.symm
        simpa [timerData, SlaTimerCreate.row, SlaTimer.kindEntry, hne] using hid

theorem createMissingTimers_exec (hfresh : ids.Fresh a) (htenant : ticket.tenantId = tenantId) (hid : ticket.id = ticketId) (hok : a.Ok)
    (hprov : a.Provisioned tenantId ticketId W) (hfacts : a.facts tenantId ticketId = some f) (hpriority : f.priority = ticket.priority)
    (h : (createMissingTimers tenantId ids now ticket (a.timersOf tenantId ticketId)).exec slaWrites a =
      .ok (created, b)) : ∃ rows, CreatedFor ticket W rows a b ∧ created = rows.length := by
  subst htenant hid
  simp only [createMissingTimers, Tx.bind_def] at h
  obtain ⟨policy, a₁, hpolicy, hrest⟩ := Tx.exec_bind.mp h
  obtain ⟨htimers, _, hresolved, hstarted⟩ := policyForTicket_exec hpolicy
  -- the policy that was chosen has the windows of the ticket
  have hchosen : (∀ kind, policy.bind (·.windowFor kind) = W kind) ∧ Held ticket.tenantId policy a₁ := by
    cases hhead : (a.timersOf ticket.tenantId ticket.id).head? with
    | none =>
      obtain ⟨hwindow, hheld⟩ := hresolved hhead
      refine ⟨fun kind => ?_, hheld⟩
      rw [hwindow, ← hpriority, hprov.opening (List.head?_eq_none_iff.mp hhead) f hfacts]
    | some timer =>
      obtain ⟨hpolicyOf, rfl⟩ := hstarted timer hhead
      obtain ⟨p, hp, hwindow⟩ := hprov.held timer (List.mem_of_mem_head? hhead)
      obtain ⟨hmem, _, hptenant⟩ := hok.findPolicy_mem.mp hp
      rw [hpolicyOf, hp]
      refine ⟨hwindow, fun q hq => ?_⟩
      rw [← Option.mem_some_iff.mp hq]
      exact ⟨hmem, hptenant⟩
  obtain ⟨hwindows, hheld⟩ := hchosen
  have hnone : ∀ kind, a.timerOf ticket.tenantId ticket.id kind = none →
      ((a.timersOf ticket.tenantId ticket.id).map (·.kind)).contains kind = false := by
    intro kind hkind
    by_contra hcontains
    have hheld : ∃ t ∈ a.timersOf ticket.tenantId ticket.id, t.kind = kind := by simpa using hcontains
    obtain ⟨t, ht, rfl⟩ := hheld
    obtain ⟨hmem, hentry⟩ := SlaDb.mem_timersOf.mp ht
    exact SlaDb.timerOf_eq_none.mp hkind t hmem hentry
  split at hrest
  · cases hrest
    refine ⟨[], ⟨by simp [htimers], by simp, ?_, by simp⟩, rfl⟩
    intro kind hkind
    exact absurd (hwindows kind).symm hkind
  · rename_i p
    have hwindow : ∀ kind, p.windowFor kind = W kind := hwindows
    have hmissing : ∀ kind, W kind ≠ none → a.timerOf ticket.tenantId ticket.id kind = none →
        ∃ data ∈ missingTimers ticket.tenantId ids ticket ((a.timersOf ticket.tenantId ticket.id).map (·.kind)) p,
          data.kind = kind := by
      intro kind hkind hnew
      obtain ⟨minutes, hminutes⟩ := Option.ne_none_iff_exists'.mp hkind
      refine ⟨timerData ticket.tenantId ids ticket p.id kind minutes, ?_, rfl⟩
      refine List.mem_filterMap.mpr ⟨kind, by cases kind <;> simp [slaTimerKinds], ?_⟩
      simp only [hnone kind hnew, Bool.false_eq_true, if_false, hwindow, hminutes, Option.map_some]
    have hopened : ∀ data ∈ missingTimers ticket.tenantId ids ticket
        ((a.timersOf ticket.tenantId ticket.id).map (·.kind)) p,
        data.tenantId = ticket.tenantId ∧ data.ticketId = ticket.id ∧
          (∃ minutes, W data.kind = some minutes ∧ data.dueAt = SlaDb.windowEnd ticket.createdAt minutes) ∧
          data.policyId = p.id := by
      intro data hdata
      obtain ⟨kind, minutes, hminutes, rfl⟩ := mem_missingTimers hdata
      exact ⟨rfl, rfl, ⟨minutes, by rw [← hwindow]; exact hminutes, rfl⟩, rfl⟩
    split at hrest
    · rename_i hrows
      cases hrest
      refine ⟨[], ⟨by simp [htimers], by simp, ?_, by simp⟩, rfl⟩
      rwa [hrows] at hmissing
    · simp only [Tx.bind_execute, Tx.exec, slaWrites, SlaWrite.apply, SlaDb.createTimers, htimers,
        newTimers_missingTimers hfresh] at hrest
      cases hrest
      refine ⟨_, ⟨rfl, ?_, hmissing, ?_⟩, by simp⟩
      · exact fun data hdata => ⟨(hopened data hdata).1, (hopened data hdata).2.1, (hopened data hdata).2.2.1⟩
      · intro data hdata
        obtain ⟨hp, hptenant⟩ := hheld p rfl
        exact ⟨p, hp, (hopened data hdata).2.2.2.symm, hptenant, hwindow⟩

theorem SlaTimerTarget.admits_of_ne {target : SlaTimerTarget} {state : SlaTimerState} (hmutable : state.isMutable = true)
    (hne : state ≠ target.state) : target.admits state = true := by
  revert hmutable hne
  cases target <;> cases state <;> decide

theorem SlaDb.Ok.findTimer_of_mem (hok : a.Ok) (ht : t ∈ a.slaTimers) : a.findTimer t.tenantId t.id = some t := by
  refine hok.id.find?_eq_some (k := t.id) ht (decide_eq_true ⟨rfl, rfl⟩) fun u _ hu => ?_
  exact congrArg some (of_decide_eq_true hu).1

/-- How a timer that was looked at differs afterwards: it was turned to what its row called for. -/
structure Turned (now : Millis) (target : Phase SlaTimerState) (t t' : SlaTimer) : Prop where
  same : SameTarget t t'
  watch : ∀ windowEnd, t'.watch windowEnd = (t.watch windowEnd).turn target now

theorem Turned.of_eq (h : t.state.phase = target) : Turned now target t t :=
  ⟨.refl t, fun windowEnd => (Watch.turn_self (w := t.watch windowEnd) h).symm⟩

theorem Turned.of_stopped (target : Phase SlaTimerState) (h : t.state.isMutable = false) : Turned now target t t := by
  obtain ⟨outcome, hphase⟩ := SlaTimerState.phase_stopped.mpr h
  exact ⟨.refl t, fun windowEnd => (Watch.turn_of_stopped (w := t.watch windowEnd) hphase).symm⟩

theorem moveTimer_exec (hok : a.Ok) (ht : t ∈ a.slaTimers) (hmutable : t.state.isMutable = true)
    (h : (moveTimer t.tenantId now t target).exec slaWrites a = .ok (moved, b)) :
    b.slaPolicies = a.slaPolicies ∧ b.Ok ∧ ∃ t', Turned now target.state.phase t t' ∧ t' ∈ b.slaTimers ∧
      (∀ u ∈ a.slaTimers, u.id ≠ t.id → u ∈ b.slaTimers) ∧ ∀ u ∈ b.slaTimers, u = t' ∨ u ∈ a.slaTimers := by
  simp only [moveTimer] at h
  split at h
  · rename_i hstate
    cases h
    exact ⟨rfl, hok, t, .of_eq (by rw [hstate]), ht, fun u hu _ => hu, fun u hu => .inr hu⟩
  · rename_i hne
    simp only [Tx.bind_execute, Tx.exec, slaWrites, SlaWrite.apply, SlaDb.applyTransition, hok.findTimer_of_mem ht, SlaTimerTarget.admits_of_ne hmutable hne, if_true, bind, Except.bind] at h
    cases hto : transitioned target now t with
    | error => simp [hto] at h
    | ok t' =>
      simp only [hto, pure, Except.pure] at h
      cases h
      obtain ⟨hmove, hstate⟩ := transitioned_move (SlaTimerTarget.admits_of_ne hmutable hne) hto
      have hwritten : Written (.applyTransition t.tenantId t.id target now) [.timer t.id] a (a.putTimer t') :=
        .moved t.tenantId t.id target now a t t' (hok.findTimer_of_mem ht) hmove hstate
      refine ⟨rfl, hwritten.ok hok, t', ⟨hmove.sameTarget, fun windowEnd => ?_⟩, ?_, ?_, ?_⟩
      · rw [hmove.watch (by rw [hstate]; cases target <;> decide), hstate]
      · exact SlaDb.putTimer_mem_self ht hmove.sameTarget.id.symm
      · intro u hu hid
        exact SlaDb.putTimer_mem_of_ne hu (by rwa [hmove.sameTarget.id])
      · intro u hu
        rcases SlaDb.mem_putTimer hu with rfl | ⟨hu, _⟩
        · exact .inl rfl
        · exact .inr hu

theorem moveTimers_exec (hok : a.Ok) (htimers : ∀ t ∈ timers, t ∈ a.slaTimers ∧ t.tenantId = tenantId)
    (hdistinct : timers.Pairwise fun t u => t.id ≠ u.id)
    (h : (moveTimers tenantId now ticket firstRespondedAt timers).exec slaWrites a = .ok (moved, b)) :
    b.slaPolicies = a.slaPolicies ∧
      (∀ t ∈ timers, ∃ t' ∈ b.slaTimers, Turned now
        (slaTimerTargetFor t.kind ticket.status firstRespondedAt ticket.resolvedAt).state.phase t t') ∧
      (∀ u ∈ a.slaTimers, (∀ t ∈ timers, u.id ≠ t.id) → u ∈ b.slaTimers) ∧
      ∀ u ∈ b.slaTimers, u ∈ a.slaTimers ∨ ∃ t ∈ timers, SameTarget t u := by
  induction timers generalizing a moved with
  | nil =>
    cases h
    exact ⟨rfl, by simp, fun u hu _ => hu, fun u hu => .inl hu⟩
  | cons t timers ih =>
    obtain ⟨ht, rfl⟩ := htimers t List.mem_cons_self
    obtain ⟨hne, hdistinct⟩ := List.pairwise_cons.mp hdistinct
    have hrest : ∀ u ∈ timers, u ∈ a.slaTimers ∧ u.tenantId = t.tenantId :=
      fun u hu => htimers u (List.mem_cons_of_mem _ hu)
    simp only [moveTimers] at h
    split at h
    · rename_i hmutable
      obtain ⟨movedOne, a₁, hone, h⟩ := Tx.exec_bind.mp h
      obtain ⟨movedRest, a₂, hloop, h⟩ := Tx.exec_bind.mp h
      cases h
      obtain ⟨hpolicies, hok₁, t', hturned, ht', hkept, hbefore⟩ := moveTimer_exec hok ht hmutable hone
      have hrest₁ : ∀ u ∈ timers, u ∈ a₁.slaTimers ∧ u.tenantId = t.tenantId :=
        fun u hu => ⟨hkept u (hrest u hu).1 fun hid => hne u hu hid.symm, (hrest u hu).2⟩
      obtain ⟨hpolicies₂, hall, hother, hfrom⟩ := ih hok₁ hrest₁ hdistinct hloop
      refine ⟨hpolicies₂.trans hpolicies, ?_, ?_, ?_⟩
      · intro u hu
        rcases List.mem_cons.mp hu with rfl | hu
        · refine ⟨t', hother t' ht' fun v hv hid => hne v hv (hturned.same.id.symm.trans hid), hturned⟩
        · exact hall u hu
      · intro u hu hids
        exact hother u (hkept u hu (hids t List.mem_cons_self)) fun v hv => hids v (List.mem_cons_of_mem _ hv)
      · intro u hu
        rcases hfrom u hu with hu | ⟨v, hv, hsame⟩
        · rcases hbefore u hu with rfl | hu
          · exact .inr ⟨t, List.mem_cons_self, hturned.same⟩
          · exact .inl hu
        · exact .inr ⟨v, List.mem_cons_of_mem _ hv, hsame⟩
    · rename_i hstopped
      obtain ⟨hpolicies, hall, hother, hfrom⟩ := ih hok hrest hdistinct h
      refine ⟨hpolicies, ?_, ?_, ?_⟩
      · intro u hu
        rcases List.mem_cons.mp hu with rfl | hu
        · exact ⟨u, hother u ht fun v hv hid => hne v hv hid, .of_stopped _ (by simpa using hstopped)⟩
        · exact hall u hu
      · intro u hu hids
        exact hother u hu fun v hv => hids v (List.mem_cons_of_mem _ hv)
      · intro u hu
        rcases hfrom u hu with hu | ⟨v, hv, hsame⟩
        · exact .inl hu
        · exact .inr ⟨v, List.mem_cons_of_mem _ hv, hsame⟩

theorem reconcile_frame (hok : a.Ok) (hanswered : a.Answered)
    (h : (reconcile tenantId ids now ticketId).exec slaWrites a = .ok (summary, b)) :
    b.Ok ∧ a.Later b ∧ b.Answered ∧ b.base.now = a.base.now ∧
      (∀ tenantId' ticketId', b.facts tenantId' ticketId' = a.facts tenantId' ticketId') ∧
      ∀ t : SlaTimer, t.ticketId ≠ ticketId → (t ∈ b.slaTimers ↔ t ∈ a.slaTimers) := by
  have hjustified : Backs (fun _ _ => True) (fun _ _ _ => True) now tenantId (.ticket ticketId) (fun _ _ => True) a
      (reconcile tenantId ids now ticketId) := reconcile_justified ids ticketId rfl
  obtain ⟨hok', hlater, hkept, _⟩ := hjustified.exec slaRely_sound slaWrites_sound
    (K := fun x => x.Answered ∧ x.base.now = a.base.now ∧
      (∀ tenantId' ticketId', x.facts tenantId' ticketId' = a.facts tenantId' ticketId') ∧
      ∀ t : SlaTimer, t.ticketId ≠ ticketId → (t ∈ x.slaTimers ↔ t ∈ a.slaTimers))
    (fun w s rows s' hs hK hbacked hw => by
      have hwritten := SlaWrite.written hw
      obtain ⟨hsanswered, hnow, hfacts, helsewhere⟩ := hK
      refine ⟨hwritten.answered hbacked hsanswered, hwritten.now_eq.trans hnow, ?_, ?_⟩
      · exact fun tenantId' ticketId' => (hwritten.facts_eq tenantId' ticketId').trans (hfacts tenantId' ticketId')
      · exact fun t ht => (hwritten.elsewhere hs hbacked ht).trans (helsewhere t ht))
    hok ⟨hanswered, rfl, fun _ _ => rfl, fun _ _ => Iff.rfl⟩ h
  exact ⟨hok', hlater, hkept⟩

theorem createMissingTimers_defaulted
    (h : (createMissingTimers tenantId ids now ticket timers).exec slaWrites a = .ok (created, b)) :
    Defaulted tenantId a b := by
  obtain ⟨policy, a₁, hpolicy, hrest⟩ := Tx.exec_bind.mp h
  have hdefaulted := (policyForTicket_exec hpolicy).2.1
  split at hrest
  · cases hrest
    exact hdefaulted
  · split at hrest
    · cases hrest
      exact hdefaulted
    · cases hrest
      exact hdefaulted

theorem moveTimers_policies (h : (moveTimers tenantId now ticket firstRespondedAt timers).exec slaWrites a = .ok (moved, b)) :
    b.slaPolicies = a.slaPolicies := by
  induction timers generalizing a moved with
  | nil =>
    cases h
    rfl
  | cons t timers ih =>
    simp only [moveTimers] at h
    split at h
    · obtain ⟨movedOne, a₁, hone, h⟩ := Tx.exec_bind.mp h
      obtain ⟨movedRest, a₂, hloop, h⟩ := Tx.exec_bind.mp h
      cases h
      rw [ih hloop]
      simp only [moveTimer] at hone
      split at hone
      · cases hone
        rfl
      · simp only [Tx.bind_def, Tx.bind_execute, Tx.exec] at hone
        split at hone
        · rename_i rows a₁' happly
          cases hone
          have hwritten : Written (.applyTransition tenantId t.id (slaTimerTargetFor t.kind ticket.status
              firstRespondedAt ticket.resolvedAt) now) rows a a₁ := SlaWrite.written happly
          cases hwritten <;> rfl
        · cases hone
    · exact ih h

theorem reconcile_windowsFor (h : (reconcile tenantId ids now ticketId).exec slaWrites a = .ok (summary, b)) (tenantId' : Uuid)
    (priority : TicketPriority) (kind : SlaTargetKind) :
    b.windowsFor tenantId' priority kind = a.windowsFor tenantId' priority kind := by
  simp only [reconcile, Tx.bind_def, Tx.bind_query, Tx.exec] at h
  split at h
  · cases h
  · obtain ⟨answer, a₁, hstamp, h⟩ := Tx.exec_bind.mp h
    obtain ⟨created, a₂, hcreate, h⟩ := Tx.exec_bind.mp h
    obtain ⟨moved, a₃, hmove, h⟩ := Tx.exec_bind.mp h
    cases h
    have hpolicies : b.slaPolicies = a₂.slaPolicies := by
      simp only [reconcileTimers] at hmove
      split at hmove <;> exact moveTimers_policies hmove
    have hdefaulted : Defaulted tenantId a b := by
      have hstamped := (stampFirstResponse_tables hstamp).2
      rcases createMissingTimers_defaulted hcreate with hsame | ⟨hnone, id, at', hnew⟩
      · exact .inl (hpolicies.trans (hsame.trans hstamped))
      · refine .inr ⟨?_, id, at', ?_⟩
        · simpa only [SlaDb.policiesOf, hstamped] using hnone
        · rw [hpolicies, hnew, hstamped]
    exact hdefaulted.windowsFor tenantId' priority kind

/-- What a reconciliation of the ticket itself does to its timers. -/
structure Reconciled (tenantId ticketId : Uuid) (now : Millis) (W : SlaTargetKind → Option Nat) (f : SlaFacts)
    (a b : SlaDb) : Prop where
  provisioned : b.Provisioned tenantId ticketId W
  there : ∀ kind, W kind ≠ none → b.timerOf tenantId ticketId kind ≠ none
  turned : ∀ kind minutes, W kind = some minutes →
    b.watchOf tenantId ticketId (SlaDb.windowEnd f.createdAt minutes) kind =
      (a.watchOf tenantId ticketId (SlaDb.windowEnd f.createdAt minutes) kind).turn (f.target kind) now

theorem reconciled_of_created {a₂ : SlaDb} (hok : a.Ok) (hok₂ : a₂.Ok) (hlater : a.Later a₂) (htenant : ticket.tenantId = tenantId)
    (hid : ticket.id = ticketId) (hcreatedAt : f.createdAt = ticket.createdAt)
    (htarget : ∀ kind, (slaTimerTargetFor kind ticket.status firstRespondedAt ticket.resolvedAt).state.phase =
      f.target kind) (hprov : a.Provisioned tenantId ticketId W) (hcreated : CreatedFor ticket W rows a a₂)
    (hfacts : b.facts tenantId ticketId = a.facts tenantId ticketId)
    (hwindows : ∀ priority kind, b.windowsFor tenantId priority kind = a.windowsFor tenantId priority kind)
    (hmove : (moveTimers tenantId now ticket firstRespondedAt (a₂.timersOf tenantId ticketId)).exec slaWrites a₂ =
      .ok (moved, b)) : Reconciled tenantId ticketId now W f a b := by
  subst htenant hid
  obtain ⟨hokb, hlaterb, _⟩ := slaTx_exec hok₂ hmove
  have hmem₂ : ∀ t ∈ a₂.timersOf ticket.tenantId ticket.id, t ∈ a₂.slaTimers ∧ t.tenantId = ticket.tenantId := by
    intro t ht
    simp only [SlaDb.timersOf, List.mem_filter, decide_eq_true_eq] at ht
    exact ⟨ht.1, ht.2.2⟩
  have hdistinct : (a₂.timersOf ticket.tenantId ticket.id).Pairwise fun t u => t.id ≠ u.id := by
    refine (List.Pairwise.filter _ hok₂.id).imp fun {t u} hclash hsame => hclash ⟨by simp [SlaTimer.idEntry], ?_⟩
    simp [SlaTimer.idEntry, hsame]
  obtain ⟨_, hall, _, hfrom⟩ := moveTimers_exec hok₂ hmem₂ hdistinct hmove
  -- every target of the policy has a timer before the moves
  have hthere₂ : ∀ kind, W kind ≠ none → a₂.timerOf ticket.tenantId ticket.id kind ≠ none := by
    intro kind hkind
    rw [SlaDb.timerOf_ne_none]
    by_cases hnone : a.timerOf ticket.tenantId ticket.id kind = none
    · obtain ⟨data, hdata, rfl⟩ := hcreated.missing kind hkind hnone
      obtain ⟨hdtenant, hdticket, _⟩ := hcreated.opened data hdata
      refine ⟨data.row, SlaDb.mem_timersOf.mpr ⟨?_, ?_⟩, rfl⟩
      · rw [hcreated.timers]
        exact List.mem_append_right _ (List.mem_map_of_mem hdata)
      · simp only [SlaTimer.kindEntry, SlaTimerCreate.row, hdtenant, hdticket]
    · obtain ⟨t, ht, hkind'⟩ := SlaDb.timerOf_ne_none.mp hnone
      obtain ⟨hmem, hentry⟩ := SlaDb.mem_timersOf.mp ht
      refine ⟨t, SlaDb.mem_timersOf.mpr ⟨?_, hentry⟩, hkind'⟩
      rw [hcreated.timers]
      exact List.mem_append_left _ hmem
  have hafter : ∀ t ∈ a₂.timersOf ticket.tenantId ticket.id, ∃ t' ∈ b.timersOf ticket.tenantId ticket.id,
      Turned now (f.target t.kind) t t' := by
    intro t ht
    obtain ⟨t', ht', hturned⟩ := hall t ht
    rw [htarget] at hturned
    refine ⟨t', SlaDb.mem_timersOf.mpr ⟨ht', ?_⟩, hturned⟩
    have hentry := (SlaDb.mem_timersOf.mp ht).2
    simpa only [SlaTimer.kindEntry, hturned.same.tenantId, hturned.same.ticketId, hturned.same.kind] using hentry
  have hbefore : ∀ t' ∈ b.timersOf ticket.tenantId ticket.id, ∃ t ∈ a₂.timersOf ticket.tenantId ticket.id,
      SameTarget t t' := by
    intro t' ht'
    obtain ⟨hmem, hentry⟩ := SlaDb.mem_timersOf.mp ht'
    rcases hfrom t' hmem with hmem₂ | ⟨t, ht, hsame⟩
    · exact ⟨t', SlaDb.mem_timersOf.mpr ⟨hmem₂, hentry⟩, .refl t'⟩
    · exact ⟨t, ht, hsame⟩
  have hthere : ∀ kind, W kind ≠ none → b.timerOf ticket.tenantId ticket.id kind ≠ none := by
    intro kind hkind
    obtain ⟨t, ht, rfl⟩ := SlaDb.timerOf_ne_none.mp (hthere₂ kind hkind)
    obtain ⟨t', ht', hturned⟩ := hafter t ht
    exact SlaDb.timerOf_ne_none.mpr ⟨t', ht', hturned.same.kind⟩
  -- a timer there before the moves is an old one or a row that was created
  have hsource : ∀ t ∈ a₂.timersOf ticket.tenantId ticket.id, W t.kind ≠ none ∧
      ∃ p, b.findPolicy ticket.tenantId t.policyId = some p ∧ ∀ kind, p.windowFor kind = W kind := by
    intro t ht
    obtain ⟨hmem, hentry⟩ := SlaDb.mem_timersOf.mp ht
    rw [hcreated.timers] at hmem
    rcases List.mem_append.mp hmem with hmem | hmem
    · have hold := SlaDb.mem_timersOf.mpr ⟨hmem, hentry⟩
      obtain ⟨p, hp, hwindow⟩ := hprov.held t hold
      refine ⟨(hprov.whole t hold t.kind).mp (SlaDb.timerOf_ne_none.mpr ⟨t, hold, rfl⟩), p, ?_, hwindow⟩
      exact (hlater.trans hlaterb).findPolicy hok hokb hp
    · obtain ⟨data, hdata, rfl⟩ := List.mem_map.mp hmem
      obtain ⟨_, _, minutes, hminutes, _⟩ := hcreated.opened data hdata
      obtain ⟨p, hp, hpid, hptenant, hwindow⟩ := hcreated.policy data hdata
      refine ⟨by rw [show data.row.kind = data.kind from rfl, hminutes]; simp, p, ?_, hwindow⟩
      exact hlaterb.findPolicy hok₂ hokb (hok₂.findPolicy_mem.mpr ⟨hp, hpid, hptenant⟩)
  refine ⟨⟨?_, ?_, ?_⟩, hthere, ?_⟩
  · intro t' ht'
    obtain ⟨t, ht, hsame⟩ := hbefore t' ht'
    rw [hsame.policyId]
    exact (hsource t ht).2
  · intro _ _ kind
    refine ⟨fun hne => ?_, hthere kind⟩
    obtain ⟨t', ht', rfl⟩ := SlaDb.timerOf_ne_none.mp hne
    obtain ⟨t, ht, hsame⟩ := hbefore t' ht'
    rw [hsame.kind]
    exact (hsource t ht).1
  · intro hnone g hg kind
    have hopening : a.timersOf ticket.tenantId ticket.id = [] := by
      refine List.eq_nil_iff_forall_not_mem.mpr fun t ht => ?_
      obtain ⟨hmem, hentry⟩ := SlaDb.mem_timersOf.mp ht
      have ht₂ : t ∈ a₂.timersOf ticket.tenantId ticket.id := by
        refine SlaDb.mem_timersOf.mpr ⟨?_, hentry⟩
        rw [hcreated.timers]
        exact List.mem_append_left _ hmem
      obtain ⟨t', ht', _⟩ := hafter t ht₂
      rw [hnone] at ht'
      cases ht'
    rw [hwindows]
    exact hprov.opening hopening g (hfacts ▸ hg) kind
  · intro kind minutes hminutes
    obtain ⟨t, ht, hkind⟩ := SlaDb.timerOf_ne_none.mp (hthere₂ kind (by simp [hminutes]))
    obtain ⟨t', ht', hturned⟩ := hafter t ht
    subst hkind
    have hfound : b.timerOf ticket.tenantId ticket.id t.kind = some t' := by
      obtain ⟨hmem, hentry⟩ := SlaDb.mem_timersOf.mp ht'
      exact hokb.timerOf_eq_some.mpr ⟨hmem, by rw [hentry, hturned.same.kind]⟩
    have hwas : t.watch (SlaDb.windowEnd f.createdAt minutes) =
        a.watchOf ticket.tenantId ticket.id (SlaDb.windowEnd f.createdAt minutes) t.kind := by
      obtain ⟨hmem, hentry⟩ := SlaDb.mem_timersOf.mp ht
      rw [hcreated.timers] at hmem
      rcases List.mem_append.mp hmem with hmem | hmem
      · rw [SlaDb.watchOf, hok.timerOf_eq_some.mpr ⟨hmem, hentry⟩]
      · obtain ⟨data, hdata, rfl⟩ := List.mem_map.mp hmem
        simp only [SlaDb.watchOf]
        split
        · obtain ⟨_, _, minutes', hminutes', hdue⟩ := hcreated.opened data hdata
          have hsame : minutes' = minutes := by
            have hkind : data.row.kind = data.kind := rfl
            rw [hkind, hminutes'] at hminutes
            exact Option.some.inj hminutes
          have hshift : data.dueAt - SlaDb.windowEnd f.createdAt minutes = 0 := by
            rw [hdue, hsame, hcreatedAt]
            exact Int.sub_self _
          simp only [SlaTimer.watch, SlaTimerCreate.row, SlaTimerState.phase, hshift]
        · rename_i u hu
          obtain ⟨humem, huentry⟩ := hok.timerOf_eq_some.mp hu
          have humem₂ : u ∈ a₂.slaTimers := by
            rw [hcreated.timers]
            exact List.mem_append_left _ humem
          rw [hok₂.eq_of_kind humem₂ (SlaDb.mem_timersOf.mp ht).1 (huentry.trans hentry.symm)]
    rw [SlaDb.watchOf, hfound, ← hwas]
    exact hturned.watch _

theorem reconcile_exec (hok : a.Ok) (hanswered : a.Answered) (hprov : a.Provisioned tenantId ticketId W)
    (hf : a.facts tenantId ticketId = some f) (hfresh : ids.Fresh a)
    (h : (reconcile tenantId ids now ticketId).exec slaWrites a = .ok (summary, b)) :
    Reconciled tenantId ticketId now W f a b := by
  have hframe := reconcile_frame hok hanswered h
  have hwindows := reconcile_windowsFor h
  simp only [reconcile, Tx.bind_def, Tx.bind_query, Tx.exec] at h
  split at h
  · cases h
  · rename_i ticket hticket
    obtain ⟨hmem, hid, htenant⟩ := TicketDb.findTicket_some hticket
    have hf' : f = a.factsOf ticket := by
      rw [SlaDb.facts, hticket] at hf
      exact (Option.some.inj hf).symm
    simp only [Tx.exec] at h
    obtain ⟨answer, a₁, hstamp, h⟩ := Tx.exec_bind.mp h
    obtain ⟨created, a₂, hcreate, h⟩ := Tx.exec_bind.mp h
    obtain ⟨moved, a₃, hmove, h⟩ := Tx.exec_bind.mp h
    cases h
    obtain ⟨hok₁, hlater₁, hfacts₁⟩ := slaTx_exec hok hstamp
    obtain ⟨hok₂, hlater₂, _⟩ := slaTx_exec hok₁ hcreate
    obtain ⟨htimers, hpolicies⟩ := stampFirstResponse_tables hstamp
    have hdefaulted : Defaulted tenantId a a₁ := .inl hpolicies
    have htimersOf : ∀ x, a₁.timersOf tenantId x = a.timersOf tenantId x := fun x => by
      simp only [SlaDb.timersOf, htimers]
    have hprov₁ : a₁.Provisioned tenantId ticketId W := by
      refine hprov.congr (fun t => by rw [htimersOf]) (fun _ _ hp => hlater₁.findPolicy hok hok₁ hp) ?_
      intro hnone g hg kind
      rw [hdefaulted.windowsFor]
      exact hprov.opening hnone g (hfacts₁ tenantId ticketId ▸ hg) kind
    have hfresh₁ : ids.Fresh a₁ := ⟨by rw [htimers]; exact hfresh.unused, hfresh.distinct⟩
    have hf₁ : a₁.facts tenantId ticketId = some f := by rw [hfacts₁, hf]
    rw [← htimersOf] at hcreate hmove
    obtain ⟨rows, hcreated, hlength⟩ := createMissingTimers_exec hfresh₁ htenant hid hok₁ hprov₁ hf₁
      (by rw [hf']; rfl) hcreate
    -- the timers read are those of the ticket, also where they were not read again
    have hloop : (moveTimers tenantId now ticket answer (a₂.timersOf tenantId ticketId)).exec slaWrites a₂ =
        .ok (moved, b) := by
      simp only [reconcileTimers, Tx.bind_def] at hmove
      by_cases hcount : 0 < created
      · rw [← hid]
        simpa [hcount, Tx.exec] using hmove
      · have hrows : rows = [] := List.length_eq_zero_iff.mp (by omega)
        have hsame : a₂.timersOf tenantId ticketId = a₁.timersOf tenantId ticketId := by
          simp [SlaDb.timersOf, hcreated.timers, hrows]
        rw [hsame]
        simpa [hcount, Tx.exec] using hmove
    have htarget : ∀ kind, (slaTimerTargetFor kind ticket.status answer ticket.resolvedAt).state.phase =
        f.target kind := by
      intro kind
      have hreplied := stampFirstResponse_isSome htenant (hanswered ticket hmem) hstamp
      have hresolved : ticket.resolvedAt.isSome = f.resolved := by
        rw [hf']
        rfl
      have hstatus : ticket.status = f.status := by
        rw [hf']
        rfl
      rw [hstatus]
      exact slaTimerTargetFor_phase (by rw [hreplied, hf']; rfl) hresolved kind
    have hreconciled := reconciled_of_created hok₁ hok₂ hlater₂ htenant hid (by rw [hf']; rfl) htarget hprov₁ hcreated
      (by rw [hframe.2.2.2.2.1, hfacts₁]) ?_ hloop
    · refine ⟨hreconciled.provisioned, hreconciled.there, fun kind minutes hminutes => ?_⟩
      rw [hreconciled.turned kind minutes hminutes]
      simp only [SlaDb.watchOf, SlaDb.timerOf, htimers]
    · intro priority kind
      rw [hwindows, hdefaulted.windowsFor]

end WhatsappCrm
