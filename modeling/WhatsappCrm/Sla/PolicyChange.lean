/-
Purpose: Changes of a tenant's policies (`sla/sla-policy.service.ts`), and what becomes of a ticket whose timers are already
  running.
-/
import WhatsappCrm.Sla.Schedule

namespace WhatsappCrm

open Interleaving Table

/-- `SlaPolicyUpdateInput`: what is absent is left alone, and a window may be taken away. -/
structure SlaPolicyUpdateInput where
  name : Option String := none
  firstResponseMinutes : Option (Option Nat) := none
  resolutionMinutes : Option (Option Nat) := none
  isActive : Option Bool := none

def SlaPolicy.edit (input : SlaPolicyUpdateInput) (p : SlaPolicy) : SlaPolicy :=
  { p with
    name := input.name.getD p.name
    firstResponseMinutes := input.firstResponseMinutes.getD p.firstResponseMinutes
    resolutionMinutes := input.resolutionMinutes.getD p.resolutionMinutes
    isActive := input.isActive.getD p.isActive }

/-- A change of a policy: a policy is written when its tenant is provisioned, and edited, turned on and turned off by
    `update`. -/
inductive PolicyChange where
  | create (policy : SlaPolicy)
  | update (tenantId policyId : Uuid) (input : SlaPolicyUpdateInput)

inductive PolicyError where
  | notFound (policyId : Uuid)
  | uniqueViolation

def SlaDb.nameTaken (db : SlaDb) (tenantId policyId : Uuid) (input : SlaPolicyUpdateInput) : Bool :=
  db.slaPolicies.any fun p => p.tenantId = tenantId ∧ p.id ≠ policyId ∧ some p.name = input.name

/-- A change on a database: the statement of `create`, or of `update`. -/
def PolicyChange.apply (change : PolicyChange) (db : SlaDb) : Except PolicyError SlaDb :=
  match change with
  | .create policy =>
    if db.policyTaken policy then .error .uniqueViolation
    else .ok { db with slaPolicies := db.slaPolicies ++ [policy] }
  | .update tenantId policyId input =>
    match db.findPolicy tenantId policyId with
    | none => .error (.notFound policyId)
    | some _ =>
      if db.nameTaken tenantId policyId input then .error .uniqueViolation
      else .ok { db with
        slaPolicies := updateWhere (fun p => p.id = policyId ∧ p.tenantId = tenantId) (SlaPolicy.edit input)
          db.slaPolicies }

/-- A job that commits, or whatever else happens meanwhile. A job that fails leaves everything as it was. -/
inductive FollowUp where
  | evaluate (tenantId ticketId : Uuid) (ids : NewIds)
  | sweep (tenantId : Uuid) (ids : Uuid → NewIds) (timerIds skipped : List Uuid)
  | meanwhile (base : TicketDb)

def FollowUp.Takes : FollowUp → SlaDb → SlaDb → Prop
  | .evaluate tenantId ticketId ids, a, b =>
    ∃ summary, (slaProgram (.evaluate tenantId ticketId ids)).alone a = (.evaluated (.ok summary), b)
  | .sweep tenantId ids timerIds skipped, a, b =>
    ∃ breaches, (slaProgram (.breachChunk tenantId ids timerIds skipped)).alone a = (.breached (.ok breaches), b)
  | .meanwhile base, a, b => b = a.withBase base

def Followed : List FollowUp → SlaDb → SlaDb → Prop
  | [], a, b => b = a
  | f :: fs, a, b => ∃ a', f.Takes a a' ∧ Followed fs a' b

def SlaTimer.origin (t : SlaTimer) : Uuid × Uuid × SlaTargetKind := (t.id, t.policyId, t.kind)

variable {t : SlaTimer}

theorem SameTarget.origin (h : SameTarget t t') : t'.origin = t.origin := by
  rw [SlaTimer.origin, SlaTimer.origin, h.id, h.policyId, h.kind]

def KeepsTimers (tenantId ticketId : Uuid) (db db' : SlaDb) : Prop :=
  ∀ fs d', Followed fs db' d' →
    (d'.timersOf tenantId ticketId).map SlaTimer.origin = (db.timersOf tenantId ticketId).map SlaTimer.origin

/-- Besides, they are the same as where the change was never made and the same followed. -/
structure NotRetroactive (tenantId ticketId : Uuid) (db db' : SlaDb) : Prop where
  kept : KeepsTimers tenantId ticketId db db'
  unaffected : ∀ fs d d', Followed fs db d → Followed fs db' d' →
    ∀ t ∈ db.timersOf tenantId ticketId, d'.findTimer tenantId t.id = d.findTimer tenantId t.id

def SlaDb.AllHeld (db : SlaDb) (tenantId ticketId : Uuid) : Prop :=
  ∀ timer ∈ (db.timersOf tenantId ticketId).head?, ∀ policy ∈ db.findPolicy tenantId timer.policyId,
    ∀ kind, policy.windowFor kind ≠ none → ∃ t ∈ db.timersOf tenantId ticketId, t.kind = kind

def SlaDb.Linked (db : SlaDb) : Prop :=
  ∀ t ∈ db.slaTimers, db.findPolicy t.tenantId t.policyId ≠ none

section Writes

variable {a b : SlaDb} {tenantId ticketId timerId : Uuid} {now : Millis}

def SlaTimer.turnTo (target : SlaTimerTarget) (now : Millis) (t : SlaTimer) : SlaTimer :=
  if target.admits t.state then
    match transitioned target now t with
    | .ok t' => t'
    | .error _ => t
  else t

def SlaTimer.breachDue (now : Millis) (t : SlaTimer) : SlaTimer :=
  if t.isDue now then { t with state := .breached, breachedAt := some now } else t

theorem SlaTimer.turnTo_sameTarget (target : SlaTimerTarget) (now : Millis) (t : SlaTimer) :
    SameTarget t (t.turnTo target now) := by
  rw [turnTo]
  split
  · rename_i hadmits
    split
    · rename_i t' h
      exact (transitioned_move hadmits h).1.sameTarget
    · exact .refl t
  · exact .refl t

theorem SlaTimer.breachDue_sameTarget (now : Millis) (t : SlaTimer) : SameTarget t (t.breachDue now) := by
  rw [breachDue]
  split
  · exact ⟨rfl, rfl, rfl, rfl, rfl, rfl⟩
  · exact .refl t

def SlaTimer.named (tenantId timerId : Uuid) (t : SlaTimer) : Bool := t.id = timerId ∧ t.tenantId = tenantId

structure Rewrites (tenantId timerId : Uuid) (f : SlaTimer → SlaTimer) (a b : SlaDb) : Prop where
  timers : b.slaTimers = updateWhere (SlaTimer.named tenantId timerId) f a.slaTimers
  policies : b.slaPolicies = a.slaPolicies
  tickets : b.base.tickets = a.base.tickets
  messages : b.base.messages = a.base.messages

theorem SlaTimer.named_iff : t.named tenantId timerId = true ↔ t.id = timerId ∧ t.tenantId = tenantId := by
  simp [named]

theorem eq_of_named (hid : UniqueBy SlaTimer.idEntry a.slaTimers) (ht : t ∈ a.slaTimers)
    (hu : u ∈ a.slaTimers) (htid : t.id = timerId) (huid : u.id = timerId) : u = t :=
  hid.eq_of_entry hu ht (k := timerId) (congrArg some huid) (congrArg some htid)

variable {f : SlaTimer → SlaTimer}

theorem putTimer_eq (hid : UniqueBy SlaTimer.idEntry a.slaTimers) (hfind : a.findTimer tenantId timerId = some t) (hf : SameTarget t (f t)) :
    (a.putTimer (f t)).slaTimers = updateWhere (SlaTimer.named tenantId timerId) f a.slaTimers := by
  obtain ⟨ht, htid, htenant⟩ := SlaDb.findTimer_some hfind
  rw [SlaDb.putTimer, updateWhere, updateWhere]
  apply List.map_congr_left
  intro u hu
  by_cases huid : u.id = timerId
  · obtain rfl := eq_of_named hid ht hu htid huid
    have hnamed : u.named tenantId timerId = true := SlaTimer.named_iff.mpr ⟨htid, htenant⟩
    simp [hnamed, hf.id]
  · have hnamed : u.named tenantId timerId = false := by simp [SlaTimer.named, huid]
    simp [hnamed, hf.id, htid, huid]

theorem Rewrites.of_fixed (h : ∀ t ∈ a.slaTimers, t.named tenantId timerId = true → f t = t) : Rewrites tenantId timerId f a a :=
  ⟨(updateWhere_of_fixed h).symm, rfl, rfl, rfl⟩

theorem Rewrites.of_none (h : a.findTimer tenantId timerId = none) : Rewrites tenantId timerId f a a := by
  apply Rewrites.of_fixed
  intro t ht hnamed
  have hp := List.find?_eq_none.mp h t ht
  exact absurd hnamed hp

theorem applyTransition_rewrites (hid : UniqueBy SlaTimer.idEntry a.slaTimers)
    (h : a.applyTransition tenantId timerId target now = .ok (rows, b)) :
    Rewrites tenantId timerId (SlaTimer.turnTo target now) a b := by
  simp only [SlaDb.applyTransition] at h
  split at h
  · rename_i hnone
    cases h
    exact .of_none hnone
  · rename_i t hfind
    obtain ⟨ht, htid, _⟩ := SlaDb.findTimer_some hfind
    split at h
    · rename_i hadmits
      simp only [bind, Except.bind] at h
      split at h
      · cases h
      · rename_i t' ht'
        cases h
        have hturn : t.turnTo target now = t' := by simp [SlaTimer.turnTo, hadmits, ht']
        rw [← hturn]
        exact ⟨putTimer_eq hid hfind (t.turnTo_sameTarget target now), rfl, rfl, rfl⟩
    · rename_i hadmits
      cases h
      apply Rewrites.of_fixed
      intro u hu hnamed
      rw [eq_of_named hid ht hu htid (SlaTimer.named_iff.mp hnamed).1]
      simp [SlaTimer.turnTo, hadmits]

theorem breach_rewrites (hid : UniqueBy SlaTimer.idEntry a.slaTimers) (recipientUserIds : List Uuid) :
    Rewrites tenantId timerId (SlaTimer.breachDue now) a (a.breach tenantId timerId now recipientUserIds).2 := by
  simp only [SlaDb.breach]
  split
  · rename_i hnone
    exact .of_none hnone
  · rename_i t hfind
    obtain ⟨ht, htid, _⟩ := SlaDb.findTimer_some hfind
    split
    · rename_i hdue
      have hbreach : t.breachDue now = { t with state := .breached, breachedAt := some now } := by
        simp [SlaTimer.breachDue, hdue]
      rw [← hbreach]
      exact ⟨putTimer_eq hid hfind (t.breachDue_sameTarget now), rfl, rfl, rfl⟩
    · rename_i hdue
      apply Rewrites.of_fixed
      intro u hu hnamed
      rw [eq_of_named hid ht hu htid (SlaTimer.named_iff.mp hnamed).1]
      simp [SlaTimer.breachDue, hdue]

theorem Rewrites.timersOf (hf : ∀ t, SameTarget t (f t)) (h : Rewrites tenantId timerId f a b) (tenantId' : Uuid) :
    b.timersOf tenantId' ticketId = updateWhere (SlaTimer.named tenantId timerId) f (a.timersOf tenantId' ticketId) := by
  rw [SlaDb.timersOf, SlaDb.timersOf, h.timers]
  apply filter_updateWhere
  intro t _ _
  simp [(hf t).ticketId, (hf t).tenantId]

theorem Rewrites.unique (hf : ∀ t, SameTarget t (f t)) (h : Rewrites tenantId timerId f a b)
    (hid : UniqueBy SlaTimer.idEntry a.slaTimers) : UniqueBy SlaTimer.idEntry b.slaTimers := by
  rw [h.timers]
  exact hid.updateWhere fun t _ _ => .inr (congrArg some (hf t).id)

end Writes

section Kept

variable {a b : SlaDb}

theorem findPolicy_append {tenantId : Uuid} (h : a.findPolicy tenantId policyId = some p)
    (policies : List SlaPolicy) :
    ({ a with slaPolicies := a.slaPolicies ++ policies } : SlaDb).findPolicy tenantId policyId = some p := by
  rw [SlaDb.findPolicy] at h
  simp only [SlaDb.findPolicy, List.find?_append, h, Option.some_or]

structure Grown (a b : SlaDb) : Prop where
  unique : UniqueBy SlaTimer.idEntry b.slaTimers
  policies : ∀ tenantId policyId p, a.findPolicy tenantId policyId = some p → b.findPolicy tenantId policyId = some p

theorem SlaWrite.grown {w : SlaWrite} (hid : UniqueBy SlaTimer.idEntry a.slaTimers)
    (h : w.apply a = .ok (rows, b)) : Grown a b := by
  cases w with
  | stampFirstResponse tenantId ticketId respondedAt userId =>
    obtain rfl : _ = b := congrArg Prod.snd (Except.ok.inj h)
    obtain ⟨htimers, hpolicies⟩ := SlaDb.stampFirstResponse_tables a respondedAt userId
    refine ⟨?_, fun _ _ _ hp => ?_⟩
    · rwa [htimers]
    · rwa [SlaDb.findPolicy, hpolicies]
  | createDefault policy =>
    cases (ok_of_ite h).2
    exact ⟨hid, fun _ _ _ hp => findPolicy_append hp [policy]⟩
  | createTimers data =>
    cases h
    refine ⟨?_, fun _ _ _ hp => hp⟩
    exact hid.skipDuplicates (fun x y hclash => by simpa [SlaTimer.idEntry] using Or.inl hclash.2) data
  | applyTransition tenantId timerId target now =>
    have hrewrites := applyTransition_rewrites hid h
    refine ⟨hrewrites.unique (fun t => t.turnTo_sameTarget target now) hid, fun _ _ _ hp => ?_⟩
    rwa [SlaDb.findPolicy, hrewrites.policies]
  | breach tenantId timerId now recipientUserIds =>
    obtain rfl : _ = b := congrArg Prod.snd (Except.ok.inj h)
    have hrewrites : Rewrites tenantId timerId (SlaTimer.breachDue now) a
        (a.breach tenantId timerId now recipientUserIds).2 := breach_rewrites hid recipientUserIds
    refine ⟨hrewrites.unique (fun t => t.breachDue_sameTarget now) hid, fun _ _ _ hp => ?_⟩
    rwa [SlaDb.findPolicy, hrewrites.policies]

theorem slaTx_grown {p : SlaTx α} (hid : UniqueBy SlaTimer.idEntry a.slaTimers)
    (h : p.exec slaWrites a = .ok (x, b)) : Grown a b := by
  refine Tx.exec_keeps (K := Grown a) ?_ ⟨hid, fun _ _ _ hp => hp⟩ h
  intro w s rows s' hs hw
  have hgrown := SlaWrite.grown hs.unique hw
  exact ⟨hgrown.unique, fun tenantId policyId p hp => hgrown.policies _ _ _ (hs.policies _ _ _ hp)⟩

end Kept

structure SameView (tenantId ticketId : Uuid) (a b : SlaDb) : Prop where
  ticket : b.base.findTicket tenantId ticketId = a.base.findTicket tenantId ticketId
  messages : b.base.messages = a.base.messages
  timers : b.timersOf tenantId ticketId = a.timersOf tenantId ticketId

section View

variable {a b a' : SlaDb} {tenantId ticketId tenant : Uuid} {now : Millis}

theorem SameView.refl (a : SlaDb) : SameView tenantId ticketId a a := ⟨rfl, rfl, rfl⟩

theorem SameView.symm (h : SameView tenantId ticketId a b) : SameView tenantId ticketId b a :=
  ⟨h.ticket.symm, h.messages.symm, h.timers.symm⟩

theorem SameView.trans (h : SameView tenantId ticketId a b) (h' : SameView tenantId ticketId b c) :
    SameView tenantId ticketId a c :=
  ⟨h'.ticket.trans h.ticket, h'.messages.trans h.messages, h'.timers.trans h.timers⟩

def stampRow (tenant ticket : Uuid) (respondedAt : Millis) (userId : Option Uuid) (t : Ticket) : Ticket :=
  if SlaDb.unanswered tenant ticket t then { t with firstRespondedAt := some respondedAt, firstResponseUserId := userId }
  else t

theorem stampFirstResponse_findTicket (db : SlaDb) (tenant ticket : Uuid) (respondedAt : Millis)
    (userId : Option Uuid) :
    (db.stampFirstResponse tenant ticket respondedAt userId).2.base.findTicket tenantId ticketId =
      (db.base.findTicket tenantId ticketId).map (stampRow tenant ticket respondedAt userId) := by
  rw [SlaDb.stampFirstResponse]
  split
  · exact find?_updateWhere
      (f := fun t : Ticket => { t with firstRespondedAt := some respondedAt, firstResponseUserId := userId })
      (fun _ => rfl) db.base.tickets
  · rename_i hnone
    cases hfind : db.base.findTicket tenantId ticketId with
    | none => rfl
    | some t =>
      have hnot : SlaDb.unanswered tenant ticket t = false := by
        by_contra hunanswered
        exact hnone (List.any_eq_true.mpr ⟨t, (TicketDb.findTicket_some hfind).1, by simpa using hunanswered⟩)
      simp [stampRow, hnot]

theorem stampFirstResponse_messages (db : SlaDb) (tenant ticket : Uuid) (respondedAt : Millis)
    (userId : Option Uuid) :
    (db.stampFirstResponse tenant ticket respondedAt userId).2.base.messages = db.base.messages := by
  rw [SlaDb.stampFirstResponse]
  split <;> rfl

theorem SameView.stamp (h : SameView tenantId ticketId a b) (tenant ticket : Uuid) (respondedAt : Millis)
    (userId : Option Uuid) : SameView tenantId ticketId (a.stampFirstResponse tenant ticket respondedAt userId).2
      (b.stampFirstResponse tenant ticket respondedAt userId).2 := by
  refine ⟨?_, ?_, ?_⟩
  · rw [stampFirstResponse_findTicket, stampFirstResponse_findTicket, h.ticket]
  · rw [stampFirstResponse_messages, stampFirstResponse_messages, h.messages]
  · rw [SlaDb.timersOf, SlaDb.timersOf, (a.stampFirstResponse_tables respondedAt userId).1,
      (b.stampFirstResponse_tables respondedAt userId).1]
    exact h.timers

theorem SameView.stamp_other (a : SlaDb) {ticket : Uuid} (hother : ¬ (tenant = tenantId ∧ ticket = ticketId))
    (respondedAt : Millis) (userId : Option Uuid) :
    SameView tenantId ticketId a (a.stampFirstResponse tenant ticket respondedAt userId).2 := by
  refine ⟨?_, stampFirstResponse_messages .., ?_⟩
  · rw [stampFirstResponse_findTicket]
    cases hfind : a.base.findTicket tenantId ticketId with
    | none => rfl
    | some t =>
      obtain ⟨_, hid, htenant⟩ := TicketDb.findTicket_some hfind
      have hnot : SlaDb.unanswered tenant ticket t = false := by
        simp only [SlaDb.unanswered, decide_eq_false_iff_not]
        rintro ⟨htn, htk, _⟩
        exact hother ⟨htn.symm.trans htenant, htk.symm.trans hid⟩
      simp [stampRow, hnot]
  · rw [SlaDb.timersOf, (a.stampFirstResponse_tables respondedAt userId).1]
    rfl

variable {ticket : Ticket} {timers : List SlaTimer} {ids : Uuid → NewIds} {timerIds skipped : List Uuid}
  {candidates : List AlertCandidate}

theorem stampFirstResponse_same (h : SameView tenantId ticketId a b)
    (ha : (stampFirstResponse tenant ticket).exec slaWrites a = .ok (x, a'))
    (hb : (stampFirstResponse tenant ticket).exec slaWrites b = .ok (y, b')) :
    x = y ∧ SameView tenantId ticketId a' b' := by
  cases hresponded : ticket.firstRespondedAt with
  | some =>
    simp only [stampFirstResponse, hresponded] at ha hb
    cases ha
    cases hb
    exact ⟨rfl, h⟩
  | none =>
    cases hconversation : ticket.conversationId with
    | none =>
      simp only [stampFirstResponse, hresponded, hconversation] at ha hb
      cases ha
      cases hb
      exact ⟨rfl, h⟩
    | some conversationId =>
      have hreply : b.firstReply tenant conversationId ticket.createdAt =
          a.firstReply tenant conversationId ticket.createdAt := by
        simp only [SlaDb.firstReply, h.messages]
      simp only [stampFirstResponse, hresponded, hconversation, Tx.bind_def, Tx.bind_query, Tx.exec, hreply] at ha hb
      cases hfirst : a.firstReply tenant conversationId ticket.createdAt with
      | none =>
        simp only [hfirst] at ha hb
        cases ha
        cases hb
        exact ⟨rfl, h⟩
      | some =>
        simp only [hfirst] at ha hb
        cases ha
        cases hb
        exact ⟨rfl, h.stamp ..⟩

theorem stampFirstResponse_other (hother : ¬ (tenant = tenantId ∧ ticket.id = ticketId))
    (ha : (stampFirstResponse tenant ticket).exec slaWrites a = .ok (x, a')) : SameView tenantId ticketId a a' := by
  simp only [stampFirstResponse] at ha
  split at ha
  · cases ha
    exact .refl a
  · cases ha
    exact .refl a
  · simp only [Tx.bind_def, Tx.bind_query, Tx.exec] at ha
    split at ha
    · cases ha
      exact .refl a
    · cases ha
      exact .stamp_other a hother ..

/-- The loop of `reconcileTimers` on the timers of any one ticket. -/
def turnAll (tenant : Uuid) (now : Millis) (ticket : Ticket) (firstRespondedAt : Option Millis) :
    List SlaTimer → List SlaTimer → List SlaTimer
  | [], ts => ts
  | timer :: timers, ts =>
    let target := slaTimerTargetFor timer.kind ticket.status firstRespondedAt ticket.resolvedAt
    turnAll tenant now ticket firstRespondedAt timers
      (if timer.state.isMutable ∧ timer.state ≠ target.state then
        updateWhere (SlaTimer.named tenant timer.id) (SlaTimer.turnTo target now) ts
      else ts)

theorem turnAll_origin (tenant : Uuid) (now : Millis) (ticket : Ticket) (firstRespondedAt : Option Millis)
    (timers ts : List SlaTimer) :
    (turnAll tenant now ticket firstRespondedAt timers ts).map SlaTimer.origin = ts.map SlaTimer.origin := by
  induction timers generalizing ts with
  | nil => rfl
  | cons timer timers ih =>
    rw [turnAll]
    refine (ih _).trans ?_
    split
    · exact map_updateWhere (fun t => (t.turnTo_sameTarget _ now).origin) ts
    · rfl

theorem turnAll_other (h : ∀ t ∈ timers, ∀ u ∈ ts, u.named tenant t.id = false) :
    turnAll tenant now ticket firstRespondedAt timers ts = ts := by
  induction timers with
  | nil => rfl
  | cons timer timers ih =>
    have hnone := updateWhere_of_none (f := SlaTimer.turnTo
      (slaTimerTargetFor timer.kind ticket.status firstRespondedAt ticket.resolvedAt) now) (h timer List.mem_cons_self)
    rw [turnAll, hnone, ite_self]
    exact ih fun t ht => h t (List.mem_cons_of_mem _ ht)

structure Turns (turn : List SlaTimer → List SlaTimer) (a b : SlaDb) : Prop where
  timers : ∀ tenantId ticketId, b.timersOf tenantId ticketId = turn (a.timersOf tenantId ticketId)
  tickets : b.base.tickets = a.base.tickets
  messages : b.base.messages = a.base.messages

theorem moveTimers_turns (hid : UniqueBy SlaTimer.idEntry a.slaTimers)
    (h : (moveTimers tenant now ticket firstRespondedAt timers).exec slaWrites a = .ok (moved, b)) :
    Turns (turnAll tenant now ticket firstRespondedAt timers) a b := by
  induction timers generalizing a moved with
  | nil =>
    cases h
    exact ⟨fun _ _ => rfl, rfl, rfl⟩
  | cons timer timers ih =>
    simp only [moveTimers] at h
    split at h
    · rename_i hmutable
      obtain ⟨movedOne, a₁, hone, h⟩ := Tx.exec_bind.mp h
      obtain ⟨movedRest, a₂, hloop, h⟩ := Tx.exec_bind.mp h
      cases h
      simp only [moveTimer] at hone
      split at hone
      · rename_i hstate
        cases hone
        obtain ⟨htimers, htickets, hmessages⟩ := ih hid hloop
        refine ⟨fun tenantId ticketId => ?_, htickets, hmessages⟩
        rw [htimers, turnAll]
        simp [hstate]
      · rename_i hstate
        obtain ⟨rows, a₁', hwrite, hdone⟩ := Tx.exec_bind.mp hone
        cases hdone
        have hrewrites := applyTransition_rewrites hid (Tx.exec_execute.mp hwrite)
        have hsame := fun t : SlaTimer => t.turnTo_sameTarget
          (slaTimerTargetFor timer.kind ticket.status firstRespondedAt ticket.resolvedAt) now
        obtain ⟨htimers, htickets, hmessages⟩ := ih (hrewrites.unique hsame hid) hloop
        refine ⟨fun tenantId ticketId => ?_, htickets.trans hrewrites.tickets, hmessages.trans hrewrites.messages⟩
        rw [htimers, hrewrites.timersOf hsame, turnAll]
        simp [hmutable, hstate]
    · rename_i hstopped
      obtain ⟨htimers, htickets, hmessages⟩ := ih hid h
      refine ⟨fun tenantId ticketId => ?_, htickets, hmessages⟩
      rw [htimers, turnAll]
      simp [hstopped]

theorem Turns.sameView (ha : Turns turn a a') (hb : Turns turn b b')
    (h : SameView tenantId ticketId a b) : SameView tenantId ticketId a' b' := by
  refine ⟨?_, ?_, ?_⟩
  · rw [TicketDb.findTicket, TicketDb.findTicket, ha.tickets, hb.tickets]
    exact h.ticket
  · rw [ha.messages, hb.messages, h.messages]
  · rw [ha.timers, hb.timers, h.timers]

structure Standing (tenantId ticketId : Uuid) (db : SlaDb) : Prop where
  unique : UniqueBy SlaTimer.idEntry db.slaTimers
  started : ∃ timer policy, (db.timersOf tenantId ticketId).head? = some timer ∧
    db.findPolicy tenantId timer.policyId = some policy
  held : db.AllHeld tenantId ticketId

theorem createMissingTimers_standing (h : Standing tenantId ticketId a) {ids : NewIds}
    (htimers : timers = a.timersOf tenantId ticketId)
    (hcreate : (createMissingTimers tenantId ids now ticket timers).exec slaWrites b = .ok (created, b'))
    (hpolicies : b.slaPolicies = a.slaPolicies) : created = 0 ∧ b' = b := by
  obtain ⟨timer, policy, hhead, hpolicy⟩ := h.started
  subst htimers
  have hfind : b.findPolicy tenantId timer.policyId = some policy := by rwa [SlaDb.findPolicy, hpolicies]
  have hnone : missingTimers tenantId ids ticket ((a.timersOf tenantId ticketId).map (·.kind)) policy = [] := by
    apply List.filterMap_eq_nil_iff.mpr
    intro kind _
    split
    · rfl
    · rename_i hmissing
      by_contra hwindow
      have hopen : policy.windowFor kind ≠ none := by
        intro hnone
        simp [hnone] at hwindow
      obtain ⟨t, ht, rfl⟩ := h.held timer hhead policy hpolicy kind hopen
      exact hmissing (by simpa using ⟨t, ht, rfl⟩)
  simp only [createMissingTimers, policyForTicket, hhead, Tx.bind_def, Tx.bind_query, Tx.exec, hfind, hnone] at hcreate
  cases hcreate
  exact ⟨rfl, rfl⟩

theorem reconcile_standing (h : Standing tenantId ticketId a) {ids : NewIds}
    (ha : (reconcile tenantId ids now ticketId).exec slaWrites a = .ok (summary, a')) :
    ∃ ticket answer a₁, a.base.findTicket tenantId ticketId = some ticket ∧
      (stampFirstResponse tenantId ticket).exec slaWrites a = .ok (answer, a₁) ∧
      Turns (turnAll tenantId now ticket answer (a.timersOf tenantId ticketId)) a₁ a' := by
  simp only [reconcile, Tx.bind_def, Tx.bind_query, Tx.exec] at ha
  split at ha
  · cases ha
  · rename_i ticket hticket
    obtain ⟨answer, a₁, hstamp, ha⟩ := Tx.exec_bind.mp ha
    obtain ⟨created, a₂, hcreate, ha⟩ := Tx.exec_bind.mp ha
    obtain ⟨moved, a₃, hmove, ha⟩ := Tx.exec_bind.mp ha
    cases ha
    obtain ⟨rfl, rfl⟩ := createMissingTimers_standing h rfl hcreate (stampFirstResponse_tables hstamp).2
    exact ⟨ticket, answer, a₂, hticket, hstamp, moveTimers_turns (slaTx_grown h.unique hstamp).unique hmove⟩

theorem reconcile_same (ha : Standing tenantId ticketId a) (hb : Standing tenantId ticketId b)
    (h : SameView tenantId ticketId a b) {ids : NewIds}
    (hxa : (reconcile tenantId ids now ticketId).exec slaWrites a = .ok (x, a'))
    (hyb : (reconcile tenantId ids' now ticketId).exec slaWrites b = .ok (y, b')) :
    SameView tenantId ticketId a' b' := by
  obtain ⟨ticket, answer, a₁, hticket, hstamp, hturns⟩ := reconcile_standing ha hxa
  obtain ⟨ticket', answer', b₁, hticket', hstamp', hturns'⟩ := reconcile_standing hb hyb
  rw [h.ticket, hticket] at hticket'
  cases hticket'
  obtain ⟨rfl, hsame⟩ := stampFirstResponse_same h hstamp hstamp'
  rw [h.timers] at hturns'
  exact hturns.sameView hturns' hsame

structure KeepsOrigins (tenantId ticketId : Uuid) (a b : SlaDb) : Prop where
  grown : Grown a b
  timers : (b.timersOf tenantId ticketId).map SlaTimer.origin = (a.timersOf tenantId ticketId).map SlaTimer.origin

theorem KeepsOrigins.refl (hid : UniqueBy SlaTimer.idEntry a.slaTimers) : KeepsOrigins tenantId ticketId a a :=
  ⟨⟨hid, fun _ _ _ hp => hp⟩, rfl⟩

theorem KeepsOrigins.trans (h : KeepsOrigins tenantId ticketId a b) (h' : KeepsOrigins tenantId ticketId b c) :
    KeepsOrigins tenantId ticketId a c :=
  ⟨⟨h'.grown.unique, fun _ _ _ hp => h'.grown.policies _ _ _ (h.grown.policies _ _ _ hp)⟩,
    h'.timers.trans h.timers⟩

theorem KeepsOrigins.standing (h : KeepsOrigins tenantId ticketId a b) (ha : Standing tenantId ticketId a) :
    Standing tenantId ticketId b := by
  obtain ⟨timer, policy, hhead, hpolicy⟩ := ha.started
  have hheads : ((b.timersOf tenantId ticketId).head?).map SlaTimer.origin = some timer.origin := by
    rw [← List.head?_map, h.timers, List.head?_map, hhead, Option.map_some]
  obtain ⟨timer', hhead', horigin⟩ := Option.map_eq_some_iff.mp hheads
  have hpolicy' : b.findPolicy tenantId timer'.policyId = some policy := by
    rw [show timer'.policyId = timer.policyId from congrArg (·.2.1) horigin]
    exact h.grown.policies _ _ _ hpolicy
  refine ⟨h.grown.unique, ⟨timer', policy, hhead', hpolicy'⟩, ?_⟩
  intro t ht p hp kind hkind
  rw [hhead', Option.mem_some_iff] at ht
  subst ht
  rw [hpolicy', Option.mem_some_iff] at hp
  subst hp
  obtain ⟨u, hu, rfl⟩ := ha.held timer hhead policy hpolicy kind hkind
  have hmem : u.origin ∈ (b.timersOf tenantId ticketId).map SlaTimer.origin := by
    rw [h.timers]
    exact List.mem_map_of_mem hu
  obtain ⟨u', hu', hsame⟩ := List.mem_map.mp hmem
  exact ⟨u', hu', congrArg (·.2.2) hsame⟩

theorem reconcile_keeps (ha : Standing tenantId ticketId a) {ids : NewIds} (h : (reconcile tenantId ids now ticketId).exec slaWrites a = .ok (x, a')) : KeepsOrigins tenantId ticketId a a' := by
  obtain ⟨ticket, answer, a₁, _, hstamp, hturns⟩ := reconcile_standing ha h
  refine ⟨slaTx_grown ha.unique h, ?_⟩
  rw [hturns.timers, turnAll_origin, SlaDb.timersOf, (stampFirstResponse_tables hstamp).1]
  rfl

theorem SameView.keeps (hgrown : Grown a b) (h : SameView tenantId ticketId a b) : KeepsOrigins tenantId ticketId a b :=
  ⟨hgrown, by rw [h.timers]⟩

theorem named_other (hid : UniqueBy SlaTimer.idEntry a.slaTimers) {ticket : Uuid}
    (hother : ¬ (tenant = tenantId ∧ ticket = ticketId)) :
    ∀ t ∈ a.timersOf tenant ticket, ∀ u ∈ a.timersOf tenantId ticketId, u.named tenant t.id = false := by
  intro t ht u hu
  simp only [SlaDb.timersOf, List.mem_filter, decide_eq_true_eq] at ht hu
  by_contra hnamed
  rw [Bool.not_eq_false] at hnamed
  have hsame := eq_of_named hid ht.1 hu.1 rfl (SlaTimer.named_iff.mp hnamed).1
  subst hsame
  exact hother ⟨ht.2.2.symm.trans hu.2.2, ht.2.1.symm.trans hu.2.1⟩

theorem policyForTicket_sameView
    (h : (policyForTicket tenant policyId now ticket timers).exec slaWrites a = .ok (policy, b)) :
    SameView tenantId ticketId a b := by
  have htimers := (policyForTicket_exec h).1
  have hbase : b.base = a.base := by
    cases hhead : timers.head? with
    | some =>
      simp only [policyForTicket, hhead] at h
      cases h
      rfl
    | none =>
      simp only [policyForTicket, hhead, resolveForTicket, Tx.bind_def, Tx.bind_query, Tx.exec] at h
      split at h
      · obtain ⟨rows, a₁, hwrite, hdone⟩ := Tx.exec_bind.mp h
        cases hdone
        have hcreate := Tx.exec_execute.mp hwrite
        cases (ok_of_ite hcreate).2
        rfl
      · cases h
        rfl
  refine ⟨by rw [hbase], by rw [hbase], ?_⟩
  rw [SlaDb.timersOf, htimers]
  rfl

theorem createMissingTimers_other {ids : NewIds} (hother : ¬ (tenant = tenantId ∧ ticket.id = ticketId))
    (h : (createMissingTimers tenant ids now ticket timers).exec slaWrites a = .ok (created, b)) :
    SameView tenantId ticketId a b := by
  obtain ⟨policy, a₁, hpolicy, hrest⟩ := Tx.exec_bind.mp h
  have hsame : SameView tenantId ticketId a a₁ := policyForTicket_sameView hpolicy
  split at hrest
  · cases hrest
    exact hsame
  · rename_i p
    split at hrest
    · cases hrest
      exact hsame
    · obtain ⟨written, a₂, hwrite, hdone⟩ := Tx.exec_bind.mp hrest
      cases hdone
      obtain rfl : _ = b := congrArg Prod.snd (Except.ok.inj (Tx.exec_execute.mp hwrite))
      refine hsame.trans ⟨rfl, rfl, ?_⟩
      simp only [SlaDb.timersOf, SlaDb.createTimers, List.filter_append]
      rw [List.append_right_eq_self]
      apply List.filter_eq_nil_iff.mpr
      intro t ht
      obtain ⟨data, hdata, rfl⟩ := List.mem_map.mp ht
      obtain ⟨kind, minutes, _, rfl⟩ := mem_missingTimers (mem_of_mem_skipDuplicates hdata)
      intro hrow
      obtain ⟨hticket, htenant⟩ := of_decide_eq_true hrow
      exact hother ⟨htenant, hticket⟩

theorem Turns.sameView_other (h : Turns (turnAll tenant now ticket firstRespondedAt timers) a b)
    (hother : ∀ t ∈ timers, ∀ u ∈ a.timersOf tenantId ticketId, u.named tenant t.id = false) :
    SameView tenantId ticketId a b := by
  refine ⟨?_, h.messages, ?_⟩
  · rw [TicketDb.findTicket, h.tickets]
    rfl
  · rw [h.timers, turnAll_other hother]

theorem reconcile_other (hid : UniqueBy SlaTimer.idEntry a.slaTimers) {ticket : Uuid}
    (hother : ¬ (tenant = tenantId ∧ ticket = ticketId)) {ids : NewIds} (h : (reconcile tenant ids now ticket).exec slaWrites a = .ok (x, b)) : SameView tenantId ticketId a b := by
  simp only [reconcile, Tx.bind_def, Tx.bind_query, Tx.exec] at h
  split at h
  · cases h
  · rename_i row hrow
    obtain ⟨_, rfl, _⟩ := TicketDb.findTicket_some hrow
    obtain ⟨answer, a₁, hstamp, h⟩ := Tx.exec_bind.mp h
    obtain ⟨created, a₂, hcreate, h⟩ := Tx.exec_bind.mp h
    obtain ⟨moved, a₃, hmove, h⟩ := Tx.exec_bind.mp h
    cases h
    have hid₁ := (slaTx_grown hid hstamp).unique
    have hid₂ := (slaTx_grown hid₁ hcreate).unique
    have hsame : SameView tenantId ticketId a a₂ :=
      (stampFirstResponse_other hother hstamp).trans (createMissingTimers_other hother hcreate)
    simp only [reconcileTimers] at hmove
    split at hmove
    · exact hsame.trans ((moveTimers_turns hid₂ hmove).sameView_other (named_other hid₂ hother))
    · refine hsame.trans ((moveTimers_turns hid₂ hmove).sameView_other ?_)
      rw [hsame.timers]
      exact named_other hid hother

theorem reconcileAll_other
    (hid : UniqueBy SlaTimer.idEntry a.slaTimers) (hother : tenant = tenantId → ticketId ∉ tickets)
    (h : (reconcileAll tenant ids now tickets).exec slaWrites a = .ok (x, b)) : SameView tenantId ticketId a b := by
  induction tickets generalizing a x with
  | nil =>
    cases h
    exact .refl _
  | cons ticket tickets ih =>
    obtain ⟨summary, a₁, hone, hrest⟩ := Tx.exec_bind.mp h
    have hne : ¬ (tenant = tenantId ∧ ticket = ticketId) := by
      rintro ⟨htenant, rfl⟩
      exact hother htenant List.mem_cons_self
    exact (reconcile_other hid hne hone).trans (ih (slaTx_grown hid hone).unique
      (fun htenant hmem => hother htenant (List.mem_cons_of_mem _ hmem)) hrest)

theorem reconcileAll_split {tickets : List Uuid} (hnodup : tickets.Nodup)
    (hid : UniqueBy SlaTimer.idEntry a.slaTimers) (hmem : ticketId ∈ tickets)
    (h : (reconcileAll tenantId ids now tickets).exec slaWrites a = .ok (x, b)) :
    ∃ a₁ a₂ summary, Grown a a₁ ∧ SameView tenantId ticketId a a₁ ∧
      (reconcile tenantId (ids ticketId) now ticketId).exec slaWrites a₁ = .ok (summary, a₂) ∧
      SameView tenantId ticketId a₂ b := by
  induction tickets generalizing a x with
  | nil => cases hmem
  | cons ticket tickets ih =>
    obtain ⟨hnot, hnodup⟩ := List.nodup_cons.mp hnodup
    obtain ⟨summary, a₁, hone, hrest⟩ := Tx.exec_bind.mp h
    have hgrown := slaTx_grown hid hone
    rcases List.mem_cons.mp hmem with rfl | hmem
    · exact ⟨_, a₁, summary, ⟨hid, fun _ _ _ hp => hp⟩, .refl _, hone,
        reconcileAll_other hgrown.unique (fun _ => hnot) hrest⟩
    · have hne : ¬ (tenantId = tenantId ∧ ticket = ticketId) := by
        rintro ⟨_, rfl⟩
        exact hnot hmem
      obtain ⟨a₂, a₃, summary', hgrown', hbefore, hown, hafter⟩ := ih hnodup hgrown.unique hmem hrest
      refine ⟨a₂, a₃, summary', ⟨hgrown'.unique, ?_⟩, (reconcile_other hid hne hone).trans hbefore, hown, hafter⟩
      exact fun _ _ _ hp => hgrown'.policies _ _ _ (hgrown.policies _ _ _ hp)

theorem mem_dueTickets : ticketId ∈ a.dueTickets tenantId timerIds now ↔
    ∃ t ∈ a.timersOf tenantId ticketId, timerIds.contains t.id ∧ t.isDue now = true := by
  simp only [SlaDb.dueTickets, List.mem_insertionSort, List.mem_dedup, List.mem_map, SlaDb.dueTimers, SlaDb.timersOf,
    List.mem_filter, decide_eq_true_eq]
  constructor
  · rintro ⟨t, ⟨ht, htenant, hid, hdue⟩, rfl⟩
    exact ⟨t, ⟨ht, rfl, htenant⟩, hid, hdue⟩
  · rintro ⟨t, ⟨ht, rfl, htenant⟩, hid, hdue⟩
    exact ⟨t, ⟨ht, htenant, hid, hdue⟩, rfl⟩

theorem nodup_dueTickets (timerIds : List Uuid) : (a.dueTickets tenant timerIds now).Nodup :=
  (List.perm_insertionSort _ _).nodup_iff.mpr (List.nodup_dedup _)

theorem reconcileDueTickets_same (ha : Standing tenantId ticketId a) (hb : Standing tenantId ticketId b)
    (h : SameView tenantId ticketId a b)
    (hxa : (reconcileDueTickets tenant ids now timerIds).exec slaWrites a = .ok (x, a'))
    (hyb : (reconcileDueTickets tenant ids' now timerIds).exec slaWrites b = .ok (y, b')) :
    SameView tenantId ticketId a' b' := by
  by_cases htenant : tenant = tenantId
  · subst htenant
    have hiff : ticketId ∈ b.dueTickets tenant timerIds now ↔ ticketId ∈ a.dueTickets tenant timerIds now := by
      rw [mem_dueTickets, mem_dueTickets, h.timers]
    by_cases hmem : ticketId ∈ a.dueTickets tenant timerIds now
    · obtain ⟨a₁, a₂, xa, hgrownA, hbeforeA, hownA, hafterA⟩ :=
        reconcileAll_split (nodup_dueTickets timerIds) ha.unique hmem hxa
      obtain ⟨b₁, b₂, yb, hgrownB, hbeforeB, hownB, hafterB⟩ :=
        reconcileAll_split (nodup_dueTickets timerIds) hb.unique (hiff.mpr hmem) hyb
      have hsame := reconcile_same ((hbeforeA.keeps hgrownA).standing ha) ((hbeforeB.keeps hgrownB).standing hb)
        ((hbeforeA.symm.trans h).trans hbeforeB) hownA hownB
      exact (hafterA.symm.trans hsame).trans hafterB
    · have hothersA : SameView tenant ticketId a a' := reconcileAll_other ha.unique (fun _ => hmem) hxa
      have hothersB : SameView tenant ticketId b b' :=
        reconcileAll_other hb.unique (fun _ hmemB => hmem (hiff.mp hmemB)) hyb
      exact (hothersA.symm.trans h).trans hothersB
  · have hothersA : SameView tenantId ticketId a a' :=
      reconcileAll_other ha.unique (fun heq => absurd heq htenant) hxa
    have hothersB : SameView tenantId ticketId b b' :=
      reconcileAll_other hb.unique (fun heq => absurd heq htenant) hyb
    exact (hothersA.symm.trans h).trans hothersB

theorem reconcileDueTickets_keeps (ha : Standing tenantId ticketId a) (h : (reconcileDueTickets tenant ids now timerIds).exec slaWrites a = .ok (x, a')) :
    KeepsOrigins tenantId ticketId a a' := by
  have hgrown := slaTx_grown ha.unique h
  by_cases hmem : tenant = tenantId ∧ ticketId ∈ a.dueTickets tenant timerIds now
  · obtain ⟨rfl, hmem⟩ := hmem
    obtain ⟨a₁, a₂, summary, hgrown₁, hbefore, hown, hafter⟩ :=
      reconcileAll_split (nodup_dueTickets timerIds) ha.unique hmem h
    have hkeeps₁ := hbefore.keeps hgrown₁
    have hkeeps₂ := reconcile_keeps (hkeeps₁.standing ha) hown
    refine ⟨hgrown, ?_⟩
    rw [hafter.timers]
    exact (hkeeps₁.trans hkeeps₂).timers
  · refine (reconcileAll_other ha.unique (fun htenant hin => hmem ⟨htenant, hin⟩) h).keeps hgrown

def breachDueAll (tenant : Uuid) (now : Millis) : List SlaTimer → List SlaTimer → List SlaTimer
  | [], ts => ts
  | timer :: timers, ts =>
    breachDueAll tenant now timers (updateWhere (SlaTimer.named tenant timer.id) (SlaTimer.breachDue now) ts)

theorem breachDueAll_origin (timers ts : List SlaTimer) :
    (breachDueAll tenant now timers ts).map SlaTimer.origin = ts.map SlaTimer.origin := by
  induction timers generalizing ts with
  | nil => rfl
  | cons timer timers ih =>
    rw [breachDueAll]
    exact (ih _).trans (map_updateWhere (fun t => (t.breachDue_sameTarget now).origin) ts)

theorem breachDueAll_filter {ts : List SlaTimer}
    (h : ∀ t ∈ timers, p t = false → ∀ i ∈ ts.map SlaTimer.origin, i.1 ≠ t.id) :
    breachDueAll tenant now timers ts = breachDueAll tenant now (timers.filter p) ts := by
  induction timers generalizing ts with
  | nil => rfl
  | cons timer timers ih =>
    have hrest : ∀ us : List SlaTimer, us.map SlaTimer.origin = ts.map SlaTimer.origin →
        breachDueAll tenant now timers us = breachDueAll tenant now (timers.filter p) us := by
      intro us hus
      apply ih
      rw [hus]
      exact fun t ht => h t (List.mem_cons_of_mem _ ht)
    cases hp : p timer with
    | true =>
      rw [List.filter_cons, if_pos hp, breachDueAll, breachDueAll]
      exact hrest _ (map_updateWhere (fun t => (t.breachDue_sameTarget now).origin) ts)
    | false =>
      rw [List.filter_cons, hp, breachDueAll, updateWhere_of_none]
      · exact hrest ts rfl
      · intro u hu
        have hne := h timer List.mem_cons_self hp _ (List.mem_map_of_mem hu)
        simp only [SlaTimer.named, decide_eq_false_iff_not]
        exact fun hnamed => hne hnamed.1

theorem resolveRecipients_exec
    (h : (resolveRecipients tenant candidates ticket).exec slaWrites a = .ok (recipientUserIds, b)) : b = a := by
  simp only [resolveRecipients] at h
  split at h
  · cases h
    rfl
  · split at h
    · cases h
      rfl
    · cases h
      rfl

theorem breachTimer_rewrites (hid : UniqueBy SlaTimer.idEntry a.slaTimers)
    (h : (breachTimer tenant now candidates timer).exec slaWrites a = .ok (breaches, b)) :
    Rewrites tenant timer.id (SlaTimer.breachDue now) a b := by
  have hwritten : ∀ {recipientUserIds rows s}, (Tx.execute SlaStmt.guardedWrite
      (.breach tenant timer.id now recipientUserIds) : SlaTx (List SlaRow)).exec slaWrites a = .ok (rows, s) →
        Rewrites tenant timer.id (SlaTimer.breachDue now) a s := by
    intro recipientUserIds rows s hexec
    obtain rfl : _ = s := congrArg Prod.snd (Except.ok.inj (Tx.exec_execute.mp hexec))
    exact breach_rewrites hid recipientUserIds
  simp only [breachTimer, Tx.bind_def, Tx.bind_query, Tx.exec] at h
  split at h
  · obtain ⟨rows, s, hexec, hdone⟩ := Tx.exec_bind.mp h
    cases hdone
    exact hwritten hexec
  · obtain ⟨recipientUserIds, s₀, hrecipients, hrest⟩ := Tx.exec_bind.mp h
    obtain rfl := resolveRecipients_exec hrecipients
    obtain ⟨rows, s, hexec, hdone⟩ := Tx.exec_bind.mp hrest
    split at hdone
    · cases hdone
      exact hwritten hexec
    · cases hdone
      exact hwritten hexec

theorem breachAll_turns (hid : UniqueBy SlaTimer.idEntry a.slaTimers)
    (h : (breachAll tenant now candidates timers).exec slaWrites a = .ok (breaches, b)) :
    Turns (breachDueAll tenant now timers) a b := by
  induction timers generalizing a breaches with
  | nil =>
    cases h
    exact ⟨fun _ _ => rfl, rfl, rfl⟩
  | cons timer timers ih =>
    obtain ⟨first, a₁, hone, h⟩ := Tx.exec_bind.mp h
    obtain ⟨rest, a₂, hloop, h⟩ := Tx.exec_bind.mp h
    cases h
    have hrewrites := breachTimer_rewrites hid hone
    have hsame := fun t : SlaTimer => t.breachDue_sameTarget now
    obtain ⟨htimers, htickets, hmessages⟩ := ih (hrewrites.unique hsame hid) hloop
    refine ⟨fun tenantId ticketId => ?_, htickets.trans hrewrites.tickets, hmessages.trans hrewrites.messages⟩
    rw [htimers, hrewrites.timersOf hsame, breachDueAll]

def claimedOf (tenant : Uuid) (now : Millis) (timerIds skipped : List Uuid) (ts : List SlaTimer) : List SlaTimer :=
  ts.filter fun t => t.tenantId = tenant ∧ timerIds.contains t.id ∧ t.isDue now ∧ !skipped.contains t.id

theorem breachDueAll_claimed (hid : UniqueBy SlaTimer.idEntry a.slaTimers) (timerIds skipped : List Uuid) :
    breachDueAll tenant now ((a.dueTimers tenant timerIds now).filter fun t => !skipped.contains t.id)
        (a.timersOf tenantId ticketId) =
      breachDueAll tenant now (claimedOf tenant now timerIds skipped (a.timersOf tenantId ticketId))
        (a.timersOf tenantId ticketId) := by
  rw [breachDueAll_filter (p := fun t => decide (t.ticketId = ticketId ∧ t.tenantId = tenantId))]
  · congr 1
    simp only [claimedOf, SlaDb.dueTimers, SlaDb.timersOf, List.filter_filter]
    apply List.filter_congr
    intro t _
    simp only [Bool.decide_and, Bool.and_assoc, Bool.decide_eq_true]
    ac_rfl
  · intro t ht hother i hi heq
    obtain ⟨u, hu, rfl⟩ := List.mem_map.mp hi
    simp only [SlaDb.dueTimers, SlaDb.timersOf, List.mem_filter] at ht hu
    have hsame := eq_of_named hid ht.1.1 hu.1 rfl heq
    rw [hsame, hother] at hu
    cases hu.2

theorem claimAndAlert_exec (hid : UniqueBy SlaTimer.idEntry a.slaTimers)
    (h : (claimAndAlert tenant ids now timerIds skipped).exec slaWrites a = .ok (x, b)) :
    ∃ a₁, (reconcileDueTickets tenant ids now timerIds).exec slaWrites a = .ok ((), a₁) ∧
      Turns (breachDueAll tenant now
        ((a₁.dueTimers tenant timerIds now).filter fun t => !skipped.contains t.id)) a₁ b := by
  simp only [claimAndAlert, claim, Tx.bind_def] at h
  obtain ⟨_, a₁, hreconcile, hrest⟩ := Tx.exec_bind.mp h
  refine ⟨a₁, hreconcile, ?_⟩
  simp only [Tx.bind_query, Tx.exec] at hrest
  split at hrest
  · rename_i hnone
    cases hrest
    rw [hnone]
    exact ⟨fun _ _ => rfl, rfl, rfl⟩
  · exact breachAll_turns (slaTx_grown hid hreconcile).unique hrest

theorem Turns.claimed (hid : UniqueBy SlaTimer.idEntry a.slaTimers)
    (h : Turns (breachDueAll tenant now ((a.dueTimers tenant timerIds now).filter fun t => !skipped.contains t.id)) a b) :
    b.timersOf tenantId ticketId =
      breachDueAll tenant now (claimedOf tenant now timerIds skipped (a.timersOf tenantId ticketId))
        (a.timersOf tenantId ticketId) := by
  rw [h.timers, breachDueAll_claimed hid]

theorem claimAndAlert_keeps (ha : Standing tenantId ticketId a) (h : (claimAndAlert tenant ids now timerIds skipped).exec slaWrites a = .ok (x, b)) :
    KeepsOrigins tenantId ticketId a b := by
  obtain ⟨a₁, hreconcile, hturns⟩ := claimAndAlert_exec ha.unique h
  refine ⟨slaTx_grown ha.unique h, ?_⟩
  rw [hturns.timers, breachDueAll_origin]
  exact (reconcileDueTickets_keeps ha hreconcile).timers

theorem claimAndAlert_same (ha : Standing tenantId ticketId a) (hb : Standing tenantId ticketId b)
    (h : SameView tenantId ticketId a b)
    (hxa : (claimAndAlert tenant ids now timerIds skipped).exec slaWrites a = .ok (x, a'))
    (hyb : (claimAndAlert tenant ids' now timerIds skipped).exec slaWrites b = .ok (y, b')) :
    SameView tenantId ticketId a' b' := by
  obtain ⟨a₁, hreconcileA, hturnsA⟩ := claimAndAlert_exec ha.unique hxa
  obtain ⟨b₁, hreconcileB, hturnsB⟩ := claimAndAlert_exec hb.unique hyb
  have hsame := reconcileDueTickets_same ha hb h hreconcileA hreconcileB
  refine ⟨?_, ?_, ?_⟩
  · rw [TicketDb.findTicket, TicketDb.findTicket, hturnsA.tickets, hturnsB.tickets]
    exact hsame.ticket
  · rw [hturnsA.messages, hturnsB.messages, hsame.messages]
  · rw [hturnsA.claimed (slaTx_grown ha.unique hreconcileA).unique,
      hturnsB.claimed (slaTx_grown hb.unique hreconcileB).unique, hsame.timers]

theorem slaTx_now {p : SlaTx α} (h : p.exec slaWrites a = .ok (x, b)) : b.base.now = a.base.now := by
  refine Tx.exec_keeps (K := fun s => s.base.now = a.base.now) ?_ rfl h
  exact fun w s rows s' hs hw => (SlaWrite.written hw).now_eq.trans hs

theorem takes_evaluate {ticket : Uuid} {ids : NewIds} (h : (FollowUp.evaluate tenant ticket ids).Takes a b) :
    ∃ summary, (reconcile tenant ids a.base.now ticket).exec slaWrites a = .ok (summary, b) := by
  obtain ⟨summary, h⟩ := h
  rw [alone_evaluate] at h
  cases hexec : (reconcile tenant ids a.base.now ticket).exec slaWrites a with
  | error =>
    rw [hexec] at h
    cases h
  | ok =>
    rw [hexec] at h
    cases h
    exact ⟨_, rfl⟩

theorem takes_sweep (h : (FollowUp.sweep tenant ids timerIds skipped).Takes a b) :
    ∃ breaches, (claimAndAlert tenant ids a.base.now timerIds skipped).exec slaWrites a = .ok (breaches, b) := by
  have hnothing : ∀ w s s', slaWrites.apply w s = .ok ([], s') → s' = s :=
    fun w s s' h => (SlaWrite.written h).nothing_eq
  obtain ⟨breaches, h⟩ := h
  simp only [slaProgram, Prog.alone_bind, breachChunk, tenantTransaction, Prog.alone] at h
  rw [Tx.run_alone hnothing (v := a) rfl] at h
  cases hexec : (claimAndAlert tenant ids a.base.now timerIds skipped).exec slaWrites a with
  | error =>
    rw [hexec] at h
    cases h
  | ok =>
    rw [hexec] at h
    cases h
    exact ⟨_, rfl⟩

theorem takes_keeps (ha : Standing tenantId ticketId a) {f : FollowUp} (h : f.Takes a b) :
    KeepsOrigins tenantId ticketId a b := by
  cases f with
  | evaluate tenant ticket =>
    obtain ⟨summary, hexec⟩ := takes_evaluate h
    by_cases hown : tenant = tenantId ∧ ticket = ticketId
    · obtain ⟨rfl, rfl⟩ := hown
      exact reconcile_keeps ha hexec
    · exact (reconcile_other ha.unique hown hexec).keeps (slaTx_grown ha.unique hexec)
  | sweep =>
    obtain ⟨breaches, hexec⟩ := takes_sweep h
    exact claimAndAlert_keeps ha hexec
  | meanwhile base =>
    rw [show b = a.withBase base from h]
    exact ⟨⟨ha.unique, fun _ _ _ hp => hp⟩, rfl⟩

theorem followed_keeps (ha : Standing tenantId ticketId a) (h : Followed fs a b) :
    KeepsOrigins tenantId ticketId a b := by
  induction fs generalizing a with
  | nil =>
    rw [show b = a from h]
    exact .refl ha.unique
  | cons f fs ih =>
    obtain ⟨a₁, hfirst, hrest⟩ := h
    have hkeeps := takes_keeps ha hfirst
    exact hkeeps.trans (ih (hkeeps.standing ha) hrest)

theorem takes_same (ha : Standing tenantId ticketId a) (hb : Standing tenantId ticketId b)
    (h : SameView tenantId ticketId a b) (hnow : b.base.now = a.base.now) {f : FollowUp} (hfa : f.Takes a a')
    (hfb : f.Takes b b') : SameView tenantId ticketId a' b' ∧ b'.base.now = a'.base.now := by
  cases f with
  | evaluate tenant ticket =>
    obtain ⟨x, hxa⟩ := takes_evaluate hfa
    obtain ⟨y, hyb⟩ := takes_evaluate hfb
    refine ⟨?_, (slaTx_now hyb).trans (hnow.trans (slaTx_now hxa).symm)⟩
    by_cases hown : tenant = tenantId ∧ ticket = ticketId
    · obtain ⟨rfl, rfl⟩ := hown
      rw [hnow] at hyb
      exact reconcile_same ha hb h hxa hyb
    · exact ((reconcile_other ha.unique hown hxa).symm.trans h).trans (reconcile_other hb.unique hown hyb)
  | sweep =>
    obtain ⟨x, hxa⟩ := takes_sweep hfa
    obtain ⟨y, hyb⟩ := takes_sweep hfb
    refine ⟨?_, (slaTx_now hyb).trans (hnow.trans (slaTx_now hxa).symm)⟩
    rw [hnow] at hyb
    exact claimAndAlert_same ha hb h hxa hyb
  | meanwhile base =>
    rw [show a' = a.withBase base from hfa, show b' = b.withBase base from hfb]
    exact ⟨⟨rfl, rfl, h.timers⟩, rfl⟩

theorem followed_same (ha : Standing tenantId ticketId a) (hb : Standing tenantId ticketId b)
    (h : SameView tenantId ticketId a b) (hnow : b.base.now = a.base.now)
    (hfa : Followed fs a a') (hfb : Followed fs b b') : SameView tenantId ticketId a' b' := by
  induction fs generalizing a b with
  | nil =>
    rw [show a' = a from hfa, show b' = b from hfb]
    exact h
  | cons f fs ih =>
    obtain ⟨a₁, hfirstA, hrestA⟩ := hfa
    obtain ⟨b₁, hfirstB, hrestB⟩ := hfb
    obtain ⟨hsame, hnow₁⟩ := takes_same ha hb h hnow hfirstA hfirstB
    exact ih ((takes_keeps ha hfirstA).standing ha) ((takes_keeps hb hfirstB).standing hb) hsame hnow₁ hrestA hrestB

theorem SameView.findTimer (ha : UniqueBy SlaTimer.idEntry a.slaTimers) (hb : UniqueBy SlaTimer.idEntry b.slaTimers)
    (h : SameView tenantId ticketId a b) (ht : t ∈ a.timersOf tenantId ticketId) :
    b.findTimer tenantId t.id = a.findTimer tenantId t.id := by
  have hfind : ∀ {d : SlaDb}, UniqueBy SlaTimer.idEntry d.slaTimers → t ∈ d.timersOf tenantId ticketId →
      d.findTimer tenantId t.id = some t := by
    intro d hd hmem
    simp only [SlaDb.timersOf, List.mem_filter, decide_eq_true_eq] at hmem
    refine hd.find?_eq_some (k := t.id) hmem.1 (decide_eq_true ⟨rfl, hmem.2.2⟩) fun u _ hu => ?_
    exact congrArg some (of_decide_eq_true hu).1
  rw [hfind ha ht, hfind hb (h.timers ▸ ht)]

end View

section Change

variable {db db' : SlaDb} {change : PolicyChange}

structure ChangesPolicies (db db' : SlaDb) : Prop where
  base : db'.base = db.base
  timers : db'.slaTimers = db.slaTimers
  policies : ∀ tenantId policyId, db.findPolicy tenantId policyId ≠ none → db'.findPolicy tenantId policyId ≠ none

theorem PolicyChange.changes (h : change.apply db = .ok db') : ChangesPolicies db db' := by
  cases change with
  | create =>
    simp only [PolicyChange.apply] at h
    split at h
    · cases h
    · cases h
      refine ⟨rfl, rfl, fun tenantId policyId hfound => ?_⟩
      obtain ⟨p, hp⟩ := Option.ne_none_iff_exists'.mp hfound
      rw [findPolicy_append hp]
      simp
  | update tenant policy input =>
    simp only [PolicyChange.apply] at h
    split at h
    · cases h
    · split at h
      · cases h
      · cases h
        refine ⟨rfl, rfl, fun tenantId policyId hfound => ?_⟩
        obtain ⟨p, hp⟩ := Option.ne_none_iff_exists'.mp hfound
        rw [SlaDb.findPolicy] at hp
        rw [SlaDb.findPolicy, find?_updateWhere (f := SlaPolicy.edit input) (fun _ => rfl), hp]
        simp

theorem ChangesPolicies.sameView (h : ChangesPolicies db db') (tenantId ticketId : Uuid) :
    SameView tenantId ticketId db db' :=
  ⟨by rw [h.base], by rw [h.base], by rw [SlaDb.timersOf, h.timers]; rfl⟩

/-- A ticket that waits for its contact, with nothing sent: every timer of it is to be paused. -/
def waitingTicket (tenantId ticketId : Uuid) : Ticket where
  id := ticketId
  tenantId
  number := 1
  status := .pending
  conversationId := none
  contactId := none
  createdAt := 0

def waiting (tenantId ticketId : Uuid) : TicketDb := { tickets := [waitingTicket tenantId ticketId] }

theorem moveTimers_waiting (tenantId ticketId : Uuid) (now : Millis) (timers : List SlaTimer) (a : SlaDb) :
    ∃ moved b, (moveTimers tenantId now (waitingTicket tenantId ticketId) none timers).exec slaWrites a =
      .ok (moved, b) := by
  induction timers generalizing a with
  | nil => exact ⟨0, a, rfl⟩
  | cons timer timers ih =>
    have htarget : slaTimerTargetFor timer.kind (waitingTicket tenantId ticketId).status none
        (waitingTicket tenantId ticketId).resolvedAt = .paused := by
      cases timer.kind <;> rfl
    have hwrite : ∃ rows s, a.applyTransition tenantId timer.id .paused now = .ok (rows, s) := by
      simp only [SlaDb.applyTransition]
      split
      · exact ⟨_, _, rfl⟩
      · split
        · exact ⟨_, _, rfl⟩
        · exact ⟨_, _, rfl⟩
    have hone : ∃ moved s, (moveTimer tenantId now timer .paused).exec slaWrites a = .ok (moved, s) := by
      simp only [moveTimer]
      split
      · exact ⟨0, a, rfl⟩
      · obtain ⟨rows, s, hrows⟩ := hwrite
        exact ⟨rows.length, s, Tx.exec_bind.mpr ⟨rows, s, Tx.exec_execute.mpr hrows, rfl⟩⟩
    simp only [moveTimers, htarget]
    split
    · obtain ⟨moved, s, hmoved⟩ := hone
      obtain ⟨rest, b, hrest⟩ := ih s
      exact ⟨moved + rest, b, Tx.exec_bind.mpr ⟨moved, s, hmoved, Tx.exec_bind.mpr ⟨rest, b, hrest, rfl⟩⟩⟩
    · exact ih a

theorem grows_of_not_allHeld {d : SlaDb} {tenantId ticketId : Uuid} (hid : UniqueBy SlaTimer.idEntry d.slaTimers)
    {ids : NewIds} (hfresh : ids.Fresh d) (hmissing : ¬ d.AllHeld tenantId ticketId) : ∃ fs d', Followed fs d d' ∧
      (d'.timersOf tenantId ticketId).map SlaTimer.origin ≠ (d.timersOf tenantId ticketId).map SlaTimer.origin := by
  simp only [SlaDb.AllHeld, not_forall] at hmissing
  obtain ⟨timer, hhead, policy, hpolicy, kind, hwindow, hnone⟩ := hmissing
  rw [Option.mem_def] at hhead hpolicy
  let d₀ := d.withBase (waiting tenantId ticketId)
  let ticket := waitingTicket tenantId ticketId
  let rows := missingTimers tenantId ids ticket ((d₀.timersOf tenantId ticketId).map (·.kind)) policy
  have hfind : d₀.base.findTicket tenantId ticketId = some ticket := by
    simp [d₀, SlaDb.withBase, waiting, TicketDb.findTicket, ticket, waitingTicket]
  have hrows : rows ≠ [] := by
    obtain ⟨minutes, hminutes⟩ := Option.ne_none_iff_exists'.mp hwindow
    apply List.ne_nil_of_mem (a := timerData tenantId ids ticket policy.id kind minutes)
    refine List.mem_filterMap.mpr ⟨kind, by cases kind <;> simp [slaTimerKinds], ?_⟩
    have hnot : ((d₀.timersOf tenantId ticketId).map (·.kind)).contains kind = false := by
      by_contra hcontains
      have hheld : ∃ t ∈ d₀.timersOf tenantId ticketId, t.kind = kind := by simpa using hcontains
      exact hnone hheld
    simp only [hnot, Bool.false_eq_true, if_false, hminutes, Option.map_some]
  have hfresh₀ : ids.Fresh d₀ := ⟨hfresh.unused, hfresh.distinct⟩
  have hwritten : newTimers d₀.slaTimers
      (missingTimers tenantId ids ticket ((d₀.timersOf tenantId ticketId).map (·.kind)) policy) = rows :=
    newTimers_missingTimers hfresh₀ policy
  let d₁ : SlaDb := { d₀ with slaTimers := d₀.slaTimers ++ rows.map (·.row) }
  have hcreate : (createMissingTimers tenantId ids d₀.base.now ticket (d₀.timersOf tenantId ticketId)).exec slaWrites d₀ =
      .ok (rows.length, d₁) := by
    have hhead₀ : (d₀.timersOf tenantId ticketId).head? = some timer := hhead
    have hpolicy₀ : d₀.findPolicy tenantId timer.policyId = some policy := hpolicy
    simp only [createMissingTimers, policyForTicket, hhead₀, Tx.bind_def, Tx.bind_query, Tx.exec, hpolicy₀]
    split
    · rename_i hnil
      exact absurd hnil hrows
    · simp only [Tx.bind_execute, Tx.pure_def, Tx.exec, slaWrites, SlaWrite.apply, SlaDb.createTimers, hwritten,
        List.length_map]
      rfl
  have hpos : 0 < rows.length := List.length_pos_iff.mpr hrows
  obtain ⟨moved, d', hmoves⟩ :=
    moveTimers_waiting tenantId ticketId d₀.base.now (d₁.timersOf tenantId ticketId) d₁
  have hexec : ∃ summary, (reconcile tenantId ids d₀.base.now ticketId).exec slaWrites d₀ = .ok (summary, d') := by
    refine ⟨{ ticketId := ticket.id, created := rows.length, transitioned := moved, firstResponseStamped := false }, ?_⟩
    simp only [reconcile, Tx.bind_def, Tx.bind_query, Tx.exec, hfind]
    refine Tx.exec_bind.mpr ⟨none, d₀, rfl, Tx.exec_bind.mpr ⟨rows.length, d₁, hcreate, ?_⟩⟩
    refine Tx.exec_bind.mpr ⟨moved, d', ?_, rfl⟩
    simp only [reconcileTimers, hpos, decide_true, if_true]
    exact hmoves
  obtain ⟨summary, hexec⟩ := hexec
  refine ⟨[.meanwhile (waiting tenantId ticketId), .evaluate tenantId ticketId ids], d', ?_, ?_⟩
  · refine ⟨d₀, rfl, d', ⟨summary, ?_⟩, rfl⟩
    rw [alone_evaluate, hexec]
  · have hid₁ : UniqueBy SlaTimer.idEntry d₁.slaTimers :=
      (slaTx_grown (show UniqueBy SlaTimer.idEntry d₀.slaTimers from hid) hcreate).unique
    rw [(moveTimers_turns hid₁ hmoves).timers, turnAll_origin]
    intro hsame
    have hlength := congrArg List.length hsame
    have hown : ∀ t ∈ rows.map (·.row), decide (t.ticketId = ticketId ∧ t.tenantId = tenantId) = true := by
      intro t ht
      obtain ⟨data, hdata, rfl⟩ := List.mem_map.mp ht
      obtain ⟨_, _, _, rfl⟩ := mem_missingTimers hdata
      simp [timerData, SlaTimerCreate.row, ticket, waitingTicket]
    have htimers : d₁.timersOf tenantId ticketId = d.timersOf tenantId ticketId ++ rows.map (·.row) := by
      simp only [SlaDb.timersOf, d₁, List.filter_append]
      rw [List.filter_eq_self.mpr hown]
      rfl
    rw [htimers] at hlength
    simp only [List.length_map, List.length_append] at hlength
    omega

/-- A ticket that has timers gains none after a change of a policy exactly when it has one of every kind its policy then
    defines. -/
theorem policy_change_not_retroactive_iff {tenantId ticketId : Uuid} (hid : UniqueBy SlaTimer.idEntry db.slaTimers)
    (hlinked : db.Linked) (hchange : change.apply db = .ok db') (htimers : db.timersOf tenantId ticketId ≠ [])
    {ids : NewIds} (hfresh : ids.Fresh db) : (KeepsTimers tenantId ticketId db db' ↔ db'.AllHeld tenantId ticketId) ∧
      (db.AllHeld tenantId ticketId → (NotRetroactive tenantId ticketId db db' ↔ db'.AllHeld tenantId ticketId)) := by
  have hchanges := change.changes hchange
  have hid' : UniqueBy SlaTimer.idEntry db'.slaTimers := by
    rw [hchanges.timers]
    exact hid
  have hview := hchanges.sameView tenantId ticketId
  obtain ⟨timer, hhead⟩ := Option.isSome_iff_exists.mp (List.isSome_head?.mpr htimers)
  have hfound : db.findPolicy tenantId timer.policyId ≠ none := by
    have hmem := List.mem_of_mem_head? hhead
    simp only [SlaDb.timersOf, List.mem_filter, decide_eq_true_eq] at hmem
    rw [← hmem.2.2]
    exact hlinked timer hmem.1
  obtain ⟨policy, hpolicy⟩ := Option.ne_none_iff_exists'.mp hfound
  obtain ⟨policy', hpolicy'⟩ := Option.ne_none_iff_exists'.mp (hchanges.policies _ _ hfound)
  have hstanding' : db'.AllHeld tenantId ticketId → Standing tenantId ticketId db' :=
    fun hafter => ⟨hid', ⟨timer, policy', by rw [hview.timers, hhead], hpolicy'⟩, hafter⟩
  have hkept : KeepsTimers tenantId ticketId db db' ↔ db'.AllHeld tenantId ticketId := by
    constructor
    · intro hkept
      by_contra hmissing
      have hfresh' : ids.Fresh db' := ⟨hchanges.timers ▸ hfresh.unused, hfresh.distinct⟩
      obtain ⟨fs, d', hfollowed, hgrown⟩ := grows_of_not_allHeld hid' hfresh' hmissing
      rw [hview.timers] at hgrown
      exact hgrown (hkept fs d' hfollowed)
    · intro hafter fs d' hfollowed
      rw [(followed_keeps (hstanding' hafter) hfollowed).timers, hview.timers]
  refine ⟨hkept, fun hbefore => ⟨fun hnot => hkept.mp hnot.kept, fun hafter => ⟨hkept.mpr hafter, ?_⟩⟩⟩
  intro fs d d' hd hd' t ht
  have hstanding : Standing tenantId ticketId db := ⟨hid, ⟨timer, policy, hhead, hpolicy⟩, hbefore⟩
  have hkeeps := followed_keeps hstanding hd
  have hsame := followed_same hstanding (hstanding' hafter) hview (by rw [hchanges.base]) hd hd'
  have hmem : t.origin ∈ (d.timersOf tenantId ticketId).map SlaTimer.origin := by
    rw [hkeeps.timers]
    exact List.mem_map_of_mem ht
  obtain ⟨u, hu, horigin⟩ := List.mem_map.mp hmem
  rw [← show u.id = t.id from congrArg (·.1) horigin]
  exact hsame.findTimer hkeeps.grown.unique (followed_keeps (hstanding' hafter) hd').grown.unique hu

end Change

def underDefaultPolicy : SlaDb where
  base := { now := 1000, tickets := [{ id := 10, tenantId := 1, number := 1, conversationId := none, contactId := none
                                       createdAt := 0 }] }
  slaTimers := [{ id := 20, tenantId := 1, ticketId := 10, policyId := 5, kind := .firstResponse, startedAt := 0
                  dueAt := 3600000 }]
  slaPolicies := [defaultPolicy 1 5 0]

def nextIds : NewIds where
  policyId := 6
  timerId
    | .firstResponse => 30
    | .resolution => 31

theorem policy_change_not_retroactive_iff_underDefaultPolicy :
    ∃ db', (PolicyChange.update 1 5 { firstResponseMinutes := some (some 15) }).apply underDefaultPolicy = .ok db' ∧
      (KeepsTimers 1 10 underDefaultPolicy db' ↔ db'.AllHeld 1 10) ∧
      (underDefaultPolicy.AllHeld 1 10 → (NotRetroactive 1 10 underDefaultPolicy db' ↔ db'.AllHeld 1 10)) := by
  have hid : UniqueBy SlaTimer.idEntry underDefaultPolicy.slaTimers := by decide
  have hlinked : underDefaultPolicy.Linked := by
    simp only [SlaDb.Linked]
    decide
  have htimers : underDefaultPolicy.timersOf 1 10 ≠ [] := by decide
  have hfresh : nextIds.Fresh underDefaultPolicy := by decide
  obtain ⟨db', hchange⟩ : ∃ db', (PolicyChange.update 1 5 { firstResponseMinutes := some (some 15) }).apply
      underDefaultPolicy = .ok db' := ⟨_, rfl⟩
  exact ⟨db', hchange, policy_change_not_retroactive_iff hid hlinked hchange htimers hfresh⟩

def withResolutionWindow : SlaDb :=
  { underDefaultPolicy with
    slaPolicies := updateWhere (fun p => p.id = 5 ∧ p.tenantId = 1)
      (SlaPolicy.edit { resolutionMinutes := some (some 1) }) underDefaultPolicy.slaPolicies }

theorem alone_of_succeeded {tenantId ticketId : Uuid} {ids : NewIds}
    (h : ((slaProgram (.evaluate tenantId ticketId ids)).alone d).1.succeeded = true) :
    (FollowUp.evaluate tenantId ticketId ids).Takes d ((slaProgram (.evaluate tenantId ticketId ids)).alone d).2 := by
  rw [alone_evaluate] at h
  simp only [FollowUp.Takes, alone_evaluate]
  cases hexec : (reconcile tenantId ids d.base.now ticketId).exec slaWrites d with
  | ok answer => exact ⟨answer.1, rfl⟩
  | error =>
    rw [hexec] at h
    cases h

/-- The policy is given a window of a minute for the resolution: the next evaluation of the ticket starts a second timer
    for it. -/
theorem opened_window_grows_timer :
    ¬ ∀ (tenantId ticketId : Uuid) (db db' : SlaDb) (change : PolicyChange), UniqueBy SlaTimer.idEntry db.slaTimers →
      db.Linked → change.apply db = .ok db' → db.timersOf tenantId ticketId ≠ [] →
        NotRetroactive tenantId ticketId db db' := by
  intro hclaim
  have hid : UniqueBy SlaTimer.idEntry underDefaultPolicy.slaTimers := by decide
  have hlinked : underDefaultPolicy.Linked := by
    simp only [SlaDb.Linked]
    decide
  have hchange : (PolicyChange.update 1 5 { resolutionMinutes := some (some 1) }).apply underDefaultPolicy =
      .ok withResolutionWindow := rfl
  have hnot := hclaim 1 10 underDefaultPolicy withResolutionWindow _ hid hlinked hchange (by decide)
  have hrun : ((slaProgram (.evaluate 1 10 nextIds)).alone withResolutionWindow).1.succeeded = true ∧
      (((slaProgram (.evaluate 1 10 nextIds)).alone withResolutionWindow).2.timersOf 1 10).length = 2 := by
    decide +kernel
  obtain ⟨hsucceeded, hlength⟩ := hrun
  have hkept := hnot.kept [.evaluate 1 10 nextIds] _ ⟨_, alone_of_succeeded hsucceeded, rfl⟩
  have hlengths := congrArg List.length hkept
  rw [List.length_map, List.length_map, hlength] at hlengths
  cases hlengths

end WhatsappCrm
