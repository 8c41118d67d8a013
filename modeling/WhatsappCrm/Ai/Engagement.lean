/-
Purpose: One handoff in an engagement: its event is written, its message sent and its route requested at most once.
-/
import WhatsappCrm.Ai.Takeover
import WhatsappCrm.Lib.Credit
import WhatsappCrm.Lib.Epoch

namespace WhatsappCrm.Ai

open Interleaving Table Epoch

variable (trigger : BotInboundTrigger) (snapshot : BotGateSnapshot)

namespace AiRecord

variable (tenantId conversationId : Uuid)

def opens : AiRecord → Bool
  | .engaged tenant conversation | .reset tenant conversation => tenant = tenantId ∧ conversation = conversationId
  | _ => false

def isHandoff : AiRecord → Bool
  | .handedOff tenant conversation _ => tenant = tenantId ∧ conversation = conversationId
  | _ => false

def isMessage : AiRecord → Bool
  | .handoffMessage tenant conversation _ => tenant = tenantId ∧ conversation = conversationId
  | _ => false

def isRequest : AiRecord → Bool
  | .routingRequested tenant conversation _ => tenant = tenantId ∧ conversation = conversationId
  | _ => false

/-- The record is of none of these kinds. -/
def elsewhere (r : AiRecord) : Bool :=
  !(r.opens tenantId conversationId || r.isHandoff tenantId conversationId || r.isMessage tenantId conversationId ||
    r.isRequest tenantId conversationId)

end AiRecord

structure OneHandoff (tenantId conversationId : Uuid) (db : AiDb) : Prop where
  events : AtMostOnce (AiRecord.opens tenantId conversationId) (AiRecord.isHandoff tenantId conversationId) db.log
  messages : AtMostOnce (AiRecord.opens tenantId conversationId) (AiRecord.isMessage tenantId conversationId) db.log
  requests : AtMostOnce (AiRecord.opens tenantId conversationId) (AiRecord.isRequest tenantId conversationId) db.log

abbrev engagement (tenantId conversationId : Uuid) (db : AiDb) : List AiRecord :=
  current (AiRecord.opens tenantId conversationId) db.log

def MayHandOff (db : AiDb) : AiStmt → Prop
  | .commitHandoff tenantId conversationId _ =>
    ∃ c ∈ db.conversations, c.withId tenantId conversationId = true ∧ c.botState.released = false
  | .requestRouting tenantId conversationId eventId =>
    .handedOff tenantId conversationId eventId ∈ engagement tenantId conversationId db
  | _ => True

def requestLedger (tenantId conversationId eventId : Uuid) : Ledger AiDb where
  granted db := db.log.count (.handedOff tenantId conversationId eventId)
  spent db := db.log.count (.routingRequested tenantId conversationId eventId)

variable {α : Type}

section Requests

variable {tenantId conversationId eventId : Uuid}

theorem Recorded.noRequest {tag : AiStmt} {records : List AiRecord} (h : Recorded tag records)
    (htag : tag.isRequest = false) : .routingRequested tenantId conversationId eventId ∉ records := by
  cases h with
  | nothing => exact List.not_mem_nil
  | replied tenant conversation message reply engaged => cases engaged <;> simp
  | handedOff tenant conversation event message => cases message <;> simp
  | requested => cases htag
  | reset => simp

theorem AiEffect.requestIdle {tag : AiStmt} {db : AiDb} (heffect : AiEffect tag db db')
    (htag : tag.isRequest = false) : (requestLedger tenantId conversationId eventId).Idle db db' := by
  obtain ⟨records, hrecords, hlog⟩ := heffect.recorded
  constructor
  · simp [requestLedger, hlog, List.count_append, List.count_eq_zero.mpr (hrecords.noRequest htag)]
  · simp [requestLedger, hlog, List.count_append]

abbrev UnroutedProg {α : Type} (p : AiProg α) : Prop := p.Within (fun _ => True) Unrouted

theorem UnroutedProg.idle (h : UnroutedProg p) : p.Within (fun _ => True)
    fun _ s s' => (requestLedger tenantId conversationId eventId).Idle s s' :=
  Prog.Follows.mono (fun _ _ _ _ _ heffect => heffect.2.requestIdle heffect.1) h

theorem QuietProg.unrouted (h : QuietProg p) : UnroutedProg p :=
  Prog.Follows.mono (fun _ _ _ _ _ heffect => heffect.2) h

/-- What the handoff `event` has to do with another. -/
def share (tenantId conversationId eventId tenant conversation event : Uuid) : Nat :=
  [AiRecord.handedOff tenant conversation event].count (.handedOff tenantId conversationId eventId)

theorem requestRoutingIfUnowned_affords (tenant conversation event : Uuid) (ticketId : Option Uuid) :
    (requestRoutingIfUnowned tenant conversation event ticketId).Affords (fun _ => True)
      (requestLedger tenantId conversationId eventId)
      (share tenantId conversationId eventId tenant conversation event) := by
  cases ticketId with
  | none => trivial
  | some =>
    apply (read_plain _).quiet.unrouted.idle.affords_bind
    intro ticket
    cases ticket with
    | none => trivial
    | some =>
      dsimp only
      split
      · apply Prog.Affords.stmt
        intro db _
        refine ⟨0, ?_⟩
        have hrequest : [AiRecord.routingRequested tenant conversation event].count
            (.routingRequested tenantId conversationId eventId) =
              share tenantId conversationId eventId tenant conversation event := by
          simp [share, List.count_cons]
        simp [Ledger.Settles, requestLedger, List.count_append, hrequest]
      · trivial

theorem HandedOff.settles {db : AiDb} (h : HandedOff event db db') :
    (requestLedger tenantId conversationId eventId).Settles db db' 0
      (share tenantId conversationId eventId event.tenantId event.conversationId event.id) := by
  obtain ⟨message, hmessage, hlog⟩ := h.log
  have hnone : .routingRequested tenantId conversationId eventId ∉ message := by
    rcases hmessage with rfl | rfl <;> simp
  have hcons : (AiRecord.handedOff event.tenantId event.conversationId event.id :: message).count
      (.handedOff tenantId conversationId eventId) =
        share tenantId conversationId eventId event.tenantId event.conversationId event.id := by
    have htail : message.count (.handedOff tenantId conversationId eventId) = 0 := by
      rcases hmessage with rfl | rfl <;> simp
    rw [← List.singleton_append, List.count_append, htail, share, Nat.add_zero]
  have hspent : (AiRecord.handedOff event.tenantId event.conversationId event.id :: message).count
      (.routingRequested tenantId conversationId eventId) = 0 := by
    rw [List.count_eq_zero]
    simpa using hnone
  simp only [Ledger.Settles, requestLedger, hlog, List.count_append, hcons, hspent]
  omega

theorem handOff_affords (reason : HandoffReason)
    (turnId : Option Uuid) : (handOff trigger snapshot reason turnId).Affords (fun _ => True)
      (requestLedger tenantId conversationId eventId) 0 := by
  rw [handOff]
  split
  · exact (suppressUnanswered_plain trigger turnId).quiet.unrouted.idle.affords 0
  · apply (read_plain _).quiet.unrouted.idle.affords_bind
    intro sentAt
    apply drawId_plain.quiet.unrouted.idle.affords_bind
    intro event
    apply (drawMessage_plain _).quiet.unrouted.idle.affords_bind
    intro message db _
    dsimp only
    cases hcommit : db.commitHandoff trigger (handoffEvent trigger snapshot reason turnId event) message sentAt with
    | error => exact ⟨0, (Ledger.Idle.refl db).settles 0, trivial⟩
    | ok =>
      refine ⟨_, (commitHandoff_ok rfl rfl hcommit).settles, ?_⟩
      exact (requestRoutingIfUnowned_affords _ _ event trigger.ticketId).bind fun _ _ => trivial

theorem reply_unrouted (turnId : Uuid) (body : String)
    (scores : TurnScores) : UnroutedProg (reply trigger snapshot turnId body scores) := by
  apply Prog.Within.bind (read_plain _).quiet.unrouted
  intro sentAt
  apply Prog.Within.bind drawId_plain.quiet.unrouted
  intro replyMessageId
  apply Prog.Within.stmt
  exact fun db _ => ⟨rfl, commitReply_effect trigger snapshot turnId replyMessageId body scores sentAt db⟩

theorem resolve_requests (chunks : List RetrievedChunk)
    (turnId : Uuid) (result : BotCallResult) : (resolve trigger snapshot chunks turnId result).Affords (fun _ => True)
      (requestLedger tenantId conversationId eventId) 0 := by
  cases result with
  | failed error =>
    apply (updateTurn_plain trigger.tenantId turnId (f := BotTurn.fail (some error))
      fun _ => rfl).quiet.unrouted.idle.affords_bind
    exact fun _ => handOff_affords trigger snapshot _ _
  | answered answer =>
    rw [resolve]
    split
    · rename_i scores error _
      apply (updateTurn_plain trigger.tenantId turnId (f := BotTurn.score scores error)
        fun _ => rfl).quiet.unrouted.idle.affords_bind
      exact fun _ => handOff_affords trigger snapshot _ _
    · exact (reply_unrouted trigger snapshot turnId _ _).idle.affords 0

theorem takeTurn_requests (unicode : Unicode) (trigger : BotInboundTrigger) (snapshot : BotGateSnapshot)
    (question : String) (chunks : List RetrievedChunk) (result : BotCallResult) :
    (takeTurn unicode trigger snapshot question chunks result).Affords (fun _ => True)
      (requestLedger tenantId conversationId eventId) 0 := by
  rw [takeTurn]
  split
  · exact handOff_affords trigger snapshot _ _
  · split
    · exact handOff_affords trigger snapshot _ _
    · apply (insertTurn_plain _).quiet.unrouted.idle.affords_bind
      intro claimed
      rcases claimed with _ | _ | turnId
      · trivial
      · trivial
      · exact resolve_requests trigger snapshot chunks turnId result

theorem handle_requests (unicode : Unicode) (trigger : BotInboundTrigger) (chunks : List RetrievedChunk)
    (result : BotCallResult) : (handle unicode trigger chunks result).Affords (fun _ => True)
      (requestLedger tenantId conversationId eventId) 0 := by
  apply (read_plain _).quiet.unrouted.idle.affords_bind
  intro now
  apply (snapshot_plain trigger now).quiet.unrouted.idle.affords_bind
  intro gate
  cases decideEligibility gate with
  | suppress reason => exact (suppress_plain trigger reason).quiet.unrouted.idle.affords 0
  | handoff reason => exact handOff_affords trigger gate reason none
  | admitted question => exact takeTurn_requests unicode trigger gate question chunks result

theorem aiProgram_requests (unicode : Unicode) (call : AiCall) :
    (aiProgram unicode call).Affords (fun _ => True) (requestLedger tenantId conversationId eventId) 0 := by
  cases call with
  | handle trigger chunks result => exact (handle_requests unicode trigger chunks result).bind fun _ _ => trivial
  | _ =>
    exact (aiProgram_quiet unicode fun _ _ _ h => by cases h).unrouted.idle.affords 0

end Requests

def Numbered (tenantId conversationId : Uuid) (db : AiDb) : Prop :=
  ∀ eventId, db.log.count (.handedOff tenantId conversationId eventId) ≤ 1 ∧
    (.handedOff tenantId conversationId eventId ∈ db.log → db.handoffEvents.any (·.id = eventId) = true)

section Events

variable {tag : AiStmt} {db : AiDb} {tenantId conversationId eventId : Uuid} {records : List AiRecord}

theorem AiEffect.handsOff (heffect : AiEffect (.commitHandoff tenantId conversationId eventId) db db')
    (hlog : db'.log ≠ db.log) : ∃ event : HandoffEvent, HandedOff event db db' ∧ event.tenantId = tenantId ∧
      event.conversationId = conversationId ∧ event.id = eventId := by
  cases heffect with
  | same _ h => exact absurd h.log hlog
  | turnHandoff h => exact ⟨_, commitHandoff_ok rfl rfl h, rfl, rfl, rfl⟩
  | agentHandoff h => exact ⟨_, recordHandoff_handedOff h, rfl, rfl, rfl⟩
  | people htag => cases htag

theorem AiEffect.handoffEvents (heffect : AiEffect tag db db') :
    ∃ events, db'.handoffEvents = db.handoffEvents ++ events := by
  cases heffect with
  | same _ h | people _ _ h => exact ⟨[], by rw [h.handoffEvents, List.append_nil]⟩
  | insertTurn h =>
    refine ⟨[], ?_⟩
    subst h
    rw [List.append_nil, AiDb.insertTurn]
    split
    · rfl
    · split <;> rfl
  | reply h => exact ⟨[], by rw [(commitReply_ok h).handoffEvents, List.append_nil]⟩
  | turnHandoff h => exact ⟨_, (commitHandoff_ok rfl rfl h).handoffEvents⟩
  | agentHandoff h => exact ⟨_, (recordHandoff_handedOff h).handoffEvents⟩
  | updateTurn | request | status => exact ⟨[], (List.append_nil _).symm⟩
  | event event =>
    refine ⟨[], ?_⟩
    cases event <;> exact (List.append_nil _).symm

theorem AiEffect.numbered (heffect : AiEffect tag db db') (h : Numbered tenantId conversationId db) :
    Numbered tenantId conversationId db' := by
  intro eventId
  obtain ⟨hcount, hrow⟩ := h eventId
  obtain ⟨records, hrecords, hlog⟩ := heffect.recorded
  obtain ⟨events, hevents⟩ := heffect.handoffEvents
  have hkept : db.handoffEvents.any (·.id = eventId) = true → db'.handoffEvents.any (·.id = eventId) = true := by
    intro hany
    rw [hevents, List.any_append, hany, Bool.true_or]
  by_cases hnew : .handedOff tenantId conversationId eventId ∈ records
  · cases hrecords with
    | handedOff tenant conversation event message =>
      have hsame : tenant = tenantId ∧ conversation = conversationId ∧ event = eventId := by
        rcases List.mem_cons.mp hnew with heq | htail
        · cases heq
          exact ⟨rfl, rfl, rfl⟩
        · cases message <;> simp at htail
      obtain ⟨rfl, rfl, rfl⟩ := hsame
      obtain ⟨row, hhandedOff, rfl, rfl, rfl⟩ := heffect.handsOff (by simp [hlog])
      have hfresh : AiRecord.handedOff row.tenantId row.conversationId row.id ∉ db.log := by
        intro hmem
        have := hrow hmem
        rw [hhandedOff.fresh] at this
        cases this
      constructor
      · rw [hlog, List.count_append, List.count_eq_zero.mpr hfresh]
        cases message <;> simp
      · intro _
        simp [hhandedOff.handoffEvents]
    | nothing => cases hnew
    | replied tenant conversation message reply engaged => cases engaged <;> simp at hnew
    | requested | reset => simp at hnew
  · constructor
    · rwa [hlog, List.count_append, List.count_eq_zero.mpr hnew, Nat.add_zero]
    · intro hmem
      rw [hlog] at hmem
      exact hkept (hrow ((List.mem_append.mp hmem).resolve_right hnew))

end Events

/-- Since the conversation was last opened it was handed off at most once, with that handoff's message and request. -/
structure HandoffsOnce (tenantId conversationId : Uuid) (db : AiDb) : Prop extends
    OneHandoff tenantId conversationId db where
  released : 0 < (engagement tenantId conversationId db).countP (AiRecord.isHandoff tenantId conversationId) →
    Released tenantId conversationId db
  paired : (engagement tenantId conversationId db).countP (AiRecord.isMessage tenantId conversationId) ≤
    (engagement tenantId conversationId db).countP (AiRecord.isHandoff tenantId conversationId)
  answered : ∀ eventId, .routingRequested tenantId conversationId eventId ∈ engagement tenantId conversationId db →
    .handedOff tenantId conversationId eventId ∈ engagement tenantId conversationId db

section Invariant

variable {db : AiDb} {tenantId conversationId eventId : Uuid} {records : List AiRecord}

theorem elsewhere_iff {r : AiRecord} : r.elsewhere tenantId conversationId = true ↔
    r.opens tenantId conversationId = false ∧ r.isHandoff tenantId conversationId = false ∧
      r.isMessage tenantId conversationId = false ∧ r.isRequest tenantId conversationId = false := by
  simp [AiRecord.elsewhere, and_assoc]

theorem countP_of_none {l : List α} (h : ∀ a ∈ l, p a = false) : l.countP p = 0 := by
  rw [List.countP_eq_zero]
  intro a ha
  simp [h a ha]

theorem HandoffsOnce.unrelated (h : HandoffsOnce tenantId conversationId db) (hlog : db'.log = db.log ++ records)
    (helsewhere : ∀ r ∈ records, r.elsewhere tenantId conversationId = true)
    (hreleased : Released tenantId conversationId db → Released tenantId conversationId db') :
    HandoffsOnce tenantId conversationId db' := by
  have hopens : ∀ r ∈ records, r.opens tenantId conversationId = false :=
    fun r hr => (elsewhere_iff.mp (helsewhere r hr)).1
  have hhandoffs := countP_of_none fun r hr => (elsewhere_iff.mp (helsewhere r hr)).2.1
  have hmessages := countP_of_none fun r hr => (elsewhere_iff.mp (helsewhere r hr)).2.2.1
  have hrequests := countP_of_none fun r hr => (elsewhere_iff.mp (helsewhere r hr)).2.2.2
  have hcurrent : engagement tenantId conversationId db' = engagement tenantId conversationId db ++ records := by
    rw [engagement, hlog, current_append hopens]
  refine ⟨⟨?_, ?_, ?_⟩, ?_, ?_, ?_⟩
  · rw [hlog]
    apply h.events.append hopens
    rw [List.countP_append, hhandoffs]
    exact h.events.current_le
  · rw [hlog]
    apply h.messages.append hopens
    rw [List.countP_append, hmessages]
    exact h.messages.current_le
  · rw [hlog]
    apply h.requests.append hopens
    rw [List.countP_append, hrequests]
    exact h.requests.current_le
  · rw [hcurrent, List.countP_append, hhandoffs]
    exact fun hpos => hreleased (h.released hpos)
  · rw [hcurrent, List.countP_append, List.countP_append, hhandoffs, hmessages]
    exact h.paired
  · intro eventId hrequest
    rw [hcurrent] at hrequest ⊢
    apply List.mem_append_left
    apply h.answered
    apply (List.mem_append.mp hrequest).resolve_right
    intro hrecord
    have hnone := (elsewhere_iff.mp (helsewhere _ hrecord)).2.2.2
    simp [AiRecord.isRequest] at hnone

theorem HandoffsOnce.opened (h : HandoffsOnce tenantId conversationId db)
    (hlog : db'.log = db.log ++ [r]) (hopens : r.opens tenantId conversationId = true) :
    HandoffsOnce tenantId conversationId db' := by
  have hcurrent : current (AiRecord.opens tenantId conversationId) (db.log ++ [r]) = [] := current_concat_opening hopens
  have hempty : engagement tenantId conversationId db' = [] := by rw [engagement, hlog, hcurrent]
  refine ⟨⟨?_, ?_, ?_⟩, ?_, ?_, ?_⟩
  · rw [hlog]
    exact h.events.concat (by simp [hcurrent])
  · rw [hlog]
    exact h.messages.concat (by simp [hcurrent])
  · rw [hlog]
    exact h.requests.concat (by simp [hcurrent])
  · simp [hempty]
  · simp [hempty]
  · simp [hempty]

theorem HandoffsOnce.handsOff (h : HandoffsOnce tenantId conversationId db) {message : Bool}
    (hlog : db'.log = db.log ++ .handedOff tenantId conversationId eventId ::
      if message then [.handoffMessage tenantId conversationId eventId] else [])
    (hfree : ¬ Released tenantId conversationId db) (hreleased : Released tenantId conversationId db') :
    HandoffsOnce tenantId conversationId db' := by
  have hnone : (engagement tenantId conversationId db).countP (AiRecord.isHandoff tenantId conversationId) = 0 :=
    Nat.eq_zero_of_not_pos fun hpos => hfree (h.released hpos)
  have hsilent : (engagement tenantId conversationId db).countP (AiRecord.isMessage tenantId conversationId) = 0 :=
    Nat.le_zero.mp (hnone ▸ h.paired)
  have hopens : ∀ r ∈ AiRecord.handedOff tenantId conversationId eventId ::
      (if message then [AiRecord.handoffMessage tenantId conversationId eventId] else []),
      r.opens tenantId conversationId = false := by
    intro r hr
    cases message <;> simp at hr <;> rcases hr with rfl | rfl <;> rfl
  have hcurrent : engagement tenantId conversationId db' = engagement tenantId conversationId db ++
      .handedOff tenantId conversationId eventId ::
        if message then [.handoffMessage tenantId conversationId eventId] else [] := by
    rw [engagement, hlog, current_append hopens]
  refine ⟨⟨?_, ?_, ?_⟩, fun _ => hreleased, ?_, ?_⟩
  · rw [hlog]
    apply h.events.append hopens
    rw [List.countP_append, hnone]
    cases message <;> simp [AiRecord.isHandoff]
  · rw [hlog]
    apply h.messages.append hopens
    rw [List.countP_append, hsilent]
    cases message <;> simp [AiRecord.isMessage]
  · rw [hlog]
    apply h.requests.append hopens
    have hcurrent_le := h.requests.current_le
    cases message <;> simpa [List.countP_append, List.countP_cons, AiRecord.isRequest] using hcurrent_le
  · rw [hcurrent, List.countP_append, List.countP_append, hnone, hsilent]
    cases message <;> simp [AiRecord.isHandoff, AiRecord.isMessage]
  · intro event hrequest
    rw [hcurrent] at hrequest ⊢
    apply List.mem_append_left
    apply h.answered
    apply (List.mem_append.mp hrequest).resolve_right
    cases message <;> simp

theorem HandoffsOnce.requests_route (h : HandoffsOnce tenantId conversationId db)
    (hlog : db'.log = db.log ++ [.routingRequested tenantId conversationId eventId])
    (hhandedOff : .handedOff tenantId conversationId eventId ∈ engagement tenantId conversationId db)
    (hpaid : db'.log.count (.routingRequested tenantId conversationId eventId) ≤ 1)
    (hreleased : Released tenantId conversationId db → Released tenantId conversationId db') :
    HandoffsOnce tenantId conversationId db' := by
  have hfirst : .routingRequested tenantId conversationId eventId ∉ db.log := by
    intro hmem
    have hpos := List.count_pos_iff.mpr hmem
    rw [hlog, List.count_append, List.count_singleton_self] at hpaid
    omega
  have hnone : (engagement tenantId conversationId db).countP (AiRecord.isRequest tenantId conversationId) = 0 := by
    apply countP_of_none
    intro r hr
    cases r with
    | routingRequested tenant conversation event =>
      simp only [AiRecord.isRequest, decide_eq_false_iff_not]
      rintro ⟨rfl, rfl⟩
      have heq := eq_of_countP_le_one h.events.current_le (h.answered event hr) hhandedOff
        (by simp [AiRecord.isHandoff]) (by simp [AiRecord.isHandoff])
      cases heq
      exact hfirst (mem_of_current hr)
    | _ => rfl
  have hopens : ∀ r ∈ [AiRecord.routingRequested tenantId conversationId eventId],
      r.opens tenantId conversationId = false := by
    intro r hr
    rw [List.mem_singleton.mp hr]
    rfl
  have hcurrent : engagement tenantId conversationId db' =
      engagement tenantId conversationId db ++ [.routingRequested tenantId conversationId eventId] := by
    rw [engagement, hlog, current_append hopens]
  refine ⟨⟨?_, ?_, ?_⟩, ?_, ?_, ?_⟩
  · rw [hlog]
    apply h.events.append hopens
    have hcurrent_le := h.events.current_le
    simpa [List.countP_append, List.countP_cons, AiRecord.isHandoff] using hcurrent_le
  · rw [hlog]
    apply h.messages.append hopens
    have hcurrent_le := h.messages.current_le
    simpa [List.countP_append, List.countP_cons, AiRecord.isMessage] using hcurrent_le
  · rw [hlog]
    apply h.requests.append hopens
    rw [List.countP_append, hnone]
    simp [AiRecord.isRequest]
  · intro hpos
    apply hreleased
    apply h.released
    simpa [hcurrent, List.countP_append, List.countP_cons, AiRecord.isHandoff] using hpos
  · have hpaired := h.paired
    simpa [hcurrent, List.countP_append, List.countP_cons, AiRecord.isHandoff, AiRecord.isMessage] using hpaired
  · intro event hrequest
    rw [hcurrent] at hrequest ⊢
    apply List.mem_append_left
    rcases List.mem_append.mp hrequest with hearlier | hnew
    · exact h.answered event hearlier
    · cases List.mem_singleton.mp hnew
      exact hhandedOff

theorem AiEffect.released_unopened {tag : AiStmt} (heffect : AiEffect tag db db')
    (hdb : UniqueBy BotConversation.idEntry db.conversations) (hlog : db'.log = db.log ++ records)
    (hopens : ∀ r ∈ records, r.opens tenantId conversationId = false) (h : Released tenantId conversationId db) :
    Released tenantId conversationId db' := by
  have hrelease := heffect
  cases heffect with
  | same _ hsame =>
    obtain ⟨c, hc, hrest⟩ := h
    exact ⟨c, by rwa [hsame.conversations], hrest⟩
  | reply hcommit =>
    rename_i trigger _ _ replyMessageId _ _ _
    have hreplied := commitReply_ok hcommit
    obtain ⟨c, hc, htenant, hid, hreleased⟩ := h
    obtain ⟨stamp, hconversations⟩ := hreplied.conversations
    have hmem := mem_updateWhere_of_mem
      (p := BotConversation.unlessHuman trigger.tenantId trigger.conversationId) (f := BotConversation.engage stamp) hc
    rw [← hconversations] at hmem
    cases hselected : c.unlessHuman trigger.tenantId trigger.conversationId with
    | false =>
      rw [hselected] at hmem
      exact ⟨c, hmem, htenant, hid, hreleased⟩
    | true =>
      -- the reply engages the bot in this very conversation
      obtain ⟨hsame, hsame'⟩ := withId_iff.mp (unlessHuman_iff.mp hselected).1
      have hany : db.conversations.any (BotConversation.unlessHuman trigger.tenantId trigger.conversationId) = true :=
        List.any_eq_true.mpr ⟨c, hc, hselected⟩
      have hrecords := List.append_cancel_left (hlog.symm.trans hreplied.log)
      rw [hany, if_pos rfl] at hrecords
      have hengaged := hopens (.engaged trigger.tenantId trigger.conversationId) (by simp [hrecords])
      simp [AiRecord.opens, ← hsame, ← hsame', htenant, hid] at hengaged
  | status tenant conversation status =>
    refine hrelease.released hdb trivial ?_ h
    cases hresets : status.resets with
    | false => simp [AiStmt.resetsBot, hresets]
    | true =>
      have hrecords := List.append_cancel_left hlog
      simp only [hresets, if_true] at hrecords
      have hreset := hopens (.reset tenant conversation) (by simp [← hrecords])
      simpa [AiStmt.resetsBot, hresets, AiRecord.opens] using hreset
  | people htag => cases htag <;> exact hrelease.released hdb trivial rfl h
  | _ => exact hrelease.released hdb trivial rfl h

theorem HandedOff.released {event : HandoffEvent} (h : HandedOff event db db')
    (hdb : UniqueBy BotConversation.idEntry db.conversations)
    (hmay : ∃ c ∈ db.conversations, c.withId event.tenantId event.conversationId = true ∧ c.botState.released = false) :
    ¬ Released event.tenantId event.conversationId db ∧ Released event.tenantId event.conversationId db' := by
  obtain ⟨c, hc, hid, hfree⟩ := hmay
  obtain ⟨htenant, hconversation⟩ := withId_iff.mp hid
  constructor
  · rintro ⟨c', hc', _, hconversation', hreleased⟩
    rw [UniqueBy.eq_of_entry hdb hc' hc (congrArg some (hconversation'.trans hconversation.symm)) rfl, hfree] at hreleased
    cases hreleased
  · have hselected : c.unlessHuman event.tenantId event.conversationId = true := by
      refine unlessHuman_iff.mpr ⟨hid, fun hhuman => ?_⟩
      rw [hhuman] at hfree
      cases hfree
    have hmem := mem_updateWhere_of_mem
      (p := BotConversation.unlessHuman event.tenantId event.conversationId) (f := BotConversation.handOff) hc
    rw [if_pos hselected, ← h.conversations] at hmem
    exact ⟨_, hmem, htenant, hconversation, rfl⟩

theorem AiEffect.handoffsOnce {tag : AiStmt} (heffect : AiEffect tag db db')
    (hdb : UniqueBy BotConversation.idEntry db.conversations) (hmay : MayHandOff db tag)
    (hpaid : ∀ eventId, db'.log.count (.routingRequested tenantId conversationId eventId) ≤ 1)
    (h : HandoffsOnce tenantId conversationId db) : HandoffsOnce tenantId conversationId db' := by
  obtain ⟨records, hrecords, hlog⟩ := heffect.recorded
  have hunrelated : (∀ r ∈ records, r.elsewhere tenantId conversationId = true) →
      HandoffsOnce tenantId conversationId db' := by
    intro helsewhere
    exact h.unrelated hlog helsewhere
      (heffect.released_unopened hdb hlog fun r hr => (elsewhere_iff.mp (helsewhere r hr)).1)
  cases hrecords with
  | nothing => exact hunrelated (by simp)
  | replied tenant conversation message reply engaged =>
    by_cases hours : engaged = true ∧ tenant = tenantId ∧ conversation = conversationId
    · obtain ⟨rfl, rfl, rfl⟩ := hours
      have hreplied : HandoffsOnce tenant conversation { db with log := db.log ++ [.replied tenant message reply] } :=
        h.unrelated rfl (by simp [AiRecord.elsewhere, AiRecord.opens, AiRecord.isHandoff, AiRecord.isMessage,
          AiRecord.isRequest]) id
      exact hreplied.opened (r := .engaged tenant conversation) (by simp [hlog]) (by simp [AiRecord.opens])
    · apply hunrelated
      intro r hr
      rcases List.mem_cons.mp hr with rfl | hr
      · rfl
      · cases engaged with
        | false => cases hr
        | true =>
          rw [List.mem_singleton.mp hr]
          simpa [elsewhere_iff, AiRecord.opens, AiRecord.isHandoff, AiRecord.isMessage, AiRecord.isRequest] using hours
  | handedOff tenant conversation event message =>
    by_cases hours : tenant = tenantId ∧ conversation = conversationId
    · obtain ⟨rfl, rfl⟩ := hours
      obtain ⟨row, hhandedOff, rfl, rfl, rfl⟩ := heffect.handsOff (by simp [hlog])
      obtain ⟨hfree, hreleased⟩ := hhandedOff.released hdb hmay
      exact h.handsOff hlog hfree hreleased
    · apply hunrelated
      intro r hr
      rcases List.mem_cons.mp hr with rfl | hr
      · simpa [elsewhere_iff, AiRecord.opens, AiRecord.isHandoff, AiRecord.isMessage, AiRecord.isRequest] using hours
      · cases message with
        | false => cases hr
        | true =>
          rw [List.mem_singleton.mp hr]
          simpa [elsewhere_iff, AiRecord.opens, AiRecord.isHandoff, AiRecord.isMessage, AiRecord.isRequest] using hours
  | requested tenant conversation event =>
    by_cases hours : tenant = tenantId ∧ conversation = conversationId
    · obtain ⟨rfl, rfl⟩ := hours
      apply h.requests_route hlog hmay (hpaid event)
      apply heffect.released_unopened hdb hlog
      intro r hr
      rw [List.mem_singleton.mp hr]
      rfl
    · apply hunrelated
      intro r hr
      rw [List.mem_singleton.mp hr]
      simpa [elsewhere_iff, AiRecord.opens, AiRecord.isHandoff, AiRecord.isMessage, AiRecord.isRequest] using hours
  | reset tenant conversation =>
    by_cases hours : tenant = tenantId ∧ conversation = conversationId
    · obtain ⟨rfl, rfl⟩ := hours
      exact h.opened hlog (by simp [AiRecord.opens])
    · apply hunrelated
      intro r hr
      rw [List.mem_singleton.mp hr]
      simpa [elsewhere_iff, AiRecord.opens, AiRecord.isHandoff, AiRecord.isMessage, AiRecord.isRequest] using hours

end Invariant

section Runs

variable {unicode : Unicode} {db : AiDb}

def handsOffInTurn (s : AiSys) (_ : AiCall) (tag : AiStmt) : Prop := MayHandOff s.db tag

theorem AiRun.requestedOnce (hlog : db.log = []) (hs : AiRun unicode db s) (tenantId conversationId eventId : Uuid) :
    s.db.log.count (.routingRequested tenantId conversationId eventId) ≤ 1 := by
  have hstart : (requestLedger tenantId conversationId eventId).spent db ≤
      (requestLedger tenantId conversationId eventId).granted db := by
    simp [requestLedger, hlog]
  have hsolvent := (Reachable.solvent (aiProgram_requests unicode) hstart (fun _ _ => trivial) hs).spent_le
  have hnumbered : Numbered tenantId conversationId s.db :=
    Reachable.invariant (fun call => (aiProgram_within unicode call).weaken fun _ _ => trivial)
      (fun _ _ _ _ hnumbered _ heffect => heffect.numbered hnumbered) (by simp [Numbered, hlog]) hs
  exact Nat.le_trans hsolvent (hnumbered eventId).1

/-- In every run that meets the condition an engagement has at most one handoff event, message and route request. -/
theorem one_handoff_per_engagement_when (hdb : UniqueBy BotConversation.idEntry db.conversations) (hlog : db.log = [])
    {s : AiSys} (hs : Reachable (aiProgram unicode) handsOffInTurn (.idle db) s) (tenantId conversationId : Uuid) :
    OneHandoff tenantId conversationId s.db := by
  suffices hinv : HandoffsOnce tenantId conversationId s.db from hinv.toOneHandoff
  induction hs with
  | refl =>
    have hempty : engagement tenantId conversationId db = [] := by rw [engagement, hlog, current_nil]
    refine ⟨⟨?_, ?_, ?_⟩, ?_, ?_, ?_⟩
    · exact hlog ▸ AtMostOnce.nil
    · exact hlog ▸ AtMostOnce.nil
    · exact hlog ▸ AtMostOnce.nil
    · simp [Sys.idle, hempty]
    · simp [Sys.idle, hempty]
    · simp [Sys.idle, hempty]
  | @tail s₁ s₂ hs₁ hstep ih =>
    have hrun : AiRun unicode db s₁ := Reachable.mono (fun _ _ _ _ => trivial) hs₁
    have hrun' : AiRun unicode db s₂ := Reachable.mono (fun _ _ _ _ => trivial) (hs₁.tail hstep)
    have hfollows := Reachable.follows (aiProgram_within unicode) (fun _ _ => trivial) hrun
    rcases hstep.effect hfollows trivial with heq | ⟨_, tag, hmay, heffect⟩
    · rwa [heq]
    · exact heffect.handoffsOnce (hrun.uniqueConversations hdb) hmay (hrun'.requestedOnce hlog tenantId conversationId) ih

end Runs

instance (db : AiDb) : (tag : AiStmt) → Decidable (MayHandOff db tag)
  | .commitHandoff tenantId conversationId _ =>
    inferInstanceAs (Decidable (∃ c ∈ db.conversations,
      c.withId tenantId conversationId = true ∧ c.botState.released = false))
  | .requestRouting tenantId conversationId eventId =>
    inferInstanceAs (Decidable (.handedOff tenantId conversationId eventId ∈ engagement tenantId conversationId db))
  | .draw | .read | .insertTurn | .updateTurn | .commitReply _ _ _ | .claim _ _ _ | .assign _ _ _ _ | .send
  | .setStatus _ _ _
  | .operate => isTrue trivial

def impatientCustomer : AiDb :=
  { oneBotConversation with
    messages := [{ id := 9, tenantId := 1, conversationId := 7, direction := .inbound, origin := .contact
                   body := some "An agent, please", sentAt := 0 }]
    tickets := [{ id := 5, tenantId := 1, number := 1, conversationId := some 7, contactId := some 3, createdAt := 0 }] }

theorem impatientCustomer_unique : UniqueBy BotConversation.idEntry impatientCustomer.conversations := by decide

/-- A delivery of the message's job. -/
def personRequested : AiCall := .handle ⟨1, 7, 3, 9, some 5⟩ [] (.failed "unused")

def handedOffOnce (db : AiDb) : Bool :=
  db.log.countP (AiRecord.isHandoff 1 7) = 1 ∧ db.log.countP (AiRecord.isMessage 1 7) = 1 ∧
    db.log.countP (AiRecord.isRequest 1 7) = 1

theorem one_handoff_per_engagement_when_requested : ∃ s,
    Reachable (aiProgram asciiOnly) handsOffInTurn (.idle impatientCustomer) s ∧ handedOffOnce s.db = true ∧
      OneHandoff 1 7 s.db := by
  have hrun : ((run (aiProgram asciiOnly) (fun s _ tag => decide (MayHandOff s.db tag))
      (.spawn personRequested :: List.replicate 14 (.step 0)) (.idle impatientCustomer)).map
        fun s => handedOffOnce s.db) = some true := by
    decide +kernel
  obtain ⟨s, hreached, honce⟩ := ends_of_run hrun
  exact ⟨s, hreached, honce, one_handoff_per_engagement_when impatientCustomer_unique rfl hreached 1 7⟩

/-- Both deliveries pass the gate before either has handed the conversation off. -/
def twoDeliveriesSchedule : List (Move AiCall) :=
  [.spawn personRequested, .spawn personRequested] ++ (List.replicate 14 [Move.step 0, Move.step 1]).flatten

theorem two_deliveries_hand_off_twice :
    ¬ ∀ (unicode : Unicode) (db : AiDb), UniqueBy BotConversation.idEntry db.conversations → db.log = [] →
      ∀ s, AiRun unicode db s → ∀ tenantId conversationId, OneHandoff tenantId conversationId s.db := by
  intro hclaim
  have hrun : ((run (aiProgram asciiOnly) (fun _ _ _ => true) twoDeliveriesSchedule (.idle impatientCustomer)).map
      fun s => decide ((∀ r ∈ s.db.log, r.opens 1 7 = false) ∧ s.db.log.countP (AiRecord.isHandoff 1 7) = 2 ∧
        s.db.log.countP (AiRecord.isMessage 1 7) = 2 ∧ s.db.log.countP (AiRecord.isRequest 1 7) = 2)) = some true := by
    decide +kernel
  obtain ⟨s, hreach, htwice⟩ := ends_of_run_any hrun
  obtain ⟨hopens, hevents, _⟩ := of_decide_eq_true htwice
  have hone := hclaim asciiOnly impatientCustomer impatientCustomer_unique rfl s hreach 1 7
  have hle := hone.events s.db.log (List.infix_refl _) hopens
  omega

end WhatsappCrm.Ai
