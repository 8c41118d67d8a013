/-
Purpose: `HandoffService.context` (`ai/handoff.service.ts`): what the card of a handoff says of the engagement it ended.
-/
import WhatsappCrm.Ai.Contract
import WhatsappCrm.Lib.Keyset
import Mathlib.Data.Prod.Lex

namespace WhatsappCrm.Ai.HandoffCard

open Table

structure Message where
  id : Uuid
  sentAt : Millis

structure Turn where
  createdAt : Millis
  outcome : BotTurnOutcome
  citedChunkIds : List String

structure Handoff where
  id : Uuid
  createdAt : Millis
  botEngagedAt : Option Millis
  botReplyCount : Nat
  /-- Not a column: the engagement it is a handoff of. -/
  engagement : Nat

structure Document where
  id : Uuid
  title : String

structure KnowledgeChunk where
  id : String
  document : Document

/-- A turn in progress: what its snapshot has read, and when it claimed its message. -/
structure OpenTurn where
  botEngagedAt : Option Millis
  botReplyCount : Nat
  claimedAt : Option Millis := none

structure Reply where
  engagement : Nat
  message : Message
  turn : Turn

/-- One conversation. A turn is in `turns` once it has ended. The replies and the number of resets are not columns: they
    are what the card is about. -/
structure Thread where
  now : Millis := 0
  botState : ConversationBotState := .off
  botEngagedAt : Option Millis := none
  messages : List Message := []
  turns : List Turn := []
  handoffs : List Handoff := []
  openTurn : Option OpenTurn := none
  replies : List Reply := []
  engagement : Nat := 0

def countRepliesThisEngagement (turns : List Turn) : Option Millis → Nat
  | none => 0
  | some botEngagedAt => turns.countP (fun t => t.outcome = .replied ∧ botEngagedAt ≤ t.createdAt) + 1

def botExchangeMaxMessages : Nat := 100

def sentFirst (a b : Message) : Bool := a.sentAt < b.sentAt || (a.sentAt = b.sentAt && a.id.toNat ≤ b.id.toNat)

def botExchange (messages : List Message) (botEngagedAt : Option Millis) (handedOffAt : Millis) : List Message :=
  match botEngagedAt with
  | none => []
  | some botEngagedAt =>
    (Keyset.sortBy sentFirst (messages.filter fun m => botEngagedAt ≤ m.sentAt ∧ m.sentAt ≤ handedOffAt)).take
      botExchangeMaxMessages

/-- The values of `new Map`: each id where it first is, with the document it is last with. -/
def byId : List Document → List Document
  | [] => []
  | d :: documents =>
    let rest := byId documents
    (rest.find? (·.id = d.id)).getD d :: rest.filter (·.id ≠ d.id)

def citedDocuments (turns : List Turn) (chunks : List KnowledgeChunk) : Option Millis → List Document
  | none => []
  | some botEngagedAt =>
    let chunkIds := (turns.filter fun t => botEngagedAt ≤ t.createdAt).flatMap (·.citedChunkIds)
    byId ((chunks.filter fun c => chunkIds.contains c.id).map (·.document))

structure HandoffContext where
  botExchange : List Message
  botReplyCount : Nat
  citedDocuments : List Document

def newestFirst (a b : Handoff) : Bool :=
  b.createdAt < a.createdAt || (a.createdAt = b.createdAt && b.id.toNat ≤ a.id.toNat)

def context (s : Thread) (chunks : List KnowledgeChunk) : Option (Handoff × HandoffContext) :=
  (firstBy newestFirst s.handoffs).map fun event =>
    (event, {
      botExchange := botExchange s.messages event.botEngagedAt event.createdAt
      botReplyCount := event.botReplyCount
      citedDocuments := citedDocuments s.turns chunks event.botEngagedAt })

inductive Event where
  | elapse (ms : Nat)
  /-- Somebody's message, or the one a tenant has sent with its handoffs. -/
  | message (m : Message)
  | snapshot
  | claimTurn
  | reply (m : Message) (citedChunkIds : List String)
  | handOff (id : Uuid) (reason : HandoffReason) (citedChunkIds : List String)
  /-- A worker dies, or another delivery has the message's turn. -/
  | abandon
  | requestFromAgent (id : Uuid)
  /-- A person claims or answers the conversation. -/
  | take
  /-- It is resolved or closed. -/
  | reset

def Thread.record (s : Thread) (id : Uuid) (botEngagedAt : Option Millis) (botReplyCount : Nat) : Thread :=
  { s with
    handoffs := s.handoffs ++ [{ id, createdAt := s.now, botEngagedAt, botReplyCount, engagement := s.engagement }]
    botState := if s.botState = .humanActive then .humanActive else .handedOff }

def Thread.reply (s : Thread) (turn : OpenTurn) (row : Turn) (m : Message) : Thread :=
  { s with
    messages := s.messages ++ [m]
    turns := s.turns ++ [row]
    botState := if s.botState = .humanActive then .humanActive else .botActive
    botEngagedAt := if s.botState ≠ .humanActive ∧ turn.botEngagedAt = none then some m.sentAt else s.botEngagedAt
    openTurn := none
    replies := s.replies ++ [{ engagement := s.engagement, message := m, turn := row }] }

/-- `handOff`, with the refused turn's row, if it has one. -/
def Thread.handOff (s : Thread) (turn : OpenTurn) (id : Uuid) (reason : HandoffReason) (citedChunkIds : List String) : Thread :=
  let row (outcome : BotTurnOutcome) := turn.claimedAt.toList.map fun createdAt => Turn.mk createdAt outcome citedChunkIds
  if reason.suppressedWhenUnengaged ∧ turn.botEngagedAt = none ∧ turn.botReplyCount = 0 then
    { s with turns := s.turns ++ row .suppressed, openTurn := none }
  else
    ({ s with turns := s.turns ++ row .handedOff, openTurn := none }).record id turn.botEngagedAt turn.botReplyCount

/-- `none` of an event that cannot come now. Turns do not overlap, and a turn's row is created before its reply is sent. -/
def step (s : Thread) : Event → Option Thread
  | .elapse ms => some { s with now := s.now + ms }
  | .message m => some { s with messages := s.messages ++ [m] }
  | .snapshot =>
    if s.openTurn.isSome ∨ s.botState.released then none
    else some { s with openTurn := some {
      botEngagedAt := s.botEngagedAt
      botReplyCount := countRepliesThisEngagement s.turns s.botEngagedAt } }
  | .claimTurn => s.openTurn.map fun turn => { s with openTurn := some { turn with claimedAt := turn.claimedAt.or (some s.now) } }
  | .reply m citedChunkIds => do
    let turn ← s.openTurn
    let claimedAt ← turn.claimedAt
    if claimedAt < m.sentAt ∧ m.sentAt ≤ s.now then some (s.reply turn ⟨claimedAt, .replied, citedChunkIds⟩ m) else none
  | .handOff id reason citedChunkIds => s.openTurn.map fun turn => s.handOff turn id reason citedChunkIds
  | .abandon => some { s with openTurn := none }
  | .requestFromAgent id =>
    if s.botState ≠ .botActive then some s
    else some (s.record id s.botEngagedAt (countRepliesThisEngagement s.turns s.botEngagedAt))
  | .take => some { s with botState := .humanActive }
  | .reset => some { s with botState := .off, botEngagedAt := none, engagement := s.engagement + 1 }

/-- Nobody else moves the conversation while a turn is in progress. -/
def undisturbed (s : Thread) : Event → Prop
  | .requestFromAgent _ | .take | .reset => s.openTurn = none
  | _ => True

inductive History : Thread → Prop where
  | start (now : Millis) : History { now }
  | step (h : History s) (hcalm : undisturbed s e) (hs : step s e = some s') : History s'

def Cites (chunks : List KnowledgeChunk) (turns : Turn → Prop) (document : Uuid) : Prop :=
  ∃ c ∈ chunks, c.document.id = document ∧ ∃ t, turns t ∧ c.id ∈ t.citedChunkIds

def Thread.Answered (s : Thread) (engagement : Nat) (t : Turn) : Prop := ∃ r ∈ s.replies, r.engagement = engagement ∧ r.turn = t

structure Describes (s : Thread) (chunks : List KnowledgeChunk) (event : Handoff) (card : HandoffContext) : Prop where
  all : ∀ r ∈ s.replies, r.engagement = event.engagement → r.message ∈ card.botExchange ∨
    card.botExchange.length = botExchangeMaxMessages ∧ ∀ m ∈ card.botExchange, m.sentAt ≤ r.message.sentAt
  others : ∀ r ∈ s.replies, r.engagement ≠ event.engagement → r.message ∉ card.botExchange
  count : card.botReplyCount = s.replies.countP (·.engagement = event.engagement)
  cited : ∀ d, d ∈ card.citedDocuments.map (·.id) ↔ Cites chunks (s.Answered event.engagement) d

/-- What the opening reply cites is cited again since the stamp, and what a turn since then cites that is not one of the
replies, one of the replies cites as well. -/
def CitesItsOwn (s : Thread) (chunks : List KnowledgeChunk) (event : Handoff) : Prop :=
  ∀ botEngagedAt ∈ event.botEngagedAt, ∀ d,
    (Cites chunks (fun t => s.Answered event.engagement t ∧ t.createdAt < botEngagedAt) d →
      Cites chunks (fun t => t ∈ s.turns ∧ botEngagedAt ≤ t.createdAt) d) ∧
    (Cites chunks (fun t => (t ∈ s.turns ∧ botEngagedAt ≤ t.createdAt) ∧ ¬ s.Answered event.engagement t) d →
      Cites chunks (s.Answered event.engagement) d)

def Stamped (replies : List Reply) (engagement : Nat) : Option Millis → Prop
  | none => ∀ r ∈ replies, r.engagement ≠ engagement
  | some botEngagedAt => ∀ r ∈ replies,
    (r.engagement = engagement → botEngagedAt ≤ r.message.sentAt) ∧ (r.engagement < engagement → r.message.sentAt < botEngagedAt)

structure HandedOff (s : Thread) (event : Handoff) : Prop where
  stamped : Stamped s.replies event.engagement event.botEngagedAt
  before : ∀ r ∈ s.replies, r.engagement = event.engagement → r.message.sentAt ≤ event.createdAt
  after : ∀ r ∈ s.replies, event.engagement < r.engagement → event.createdAt < r.message.sentAt
  count : event.botReplyCount = s.replies.countP (·.engagement = event.engagement)
  past : event.createdAt ≤ s.now ∧ event.engagement ≤ s.engagement
  released : event.engagement = s.engagement → s.botState.released = true

structure Opened (s : Thread) (turn : OpenTurn) : Prop where
  stamp : turn.botEngagedAt = s.botEngagedAt
  count : turn.botReplyCount = countRepliesThisEngagement s.turns s.botEngagedAt
  free : s.botState.released = false
  claimed : ∀ c ∈ turn.claimedAt, (∀ t ∈ s.botEngagedAt, t ≤ c) ∧ (∀ r ∈ s.replies, r.message.sentAt ≤ c) ∧
    ∀ event ∈ s.handoffs, event.createdAt ≤ c

structure Thread.Sound (s : Thread) : Prop where
  messages : ∀ r ∈ s.replies, r.message ∈ s.messages
  turns : s.turns.filter (·.outcome = .replied) = s.replies.map (·.turn)
  timed : ∀ r ∈ s.replies, r.engagement ≤ s.engagement ∧ r.turn.createdAt < r.message.sentAt ∧ r.message.sentAt ≤ s.now
  stamped : Stamped s.replies s.engagement s.botEngagedAt
  past : ∀ t ∈ s.botEngagedAt, t ≤ s.now
  count : countRepliesThisEngagement s.turns s.botEngagedAt = s.replies.countP (·.engagement = s.engagement)
  handoffs : ∀ event ∈ s.handoffs, HandedOff s event
  opened : ∀ turn ∈ s.openTurn, Opened s turn

theorem countReplies_eq (turns : List Turn) (botEngagedAt : Millis) :
    countRepliesThisEngagement turns (some botEngagedAt) =
      (turns.filter (·.outcome = .replied)).countP (fun t => botEngagedAt ≤ t.createdAt) + 1 := by
  rw [countRepliesThisEngagement, List.countP_filter]
  simp [Bool.and_comm]

theorem countReplies_append (h : ∀ t ∈ rows, t.outcome ≠ .replied) (turns : List Turn) (botEngagedAt : Option Millis) :
    (turns ++ rows).filter (·.outcome = .replied) = turns.filter (·.outcome = .replied) ∧
      countRepliesThisEngagement (turns ++ rows) botEngagedAt = countRepliesThisEngagement turns botEngagedAt := by
  have hrows : rows.filter (·.outcome = .replied) = [] := List.filter_eq_nil_iff.mpr fun t ht => by simpa using h t ht
  have hsame : (turns ++ rows).filter (·.outcome = .replied) = turns.filter (·.outcome = .replied) := by
    rw [List.filter_append, hrows, List.append_nil]
  refine ⟨hsame, ?_⟩
  cases botEngagedAt with
  | none => rfl
  | some t => rw [countReplies_eq, countReplies_eq, hsame]

variable {s s' : Thread}

theorem Thread.Sound.record (hs : s.Sound) (hopen : s.openTurn = none) (id : Uuid) :
    (s.record id s.botEngagedAt (countRepliesThisEngagement s.turns s.botEngagedAt)).Sound := by
  have hreleased : (s.record id s.botEngagedAt (countRepliesThisEngagement s.turns s.botEngagedAt)).botState.released = true := by
    unfold Thread.record
    dsimp only
    split <;> rfl
  refine { hs with handoffs := fun event hevent => ?_, opened := fun turn hturn => ?_ }
  · rcases mem_snoc.mp hevent with hold | rfl
    · exact { hs.handoffs event hold with released := fun _ => hreleased }
    · exact {
        stamped := hs.stamped
        before := fun r hr _ => (hs.timed r hr).2.2
        after := fun r hr hlater => absurd (hs.timed r hr).1 (Nat.not_le.mpr hlater)
        count := hs.count
        past := ⟨le_refl _, le_refl _⟩
        released := fun _ => hreleased }
  · cases hopen.symm.trans hturn

theorem Thread.Sound.refused (hs : s.Sound) (hrows : ∀ t ∈ rows, t.outcome ≠ .replied) :
    Thread.Sound { s with turns := s.turns ++ rows, openTurn := none } := by
  have hsame := countReplies_append hrows s.turns s.botEngagedAt
  exact { hs with
    turns := hsame.1.trans hs.turns
    count := hsame.2.trans hs.count
    handoffs := fun event hevent => { hs.handoffs event hevent with }
    opened := nofun }

theorem Thread.Sound.handOff (hs : s.Sound) (hopen : s.openTurn = some turn) (id : Uuid)
    (reason : HandoffReason) (citedChunkIds : List String) : (s.handOff turn id reason citedChunkIds).Sound := by
  have hturn := hs.opened turn hopen
  have hrows : ∀ outcome : BotTurnOutcome, outcome ≠ .replied →
      ∀ t ∈ turn.claimedAt.toList.map (fun createdAt => Turn.mk createdAt outcome citedChunkIds), t.outcome ≠ .replied := by
    intro outcome houtcome t ht
    obtain ⟨_, _, rfl⟩ := List.mem_map.mp ht
    exact houtcome
  unfold Thread.handOff
  dsimp only
  split
  · exact hs.refused (hrows .suppressed nofun)
  · have hrow := hrows .handedOff nofun
    have hrecorded := (hs.refused hrow).record rfl id
    rw [hturn.stamp, hturn.count]
    rwa [(countReplies_append hrow s.turns s.botEngagedAt).2] at hrecorded

theorem Thread.Sound.reply {row : Turn} (hs : s.Sound) (hopen : s.openTurn = some turn)
    (hclaimed : turn.claimedAt = some row.createdAt) (hrow : row.outcome = .replied)
    (hsent : row.createdAt < m.sentAt ∧ m.sentAt ≤ s.now) : (s.reply turn row m).Sound := by
  have hturn := hs.opened turn hopen
  obtain ⟨hstamp, hearlier, hevents⟩ := hturn.claimed _ hclaimed
  have hbefore : ∀ r ∈ s.replies, r.message.sentAt < m.sentAt := fun r hr => lt_of_le_of_lt (hearlier r hr) hsent.1
  have hpast : ∀ event ∈ s.handoffs, event.engagement < s.engagement := by
    intro event hevent
    refine lt_of_le_of_ne (hs.handoffs event hevent).past.2 fun heq => ?_
    have hreleased := (hs.handoffs event hevent).released heq
    rw [hturn.free] at hreleased
    cases hreleased
  have hfree : s.botState ≠ .humanActive := by
    intro h
    have hnot := hturn.free
    rw [h] at hnot
    cases hnot
  have hturns : (s.turns ++ [row]).filter (·.outcome = .replied) =
      (s.replies ++ [(⟨s.engagement, m, row⟩ : Reply)]).map (·.turn) := by
    rw [List.filter_append, hs.turns, List.map_append, List.filter_singleton, decide_eq_true hrow]
    rfl
  have hone : (s.replies ++ [(⟨s.engagement, m, row⟩ : Reply)]).countP (·.engagement = s.engagement) =
      s.replies.countP (·.engagement = s.engagement) + 1 := by
    simp
  have hcount := hs.count
  refine {
    messages := fun r hr => ?_
    turns := hturns
    timed := fun r hr => ?_
    stamped := ?_
    past := ?_
    count := ?_
    handoffs := fun event hevent => ?_
    opened := nofun }
  · rcases mem_snoc.mp hr with hold | rfl
    · exact List.mem_append_left _ (hs.messages r hold)
    · exact List.mem_append_right _ List.mem_cons_self
  · rcases mem_snoc.mp hr with hold | rfl
    · exact hs.timed r hold
    · exact ⟨le_refl _, hsent⟩
  · unfold Thread.reply
    dsimp only
    rw [hturn.stamp]
    have hstamped := hs.stamped
    cases hengaged : s.botEngagedAt with
    | none =>
      rw [hengaged] at hstamped
      rw [if_pos ⟨hfree, rfl⟩]
      intro r hr
      rcases mem_snoc.mp hr with hold | rfl
      · exact ⟨fun heq => absurd heq (hstamped r hold), fun _ => hbefore r hold⟩
      · exact ⟨fun _ => le_refl _, fun h => absurd h (lt_irrefl _)⟩
    | some t =>
      rw [hengaged] at hstamped
      rw [if_neg (by simp)]
      intro r hr
      rcases mem_snoc.mp hr with hold | rfl
      · exact hstamped r hold
      · exact ⟨fun _ => le_trans (hstamp t hengaged) (le_of_lt hsent.1), fun h => absurd h (lt_irrefl _)⟩
  · unfold Thread.reply
    dsimp only
    rw [hturn.stamp]
    split
    · intro t ht
      cases ht
      exact hsent.2
    · exact hs.past
  · unfold Thread.reply
    dsimp only
    rw [hturn.stamp, hone, ← hcount]
    cases hengaged : s.botEngagedAt with
    | none =>
      rw [if_pos ⟨hfree, rfl⟩, countReplies_eq, hturns]
      have hzero : ((s.replies ++ [(⟨s.engagement, m, row⟩ : Reply)]).map (·.turn)).countP
          (fun t => m.sentAt ≤ t.createdAt) = 0 := by
        rw [List.countP_eq_zero]
        intro t ht
        obtain ⟨r, hr, rfl⟩ := List.mem_map.mp ht
        have hlt : r.turn.createdAt < m.sentAt := by
          rcases mem_snoc.mp hr with hold | rfl
          · exact lt_trans (hs.timed r hold).2.1 (hbefore r hold)
          · exact hsent.1
        simpa using hlt
      rw [hzero]
      rfl
    | some t =>
      rw [if_neg (by simp), countReplies_eq, countReplies_eq, List.filter_append, List.countP_append]
      simp [hstamp t hengaged, hrow]
  · have hlt := hpast event hevent
    have hold := hs.handoffs event hevent
    refine {
      stamped := ?_
      before := fun r hr heq => ?_
      after := fun r hr hlater => ?_
      count := ?_
      past := hold.past
      released := fun heq => absurd heq (ne_of_lt hlt) }
    · have hstamped := hold.stamped
      generalize event.botEngagedAt = botEngagedAt at hstamped ⊢
      cases botEngagedAt with
      | none =>
        intro r hr
        rcases mem_snoc.mp hr with hr | rfl
        · exact hstamped r hr
        · exact ne_of_gt hlt
      | some t =>
        intro r hr
        rcases mem_snoc.mp hr with hr | rfl
        · exact hstamped r hr
        · exact ⟨fun heq => absurd heq (ne_of_gt hlt), fun h => absurd hlt (lt_asymm h)⟩
    · rcases mem_snoc.mp hr with hr | rfl
      · exact hold.before r hr heq
      · exact absurd heq (ne_of_gt hlt)
    · rcases mem_snoc.mp hr with hr | rfl
      · exact hold.after r hr hlater
      · exact lt_of_le_of_lt (hevents event hevent) hsent.1
    · rw [hold.count]
      simp [Thread.reply, ne_of_gt hlt]

theorem step_sound (hs : s.Sound) (hcalm : undisturbed s e) (h : step s e = some s') : s'.Sound := by
  cases e with
  | elapse ms =>
    cases h
    have hnow : s.now ≤ s.now + ms := Int.le_add_of_nonneg_right (Int.natCast_nonneg ms)
    exact { hs with
      timed := fun r hr => ⟨(hs.timed r hr).1, (hs.timed r hr).2.1, le_trans (hs.timed r hr).2.2 hnow⟩
      past := fun t ht => le_trans (hs.past t ht) hnow
      handoffs := fun event hevent =>
        { hs.handoffs event hevent with past := ⟨le_trans (hs.handoffs event hevent).past.1 hnow, (hs.handoffs event hevent).past.2⟩ }
      opened := fun turn hturn => { hs.opened turn hturn with } }
  | message m =>
    cases h
    exact { hs with
      messages := fun r hr => List.mem_append_left _ (hs.messages r hr)
      handoffs := fun event hevent => { hs.handoffs event hevent with }
      opened := fun turn hturn => { hs.opened turn hturn with } }
  | snapshot =>
    obtain ⟨hfree, h⟩ := Option.ite_none_left_eq_some.mp h
    cases h
    refine { hs with handoffs := fun event hevent => { hs.handoffs event hevent with }, opened := fun turn hturn => ?_ }
    cases hturn
    exact ⟨rfl, rfl, by simpa using fun h => hfree (.inr h), nofun⟩
  | claimTurn =>
    obtain ⟨turn, hopen, rfl⟩ := Option.map_eq_some_iff.mp h
    refine { hs with handoffs := fun event hevent => { hs.handoffs event hevent with }, opened := fun turn' hturn' => ?_ }
    cases hturn'
    refine { hs.opened turn hopen with claimed := fun c hc => ?_ }
    cases hclaimed : turn.claimedAt with
    | none =>
      rw [hclaimed] at hc
      cases hc
      exact ⟨hs.past, fun r hr => (hs.timed r hr).2.2, fun event hevent => (hs.handoffs event hevent).past.1⟩
    | some t =>
      rw [hclaimed] at hc
      exact (hs.opened turn hopen).claimed c (hclaimed.trans hc)
  | reply m citedChunkIds =>
    obtain ⟨turn, hopen, h⟩ := Option.bind_eq_some_iff.mp h
    obtain ⟨c, hclaimed, h⟩ := Option.bind_eq_some_iff.mp h
    obtain ⟨hsent, h⟩ := Option.ite_none_right_eq_some.mp h
    cases h
    exact hs.reply hopen hclaimed rfl hsent
  | handOff id reason citedChunkIds =>
    obtain ⟨turn, hopen, rfl⟩ := Option.map_eq_some_iff.mp h
    exact hs.handOff hopen id reason citedChunkIds
  | abandon =>
    cases h
    exact { hs with handoffs := fun event hevent => { hs.handoffs event hevent with }, opened := nofun }
  | requestFromAgent id =>
    simp only [step] at h
    split at h <;> cases h
    · exact hs
    · exact hs.record hcalm id
  | take =>
    cases h
    refine { hs with handoffs := fun event hevent => ?_, opened := fun turn hturn => ?_ }
    · exact { hs.handoffs event hevent with released := fun _ => rfl }
    · cases hcalm.symm.trans hturn
  | reset =>
    cases h
    have hnew : ∀ r ∈ s.replies, r.engagement ≠ s.engagement + 1 := fun r hr => ne_of_lt (Nat.lt_succ_of_le (hs.timed r hr).1)
    refine { hs with
      timed := fun r hr => ⟨Nat.le_succ_of_le (hs.timed r hr).1, (hs.timed r hr).2⟩
      stamped := hnew
      past := nofun
      count := (List.countP_eq_zero.mpr fun r hr => by simpa using hnew r hr).symm
      handoffs := fun event hevent => ?_
      opened := fun turn hturn => ?_ }
    · have hold := hs.handoffs event hevent
      exact { hold with
        past := ⟨hold.past.1, Nat.le_succ_of_le hold.past.2⟩
        released := fun heq => absurd heq (ne_of_lt (Nat.lt_succ_of_le hold.past.2)) }
    · cases hcalm.symm.trans hturn

theorem History.sound (h : History s) : s.Sound := by
  induction h with
  | start now => exact ⟨nofun, rfl, nofun, nofun, nofun, rfl, nofun, nofun⟩
  | step _ hcalm hs ih => exact step_sound ih hcalm hs

def Message.key (m : Message) : Int ×ₗ Nat := toLex (m.sentAt, m.id.toNat)

theorem sentFirst_sorts : Keyset.SortsBy sentFirst Message.key := by
  intro a b
  simp [sentFirst, Message.key, Prod.Lex.toLex_le_toLex]

theorem mem_byId (documents : List Document) : d ∈ (byId documents).map (·.id) ↔ d ∈ documents.map (·.id) := by
  induction documents with
  | nil => rfl
  | cons e rest ih =>
    have hhead : (((byId rest).find? (·.id = e.id)).getD e).id = e.id := by
      cases hfind : (byId rest).find? (·.id = e.id) with
      | none => rfl
      | some x => exact (of_find? hfind).2
    simp only [byId, List.map_cons, List.mem_cons, hhead, List.mem_map, List.mem_filter, decide_eq_true_eq] at ih ⊢
    by_cases heq : d = e.id
    · simp [heq]
    · rw [← ih]
      simp only [heq, false_or]
      constructor
      · exact fun ⟨x, hx, hid⟩ => ⟨x, hx.1, hid⟩
      · exact fun ⟨x, hx, hid⟩ => ⟨x, ⟨hx, hid ▸ heq⟩, hid⟩

theorem mem_citedDocuments (turns : List Turn) (chunks : List KnowledgeChunk) (botEngagedAt : Millis) :
    d ∈ (citedDocuments turns chunks (some botEngagedAt)).map (·.id) ↔
      Cites chunks (fun t => t ∈ turns ∧ botEngagedAt ≤ t.createdAt) d := by
  rw [citedDocuments, mem_byId]
  simp only [Cites, List.map_map, List.mem_map, List.mem_filter, List.contains_iff_mem, List.mem_flatMap, decide_eq_true_eq,
    Function.comp_apply]
  exact exists_congr fun c => ⟨fun ⟨⟨hc, hcited⟩, hid⟩ => ⟨hc, hid, hcited⟩, fun ⟨hc, hid, hcited⟩ => ⟨⟨hc, hcited⟩, hid⟩⟩

theorem HandedOff.exchange (hs : s.Sound) (h : HandedOff s event) :
    (∀ r ∈ s.replies, r.engagement = event.engagement → r.message ∈ botExchange s.messages event.botEngagedAt event.createdAt ∨
      (botExchange s.messages event.botEngagedAt event.createdAt).length = botExchangeMaxMessages ∧
        ∀ m ∈ botExchange s.messages event.botEngagedAt event.createdAt, m.sentAt ≤ r.message.sentAt) ∧
    ∀ r ∈ s.replies, r.engagement ≠ event.engagement →
      r.message ∉ botExchange s.messages event.botEngagedAt event.createdAt := by
  have hstamped := h.stamped
  cases hengaged : event.botEngagedAt with
  | none =>
    rw [hengaged] at hstamped
    exact ⟨fun r hr heq => absurd heq (hstamped r hr), fun _ _ _ => nofun⟩
  | some t =>
    rw [hengaged] at hstamped
    constructor
    · intro r hr heq
      have hmem : r.message ∈ s.messages.filter fun m => t ≤ m.sentAt ∧ m.sentAt ≤ event.createdAt :=
        List.mem_filter.mpr ⟨hs.messages r hr, decide_eq_true ⟨(hstamped r hr).1 heq, h.before r hr heq⟩⟩
      refine or_iff_not_imp_left.mpr fun hout => ?_
      obtain ⟨hfull, hbefore⟩ := Keyset.take_before sentFirst_sorts hmem hout
      exact ⟨hfull, fun m hm => Prod.Lex.monotone_fst _ _ (hbefore m hm)⟩
    · intro r hr hne hmem
      have hwindow := (Keyset.sortBy_perm _ _).mem_iff.mp (List.mem_of_mem_take hmem)
      obtain ⟨-, hfrom, hto⟩ := by simpa using hwindow
      rcases lt_or_gt_of_ne hne with hlt | hgt
      · exact absurd hfrom (not_le.mpr ((hstamped r hr).2 hlt))
      · exact absurd hto (not_le.mpr (h.after r hr hgt))

/-- What the card says of the replies is so; what it says of the documents is so exactly under this condition. -/
theorem handoff_card_iff (hs : History s) (h : context s chunks = some (event, card)) :
    Describes s chunks event card ↔ CitesItsOwn s chunks event := by
  obtain ⟨e, he, heq⟩ := Option.map_eq_some_iff.mp h
  cases heq
  have hevent := hs.sound.handoffs event (firstBy_mem he)
  have hexchange := hevent.exchange hs.sound
  constructor
  · intro hd t ht d
    have hcited := hd.cited d
    rw [show event.botEngagedAt = some t from ht, mem_citedDocuments] at hcited
    constructor
    · rintro ⟨c, hc, hid, u, ⟨hown, -⟩, hmem⟩
      exact hcited.mpr ⟨c, hc, hid, u, hown, hmem⟩
    · rintro ⟨c, hc, hid, u, ⟨hsince, -⟩, hmem⟩
      exact hcited.mp ⟨c, hc, hid, u, hsince, hmem⟩
  · intro hcond
    refine ⟨hexchange.1, hexchange.2, hevent.count, fun d => ?_⟩
    have hstamped := hevent.stamped
    cases hengaged : event.botEngagedAt with
    | none =>
      rw [hengaged] at hstamped
      exact iff_of_false nofun fun ⟨_, _, _, _, ⟨r, hr, hown, _⟩, _⟩ => hstamped r hr hown
    | some t =>
      rw [mem_citedDocuments]
      constructor
      · rintro ⟨c, hc, hid, u, hsince, hmem⟩
        by_cases hown : s.Answered event.engagement u
        · exact ⟨c, hc, hid, u, hown, hmem⟩
        · exact (hcond t hengaged d).2 ⟨c, hc, hid, u, ⟨hsince, hown⟩, hmem⟩
      · rintro ⟨c, hc, hid, u, hown, hmem⟩
        by_cases hopening : u.createdAt < t
        · exact (hcond t hengaged d).1 ⟨c, hc, hid, u, ⟨hown, hopening⟩, hmem⟩
        · obtain ⟨r, hr, -, rfl⟩ := hown
          have hturn : r.turn ∈ s.turns.filter (·.outcome = .replied) := hs.sound.turns ▸ List.mem_map_of_mem hr
          exact ⟨c, hc, hid, r.turn, ⟨(List.mem_filter.mp hturn).1, not_lt.mp hopening⟩, hmem⟩

/-- Two questions, answered from a chunk each; then an agent takes over. -/
def answeredTwice : Thread where
  now := 30
  botState := .handedOff
  botEngagedAt := some 10
  messages := [⟨1, 10⟩, ⟨2, 20⟩]
  turns := [⟨0, .replied, ["refunds"]⟩, ⟨10, .replied, ["shipping"]⟩]
  handoffs := [⟨3, 30, some 10, 2, 0⟩]
  replies := [⟨0, ⟨1, 10⟩, ⟨0, .replied, ["refunds"]⟩⟩, ⟨0, ⟨2, 20⟩, ⟨10, .replied, ["shipping"]⟩⟩]

theorem answeredTwice_history : History answeredTwice := by
  have hclaimed := ((History.start 0).step trivial (e := .snapshot) rfl).step trivial (e := .claimTurn) rfl
  have hreplied := (hclaimed.step trivial (e := .elapse 10) rfl).step trivial (e := .reply ⟨1, 10⟩ ["refunds"]) rfl
  have hagain := (hreplied.step trivial (e := .snapshot) rfl).step trivial (e := .claimTurn) rfl
  have htwice := (hagain.step trivial (e := .elapse 10) rfl).step trivial (e := .reply ⟨2, 20⟩ ["shipping"]) rfl
  exact (htwice.step trivial (e := .elapse 10) rfl).step rfl (e := .requestFromAgent 3) rfl

def refundsChunk : KnowledgeChunk := ⟨"refunds", ⟨4, "Refunds"⟩⟩

def shippingChunk : KnowledgeChunk := ⟨"shipping", ⟨5, "Shipping"⟩⟩

/-- The chunk the opening reply cites is gone, and the card says the rest. -/
theorem handoff_card_iff_rechunked : ∃ event card, context answeredTwice [shippingChunk] = some (event, card) ∧
    card.citedDocuments = [⟨5, "Shipping"⟩] ∧ Describes answeredTwice [shippingChunk] event card := by
  refine ⟨_, _, rfl, rfl, (handoff_card_iff answeredTwice_history rfl).mpr ?_⟩
  rintro t ⟨⟩ d
  constructor
  · rintro ⟨c, hc, -, u, ⟨⟨r, hr, -, rfl⟩, hopening⟩, hmem⟩
    rw [List.mem_singleton.mp hc] at hmem
    rcases List.mem_pair.mp hr with rfl | rfl
    · exact absurd hmem (by decide)
    · exact absurd hopening (by decide)
  · rintro ⟨_, _, _, u, ⟨⟨hu, hsince⟩, hnot⟩, _⟩
    rcases List.mem_pair.mp hu with rfl | rfl
    · exact absurd hsince (by decide)
    · exact absurd ⟨_, List.mem_cons_of_mem _ List.mem_cons_self, rfl, rfl⟩ hnot

/-- Of the document its first reply was made from, the card says nothing. -/
theorem handoff_card_incomplete : ¬ ∀ s, History s → ∀ chunks event card, context s chunks = some (event, card) →
    Describes s chunks event card := by
  intro hclaim
  have hcited := (hclaim answeredTwice answeredTwice_history [refundsChunk, shippingChunk] _ _ rfl).cited 4
  have hcites : Cites [refundsChunk, shippingChunk] (answeredTwice.Answered 0) 4 :=
    ⟨_, List.mem_cons_self, rfl, _, ⟨_, List.mem_cons_self, rfl, rfl⟩, List.mem_cons_self⟩
  exact absurd (hcited.mpr hcites) (by decide +kernel)

end WhatsappCrm.Ai.HandoffCard
