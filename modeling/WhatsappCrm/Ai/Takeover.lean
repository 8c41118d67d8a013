/-
Purpose: A conversation that was given to a person stays with people until it is reset.
-/
import WhatsappCrm.Ai.Effects

namespace WhatsappCrm.Ai

open Interleaving Table

def AiStmt.resetsBot (tenantId conversationId : Uuid) : AiStmt → Bool
  | .setStatus tenant conversation status => tenant = tenantId ∧ conversation = conversationId ∧ status.resets
  | _ => false

/-- A released conversation stays released, but for the reset to `off`. -/
def TakeoverHolds (tag : AiStmt) (db db' : AiDb) : Prop :=
  ∀ c ∈ db.conversations, c.botState.released = true → ∀ c' ∈ db'.conversations, c'.id = c.id →
    c'.botState.released = true ∨ (c'.botState = .off ∧ tag.resetsBot c.tenantId c.id = true)

def MayReply (db : AiDb) : AiStmt → Prop
  | .commitReply tenantId conversationId id => db.messages.any (·.id = id) = true ∨
      ∀ c ∈ db.conversations, c.withId tenantId conversationId = true → c.botState ≠ .handedOff
  | _ => True

variable {c : BotConversation} {tag : AiStmt} {tenantId conversationId : Uuid}

theorem eq_moved {db : AiDb} (hdb : UniqueBy BotConversation.idEntry db.conversations) (hf : ∀ c, (f c).id = c.id)
    (hcs : cs = updateWhere p f db.conversations) (hc : c ∈ db.conversations)
    (hc' : c' ∈ cs) (hid : c'.id = c.id) : c' = if p c then f c else c := by
  subst hcs
  exact UniqueBy.eq_updated hdb (fun c => congrArg some (hf c)) hc hc' rfl (congrArg some hid)

theorem takeoverHolds_of_moved {db : AiDb} (hdb : UniqueBy BotConversation.idEntry db.conversations)
    (hconversations : db'.conversations = updateWhere p f db.conversations) (hf : ∀ c, (f c).id = c.id)
    (hmove : ∀ c ∈ db.conversations, p c = true → c.botState.released = true →
      (f c).botState.released = true ∨ ((f c).botState = .off ∧ tag.resetsBot c.tenantId c.id = true)) :
    TakeoverHolds tag db db' := by
  intro c hc hreleased c' hc' hid
  rw [eq_moved hdb hf hconversations hc hc' hid]
  cases hp : p c with
  | true => exact hmove c hc hp hreleased
  | false => exact .inl hreleased

theorem takeoverHolds_of_same {db : AiDb}
    (hdb : UniqueBy BotConversation.idEntry db.conversations) (h : db'.conversations = db.conversations) :
    TakeoverHolds tag db db' := by
  have hconversations : db'.conversations = updateWhere (fun _ => false) id db.conversations := by
    rw [h, updateWhere_of_none fun _ _ => rfl]
  apply takeoverHolds_of_moved hdb hconversations (fun _ => rfl)
  intro c _ hp
  cases hp

theorem unlessHuman_iff : c.unlessHuman tenantId conversationId = true ↔
      c.withId tenantId conversationId = true ∧ c.botState ≠ .humanActive := by
  simp [BotConversation.unlessHuman]

theorem withId_iff : c.withId tenantId conversationId = true ↔ c.tenantId = tenantId ∧ c.id = conversationId := by
  simp [BotConversation.withId]

theorem Replied.takeoverHolds_iff {db : AiDb} {id : Uuid} (h : Replied trigger id db db')
    (hdb : UniqueBy BotConversation.idEntry db.conversations) : TakeoverHolds tag db db' ↔
      ∀ c ∈ db.conversations, c.withId trigger.tenantId trigger.conversationId = true → c.botState ≠ .handedOff := by
  obtain ⟨stamp, hconversations⟩ := h.conversations
  constructor
  · intro hholds c hc hid hstate
    have hselected : c.unlessHuman trigger.tenantId trigger.conversationId = true :=
      unlessHuman_iff.mpr ⟨hid, by simp [hstate]⟩
    have hmem := mem_updateWhere_of_mem
      (p := BotConversation.unlessHuman trigger.tenantId trigger.conversationId) (f := BotConversation.engage stamp) hc
    rw [if_pos hselected, ← hconversations] at hmem
    rcases hholds c hc (by simp [hstate, ConversationBotState.released]) _ hmem rfl with hreleased | ⟨hoff, _⟩
    · cases hreleased
    · cases hoff
  · intro hfree
    apply takeoverHolds_of_moved hdb hconversations (fun _ => rfl)
    intro c hc hselected hreleased
    obtain ⟨hid, hhuman⟩ := unlessHuman_iff.mp hselected
    have hhandedOff := hfree c hc hid
    cases hstate : c.botState <;> simp_all [ConversationBotState.released]

theorem AiEvent.takeoverHolds (event : AiEvent) {db : AiDb}
    (hdb : UniqueBy BotConversation.idEntry db.conversations) : TakeoverHolds tag db (event.apply db) := by
  cases event with
  | receive message contactId windowEnd =>
    simp only [AiEvent.apply]
    split
    · exact takeoverHolds_of_moved hdb rfl (fun _ => rfl) fun c _ _ hreleased => .inl hreleased
    · split
      · exact takeoverHolds_of_same hdb rfl
      · rename_i hfresh
        intro c hc hreleased c' hc' hid
        rcases mem_snoc.mp hc' with hc' | rfl
        · rw [UniqueBy.eq_of_entry hdb hc' hc (congrArg some hid) rfl]
          exact .inl hreleased
        · have hid : c.id = message.conversationId := hid.symm
          exact absurd (List.any_eq_true.mpr ⟨c, hc, by simpa using hid⟩) hfresh
  | optOut | configure | provide | elapse => exact takeoverHolds_of_same hdb rfl

theorem AiEffect.takeoverHolds_iff {db : AiDb} (heffect : AiEffect tag db db')
    (hdb : UniqueBy BotConversation.idEntry db.conversations) : TakeoverHolds tag db db' ↔ MayReply db tag := by
  cases heffect with
  | same htag h =>
    refine iff_of_true (takeoverHolds_of_same hdb h.conversations) ?_
    cases tag with
    | commitReply => exact .inl (htag _ _ _ rfl)
    | _ => trivial
  | insertTurn h =>
    refine iff_of_true (takeoverHolds_of_same hdb ?_) trivial
    subst h
    simp only [AiDb.insertTurn]
    split
    · rfl
    · split <;> rfl
  | updateTurn | request => exact iff_of_true (takeoverHolds_of_same hdb rfl) trivial
  | reply h =>
    have hreplied := commitReply_ok h
    rw [hreplied.takeoverHolds_iff hdb, MayReply, hreplied.fresh]
    simp
  | turnHandoff h =>
    have hhandedOff := commitHandoff_ok rfl rfl h
    apply iff_of_true (takeoverHolds_of_moved hdb hhandedOff.conversations (fun _ => rfl) ?_) trivial
    exact fun _ _ _ _ => .inl rfl
  | agentHandoff h =>
    have hhandedOff := recordHandoff_handedOff h
    apply iff_of_true (takeoverHolds_of_moved hdb hhandedOff.conversations (fun _ => rfl) ?_) trivial
    exact fun _ _ _ _ => .inl rfl
  | people htag hf h =>
    have hmay : MayReply db tag := by
      cases htag <;> trivial
    refine iff_of_true (takeoverHolds_of_moved hdb h.conversations (fun c => (hf c).1) ?_) hmay
    intro c _ _ hreleased
    rcases (hf c).2.2 with hsame | hhuman
    · rw [hsame]
      exact .inl hreleased
    · rw [hhuman]
      exact .inl rfl
  | status tenantId conversationId status =>
    have hid : ∀ c : BotConversation, (c.setStatus status).id = c.id := by
      intro c
      rw [BotConversation.setStatus]
      split <;> rfl
    refine iff_of_true (takeoverHolds_of_moved hdb rfl hid ?_) trivial
    intro c _ hselected hreleased
    obtain ⟨rfl, rfl⟩ := withId_iff.mp hselected
    cases hresets : status.resets with
    | true => exact .inr ⟨by simp [BotConversation.setStatus, hresets], by simp [AiStmt.resetsBot, hresets]⟩
    | false =>
      left
      simpa [BotConversation.setStatus, hresets] using hreleased
  | event event => exact iff_of_true (event.takeoverHolds hdb) trivial

def Rewritten (db db' : AiDb) : Prop :=
  ∃ p f, db'.conversations = updateWhere p f db.conversations ∧
    ∀ c : BotConversation, (f c).id = c.id ∧ (f c).tenantId = c.tenantId

theorem Rewritten.of_same {db : AiDb} (h : db'.conversations = db.conversations) : Rewritten db db' :=
  ⟨fun _ => false, id, by rw [h, updateWhere_of_none fun _ _ => rfl], fun _ => ⟨rfl, rfl⟩⟩

theorem AiEffect.conversations {db : AiDb} (heffect : AiEffect tag db db') :
    Rewritten db db' ∨ ∃ opened : BotConversation, (∀ c ∈ db.conversations, c.id ≠ opened.id) ∧
      db'.conversations = db.conversations ++ [opened] := by
  cases heffect with
  | same _ h => exact .inl (.of_same h.conversations)
  | insertTurn h =>
    refine .inl (.of_same ?_)
    subst h
    simp only [AiDb.insertTurn]
    split
    · rfl
    · split <;> rfl
  | updateTurn | request => exact .inl (.of_same rfl)
  | reply h =>
    obtain ⟨stamp, hconversations⟩ := (commitReply_ok h).conversations
    exact .inl ⟨_, _, hconversations, fun _ => ⟨rfl, rfl⟩⟩
  | turnHandoff h => exact .inl ⟨_, _, (commitHandoff_ok rfl rfl h).conversations, fun _ => ⟨rfl, rfl⟩⟩
  | agentHandoff h => exact .inl ⟨_, _, (recordHandoff_handedOff h).conversations, fun _ => ⟨rfl, rfl⟩⟩
  | people _ hf h => exact .inl ⟨_, _, h.conversations, fun c => ⟨(hf c).1, (hf c).2.1⟩⟩
  | status _ _ =>
    refine .inl ⟨_, _, rfl, fun c => ?_⟩
    rw [BotConversation.setStatus]
    split <;> exact ⟨rfl, rfl⟩
  | event event db =>
    cases event with
    | receive message contactId windowEnd =>
      by_cases hknown : db.conversations.any (BotConversation.withId message.tenantId message.conversationId) = true
      · exact .inl ⟨_, fun c => { c with serviceWindowExpiresAt := some windowEnd },
          by rw [AiEvent.apply, if_pos hknown], fun _ => ⟨rfl, rfl⟩⟩
      · by_cases htaken : db.conversations.any (·.id = message.conversationId) = true
        · exact .inl (.of_same (by rw [AiEvent.apply, if_neg hknown, if_pos htaken]))
        · refine .inr ⟨openedThread message contactId windowEnd, fun c hc hid => htaken ?_, ?_⟩
          · have hid : c.id = message.conversationId := hid
            exact List.any_eq_true.mpr ⟨c, hc, by simpa using hid⟩
          · rw [AiEvent.apply, if_neg hknown, if_neg htaken]
    | optOut | configure | provide | elapse => exact .inl (.of_same rfl)

theorem AiEffect.uniqueConversations {db : AiDb} (heffect : AiEffect tag db db')
    (hdb : UniqueBy BotConversation.idEntry db.conversations) :
    UniqueBy BotConversation.idEntry db'.conversations := by
  rcases heffect.conversations with ⟨p, f, hconversations, hf⟩ | ⟨opened, hfresh, hconversations⟩
  · rw [hconversations]
    exact hdb.updateWhere fun c _ _ => .inr (congrArg some (hf c).1)
  · rw [hconversations]
    exact hdb.concat fun c hc hclash => hfresh c hc (Option.some.inj hclash.2)

section Runs

variable {unicode : Unicode} {db : AiDb}

variable {s : AiSys}

theorem AiRun.uniqueConversations (hdb : UniqueBy BotConversation.idEntry db.conversations)
    (hs : AiRun unicode db s) : UniqueBy BotConversation.idEntry s.db.conversations :=
  Reachable.invariant (fun call => (aiProgram_within unicode call).weaken fun _ _ => trivial)
    (fun _ _ _ _ hunique _ heffect => heffect.uniqueConversations hunique) hdb hs

theorem AiStep.effect (hs : AiRun unicode db s) (hstep : AiStep s tag s') : AiEffect tag s.db s'.db := by
  obtain ⟨i, call, β, act, next, hcall, rfl⟩ := hstep
  have hfollows := Reachable.follows (aiProgram_within unicode) (fun _ _ => trivial) hs
  exact (hfollows.exec_spec trivial hcall).1

def onlyUnreleasedReplies (s : AiSys) (_ : AiCall) (tag : AiStmt) : Prop := MayReply s.db tag

def withoutReset (tenantId conversationId : Uuid) (s : AiSys) (_ : AiCall) (tag : AiStmt) : Prop :=
  MayReply s.db tag ∧ tag.resetsBot tenantId conversationId = false

def Released (tenantId conversationId : Uuid) (db : AiDb) : Prop :=
  ∃ c ∈ db.conversations, c.tenantId = tenantId ∧ c.id = conversationId ∧ c.botState.released = true

theorem AiEffect.released (heffect : AiEffect tag db db') (hdb : UniqueBy BotConversation.idEntry db.conversations) (hmay : MayReply db tag)
    (hreset : tag.resetsBot tenantId conversationId = false) (h : Released tenantId conversationId db) :
    Released tenantId conversationId db' := by
  obtain ⟨c, hc, htenant, hid, hreleased⟩ := h
  have hstays : ∃ c' ∈ db'.conversations, c'.tenantId = c.tenantId ∧ c'.id = c.id := by
    rcases heffect.conversations with ⟨p, f, hconversations, hf⟩ | ⟨opened, _, hconversations⟩
    · have hmem := mem_updateWhere_of_mem (p := p) (f := f) hc
      rw [← hconversations] at hmem
      refine ⟨_, hmem, ?_⟩
      split
      · exact ⟨(hf c).2, (hf c).1⟩
      · exact ⟨rfl, rfl⟩
    · rw [hconversations]
      exact ⟨c, List.mem_append_left _ hc, rfl, rfl⟩
  obtain ⟨c', hc', htenant', hid'⟩ := hstays
  refine ⟨c', hc', htenant'.trans htenant, hid'.trans hid, ?_⟩
  rcases (heffect.takeoverHolds_iff hdb).mpr hmay c hc hreleased c' hc' hid' with hreleased' | ⟨_, hresets⟩
  · exact hreleased'
  · rw [htenant, hid, hreset] at hresets
    cases hresets

theorem released_stays (hdb : UniqueBy BotConversation.idEntry db.conversations) (hs : AiRun unicode db s)
    (hs' : Reachable (aiProgram unicode) (withoutReset tenantId conversationId) s s')
    (h : Released tenantId conversationId s.db) : Released tenantId conversationId s'.db := by
  induction hs' with
  | refl => exact h
  | @tail s₁ s₂ hs₁ hstep ih =>
    have hreached : AiRun unicode db s₁ := hs.trans (Reachable.mono (fun _ _ _ _ => trivial) hs₁)
    have hfollows := Reachable.follows (aiProgram_within unicode) (fun _ _ => trivial) hreached
    rcases hstep.effect hfollows trivial with heq | ⟨_, tag, ⟨hmay, hreset⟩, heffect⟩
    · rwa [heq]
    · exact heffect.released (hreached.uniqueConversations hdb) hmay hreset ih

end Runs

/-- The turn is about to be executed. -/
def turnStarted : AiSys := (Sys.idle oneBotConversation).spawn (aiProgram asciiOnly) answeredQuestion

/-- The model is thinking; the agent takes the thread from the console; then the reply is committed. -/
def overtakingReplySchedule : List (Move AiCall) :=
  .spawn answeredQuestion :: List.replicate 12 (.step 0) ++
    .spawn (.requestFromAgent 1 { userId := 4, permissions := [.conversationReadAll], teamIds := [] } 7) ::
      List.replicate 7 (.step 1)

end WhatsappCrm.Ai
