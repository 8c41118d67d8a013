/-
Purpose: The statements that take no turn its row, and so leave every turn in progress what it claimed.
-/
import WhatsappCrm.Ai.Tally

namespace WhatsappCrm.Ai

open Interleaving Table

variable (tenant : Uuid) (principal : SessionPrincipal) (conversation : Uuid)

/-- A statement that takes no row from its owner. -/
inductive Aside (tenantId conversationId : Uuid) : AiDb → AiDb → Prop
  | beside {db db' : AiDb} (h : Beside tenantId conversationId db db') (hsettings : db'.aiConfigs = db.aiConfigs) :
      Aside tenantId conversationId db db'
  | claim {db : AiDb} {turn : BotTurn} (hid : ∀ v ∈ db.botTurns, v.id ≠ turn.id)
      (hinbound : ∀ v ∈ db.botTurns, v.inboundEntry ≠ turn.inboundEntry) (houtcome : turn.outcome ≠ .replied) :
      Aside tenantId conversationId db { db with botTurns := db.botTurns ++ [turn] }
  | reset {db : AiDb} {status : ConversationStatus} (hresets : status.resets = true) :
      Aside tenantId conversationId db
        { db with
          conversations := updateWhere (BotConversation.withId tenantId conversationId)
            (BotConversation.setStatus status) db.conversations
          log := db.log ++ [.reset tenantId conversationId] }

section Asides

variable {tenantId : Uuid} {α : Type}

abbrev AsideProg (tenantId conversationId : Uuid) (p : AiProg α) : Prop :=
  p.Within (fun _ => True) fun _ => Aside tenantId conversationId

theorem Aside.refl (db : AiDb) : Aside tenantId conversationId db db := .beside (.refl db) rfl

theorem read_aside (f : AiDb → α) : AsideProg tenantId conversationId (.read .read f) :=
  Prog.Within.read fun db _ => Aside.refl db

theorem drawId_aside : AsideProg tenantId conversationId drawId :=
  Prog.Within.stmt fun _ _ => .beside ⟨rfl, rfl, [], (List.append_nil _).symm, by simp⟩ rfl

theorem snapshot_aside (trigger : BotInboundTrigger) (now : Millis) :
    AsideProg tenantId conversationId (snapshot trigger now) := by
  apply Prog.Within.bind (read_aside _)
  intro settings
  apply Prog.Within.bind (read_aside _)
  intro message
  apply Prog.Within.bind (read_aside _)
  intro conversation
  apply Prog.Within.bind (read_aside _)
  intro hasIndexedKnowledge
  apply Prog.Within.bind (read_aside _)
  intro providerConfigured
  apply Prog.Within.bind (read_aside _)
  intro featureIncluded
  apply Prog.Within.bind (read_aside _)
  intro botReplyCount
  trivial

theorem insertTurn_cases (db : AiDb) (turn : BotTurn) :
    (db.insertTurn turn).2 = db ∧ (∀ id, (db.insertTurn turn).1 ≠ .ok (some id)) ∨
      (∀ v ∈ db.botTurns, v.id ≠ turn.id) ∧ (∀ v ∈ db.botTurns, v.inboundEntry ≠ turn.inboundEntry) ∧
        db.insertTurn turn = (.ok (some turn.id), { db with botTurns := db.botTurns ++ [turn] }) := by
  rw [AiDb.insertTurn]
  split
  · exact .inl ⟨rfl, fun _ h => by cases h⟩
  · rename_i hid
    split
    · exact .inl ⟨rfl, fun _ h => by cases h⟩
    · rename_i hinbound
      refine .inr ⟨?_, ?_, rfl⟩
      · simpa using hid
      · simpa using hinbound

theorem suppress_aside (trigger : BotInboundTrigger) (reason : BotSuppressionReason) :
    AsideProg tenantId conversationId (suppress trigger reason) := by
  rw [suppress]
  split
  · trivial
  · refine Prog.Within.bind ?_ fun _ => trivial
    apply Prog.Within.bind drawId_aside
    intro id
    apply Prog.Within.stmt
    intro db _
    rcases insertTurn_cases db (suppressedTurn trigger reason id db.now) with ⟨hsame, _⟩ | ⟨hid, hinbound, hinsert⟩
    · rw [hsame]
      exact Aside.refl db
    · rw [hinsert]
      exact .claim hid hinbound fun h => by cases h

theorem drawMessage_aside (message : Option String) : AsideProg tenantId conversationId (drawMessage message) := by
  cases message with
  | none => trivial
  | some => exact drawId_aside.bind fun _ => trivial

variable {db : AiDb}

theorem Beside.of_conversations (hf : ∀ v, (f v).id = v.id ∧ (f v).tenantId = v.tenantId)
    (hstamp : ∀ v, v.withId tenantId conversationId = true → p v = true → (f v).botEngagedAt = v.botEngagedAt)
    (hturns : db'.botTurns.map BotTurn.tallied = db.botTurns.map BotTurn.tallied)
    (hconversations : db'.conversations = updateWhere p f db.conversations) (hlog : db'.log = db.log ++ records)
    (hrecords : ∀ r ∈ records, r.isReset tenantId conversationId = false ∧ ∀ tenant message id,
      r ≠ .replied tenant message id) : Beside tenantId conversationId db db' where
  turns := hturns
  engagedAt := engagedAt_updateWhere hf hstamp hconversations
  log := ⟨records, hlog, hrecords⟩

theorem requestRoutingIfUnowned_aside (eventId : Uuid) (ticketId : Option Uuid) :
    AsideProg tenantId conversationId (requestRoutingIfUnowned tenant conversation eventId ticketId) := by
  cases ticketId with
  | none => trivial
  | some =>
    apply Prog.Within.bind (read_aside _)
    intro ticket
    cases ticket with
    | none => trivial
    | some =>
      dsimp only
      split
      · exact Prog.Within.stmt fun _ _ => .beside ⟨rfl, rfl, _, rfl, by simp [AiRecord.isReset]⟩ rfl
      · trivial

theorem recordHandoff_beside (h : db.recordHandoff event = .ok db') :
    Beside tenantId conversationId db db' ∧ db'.aiConfigs = db.aiConfigs := by
  obtain ⟨_, rfl⟩ := recordHandoff_ok h
  have hrecords : ∀ r ∈ [AiRecord.handedOff event.tenantId event.conversationId event.id],
      r.isReset tenantId conversationId = false ∧ ∀ tenant message id, r ≠ .replied tenant message id := by
    simp [AiRecord.isReset]
  exact ⟨Beside.of_conversations (f := BotConversation.handOff) (fun _ => ⟨rfl, rfl⟩) (fun _ _ _ => rfl) rfl rfl rfl
    hrecords, rfl⟩

theorem requestFromAgent_aside : AsideProg tenantId conversationId (requestFromAgent tenant principal conversation) := by
  apply Prog.Within.bind (read_aside _)
  intro required
  cases required with
  | error => trivial
  | ok _ =>
    apply Prog.Within.bind (read_aside _)
    intro state
    cases state with
    | none => trivial
    | some state =>
      dsimp only
      split
      · trivial
      · apply Prog.Within.bind (read_aside _)
        intro trigger
        cases trigger with
        | none => trivial
        | some trigger =>
          apply Prog.Within.bind (read_aside _)
          intro ticketId
          apply Prog.Within.bind (read_aside _)
          intro botReplyCount
          apply Prog.Within.bind drawId_aside
          intro id
          apply Prog.Within.stmt
          intro db _
          split
          · exact Aside.refl db
          · rename_i db' hrecord
            obtain ⟨hbeside, hsettings⟩ := recordHandoff_beside hrecord
            exact .beside hbeside hsettings

theorem person_aside (hf : ∀ v, (f v).id = v.id ∧ (f v).tenantId = v.tenantId ∧ (f v).botEngagedAt = v.botEngagedAt)
    (hturns : db'.botTurns = db.botTurns) (hconversations : db'.conversations = updateWhere p f db.conversations)
    (hlog : db'.log = db.log) (hsettings : db'.aiConfigs = db.aiConfigs) : Aside tenantId conversationId db db' := by
  have hnothing : db'.log = db.log ++ [] := by rw [hlog, List.append_nil]
  have hkept : db'.botTurns.map BotTurn.tallied = db.botTurns.map BotTurn.tallied := by rw [hturns]
  exact .beside (Beside.of_conversations (fun v => ⟨(hf v).1, (hf v).2.1⟩) (fun v _ _ => (hf v).2.2) hkept
    hconversations hnothing (by simp)) hsettings

theorem claimConversation_aside :
    AsideProg tenantId conversationId (claimConversation tenant principal conversation) := by
  apply Prog.Within.bind (read_aside _)
  intro required
  cases required with
  | error => trivial
  | ok _ =>
    have hclaim : AsideProg tenantId conversationId (.stmt (.claim tenant conversation principal) fun db =>
        (db.conversations.any (BotConversation.claimable tenant conversation),
          { db with
            conversations := updateWhere (BotConversation.claimable tenant conversation)
              (BotConversation.take principal.userId) db.conversations })) :=
      Prog.Within.stmt fun _ _ =>
        person_aside (f := BotConversation.take principal.userId) (fun _ => ⟨rfl, rfl, rfl⟩) rfl rfl rfl rfl
    apply Prog.Within.bind hclaim
    intro claimed
    cases claimed with
    | true | false => exact read_aside _

theorem assertAssigneesExist_aside (userId teamId : Option (Option Uuid)) :
    AsideProg tenantId conversationId (assertAssigneesExist tenant userId teamId) := by
  have huser : AsideProg tenantId conversationId (assertAssigneeExists tenant userId) := by
    rcases userId with _ | _ | userId
    · trivial
    · trivial
    · exact read_aside _
  apply Prog.Within.bind huser
  intro user
  cases user with
  | error => trivial
  | ok _ =>
    rcases teamId with _ | _ | teamId
    · trivial
    · trivial
    · exact read_aside _

theorem assignConversation_aside (userId teamId : Option (Option Uuid)) :
    AsideProg tenantId conversationId (assignConversation tenant principal conversation userId teamId) := by
  apply Prog.Within.bind (read_aside _)
  intro required
  cases required with
  | error => trivial
  | ok _ =>
    apply Prog.Within.bind (assertAssigneesExist_aside tenant userId teamId)
    intro asserted
    cases asserted with
    | error => trivial
    | ok _ =>
      exact Prog.Within.stmt fun _ _ =>
        person_aside (f := BotConversation.assign userId teamId) (fun _ => ⟨rfl, rfl, rfl⟩) rfl rfl rfl rfl

theorem requireHeld_aside : AsideProg tenantId conversationId (requireHeld tenant principal conversation) := by
  apply Prog.Within.bind (read_aside _)
  intro required
  cases required with
  | error => trivial
  | ok =>
    dsimp only
    split <;> trivial

theorem sendMessage_aside (body : String) :
    AsideProg tenantId conversationId (sendMessage tenant principal conversation body) := by
  apply Prog.Within.bind (requireHeld_aside tenant principal conversation)
  intro held
  cases held with
  | error => trivial
  | ok =>
    apply Prog.Within.bind (read_aside _)
    intro optedOut
    cases optedOut with
    | true => trivial
    | false =>
      apply Prog.Within.bind (read_aside _)
      intro sentAt
      split
      · trivial
      · apply Prog.Within.bind drawId_aside
        intro id
        apply Prog.Within.stmt
        intro db _
        split
        · exact Aside.refl db
        · exact person_aside (f := BotConversation.toHuman) (fun _ => ⟨rfl, rfl, rfl⟩) rfl rfl rfl rfl

/-- A change of the status resets its own conversation, or keeps the stamp. -/
theorem setStatus_aside (status : ConversationStatus) :
    AsideProg tenantId conversationId (setStatus tenant principal conversation status) := by
  apply Prog.Within.bind (requireHeld_aside tenant principal conversation)
  intro held
  cases held with
  | error => trivial
  | ok c =>
    apply Prog.Within.stmt
    intro db _
    have hf : ∀ v, (BotConversation.setStatus status v).id = v.id ∧
        (BotConversation.setStatus status v).tenantId = v.tenantId := by
      intro v
      rw [BotConversation.setStatus]
      split <;> exact ⟨rfl, rfl⟩
    by_cases hmine : tenant = tenantId ∧ conversation = conversationId ∧ status.resets = true
    · obtain ⟨rfl, rfl, hresets⟩ := hmine
      simp only [hresets, if_true]
      exact .reset hresets
    · have hstamp : ∀ v, v.withId tenantId conversationId = true → v.withId tenant conversation = true →
          (BotConversation.setStatus status v).botEngagedAt = v.botEngagedAt := by
        intro v hv hselected
        have hv := of_decide_eq_true hv
        have hselected := of_decide_eq_true hselected
        have hkeeps : status.resets = false := by
          cases hresets : status.resets with
          | false => rfl
          | true => exact absurd ⟨hselected.1.symm.trans hv.1, hselected.2.symm.trans hv.2, hresets⟩ hmine
        simp [BotConversation.setStatus, hkeeps]
      have hrecords : ∀ r ∈ (if status.resets then [AiRecord.reset tenant conversation] else []),
          r.isReset tenantId conversationId = false ∧ ∀ tenant message id, r ≠ .replied tenant message id := by
        intro r hr
        split at hr
        · rename_i hresets
          rw [List.mem_singleton.mp hr]
          exact ⟨decide_eq_false fun hsame => hmine ⟨hsame.1, hsame.2, hresets⟩, fun _ _ _ h => by cases h⟩
        · cases hr
      exact .beside (Beside.of_conversations hf hstamp rfl rfl rfl hrecords) rfl

/-- Of the calls, only the bot's turn claims a message, and only an event sets the cap. -/
theorem aiProgram_aside (unicode : Unicode)
    (hturn : ∀ trigger chunks result, call ≠ .handle trigger chunks result) (hevent : ∀ event, call ≠ .event event) :
    AsideProg tenantId conversationId (aiProgram unicode call) := by
  cases call with
  | handle trigger chunks result => exact absurd rfl (hturn trigger chunks result)
  | event event => exact absurd rfl (hevent event)
  | requestFromAgent => exact (requestFromAgent_aside _ _ _).bind fun _ => trivial
  | claim => exact (claimConversation_aside _ _ _).bind fun _ => trivial
  | assign => exact (assignConversation_aside _ _ _ _ _).bind fun _ => trivial
  | send => exact (sendMessage_aside _ _ _ _).bind fun _ => trivial
  | setStatus => exact (setStatus_aside _ _ _ _).bind fun _ => trivial

end Asides

end WhatsappCrm.Ai
