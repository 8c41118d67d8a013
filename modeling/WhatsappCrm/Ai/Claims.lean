/-
Purpose: Two people who want one conversation.
-/
import WhatsappCrm.Ai.Effects

namespace WhatsappCrm.Ai

open Interleaving Table

def AiDb.owner (db : AiDb) (tenantId conversationId : Uuid) : Option AssignableRecord :=
  (db.findConversation tenantId conversationId).map (·.assignable)

def takenBy (userId : Uuid) (record : AssignableRecord) : AssignableRecord :=
  { record with assignedUserId := some userId }

def assignedTo (userId teamId : Option (Option Uuid)) (record : AssignableRecord) : AssignableRecord where
  assignedUserId := userId.getD record.assignedUserId
  assignedTeamId := teamId.getD record.assignedTeamId

def Held (db : AiDb) (tenantId conversationId : Uuid) : Prop :=
  ∃ record, db.owner tenantId conversationId = some record ∧ record.assignedUserId ≠ none

inductive OwnerMove (tag : AiStmt) (tenantId conversationId : Uuid) :
    Option AssignableRecord → Option AssignableRecord → Prop
  | same (owner : Option AssignableRecord) : OwnerMove tag tenantId conversationId owner owner
  | opened : OwnerMove tag tenantId conversationId none (some ⟨none, none⟩)
  | claimed (principal : SessionPrincipal) (htag : tag = .claim tenantId conversationId principal)
      (record : AssignableRecord) (hfree : record.assignedUserId = none) :
      OwnerMove tag tenantId conversationId (some record) (some (takenBy principal.userId record))
  | assigned (userId teamId : Option (Option Uuid)) (htag : tag = .assign tenantId conversationId userId teamId)
      (record : AssignableRecord) :
      OwnerMove tag tenantId conversationId (some record) (some (assignedTo userId teamId record))

variable {db' : AiDb} {p : BotConversation → Bool} {f : BotConversation → BotConversation}
  {tenantId conversationId : Uuid} {tag : AiStmt} {principal : SessionPrincipal} {s s' : AiSys}
  {rest : AiProg AiReply}

theorem owner_of_same {db : AiDb} (h : db'.conversations = db.conversations) (tenantId conversationId : Uuid) :
    db'.owner tenantId conversationId = db.owner tenantId conversationId := by
  rw [AiDb.owner, AiDb.findConversation, h]
  rfl

theorem findConversation_moved {db : AiDb} (h : db'.conversations = updateWhere p f db.conversations)
    (hf : ∀ c, (f c).id = c.id ∧ (f c).tenantId = c.tenantId) (tenantId conversationId : Uuid) :
    db'.findConversation tenantId conversationId =
      (db.findConversation tenantId conversationId).map fun c => if p c then f c else c := by
  rw [AiDb.findConversation, h]
  exact find?_updateWhere (fun c => by rw [(hf c).1, (hf c).2]) db.conversations

theorem findConversation_some {db : AiDb}
    (h : db.findConversation tenantId conversationId = some c) : c.withId tenantId conversationId = true := by
  have hfound := List.find?_some h
  exact hfound

theorem owner_of_moved {db : AiDb} (h : db'.conversations = updateWhere p f db.conversations)
    (hf : ∀ c, (f c).id = c.id ∧ (f c).tenantId = c.tenantId) (hown : ∀ c, (f c).assignable = c.assignable)
    (tenantId conversationId : Uuid) : db'.owner tenantId conversationId = db.owner tenantId conversationId := by
  rw [AiDb.owner, findConversation_moved h hf, Option.map_map, AiDb.owner]
  congr 1
  funext c
  simp only [Function.comp_apply]
  split
  · exact hown c
  · rfl

theorem PersonWrites.owner {db : AiDb} (h : PersonWrites tag p f) (hf : TowardsHuman f)
    (hconversations : db'.conversations = updateWhere p f db.conversations) (tenantId conversationId : Uuid) :
    OwnerMove tag tenantId conversationId (db.owner tenantId conversationId) (db'.owner tenantId conversationId) := by
  have hids : ∀ c, (f c).id = c.id ∧ (f c).tenantId = c.tenantId := fun c => ⟨(hf c).1, (hf c).2.1⟩
  cases h with
  | send hown =>
    rw [owner_of_moved hconversations hids hown]
    exact .same _
  | claim tenant conversation principal =>
    rw [AiDb.owner, AiDb.owner, findConversation_moved hconversations hids]
    cases hfound : db.findConversation tenantId conversationId with
    | none => exact .same _
    | some c =>
      simp only [Option.map_some]
      split
      · rename_i hclaimable
        simp only [BotConversation.claimable, decide_eq_true_eq, BotConversation.withId] at hclaimable
        have hid := findConversation_some hfound
        simp only [BotConversation.withId, decide_eq_true_eq] at hid
        obtain ⟨⟨rfl, rfl⟩, hfree⟩ := hclaimable
        obtain ⟨rfl, rfl⟩ := hid
        exact .claimed principal rfl c.assignable hfree
      · exact .same _
  | assign tenant conversation userId teamId =>
    rw [AiDb.owner, AiDb.owner, findConversation_moved hconversations hids]
    cases hfound : db.findConversation tenantId conversationId with
    | none => exact .same _
    | some c =>
      simp only [Option.map_some]
      split
      · rename_i hnamed
        have hid := findConversation_some hfound
        simp only [BotConversation.withId, decide_eq_true_eq] at hid hnamed
        obtain ⟨rfl, rfl⟩ := hnamed
        obtain ⟨rfl, rfl⟩ := hid
        exact .assigned userId teamId rfl c.assignable
      · exact .same _

theorem AiEvent.owner (event : AiEvent) (db : AiDb) (tag : AiStmt) (tenantId conversationId : Uuid) :
    OwnerMove tag tenantId conversationId (db.owner tenantId conversationId)
      ((event.apply db).owner tenantId conversationId) := by
  cases event with
  | receive message contactId windowEnd =>
    by_cases hknown : db.conversations.any (BotConversation.withId message.tenantId message.conversationId) = true
    · have hmoved : ((AiEvent.receive message contactId windowEnd).apply db).conversations =
          updateWhere (BotConversation.withId message.tenantId message.conversationId)
            (fun c => { c with serviceWindowExpiresAt := some windowEnd }) db.conversations := by
        rw [AiEvent.apply, if_pos hknown]
      rw [owner_of_moved hmoved (fun _ => ⟨rfl, rfl⟩) fun _ => rfl]
      exact .same _
    · rw [AiEvent.apply, if_neg hknown]
      split
      · exact .same _
      · simp only [AiDb.owner, AiDb.findConversation, List.find?_append]
        cases db.conversations.find? (fun c => c.tenantId = tenantId ∧ c.id = conversationId) with
        | some => exact .same _
        | none =>
          rw [Option.none_or, List.find?_singleton]
          split
          · exact .opened
          · exact .same _
  | optOut | configure | provide | elapse => exact .same _

theorem AiEffect.owner {db : AiDb} (heffect : AiEffect tag db db')
    (tenantId conversationId : Uuid) : OwnerMove tag tenantId conversationId (db.owner tenantId conversationId)
      (db'.owner tenantId conversationId) := by
  have hkept : db'.owner tenantId conversationId = db.owner tenantId conversationId →
      OwnerMove tag tenantId conversationId (db.owner tenantId conversationId) (db'.owner tenantId conversationId) := by
    intro h
    rw [h]
    exact .same _
  cases heffect with
  | same _ h => exact hkept (owner_of_same h.conversations _ _)
  | insertTurn h =>
    apply hkept
    apply owner_of_same
    subst h
    simp only [AiDb.insertTurn]
    split
    · rfl
    · split <;> rfl
  | updateTurn | request => exact hkept rfl
  | reply h =>
    obtain ⟨stamp, hconversations⟩ := (commitReply_ok h).conversations
    exact hkept (owner_of_moved hconversations (fun _ => ⟨rfl, rfl⟩) (fun _ => rfl) _ _)
  | turnHandoff h =>
    exact hkept (owner_of_moved (commitHandoff_ok rfl rfl h).conversations (fun _ => ⟨rfl, rfl⟩) (fun _ => rfl) _ _)
  | agentHandoff h =>
    exact hkept (owner_of_moved (recordHandoff_handedOff h).conversations (fun _ => ⟨rfl, rfl⟩) (fun _ => rfl) _ _)
  | people htag hf h => exact htag.owner hf h.conversations tenantId conversationId
  | status _ _ status =>
    have hids : ∀ c : BotConversation, (c.setStatus status).id = c.id ∧ (c.setStatus status).tenantId = c.tenantId := by
      intro c
      rw [BotConversation.setStatus]
      split <;> exact ⟨rfl, rfl⟩
    have hown : ∀ c : BotConversation, (c.setStatus status).assignable = c.assignable := by
      intro c
      rw [BotConversation.setStatus]
      split <;> rfl
    exact hkept (owner_of_moved rfl hids hown _ _)
  | event event db => exact event.owner db _ _ _

inductive ClaimDoes (tenantId : Uuid) (principal : SessionPrincipal) (conversationId : Uuid) :
    AiStmt → AiDb → AiProg AiReply → AiDb → Prop
  | read {tag : AiStmt} {db : AiDb} {rest : AiProg AiReply}
      (hnext : rest.next? = some (.claim tenantId conversationId principal) → ∃ record,
        db.owner tenantId conversationId = some record ∧ isVisibleOrUnclaimed record principal .conversationReadAll = true)
      (herror : ∀ e, rest.result? = some (.conversation (.error e)) →
        ∀ record, db.owner tenantId conversationId = some record → record.assignedUserId ≠ some principal.userId)
      (hok : ∀ c, rest.result? = some (.conversation (.ok c)) → db.findConversation tenantId conversationId = some c) :
      ClaimDoes tenantId principal conversationId tag db rest db
  | take {db db' : AiDb} {rest : AiProg AiReply} (hnext : rest.next? = some .read)
      (hconversations : db'.conversations = updateWhere (BotConversation.claimable tenantId conversationId)
        (BotConversation.take principal.userId) db.conversations) :
      ClaimDoes tenantId principal conversationId (.claim tenantId conversationId principal) db rest db'

theorem visible_of_own {record : AssignableRecord} (h : record.assignedUserId = some principal.userId) :
    isVisibleOrUnclaimed record principal .conversationReadAll = true := by
  have hvisible : isVisible record principal .conversationReadAll = true := isVisible_iff.mpr (.inr (.inl h))
  rw [isVisibleOrUnclaimed, hvisible, Bool.true_or]

theorem lastRead_follows (herror : ∀ db e, answer db = .error e →
      ∀ record, db.owner tenantId conversationId = some record → record.assignedUserId ≠ some principal.userId)
    (hok : ∀ db c, answer db = .ok c → db.findConversation tenantId conversationId = some c) :
    ((Prog.read .read answer : AiProg _).bind (.pure ∘ .conversation)).Follows (fun _ => True)
      (ClaimDoes tenantId principal conversationId) := by
  intro db _
  refine ⟨.read (fun hnext => by cases hnext) (fun e he => ?_) (fun c hc => ?_), trivial⟩
  · have hanswer : AiReply.conversation (answer db) = .conversation (.error e) := Option.some.inj he
    exact herror db e (AiReply.conversation.inj hanswer)
  · have hanswer : AiReply.conversation (answer db) = .conversation (.ok c) := Option.some.inj hc
    exact hok db c (AiReply.conversation.inj hanswer)

theorem owner_none {db : AiDb} (h : db.findConversation tenantId conversationId = none) : db.owner tenantId conversationId = none := by
  rw [AiDb.owner, h, Option.map_none]

theorem readConversation_follows (tenantId : Uuid) (principal : SessionPrincipal) (conversationId : Uuid) :
    ((readConversation tenantId conversationId).bind (.pure ∘ .conversation)).Follows (fun _ => True)
      (ClaimDoes tenantId principal conversationId) := by
  apply lastRead_follows
  · intro db e he record hrecord
    split at he
    · rename_i hnone
      rw [owner_none hnone] at hrecord
      cases hrecord
    · cases he
  · intro db c hc
    split at hc
    · cases hc
    · rename_i hfound
      cases hc
      exact hfound

theorem reportLostClaim_follows (tenantId : Uuid) (principal : SessionPrincipal) (conversationId : Uuid) :
    ((reportLostClaim tenantId conversationId principal.userId).bind (.pure ∘ .conversation)).Follows (fun _ => True)
      (ClaimDoes tenantId principal conversationId) := by
  apply lastRead_follows
  · intro db e he record hrecord
    split at he
    · rename_i hnone
      rw [owner_none hnone] at hrecord
      cases hrecord
    · rename_i c hfound
      split at he
      · cases he
      · rename_i hother
        rw [AiDb.owner, hfound] at hrecord
        cases hrecord
        exact hother
  · intro db c hc
    split at hc
    · cases hc
    · rename_i hfound
      split at hc
      · cases hc
        exact hfound
      · cases hc

theorem claimProgram_follows (tenantId : Uuid) (principal : SessionPrincipal) (conversationId : Uuid) :
    ((claimConversation tenantId principal conversationId).bind (.pure ∘ .conversation)).Follows (fun _ => True)
      (ClaimDoes tenantId principal conversationId) := by
  have herror : ∀ db : AiDb, ∀ e : AiError, (∀ record, db.owner tenantId conversationId = some record →
      record.assignedUserId ≠ some principal.userId) →
      ClaimDoes tenantId principal conversationId .read db (.pure (.conversation (.error e))) db := by
    intro db e hnot
    exact .read (fun hnext => by cases hnext) (fun _ _ => hnot) fun c hc => by cases hc
  intro db _
  dsimp only
  split
  · rename_i hnone
    refine ⟨herror db _ fun record hrecord => ?_, trivial⟩
    rw [owner_none hnone] at hrecord
    cases hrecord
  · rename_i c hfound
    have howner : db.owner tenantId conversationId = some c.assignable := by rw [AiDb.owner, hfound, Option.map_some]
    split
    · rename_i hvisible
      refine ⟨.read (fun _ => ⟨_, howner, hvisible⟩) (fun e he => by cases he) (fun c hc => by cases hc), ?_⟩
      intro db' _
      simp only [Prog.bind_pure_left]
      split
      · exact ⟨.take rfl rfl, readConversation_follows tenantId principal conversationId⟩
      · exact ⟨.take rfl rfl, reportLostClaim_follows tenantId principal conversationId⟩
    · rename_i hunseen
      refine ⟨herror db _ fun record hrecord hown => hunseen ?_, trivial⟩
      rw [howner] at hrecord
      cases hrecord
      exact visible_of_own hown

def claimsOf (s : AiSys) (tenantId conversationId : Uuid) : List (SessionPrincipal × AiProg AiReply) :=
  s.calls.filterMap fun e =>
    match e.1 with
    | .claim tenant principal conversation =>
      if tenant = tenantId ∧ conversation = conversationId then some (principal, e.2) else none
    | _ => none

theorem mem_claimsOf : (principal, rest) ∈ claimsOf s tenantId conversationId ↔
      (.claim tenantId principal conversationId, rest) ∈ s.calls := by
  simp only [claimsOf, List.mem_filterMap]
  constructor
  · rintro ⟨⟨call, rest'⟩, hmem, hselected⟩
    dsimp only at hselected
    split at hselected
    · split at hselected
      · rename_i hsame
        obtain ⟨rfl, rfl⟩ := hsame
        cases hselected
        exact hmem
      · cases hselected
    · cases hselected
  · intro hmem
    exact ⟨_, hmem, by simp⟩

def AboutToTake (tenantId conversationId : Uuid) (claim : SessionPrincipal × AiProg AiReply) : Prop :=
  claim.2.next? = some (.claim tenantId conversationId claim.1)

def LeavesInSight (s : AiSys) (tenantId conversationId : Uuid) (userId teamId : Option (Option Uuid)) : Prop :=
  ∀ record ∈ s.db.owner tenantId conversationId, (assignedTo userId teamId record).assignedUserId = none →
    ∀ claim ∈ claimsOf s tenantId conversationId, AboutToTake tenantId conversationId claim →
      isVisibleOrUnclaimed (assignedTo userId teamId record) claim.1 .conversationReadAll = true

def ReleasesInPeace (s : AiSys) (tenantId conversationId : Uuid) (userId teamId : Option (Option Uuid)) : Prop :=
  ∀ record ∈ s.db.owner tenantId conversationId, record.assignedUserId ≠ none →
    (assignedTo userId teamId record).assignedUserId = none →
      ∀ claim ∈ claimsOf s tenantId conversationId, claim.2.result?.isSome = true

def claimsUndisturbed (s : AiSys) (_ : AiCall) : AiStmt → Prop
  | .assign tenantId conversationId userId teamId =>
    LeavesInSight s tenantId conversationId userId teamId ∧ ReleasesInPeace s tenantId conversationId userId teamId
  | _ => True

instance (tenantId conversationId : Uuid) (claim : SessionPrincipal × AiProg AiReply) :
    Decidable (AboutToTake tenantId conversationId claim) :=
  inferInstanceAs (Decidable (_ = _))

instance (s : AiSys) (tenantId conversationId : Uuid) (userId teamId : Option (Option Uuid)) :
    Decidable (LeavesInSight s tenantId conversationId userId teamId) := by
  unfold LeavesInSight
  infer_instance

instance (s : AiSys) (tenantId conversationId : Uuid) (userId teamId : Option (Option Uuid)) :
    Decidable (ReleasesInPeace s tenantId conversationId userId teamId) := by
  unfold ReleasesInPeace
  infer_instance

instance (s : AiSys) (call : AiCall) (tag : AiStmt) : Decidable (claimsUndisturbed s call tag) := by
  unfold claimsUndisturbed
  split <;> infer_instance

section Runs

variable {db : AiDb}

def CallDoes : AiCall → AiStmt → AiDb → AiProg AiReply → AiDb → Prop
  | .claim tenantId principal conversationId, tag, db, rest, db' =>
    AiEffect tag db db' ∧ ClaimDoes tenantId principal conversationId tag db rest db'
  | _, tag, db, _, db' => AiEffect tag db db'

theorem CallDoes.effect (h : CallDoes call tag db rest db') : AiEffect tag db db' := by
  cases call with
  | claim => exact h.1
  | _ => exact h

theorem aiProgram_does (unicode : Unicode) (call : AiCall) :
    (aiProgram unicode call).Follows (fun _ => True) (CallDoes call) := by
  have hwithin := aiProgram_within unicode call
  cases call with
  | claim tenantId principal conversationId =>
    exact hwithin.and (claimProgram_follows tenantId principal conversationId)
  | _ => exact hwithin

theorem AiRun.does (hs : AiRun unicode db s) : s.Follows (fun _ => True) CallDoes :=
  Reachable.follows (aiProgram_does unicode) (fun _ _ => trivial) hs

def ClaimStep (s : AiSys) (i : Nat) (tenantId : Uuid) (principal : SessionPrincipal) (conversationId : Uuid)
    (s' : AiSys) : Prop :=
  ∃ (tag : AiStmt) (β : Type) (act : AiDb → β × AiDb) (next : β → AiProg AiReply),
    s.calls[i]? = some (.claim tenantId principal conversationId, .atomic tag act next) ∧
      s' = s.exec i (.claim tenantId principal conversationId) act next

def Takes (s : AiSys) (i : Nat) (tenantId : Uuid) (principal : SessionPrincipal) (conversationId : Uuid)
    (s' : AiSys) : Prop :=
  ClaimStep s i tenantId principal conversationId s' ∧
    s'.db.findConversation tenantId conversationId ≠ s.db.findConversation tenantId conversationId

variable {i : Nat}

theorem ClaimStep.does (hs : AiRun unicode db s) (h : ClaimStep s i tenantId principal conversationId s') :
    ∃ tag rest, s'.calls[i]? = some (.claim tenantId principal conversationId, rest) ∧
      (∃ β act next, s.calls[i]? = some (.claim tenantId principal conversationId, @Prog.atomic _ _ _ β tag act next)) ∧
      ClaimDoes tenantId principal conversationId tag s.db rest s'.db := by
  obtain ⟨tag, β, act, next, hcall, rfl⟩ := h
  have hlength : i < s.calls.length := (List.getElem?_eq_some_iff.mp hcall).1
  refine ⟨tag, next (act s.db).1, by simp [Sys.exec, hlength], ⟨β, act, next, hcall⟩, ?_⟩
  exact (hs.does.exec_spec trivial hcall).1.2

theorem ClaimDoes.taken (h : ClaimDoes tenantId principal conversationId tag before rest after)
    (hchanged : after.findConversation tenantId conversationId ≠ before.findConversation tenantId conversationId) :
    tag = .claim tenantId conversationId principal ∧
      ∃ c, before.findConversation tenantId conversationId = some c ∧ c.assignedUserId = none ∧
        after.findConversation tenantId conversationId = some (c.take principal.userId) := by
  cases h with
  | read => exact absurd rfl hchanged
  | take hnext hconversations =>
    refine ⟨rfl, ?_⟩
    have hmoved := findConversation_moved hconversations (fun _ => ⟨rfl, rfl⟩) tenantId conversationId
    rw [hmoved] at hchanged ⊢
    cases hfound : before.findConversation tenantId conversationId with
    | none =>
      rw [hfound] at hchanged
      exact absurd rfl hchanged
    | some c =>
      rw [hfound, Option.map_some] at hchanged
      simp only [Option.map_some]
      by_cases hclaimable : c.claimable tenantId conversationId = true
      · refine ⟨c, rfl, ?_, by rw [if_pos hclaimable]⟩
        simp only [BotConversation.claimable, decide_eq_true_eq] at hclaimable
        exact hclaimable.2
      · rw [if_neg hclaimable] at hchanged
        exact absurd rfl hchanged

theorem ClaimDoes.answered
    (h : ClaimDoes tenantId principal conversationId tag before (.pure (.conversation answer)) after) :
    match answer with
    | .ok c => before.findConversation tenantId conversationId = some c
    | .error _ => ∀ c, before.findConversation tenantId conversationId = some c →
        c.assignedUserId ≠ some principal.userId := by
  cases h with
  | take hnext => cases hnext
  | read _ herror hok =>
    cases answer with
    | ok c => exact hok c rfl
    | error e => exact fun c hfound => herror e rfl c.assignable (by rw [AiDb.owner, hfound, Option.map_some])

theorem Takes.taken (hs : AiRun unicode db s) (h : Takes s i tenantId principal conversationId s') :
    ∃ c, s.db.findConversation tenantId conversationId = some c ∧ c.assignedUserId = none ∧
      s'.db.findConversation tenantId conversationId = some (c.take principal.userId) := by
  obtain ⟨tag, rest, _, _, hdoes⟩ := h.1.does hs
  exact (hdoes.taken h.2).2

theorem Takes.held (hs : AiRun unicode db s) (h : Takes s i tenantId principal conversationId s') :
    ¬ Held s.db tenantId conversationId ∧ Held s'.db tenantId conversationId := by
  obtain ⟨c, hfound, hfree, hfound'⟩ := h.taken hs
  constructor
  · rintro ⟨record, hrecord, hheld⟩
    rw [AiDb.owner, hfound] at hrecord
    cases hrecord
    exact hheld hfree
  · exact ⟨(c.take principal.userId).assignable, by rw [AiDb.owner, hfound', Option.map_some], by
      simp [BotConversation.assignable, BotConversation.take]⟩

def Releases (s : AiSys) (tenantId conversationId : Uuid) (s' : AiSys) : Prop :=
  ∃ (i : Nat) (call : AiCall) (userId teamId : Option (Option Uuid)) (β : Type) (act : AiDb → β × AiDb)
      (next : β → AiProg AiReply),
    s.calls[i]? = some (call, .atomic (.assign tenantId conversationId userId teamId) act next) ∧
      s' = s.exec i call act next ∧ Held s.db tenantId conversationId ∧ ¬ Held s'.db tenantId conversationId

theorem released_between {cond : AiSys → AiCall → AiStmt → Prop} (hs : AiRun unicode db s) (hr : Reachable (aiProgram unicode) cond s s') (h : Held s.db tenantId conversationId)
    (h' : ¬ Held s'.db tenantId conversationId) :
    ∃ u u' call userId teamId, Reachable (aiProgram unicode) cond s u ∧ Reachable (aiProgram unicode) cond u' s' ∧
      Step (aiProgram unicode) cond u u' ∧ Releases u tenantId conversationId u' ∧
      cond u call (.assign tenantId conversationId userId teamId) ∧
      u'.db.owner tenantId conversationId = (u.db.owner tenantId conversationId).map (assignedTo userId teamId) := by
  obtain ⟨u, u', hbefore, hstep, hafter, hheld, hfree⟩ := hr.exists_step (P := fun u => Held u.db tenantId conversationId) h h'
  have hu : AiRun unicode db u := hs.trans (hbefore.mono fun _ _ _ _ => trivial)
  cases hstep with
  | spawn => exact absurd hheld hfree
  | exec _ i call tag act next hcall hcond =>
    have hmove := (hu.does.exec_spec trivial hcall).1.effect.owner tenantId conversationId
    have hexec : Step (aiProgram unicode) cond u (u.exec i call act next) := .exec u i call tag act next hcall hcond
    obtain ⟨record, hrecord, hperson⟩ := id hheld
    change OwnerMove tag tenantId conversationId _ ((u.exec i call act next).db.owner tenantId conversationId) at hmove
    generalize hnow : (u.exec i call act next).db.owner tenantId conversationId = now at hmove
    rw [hrecord] at hmove
    cases hmove with
    | same => exact absurd ⟨record, hnow, hperson⟩ hfree
    | claimed principal _ _ hnobody => exact absurd hnobody hperson
    | assigned userId teamId htag =>
      subst htag
      refine ⟨u, _, call, userId, teamId, hbefore, hafter, hexec, ?_, hcond, ?_⟩
      · exact ⟨i, call, userId, teamId, _, act, next, hcall, rfl, hheld, hfree⟩
      · rw [hnow, hrecord, Option.map_some]

def InSight (s : AiSys) : Prop :=
  ∀ tenantId conversationId, ∀ claim ∈ claimsOf s tenantId conversationId, AboutToTake tenantId conversationId claim →
    ∀ record ∈ s.db.owner tenantId conversationId, record.assignedUserId = none →
      isVisibleOrUnclaimed record claim.1 .conversationReadAll = true

theorem Step.inSight (hs : AiRun unicode db s) (h : InSight s)
    (hstep : Step (aiProgram unicode) claimsUndisturbed s s') : InSight s' := by
  rintro tenantId conversationId ⟨principal, rest⟩ hclaim habout record hrecord hfree
  rw [mem_claimsOf] at hclaim
  cases hstep with
  | spawn _ =>
    rcases List.mem_append.mp hclaim with hclaim | hclaim
    · exact h tenantId conversationId _ (mem_claimsOf.mpr hclaim) habout record hrecord hfree
    · -- a claim that has only begun is about to read
      obtain ⟨rfl, rfl⟩ := Prod.mk.inj (List.mem_singleton.mp hclaim)
      cases habout
  | exec _ i call tag act next hcall hcond =>
    have hdoes := (hs.does.exec_spec trivial hcall).1
    rcases List.mem_or_eq_of_mem_set hclaim with hclaim | hclaim
    · have hmember := mem_claimsOf.mpr hclaim
      have hmove := hdoes.effect.owner tenantId conversationId
      change record ∈ (act s.db).2.owner tenantId conversationId at hrecord
      rw [Option.mem_def] at hrecord
      rw [hrecord] at hmove
      generalize hthen : s.db.owner tenantId conversationId = before at hmove
      cases hmove with
      | same => exact h tenantId conversationId _ hmember habout record hthen hfree
      | opened => simp [isVisibleOrUnclaimed, isUnclaimed]
      | claimed => cases hfree
      | assigned userId teamId htag record =>
        subst htag
        exact hcond.1 record hthen hfree _ hmember habout
    · obtain ⟨rfl, rfl⟩ := Prod.mk.inj hclaim
      have hclaims := hdoes.2
      change record ∈ (act s.db).2.owner tenantId conversationId at hrecord
      change (next (act s.db).1).next? = _ at habout
      generalize (act s.db).2 = after, next (act s.db).1 = rest at hclaims hrecord habout
      cases hclaims with
      | read hnext =>
        obtain ⟨record', hrecord', hvisible⟩ := hnext habout
        rw [Option.mem_def, hrecord'] at hrecord
        cases hrecord
        exact hvisible
      | take hnext =>
        rw [hnext] at habout
        cases habout

theorem Reachable.inSight (hs : Reachable (aiProgram unicode) claimsUndisturbed (.idle db) s) : InSight s := by
  induction hs with
  | refl =>
    intro _ _ claim hclaim
    simp [claimsOf, Sys.idle] at hclaim
  | tail hs hstep ih => exact Step.inSight (Reachable.mono (fun _ _ _ _ => trivial) hs) ih hstep

theorem Takes.visible (hs : Reachable (aiProgram unicode) claimsUndisturbed (.idle db) s)
    (h : Takes s i tenantId principal conversationId s') : ∀ record ∈ s.db.owner tenantId conversationId,
      isVisibleOrUnclaimed record principal .conversationReadAll = true := by
  have hrun : AiRun unicode db s := Reachable.mono (fun _ _ _ _ => trivial) hs
  obtain ⟨tag, rest, _, ⟨β, act, next, hcall⟩, hdoes⟩ := h.1.does hrun
  obtain ⟨htag, c, hfound, hfree, _⟩ := hdoes.taken h.2
  subst htag
  intro record hrecord
  have hmember := mem_claimsOf.mpr (List.mem_of_getElem? hcall)
  have hsight := Reachable.inSight hs tenantId conversationId _ hmember rfl record hrecord
  rw [AiDb.owner, hfound] at hrecord
  cases hrecord
  exact hsight hfree

theorem takes_in_turn (hs : Reachable (aiProgram unicode) claimsUndisturbed (.idle db) s₁)
    (h₁ : Takes s₁ i tenantId first conversationId s₁') (hr : Reachable (aiProgram unicode) claimsUndisturbed s₁' s₂)
    (h₂ : Takes s₂ j tenantId second conversationId s₂') :
    ∃ u, Reachable (aiProgram unicode) claimsUndisturbed s₁' u ∧
      Reachable (aiProgram unicode) claimsUndisturbed u s₂ ∧
      (∃ e, u.calls[i]? = some e ∧ e.2.result?.isSome = true) ∧ u.calls.length ≤ j := by
  have hrun₁ : AiRun unicode db s₁ := Reachable.mono (fun _ _ _ _ => trivial) hs
  obtain ⟨tag, rest, hcall₁', ⟨β, act, next, hcall₁⟩, _⟩ := h₁.1.does hrun₁
  have hrun₁' : AiRun unicode db s₁' := by
    obtain ⟨_, _, _, _, hcall, rfl⟩ := h₁.1
    exact hrun₁.tail (.exec _ _ _ _ _ _ hcall trivial)
  have hrun₂ : AiRun unicode db s₂ := hrun₁'.trans (Reachable.mono (fun _ _ _ _ => trivial) hr)
  obtain ⟨u, u', call, userId, teamId, hbefore, hafter, hstep, hreleases, hcond, howner⟩ :=
    released_between hrun₁' hr (h₁.held hrun₁).2 (h₂.held hrun₂).1
  obtain ⟨_, _, _, _, _, _, _, _, _, ⟨record, hrecord, hperson⟩, hfree⟩ := hreleases
  have hpeace : ∀ claim ∈ claimsOf u tenantId conversationId, claim.2.result?.isSome = true := by
    apply hcond.2 record hrecord hperson
    by_contra hstill
    exact hfree ⟨_, by rw [howner, hrecord, Option.map_some], hstill⟩
  refine ⟨u, hbefore, .head hstep hafter, ?_, ?_⟩
  · obtain ⟨rest', hcall, _⟩ := Reachable.call hbefore hcall₁'
    exact ⟨_, hcall, hpeace _ (mem_claimsOf.mpr (List.mem_of_getElem? hcall))⟩
  · by_contra hbegun
    obtain ⟨e, he⟩ : ∃ e, u.calls[j]? = some e := ⟨_, List.getElem?_eq_getElem (by omega)⟩
    obtain ⟨k, q⟩ := e
    obtain ⟨q', hq', hsame⟩ := Reachable.call (Relation.ReflTransGen.head hstep hafter) he
    obtain ⟨_, _, _, _, hcall₂, _⟩ := h₂.1
    rw [hq'] at hcall₂
    obtain ⟨rfl, rfl⟩ := Prod.mk.inj (Option.some.inj hcall₂)
    have hfinished := hpeace _ (mem_claimsOf.mpr (List.mem_of_getElem? he))
    rw [← hsame hfinished] at hfinished
    cases hfinished

/-- In every run a claim that changes the row takes it from nobody, and one whose caller holds it is never refused; in
    the runs whose assignments meet their condition it takes only what its caller may. -/
theorem claim_is_exclusive_and_in_sight (unicode : Unicode) (db : AiDb) :
    (∀ s, AiRun unicode db s → ∀ i tenantId principal conversationId s',
      (Takes s i tenantId principal conversationId s' →
        ∃ c, s.db.findConversation tenantId conversationId = some c ∧ c.assignedUserId = none ∧
          s'.db.findConversation tenantId conversationId = some (c.take principal.userId)) ∧
      (ClaimStep s i tenantId principal conversationId s' →
        (∀ c, s'.calls[i]? = some (.claim tenantId principal conversationId, .pure (.conversation (.ok c))) →
          s.db.findConversation tenantId conversationId = some c) ∧
        ∀ e, s'.calls[i]? = some (.claim tenantId principal conversationId, .pure (.conversation (.error e))) →
          ∀ c, s.db.findConversation tenantId conversationId = some c → c.assignedUserId ≠ some principal.userId)) ∧
    (∀ s₁ s₁' s₂ s₂', AiRun unicode db s₁ → ∀ i j tenantId conversationId first second,
      Takes s₁ i tenantId first conversationId s₁' → Reachable (aiProgram unicode) anyStep s₁' s₂ →
      Takes s₂ j tenantId second conversationId s₂' →
        ∃ u u', Reachable (aiProgram unicode) anyStep s₁' u ∧ Releases u tenantId conversationId u' ∧
          Reachable (aiProgram unicode) anyStep u' s₂) ∧
    (∀ s, Reachable (aiProgram unicode) claimsUndisturbed (.idle db) s → ∀ i tenantId principal conversationId s',
      Takes s i tenantId principal conversationId s' → ∀ record ∈ s.db.owner tenantId conversationId,
        isVisibleOrUnclaimed record principal .conversationReadAll = true) ∧
    (∀ s₁ s₁' s₂ s₂', Reachable (aiProgram unicode) claimsUndisturbed (.idle db) s₁ →
      ∀ i j tenantId conversationId first second, Takes s₁ i tenantId first conversationId s₁' →
      Reachable (aiProgram unicode) claimsUndisturbed s₁' s₂ → Takes s₂ j tenantId second conversationId s₂' →
        ∃ u, Reachable (aiProgram unicode) claimsUndisturbed s₁' u ∧
          Reachable (aiProgram unicode) claimsUndisturbed u s₂ ∧
          (∃ e, u.calls[i]? = some e ∧ e.2.result?.isSome = true) ∧ u.calls.length ≤ j) := by
  refine ⟨fun s hs i tenantId principal conversationId s' => ⟨fun h => h.taken hs, fun h => ?_⟩, ?_, ?_, ?_⟩
  · obtain ⟨tag, rest, hcall, _, hdoes⟩ := h.does hs
    constructor
    · intro c hanswer
      rw [hcall] at hanswer
      obtain ⟨_, rfl⟩ := Prod.mk.inj (Option.some.inj hanswer)
      exact hdoes.answered
    · intro e hanswer
      rw [hcall] at hanswer
      obtain ⟨_, rfl⟩ := Prod.mk.inj (Option.some.inj hanswer)
      exact hdoes.answered
  · intro s₁ s₁' s₂ s₂' hs i j tenantId conversationId first second h₁ hr h₂
    have hrun₁' : AiRun unicode db s₁' := by
      obtain ⟨_, _, _, _, hcall, rfl⟩ := h₁.1
      exact hs.tail (.exec _ _ _ _ _ _ hcall trivial)
    obtain ⟨u, u', _, _, _, hbefore, hafter, _, hreleases, _⟩ :=
      released_between hrun₁' hr (h₁.held hs).2 (h₂.held (hrun₁'.trans hr)).1
    exact ⟨u, u', hbefore, hreleases, hafter⟩
  · exact fun s hs i tenantId principal conversationId s' h => h.visible hs
  · exact fun s₁ s₁' s₂ s₂' hs i j tenantId conversationId first second h₁ hr h₂ => takes_in_turn hs h₁ hr h₂

end Runs

def pooledConversation : AiDb :=
  { conversations := [{ id := 7, tenantId := 1, contactId := 3 }], teams := [(1, 9)] }

def agentOf (teamIds : List Uuid) : SessionPrincipal := { userId := 4, permissions := [], teamIds }

def supervisor : SessionPrincipal := { userId := 5, permissions := [.conversationReadAll], teamIds := [] }

def routedMeanwhile (agent : SessionPrincipal) : List (Move AiCall) :=
  [.spawn (.claim 1 agent 7), .step 0, .spawn (.assign 1 supervisor 7 none (some (some 9))), .step 1, .step 1, .step 1]

def agentClaims (agent : SessionPrincipal) (s : AiSys) : Bool :=
  s.calls[0]?.any fun e =>
    match e.1 with
    | .claim tenantId principal conversationId => tenantId = 1 ∧ principal = agent ∧ conversationId = 7
    | _ => false

theorem claimStep_of_play (hagent : agentClaims agent s = true)
    (hplay : play (aiProgram asciiOnly) (fun _ _ _ => true) s (.step 0) = some s') : ClaimStep s 0 1 agent 7 s' := by
  obtain ⟨call, tag, β, act, next, hcall, rfl⟩ := play_exec hplay
  rw [agentClaims, hcall, Option.any_some] at hagent
  dsimp only at hagent
  split at hagent
  · obtain ⟨rfl, rfl, rfl⟩ := of_decide_eq_true hagent
    exact ⟨tag, β, act, next, hcall, rfl⟩
  · cases hagent

/-- The conversation is routed to the agent's own team, and the claim takes it. -/
theorem claim_is_exclusive_and_in_sight_ownTeam :
    ∃ s s', Reachable (aiProgram asciiOnly) claimsUndisturbed (.idle pooledConversation) s ∧
      Takes s 0 1 (agentOf [9]) 7 s' ∧ s.db.owner 1 7 = some ⟨none, some 9⟩ ∧
      ∀ record ∈ s.db.owner 1 7, isVisibleOrUnclaimed record (agentOf [9]) .conversationReadAll = true := by
  have hrun : ((run (aiProgram asciiOnly) (fun s call tag => decide (claimsUndisturbed s call tag))
      (routedMeanwhile (agentOf [9])) (.idle pooledConversation)).bind fun s =>
        (play (aiProgram asciiOnly) (fun _ _ _ => true) s (.step 0)).map fun s' =>
          (agentClaims (agentOf [9]) s && decide (s'.db.findConversation 1 7 ≠ s.db.findConversation 1 7),
            s.db.owner 1 7)) = some (true, some ⟨none, some 9⟩) := by
    decide +kernel
  obtain ⟨s, hs, hrest⟩ := Option.bind_eq_some_iff.mp hrun
  obtain ⟨s', hplay, hend⟩ := Option.map_eq_some_iff.mp hrest
  simp only [Prod.mk.injEq, Bool.and_eq_true, decide_eq_true_eq] at hend
  obtain ⟨⟨hagent, hchanged⟩, howner⟩ := hend
  have hreach : Reachable (aiProgram asciiOnly) claimsUndisturbed (.idle pooledConversation) s :=
    (reachable_of_run hs).mono fun _ _ _ h => of_decide_eq_true h
  have htakes : Takes s 0 1 (agentOf [9]) 7 s' := ⟨claimStep_of_play hagent hplay, hchanged⟩
  have hsight := (claim_is_exclusive_and_in_sight asciiOnly pooledConversation).2.2.1
  exact ⟨s, s', hreach, htakes, howner, hsight s hreach 0 1 (agentOf [9]) 7 s' htakes⟩

/-- The route commits between the claim's check and its update: the agent holds a conversation of a team they are not
    in. -/
theorem claim_takes_unseen_conversation :
    ¬ ∀ (unicode : Unicode) (db : AiDb) (s : AiSys), AiRun unicode db s → ∀ i tenantId principal conversationId s',
      Takes s i tenantId principal conversationId s' → ∀ record ∈ s.db.owner tenantId conversationId,
        isVisibleOrUnclaimed record principal .conversationReadAll = true := by
  intro hclaim
  have hrun : ((run (aiProgram asciiOnly) (fun _ _ _ => true) (routedMeanwhile (agentOf [])) (.idle pooledConversation)).bind fun s =>
      (play (aiProgram asciiOnly) (fun _ _ _ => true) s (.step 0)).map fun s' =>
        (agentClaims (agentOf []) s && decide (s'.db.findConversation 1 7 ≠ s.db.findConversation 1 7), s.db.owner 1 7)) =
      some (true, some ⟨none, some 9⟩) := by
    decide +kernel
  obtain ⟨s, hs, hrest⟩ := Option.bind_eq_some_iff.mp hrun
  obtain ⟨s', hplay, hend⟩ := Option.map_eq_some_iff.mp hrest
  simp only [Prod.mk.injEq, Bool.and_eq_true, decide_eq_true_eq] at hend
  obtain ⟨⟨hagent, hchanged⟩, howner⟩ := hend
  have hstep := claimStep_of_play hagent hplay
  have hvisible := hclaim asciiOnly pooledConversation s (reachable_of_run_any hs) 0 1 (agentOf []) 7 s'
    ⟨hstep, hchanged⟩ _ howner
  exact absurd hvisible (by decide)

end WhatsappCrm.Ai
