/-
Purpose: How an invitation ends.
-/
import WhatsappCrm.Identity.Effects

namespace WhatsappCrm

open Interleaving Table

namespace InviteEvent

def inviteId : InviteEvent → Uuid
  | .issued inviteId _ => inviteId
  | .redeemed inviteId _ => inviteId

def note (e : InviteEvent) (last : Uuid → Option String) : Uuid → Option String :=
  match e with
  | .issued inviteId tokenHash => fun id => if id = inviteId then some tokenHash else last id
  | .redeemed _ _ => last

def redeemed? : InviteEvent → Option Uuid
  | .issued _ _ => none
  | .redeemed inviteId _ => some inviteId

end InviteEvent

def lastIssued (events : List InviteEvent) : Uuid → Option String :=
  events.foldl (fun last e => e.note last) fun _ => none

def redemptions (events : List InviteEvent) : List Uuid := events.filterMap InviteEvent.redeemed?

def LatestTokens (events : List InviteEvent) : Prop :=
  ∀ before inviteId tokenHash after, events = before ++ .redeemed inviteId tokenHash :: after →
    lastIssued before inviteId = some tokenHash

theorem lastIssued_append (events events' : List InviteEvent) :
    lastIssued (events ++ events') = events'.foldl (fun last e => e.note last) (lastIssued events) :=
  List.foldl_append

theorem redemptions_append (events events' : List InviteEvent) :
    redemptions (events ++ events') = redemptions events ++ redemptions events' :=
  List.filterMap_append

theorem lastIssued_issue (events : List InviteEvent) (rows : List Invite) (tokenHash : String) (id : Uuid) :
    lastIssued (events ++ rows.map fun i => .issued i.id tokenHash) id =
      if id ∈ rows.map (·.id) then some tokenHash else lastIssued events id := by
  rw [lastIssued_append]
  generalize lastIssued events = last
  induction rows generalizing last with
  | nil => simp
  | cons i rows ih =>
    simp only [List.map_cons, List.foldl_cons, ih, List.mem_cons]
    by_cases hrows : id ∈ rows.map (·.id)
    · simp [hrows]
    · simp [hrows, InviteEvent.note]

theorem lastIssued_redeem (events : List InviteEvent) (rows : List Invite) (tokenHash : String) :
    lastIssued (events ++ rows.map fun i => .redeemed i.id tokenHash) = lastIssued events := by
  rw [lastIssued_append]
  generalize lastIssued events = last
  induction rows generalizing last with
  | nil => rfl
  | cons i rows ih => exact ih last

theorem redemptions_issue (rows : List Invite) (tokenHash : String) :
    redemptions (rows.map fun i => .issued i.id tokenHash) = [] := by
  simp [redemptions, List.filterMap_map, Function.comp_def, InviteEvent.redeemed?]

theorem redemptions_redeem (rows : List Invite) (tokenHash : String) :
    redemptions (rows.map fun i => .redeemed i.id tokenHash) = rows.map (·.id) := by
  simp [redemptions, List.filterMap_map, Function.comp_def, InviteEvent.redeemed?]

theorem latestTokens_concat (h : LatestTokens events)
    (he : ∀ inviteId tokenHash, e = .redeemed inviteId tokenHash → lastIssued events inviteId = some tokenHash) :
    LatestTokens (events ++ [e]) := by
  have hall := forall_before_concat (P := fun before a => ∀ inviteId tokenHash, a = InviteEvent.redeemed inviteId tokenHash →
    lastIssued before inviteId = some tokenHash) (fun before a after heq inviteId tokenHash ha =>
      h before inviteId tokenHash after (ha ▸ heq)) he
  exact fun before inviteId tokenHash after heq => hall before _ after heq inviteId tokenHash rfl

theorem latestTokens_issue (h : LatestTokens events) (rows : List Invite)
    (tokenHash : String) : LatestTokens (events ++ rows.map fun i => .issued i.id tokenHash) := by
  induction rows generalizing events with
  | nil => simpa using h
  | cons i rows ih =>
    have hfirst : LatestTokens (events ++ [.issued i.id tokenHash]) :=
      latestTokens_concat h fun _ _ he => by cases he
    simpa using ih hfirst

variable {tokenHash : String} {rows : List IdentityRow} {found : Invite → Bool} {write : Invite → Invite}
  {tenantId : Uuid} {w : IdentityWrite} {s : IdentitySys}

theorem latestTokens_redeem (h : LatestTokens events) {rows : List Invite}
    (hrows : ∀ i ∈ rows, lastIssued events i.id = some tokenHash) :
    LatestTokens (events ++ rows.map fun i => .redeemed i.id tokenHash) := by
  induction rows generalizing events with
  | nil => simpa using h
  | cons i rows ih =>
    have hfirst : LatestTokens (events ++ [.redeemed i.id tokenHash]) := by
      apply latestTokens_concat h
      intro inviteId hash he
      cases he
      exact hrows i List.mem_cons_self
    have hissued : lastIssued (events ++ [.redeemed i.id tokenHash]) = lastIssued events :=
      lastIssued_redeem events [i] tokenHash
    have hrest := ih hfirst fun j hj => by
      rw [hissued]
      exact hrows j (List.mem_cons_of_mem _ hj)
    simpa using hrest

/-- The rows of `invites` and the history of their tokens agree. -/
structure IdentityDb.Orderly (db : IdentityDb) : Prop where
  indexed : db.people.base.Indexed
  id : UniqueBy (fun i : Invite => some i.id) db.invites
  token : ∀ i ∈ db.invites, lastIssued db.inviteEvents i.id = some i.tokenHash
  accepted : ∀ i ∈ db.invites, i.acceptedAt ≠ none ↔ i.id ∈ redemptions db.inviteEvents
  known : ∀ e ∈ db.inviteEvents, ∃ i ∈ db.invites, i.id = e.inviteId
  once : (redemptions db.inviteEvents).Nodup
  latest : LatestTokens db.inviteEvents

namespace IdentityDb.Orderly

variable {db db' : IdentityDb}

theorem of_rows (h : db.Orderly) (hindexed : db'.people.base.Indexed)
    (hids : db'.invites.map (fun i => some i.id) = db.invites.map fun i => some i.id)
    (hrow : ∀ i' ∈ db'.invites, ∃ i ∈ db.invites, i'.id = i.id ∧ i'.tokenHash = i.tokenHash ∧
      i'.acceptedAt = i.acceptedAt) (hevents : db'.inviteEvents = db.inviteEvents) : db'.Orderly := by
  refine ⟨hindexed, h.id.congr hids, ?_, ?_, ?_, hevents ▸ h.once, hevents ▸ h.latest⟩
  · intro i' hi'
    obtain ⟨i, hi, hid, htoken, _⟩ := hrow i' hi'
    rw [hevents, hid, htoken]
    exact h.token i hi
  · intro i' hi'
    obtain ⟨i, hi, hid, _, haccepted⟩ := hrow i' hi'
    rw [hevents, hid, haccepted]
    exact h.accepted i hi
  · intro e he
    obtain ⟨i, hi, hid⟩ := h.known e (hevents ▸ he)
    have hmem : some i.id ∈ db'.invites.map fun i => some i.id := by
      rw [hids]
      exact List.mem_map.mpr ⟨i, hi, rfl⟩
    obtain ⟨i', hi', heq⟩ := List.mem_map.mp hmem
    exact ⟨i', hi', (Option.some.inj heq).trans hid⟩

theorem of_same (h : db.Orderly) (hindexed : db'.people.base.Indexed) (hinvites : db'.invites = db.invites)
    (hevents : db'.inviteEvents = db.inviteEvents) : db'.Orderly :=
  h.of_rows hindexed (by rw [hinvites]) (fun i hi => ⟨i, hinvites ▸ hi, rfl, rfl, rfl⟩) hevents

theorem withdraw (h : db.Orderly) {people : PeopleDb} (hmove : PeopleMove db.people people) :
    (db.withPeople people).Orderly := by
  refine h.of_rows hmove.indexed (hmove.invites.map_eq fun _ _ => rfl) ?_ rfl
  intro i' hi'
  obtain ⟨i, hi, rfl | ⟨_, now, rfl⟩⟩ := hmove.invites.row_before hi'
  · exact ⟨i', hi, rfl, rfl, rfl⟩
  · exact ⟨i, hi, rfl, rfl, rfl⟩

theorem issue (h : db.Orderly) (hid : ∀ i, (write i).id = i.id) (htoken : ∀ i, (write i).tokenHash = tokenHash)
    (haccepted : ∀ i, (write i).acceptedAt = i.acceptedAt)
    (happly : db.issue found tokenHash write = .ok (rows, db')) : db'.Orderly := by
  cases (ok_of_ite happly).2
  have hredeemed : ∀ l : List Invite, redemptions (db.inviteEvents ++ l.map fun i => .issued i.id tokenHash) =
      redemptions db.inviteEvents := by
    intro l
    rw [redemptions_append, redemptions_issue, List.append_nil]
  refine ⟨h.indexed, h.id.updateWhere fun i _ _ => .inr (by rw [hid]), ?_, ?_, ?_, ?_, latestTokens_issue h.latest _ _⟩
  · intro i' hi'
    obtain ⟨i, hi, hcase⟩ := mem_updateWhere hi'
    change lastIssued (db.inviteEvents ++ _) i'.id = _
    rw [lastIssued_issue]
    rcases hcase with ⟨hfound, rfl⟩ | ⟨hfound, rfl⟩
    · rw [if_pos, htoken]
      exact List.mem_map.mpr ⟨i, List.mem_filter.mpr ⟨hi, hfound⟩, (hid i).symm⟩
    · rw [if_neg]
      · exact h.token i' hi
      · intro hmem
        obtain ⟨j, hj, hids⟩ := List.mem_map.mp hmem
        obtain ⟨hj, hfound'⟩ := List.mem_filter.mp hj
        rw [h.id.eq_of_entry hj hi (by rw [hids]) rfl, hfound] at hfound'
        cases hfound'
  · intro i' hi'
    obtain ⟨i, hi, hcase⟩ := mem_updateWhere hi'
    change i'.acceptedAt ≠ none ↔ i'.id ∈ redemptions (db.inviteEvents ++ _)
    rw [hredeemed]
    rcases hcase with ⟨_, rfl⟩ | ⟨_, rfl⟩
    · rw [haccepted, hid]
      exact h.accepted i hi
    · exact h.accepted i' hi
  · intro e he
    have hknown : ∃ i ∈ db.invites, i.id = e.inviteId := by
      rcases List.mem_append.mp he with he | he
      · exact h.known e he
      · obtain ⟨i, hi, rfl⟩ := List.mem_map.mp he
        exact ⟨i, (List.mem_filter.mp hi).1, rfl⟩
    obtain ⟨i, hi, hids⟩ := hknown
    refine ⟨_, mem_updateWhere_of_mem hi, ?_⟩
    split
    · rw [hid, hids]
    · exact hids
  · change (redemptions (db.inviteEvents ++ _)).Nodup
    rw [hredeemed]
    exact h.once

theorem insert (h : db.Orderly) (happly : db.insertInvite invite = .ok (rows, db')) : db'.Orderly := by
  obtain ⟨hfree, happly⟩ := ok_of_ite happly
  cases happly
  have hfresh : ∀ i ∈ db.invites, i.id ≠ invite.id := by
    intro i hi heq
    exact hfree (List.any_eq_true.mpr ⟨i, hi, by simp [heq]⟩)
  have hissue : ∀ id, lastIssued (db.inviteEvents ++ [.issued invite.id invite.tokenHash]) id =
      if id = invite.id then some invite.tokenHash else lastIssued db.inviteEvents id := by
    intro id
    have hone := lastIssued_issue db.inviteEvents [invite.row] invite.tokenHash id
    simpa [NewInvite.row] using hone
  have hredeemed : redemptions (db.inviteEvents ++ [.issued invite.id invite.tokenHash]) =
      redemptions db.inviteEvents := by
    rw [redemptions_append]
    exact List.append_nil _
  refine ⟨h.indexed, h.id.concat fun i hi hclash => hfresh i hi (Option.some.inj hclash.2), ?_, ?_, ?_, ?_,
    latestTokens_concat h.latest fun _ _ he => by cases he⟩
  · intro i hi
    change lastIssued (db.inviteEvents ++ _) i.id = _
    rw [hissue]
    rcases mem_snoc.mp hi with hi | rfl
    · rw [if_neg (hfresh i hi)]
      exact h.token i hi
    · rw [NewInvite.row, if_pos rfl]
  · intro i hi
    change i.acceptedAt ≠ none ↔ i.id ∈ redemptions (db.inviteEvents ++ _)
    rw [hredeemed]
    rcases mem_snoc.mp hi with hi | rfl
    · exact h.accepted i hi
    · refine ⟨fun hsome => absurd rfl hsome, fun hmem => ?_⟩
      obtain ⟨e, he, hredeemed⟩ := List.mem_filterMap.mp hmem
      obtain ⟨j, hj, hids⟩ := h.known e he
      refine absurd (hids.trans ?_) (hfresh j hj)
      cases e with
      | issued => cases hredeemed
      | redeemed => exact Option.some.inj hredeemed
  · intro e he
    rcases mem_snoc.mp he with he | rfl
    · obtain ⟨i, hi, hids⟩ := h.known e he
      exact ⟨i, List.mem_append_left _ hi, hids⟩
    · exact ⟨invite.row, List.mem_concat_self, rfl⟩
  · change (redemptions (db.inviteEvents ++ _)).Nodup
    rw [hredeemed]
    exact h.once

theorem redeem (h : db.Orderly) {now : Millis} (happly : (IdentityWrite.redeemInvite tenantId tokenHash now).apply db = .ok (rows, db')) : db'.Orderly := by
  cases happly
  have hfound : ∀ i ∈ db.invites.filter (Invite.redeemable tenantId tokenHash now),
      i ∈ db.invites ∧ i.acceptedAt = none ∧ i.tokenHash = tokenHash := by
    intro i hi
    obtain ⟨hi, hmatch⟩ := List.mem_filter.mp hi
    simp only [Invite.redeemable, Invite.live, Invite.outstanding, decide_eq_true_eq] at hmatch
    exact ⟨hi, hmatch.2.2.1.1, hmatch.2.1⟩
  have hredeemed : redemptions (db.inviteEvents ++
      (db.invites.filter (Invite.redeemable tenantId tokenHash now)).map fun i => .redeemed i.id tokenHash) =
        redemptions db.inviteEvents ++ (db.invites.filter (Invite.redeemable tenantId tokenHash now)).map (·.id) := by
    rw [redemptions_append, redemptions_redeem]
  refine ⟨h.indexed, h.id.updateWhere fun _ _ _ => .inr rfl, ?_, ?_, ?_, ?_, ?_⟩
  · intro i' hi'
    obtain ⟨i, hi, hcase⟩ := mem_updateWhere hi'
    change lastIssued (db.inviteEvents ++ _) i'.id = _
    rw [lastIssued_redeem]
    rcases hcase with ⟨_, rfl⟩ | ⟨_, rfl⟩
    · exact h.token i hi
    · exact h.token i' hi
  · intro i' hi'
    obtain ⟨i, hi, hcase⟩ := mem_updateWhere hi'
    change i'.acceptedAt ≠ none ↔ i'.id ∈ redemptions (db.inviteEvents ++ _)
    rw [hredeemed, List.mem_append]
    rcases hcase with ⟨hmatch, rfl⟩ | ⟨hmatch, rfl⟩
    · simp only [ne_eq, reduceCtorEq, not_false_eq_true, true_iff]
      exact .inr (List.mem_map.mpr ⟨i, List.mem_filter.mpr ⟨hi, hmatch⟩, rfl⟩)
    · rw [h.accepted i' hi]
      refine ⟨.inl, fun hor => hor.elim (fun hmem => hmem) fun hmem => ?_⟩
      obtain ⟨j, hj, hids⟩ := List.mem_map.mp hmem
      obtain ⟨hj, hmatch'⟩ := List.mem_filter.mp hj
      rw [h.id.eq_of_entry hj hi (by rw [hids]) rfl, hmatch] at hmatch'
      cases hmatch'
  · intro e he
    have hknown : ∃ i ∈ db.invites, i.id = e.inviteId := by
      rcases List.mem_append.mp he with he | he
      · exact h.known e he
      · obtain ⟨i, hi, rfl⟩ := List.mem_map.mp he
        exact ⟨i, (hfound i hi).1, rfl⟩
    obtain ⟨i, hi, hids⟩ := hknown
    refine ⟨_, mem_updateWhere_of_mem hi, ?_⟩
    split <;> exact hids
  · change (redemptions (db.inviteEvents ++ _)).Nodup
    rw [hredeemed]
    refine List.nodup_append'.mpr ⟨h.once, ?_, ?_⟩
    · apply List.pairwise_map.mpr
      refine List.Pairwise.imp ?_ (List.Pairwise.filter _ h.id)
      exact fun hclash heq => hclash ⟨by simp, congrArg some heq⟩
    · intro id hmem hmem'
      obtain ⟨i, hi, rfl⟩ := List.mem_map.mp hmem'
      obtain ⟨hi, haccepted, _⟩ := hfound i hi
      exact (h.accepted i hi).mpr hmem haccepted
  · apply latestTokens_redeem h.latest
    intro i hi
    obtain ⟨hi, _, htoken⟩ := hfound i hi
    rw [h.token i hi, htoken]

end IdentityDb.Orderly

theorem IdentityWrite.orderly {db db' : IdentityDb} (hdb : db.Orderly)
    (h : w.apply db = .ok (rows, db')) : db'.Orderly := by
  cases w with
  | createUser =>
    cases (ok_of_ite h).2
    exact hdb.of_same hdb.indexed rfl rfl
  | upsertInvite =>
    simp only [IdentityWrite.apply] at h
    split at h
    · apply hdb.issue _ _ _ h
      · exact fun _ => rfl
      · exact fun _ => rfl
      · exact fun _ => rfl
    · exact hdb.insert h
  | rotateToken =>
    apply hdb.issue _ _ _ h
    · exact fun _ => rfl
    · exact fun _ => rfl
    · exact fun _ => rfl
  | revokeInvite =>
    cases h
    refine hdb.of_rows hdb.indexed ?_ ?_ rfl
    · apply map_updateWhere
      exact fun _ => rfl
    intro i' hi'
    obtain ⟨i, hi, ⟨_, rfl⟩ | ⟨_, rfl⟩⟩ := mem_updateWhere hi'
    · exact ⟨i, hi, rfl, rfl, rfl⟩
    · exact ⟨i', hi, rfl, rfl, rfl⟩
  | redeemInvite => exact hdb.redeem h
  | _ =>
    cases h
    exact hdb.of_same hdb.indexed rfl rfl

def IdentityDb.Withdrawn (db : IdentityDb) (tenantId inviteId : Uuid) : Prop :=
  ∃ i ∈ db.invites, i.named tenantId inviteId = true ∧ i.revokedAt ≠ none

structure IdentityDb.Onward (db db' : IdentityDb) : Prop where
  events : ∀ e ∈ db.inviteEvents, e ∈ db'.inviteEvents
  withdrawn : ∀ tenantId inviteId, db.Withdrawn tenantId inviteId → db'.Withdrawn tenantId inviteId

theorem IdentityDb.Onward.refl (db : IdentityDb) : db.Onward db := ⟨fun _ he => he, fun _ _ h => h⟩

theorem IdentityDb.Onward.trans {a : IdentityDb} (h : a.Onward b) (h' : b.Onward c) : a.Onward c :=
  ⟨fun e he => h'.events e (h.events e he), fun t i hi => h'.withdrawn t i (h.withdrawn t i hi)⟩

theorem IdentityDb.Onward.withdraw {db : IdentityDb} {people : PeopleDb} (h : PeopleMove db.people people) :
    db.Onward (db.withPeople people) := by
  refine ⟨fun _ he => he, ?_⟩
  rintro tenantId inviteId ⟨i, hi, hnamed, hrevoked⟩
  obtain ⟨i', hi', rfl | ⟨_, now, rfl⟩⟩ := h.invites.row_after hi
  · exact ⟨i', hi', hnamed, hrevoked⟩
  · exact ⟨_, hi', hnamed, by simp⟩

def IdentityRow.inviteId? : IdentityRow → Option Uuid
  | .inserted i => some i.id
  | .invite i => some i.id
  | _ => none

def IdentityWrite.events (rows : List IdentityRow) : IdentityWrite → List InviteEvent
  | .upsertInvite values => (rows.filterMap IdentityRow.inviteId?).map (.issued · values.tokenHash)
  | .rotateToken _ _ tokenHash _ => (rows.filterMap IdentityRow.inviteId?).map (.issued · tokenHash)
  | .redeemInvite _ tokenHash _ => (rows.filterMap IdentityRow.inviteId?).map (.redeemed · tokenHash)
  | _ => []

theorem inviteIds_rows (invites : List Invite) :
    (invites.map IdentityRow.invite).filterMap IdentityRow.inviteId? = invites.map (·.id) := by
  simp [List.filterMap_map, Function.comp_def, IdentityRow.inviteId?]

theorem withdrawn_updateWhere (hnamed : ∀ i, (write i).named tenantId inviteId = i.named tenantId inviteId)
    (hrevoked : ∀ i, (write i).revokedAt = i.revokedAt) :
    (∃ i ∈ updateWhere found write invites, i.named tenantId inviteId = true ∧ i.revokedAt ≠ none) ↔
      ∃ i ∈ invites, i.named tenantId inviteId = true ∧ i.revokedAt ≠ none := by
  constructor
  · rintro ⟨i', hi', h⟩
    obtain ⟨i, hi, ⟨_, rfl⟩ | ⟨_, rfl⟩⟩ := mem_updateWhere hi'
    · exact ⟨i, hi, hnamed i ▸ h.1, hrevoked i ▸ h.2⟩
    · exact ⟨i', hi, h⟩
  · rintro ⟨i, hi, h⟩
    refine ⟨_, mem_updateWhere_of_mem hi, ?_⟩
    split
    · exact ⟨(hnamed i).trans h.1, fun hnone => h.2 ((hrevoked i).symm.trans hnone)⟩
    · exact h

structure IdentityWrite.Ends (w : IdentityWrite) (rows : List IdentityRow) (db db' : IdentityDb) : Prop where
  events : db'.inviteEvents = db.inviteEvents ++ w.events rows
  withdrawn : ∀ tenantId inviteId, db'.Withdrawn tenantId inviteId ↔
    db.Withdrawn tenantId inviteId ∨ rows ≠ [] ∧ ∃ now, w = .revokeInvite tenantId inviteId now

theorem IdentityDb.issue_ends {db db' : IdentityDb} (hnamed : ∀ i tenantId inviteId, (write i).named tenantId inviteId = i.named tenantId inviteId)
    (hrevoked : ∀ i, (write i).revokedAt = i.revokedAt) (h : db.issue found tokenHash write = .ok (rows, db')) :
    db'.inviteEvents = db.inviteEvents ++ (rows.filterMap IdentityRow.inviteId?).map (.issued · tokenHash) ∧
      ∀ tenantId inviteId, db'.Withdrawn tenantId inviteId ↔ db.Withdrawn tenantId inviteId := by
  cases (ok_of_ite h).2
  refine ⟨?_, fun tenantId inviteId => withdrawn_updateWhere (fun i => hnamed i _ _) hrevoked⟩
  rw [inviteIds_rows, List.map_map]
  rfl

theorem IdentityDb.insert_ends {db db' : IdentityDb} (h : db.insertInvite values = .ok (rows, db')) :
    db'.inviteEvents = db.inviteEvents ++ (rows.filterMap IdentityRow.inviteId?).map (.issued · values.tokenHash) ∧
      ∀ tenantId inviteId, db'.Withdrawn tenantId inviteId ↔ db.Withdrawn tenantId inviteId := by
  cases (ok_of_ite h).2
  refine ⟨rfl, fun tenantId inviteId => ⟨?_, ?_⟩⟩
  · rintro ⟨i, hi, hrow⟩
    rcases mem_snoc.mp hi with hi | rfl
    · exact ⟨i, hi, hrow⟩
    · exact absurd rfl hrow.2
  · rintro ⟨i, hi, hrow⟩
    exact ⟨i, List.mem_append_left _ hi, hrow⟩

theorem IdentityWrite.ends {db db' : IdentityDb} (h : w.apply db = .ok (rows, db')) : w.Ends rows db db' := by
  have hother : (∀ tenantId inviteId now, w ≠ .revokeInvite tenantId inviteId now) →
      (∀ tenantId inviteId, db'.Withdrawn tenantId inviteId ↔ db.Withdrawn tenantId inviteId) →
      ∀ tenantId inviteId, db'.Withdrawn tenantId inviteId ↔
        db.Withdrawn tenantId inviteId ∨ rows ≠ [] ∧ ∃ now, w = .revokeInvite tenantId inviteId now := by
    intro hw hsame tenantId inviteId
    simp [hw, hsame]
  cases w with
  | createUser =>
    cases (ok_of_ite h).2
    exact ⟨(List.append_nil _).symm, hother (by simp) fun _ _ => Iff.rfl⟩
  | upsertInvite =>
    simp only [IdentityWrite.apply] at h
    split at h
    · obtain ⟨hevents, hsame⟩ := IdentityDb.issue_ends (by exact fun _ _ _ => rfl) (by exact fun _ => rfl) h
      exact ⟨hevents, hother (by simp) hsame⟩
    · obtain ⟨hevents, hsame⟩ := IdentityDb.insert_ends h
      exact ⟨hevents, hother (by simp) hsame⟩
  | rotateToken =>
    obtain ⟨hevents, hsame⟩ := IdentityDb.issue_ends (by exact fun _ _ _ => rfl) (by exact fun _ => rfl) h
    exact ⟨hevents, hother (by simp) hsame⟩
  | revokeInvite t id now =>
    cases h
    refine ⟨(List.append_nil _).symm, fun tenantId inviteId => ⟨?_, ?_⟩⟩
    · rintro ⟨i', hi', hnamed, hrevoked⟩
      obtain ⟨i, hi, ⟨hfound, rfl⟩ | ⟨_, rfl⟩⟩ := mem_updateWhere hi'
      · have heq : t = tenantId ∧ id = inviteId := by
          simp only [Invite.named, decide_eq_true_eq] at hfound hnamed
          exact ⟨hfound.1.symm.trans hnamed.1, hfound.2.symm.trans hnamed.2⟩
        obtain ⟨rfl, rfl⟩ := heq
        exact .inr ⟨List.ne_nil_of_mem (List.mem_map_of_mem (List.mem_filter.mpr ⟨hi, hfound⟩)), now, rfl⟩
      · exact .inl ⟨i', hi, hnamed, hrevoked⟩
    · rintro (⟨i, hi, hnamed, hrevoked⟩ | ⟨hrows, _, heq⟩)
      · refine ⟨_, mem_updateWhere_of_mem hi, ?_⟩
        split
        · exact ⟨hnamed, by simp⟩
        · exact ⟨hnamed, hrevoked⟩
      · cases heq
        obtain ⟨row, hrow⟩ := List.exists_mem_of_ne_nil _ hrows
        obtain ⟨i, hi, _⟩ := List.mem_map.mp hrow
        obtain ⟨hi, hfound⟩ := List.mem_filter.mp hi
        refine ⟨{ i with revokedAt := some now }, ?_, hfound, by simp⟩
        have hwritten := mem_updateWhere_of_mem (p := Invite.named t id)
          (f := fun i => { i with revokedAt := some now }) hi
        simp only [hfound, if_true] at hwritten
        exact hwritten
  | redeemInvite =>
    cases h
    refine ⟨?_, hother (by simp) fun t i => ?_⟩
    case refine_2 =>
      apply withdrawn_updateWhere
      · exact fun _ => rfl
      · exact fun _ => rfl
    simp only [IdentityWrite.events]
    rw [inviteIds_rows, List.map_map]
    rfl
  | _ =>
    cases h
    exact ⟨(List.append_nil _).symm, hother (by simp) fun _ _ => Iff.rfl⟩

def ending : Rely IdentityStmt IdentityDb where
  inv := IdentityDb.Orderly
  later := IdentityDb.Onward
  cond _ _ := True
  effect _ db db' := db'.Orderly ∧ db.Onward db'

theorem ending_sound : ending.Sound where
  refl := .refl
  trans := .trans
  keeps _ _ h := h

theorem IdentityWrite.Ends.onward {db db' : IdentityDb} (h : w.Ends rows db db') : db.Onward db' := by
  refine ⟨fun e he => ?_, fun tenantId inviteId hwithdrawn => (h.withdrawn tenantId inviteId).mpr (.inl hwithdrawn)⟩
  rw [h.events]
  exact List.mem_append_left _ he

theorem endingWrites_sound : identityWrites.Sound ending where
  nothing := IdentityWrite.nothing
  keeps hdb h := ⟨IdentityWrite.orderly hdb h, (IdentityWrite.ends h).onward⟩
  mono _ _ hlater _ h₁ h₂ := by
    have hends₁ := IdentityWrite.ends h₁
    have hends₂ := IdentityWrite.ends h₂
    refine ⟨fun e he => ?_, fun tenantId inviteId hwithdrawn => ?_⟩
    · rw [hends₁.events] at he
      rw [hends₂.events]
      rcases List.mem_append.mp he with he | he
      · exact List.mem_append_left _ (hlater.events e he)
      · exact List.mem_append_right _ he
    · rcases (hends₁.withdrawn tenantId inviteId).mp hwithdrawn with hbefore | hnow
      · exact (hends₂.withdrawn tenantId inviteId).mpr (.inl (hlater.withdrawn tenantId inviteId hbefore))
      · exact (hends₂.withdrawn tenantId inviteId).mpr (.inr hnow)

section Answers

open Identity

variable {α : Type}

/-- What a transaction knows when it answers still holds when it has committed. -/
theorem transaction_ensures {p : IdentityTx α} {P : α → IdentityDb → Prop}
    (hP : ∀ a v v', P a v → v.Onward v' → P a v')
    (hp : ∀ v, p.Tracks identityWrites ending (fun a _ v' => P a v') [] v) (db : IdentityDb) :
    Prog.Ensures ending (fun r s => ∀ a, r = .ok a → P a s) db (transaction p) := by
  have hbody : Prog.Ensures ending (fun r s => ∀ a, r = .ok a → P a s) db
      ((p.retag id).runAs identityWrites .commit []) := by
    refine Tx.Tracks.ensures ending_sound endingWrites_sound.steady (fun _ s hs => ⟨hs, .refl s⟩)
      (fun _ s hs => ⟨hs, .refl s⟩) (fun _ _ _ h => by cases h) ?_ (hp db) (Tx.Holds.nil db)
    intro a ws v s s' hPv _ hs _ happly hlater
    refine ⟨Tx.applyAll_later ending_sound endingWrites_sound hs happly, ?_⟩
    rintro _ ⟨⟩
    exact hP a v s' hPv hlater
  rw [Tx.retag_id] at hbody
  exact hbody

theorem tracks_event (p : IdentityTx α) (ws : List (IdentityWrite × List IdentityRow))
    {v : IdentityDb} (he : e ∈ v.inviteEvents) :
    p.Tracks identityWrites ending (fun _ _ v' => e ∈ v'.inviteEvents) ws v := by
  induction p generalizing ws v with
  | pure => exact he
  | abort => trivial
  | read tag f next ih => exact fun v' hv _ => ih _ _ (hv.events _ he)
  | write tag w next ih =>
    intro v' rows v'' hv _ happly
    have hends : IdentityWrite.Ends w rows v' v'' := IdentityWrite.ends happly
    exact ih _ _ (hends.onward.events _ (hv.events _ he))

theorem acceptTransaction_redeems (tenantId : Uuid) (tokenHash displayName : String) (userId : Uuid) (v : IdentityDb) :
    (acceptTransaction tenantId tokenHash displayName userId).Tracks identityWrites ending
      (fun a _ v' => .redeemed a.inviteId tokenHash ∈ v'.inviteEvents) [] v := by
  simp only [acceptTransaction, Tx.bind_def, Tx.bind_query, Tx.bind_execute]
  intro v₁ _ _ v₂ rows v₃ _ _ happly
  generalize (if rows = [] then _ else _) = ws
  dsimp only
  split
  · rename_i redeemed rest
    have hends : IdentityWrite.Ends (.redeemInvite tenantId tokenHash v₁.now) _ v₂ v₃ := IdentityWrite.ends happly
    have hredeemed : InviteEvent.redeemed redeemed.id tokenHash ∈ v₃.inviteEvents := by
      rw [hends.events]
      exact List.mem_append_right _ List.mem_cons_self
    refine (tracks_event _ _ hredeemed).bind fun _ _ _ h => ?_
    refine (tracks_event _ _ h).bind fun _ _ _ h => ?_
    exact (tracks_event _ _ h).bind fun _ _ _ h => h
  · intro _ _ _
    trivial

theorem findInvite_some {db : IdentityDb} (h : db.findInvite tenantId inviteId = some invite) :
    invite ∈ db.invites ∧ invite.tenantId = tenantId ∧ invite.id = inviteId :=
  ⟨List.mem_of_find?_eq_some h, by simpa using List.find?_some h⟩

theorem revokeTransaction_withdraws (tenantId inviteId : Uuid) (v : IdentityDb) :
    (revokeTransaction tenantId inviteId).Tracks identityWrites ending
      (fun _ _ v' => v'.Withdrawn tenantId inviteId) [] v := by
  simp only [revokeTransaction, Tx.bind_def, Tx.bind_query, Tx.pure_def]
  intro v₁ _ _
  dsimp only
  cases hfound : v₁.findInvite tenantId inviteId with
  | none => trivial
  | some invite =>
    obtain ⟨hmem, hnamed⟩ := findInvite_some hfound
    dsimp only
    split
    · rename_i hrevoked
      exact ⟨invite, hmem, decide_eq_true hnamed, hrevoked⟩
    · split
      · trivial
      · simp only [writeRevocation, Tx.bind_def, Tx.bind_query, Tx.bind_execute, Tx.pure_def, hnamed.2]
        intro v₂ _ _ v₃ rows v₄ _ _ happly
        have hends : IdentityWrite.Ends (.revokeInvite tenantId inviteId v₂.now) rows v₃ v₄ := IdentityWrite.ends happly
        cases rows with
        | nil => trivial
        | cons => exact (hends.withdrawn tenantId inviteId).mpr (.inr ⟨by simp, _, rfl⟩)

end Answers

section Runs

def Answered (hashAuthToken : String → String) (c : IdentityCall) (reply : IdentityReply) (db : IdentityDb) : Prop :=
  match c, reply with
  | .accept _ input _, .accepted (.ok accepted) =>
    .redeemed accepted.inviteId (hashAuthToken input.token) ∈ db.inviteEvents
  | .revoke tenantId inviteId, .revoked (.ok _) => db.Withdrawn tenantId inviteId
  | _, _ => True

theorem Answered.later {db db' : IdentityDb} (hlater : db.Onward db')
    (h : Answered hashAuthToken c reply db) : Answered hashAuthToken c reply db' := by
  unfold Answered at h ⊢
  split
  · exact hlater.events _ h
  · exact hlater.withdrawn _ _ h
  · trivial

theorem people_guards_ending (call : PeopleCall) (db : IdentityDb) :
    Prog.Guards ending db ((peopleProgram call).zoom IdentityDb.people IdentityDb.withPeople IdentityStmt.people) :=
  Prog.Guards.zoom (fun _ _ => rfl) (fun _ h => h.indexed) (fun _ _ _ => trivial) (fun _ _ _ => trivial)
    (fun _ _ _ hdb hmove => ⟨hdb.withdraw hmove, .withdraw hmove⟩) rfl (peopleProgram_withdraws call db.people)

theorem read_ensures {α β : Type} {f : IdentityDb → β} {next : β → IdentityProg α}
    {Q : α → IdentityDb → Prop} (h : ∀ b db, Prog.Ensures ending Q db (next b)) (db : IdentityDb) :
    Prog.Ensures ending Q db ((Prog.read tag f).bind next) :=
  fun s _ hs _ => ⟨⟨hs, .refl s⟩, h (f s) s⟩

theorem transaction_guards {α : Type} (p : IdentityTx α) (db : IdentityDb) :
    Prog.Ensures ending (fun _ _ => True) db (Identity.transaction p) := by
  apply Prog.Ensures.of_guards _ fun _ _ => trivial
  apply Tx.Gathers.guards (L := ending) (P := fun _ _ => True) (fun _ s hs _ => ⟨hs, .refl s⟩)
  · exact fun _ _ s s' hs _ _ happly => Tx.applyAll_later ending_sound endingWrites_sound hs happly
  · exact .of_forall (fun _ _ => trivial) _ _

theorem identityProgram_answers (c : IdentityCall) (db : IdentityDb) :
    Prog.Ensures ending (Answered hashAuthToken c) db (identityProgram hashAuthToken c) := by
  cases c with
  | people call =>
    exact (Prog.Ensures.of_guards (people_guards_ending call db) fun _ _ => trivial).bind (Q := fun _ _ => True)
      ending_sound fun _ _ _ _ => trivial
  | create =>
    refine Prog.Ensures.bind (Q := fun _ _ => True) ending_sound ?_ fun _ _ _ _ => trivial
    simp only [Identity.create]
    split
    · trivial
    · exact read_ensures (fun _ _ => transaction_guards _ _) db
  | resend =>
    refine Prog.Ensures.bind (Q := fun _ _ => True) ending_sound ?_ fun _ _ _ _ => trivial
    exact read_ensures (fun _ _ => transaction_guards _ _) db
  | revoke tenantId inviteId =>
    apply Prog.Ensures.bind (Q := fun r s => ∀ a, r = .ok a → s.Withdrawn tenantId inviteId) ending_sound
    · exact transaction_ensures (fun _ _ _ h hlater => hlater.withdrawn _ _ h)
        (revokeTransaction_withdraws tenantId inviteId) db
    · intro r s _ h
      cases r with
      | error => trivial
      | ok moved => exact h moved rfl
  | accept tenantId input userId =>
    apply Prog.Ensures.bind (Q := fun r s => ∀ a, r = .ok a →
      InviteEvent.redeemed a.inviteId (hashAuthToken input.token) ∈ s.inviteEvents) ending_sound
    · apply read_ensures _ db
      intro found db'
      dsimp only
      split
      · exact fun _ h => by cases h
      · exact transaction_ensures
          (P := fun (a : Identity.AcceptedInvite) s => .redeemed a.inviteId (hashAuthToken input.token) ∈ s.inviteEvents)
          (fun _ _ _ h hlater => hlater.events _ h) (acceptTransaction_redeems tenantId _ _ userId) db'
    · intro r s _ h
      cases r with
      | error => trivial
      | ok accepted => exact h accepted rfl
  | entitle =>
    intro s _ hs _
    exact ⟨⟨hs.of_same hs.indexed rfl rfl, ⟨fun _ he => he, fun _ _ h => h⟩⟩, trivial⟩

theorem IdentityRun.answers {db : IdentityDb} (hdb : db.Orderly) (hs : IdentityRun hashAuthToken db s) :
    s.Ensured ending (Answered hashAuthToken) :=
  Reachable.ensures ending_sound identityProgram_answers (fun _ _ _ _ hlater h => h.later hlater)
    (fun _ _ _ _ => trivial) hdb hs

def IdentityDb.OneEnd (db : IdentityDb) : Prop := ∀ i ∈ db.invites, i.acceptedAt = none ∨ i.revokedAt = none

instance (db : IdentityDb) : Decidable db.OneEnd := inferInstanceAs (Decidable (∀ i ∈ db.invites, _))

def withdrawsUnaccepted (tag : IdentityStmt) (db : IdentityDb) : Prop :=
  match tag with
  | .revokeInvite tenantId inviteId =>
    ∀ i ∈ db.invites, i.named tenantId inviteId = true → i.acceptedAt = none
  | _ => True

instance (tag : IdentityStmt) (db : IdentityDb) : Decidable (withdrawsUnaccepted tag db) := by
  unfold withdrawsUnaccepted
  split <;> infer_instance

def Unaccepted (ws : List (IdentityWrite × List IdentityRow)) : Prop :=
  ∀ e ∈ ws, e.1.isRevocation = true → ∀ i, .invite i ∈ e.2 → i.acceptedAt = none

theorem IdentityDb.OneEnd.issue {db db' : IdentityDb} (hdb : db.OneEnd)
    (haccepted : ∀ i, (write i).acceptedAt = i.acceptedAt) (hrevoked : ∀ i, (write i).revokedAt = i.revokedAt)
    (h : db.issue found tokenHash write = .ok (rows, db')) : db'.OneEnd := by
  cases (ok_of_ite h).2
  intro i' hi'
  obtain ⟨i, hi, ⟨_, rfl⟩ | ⟨_, rfl⟩⟩ := mem_updateWhere hi'
  · rw [haccepted, hrevoked]
    exact hdb i hi
  · exact hdb i' hi

theorem IdentityWrite.oneEnd {db db' : IdentityDb} (hdb : db.OneEnd)
    (hw : w.isRevocation = true → ∀ i, .invite i ∈ rows → i.acceptedAt = none) (h : w.apply db = .ok (rows, db')) :
    db'.OneEnd := by
  cases w with
  | createUser =>
    cases (ok_of_ite h).2
    exact hdb
  | upsertInvite =>
    simp only [IdentityWrite.apply] at h
    split at h
    · apply hdb.issue _ _ h
      · exact fun _ => rfl
      · exact fun _ => rfl
    · cases (ok_of_ite h).2
      intro i hi
      rcases mem_snoc.mp hi with hi | rfl
      · exact hdb i hi
      · exact .inl rfl
  | rotateToken =>
    apply hdb.issue _ _ h
    · exact fun _ => rfl
    · exact fun _ => rfl
  | revokeInvite =>
    cases h
    intro i' hi'
    obtain ⟨i, hi, ⟨hfound, rfl⟩ | ⟨_, rfl⟩⟩ := mem_updateWhere hi'
    · exact .inl (hw rfl i (List.mem_map_of_mem (List.mem_filter.mpr ⟨hi, hfound⟩)))
    · exact hdb i' hi
  | redeemInvite =>
    cases h
    intro i' hi'
    obtain ⟨i, hi, ⟨hfound, rfl⟩ | ⟨_, rfl⟩⟩ := mem_updateWhere hi'
    · simp only [Invite.redeemable, Invite.live, Invite.outstanding, decide_eq_true_eq] at hfound
      exact .inr hfound.2.2.1.2
    · exact hdb i' hi
  | _ =>
    cases h
    exact hdb

def endingOnce : Rely IdentityStmt IdentityDb where
  inv := IdentityDb.Orderly
  later _ _ := True
  cond := withdrawsUnaccepted
  effect _ db db' := db'.Orderly ∧ (db.OneEnd → db'.OneEnd)

theorem endingOnce_sound : endingOnce.Sound where
  refl _ := trivial
  trans _ _ := trivial
  keeps _ _ h := ⟨h.1, trivial⟩

theorem commit_endsOnce {db db' : IdentityDb} (hdb : db.Orderly)
    (hws : Unaccepted ws) (h : applyAll identityWrites ws db = .ok db') : db'.Orderly ∧ (db.OneEnd → db'.OneEnd) := by
  refine ⟨(Tx.applyAll_later ending_sound endingWrites_sound hdb h).1, fun hone => ?_⟩
  exact applyAll_induct (K := IdentityDb.OneEnd)
    (Q := fun (w : IdentityWrite) rows => w.isRevocation = true → ∀ i, IdentityRow.invite i ∈ rows → i.acceptedAt = none)
    (fun _ _ _ _ hw hs happly => IdentityWrite.oneEnd hs hw happly) hws hone h

theorem transaction_endsOnce {α : Type} {p : IdentityTx α}
    (hp : p.Gathers identityWrites withdrawsUnaccepted (fun _ => Unaccepted) []) (db : IdentityDb) :
    Prog.Guards endingOnce db (Identity.transaction p) :=
  (hp.narrow fun _ _ h => h.2).guards (L := endingOnce) (fun _ _ hs _ => ⟨hs, fun h => h⟩) (fun _ _ _ _ hs _ hws happly => commit_endsOnce hs hws happly) db

theorem gathers_unaccepted {α : Type} {p : IdentityTx α} (hp : p.Only (KeepsInvites tenantId)) :
    p.Gathers identityWrites withdrawsUnaccepted (fun _ => Unaccepted) [] := by
  refine Tx.Gathers.of_only ?_ hp (by simp [Unaccepted])
  intro _ w rows ws hw hws e he hrevocation
  rcases mem_snoc.mp he with he | rfl
  · exact hws e he hrevocation
  · rw [hw.2] at hrevocation
    cases hrevocation

theorem revokeTransaction_unaccepted (tenantId inviteId : Uuid) :
    (Identity.revokeTransaction tenantId inviteId).Gathers identityWrites withdrawsUnaccepted (fun _ => Unaccepted) [] := by
  simp only [Identity.revokeTransaction, Tx.bind_def, Tx.bind_query, Tx.pure_def]
  intro s v _ _
  dsimp only
  have hnone : Unaccepted [] := by simp [Unaccepted]
  split
  · trivial
  · split
    · exact hnone
    · split
      · trivial
      · rename_i invite _ _ _
        intro _ v₁ _ _ s₂ v₂ rows v₃ hcond hv₂ happly
        cases hv₂
        cases rows with
        | nil => trivial
        | cons row rows =>
          intro e he _ i hi
          rw [List.mem_singleton.mp he] at hi
          have hrows : (s₂.invites.filter (Invite.named tenantId invite.id)).map IdentityRow.invite = row :: rows :=
            (Prod.mk.inj (Except.ok.inj happly)).1
          rw [← hrows] at hi
          obtain ⟨j, hj, heq⟩ := List.mem_map.mp hi
          cases heq
          obtain ⟨hj, hnamed⟩ := List.mem_filter.mp hj
          exact hcond i hj hnamed

theorem read_endsOnce {α : Type} {next : β → IdentityProg α}
    (h : ∀ b db, Prog.Guards endingOnce db (next b)) (db : IdentityDb) :
    Prog.Guards endingOnce db ((Prog.read tag f).bind next) :=
  fun s _ hs _ => ⟨⟨hs, fun h => h⟩, h (f s) s⟩

theorem identityProgram_endsOnce (c : IdentityCall) (db : IdentityDb) :
    Prog.Guards endingOnce db (identityProgram hashAuthToken c) := by
  cases c with
  | people call =>
    refine Prog.Guards.bind endingOnce_sound ?_ fun _ _ _ => trivial
    refine Prog.Guards.zoom (fun _ _ => rfl) (fun _ h => h.indexed) (fun _ _ _ => trivial) (fun _ _ _ => trivial)
      ?_ rfl (peopleProgram_withdraws call db.people)
    intro _ db people hdb hmove
    refine ⟨hdb.withdraw hmove, fun hone i' hi' => ?_⟩
    obtain ⟨i, hi, rfl | ⟨hout, now, rfl⟩⟩ := hmove.invites.row_before hi'
    · exact hone i' hi
    · exact .inl (of_decide_eq_true hout).1
  | create =>
    refine Prog.Guards.bind endingOnce_sound ?_ fun _ _ _ => trivial
    simp only [Identity.create]
    split
    · trivial
    · exact read_endsOnce (fun _ _ =>
        transaction_endsOnce (gathers_unaccepted (createTransaction_only _ _ _ _ _ _)) _) db
  | resend =>
    refine Prog.Guards.bind endingOnce_sound ?_ fun _ _ _ => trivial
    exact read_endsOnce (fun _ _ => transaction_endsOnce (gathers_unaccepted (resendTransaction_only fun _ => ⟨rfl, rfl⟩)) _) db
  | revoke tenantId inviteId =>
    refine Prog.Guards.bind endingOnce_sound ?_ fun _ _ _ => trivial
    exact transaction_endsOnce (revokeTransaction_unaccepted tenantId inviteId) db
  | accept =>
    refine Prog.Guards.bind endingOnce_sound ?_ fun _ _ _ => trivial
    apply read_endsOnce _ db
    intro found db'
    dsimp only
    split
    · trivial
    · exact transaction_endsOnce (gathers_unaccepted (acceptTransaction_only _ _ _ _)) db'
  | entitle =>
    intro s _ hs _
    exact ⟨⟨hs.of_same hs.indexed rfl rfl, fun h => h⟩, trivial⟩

abbrev WithdrawnInTurn (hashAuthToken : String → String) (db : IdentityDb) (s : IdentitySys) : Prop :=
  Reachable (identityProgram hashAuthToken) (fun s _ tag => withdrawsUnaccepted tag s.db) (.idle db) s

theorem WithdrawnInTurn.oneEnd {db : IdentityDb} (hdb : db.Orderly) (hone : db.OneEnd) (hs : WithdrawnInTurn hashAuthToken db s) : s.db.OneEnd :=
  Reachable.effect endingOnce_sound identityProgram_endsOnce (fun _ _ _ h => h)
    (fun _ _ _ _ _ heffect h => heffect.2 h) (Sys.guarded_idle hdb) hone hs

end Runs

def invitedAda : IdentityDb :=
  { people := {
      base := { users := [{ id := 4, tenantId := 1, email := "ada", status := .invited }] }
      invites := [{
        id := 7, tenantId := 1, email := "ada", role := .agent, tokenHash := "first", expiresAt := 100,
        acceptedAt := none, revokedAt := none }] }
    inviteEvents := [.issued 7 "first"] }

theorem invitedAda_orderly : invitedAda.Orderly where
  indexed := ⟨.nil, .nil, .nil⟩
  id := by decide
  token := by decide
  accepted := by decide
  known := by decide
  once := by decide
  latest := by
    have hnone : LatestTokens [] := fun before _ _ _ heq => by simp at heq
    have hissued : LatestTokens ([] ++ [.issued 7 "first"]) := latestTokens_concat hnone fun _ _ he => by cases he
    exact hissued

def withdrawAndAccept : List (Move IdentityCall) :=
  [.spawn (.revoke 1 7), .spawn (.accept 1 { token := "first", displayName := "Ada" } 5)]

/-- The withdrawal commits while Ada's password is hashed. -/
def withdrawnMeanwhile : List (Move IdentityCall) :=
  withdrawAndAccept ++ .step 1 :: List.replicate 4 (.step 0) ++ List.replicate 3 (.step 1)

def acceptedMeanwhile : List (Move IdentityCall) :=
  withdrawAndAccept ++ .step 0 :: List.replicate 9 (.step 1) ++ List.replicate 3 (.step 0)

def withdrawalReported (s : IdentitySys) : Bool :=
  s.calls[0]?.any fun e =>
    match e.1, e.2.result? with
    | .revoke tenantId inviteId, some (.revoked (.ok true)) => tenantId = 1 ∧ inviteId = 7
    | _, _ => false

theorem mem_of_withdrawalReported (h : withdrawalReported s = true) :
    (IdentityCall.revoke 1 7, .pure (.revoked (.ok true))) ∈ s.calls := by
  simp only [withdrawalReported, Option.any_eq_true] at h
  obtain ⟨⟨call, rest⟩, hcall, hmatch⟩ := h
  dsimp only at hmatch
  split at hmatch
  · rename_i hresult
    obtain ⟨rfl, rfl⟩ := of_decide_eq_true hmatch
    rw [← Prog.eq_pure_of_result? hresult]
    exact List.mem_of_getElem? hcall
  · cases hmatch

end WhatsappCrm
