/-
Purpose: Who occupies a seat of a tenant, which invitations hold one, and what each write adds to them and takes away.
-/
import WhatsappCrm.Identity.Effects

namespace WhatsappCrm

open Interleaving Table

/-- The entry in the partial index `invites_one_live_per_email`. -/
def Invite.liveEntry (i : Invite) : Option (Uuid × String) := if i.outstanding then some (i.tenantId, i.email) else none

structure IdentityDb.Keyed (db : IdentityDb) : Prop where
  indexed : db.people.base.Indexed
  userId : UniqueBy (fun u : User => some u.id) db.users
  inviteId : UniqueBy (fun i : Invite => some i.id) db.invites
  outstanding : UniqueBy Invite.liveEntry db.invites

theorem Invite.conflicts_entry {tenantId : Uuid} {email : String} {i : Invite} :
    i.conflicts tenantId email = true ↔ i.liveEntry = some (tenantId, email) := by
  simp only [Invite.conflicts, Invite.liveEntry, decide_eq_true_eq]
  constructor
  · rintro ⟨rfl, rfl, hout⟩
    simp [hout]
  · intro h
    split at h
    · rename_i hout
      cases h
      exact ⟨rfl, rfl, hout⟩
    · cases h

variable {found : Invite → Bool} {w : IdentityWrite}

namespace IdentityDb.Keyed

variable {db db' : IdentityDb} {rows : List IdentityRow}

theorem issue (h : db.Keyed) {write : Invite → Invite}
    (hid : ∀ i, (write i).id = i.id) (hentry : ∀ i, (write i).liveEntry = i.liveEntry)
    (happly : db.issue found tokenHash write = .ok (rows, db')) : db'.Keyed := by
  cases (ok_of_ite happly).2
  exact ⟨h.indexed, h.userId, h.inviteId.updateWhere fun i _ _ => .inr (by rw [hid]),
    h.outstanding.updateWhere fun i _ _ => .inr (hentry i)⟩

theorem insert (h : db.Keyed) {values : NewInvite} (hfree : ¬ db.invites.any (Invite.conflicts values.tenantId values.email) = true)
    (happly : db.insertInvite values = .ok (rows, db')) : db'.Keyed := by
  obtain ⟨hnew, happly⟩ := ok_of_ite happly
  cases happly
  refine ⟨h.indexed, h.userId, h.inviteId.concat fun i hi hclash => ?_, h.outstanding.concat fun i hi hclash => ?_⟩
  · apply hnew
    exact List.any_eq_true.mpr ⟨i, hi, decide_eq_true (.inl (Option.some.inj hclash.2))⟩
  · apply hfree
    refine List.any_eq_true.mpr ⟨i, hi, Invite.conflicts_entry.mpr (hclash.2.trans ?_)⟩
    simp [Invite.liveEntry, NewInvite.row, Invite.outstanding]

end IdentityDb.Keyed

theorem IdentityWrite.keyed {db db' : IdentityDb} {rows : List IdentityRow} (hdb : db.Keyed)
    (h : w.apply db = .ok (rows, db')) : db'.Keyed := by
  cases w with
  | createUser =>
    obtain ⟨hfree, h⟩ := ok_of_ite h
    cases h
    refine ⟨hdb.indexed, hdb.userId.concat fun u hu hclash => ?_, hdb.inviteId, hdb.outstanding⟩
    apply hfree
    exact List.any_eq_true.mpr ⟨u, hu, by simpa using Or.inl (Option.some.inj hclash.2)⟩
  | updateUser tenantId userId =>
    cases h
    refine ⟨hdb.indexed, ?_, hdb.inviteId, hdb.outstanding⟩
    exact hdb.userId.updateWhere fun _ _ _ => .inr rfl
  | upsertInvite values =>
    simp only [IdentityWrite.apply] at h
    split at h
    · apply hdb.issue _ _ h
      · exact fun _ => rfl
      · exact fun _ => rfl
    · rename_i hfree
      exact hdb.insert hfree h
  | rotateToken =>
    apply hdb.issue _ _ h
    · exact fun _ => rfl
    · exact fun _ => rfl
  | revokeInvite | redeemInvite =>
    cases h
    refine ⟨hdb.indexed, hdb.userId, hdb.inviteId.updateWhere fun _ _ _ => .inr rfl, ?_⟩
    exact hdb.outstanding.updateWhere fun _ _ _ => .inl (by simp [Invite.liveEntry, Invite.outstanding])
  | _ =>
    cases h
    exact ⟨hdb.indexed, hdb.userId, hdb.inviteId, hdb.outstanding⟩

def IdentityRow.outstanding? : IdentityRow → Option Uuid
  | .inserted i => some i.id
  | .invite i => if i.outstanding then some i.id else none
  | _ => none

namespace IdentityWrite

variable (tenantId : Uuid)

def joins (w : IdentityWrite) (rows : List IdentityRow) : List Uuid :=
  match w with
  | .createUser user => if user.tenantId = tenantId ∧ user.occupiesSeat = true then [user.id] else []
  | .updateUser t userId data =>
    if t = tenantId ∧ data.status.any (·.occupiesSeat) = true ∧ rows ≠ [] then [userId] else []
  | _ => []

def leaves : IdentityWrite → List Uuid
  | .updateUser t userId data => if t = tenantId ∧ data.status.any (!·.occupiesSeat) = true then [userId] else []
  | _ => []

def dates (w : IdentityWrite) (rows : List IdentityRow) : List Uuid :=
  match w with
  | .upsertInvite values => if values.tenantId = tenantId then rows.filterMap IdentityRow.outstanding? else []
  | .rotateToken t _ _ _ => if t = tenantId then rows.filterMap IdentityRow.outstanding? else []
  | _ => []

def expiry : IdentityWrite → Millis
  | .upsertInvite values => values.expiresAt
  | .rotateToken _ _ _ expiresAt => expiresAt
  | _ => 0

def written (rows : List IdentityRow) : List Uuid :=
  rows.filterMap fun
    | .inserted i => some i.id
    | .invite i => some i.id
    | _ => none

structure Moves (w : IdentityWrite) (rows : List IdentityRow) (db db' : IdentityDb) : Prop where
  turn : db'.seatTurn tenantId = db.seatTurn tenantId + if w = .lockSeats tenantId then 1 else 0
  now : db'.now = db.now
  cap : db'.seatCap tenantId = db.seatCap tenantId
  members : ∀ id, id ∈ db'.members tenantId ↔
    id ∈ w.joins tenantId rows ∨ id ∈ db.members tenantId ∧ id ∉ w.leaves tenantId
  live : ∀ id now, id ∈ db'.liveInvites tenantId now ↔
    id ∈ w.dates tenantId rows ∧ now < w.expiry ∨ id ∈ db.liveInvites tenantId now ∧ id ∉ written rows

end IdentityWrite

section Moves

variable {db db' : IdentityDb} {rows : List IdentityRow} {tenantId : Uuid}

theorem written_invites (invites : List Invite) : IdentityWrite.written (invites.map .invite) = invites.map (·.id) := by
  simp [IdentityWrite.written, List.filterMap_map]

theorem mem_outstanding {invites : List Invite} {id : Uuid} :
    id ∈ (invites.map IdentityRow.invite).filterMap IdentityRow.outstanding? ↔
      ∃ i ∈ invites, i.outstanding = true ∧ i.id = id := by
  simp only [List.mem_filterMap, List.mem_map, IdentityRow.outstanding?]
  constructor
  · rintro ⟨_, ⟨i, hi, rfl⟩, hrow⟩
    dsimp only at hrow
    split at hrow
    · rename_i hout
      exact ⟨i, hi, hout, Option.some.inj hrow⟩
    · cases hrow
  · rintro ⟨i, hi, hout, rfl⟩
    exact ⟨_, ⟨i, hi, rfl⟩, by simp [hout]⟩

theorem live_updateWhere (hdb : db.Keyed) {write : Invite → Invite}
    (hid : ∀ i, (write i).id = i.id) (htenant : ∀ i, (write i).tenantId = i.tenantId)
    (hinvites : db'.invites = updateWhere found write db.invites) (id : Uuid) (now : Millis) :
    id ∈ db'.liveInvites tenantId now ↔
      (∃ i ∈ db.invites, found i = true ∧ i.tenantId = tenantId ∧ (write i).live now = true ∧ i.id = id) ∨
        id ∈ db.liveInvites tenantId now ∧ id ∉ IdentityWrite.written ((db.invites.filter found).map .invite) := by
  rw [IdentityDb.liveInvites, hinvites, hdb.inviteId.mem_keys_updateWhere hid, written_invites]
  apply or_congr
  · constructor
    · rintro ⟨i, hi, hfound, hlive, heq⟩
      rw [htenant, decide_eq_true_eq] at hlive
      exact ⟨i, hi, hfound, hlive.1, hlive.2, heq⟩
    · rintro ⟨i, hi, hfound, ht, hlive, heq⟩
      exact ⟨i, hi, hfound, by simp [htenant, ht, hlive], heq⟩
  · apply and_congr Iff.rfl
    constructor
    · intro hother hmem
      obtain ⟨i, hi, heq⟩ := List.mem_map.mp hmem
      obtain ⟨hi, hfound⟩ := List.mem_filter.mp hi
      exact hother i hi hfound heq
    · exact fun hnot i hi hfound heq => hnot (List.mem_map.mpr ⟨i, List.mem_filter.mpr ⟨hi, hfound⟩, heq⟩)

theorem IdentityDb.issue_live (hdb : db.Keyed) {write : Invite → Invite}
    (expiresAt : Millis) (hid : ∀ i, (write i).id = i.id) (htenant : ∀ i, (write i).tenantId = i.tenantId)
    (hout : ∀ i, (write i).outstanding = i.outstanding) (hexpiry : ∀ i, (write i).expiresAt = expiresAt)
    (h : db.issue found tokenHash write = .ok (rows, db')) (id : Uuid) (now : Millis) :
    id ∈ db'.liveInvites tenantId now ↔
      ((∃ i ∈ db.invites, found i = true ∧ i.tenantId = tenantId ∧ i.outstanding = true ∧ i.id = id) ∧
          now < expiresAt) ∨
        id ∈ db.liveInvites tenantId now ∧ id ∉ IdentityWrite.written rows := by
  cases (ok_of_ite h).2
  rw [live_updateWhere hdb hid htenant rfl]
  apply or_congr _ Iff.rfl
  simp only [Invite.live, hout, hexpiry, decide_eq_true_eq]
  constructor
  · rintro ⟨i, hi, hfound, ht, ⟨ho, hnow⟩, heq⟩
    exact ⟨⟨i, hi, hfound, ht, ho, heq⟩, hnow⟩
  · rintro ⟨⟨i, hi, hfound, ht, ho, heq⟩, hnow⟩
    exact ⟨i, hi, hfound, ht, ⟨ho, hnow⟩, heq⟩

theorem IdentityDb.issue_rows {write : Invite → Invite}
    (h : db.issue found tokenHash write = .ok (rows, db')) : rows = (db.invites.filter found).map .invite := by
  cases (ok_of_ite h).2
  rfl

theorem IdentityDb.issue_same {write : Invite → Invite} (h : db.issue found tokenHash write = .ok (rows, db')) :
    db'.seatTurns = db.seatTurns ∧ db'.now = db.now ∧ db'.seatLimits = db.seatLimits ∧ db'.users = db.users := by
  cases (ok_of_ite h).2
  exact ⟨rfl, rfl, rfl, rfl⟩

theorem IdentityDb.insert_live (tenantId : Uuid) (h : db.insertInvite values = .ok (rows, db'))
    (id : Uuid) (now : Millis) : rows = [.inserted values.row] ∧ (id ∈ db'.liveInvites tenantId now ↔
      (values.tenantId = tenantId ∧ id = values.id) ∧ now < values.expiresAt ∨
        id ∈ db.liveInvites tenantId now ∧ id ∉ IdentityWrite.written rows) := by
  obtain ⟨hnew, h⟩ := ok_of_ite h
  cases h
  refine ⟨rfl, ?_⟩
  have hfresh : id ∈ db.liveInvites tenantId now → id ≠ values.id := by
    rintro hid rfl
    obtain ⟨i, hi, heq⟩ := List.mem_map.mp hid
    exact hnew (List.any_eq_true.mpr ⟨i, (List.mem_filter.mp hi).1, decide_eq_true (.inl heq)⟩)
  have hrow : values.row.live now = true ↔ now < values.expiresAt := by
    simp [Invite.live, Invite.outstanding, NewInvite.row]
  have hwritten : IdentityWrite.written [.inserted values.row] = [values.id] := rfl
  change id ∈ (((db.invites ++ [values.row]).filter _).map _) ↔ _
  rw [List.filter_append, List.map_append, List.mem_append, hwritten, List.mem_singleton, or_comm]
  apply or_congr
  · by_cases hlive : values.row.tenantId = tenantId ∧ values.row.live now = true
    · rw [List.filter_cons_of_pos (by simpa using hlive)]
      have hnow := hrow.mp hlive.2
      have ht : values.tenantId = tenantId := hlive.1
      simp [ht, hnow, NewInvite.row]
    · rw [List.filter_cons_of_neg (by simpa using hlive)]
      rw [hrow] at hlive
      simp only [List.filter_nil, List.map_nil, List.not_mem_nil, false_iff]
      exact fun hand => hlive ⟨hand.1.1, hand.2⟩
  · exact ⟨fun hid => ⟨hid, hfresh hid⟩, fun hand => hand.1⟩

theorem members_updateUser (hdb : db.Keyed) (t userId : Uuid) (data : UserUpdateData)
    (husers : db'.users = updateWhere (User.named t userId) data.write db.users)
    (hrows : rows = (db.users.filter (User.named t userId)).map .user) (id : Uuid) : id ∈ db'.members tenantId ↔
      id ∈ (IdentityWrite.updateUser t userId data).joins tenantId rows ∨
        id ∈ db.members tenantId ∧ id ∉ (IdentityWrite.updateUser t userId data).leaves tenantId := by
  have hnamed : ∀ u : User, u.named t userId = true ↔ u.tenantId = t ∧ u.id = userId := fun u => by simp [User.named]
  have hempty : rows ≠ [] ↔ ∃ u ∈ db.users, u.tenantId = t ∧ u.id = userId := by
    rw [hrows, ne_eq, List.map_eq_nil_iff, List.filter_eq_nil_iff]
    push Not
    simp only [hnamed]
  have hsame : ∀ u ∈ db.users, u.tenantId = t ∧ u.id = userId → ∀ x ∈ db.users, x.id = userId → x = u :=
    fun u hu hu' x hx hx' => hdb.userId.eq_of_entry hx hu (congrArg some hx') (congrArg some hu'.2)
  have hmember : id ∈ db.members tenantId ↔
      ∃ u ∈ db.users, (u.tenantId = tenantId ∧ u.status.occupiesSeat = true) ∧ u.id = id := by
    simp only [IdentityDb.members, List.mem_map, List.mem_filter, decide_eq_true_eq, and_assoc]
    rfl
  rw [IdentityDb.members, husers, hdb.userId.mem_keys_updateWhere (by exact fun _ => rfl)]
  change _ ∨ id ∈ db.members tenantId ∧ _ ↔ _
  simp only [hnamed, decide_eq_true_eq]
  simp only [IdentityWrite.joins, IdentityWrite.leaves, User.occupiesSeat, UserUpdateData.write]
  by_cases ht : t = tenantId
  · subst ht
    cases hstatus : data.status with
    | none =>
      simp only [Option.getD_none, Option.any_none, true_and, Bool.false_eq_true, false_and, if_false,
        List.not_mem_nil, not_false_eq_true, and_true, false_or]
      rw [hmember]
      constructor
      · rintro (⟨u, hu, _, hq, heq⟩ | ⟨h, _⟩)
        · exact ⟨u, hu, hq, heq⟩
        · exact h
      · rintro ⟨u, hu, hq, heq⟩
        by_cases hid : u.id = userId
        · exact .inl ⟨u, hu, ⟨hq.1, hid⟩, hq, heq⟩
        · refine .inr ⟨⟨u, hu, hq, heq⟩, fun x hx hx' heq' => hid ?_⟩
          rw [heq, ← heq', hx'.2]
    | some status =>
      cases hocc : status.occupiesSeat with
      | true =>
        simp only [Option.getD_some, Option.any_some, hocc, true_and, and_true, Bool.not_true, Bool.false_eq_true,
          if_false, List.not_mem_nil, not_false_eq_true, hempty]
        constructor
        · rintro (⟨u, hu, hu', _, rfl⟩ | ⟨h, _⟩)
          · left
            rw [if_pos ⟨u, hu, hu'⟩]
            exact List.mem_singleton.mpr hu'.2
          · exact .inr h
        · rintro (h | h)
          · split at h
            · rename_i hsome
              obtain ⟨u, hu, hu'⟩ := hsome
              exact .inl ⟨u, hu, hu', hu'.1, hu'.2.trans (List.mem_singleton.mp h).symm⟩
            · cases h
          · by_cases hfound : ∃ u ∈ db.users, (u.tenantId = t ∧ u.id = userId) ∧ u.id = id
            · obtain ⟨u, hu, hu', heq⟩ := hfound
              exact .inl ⟨u, hu, hu', hu'.1, heq⟩
            · exact .inr ⟨h, fun u hu hu' heq => hfound ⟨u, hu, hu', heq⟩⟩
      | false =>
        simp only [Option.getD_some, Option.any_some, hocc, true_and, Bool.not_false, Bool.false_eq_true,
          false_and, and_false, if_false, if_true, List.not_mem_nil, false_or, exists_false,
          List.mem_singleton]
        apply and_congr_right
        intro hid
        obtain ⟨u, hu, hq, heq⟩ := hmember.mp hid
        constructor
        · rintro hother rfl
          exact hother u hu ⟨hq.1, heq⟩ heq
        · rintro hne x hx hx' rfl
          exact hne hx'.2
  · simp only [ht, false_and, if_false, List.not_mem_nil, false_or, not_false_eq_true, and_true]
    constructor
    · rintro (⟨u, hu, hu', hq, _⟩ | ⟨h, _⟩)
      · exact absurd (hu'.1.symm.trans hq.1) ht
      · exact h
    · intro h
      refine .inr ⟨h, fun x hx hx' heq => ht ?_⟩
      obtain ⟨u, hu, hq, heq'⟩ := hmember.mp h
      have hux := hsame x hx hx' u hu (heq'.trans (heq.symm.trans hx'.2))
      rw [← hx'.1, ← hux, hq.1]

theorem IdentityWrite.moves (hdb : db.Keyed) (h : w.apply db = .ok (rows, db')) : w.Moves tenantId rows db db' := by
  -- a write that is not of the seat lock, of the members or of the invitations
  have hcalm : ∀ {w : IdentityWrite} {rows : List IdentityRow}, w ≠ .lockSeats tenantId →
      db'.seatTurns = db.seatTurns → db'.now = db.now → db'.seatLimits = db.seatLimits →
      (∀ id, id ∈ db'.members tenantId ↔
        id ∈ w.joins tenantId rows ∨ id ∈ db.members tenantId ∧ id ∉ w.leaves tenantId) →
      (∀ id now, id ∈ db'.liveInvites tenantId now ↔
        id ∈ w.dates tenantId rows ∧ now < w.expiry ∨ id ∈ db.liveInvites tenantId now ∧ id ∉ IdentityWrite.written rows) →
      w.Moves tenantId rows db db' := by
    intro w rows hw hturns hnow hlimits hmembers hlive
    refine ⟨?_, hnow, ?_, hmembers, hlive⟩
    · rw [IdentityDb.seatTurn, hturns, if_neg hw, Nat.add_zero, IdentityDb.seatTurn]
    · rw [IdentityDb.seatCap, hlimits, IdentityDb.seatCap]
  have hkept : ∀ {w : IdentityWrite} {rows : List IdentityRow}, db'.users = db.users → w.joins tenantId rows = [] →
      w.leaves tenantId = [] → ∀ id, id ∈ db'.members tenantId ↔
        id ∈ w.joins tenantId rows ∨ id ∈ db.members tenantId ∧ id ∉ w.leaves tenantId := by
    intro w rows husers hjoins hleaves id
    rw [IdentityDb.members, husers, hjoins, hleaves]
    simp [IdentityDb.members]
  have hstill : ∀ {w : IdentityWrite} {rows : List IdentityRow}, db'.invites = db.invites →
      w.dates tenantId rows = [] → IdentityWrite.written rows = [] → ∀ id now, id ∈ db'.liveInvites tenantId now ↔
        id ∈ w.dates tenantId rows ∧ now < w.expiry ∨ id ∈ db.liveInvites tenantId now ∧ id ∉ IdentityWrite.written rows := by
    intro w rows hinvites hdates hwritten id now
    rw [IdentityDb.liveInvites, hinvites, hdates, hwritten]
    simp [IdentityDb.liveInvites]
  have hteams : ∀ teamIds : List Uuid, IdentityWrite.written (teamIds.map .team) = [] := fun teamIds => by
    simp [IdentityWrite.written, List.filterMap_map]
  cases w with
  | lockSeats =>
    cases h
    refine ⟨?_, rfl, rfl, hkept rfl rfl rfl, hstill rfl rfl rfl⟩
    simp only [IdentityDb.seatTurn, List.count_cons, beq_iff_eq, IdentityWrite.lockSeats.injEq]
  | createUser user =>
    cases (ok_of_ite h).2
    refine hcalm (by simp) rfl rfl rfl (fun id => ?_) (hstill rfl rfl rfl)
    simp only [IdentityDb.members, IdentityDb.users_withUsers, List.filter_append, List.map_append,
      List.mem_append, IdentityWrite.joins, IdentityWrite.leaves, List.not_mem_nil, not_false_eq_true, and_true]
    rw [or_comm]
    apply or_congr _ Iff.rfl
    split
    · rename_i hseat
      rw [List.filter_cons_of_pos (by simpa using hseat)]
      simp
    · rename_i hseat
      rw [List.filter_cons_of_neg (by simpa using hseat)]
      simp
  | updateUser t userId data =>
    cases h
    refine hcalm (by simp) rfl rfl rfl (members_updateUser hdb t userId data rfl rfl) (hstill rfl rfl ?_)
    simp [IdentityWrite.written, List.filterMap_map]
  | upsertInvite values =>
    simp only [IdentityWrite.apply] at h
    split at h
    · obtain ⟨hturns, hnow, hlimits, husers⟩ := IdentityDb.issue_same h
      refine hcalm (by simp) hturns hnow hlimits (hkept husers rfl rfl) fun id now => ?_
      rw [IdentityDb.issue_live hdb values.expiresAt (by exact fun _ => rfl) (by exact fun _ => rfl)
        (by exact fun _ => rfl) (by exact fun _ => rfl) h]
      apply or_congr _ Iff.rfl
      apply and_congr _ Iff.rfl
      rw [IdentityWrite.dates, IdentityDb.issue_rows h]
      split
      · rename_i ht
        rw [mem_outstanding]
        constructor
        · rintro ⟨i, hi, hfound, _, hout, heq⟩
          exact ⟨i, List.mem_filter.mpr ⟨hi, hfound⟩, hout, heq⟩
        · rintro ⟨i, hi, hout, heq⟩
          obtain ⟨hi, hfound⟩ := List.mem_filter.mp hi
          exact ⟨i, hi, hfound, (of_decide_eq_true hfound).1.trans ht, hout, heq⟩
      · rename_i ht
        simp only [List.not_mem_nil, iff_false]
        rintro ⟨i, _, hfound, ht', _⟩
        exact ht ((of_decide_eq_true hfound).1.symm.trans ht')
    · have hinsert := fun id now => IdentityDb.insert_live tenantId h id now
      have hrest : db'.seatTurns = db.seatTurns ∧ db'.now = db.now ∧ db'.seatLimits = db.seatLimits ∧
          db'.users = db.users := by
        cases (ok_of_ite h).2
        exact ⟨rfl, rfl, rfl, rfl⟩
      obtain ⟨hturns, hnow, hlimits, husers⟩ := hrest
      refine hcalm (by simp) hturns hnow hlimits (hkept husers rfl rfl) fun id now => ?_
      rw [(hinsert id now).2, IdentityWrite.dates, (hinsert id now).1]
      apply or_congr _ Iff.rfl
      apply and_congr _ Iff.rfl
      split
      · rename_i ht
        simp [ht, IdentityRow.outstanding?, NewInvite.row]
      · rename_i ht
        simp [ht]
  | rotateToken t inviteId tokenHash expiresAt =>
    obtain ⟨hturns, hnow, hlimits, husers⟩ := IdentityDb.issue_same h
    refine hcalm (by simp) hturns hnow hlimits (hkept husers rfl rfl) fun id now => ?_
    rw [IdentityDb.issue_live hdb expiresAt (by exact fun _ => rfl) (by exact fun _ => rfl)
      (by exact fun _ => rfl) (by exact fun _ => rfl) h]
    apply or_congr _ Iff.rfl
    apply and_congr _ Iff.rfl
    rw [IdentityWrite.dates, IdentityDb.issue_rows h]
    split
    · rename_i ht
      rw [mem_outstanding]
      constructor
      · rintro ⟨i, hi, hfound, _, hout, heq⟩
        exact ⟨i, List.mem_filter.mpr ⟨hi, hfound⟩, hout, heq⟩
      · rintro ⟨i, hi, hout, heq⟩
        obtain ⟨hi, hfound⟩ := List.mem_filter.mp hi
        exact ⟨i, hi, hfound, (of_decide_eq_true hfound).1.trans ht, hout, heq⟩
    · rename_i ht
      simp only [List.not_mem_nil, iff_false]
      rintro ⟨i, _, hfound, ht', _⟩
      exact ht ((of_decide_eq_true hfound).1.symm.trans ht')
  | revokeInvite | redeemInvite =>
    cases h
    refine hcalm (by simp) rfl rfl rfl (hkept rfl rfl rfl) fun id now => ?_
    rw [live_updateWhere hdb (by exact fun _ => rfl) (by exact fun _ => rfl) rfl]
    simp [Invite.live, Invite.outstanding, IdentityWrite.dates]
  | clearInviteTeams | createInviteTeams | joinTeams =>
    cases h
    exact hcalm (by simp) rfl rfl rfl (hkept rfl rfl rfl) (hstill rfl rfl (hteams _))

end Moves

section Later

variable {tenantId : Uuid}

/-- The ceiling is not lowered, and between two turns of the lock seats only become free. -/
structure SeatsLater (tenantId : Uuid) (db db' : IdentityDb) : Prop where
  turn : db.seatTurn tenantId ≤ db'.seatTurn tenantId
  now : db.now ≤ db'.now
  cap : ∀ c' ∈ db'.seatCap tenantId, ∃ c ∈ db.seatCap tenantId, c ≤ c'
  held : db'.seatTurn tenantId = db.seatTurn tenantId → db'.seatCap tenantId ≠ none →
    db'.members tenantId ⊆ db.members tenantId ∧
      db'.liveInvites tenantId db'.now ⊆ db.liveInvites tenantId db.now

theorem SeatsLater.uncapped {db db' : IdentityDb} (h : SeatsLater tenantId db db') (hdb : db.seatCap tenantId = none) :
    db'.seatCap tenantId = none := by
  cases hcap : db'.seatCap tenantId with
  | none => rfl
  | some c' =>
    obtain ⟨c, hc, _⟩ := h.cap c' hcap
    rw [hdb] at hc
    cases hc

namespace SeatsLater

variable {a b c : IdentityDb}

theorem refl (db : IdentityDb) : SeatsLater tenantId db db where
  turn := Nat.le_refl _
  now := Int.le_refl _
  cap c hc := ⟨c, hc, Nat.le_refl c⟩
  held _ _ := ⟨fun _ h => h, fun _ h => h⟩

theorem trans (h : SeatsLater tenantId a b) (h' : SeatsLater tenantId b c) : SeatsLater tenantId a c where
  turn := Nat.le_trans h.turn h'.turn
  now := Int.le_trans h.now h'.now
  cap c' hc' := by
    obtain ⟨c₁, hc₁, hle⟩ := h'.cap c' hc'
    obtain ⟨c₀, hc₀, hle'⟩ := h.cap c₁ hc₁
    exact ⟨c₀, hc₀, Nat.le_trans hle' hle⟩
  held hturn hcap := by
    have hturn₁ : b.seatTurn tenantId = a.seatTurn tenantId := by
      have := h.turn
      have := h'.turn
      omega
    obtain ⟨hmembers', hlive'⟩ := h'.held (hturn.trans hturn₁.symm) hcap
    obtain ⟨hmembers, hlive⟩ := h.held hturn₁ fun hnone => hcap (h'.uncapped hnone)
    exact ⟨List.Subset.trans hmembers' hmembers, List.Subset.trans hlive' hlive⟩

end SeatsLater

def Room (tenantId : Uuid) (k : Nat) (db : IdentityDb) : Prop :=
  ∀ c ∈ db.seatCap tenantId, (db.members tenantId).length + (db.liveInvites tenantId db.now).length + k ≤ c

instance (tenantId : Uuid) (k : Nat) (db : IdentityDb) : Decidable (Room tenantId k db) :=
  inferInstanceAs (Decidable (∀ c ∈ db.seatCap tenantId, _))

theorem IdentityDb.Keyed.nodup_members {db : IdentityDb} (h : db.Keyed) : (db.members tenantId).Nodup :=
  h.userId.nodup_keys _

theorem IdentityDb.Keyed.nodup_live {db : IdentityDb} (h : db.Keyed) (now : Millis) :
    (db.liveInvites tenantId now).Nodup :=
  h.inviteId.nodup_keys _

theorem Room.later {db db' : IdentityDb} (h : Room tenantId k db) (hdb' : db'.Keyed)
    (hlater : SeatsLater tenantId db db') (hturn : db'.seatTurn tenantId = db.seatTurn tenantId) :
    Room tenantId k db' := by
  intro c' hc'
  obtain ⟨c, hc, hle⟩ := hlater.cap c' hc'
  have hcap : db'.seatCap tenantId ≠ none := fun hnone => by rw [Option.mem_def, hnone] at hc'; cases hc'
  obtain ⟨hmembers, hlive⟩ := hlater.held hturn hcap
  have hfewer := hdb'.nodup_members.length_le_of_subset hmembers
  have hfewer' := (hdb'.nodup_live db'.now).length_le_of_subset hlive
  have := h c hc
  omega

theorem Room.write {rows : List IdentityRow} {db db' : IdentityDb} (hdb' : db'.Keyed)
    (hmoves : w.Moves tenantId rows db db')
    (h : Room tenantId (k + (w.joins tenantId rows).length + (w.dates tenantId rows).length) db) :
    Room tenantId k db' := by
  intro c hc
  rw [hmoves.cap] at hc
  have hroom := h c hc
  have hmembers : db'.members tenantId ⊆ w.joins tenantId rows ++ db.members tenantId := by
    intro id hid
    rcases (hmoves.members id).mp hid with hid | hid
    · exact List.mem_append_left _ hid
    · exact List.mem_append_right _ hid.1
  have hlive : db'.liveInvites tenantId db'.now ⊆ w.dates tenantId rows ++ db.liveInvites tenantId db.now := by
    intro id hid
    rw [hmoves.now] at hid
    rcases (hmoves.live id db.now).mp hid with hid | hid
    · exact List.mem_append_left _ hid.1
    · exact List.mem_append_right _ hid.1
  have hfewer := hdb'.nodup_members.length_le_of_subset hmembers
  have hfewer' := (hdb'.nodup_live db'.now).length_le_of_subset hlive
  rw [List.length_append] at hfewer hfewer'
  omega

theorem IdentityWrite.Moves.mono {rows : List IdentityRow} {a b : IdentityDb}
    (h : SeatsLater tenantId a b) (ha : w.Moves tenantId rows a a') (hb : w.Moves tenantId rows b b') :
    SeatsLater tenantId a' b' where
  turn := by
    rw [ha.turn, hb.turn]
    exact Nat.add_le_add_right h.turn _
  now := by
    rw [ha.now, hb.now]
    exact h.now
  cap := by
    rw [ha.cap, hb.cap]
    exact h.cap
  held hturn hcap := by
    rw [ha.turn, hb.turn] at hturn
    rw [hb.cap] at hcap
    obtain ⟨hmembers, hlive⟩ := h.held (Nat.add_right_cancel hturn) hcap
    refine ⟨fun id hid => (ha.members id).mpr ?_, fun id hid => ?_⟩
    · rcases (hb.members id).mp hid with hid | ⟨hid, hleft⟩
      · exact .inl hid
      · exact .inr ⟨hmembers hid, hleft⟩
    · rw [hb.now] at hid
      rw [ha.now]
      apply (ha.live id a.now).mpr
      rcases (hb.live id b.now).mp hid with ⟨hid, hnow⟩ | ⟨hid, hwritten⟩
      · exact .inl ⟨hid, Int.lt_of_le_of_lt h.now hnow⟩
      · exact .inr ⟨hlive hid, hwritten⟩

/-- What every statement is asked for: the indexes hold, the seats move on, and a tenant within its ceiling stays. -/
def seating (tenantId : Uuid) (cond : IdentityStmt → IdentityDb → Prop) : Rely IdentityStmt IdentityDb where
  inv := IdentityDb.Keyed
  later := SeatsLater tenantId
  cond := cond
  effect _ db db' := (db'.Keyed ∧ SeatsLater tenantId db db') ∧ (Room tenantId 0 db → Room tenantId 0 db')

theorem seating_sound (tenantId : Uuid) (cond : IdentityStmt → IdentityDb → Prop) : (seating tenantId cond).Sound where
  refl := .refl
  trans := .trans
  keeps _ _ h := h.1

theorem seatingWrites_steady (tenantId : Uuid) (cond : IdentityStmt → IdentityDb → Prop) :
    identityWrites.Steady (seating tenantId cond) where
  nothing := IdentityWrite.nothing
  valid := IdentityWrite.keyed
  mono ha hb hlater _ h₁ h₂ := IdentityWrite.Moves.mono hlater (IdentityWrite.moves ha h₁) (IdentityWrite.moves hb h₂)

end Later

end WhatsappCrm
