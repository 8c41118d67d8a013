/-
Purpose: The seat ceiling.
-/
import WhatsappCrm.Identity.Seats
import WhatsappCrm.People.LastAdmin

namespace WhatsappCrm

open Interleaving Table

def IdentityWrite.isDating : IdentityWrite → Bool
  | .upsertInvite _ => true
  | .rotateToken _ _ _ _ => true
  | _ => false

/-- The row is an invitation that holds its seat anyway, or that holds none even with a new expiry. -/
def IdentityRow.inDate (now : Millis) : IdentityRow → Bool
  | .invite i => !i.outstanding || now < i.expiresAt
  | .inserted _ => false
  | _ => true

def keepsCeiling (tenantId : Uuid) (tag : IdentityStmt) (db : IdentityDb) : Prop :=
  match tag with
  | .entitle t seats => t = tenantId → ∀ c' ∈ limitOf seats, ∃ c ∈ db.seatCap tenantId, c ≤ c'
  | _ => True

instance (tenantId : Uuid) (tag : IdentityStmt) (db : IdentityDb) : Decidable (keepsCeiling tenantId tag db) := by
  unfold keepsCeiling
  split <;> infer_instance

/-- A status change is of somebody who occupies a seat, the ceiling is not lowered, and what commits without the lock
    dates no lapsed invitation. -/
def seatsInTurn (tenantId : Uuid) (tag : IdentityStmt) (db : IdentityDb) : Prop :=
  match tag with
  | .people (.writeUser before data) => before.tenantId = tenantId → data.status.any (·.occupiesSeat) = true →
      ∀ u ∈ db.users, u.named tenantId before.id = true → u.occupiesSeat = true
  | .entitle t seats => keepsCeiling tenantId (.entitle t seats) db
  | .commit ws => db.seatCap tenantId = none ∨ .lockSeats tenantId ∈ ws.map (·.1) ∨
      ∀ e ∈ ws, e.1.tenantId = tenantId → e.1.isDating = true → ∀ row ∈ e.2, row.inDate db.now = true
  | _ => True

instance (tenantId : Uuid) (tag : IdentityStmt) (db : IdentityDb) : Decidable (seatsInTurn tenantId tag db) := by
  unfold seatsInTurn
  split <;> infer_instance

abbrev IdentityWrites := List (IdentityWrite × List IdentityRow)

variable {w : IdentityWrite} {k : Nat} {rows : List IdentityRow} {invites : List Invite} {α : Type} {t : Uuid}
  {data : UserUpdateData} {tag : IdentityStmt}

section Holding

variable {tenantId : Uuid} {cond : IdentityStmt → IdentityDb → Prop} {ws : IdentityWrites} {db db' v : IdentityDb}

def Joinless (tenantId : Uuid) (w : IdentityWrite) : Prop :=
  w ≠ .lockSeats tenantId ∧ ∀ rows, w.joins tenantId rows = []

def Seatless (tenantId : Uuid) (w : IdentityWrite) : Prop :=
  Joinless tenantId w ∧ ∀ rows, w.dates tenantId rows = []

def Unlocked (tenantId : Uuid) (ws : IdentityWrites) : Prop := ∀ e ∈ ws, Joinless tenantId e.1

def lockCount (tenantId : Uuid) (ws : IdentityWrites) : Nat := ws.countP fun e => e.1 = .lockSeats tenantId

structure Locked (tenantId : Uuid) (n : Nat) (ws : IdentityWrites) : Prop where
  held : (.lockSeats tenantId, [.turn n]) ∈ ws
  once : lockCount tenantId ws = 1

/-- The lock is held, and as long as nobody else has had it there is room for `k` more. -/
def Reserved (tenantId : Uuid) (k : Nat) (ws : IdentityWrites) (v : IdentityDb) : Prop :=
  ∃ n, Locked tenantId n ws ∧ n + 1 ≤ v.seatTurn tenantId ∧ (v.seatTurn tenantId = n + 1 → Room tenantId k v)

theorem joinless_of_tenantId (h : w.tenantId ≠ tenantId) : Joinless tenantId w := by
  cases w with
  | lockSeats => exact ⟨fun heq => h (by cases heq; rfl), fun _ => rfl⟩
  | createUser | updateUser => exact ⟨by simp, fun _ => if_neg fun hand => h hand.1⟩
  | _ => exact ⟨by simp, fun _ => rfl⟩

theorem lockCount_append (ws ws' : IdentityWrites) :
    lockCount tenantId (ws ++ ws') = lockCount tenantId ws + lockCount tenantId ws' :=
  List.countP_append

theorem Unlocked.lockCount_eq (h : Unlocked tenantId ws) : lockCount tenantId ws = 0 :=
  List.countP_eq_zero.mpr fun e he => by simpa using (h e he).1

theorem Unlocked.concat (h : Unlocked tenantId ws) (hw : Joinless tenantId w)
    (rows : List IdentityRow) : Unlocked tenantId (ws ++ [(w, rows)]) := by
  intro e he
  rcases mem_snoc.mp he with he | rfl
  · exact h e he
  · exact hw

theorem Locked.concat (h : Locked tenantId n ws) (hw : w ≠ .lockSeats tenantId)
    (rows : List IdentityRow) : Locked tenantId n (ws ++ [(w, rows)]) := by
  refine ⟨List.mem_append_left _ h.held, ?_⟩
  rw [lockCount_append, h.once, lockCount, List.countP_eq_zero.mpr]
  simpa using hw

theorem applyAll_turn (tenantId : Uuid) (hdb : db.Keyed) (h : applyAll identityWrites ws db = .ok db') :
    db'.Keyed ∧ db'.seatTurn tenantId = db.seatTurn tenantId + lockCount tenantId ws ∧
      db'.seatCap tenantId = db.seatCap tenantId ∧ db'.now = db.now := by
  induction ws generalizing db with
  | nil =>
    cases h
    exact ⟨hdb, rfl, rfl, rfl⟩
  | cons e ws ih =>
    obtain ⟨w, rows⟩ := e
    obtain ⟨db₁, happly, hrest⟩ := applyAll_cons_ok.mp h
    have hmoves : w.Moves tenantId rows db db₁ := IdentityWrite.moves hdb happly
    obtain ⟨hkeyed, hturn, hcap, hnow⟩ := ih (IdentityWrite.keyed hdb happly) hrest
    refine ⟨hkeyed, ?_, hcap.trans hmoves.cap, hnow.trans hmoves.now⟩
    rw [hturn, hmoves.turn, lockCount, lockCount, List.countP_cons]
    simp only [decide_eq_true_eq]
    omega

/-- Where the writes of a transaction that holds the lock are applied, nobody has had it in between. -/
theorem Locked.turn (h : Locked tenantId n ws) (hdb : db.Keyed)
    (happly : applyAll identityWrites ws db = .ok db') : db'.seatTurn tenantId = n + 1 := by
  obtain ⟨pre, post, rfl⟩ := List.append_of_mem h.held
  have honce := h.once
  obtain ⟨db₁, hpre, hrest⟩ := applyAll_append_ok.mp happly
  obtain ⟨db₂, hlock, hpost⟩ := applyAll_cons_ok.mp hrest
  have hpostCount : lockCount tenantId post = 0 := by
    simp only [lockCount_append] at honce
    simp only [lockCount, List.countP_cons, decide_true, if_true] at honce ⊢
    omega
  obtain ⟨hkeyed₁, _, _, _⟩ := applyAll_turn tenantId hdb hpre
  have hrows : db₁.seatTurn tenantId = n := by
    have hanswer := (Prod.mk.inj (Except.ok.inj hlock)).1
    simpa using hanswer
  have hwrite : (IdentityWrite.lockSeats tenantId).apply db₁ = .ok ([.turn n], db₂) := hlock
  have hmoves : IdentityWrite.Moves tenantId _ _ db₁ db₂ := IdentityWrite.moves hkeyed₁ hwrite
  obtain ⟨_, hturn, _, _⟩ := applyAll_turn tenantId (IdentityWrite.keyed hkeyed₁ hwrite) hpost
  rw [hturn, hmoves.turn, hrows, hpostCount, if_pos rfl]

theorem Reserved.later (h : Reserved tenantId k ws v) (hlater : SeatsLater tenantId v v')
    (hv' : v'.Keyed) : Reserved tenantId k ws v' := by
  obtain ⟨n, hlocked, hturn, hroom⟩ := h
  refine ⟨n, hlocked, Nat.le_trans hturn hlater.turn, fun hsame => ?_⟩
  have hturn' : v.seatTurn tenantId = n + 1 := by
    have := hlater.turn
    omega
  exact (hroom hturn').later hv' hlater (hsame.trans hturn'.symm)

theorem Reserved.write (hv : v.Keyed) (hw : w ≠ .lockSeats tenantId) (happly : w.apply v = .ok (rows, v'))
    (h : Reserved tenantId (k + (w.joins tenantId rows).length + (w.dates tenantId rows).length) ws v) :
    Reserved tenantId k (if rows = [] then ws else ws ++ [(w, rows)]) v' := by
  obtain ⟨n, hlocked, hturn, hroom⟩ := h
  have hmoves : w.Moves tenantId rows v v' := IdentityWrite.moves hv happly
  have hsame : v'.seatTurn tenantId = v.seatTurn tenantId := by
    rw [hmoves.turn, if_neg hw, Nat.add_zero]
  refine ⟨n, ?_, hsame ▸ hturn, fun hturn' => ?_⟩
  · split
    · exact hlocked
    · exact hlocked.concat hw rows
  · exact Room.write (IdentityWrite.keyed hv happly) hmoves (hroom (hsame ▸ hturn'))

/-- The lock, and room for `k`; or no ceiling. -/
inductive Covered (tenantId : Uuid) (k : Nat) (ws : IdentityWrites) (v : IdentityDb) : Prop where
  | reserved (h : Reserved tenantId k ws v)
  | uncapped (h : v.seatCap tenantId = none)

theorem Covered.later (h : Covered tenantId k ws v) (hlater : SeatsLater tenantId v v')
    (hv' : v'.Keyed) : Covered tenantId k ws v' := by
  cases h with
  | reserved h => exact .reserved (h.later hlater hv')
  | uncapped h => exact .uncapped (hlater.uncapped h)

theorem Covered.write (hv : v.Keyed) (hw : w ≠ .lockSeats tenantId) (happly : w.apply v = .ok (rows, v'))
    (h : Covered tenantId (k + (w.joins tenantId rows).length + (w.dates tenantId rows).length) ws v) :
    Covered tenantId k (if rows = [] then ws else ws ++ [(w, rows)]) v' := by
  cases h with
  | reserved h => exact .reserved (h.write hv hw happly)
  | uncapped h =>
    have hmoves : w.Moves tenantId rows v v' := IdentityWrite.moves hv happly
    exact .uncapped (hmoves.cap.trans h)

/-- That, or no lock and no new member. -/
inductive Granted (tenantId : Uuid) (k : Nat) (ws : IdentityWrites) (v : IdentityDb) : Prop where
  | covered (h : Covered tenantId k ws v)
  | unlocked (h : Unlocked tenantId ws)

theorem Granted.later (h : Granted tenantId k ws v) (hlater : SeatsLater tenantId v v')
    (hv' : v'.Keyed) : Granted tenantId k ws v' := by
  cases h with
  | covered h => exact .covered (h.later hlater hv')
  | unlocked h => exact .unlocked h

theorem Granted.write (hv : v.Keyed) (hw : Joinless tenantId w) (happly : w.apply v = .ok (rows, v'))
    (h : Granted tenantId (k + (w.dates tenantId rows).length) ws v) :
    Granted tenantId k (if rows = [] then ws else ws ++ [(w, rows)]) v' := by
  cases h with
  | covered h =>
    refine .covered (.write hv hw.1 happly ?_)
    rw [hw.2 rows]
    exact h
  | unlocked h =>
    split
    · exact .unlocked h
    · exact .unlocked (h.concat hw rows)

theorem length_filterMap_outstanding (h : (invites.filter found).length ≤ 1) :
    (((invites.filter found).map IdentityRow.invite).filterMap IdentityRow.outstanding?).length ≤ 1 :=
  Nat.le_trans (List.length_filterMap_le _ _) (by rw [List.length_map]; exact h)

theorem seats_le_one (hv : v.Keyed) (happly : w.apply v = .ok (rows, v')) :
    (w.joins tenantId rows).length + (w.dates tenantId rows).length ≤ 1 := by
  cases w with
  | createUser | updateUser =>
    simp only [IdentityWrite.joins, IdentityWrite.dates, List.length_nil, Nat.add_zero]
    split <;> simp
  | upsertInvite values =>
    simp only [IdentityWrite.joins, IdentityWrite.dates, List.length_nil, Nat.zero_add]
    simp only [IdentityWrite.apply] at happly
    split at happly
    · rw [IdentityDb.issue_rows happly]
      split
      · apply length_filterMap_outstanding
        have hone := hv.outstanding.length_filter_le_one (values.tenantId, values.email)
        have hfound : (fun i : Invite => decide (i.liveEntry = some (values.tenantId, values.email))) =
            Invite.conflicts values.tenantId values.email := by
          funext i
          rw [Bool.eq_iff_iff, decide_eq_true_eq, Invite.conflicts_entry]
        rwa [hfound] at hone
      · simp
    · rw [(IdentityDb.insert_live tenantId happly 0 0).1]
      split <;> simp [IdentityRow.outstanding?]
  | rotateToken t inviteId =>
    simp only [IdentityWrite.joins, IdentityWrite.dates, List.length_nil, Nat.zero_add]
    rw [IdentityDb.issue_rows happly]
    split
    · apply length_filterMap_outstanding
      apply Nat.le_trans _ (hv.inviteId.length_filter_le_one inviteId)
      apply List.Sublist.length_le
      apply List.monotone_filter_right
      intro i hi
      simp only [Invite.named, decide_eq_true_eq] at hi
      simp [hi.2]
    · simp
  | _ => simp [IdentityWrite.joins, IdentityWrite.dates]

theorem Room.mono (h : Room tenantId k v) (hle : j ≤ k) : Room tenantId j v := by
  intro c hc
  have := h c hc
  omega

theorem Covered.mono (h : Covered tenantId k ws v) (hle : j ≤ k) : Covered tenantId j ws v := by
  cases h with
  | reserved h =>
    obtain ⟨n, hlocked, hturn, hroom⟩ := h
    exact .reserved ⟨n, hlocked, hturn, fun hsame => (hroom hsame).mono hle⟩
  | uncapped h => exact .uncapped h

theorem Granted.mono (h : Granted tenantId k ws v) (hle : j ≤ k) : Granted tenantId j ws v := by
  cases h with
  | covered h => exact .covered (h.mono hle)
  | unlocked h => exact .unlocked h

theorem Covered.spend (hv : v.Keyed)
    (hw : w ≠ .lockSeats tenantId) (happly : w.apply v = .ok (rows, v')) (h : Covered tenantId (k + 1) ws v) :
    Covered tenantId k (if rows = [] then ws else ws ++ [(w, rows)]) v' := by
  have hone : (w.joins tenantId rows).length + (w.dates tenantId rows).length ≤ 1 := seats_le_one hv happly
  apply Covered.write hv hw happly
  apply h.mono
  omega

theorem Granted.spend (hv : v.Keyed)
    (hw : Joinless tenantId w) (happly : w.apply v = .ok (rows, v')) (h : Granted tenantId (k + 1) ws v) :
    Granted tenantId k (if rows = [] then ws else ws ++ [(w, rows)]) v' := by
  have hone : (w.joins tenantId rows).length + (w.dates tenantId rows).length ≤ 1 := seats_le_one hv happly
  apply Granted.write hv hw happly
  apply h.mono
  omega

theorem granted_only {p : IdentityTx α} (hp : p.Only fun _ w => Seatless tenantId w) (h : Granted tenantId k ws v) :
    p.Tracks identityWrites (seating tenantId cond) (fun _ => Granted tenantId k) ws v := by
  refine Tx.Tracks.of_stable (fun _ _ _ h hlater hinv => h.later hlater hinv) ?_ hp h
  intro _ w rows ws v v' hw h hv happly
  apply Granted.write hv hw.1 happly
  rw [hw.2 rows]
  exact h

theorem covered_only {p : IdentityTx α} (hp : p.Only fun _ w => Seatless tenantId w) (h : Covered tenantId k ws v) :
    p.Tracks identityWrites (seating tenantId cond) (fun _ => Covered tenantId k) ws v := by
  refine Tx.Tracks.of_stable (fun _ _ _ h hlater hinv => h.later hlater hinv) ?_ hp h
  intro _ w rows ws v v' hw h hv happly
  apply Covered.write hv hw.1.1 happly
  rw [hw.1.2 rows, hw.2 rows]
  exact h

theorem unlocked_only (hQ : ∀ tag w, Q tag w → Joinless tenantId w)
    {p : IdentityTx α} (hp : p.Only Q) (h : Unlocked tenantId ws) :
    p.Tracks identityWrites (seating tenantId cond) (fun _ ws _ => Unlocked tenantId ws) ws v := by
  refine Tx.Tracks.of_stable (K := fun ws _ => Unlocked tenantId ws) (fun _ _ _ h _ _ => h) ?_ hp h
  intro tag w rows ws _ _ hw h _ _
  split
  · exact h
  · exact h.concat (hQ tag w hw) rows

end Holding

section Transactions

open Identity

variable {tenantId : Uuid} {cond : IdentityStmt → IdentityDb → Prop}

/-- The check under the lock: where it passes there is room for one more. -/
theorem assertBelow_covered {ws : IdentityWrites} {v : IdentityDb} (hws : Unlocked tenantId ws)
    (hcap : v.seatCap tenantId = some cap) :
    (assertBelow tenantId cap).Tracks identityWrites (seating tenantId cond) (fun _ => Covered tenantId 1) ws v := by
  simp only [assertBelow, countSeatsHeld, Tx.bind_def, Tx.bind_query, Tx.bind_execute, Tx.bind, Tx.pure_def]
  intro v₁ rows v₂ hv₁ _ hlock v₃ hv₃ hinv₃ v₄ hv₄ _ v₅ hv₅ hinv₅
  cases hlock
  rw [if_neg (by simp)]
  dsimp only
  split
  · trivial
  rename_i hbelow
  refine .reserved ⟨v₁.seatTurn tenantId, ⟨List.mem_concat_self, ?_⟩, ?_, ?_⟩
  · rw [lockCount_append, hws.lockCount_eq]
    simp [lockCount]
  · have hturn₂ : ({ v₁ with seatTurns := tenantId :: v₁.seatTurns } : IdentityDb).seatTurn tenantId =
        v₁.seatTurn tenantId + 1 := List.count_cons_self
    have := hv₃.turn
    have := hv₄.turn
    have := hv₅.turn
    omega
  · intro hturn c hc
    have hturn₂ : ({ v₁ with seatTurns := tenantId :: v₁.seatTurns } : IdentityDb).seatTurn tenantId =
        v₁.seatTurn tenantId + 1 := List.count_cons_self
    have hlater := (hv₄.trans hv₅)
    -- nobody has had the lock since, so the members that were counted are still all of them
    have hsame : v₅.seatTurn tenantId = v₃.seatTurn tenantId := by
      have := hv₃.turn
      have := hlater.turn
      omega
    have hcapped : v₅.seatCap tenantId ≠ none := fun hnone => by rw [Option.mem_def, hnone] at hc; cases hc
    have hmembers := hinv₅.nodup_members.length_le_of_subset (hlater.held hsame hcapped).1
    have hlive : v₅.liveInvites tenantId v₅.now ⊆ v₅.liveInvites tenantId v₄.now := by
      intro id hid
      obtain ⟨i, hi, heq⟩ := List.mem_map.mp hid
      obtain ⟨hi, hmatch⟩ := List.mem_filter.mp hi
      simp only [decide_eq_true_eq, Invite.live] at hmatch
      refine List.mem_map.mpr ⟨i, List.mem_filter.mpr ⟨hi, ?_⟩, heq⟩
      have hnow := Int.lt_of_le_of_lt hv₅.now hmatch.2.2
      simp [Invite.live, hmatch.1, hmatch.2.1, hnow]
    have hpending := (hinv₅.nodup_live v₅.now).length_le_of_subset hlive
    obtain ⟨c₂, hc₂, hle⟩ := (hv₃.trans hlater).cap c hc
    obtain ⟨c₀, hc₀, hle'⟩ := hv₁.cap c₂ hc₂
    rw [hcap] at hc₀
    cases hc₀
    omega

theorem assertSeatAvailable_covered {ws : IdentityWrites} {v : IdentityDb} (hws : Unlocked tenantId ws) :
    (assertSeatAvailable tenantId).Tracks identityWrites (seating tenantId cond) (fun _ => Covered tenantId 1) ws v := by
  simp only [assertSeatAvailable, Tx.bind_def, Tx.bind_query, Tx.pure_def]
  intro v₁ _ _
  dsimp only
  split
  · rename_i hcap
    exact Covered.uncapped hcap
  · rename_i cap hcap
    exact assertBelow_covered hws hcap

variable {userId : Uuid}

theorem seatless_createUser :
    Seatless tenantId (.createUser { id := userId, tenantId := t, email, name, role, status := .invited }) :=
  ⟨⟨by simp, fun _ => if_neg fun hand => by cases hand.2⟩, fun _ => rfl⟩

theorem seatless_updateUser (h : data.status.any (·.occupiesSeat) = false) :
    Seatless tenantId (.updateUser t userId data) :=
  ⟨⟨by simp, fun _ => if_neg fun hand => by rw [h] at hand; cases hand.2.1⟩, fun _ => rfl⟩

theorem unlocked_nil : Unlocked tenantId [] := fun _ he => by cases he

theorem upsertInvite_granted {ws : IdentityWrites} {v : IdentityDb} (h : Granted tenantId (k + 1) ws v) :
    (upsertInvite values).Tracks identityWrites (seating tenantId cond) (fun _ => Granted tenantId k) ws v := by
  simp only [upsertInvite, Tx.bind_def, Tx.bind_execute, Tx.pure_def]
  intro v₁ rows v₂ hv₁ hinv₁ happly
  have hwrite : (IdentityWrite.upsertInvite values).apply v₁ = .ok (rows, v₂) := happly
  have hspent := (h.later hv₁ hinv₁).spend hinv₁ ⟨by simp, fun _ => rfl⟩ hwrite
  generalize (if rows = [] then _ else _) = ws' at hspent ⊢
  dsimp only
  split
  · exact hspent
  · exact hspent
  · trivial

theorem createTransaction_granted (input : InviteCreateInput) (tokenHash : String) (expiresAt : Millis)
    (inviteId userId : Uuid) (v : IdentityDb) :
    (createTransaction tenantId input tokenHash expiresAt inviteId userId).Tracks identityWrites
      (seating tenantId cond) (fun _ => Granted tenantId 0) [] v := by
  have hnone : ∀ tag w, (fun (_ : IdentityStmt) (_ : IdentityWrite) => False) tag w → Joinless tenantId w :=
    fun _ _ h => h.elim
  refine (unlocked_only hnone (assertTeamsExist_only _ _) unlocked_nil).bind fun _ ws v hws => ?_
  refine Tx.Tracks.bind (P := fun _ => Granted tenantId 1) ?_ fun _ ws v hws => ?_
  · refine (unlocked_only hnone (hasLiveInvite_only _ _) hws).bind fun live ws v hws => ?_
    split
    · exact .unlocked hws
    · exact (assertSeatAvailable_covered hws).mono fun _ _ _ h => .covered h
  · refine (granted_only (reserveAccount_only seatless_createUser fun _ => seatless_updateUser rfl) hws).bind
      fun _ ws v hws => ?_
    refine (upsertInvite_granted hws).bind fun created ws v hws => ?_
    refine (granted_only (replacePendingTeams_only ?_ ?_) hws).bind fun _ _ _ h => h
    · exact ⟨⟨by simp, fun _ => rfl⟩, fun _ => rfl⟩
    · exact ⟨⟨by simp, fun _ => rfl⟩, fun _ => rfl⟩

theorem covered_execute (hw : w ≠ .lockSeats tenantId)
    {ws : IdentityWrites} {v : IdentityDb} (h : Covered tenantId (k + 1) ws v) :
    (Tx.execute tag w : IdentityTx (List IdentityRow)).Tracks identityWrites (seating tenantId cond)
      (fun _ => Covered tenantId k) ws v := by
  intro v₁ rows v₂ hv₁ hinv₁ happly
  exact (h.later hv₁ hinv₁).spend hinv₁ hw happly

theorem createAccount_covered {ws : IdentityWrites} {v : IdentityDb} (h : Covered tenantId (k + 1) ws v) :
    (createAccount user).Tracks identityWrites (seating tenantId cond) (fun _ => Covered tenantId k) ws v := by
  exact (covered_execute (by simp) h).bind fun _ _ _ h' => h'

theorem writeAccount_covered {ws : IdentityWrites} {v : IdentityDb} (h : Covered tenantId (k + 1) ws v) :
    (writeAccount t userId data).Tracks identityWrites (seating tenantId cond) (fun _ => Covered tenantId k) ws v := by
  refine (covered_execute (by simp) h).bind fun rows ws' v' h' => ?_
  split
  · trivial
  · exact h'

theorem activateAccount_covered {ws : IdentityWrites} {v : IdentityDb} (h : Covered tenantId (k + 1) ws v) :
    (activateAccount tenantId userId invite displayName).Tracks identityWrites (seating tenantId cond)
      (fun _ => Covered tenantId k) ws v := by
  simp only [activateAccount, Tx.bind_def, Tx.bind_query, Tx.pure_def]
  intro v₁ hv₁ hinv₁
  have h₁ := h.later hv₁ hinv₁
  dsimp only
  split
  · exact (createAccount_covered h₁).bind fun _ _ _ h' => h'
  · split
    · trivial
    · exact (writeAccount_covered h₁).bind fun _ _ _ h' => h'

theorem acceptTransaction_granted (tokenHash displayName : String) (userId : Uuid) (v : IdentityDb) :
    (acceptTransaction tenantId tokenHash displayName userId).Tracks identityWrites (seating tenantId cond)
      (fun _ => Granted tenantId 0) [] v := by
  intro v₁ _ _
  have hredeem : (Tx.execute .write (.redeemInvite tenantId tokenHash v₁.now) : IdentityTx (List IdentityRow)).Only
      fun _ w => Joinless tenantId w := only_execute ⟨by simp, fun _ => rfl⟩
  refine (unlocked_only (fun _ _ h => h) hredeem unlocked_nil).bind fun rows ws v hws => ?_
  split
  · refine (assertSeatAvailable_covered hws).bind fun _ ws v hws => ?_
    refine (activateAccount_covered hws).bind fun accountId ws v hws => ?_
    refine (covered_only (joinPendingTeams_only fun _ => ?_) hws).bind fun _ _ _ h => .covered h
    exact ⟨⟨by simp, fun _ => rfl⟩, fun _ => rfl⟩
  · exact fun _ _ _ => trivial

theorem resendTransaction_unlocked (t inviteId : Uuid) (tokenHash : String) (expiresAt : Millis) (v : IdentityDb) :
    (resendTransaction t inviteId tokenHash expiresAt).Tracks identityWrites (seating tenantId cond)
      (fun _ => Granted tenantId 0) [] v := by
  have honly : (resendTransaction t inviteId tokenHash expiresAt).Only fun _ w => Joinless tenantId w :=
    resendTransaction_only fun _ => ⟨by simp, fun _ => rfl⟩
  exact (unlocked_only (fun _ _ h => h) honly unlocked_nil).mono fun _ _ _ h => .unlocked h

theorem revokeTransaction_unlocked (t inviteId : Uuid) (v : IdentityDb) :
    (revokeTransaction t inviteId).Tracks identityWrites (seating tenantId cond) (fun _ => Granted tenantId 0) [] v := by
  have honly : (revokeTransaction t inviteId).Only fun _ w => Joinless tenantId w :=
    revokeTransaction_only fun _ _ => ⟨by simp, fun _ => rfl⟩
  exact (unlocked_only (fun _ _ h => h) honly unlocked_nil).mono fun _ _ _ h => .unlocked h

theorem granted_elsewhere (ht : t ≠ tenantId) {p : IdentityTx α} (hp : p.Only (KeepsInvites t)) (v : IdentityDb) :
    p.Tracks identityWrites (seating tenantId cond) (fun _ => Granted tenantId 0) [] v := by
  have hjoinless : ∀ tag w, KeepsInvites t tag w → Joinless tenantId w :=
    fun _ w h => joinless_of_tenantId (h.1.symm ▸ ht)
  exact (unlocked_only hjoinless hp unlocked_nil).mono fun _ _ _ h => .unlocked h

/-- A new expiry for an invitation that has not lapsed gives nobody a seat who does not hold it. -/
theorem dates_live {v : IdentityDb} (happly : w.apply v = .ok (rows, v'))
    (hrows : w.tenantId = tenantId → w.isDating = true → ∀ row ∈ rows, row.inDate v.now = true) :
    w.dates tenantId rows ⊆ v.liveInvites tenantId v.now := by
  have hfound : ∀ {found : Invite → Bool}, (∀ i, found i = true → i.tenantId = tenantId) →
      rows = (v.invites.filter found).map .invite → (∀ row ∈ rows, row.inDate v.now = true) →
        rows.filterMap IdentityRow.outstanding? ⊆ v.liveInvites tenantId v.now := by
    intro found htenant heq hdate id hid
    rw [heq] at hid
    obtain ⟨i, hi, hout, rfl⟩ := mem_outstanding.mp hid
    obtain ⟨hmem, hmatch⟩ := List.mem_filter.mp hi
    have hnow := hdate (.invite i) (heq ▸ List.mem_map_of_mem hi)
    simp only [IdentityRow.inDate, hout, Bool.not_true, Bool.false_or, decide_eq_true_eq] at hnow
    refine List.mem_map.mpr ⟨i, List.mem_filter.mpr ⟨hmem, ?_⟩, rfl⟩
    simp [Invite.live, hout, hnow, htenant i hmatch]
  cases w with
  | upsertInvite values =>
    simp only [IdentityWrite.dates]
    split
    · rename_i ht
      have hdate := hrows ht rfl
      simp only [IdentityWrite.apply] at happly
      split at happly
      · refine hfound (fun i hi => ?_) (IdentityDb.issue_rows happly) hdate
        exact (of_decide_eq_true hi).1.trans ht
      · rw [(IdentityDb.insert_live tenantId happly 0 0).1] at hdate
        cases hdate _ (List.mem_singleton_self _)
    · exact fun _ h => by cases h
  | rotateToken t inviteId tokenHash expiresAt =>
    simp only [IdentityWrite.dates]
    split
    · rename_i ht
      refine hfound (fun i hi => ?_) (IdentityDb.issue_rows happly) (hrows ht rfl)
      exact (of_decide_eq_true hi).1.trans ht
    · exact fun _ h => by cases h
  | _ => exact fun _ h => by cases h

theorem unlocked_commit {ws : IdentityWrites} {db db' : IdentityDb} (hdb : db.Keyed) (hws : Unlocked tenantId ws)
    (hdate : ∀ e ∈ ws, e.1.tenantId = tenantId → e.1.isDating = true → ∀ row ∈ e.2, row.inDate db.now = true)
    (happly : applyAll identityWrites ws db = .ok db') : SeatsLater tenantId db db' := by
  have hkept : db'.Keyed ∧ db'.now = db.now ∧ SeatsLater tenantId db db' := by
    refine applyAll_induct (K := fun v => v.Keyed ∧ v.now = db.now ∧ SeatsLater tenantId db v)
      (Q := fun w rows => Joinless tenantId w ∧
        (w.tenantId = tenantId → w.isDating = true → ∀ row ∈ rows, row.inDate db.now = true))
      ?_ (fun e he => ⟨hws e he, hdate e he⟩) ⟨hdb, rfl, .refl db⟩ happly
    rintro w rows v v' ⟨hw, hrows⟩ ⟨hv, hnow, hlater⟩ happly
    have hmoves : w.Moves tenantId rows v v' := IdentityWrite.moves hv happly
    rw [← hnow] at hrows
    have hlive := dates_live happly hrows
    refine ⟨IdentityWrite.keyed hv happly, hmoves.now.trans hnow, hlater.trans ⟨?_, ?_, ?_, fun _ _ => ⟨?_, ?_⟩⟩⟩
    · rw [hmoves.turn]
      exact Nat.le_add_right _ _
    · exact Int.le_of_eq hmoves.now.symm
    · rw [hmoves.cap]
      exact fun c hc => ⟨c, hc, Nat.le_refl c⟩
    · intro id hid
      rcases (hmoves.members id).mp hid with hid | hid
      · rw [hw.2 rows] at hid
        cases hid
      · exact hid.1
    · intro id hid
      rw [hmoves.now] at hid
      rcases (hmoves.live id v.now).mp hid with hid | hid
      · exact hlive hid.1
      · exact hid.1
  exact hkept.2.2

theorem granted_commit {ws : IdentityWrites} {v db db' : IdentityDb} (hws : Granted tenantId 0 ws v) (hdb : db.Keyed)
    (hcond : seatsInTurn tenantId (.commit ws) db) (happly : applyAll identityWrites ws db = .ok db')
    (hlater : SeatsLater tenantId v db') :
    (db'.Keyed ∧ SeatsLater tenantId db db') ∧ (Room tenantId 0 db → Room tenantId 0 db') := by
  obtain ⟨hdb', hturn, hcap, hnow⟩ := applyAll_turn tenantId hdb happly
  -- where the turns do not stay, or there is no ceiling, nothing is asked for of the seats
  have hmoved : (db'.seatTurn tenantId = db.seatTurn tenantId → db'.seatCap tenantId = none) →
      SeatsLater tenantId db db' := by
    intro hfree
    refine ⟨?_, ?_, ?_, fun hsame hcapped => absurd (hfree hsame) hcapped⟩
    · rw [hturn]
      exact Nat.le_add_right _ _
    · exact Int.le_of_eq hnow.symm
    · rw [hcap]
      exact fun c hc => ⟨c, hc, Nat.le_refl c⟩
  have huncapped : db'.seatCap tenantId = none →
      (db'.Keyed ∧ SeatsLater tenantId db db') ∧ (Room tenantId 0 db → Room tenantId 0 db') := by
    intro hnone
    refine ⟨⟨hdb', hmoved fun _ => hnone⟩, fun _ c hc => ?_⟩
    rw [Option.mem_def, hnone] at hc
    cases hc
  cases hws with
  | covered hcovered =>
    cases hcovered with
    | reserved hreserved =>
      obtain ⟨n, hlocked, hle, hroom⟩ := hreserved
      have hturn' := hlocked.turn hdb happly
      have hv : v.seatTurn tenantId = n + 1 := by
        have := hlater.turn
        omega
      refine ⟨⟨hdb', hmoved fun hsame => ?_⟩, fun _ => ?_⟩
      · rw [hturn, hlocked.once] at hsame
        omega
      · exact (hroom hv).later hdb' hlater (hturn'.trans hv.symm)
    | uncapped hnone => exact huncapped (hlater.uncapped hnone)
  | unlocked hunlocked =>
    rcases hcond with hnone | hlock | hdate
    · exact huncapped (hcap.trans hnone)
    · obtain ⟨e, he, heq⟩ := List.mem_map.mp hlock
      exact absurd heq (hunlocked e he).1
    · have hfree := unlocked_commit hdb hunlocked hdate happly
      refine ⟨⟨hdb', hfree⟩, fun hroom => hroom.later hdb' hfree ?_⟩
      rw [hturn, hunlocked.lockCount_eq, Nat.add_zero]

end Transactions

section People

variable {tenantId : Uuid}

def Departures (tenantId : Uuid) (users users' : List User) : Prop :=
  List.Forall₂ (fun u u' => u'.id = u.id ∧ u'.tenantId = u.tenantId ∧
    (u.tenantId = tenantId → u'.occupiesSeat = true → u.occupiesSeat = true)) users users'

namespace Departures

theorem refl (users : List User) : Departures tenantId users users :=
  List.forall₂_same.mpr fun _ _ => ⟨rfl, rfl, fun _ h => h⟩

theorem trans (h : Departures tenantId a b) (h' : Departures tenantId b c) : Departures tenantId a c := by
  induction h generalizing c with
  | nil => exact h'
  | cons hrow _ ih =>
    cases h' with
    | cons hrow' hrest =>
      refine .cons ⟨hrow'.1.trans hrow.1, hrow'.2.1.trans hrow.2.1, fun ht hocc => ?_⟩ (ih hrest)
      exact hrow.2.2 ht (hrow'.2.2 (hrow.2.1.trans ht) hocc)

theorem updateWhere {users : List User}
    (h : ∀ u ∈ users, found u = true → u.tenantId = tenantId → (data.write u).occupiesSeat = true →
      u.occupiesSeat = true) : Departures tenantId users (updateWhere found data.write users) := by
  apply List.forall₂_map_right_iff.mpr
  apply List.forall₂_same.mpr
  intro u hu
  cases hfound : found u with
  | false => exact ⟨rfl, rfl, fun _ h => h⟩
  | true => exact ⟨rfl, rfl, h u hu hfound⟩

variable {users : List User}

theorem map_id (h : Departures tenantId users users') : users'.map (·.id) = users.map (·.id) := by
  induction h with
  | nil => rfl
  | cons hrow _ ih => rw [List.map_cons, List.map_cons, ih, hrow.1]

theorem members (h : Departures tenantId users users') :
    (users'.filter fun u => u.tenantId = tenantId ∧ u.occupiesSeat = true).map (·.id) ⊆
      (users.filter fun u => u.tenantId = tenantId ∧ u.occupiesSeat = true).map (·.id) := by
  induction h with
  | nil => exact fun _ h => h
  | @cons u u' rest rest' hrow _ ih =>
    intro id hid
    obtain ⟨x, hx, rfl⟩ := List.mem_map.mp hid
    obtain ⟨hx, hmatch⟩ := List.mem_filter.mp hx
    simp only [decide_eq_true_eq] at hmatch
    rcases List.mem_cons.mp hx with rfl | hx
    · have ht : u.tenantId = tenantId := hrow.2.1.symm.trans hmatch.1
      refine List.mem_map.mpr ⟨u, List.mem_filter.mpr ⟨List.mem_cons_self, ?_⟩, hrow.1.symm⟩
      simp [ht, hrow.2.2 ht hmatch.2]
    · have hrest := ih (List.mem_map_of_mem (List.mem_filter.mpr ⟨hx, by simp [hmatch.1, hmatch.2]⟩))
      rw [List.filter_cons]
      split
      · exact List.mem_cons_of_mem _ hrest
      · exact hrest

end Departures

theorem Withdrawals.outstanding (h : Withdrawals invites invites')
    (hunique : UniqueBy Invite.liveEntry invites) : UniqueBy Invite.liveEntry invites' := by
  have hentry : ∀ {i i' : Invite}, (i' = i ∨ i.outstanding = true ∧ ∃ now, i' = { i with revokedAt := some now }) →
      i'.liveEntry ≠ none → i'.liveEntry = i.liveEntry := by
    rintro i i' (rfl | ⟨_, now, rfl⟩) hsome
    · rfl
    · simp [Invite.liveEntry, Invite.outstanding] at hsome
  induction h with
  | nil => exact .nil
  | cons hrow hrest ih =>
    obtain ⟨hfirst, hpairs⟩ := List.pairwise_cons.mp hunique
    refine List.pairwise_cons.mpr ⟨fun b' hb' hclash => ?_, ih hpairs⟩
    obtain ⟨b, hb, hrow'⟩ := Withdrawals.row_before hrest hb'
    have ha := hentry hrow hclash.1
    have hb'' := hentry hrow' (hclash.2 ▸ hclash.1)
    exact hfirst b hb ⟨ha ▸ hclash.1, ha.symm.trans (hclash.2.trans hb'')⟩

theorem Withdrawals.live (h : Withdrawals invites invites') (hnow : now ≤ now') :
    (invites'.filter fun i => i.tenantId = tenantId ∧ i.live now' = true).map (·.id) ⊆
      (invites.filter fun i => i.tenantId = tenantId ∧ i.live now = true).map (·.id) := by
  intro id hid
  obtain ⟨i', hi', rfl⟩ := List.mem_map.mp hid
  obtain ⟨hi', hmatch⟩ := List.mem_filter.mp hi'
  simp only [decide_eq_true_eq, Invite.live] at hmatch
  obtain ⟨i, hi, rfl | ⟨_, at_, rfl⟩⟩ := h.row_before hi'
  · refine List.mem_map.mpr ⟨i', List.mem_filter.mpr ⟨hi, ?_⟩, rfl⟩
    have hlive := Int.lt_of_le_of_lt hnow hmatch.2.2
    simp [Invite.live, hmatch.1, hmatch.2.1, hlive]
  · simp [Invite.outstanding] at hmatch

def staysSeated (tenantId : Uuid) (tag : PeopleStmt) (db : PeopleDb) : Prop :=
  seatsInTurn tenantId (.people tag) { people := db }

def departing (tenantId : Uuid) : Rely PeopleStmt PeopleDb where
  inv db := db.base.Indexed
  later _ _ := True
  cond := staysSeated tenantId
  effect _ db db' := PeopleMove db db' ∧ Departures tenantId db.base.users db'.base.users

theorem departing_sound (tenantId : Uuid) : (departing tenantId).Sound where
  refl _ := trivial
  trans _ _ := trivial
  keeps _ _ h := ⟨h.1.indexed, trivial⟩

def Seated (tenantId : Uuid) (w : PeopleWrite) (rows : List PeopleRow) : Prop :=
  ∀ t userId data, w = .updateUser t userId data → t = tenantId → data.status.any (·.occupiesSeat) = true →
    ∀ u, .user u ∈ rows → u.occupiesSeat = true

abbrev AllSeated (tenantId : Uuid) (ws : HeldWrites) : Prop := ∀ e ∈ ws, Seated tenantId e.1 e.2

theorem Seated.departures {w : PeopleWrite} {rows : List PeopleRow} {db db' : PeopleDb} (hw : Seated tenantId w rows)
    (h : w.apply db = .ok (rows, db')) : Departures tenantId db.base.users db'.base.users := by
  cases hwrite : w.isUserWrite with
  | false =>
    rw [apply_users hwrite h]
    exact .refl _
  | true =>
    cases w with
    | updateUser t userId data =>
      cases h
      refine .updateWhere fun u hu hfound ht hocc => ?_
      have hrow : PeopleRow.user u ∈ (db.base.users.filter (User.named t userId)).map PeopleRow.user :=
        List.mem_map_of_mem (List.mem_filter.mpr ⟨hu, hfound⟩)
      cases hstatus : data.status with
      | none => simpa [User.occupiesSeat, UserUpdateData.write, hstatus] using hocc
      | some =>
        have ht' : t = tenantId := (of_decide_eq_true hfound).1.symm.trans ht
        refine hw t userId data rfl ht' ?_ u hrow
        simpa [User.occupiesSeat, UserUpdateData.write, hstatus] using hocc
    | _ => cases hwrite

theorem adds_allSeated {tag : PeopleStmt} {w : PeopleWrite} (hw : w.isUserWrite = false) :
    Adds (staysSeated tenantId) (AllSeated tenantId) tag w := by
  refine .of_append fun ws rows hws e he => ?_
  rcases mem_snoc.mp he with he | rfl
  · exact hws e he
  · rintro t userId data rfl
    cases hw

theorem NoUserWrite.allSeated {ws : HeldWrites} (h : NoUserWrite ws) : AllSeated tenantId ws := by
  rintro e he t userId data heq
  have := h e he
  rw [heq] at this
  cases this

theorem writeUser_seated {before : User} {ws : HeldWrites} (hws : NoUserWrite ws) :
    (writeUser before.tenantId before data).Gathers peopleWrites (staysSeated tenantId)
      (fun _ => AllSeated tenantId) ws := by
  intro s v rows v' hcond hv happly
  have hseated : Seated tenantId (.updateUser before.tenantId before.id data) rows := by
    rintro t userId data' heq ht hocc u hu
    cases heq
    cases happly
    obtain ⟨u', hmem, heq⟩ := List.mem_map.mp hu
    cases heq
    obtain ⟨hmem, hnamed⟩ := List.mem_filter.mp hmem
    rw [applyAll_users hws hv] at hmem
    exact hcond ht hocc u hmem (ht ▸ hnamed)
  have hall : AllSeated tenantId (ws ++ [(.updateUser before.tenantId before.id data, rows)]) := by
    intro e he
    rcases mem_snoc.mp he with he | rfl
    · exact hws.allSeated e he
    · exact hseated
  cases rows with
  | nil => trivial
  | cons row =>
    cases row with
    | user => exact hall
    | _ => trivial

theorem updateTransaction_seated (t : Uuid) (principal : SessionPrincipal) (userId : Uuid) (input : UserUpdateInput) :
    (updateTransaction t principal userId input).Gathers peopleWrites (staysSeated tenantId)
      (fun _ => AllSeated tenantId) [] := by
  have hclear : ∀ tag w, w.isUserWrite = false → w.isTicketWrite = false →
      Adds (staysSeated tenantId) (AllSeated tenantId) tag w := fun _ _ hw _ => adds_allSeated hw
  have hunwritten : ∀ tag w, w.isUserWrite = false → w.isTicketWrite = false →
      Adds (staysSeated tenantId) NoUserWrite tag w := fun _ _ hw _ => adds_noUserWrite hw
  simp only [updateTransaction, Tx.bind_def, Tx.bind_query]
  intro s v _ _
  dsimp only
  cases hfound : v.findUser t userId with
  | none => trivial
  | some before =>
    rw [← findUser_tenantId hfound]
    dsimp only
    split
    · trivial
    refine (keepAnAdmin_keeps hunwritten _ _ _ [] (by simp [NoUserWrite])).bind fun _ ws hws => ?_
    refine (keeps_elim (assertTeamsExist_keeps before.tenantId) input.teamIds ws hws).bind fun _ ws hws => ?_
    refine (writeUser_seated hws).bind fun after ws hws => ?_
    refine (keeps_elim (replaceTeamMemberships_keeps hclear _ _) _ ws hws).bind fun _ ws hws => ?_
    exact (disarmOnSuspension_keeps hclear _ before input ws hws).bind fun _ _ hws => hws

theorem removeTransaction_seated (t userId : Uuid) :
    (removeTransaction t userId).Gathers peopleWrites (staysSeated tenantId) (fun _ => AllSeated tenantId) [] := by
  have hunwritten : ∀ tag w, w.isUserWrite = false → w.isTicketWrite = false →
      Adds (staysSeated tenantId) NoUserWrite tag w := fun _ _ hw _ => adds_noUserWrite hw
  simp only [removeTransaction, Tx.bind_def, Tx.bind_query]
  intro s v _ _
  dsimp only
  cases hfound : v.findUser t userId with
  | none => trivial
  | some =>
    rw [← findUser_tenantId hfound]
    dsimp only
    split
    · exact fun _ he => by cases he
    refine (keepAnAdmin_keeps hunwritten _ _ _ [] (by simp [NoUserWrite])).bind fun _ ws hws => ?_
    refine (clearReferences_keeps hunwritten _ _ (fun _ => adds_noUserWrite rfl) ws hws).bind fun _ ws hws => ?_
    refine (revokeInvites_keeps hunwritten _ _ ws hws).bind fun _ ws hws => ?_
    exact (writeUser_seated hws).bind fun _ _ hws => hws

theorem AllSeated.commit {ws : HeldWrites} {db db' : PeopleDb} (hdb : db.base.Indexed) (hws : AllSeated tenantId ws)
    (h : applyAll peopleWrites ws db = .ok db') :
    PeopleMove db db' ∧ Departures tenantId db.base.users db'.base.users := by
  refine ⟨.commit hdb h, ?_⟩
  exact applyAll_induct (K := fun v => Departures tenantId db.base.users v.base.users)
    (fun _ _ _ _ hw hv happly => hv.trans (hw.departures happly)) hws (.refl _) h

theorem peopleProgram_departs (tenantId : Uuid) (c : PeopleCall) (db : PeopleDb) :
    Prog.Guards (departing tenantId) db (peopleProgram c) :=
  peopleProgram_guards (P := AllSeated tenantId) (departing_sound tenantId) (fun _ h => h)
    (fun _ _ h _ => ⟨.refl h, .refl _⟩)
    (fun _ _ _ hdb _ h => ⟨.ticket hdb h, by rw [PeopleDb.withBase, h.users_eq]; exact .refl _⟩)
    (fun _ _ _ hdb hws h => AllSeated.commit hdb hws h) updateTransaction_seated removeTransaction_seated c db

end People

section Runs

variable {tenantId : Uuid}

theorem seatCap_entitle_other (ht : t ≠ tenantId) (seats : Option Nat) (db : IdentityDb) :
    (db.entitle t seats).seatCap tenantId = db.seatCap tenantId := by
  have hfilter : (db.seatLimits.filter (·.1 ≠ t)).find? (fun e => e.1 = tenantId) =
      db.seatLimits.find? fun e => e.1 = tenantId := by
    rw [List.find?_filter]
    congr 1
    funext e
    by_cases he : e.1 = tenantId
    · simp [he, ht.symm]
    · simp [he]
  simp only [IdentityDb.seatCap, IdentityDb.entitle, List.find?_append, hfilter]
  cases seats with
  | none => rfl
  | some => simp [ht]

theorem seatCap_entitle (seats : Option Nat) (db : IdentityDb) :
    (db.entitle tenantId seats).seatCap tenantId = limitOf seats := by
  have hnone : (db.seatLimits.filter (·.1 ≠ tenantId)).find? (fun e => e.1 = tenantId) = none := by
    rw [List.find?_eq_none]
    intro e he
    simpa using (List.mem_filter.mp he).2
  simp only [IdentityDb.seatCap, IdentityDb.entitle, List.find?_append, hnone]
  cases seats with
  | none => rfl
  | some => simp

theorem seating_calm {db db' : IdentityDb} {cond : IdentityStmt → IdentityDb → Prop}
    (hdb' : db'.Keyed) (hturn : db'.seatTurn tenantId = db.seatTurn tenantId) (hlater : SeatsLater tenantId db db') :
    (seating tenantId cond).effect tag db db' :=
  ⟨⟨hdb', hlater⟩, fun hroom => hroom.later hdb' hlater hturn⟩

theorem people_guards_seating (call : PeopleCall) (db : IdentityDb) :
    Prog.Guards (seating tenantId (seatsInTurn tenantId)) db
      ((peopleProgram call).zoom IdentityDb.people IdentityDb.withPeople .people) := by
  refine Prog.Guards.zoom (fun _ _ => rfl) (fun _ h => h.indexed) (fun _ _ _ => trivial) ?_ ?_ rfl
    (peopleProgram_departs tenantId call db.people)
  · intro tag s hcond
    cases tag <;> exact hcond
  · rintro tag s people hs ⟨hmove, husers⟩
    have hkeyed : (s.withPeople people).Keyed := {
      indexed := hmove.indexed
      userId := hs.userId.congr (by
        have hids := congrArg (List.map some) husers.map_id
        rw [List.map_map, List.map_map] at hids
        exact hids)
      inviteId := hs.inviteId.congr (hmove.invites.map_eq fun _ _ => rfl)
      outstanding := hmove.invites.outstanding hs.outstanding }
    exact seating_calm hkeyed rfl ⟨Nat.le_refl _, hmove.now, fun c hc => ⟨c, hc, Nat.le_refl c⟩,
      fun _ _ => ⟨husers.members, hmove.invites.live hmove.now⟩⟩

theorem transaction_guards_seating {p : IdentityTx α}
    (hp : ∀ v, p.Tracks identityWrites (seating tenantId (seatsInTurn tenantId)) (fun _ => Granted tenantId 0) [] v)
    (db : IdentityDb) : Prog.Guards (seating tenantId (seatsInTurn tenantId)) db (Identity.transaction p) := by
  have hsame : ∀ (tag : IdentityStmt) s, IdentityDb.Keyed s →
      (seating tenantId (seatsInTurn tenantId)).effect tag s s := fun _ s hs => seating_calm hs rfl (.refl s)
  have hbody : Prog.Ensures (seating tenantId (seatsInTurn tenantId)) (fun _ _ => True) db
      ((p.retag id).runAs identityWrites .commit []) := by
    refine Tx.Tracks.ensures (seating_sound _ _) (seatingWrites_steady _ _) hsame (fun _ => hsame _) (fun _ _ => trivial)
      ?_ (hp db) (Tx.Holds.nil db)
    intro a ws v s s' hws _ hs hcond happly hlater
    exact ⟨granted_commit hws hs hcond happly hlater, trivial⟩
  rw [Tx.retag_id] at hbody
  exact hbody.guards

theorem read_guards_seating
    (h : ∀ a db, Prog.Guards (seating tenantId (seatsInTurn tenantId)) db (next a)) (db : IdentityDb) :
    Prog.Guards (seating tenantId (seatsInTurn tenantId)) db ((Prog.read tag f).bind next) :=
  fun s _ hs _ => ⟨seating_calm hs rfl (.refl s), h (f s) s⟩

theorem identityProgram_seats (hashAuthToken : String → String) (c : IdentityCall) (db : IdentityDb) :
    Prog.Guards (seating tenantId (seatsInTurn tenantId)) db (identityProgram hashAuthToken c) := by
  have hL := seating_sound tenantId (seatsInTurn tenantId)
  cases c with
  | people call => exact (people_guards_seating call db).bind hL fun _ _ _ => trivial
  | create t =>
    refine Prog.Guards.bind hL ?_ fun _ _ _ => trivial
    simp only [Identity.create]
    split
    · trivial
    apply read_guards_seating fun now db => transaction_guards_seating (fun v => ?_) db
    by_cases ht : t = tenantId
    · subst ht
      exact createTransaction_granted _ _ _ _ _ v
    · exact granted_elsewhere ht (createTransaction_only _ _ _ _ _ _) v
  | resend =>
    refine Prog.Guards.bind hL ?_ fun _ _ _ => trivial
    exact read_guards_seating (fun _ => transaction_guards_seating (resendTransaction_unlocked _ _ _ _)) db
  | revoke =>
    refine Prog.Guards.bind hL ?_ fun _ _ _ => trivial
    exact transaction_guards_seating (revokeTransaction_unlocked _ _) db
  | accept t =>
    refine Prog.Guards.bind hL ?_ fun _ _ _ => trivial
    apply read_guards_seating fun found db => ?_
    dsimp only
    split
    · trivial
    apply transaction_guards_seating fun v => ?_
    by_cases ht : t = tenantId
    · subst ht
      exact acceptTransaction_granted _ _ _ v
    · exact granted_elsewhere ht (acceptTransaction_only _ _ _ _) v
  | entitle t seats =>
    intro s _ hs hcond
    have hkeyed : (s.entitle t seats).Keyed := ⟨hs.indexed, hs.userId, hs.inviteId, hs.outstanding⟩
    refine ⟨seating_calm hkeyed rfl ⟨Nat.le_refl _, Int.le_refl _, ?_, fun _ _ => ⟨fun _ h => h, fun _ h => h⟩⟩,
      trivial⟩
    intro c' hc'
    by_cases ht : t = tenantId
    · subst ht
      rw [seatCap_entitle] at hc'
      exact hcond rfl c' hc'
    · rw [seatCap_entitle_other ht] at hc'
      exact ⟨c', hc', Nat.le_refl c'⟩

end Runs

def oneSeat : IdentityDb :=
  { people := {
      base := {
        now := 100
        users := [{ id := 4, tenantId := 1, email := "ada", status := .invited },
          { id := 5, tenantId := 1, email := "bob", status := .invited }] } }
    seatLimits := [(1, 1)] }

def lapsedAda : IdentityDb :=
  { oneSeat with
    people := { oneSeat.people with
      invites := [{
        id := 7, tenantId := 1, email := "ada", role := .agent, tokenHash := "lapsed", expiresAt := 50,
        acceptedAt := none, revokedAt := none }] } }

theorem oneSeat_keyed : oneSeat.Keyed where
  indexed := ⟨.nil, .nil, .nil⟩
  userId := by decide
  inviteId := by decide
  outstanding := by decide

theorem lapsedAda_keyed : lapsedAda.Keyed where
  indexed := ⟨.nil, .nil, .nil⟩
  userId := by decide
  inviteId := by decide
  outstanding := by decide

def inviteAda : IdentityCall :=
  .create 1 (adminPrincipal 1) { email := "ada", role := .agent, teamIds := [] } "first" 7 4

def inviteBob : IdentityCall :=
  .create 1 (adminPrincipal 1) { email := "bob", role := .agent, teamIds := [] } "second" 8 5

def adaThenBob : List (Move IdentityCall) :=
  .spawn inviteBob :: List.replicate 4 (.step 0) ++ .spawn inviteAda :: List.replicate 15 (.step 1) ++
    .spawn (.accept 1 { token := "first", displayName := "Ada" } 9) :: List.replicate 13 (.step 2) ++
    List.replicate 5 (.step 0)

/-- Bob gets the seat that Ada's invitation held, and then she is sent another mail. -/
def bobThenAda : List (Move IdentityCall) :=
  [.spawn inviteBob, .spawn (.resend 1 7 "third")] ++ List.replicate 15 (.step 0) ++ List.replicate 4 (.step 1)

def seatRefused (s : IdentitySys) : Bool :=
  s.calls[0]?.any fun e =>
    match e.2.result? with
    | some (.created (.error (.seatLimitExceeded limit used))) => limit = 1 ∧ used = 1
    | _ => false

end WhatsappCrm
