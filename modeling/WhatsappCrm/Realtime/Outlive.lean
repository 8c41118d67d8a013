/-
Purpose: Whether a socket outlives its session.
-/
import WhatsappCrm.Lib.Credit
import WhatsappCrm.Realtime.SocketEffects

namespace WhatsappCrm.Realtime

open Interleaving Table
open Auth (AuthDb SessionRow UserRow UserKey Revoked)

variable (ticketHash : String)

def NoSocket (db : SocketDb) (sessions : List Nat) : Prop :=
  ∀ k ∈ db.sockets, k.principal.sessionId ∉ sessions

def Ended (db : SocketDb) (revoked : List Nat) : Prop := (∀ x ∈ revoked, x ∈ db.looked) ∧ NoSocket db revoked

variable {db : SocketDb} {revoked : List Nat} {a : AuthDb} {tenantId : Uuid} {key : UserKey} {κ ν : Type}

theorem Ended.later (h : Ended db revoked) (hlater : SocketLater db db') : Ended db' revoked := by
  obtain ⟨hlooked, hnone⟩ := h
  refine ⟨fun x hx => hlater.looked x (hlooked x hx), fun k hk hrevoked => ?_⟩
  exact hnone k (hlater.sockets k hk (hlooked _ hrevoked)) hrevoked

structure Remaining (db : SocketDb) (revoked : List Nat) (sockets : List Socket) : Prop where
  looked : ∀ x ∈ revoked, x ∈ db.looked
  dead : ∀ x ∈ revoked, Revoked db.auth x
  among : ∀ k ∈ db.sockets, k.principal.sessionId ∈ revoked → k ∈ sockets

theorem Remaining.later (h : Remaining db revoked sockets) (hlater : SocketLater db db') : Remaining db' revoked sockets where
  looked x hx := hlater.looked x (h.looked x hx)
  dead x hx := hlater.auth.revoked x (h.dead x hx)
  among k hk hrevoked := h.among k (hlater.sockets k hk (h.looked _ hrevoked)) hrevoked

theorem Remaining.skip (h : Remaining db revoked (socket :: sockets)) (hother : socket.principal.sessionId ∉ revoked) :
    Remaining db revoked sockets where
  looked := h.looked
  dead := h.dead
  among k hk hrevoked := by
    rcases List.mem_cons.mp (h.among k hk hrevoked) with rfl | hrest
    · exact absurd hrevoked hother
    · exact hrest

theorem Remaining.disconnect (h : Remaining db revoked (socket :: sockets)) (hup : db.adapterUp = true) :
    Remaining (db.disconnect socket) revoked sockets := by
  rw [SocketDb.disconnect, if_pos hup]
  refine ⟨h.looked, h.dead, fun k hk hrevoked => ?_⟩
  obtain ⟨hk, hne⟩ := List.mem_filter.mp hk
  exact (List.mem_cons.mp (h.among k hk hrevoked)).resolve_left (of_decide_eq_true hne)

def OfTenant (auth : AuthDb) (tenantId : Uuid) (sessionId : Nat) : Prop :=
  ∃ s ∈ auth.sessions, s.id = sessionId ∧ s.tenantId = tenantId

theorem OfTenant.later (h : OfTenant a tenantId sessionId)
    (hlater : AuthLater a a') : OfTenant a' tenantId sessionId := by
  obtain ⟨s, hs, hid, htenant⟩ := h
  obtain ⟨s', hs', hid', htenant', _⟩ := hlater.rows s hs
  exact ⟨s', hs', hid'.trans hid, htenant'.trans htenant⟩

theorem eq_of_session_id (ha : AuthSound a) (hs : s ∈ a.sessions) (hs' : s' ∈ a.sessions) (hid : s.id = s'.id) : s = s' :=
  ha.unique.eq_of_entry hs hs' rfl (congrArg some hid.symm)

theorem OfTenant.dead (hdb : db.Sound) (h : OfTenant db.auth tenantId sessionId) (hnone : db.resolveBySessionId tenantId sessionId = .ok none) :
    ¬ Live db.auth sessionId ∧ sessionId < db.auth.nextSession := by
  obtain ⟨s, hs, hid, htenant⟩ := h
  constructor
  · apply resolveBySessionId_none hnone
    intro s' hs' hid'
    rw [eq_of_session_id hdb.auth hs' hs (hid'.trans hid.symm)]
    exact htenant
  · exact hid ▸ hdb.auth.issued s hs

theorem recheckAll_ensures (hremaining : Remaining db revoked sockets)
    (htenant : ∀ k ∈ sockets, OfTenant db.auth tenantId k.principal.sessionId) :
    Prog.Ensures socketRely (fun _ s => Ended s revoked) db (recheckAll tenantId sockets) := by
  induction sockets generalizing db with
  | nil => exact ⟨hremaining.looked, fun k hk hrevoked => by cases hremaining.among k hk hrevoked⟩
  | cons socket sockets ih =>
    intro s hs hinv hcond
    have hserviceable : s.serviceable.contains tenantId = true := hcond
    have hremaining' := hremaining.later hs
    have htenant' : ∀ k ∈ socket :: sockets, OfTenant s.auth tenantId k.principal.sessionId :=
      fun k hk => (htenant k hk).later hs.auth
    refine ⟨.none _ s, ?_⟩
    cases hanswer : s.resolveBySessionId tenantId socket.principal.sessionId with
    | error =>
      rw [SocketDb.resolveBySessionId, if_pos hserviceable] at hanswer
      cases hanswer
    | ok found =>
      simp only [hanswer, Prog.bind_pure_left]
      cases found with
      | some =>
        -- A live socket of the user: not one of those sessions.
        refine ih (hremaining'.skip fun hrevoked => ?_) fun k hk => htenant' k (List.mem_cons_of_mem _ hk)
        rw [resolveBySessionId_revoked hserviceable (hremaining'.dead _ hrevoked)] at hanswer
        cases hanswer
      | none =>
        obtain ⟨hdead, hissued⟩ := (htenant' socket List.mem_cons_self).dead hinv hanswer
        intro s' hs' hinv' hup
        refine ⟨.disconnected socket s' fun hlive => hdead (hs'.auth.dead _ hissued hlive), ?_⟩
        apply ih ((hremaining'.later hs').disconnect hup)
        intro k hk
        obtain ⟨left, hframe⟩ := disconnect_frame s' socket
        rw [hframe]
        exact (htenant' k (List.mem_cons_of_mem _ hk)).later hs'.auth

structure RevokedOf (db : SocketDb) (key : UserKey) (revoked : List Nat) : Prop where
  dead : ∀ x ∈ revoked, Revoked db.auth x
  owner : ∀ x ∈ revoked, ∃ s ∈ db.auth.sessions, s.id = x ∧ s.userId = key.2
  user : key ∈ userKeys db.auth

theorem RevokedOf.later (h : RevokedOf db key revoked) (hlater : SocketLater db db') : RevokedOf db' key revoked where
  dead x hx := hlater.auth.revoked x (h.dead x hx)
  owner x hx := by
    obtain ⟨s, hs, hid, huser⟩ := h.owner x hx
    obtain ⟨s', hs', hid', _, huser'⟩ := hlater.auth.rows s hs
    exact ⟨s', hs', hid'.trans hid, huser'.trans huser⟩
  user := by
    rw [hlater.auth.users]
    exact h.user

theorem Agrees.ofTenant (ha : AuthSound a) (hkey : key ∈ userKeys a)
    (h : Agrees a principal) (huser : principal.userId = key.2) : OfTenant a key.1 principal.sessionId := by
  obtain ⟨s, hs, hid, htenant, huser'⟩ := h
  have howner := ha.people _ (ha.owned s hs) key hkey (huser'.trans huser)
  exact ⟨s, hs, hid, congrArg Prod.fst howner⟩

theorem onSessionsRevoked_ensures (h : RevokedOf db key revoked) :
    Prog.Ensures socketRely (fun _ s => Ended s revoked) db (onSessionsRevoked key revoked) := by
  intro s hs hinv hup
  have hadapter : s.adapterUp = true := hup
  have hrevoked := h.later hs
  refine ⟨.sought revoked s, ?_⟩
  simp only [SocketDb.fetchSockets, hadapter, if_true]
  apply recheckAll_ensures
  · refine ⟨fun x hx => List.mem_append_left _ hx, hrevoked.dead, fun k hk hx => ?_⟩
    obtain ⟨s₁, hs₁, hid₁, huser₁⟩ := hrevoked.owner _ hx
    obtain ⟨s₂, hs₂, hid₂, _, huser₂⟩ := hinv.sockets k hk
    have hsame := eq_of_session_id hinv.auth hs₁ hs₂ (hid₁.trans hid₂.symm)
    refine List.mem_filter.mpr ⟨hk, decide_eq_true ?_⟩
    rw [← huser₂, ← hsame]
    exact huser₁
  · intro k hk
    obtain ⟨hk, huser⟩ := List.mem_filter.mp hk
    exact (hinv.sockets k hk).ofTenant hinv.auth hrevoked.user (of_decide_eq_true huser)

theorem commitRevocation_kept (hdb : db.Sound) (key : UserKey) (found : List Nat) (suspends : Bool) :
    SocketEffect .commit db (db.commitRevocation key found suspends).2 := by
  have hrevoked := AuthKept.revoke hdb.auth (fun s => found.contains s.id && s.revokedAt.isNone) (by simp)
  cases suspends with
  | false => exact .moved _ db _ _ _ hrevoked
  | true => exact .moved _ db _ _ _ (hrevoked.trans (.suspend hrevoked.sound key))

theorem mem_commitRevocation {found : List Nat} (h : x ∈ (db.commitRevocation key found suspends).1) :
    ∃ s ∈ db.auth.sessions, s.id = x ∧ s.of key = true ∧ (found.contains s.id && s.revokedAt.isNone) = true := by
  simp only [SocketDb.commitRevocation, AuthDb.revoke, List.map_cons, List.map_nil, List.flatMap_cons, List.flatMap_nil,
    List.append_nil] at h
  obtain ⟨s, hs, rfl⟩ := List.mem_map.mp h
  obtain ⟨hs, hfound⟩ := List.mem_filter.mp hs
  rw [Bool.and_eq_true] at hfound
  exact ⟨s, hs, rfl, hfound.2, hfound.1⟩

theorem commitRevocation_revokes (hdb : db.Sound) (hkey : key ∈ userKeys db.auth)
    (found : List Nat) (suspends : Bool) :
    RevokedOf (db.commitRevocation key found suspends).2 key (db.commitRevocation key found suspends).1 := by
  have hkept := SocketEffect.kept hdb rfl (commitRevocation_kept hdb key found suspends)
  constructor
  · intro x hx
    obtain ⟨s, hs, rfl, _, hfound⟩ := mem_commitRevocation hx
    refine ⟨hdb.auth.issued s hs, fun s' hs' hid => ?_⟩
    obtain ⟨s₀, hs₀, ⟨_, rfl⟩ | ⟨hnot, rfl⟩⟩ := mem_updateWhere hs'
    · exact Option.some_ne_none _
    · rw [eq_of_session_id hdb.auth hs₀ hs hid, hfound] at hnot
      cases hnot
  · intro x hx
    obtain ⟨s, hs, rfl, hof, _⟩ := mem_commitRevocation hx
    obtain ⟨s', hs', hid, _, huser⟩ := hkept.auth.later.rows s hs
    simp only [SessionRow.of, Bool.and_eq_true, decide_eq_true_eq] at hof
    exact ⟨s', hs', hid, huser.trans hof.2⟩
  · rw [hkept.auth.later.users]
    exact hkey

theorem revoke_ensures (key : UserKey) (scope : RevocationScope) (suspends : Bool) (db : SocketDb) :
    Prog.Ensures socketRely (fun revoked s => Ended s revoked) db (revoke key scope suspends) := by
  intro s hs hinv _
  refine ⟨.none _ s, ?_⟩
  cases hfound : s.revocable key scope with
  | none =>
    simp only [hfound, Prog.bind_pure_left]
    exact ⟨by simp, by simp [NoSocket]⟩
  | some found =>
    simp only [hfound, Prog.bind_pure_left]
    have hkey : key ∈ userKeys s.auth := by
      simp only [SocketDb.revocable] at hfound
      split at hfound
      · rename_i hany
        obtain ⟨u, hu, his⟩ := List.any_eq_true.mp hany
        rw [← UserRow.is_iff_key.mp his]
        exact List.mem_map_of_mem hu
      · cases hfound
    intro s' hs' hinv' _
    have hkey' : key ∈ userKeys s'.auth := by
      rw [hs'.auth.users]
      exact hkey
    refine ⟨commitRevocation_kept hinv' key found suspends, ?_⟩
    have hrevokes := commitRevocation_revokes hinv' hkey' found suspends
    exact (onSessionsRevoked_ensures hrevokes).bind socketRely_sound fun _ _ _ hended => hended

theorem issue_guards (principal : Auth.SessionPrincipal) (ticketHash : String) (db : SocketDb) :
    Prog.Guards socketRely db (issue principal ticketHash) := by
  intro s _ _ _
  refine ⟨?_, trivial⟩
  simp only [SocketDb.put]
  split
  · split
    · exact .none _ s
    · exact .ticketed _ s _ _
  · exact .none _ s

theorem resolveBySessionId_agrees (h : db.resolveBySessionId tenantId sessionId = .ok (some principal)) :
    Agrees db.auth principal := by
  obtain ⟨s, hs, _, hprincipal⟩ := resolveBySessionId_some h
  obtain ⟨hid, htenant, huser⟩ := principalOf_eq_some hprincipal
  exact ⟨s, hs, hid.symm, htenant.symm, huser.symm⟩

theorem authenticate_guards (db : SocketDb) : Prog.Guards socketRely db (authenticate ticketHash) := by
  intro s _ _ _
  constructor
  · simp only [SocketDb.consume]
    split
    · exact .ticketed _ s _ s.issued
    · exact .none _ s
  · cases (s.consume ticketHash).1 with
    | none => trivial
    | some claims =>
      intro s₁ _ _ _
      refine ⟨.none _ s₁, ?_⟩
      cases hanswer : s₁.resolveBySessionId claims.tenantId claims.sessionId with
      | error =>
        simp only [hanswer, Prog.bind_pure_left]
        trivial
      | ok found =>
        simp only [hanswer, Prog.bind_pure_left]
        cases found with
        | none => trivial
        | some principal =>
          simp only
          split
          · trivial
          · intro s₂ hs₂ _ _
            have hagrees := (resolveBySessionId_agrees hanswer).later hs₂.auth
            exact ⟨.connected ticketHash principal s₂ hagrees, trivial⟩

def Leaves (_ : SocketCall) (reply : SocketReply) (db : SocketDb) : Prop :=
  match reply with
  | .revoked revoked => Ended db revoked
  | _ => True

theorem Leaves.later {call : SocketCall} {reply : SocketReply} (hlater : SocketLater db db')
    (h : Leaves call reply db) : Leaves call reply db' := by
  cases reply with
  | revoked => exact Ended.later h hlater
  | _ => trivial

theorem socketProgram_ensures (call : SocketCall) (db : SocketDb) :
    Prog.Ensures socketRely (Leaves call) db (socketProgram call) := by
  cases call with
  | issue principal ticketHash =>
    have hissue := Prog.Ensures.of_guards (issue_guards principal ticketHash db) (Q := fun _ _ => True) (by simp)
    exact hissue.bind socketRely_sound fun _ _ _ _ => trivial
  | handshake ticketHash =>
    have hhandshake := Prog.Ensures.of_guards (authenticate_guards ticketHash db) (Q := fun _ _ => True) (by simp)
    exact hhandshake.bind socketRely_sound fun _ _ _ _ => trivial
  | revoke key scope suspends =>
    exact (revoke_ensures key scope suspends db).bind socketRely_sound fun _ _ _ hended => hended
  | signIn key tokenHash password =>
    intro s _ hinv _
    exact ⟨.moved _ s _ _ _ (.signIn hinv.auth key tokenHash password), trivial⟩
  | request tenantId tokenHash =>
    intro s _ _ _
    refine ⟨.none _ s, ?_⟩
    cases hrow : s.auth.resolved tenantId tokenHash with
    | none =>
      simp only [hrow, Prog.bind_pure_left]
      trivial
    | some row =>
      simp only [hrow, Prog.bind_pure_left]
      intro s' _ hinv' hcond
      have hbefore : ∀ s₀ ∈ s'.auth.sessions, s₀.id = row.1.id → s'.auth.now < s₀.expiresAt := by
        have hall : s'.auth.sessions.all (fun s₀ => s₀.id ≠ row.1.id || s'.auth.now < s₀.expiresAt) = true := hcond
        intro s₀ hs₀ hid
        simpa [hid] using List.all_eq_true.mp hall s₀ hs₀
      exact ⟨.moved _ s' _ _ _ (.slide hinv'.auth hbefore), trivial⟩
  | activate key =>
    intro s _ hinv hcond
    have hnone : ∀ s₀ ∈ s.auth.sessions, s₀.of key = true → s₀.live s.auth.now = false := by
      have hall : s.auth.sessions.all (fun s₀ => !(s₀.of key && s₀.live s.auth.now)) = true := hcond
      intro s₀ hs₀ hof
      simpa [hof] using List.all_eq_true.mp hall s₀ hs₀
    exact ⟨.moved _ s _ _ _ (.activate hinv.auth hnone), trivial⟩
  | leave socketId => exact fun s _ _ _ => ⟨.parted socketId s, trivial⟩
  | advance milliseconds => exact fun s _ hinv _ => ⟨.moved _ s _ _ _ (.advance hinv.auth milliseconds), trivial⟩
  | operate serviceable adapterUp redisUp =>
    exact fun s _ hinv _ => ⟨.moved _ s _ _ _ (.redis hinv.auth redisUp), trivial⟩

def ticketLedger : Ledger SocketDb where
  granted db := db.issued.count ticketHash
  spent db := db.admitted.count ticketHash + (db.tickets.map (·.key)).count ticketHash

def Covered (db : SocketDb) : Prop :=
  ∀ ticketHash, db.admitted.count ticketHash + (db.tickets.map (·.key)).count ticketHash ≤ db.issued.count ticketHash

theorem count_put [DecidableEq κ] (s : Expiring.Store κ ν) (k x : κ) (v : ν) (deadline : Int) :
    ((Expiring.put s k v deadline).map (·.key)).count x ≤ (if k = x then 1 else 0) + (s.map (·.key)).count x := by
  have hsub : ((s.filter fun e => e.key ≠ k).map (·.key)).count x ≤ (s.map (·.key)).count x :=
    (List.filter_sublist.map _).count_le x
  simp only [Expiring.put, List.map_cons, List.count_cons, beq_iff_eq]
  omega

theorem count_erase [DecidableEq κ] (s : Expiring.Store κ ν) (p : κ → Bool) (x : κ) :
    ((Expiring.erase s p).map (·.key)).count x ≤ (s.map (·.key)).count x :=
  (List.filter_sublist.map _).count_le x

theorem count_erase_found [DecidableEq κ] {s : Expiring.Store κ ν} {now : Int} {k : κ}
    {e : Expiring.Entry κ ν} (h : Expiring.find s now k = some e) :
    ((Expiring.erase s (· = k)).map (·.key)).count k + 1 ≤ (s.map (·.key)).count k := by
  obtain ⟨he, hkey, _⟩ := Expiring.find_some h
  have hnone : ((Expiring.erase s (· = k)).map (·.key)).count k = 0 := by
    rw [List.count_eq_zero]
    intro hmem
    obtain ⟨e', he', hkey'⟩ := List.mem_map.mp hmem
    have hkept := (Expiring.mem_erase.mp he').2
    rw [hkey', decide_eq_true rfl] at hkept
    cases hkept
  rw [hnone, Nat.zero_add]
  exact List.count_pos_iff.mpr (List.mem_map.mpr ⟨e, he, hkey⟩)

abbrev LeavesTickets {α : Type} (ticketHash : String) (p : SocketProg α) : Prop :=
  p.Within (fun _ => True) fun _ s s' => (ticketLedger ticketHash).Idle s s'

theorem leavesTickets_stmt {α : Type} {ticketHash : String} {tag : SocketStmt} {act : SocketDb → α × SocketDb}
    (h : ∀ s, (act s).2.issued = s.issued ∧ (act s).2.admitted = s.admitted ∧ (act s).2.tickets = s.tickets) :
    LeavesTickets ticketHash (.stmt tag act) := by
  apply Prog.Within.stmt
  intro s _
  obtain ⟨hissued, hadmitted, htickets⟩ := h s
  simp [Ledger.Idle, ticketLedger, hissued, hadmitted, htickets]

theorem leavesTickets_read {α : Type} (tag : SocketStmt) (f : SocketDb → α) : LeavesTickets ticketHash (.read tag f) :=
  leavesTickets_stmt fun _ => ⟨rfl, rfl, rfl⟩

theorem recheckAll_leavesTickets (tenantId : Uuid) (sockets : List Socket) :
    LeavesTickets ticketHash (recheckAll tenantId sockets) := by
  induction sockets with
  | nil => trivial
  | cons socket sockets ih =>
    apply (leavesTickets_read _ _ _).bind
    intro answer
    cases answer with
    | error => trivial
    | ok found =>
      cases found with
      | some => exact ih
      | none =>
        refine Prog.Within.bind (leavesTickets_stmt fun s => ?_) fun _ => ih
        obtain ⟨left, hframe⟩ := disconnect_frame s socket
        rw [hframe]
        exact ⟨rfl, rfl, rfl⟩

theorem revoke_leavesTickets (key : UserKey) (scope : RevocationScope) (suspends : Bool) :
    LeavesTickets ticketHash (revoke key scope suspends) := by
  apply (leavesTickets_read _ _ _).bind
  intro found
  cases found with
  | none => trivial
  | some =>
    refine Prog.Within.bind (leavesTickets_stmt fun s => ⟨rfl, rfl, rfl⟩) fun revoked => ?_
    refine Prog.Within.bind (Prog.Within.bind (leavesTickets_stmt fun s => ⟨rfl, rfl, rfl⟩) ?_) fun _ => trivial
    intro sockets
    cases sockets with
    | none => trivial
    | some => exact recheckAll_leavesTickets _ _ _

theorem issue_affords (principal : Auth.SessionPrincipal) (other : String) :
    (issue principal other).Affords (fun _ => True) (ticketLedger ticketHash) 0 := by
  apply Prog.Affords.stmt
  intro s _
  refine ⟨0, ?_⟩
  simp only [SocketDb.put]
  split
  · split
    · exact (Ledger.Idle.refl s).settles 0
    · have hput := count_put s.tickets other ticketHash
        { userId := principal.userId, tenantId := principal.tenantId, role := principal.role,
          sessionId := principal.sessionId } (s.auth.now + realtimeTicketTtlMs)
      simp only [Ledger.Settles, ticketLedger, List.count_cons, beq_iff_eq]
      omega
  · exact (Ledger.Idle.refl s).settles 0

/-- A handshake spends the ticket before it connects, and connects once. -/
theorem authenticate_affords (other : String) :
    (authenticate other).Affords (fun _ => True) (ticketLedger ticketHash) 0 := by
  intro s _
  -- The credit of the ticket: what was taken out of the store.
  refine ⟨if other = ticketHash ∧ (s.consume other).1.isSome then 1 else 0, ?_, ?_⟩
  · by_cases hup : s.auth.redis.up = true
    · simp only [SocketDb.consume, hup, if_true]
      have herase := count_erase s.tickets (· = other) ticketHash
      split
      · rename_i hspent
        obtain ⟨rfl, hfound⟩ := hspent
        obtain ⟨e, he⟩ := Option.isSome_iff_exists.mp (by simpa using hfound)
        have htaken := count_erase_found he
        simp only [Ledger.Settles, ticketLedger]
        omega
      · simp only [Ledger.Settles, ticketLedger]
        omega
    · simp only [SocketDb.consume, hup]
      simpa using (Ledger.Idle.refl s).settles 0
  · cases hclaims : (s.consume other).1 with
    | none => trivial
    | some claims =>
      intro s₁ _
      refine ⟨_, (Ledger.Idle.refl s₁).settles _, ?_⟩
      cases hanswer : s₁.resolveBySessionId claims.tenantId claims.sessionId with
      | error =>
        simp only [hanswer, Prog.bind_pure_left]
        trivial
      | ok found =>
        simp only [hanswer, Prog.bind_pure_left]
        cases found with
        | none => trivial
        | some principal =>
          by_cases hother : principal.tenantId ≠ claims.tenantId ∨ principal.userId ≠ claims.userId
          · simp only [if_pos hother]
            trivial
          · simp only [if_neg hother]
            intro s₂ _
            refine ⟨0, ?_, trivial⟩
            simp only [Ledger.Settles, ticketLedger, SocketDb.connect, List.count_cons, beq_iff_eq,
              Option.isSome_some, and_true]
            omega

theorem socketProgram_affords (call : SocketCall) :
    (socketProgram call).Affords (fun _ => True) (ticketLedger ticketHash) 0 := by
  cases call with
  | issue principal other => exact (issue_affords ticketHash principal other).bind fun _ _ => trivial
  | handshake other => exact (authenticate_affords ticketHash other).bind fun _ _ => trivial
  | revoke key scope suspends =>
    exact (revoke_leavesTickets ticketHash key scope suspends).affords_bind fun _ => trivial
  | request =>
    apply (leavesTickets_read _ _ _).affords_bind
    intro row
    cases row with
    | none => trivial
    | some => exact (leavesTickets_stmt fun s => ⟨rfl, rfl, rfl⟩).affords 0
  | signIn | activate | leave | advance | operate => exact (leavesTickets_stmt fun s => ⟨rfl, rfl, rfl⟩).affords 0

theorem admitted_le_issued {cond : SocketSys → SocketCall → SocketStmt → Prop} (hdb : Covered db)
    (hs : Reachable socketProgram cond (.idle db) s) (ticketHash : String) :
    s.db.admitted.count ticketHash ≤ s.db.issued.count ticketHash := by
  have hsolvent := Reachable.solvent (socketProgram_affords ticketHash) (hdb ticketHash) (fun _ _ => trivial) hs
  have hspent := hsolvent.spent_le
  simp only [ticketLedger] at hspent
  omega

def revocationReaches (s : SocketSys) (_ : SocketCall) (tag : SocketStmt) : Prop := meetsRevocation s.db tag = true

def KeepsLive (db db' : SocketDb) : Prop :=
  ∀ k ∈ db.sockets, k ∉ db'.sockets → db'.left = k.id :: db.left ∨ ¬ Live db.auth k.principal.sessionId

theorem SocketEffect.keepsLive (heffect : SocketEffect tag db db') : KeepsLive db db' := by
  intro k hk hgone
  cases heffect with
  | disconnected socket _ hdead =>
    by_cases hsame : k = socket
    · exact .inr (hsame ▸ hdead)
    · rw [SocketDb.disconnect] at hgone
      split at hgone
      · exact absurd (List.mem_filter.mpr ⟨hk, decide_eq_true hsame⟩) hgone
      · exact absurd hk hgone
  | parted socketId =>
    by_cases hsame : k.id = socketId
    · exact .inl (by rw [hsame])
    · exact absurd (List.mem_filter.mpr ⟨hk, decide_eq_true hsame⟩) hgone
  | connected => exact absurd (List.mem_append_left _ hk) hgone
  | none | ticketed | sought | moved => exact absurd hk hgone

/-- In every run that meets the condition, a revocation that is over has left no socket of what it revoked, no socket
    of a live session is disconnected, and no ticket admits two sockets. -/
theorem no_socket_outlives_its_session {db : SocketDb} (hdb : db.Sound) (hcovered : Covered db) {s : SocketSys}
    (hs : Reachable socketProgram revocationReaches (.idle db) s) :
    (∀ call revoked, s.Finished call (.revoked revoked) → NoSocket s.db revoked) ∧
      (∀ s', Step socketProgram revocationReaches s s' → KeepsLive s.db s'.db) ∧
      ∀ ticketHash, s.db.admitted.count ticketHash ≤ s.db.issued.count ticketHash := by
  have hensured := Reachable.ensures socketRely_sound socketProgram_ensures (fun _ _ _ _ => Leaves.later)
    (fun _ _ _ hcond => hcond) hdb hs
  refine ⟨fun call revoked hfinished => ?_, fun s' hstep => ?_, admitted_le_issued hcovered hs⟩
  · have hended : Ended s.db revoked := hensured.calls _ hfinished
    exact hended.2
  · have hguarded : s.Guarded socketRely := ⟨hensured.inv, fun e he => (hensured.calls e he).guards⟩
    have hmoves := (hstep.guarded socketRely_sound (fun call db => (socketProgram_ensures call db).guards)
      (fun _ _ _ hcond => hcond) hguarded).2
    rcases hmoves with hsame | ⟨tag, _, heffect⟩
    · rw [hsame]
      exact fun k hk hgone => absurd hk hgone
    · exact heffect.keepsLive

def laptop : SessionRow where
  id := 0
  tenantId := 1
  userId := 1
  tokenHash := "laptop"
  expiresAt := 1000
  absoluteExpiresAt := 2000
  password := "correct horse"

def laptopDb : SocketDb where
  auth := { users := [Auth.ada], sessions := [laptop], nextSession := 1 }
  serviceable := [1]

theorem laptopDb_sound : laptopDb.Sound where
  auth := {
    unique := by decide
    issued := by decide
    cold := by simp [laptopDb]
    people := by simp [userKeys, laptopDb]
    owned := by simp [userKeys, laptopDb, laptop, Auth.ada] }
  sockets := by simp [laptopDb]

theorem laptopDb_covered : Covered laptopDb := by simp [Covered, laptopDb]

def asked : SocketCall := .issue (Auth.toPrincipal (laptop, Auth.ada) laptop.expiresAt) "ticket"

def loggedOut : SocketCall := .revoke (1, 1) (.all none) false

def connectedMoves : List (Move SocketCall) :=
  [.spawn asked, .step 0, .spawn (.handshake "ticket"), .step 1, .step 1, .step 1, .spawn loggedOut, .step 2, .step 2,
    .step 2, .step 2, .step 2]

theorem no_socket_outlives_its_session_logged_out : ∃ s : SocketSys, s.Finished loggedOut (.revoked [0]) ∧
    s.db.admitted = ["ticket"] ∧ NoSocket s.db [0] := by
  have hrun : (run socketProgram (fun s _ tag => meetsRevocation s.db tag) connectedMoves (.idle laptopDb)).map
      (fun s => (s.answer? 2, s.db.admitted)) =
        some (some (loggedOut, .revoked [0]), ["ticket"]) := by
    decide +kernel
  obtain ⟨s, hs, heq⟩ := Option.map_eq_some_iff.mp hrun
  obtain ⟨hanswer, hadmitted⟩ := Prod.mk.inj heq
  have hfinished := Sys.finished_of_answer? hanswer
  exact ⟨s, hfinished, hadmitted,
    (no_socket_outlives_its_session laptopDb_sound laptopDb_covered (reachable_of_run hs)).1 _ _ hfinished⟩

/-- The laptop has resolved its session when its user logs out everywhere, and connects afterwards. -/
def slowMoves : List (Move SocketCall) :=
  [.spawn asked, .step 0, .spawn (.handshake "ticket"), .step 1, .step 1, .spawn loggedOut, .step 2, .step 2, .step 2,
    .step 1]

/-- It does not hold in every run: a socket of the revoked session is connected when everything is over. -/
theorem socket_outlives_its_session : ∃ s : SocketSys, Reachable socketProgram anyStep (.idle laptopDb) s ∧
    (∀ e ∈ s.calls, e.2.result?.isSome = true) ∧ s.Finished loggedOut (.revoked [0]) ∧ ¬ NoSocket s.db [0] := by
  have hrun : (run socketProgram (fun _ _ _ => true) slowMoves (.idle laptopDb)).map
      (fun s => (s.calls.all (·.2.result?.isSome),
        s.answer? 2, s.db.sockets.map (·.principal.sessionId))) = some (true, some (loggedOut, .revoked [0]), [0]) := by
    decide +kernel
  obtain ⟨s, hreach, heq⟩ := ends_of_run_any hrun
  simp only [Prod.mk.injEq] at heq
  obtain ⟨hall, hanswer, hsockets⟩ := heq
  have hfinished := Sys.finished_of_answer? hanswer
  refine ⟨s, hreach, fun e he => List.all_eq_true.mp hall e he, hfinished, fun hnone => ?_⟩
  obtain ⟨k, hk, hsession⟩ := List.map_eq_singleton_iff.mp hsockets
  exact hnone k (by rw [hk]; exact List.mem_cons_self) (by simp [hsession])

end WhatsappCrm.Realtime
