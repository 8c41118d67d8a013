/-
Purpose: What the calls do to sessions and to sockets, statement by statement.
-/
import WhatsappCrm.Auth.Revocation
import WhatsappCrm.Realtime.Sockets

namespace WhatsappCrm.Realtime

open Interleaving Table
open Auth (AuthDb SessionRow UserRow UserKey Revoked)

def Live (auth : AuthDb) (sessionId : Nat) : Prop :=
  ∃ s ∈ auth.sessions, s.id = sessionId ∧ s.live auth.now = true ∧ activeUser auth (s.tenantId, s.userId) = true

variable {auth a : AuthDb} {db : SocketDb} {tenantId : Uuid} {sessionId : Nat} {key : UserKey}

theorem principalOf_eq_some (h : principalOf auth s = some principal) :
    principal.sessionId = s.id ∧ principal.tenantId = s.tenantId ∧ principal.userId = s.userId := by
  simp only [principalOf] at h
  split at h
  · obtain ⟨u, hu, rfl⟩ := Option.map_eq_some_iff.mp h
    have his := List.find?_some hu
    simp only [UserRow.is, Bool.and_eq_true, decide_eq_true_eq] at his
    exact ⟨rfl, his.1, his.2⟩
  · cases h

theorem principalOf_ne_none {s : SessionRow} (hlive : s.live auth.now = true)
    (hactive : activeUser auth (s.tenantId, s.userId) = true) : principalOf auth s ≠ none := by
  rw [principalOf, if_pos (by simp [hlive, hactive])]
  intro hnone
  rw [Option.map_eq_none_iff] at hnone
  rw [activeUser, hnone] at hactive
  cases hactive

theorem resolveBySessionId_some (h : db.resolveBySessionId tenantId sessionId = .ok (some principal)) :
    ∃ s ∈ db.auth.sessions, s.id = sessionId ∧ principalOf db.auth s = some principal := by
  simp only [SocketDb.resolveBySessionId] at h
  split at h
  · rw [Except.ok.injEq] at h
    obtain ⟨s, hs, hfound⟩ := List.exists_of_findSome?_eq_some h
    split at hfound
    · rename_i hmatch
      simp only [Bool.and_eq_true, decide_eq_true_eq] at hmatch
      exact ⟨s, hs, hmatch.1, hfound⟩
    · cases hfound
  · cases h

theorem resolveBySessionId_none (h : db.resolveBySessionId tenantId sessionId = .ok none)
    (htenant : ∀ s ∈ db.auth.sessions, s.id = sessionId → s.tenantId = tenantId) : ¬ Live db.auth sessionId := by
  rintro ⟨s, hs, hid, hlive, hactive⟩
  simp only [SocketDb.resolveBySessionId] at h
  split at h
  · rw [Except.ok.injEq] at h
    have hnone := List.findSome?_eq_none_iff.mp h s hs
    rw [if_pos (by simp [hid, htenant s hs hid])] at hnone
    exact principalOf_ne_none hlive hactive hnone
  · cases h

theorem resolveBySessionId_revoked (hserviceable : db.serviceable.contains tenantId = true) (hrevoked : Revoked db.auth sessionId) :
    db.resolveBySessionId tenantId sessionId = .ok none := by
  rw [SocketDb.resolveBySessionId, if_pos hserviceable, Except.ok.injEq, List.findSome?_eq_none_iff]
  intro s hs
  split
  · rename_i hmatch
    simp only [Bool.and_eq_true, decide_eq_true_eq] at hmatch
    have hnot := hrevoked.2 s hs hmatch.1
    have hdead : s.live db.auth.now = false := by
      cases hat : s.revokedAt with
      | none => exact absurd hat hnot
      | some => simp [SessionRow.live, hat]
    simp [principalOf, hdead]
  · rfl

/-- The condition on a step: nothing overtakes a revocation of its session, a lookup reaches the other replicas, no
    deadline that has passed moves, and nobody with a session left is made active again. -/
def meetsRevocation (db : SocketDb) : SocketStmt → Bool
  | .connect sessionId => !db.looked.contains sessionId
  | .fetch _ => db.adapterUp
  | .recheck tenantId => db.serviceable.contains tenantId
  | .disconnect => db.adapterUp
  | .slide sessionId => db.auth.sessions.all fun s => s.id ≠ sessionId || db.auth.now < s.expiresAt
  | .activate key => db.auth.sessions.all fun s => !(s.of key && s.live db.auth.now)
  | _ => true

def userKeys (auth : AuthDb) : List UserKey := auth.users.map fun u => (u.tenantId, u.id)

def Same (s s' : SessionRow) : Prop := s'.id = s.id ∧ s'.tenantId = s.tenantId ∧ s'.userId = s.userId

theorem Same.refl (s : SessionRow) : Same s s := ⟨rfl, rfl, rfl⟩

theorem Same.trans {a : SessionRow} (h : Same a b) (h' : Same b c) : Same a c :=
  ⟨h'.1.trans h.1, h'.2.1.trans h.2.1, h'.2.2.trans h.2.2⟩

structure AuthLater (a a' : AuthDb) : Prop where
  revoked : ∀ x, Revoked a x → Revoked a' x
  next : a.nextSession ≤ a'.nextSession
  users : userKeys a' = userKeys a
  rows : ∀ s ∈ a.sessions, ∃ s' ∈ a'.sessions, Same s s'
  dead : ∀ x < a.nextSession, Live a' x → Live a x

theorem AuthLater.refl (a : AuthDb) : AuthLater a a where
  revoked _ h := h
  next := Nat.le_refl _
  users := rfl
  rows s hs := ⟨s, hs, .refl s⟩
  dead _ _ h := h

theorem AuthLater.trans (h : AuthLater a b) (h' : AuthLater b c) : AuthLater a c where
  revoked x hx := h'.revoked x (h.revoked x hx)
  next := Nat.le_trans h.next h'.next
  users := h'.users.trans h.users
  rows s hs := by
    obtain ⟨s', hs', hsame⟩ := h.rows s hs
    obtain ⟨s'', hs'', hsame'⟩ := h'.rows s' hs'
    exact ⟨s'', hs'', hsame.trans hsame'⟩
  dead x hx hlive := h.dead x hx (h'.dead x (Nat.lt_of_lt_of_le hx h.next) hlive)

structure AuthSound (a : AuthDb) : Prop extends a.Sound where
  people : ∀ k ∈ userKeys a, ∀ k' ∈ userKeys a, k.2 = k'.2 → k = k'
  owned : ∀ s ∈ a.sessions, (s.tenantId, s.userId) ∈ userKeys a

structure AuthKept (a a' : AuthDb) : Prop where
  sound : AuthSound a'
  later : AuthLater a a'

theorem AuthKept.refl (h : AuthSound a) : AuthKept a a := ⟨h, .refl a⟩

theorem AuthKept.trans (h : AuthKept a b) (h' : AuthKept b c) : AuthKept a c :=
  ⟨h'.sound, h.later.trans h'.later⟩

theorem AuthKept.of_rows (h : AuthSound a) (hsound : a'.Sound)
    (hrevoked : ∀ x, Revoked a x → Revoked a' x) (hnext : a.nextSession ≤ a'.nextSession)
    (husers : userKeys a' = userKeys a) (hrows : ∀ s ∈ a.sessions, ∃ s' ∈ a'.sessions, Same s s')
    (horigin : ∀ s' ∈ a'.sessions, (∃ s ∈ a.sessions, Same s s' ∧
        (s'.live a'.now = true → activeUser a' (s'.tenantId, s'.userId) = true →
          s.live a.now = true ∧ activeUser a (s.tenantId, s.userId) = true)) ∨
      a.nextSession ≤ s'.id ∧ (s'.tenantId, s'.userId) ∈ userKeys a) : AuthKept a a' where
  sound := by
    refine { hsound with people := ?_, owned := ?_ }
    · rw [husers]
      exact h.people
    · rw [husers]
      intro s' hs'
      rcases horigin s' hs' with ⟨s, hs, ⟨_, htenant, huser⟩, _⟩ | ⟨_, howned⟩
      · rw [htenant, huser]
        exact h.owned s hs
      · exact howned
  later := {
    revoked := hrevoked
    next := hnext
    users := husers
    rows := hrows
    dead := by
      rintro x hx ⟨s', hs', rfl, hlive, hactive⟩
      rcases horigin s' hs' with ⟨s, hs, hsame, hback⟩ | ⟨hnew, _⟩
      · exact ⟨s, hs, hsame.1.symm, hback hlive hactive⟩
      · exact absurd hx (Nat.not_lt.mpr hnew) }

theorem AuthKept.same (h : AuthSound a) (hsound : a'.Sound) (hsessions : a'.sessions = a.sessions)
    (hnext : a'.nextSession = a.nextSession) (husers : userKeys a' = userKeys a)
    (hdead : ∀ s ∈ a.sessions, s.live a'.now = true → activeUser a' (s.tenantId, s.userId) = true →
      s.live a.now = true ∧ activeUser a (s.tenantId, s.userId) = true) : AuthKept a a' := by
  apply AuthKept.of_rows h hsound
  · intro x hx
    rw [Revoked, hsessions, hnext]
    exact hx
  · exact Nat.le_of_eq hnext.symm
  · exact husers
  · rw [hsessions]
    exact fun s hs => ⟨s, hs, .refl s⟩
  · rw [hsessions]
    exact fun s hs => .inl ⟨s, hs, .refl s, hdead s hs⟩

theorem UserRow.is_iff_key {u : UserRow} : u.is key = true ↔ (u.tenantId, u.id) = key := by
  simp [UserRow.is, Prod.ext_iff]

theorem userKeys_update (hf : ∀ u, (f u).tenantId = u.tenantId ∧ (f u).id = u.id) :
    userKeys { auth with users := updateWhere p f auth.users } = userKeys auth :=
  map_updateWhere (fun u => Prod.ext (hf u).1 (hf u).2) auth.users

theorem activeUser_update (hf : ∀ u, (f u).tenantId = u.tenantId ∧ (f u).id = u.id) (k : UserKey) :
    activeUser { auth with users := updateWhere (·.is key) f auth.users } k =
      if k = key then (auth.findUser k).any fun u => (f u).status = .active else activeUser auth k := by
  have his : ∀ u, (f u).is k = u.is k := fun u => by rw [UserRow.is, UserRow.is, (hf u).1, (hf u).2]
  simp only [activeUser, AuthDb.findUser, find?_updateWhere his]
  cases hfind : auth.users.find? (·.is k) with
  | none => simp
  | some u =>
    have hkey := UserRow.is_iff_key.mp (List.find?_some hfind)
    by_cases hk : k = key
    · have hu : u.is key = true := UserRow.is_iff_key.mpr (hkey.trans hk)
      simp [hk, hu]
    · have hu : u.is key = false := by
        rw [Bool.eq_false_iff]
        exact fun h => hk (hkey.symm.trans (UserRow.is_iff_key.mp h))
      simp [hk, hu]

theorem auth_keeps (h : a.Sound) (hcond : Auth.reachesCache a tag = true)
    (heffect : Auth.Effect .transparent Auth.Cold tag a a') : a'.Sound ∧ Auth.Later a a' :=
  Auth.purging_sound.keeps h hcond heffect

theorem AuthKept.suspend (h : AuthSound a) (key : UserKey) :
    AuthKept a { a with users := SocketDb.suspended key a.users } := by
  refine AuthKept.same h ⟨h.unique, h.issued, h.cold⟩ rfl rfl (userKeys_update fun u => ⟨rfl, rfl⟩) ?_
  intro s _ hlive hactive
  refine ⟨hlive, ?_⟩
  rw [SocketDb.suspended, activeUser_update (f := ({ · with status := .suspended })) fun u => ⟨rfl, rfl⟩] at hactive
  split at hactive
  · simp at hactive
  · exact hactive

theorem AuthKept.activate (h : AuthSound a) (hnone : ∀ s ∈ a.sessions, s.of key = true → s.live a.now = false) :
    AuthKept a { a with users := updateWhere (·.is key) ({ · with status := .active }) a.users } := by
  refine AuthKept.same h ⟨h.unique, h.issued, h.cold⟩ rfl rfl (userKeys_update fun u => ⟨rfl, rfl⟩) ?_
  intro s hs hlive hactive
  refine ⟨hlive, ?_⟩
  rw [activeUser_update (f := ({ · with status := .active })) fun u => ⟨rfl, rfl⟩] at hactive
  split at hactive
  · rename_i hkey
    have hof : s.of key = true := by simp [SessionRow.of, ← hkey]
    rw [hnone s hs hof] at hlive
    cases hlive
  · exact hactive

theorem AuthKept.advance (h : AuthSound a) (milliseconds : Nat) : AuthKept a { a with now := a.now + milliseconds } := by
  have hsound := auth_keeps h.toSound rfl (.ticked milliseconds a)
  apply AuthKept.same h hsound.1 rfl rfl rfl
  intro s _ hlive hactive
  refine ⟨?_, hactive⟩
  simp only [SessionRow.live, Bool.and_eq_true, decide_eq_true_eq] at hlive ⊢
  have hnow : a.now ≤ a.now + milliseconds := Int.le_add_of_nonneg_right (Int.natCast_nonneg _)
  exact ⟨⟨hlive.1.1, Int.lt_of_le_of_lt hnow hlive.1.2⟩, Int.lt_of_le_of_lt hnow hlive.2⟩

theorem AuthKept.redis (h : AuthSound a) (up : Bool) : AuthKept a { a with redis := { a.redis with up } } :=
  .same h ⟨h.unique, h.issued, h.cold⟩ rfl rfl rfl fun _ _ hlive hactive => ⟨hlive, hactive⟩

theorem AuthKept.revoke (h : AuthSound a) (found : SessionRow → Bool)
    (hfound : ∀ s, found s = true → s.revokedAt = none) :
    AuthKept a { a with sessions := updateWhere found ({ · with revokedAt := some a.now }) a.sessions } := by
  have hsound := auth_keeps h.toSound rfl (.revoked found a hfound)
  apply AuthKept.of_rows h hsound.1 hsound.2.revoked (Nat.le_refl _) rfl
  · intro s hs
    refine ⟨_, mem_updateWhere_of_mem hs, ?_⟩
    split
    · exact ⟨rfl, rfl, rfl⟩
    · exact .refl s
  · intro s' hs'
    obtain ⟨s, hs, ⟨_, rfl⟩ | ⟨_, rfl⟩⟩ := mem_updateWhere hs'
    · refine .inl ⟨s, hs, ⟨rfl, rfl, rfl⟩, fun hlive => ?_⟩
      simp [SessionRow.live] at hlive
    · exact .inl ⟨s', hs, .refl s', fun hlive hactive => ⟨hlive, hactive⟩⟩

theorem AuthKept.slide (h : AuthSound a) {row : SessionRow}
    (hbefore : ∀ s ∈ a.sessions, s.id = row.id → a.now < s.expiresAt) : AuthKept a (a.slide row).2 := by
  have hsound := auth_keeps h.toSound rfl (.slid row a)
  revert hsound
  rw [AuthDb.slide]
  split
  · exact fun _ => .refl h
  · split
    · exact fun _ => .refl h
    · rename_i s₀ hs₀
      intro hsound
      apply AuthKept.of_rows h hsound.1 hsound.2.revoked (Nat.le_refl _) rfl
      · intro s hs
        refine ⟨_, mem_updateWhere_of_mem hs, ?_⟩
        split
        · exact ⟨rfl, rfl, rfl⟩
        · exact .refl s
      · intro s' hs'
        obtain ⟨s, hs, ⟨hslides, rfl⟩ | ⟨_, rfl⟩⟩ := mem_updateWhere hs'
        · refine .inl ⟨s, hs, ⟨rfl, rfl, rfl⟩, fun hlive hactive => ⟨?_, hactive⟩⟩
          simp only [AuthDb.slides, Bool.and_eq_true, decide_eq_true_eq] at hslides
          have hexpires := hbefore s hs hslides.1.1
          simp only [SessionRow.live, Bool.and_eq_true, decide_eq_true_eq] at hlive ⊢
          exact ⟨⟨hlive.1.1, hexpires⟩, hlive.2⟩
        · exact .inl ⟨s', hs, .refl s', fun hlive hactive => ⟨hlive, hactive⟩⟩

theorem activeUser_resetLoginState (a : AuthDb) (key k : UserKey) :
    activeUser (a.resetLoginState key none) k = activeUser a k :=
  calc
    activeUser (a.resetLoginState key none) k =
        if k = key then (a.findUser k).any fun u => u.status = .active else activeUser a k :=
      activeUser_update (by exact fun u => ⟨rfl, rfl⟩) k
    _ = activeUser a k := ite_self _

theorem AuthKept.signIn (h : AuthSound a) (key : UserKey) (tokenHash password : String) :
    AuthKept a (a.signIn key none tokenHash password).2 := by
  have hsound := auth_keeps h.toSound rfl (.signedIn key none tokenHash password a (by simp))
  revert hsound
  rw [AuthDb.signIn]
  split
  · rename_i hany
    obtain ⟨u, hu, his⟩ := List.any_eq_true.mp hany
    by_cases htaken : (a.resetLoginState key none).sessions.any (·.tokenHash = tokenHash) = true
    · simp only [AuthDb.issue, htaken, if_true]
      exact fun _ => .refl h
    · simp only [AuthDb.issue, htaken]
      intro hsound
      apply AuthKept.of_rows h hsound.1 hsound.2.revoked (Nat.le_succ _) (userKeys_update fun u => ⟨rfl, rfl⟩)
      · exact fun s hs => ⟨s, List.mem_append_left _ hs, .refl s⟩
      · intro s' hs'
        rcases mem_snoc.mp hs' with hs' | rfl
        · refine .inl ⟨s', hs', .refl s', fun hlive hactive => ⟨hlive, ?_⟩⟩
          exact (activeUser_resetLoginState a key _).symm.trans hactive
        · refine .inr ⟨Nat.le_refl _, ?_⟩
          rw [← UserRow.is_iff_key.mp his]
          exact List.mem_map_of_mem hu
  · exact fun _ => .refl h

def Agrees (auth : AuthDb) (principal : Auth.SessionPrincipal) : Prop :=
  ∃ s ∈ auth.sessions, s.id = principal.sessionId ∧ s.tenantId = principal.tenantId ∧ s.userId = principal.userId

theorem Agrees.later (h : Agrees a principal) (hlater : AuthLater a a') : Agrees a' principal := by
  obtain ⟨s, hs, hid, htenant, huser⟩ := h
  obtain ⟨s', hs', hid', htenant', huser'⟩ := hlater.rows s hs
  exact ⟨s', hs', hid'.trans hid, htenant'.trans htenant, huser'.trans huser⟩

structure SocketDb.Sound (db : SocketDb) : Prop where
  auth : AuthSound db.auth
  sockets : ∀ k ∈ db.sockets, Agrees db.auth k.principal

structure SocketLater (db db' : SocketDb) : Prop where
  auth : AuthLater db.auth db'.auth
  looked : ∀ x ∈ db.looked, x ∈ db'.looked
  sockets : ∀ k ∈ db'.sockets, k.principal.sessionId ∈ db.looked → k ∈ db.sockets

theorem SocketLater.refl (db : SocketDb) : SocketLater db db := ⟨.refl db.auth, fun _ h => h, fun _ h _ => h⟩

theorem SocketLater.trans {a : SocketDb} (h : SocketLater a b) (h' : SocketLater b c) : SocketLater a c where
  auth := h.auth.trans h'.auth
  looked x hx := h'.looked x (h.looked x hx)
  sockets k hk hx := h.sockets k (h'.sockets k hk (h.looked _ hx)) hx

inductive SocketEffect : SocketStmt → SocketDb → SocketDb → Prop where
  | none (tag : SocketStmt) (db : SocketDb) : SocketEffect tag db db
  | ticketed (tag : SocketStmt) (db : SocketDb) (tickets : Expiring.Store String RealtimeTicketClaims)
      (issued : List String) : SocketEffect tag db { db with tickets, issued }
  | connected (ticketHash : String) (principal : Auth.SessionPrincipal) (db : SocketDb)
      (hagrees : Agrees db.auth principal) :
      SocketEffect (.connect principal.sessionId) db (db.connect ticketHash principal)
  | sought (revoked : List Nat) (db : SocketDb) :
      SocketEffect (.fetch revoked) db { db with looked := revoked ++ db.looked }
  | disconnected (socket : Socket) (db : SocketDb) (hdead : ¬ Live db.auth socket.principal.sessionId) :
      SocketEffect .disconnect db (db.disconnect socket)
  | parted (socketId : Nat) (db : SocketDb) :
      SocketEffect .surroundings db
        { db with sockets := db.sockets.filter (·.id ≠ socketId), left := socketId :: db.left }
  | moved (tag : SocketStmt) (db : SocketDb) (auth : AuthDb) (serviceable : List Uuid) (adapterUp : Bool)
      (hkept : AuthKept db.auth auth) : SocketEffect tag db { db with auth, serviceable, adapterUp }

structure SocketKept (db db' : SocketDb) : Prop where
  auth : AuthKept db.auth db'.auth
  looked : ∀ x ∈ db.looked, x ∈ db'.looked
  sockets : ∀ k ∈ db'.sockets, k ∈ db.sockets ∨ k.principal.sessionId ∉ db.looked ∧ Agrees db.auth k.principal

theorem SocketKept.of_sockets {db' : SocketDb} (h : db.Sound) (hauth : db'.auth = db.auth)
    (hlooked : ∀ x ∈ db.looked, x ∈ db'.looked) (hsockets : ∀ k ∈ db'.sockets, k ∈ db.sockets) : SocketKept db db' where
  auth := by
    rw [hauth]
    exact .refl h.auth
  looked := hlooked
  sockets k hk := .inl (hsockets k hk)

theorem mem_disconnect (hk : k ∈ (db.disconnect socket).sockets) : k ∈ db.sockets := by
  rw [SocketDb.disconnect] at hk
  split at hk
  · exact (List.mem_filter.mp hk).1
  · exact hk

theorem disconnect_frame (db : SocketDb) (socket : Socket) : ∃ sockets, db.disconnect socket = { db with sockets } := by
  rw [SocketDb.disconnect]
  split
  · exact ⟨_, rfl⟩
  · exact ⟨db.sockets, rfl⟩

theorem SocketEffect.kept (h : db.Sound) (hcond : meetsRevocation db tag = true)
    (heffect : SocketEffect tag db db') : SocketKept db db' := by
  cases heffect with
  | none | ticketed => exact .of_sockets h rfl (fun _ hx => hx) fun _ hk => hk
  | connected ticketHash principal _ hagrees =>
    have hnot : (!db.looked.contains principal.sessionId) = true := hcond
    refine ⟨.refl h.auth, fun _ hx => hx, fun k hk => ?_⟩
    rcases mem_snoc.mp hk with hk | rfl
    · exact .inl hk
    · exact .inr ⟨by simpa using hnot, hagrees⟩
  | sought => exact .of_sockets h rfl (fun _ hx => List.mem_append_right _ hx) fun _ hk => hk
  | disconnected socket =>
    have hsockets : ∀ k ∈ (db.disconnect socket).sockets, k ∈ db.sockets := fun k hk => mem_disconnect hk
    obtain ⟨sockets, hdb'⟩ := disconnect_frame db socket
    rw [hdb'] at hsockets ⊢
    exact .of_sockets h rfl (fun _ hx => hx) hsockets
  | parted => exact .of_sockets h rfl (fun _ hx => hx) fun _ hk => (List.mem_filter.mp hk).1
  | moved _ _ auth serviceable adapterUp hkept => exact ⟨hkept, fun _ hx => hx, fun _ hk => .inl hk⟩

def socketRely : Rely SocketStmt SocketDb where
  inv := SocketDb.Sound
  later := SocketLater
  cond tag db := meetsRevocation db tag = true
  effect := SocketEffect

theorem socketRely_sound : socketRely.Sound where
  refl := SocketLater.refl
  trans := SocketLater.trans
  keeps {tag s s'} hinv hcond heffect := by
    have hkept := SocketEffect.kept hinv hcond heffect
    refine ⟨⟨hkept.auth.sound, fun k hk => ?_⟩, ⟨hkept.auth.later, hkept.looked, fun k hk hlooked => ?_⟩⟩
    · rcases hkept.sockets k hk with hk | ⟨_, hagrees⟩
      · exact (hinv.sockets k hk).later hkept.auth.later
      · exact hagrees.later hkept.auth.later
    · exact (hkept.sockets k hk).resolve_right fun hnew => hnew.1 hlooked

end WhatsappCrm.Realtime
