/-
Purpose: Whether a revocation is immediate through the cache.
-/
import WhatsappCrm.Auth.Effects

namespace WhatsappCrm.Auth

open Interleaving Table

variable {crypto : Crypto}

variable (users : List Revocation) (tenantId : Uuid)

def Cached (db : AuthDb) (sessionId : Nat) (tokenHash : String) : Prop :=
  ∃ e ∈ db.redis.sess, e.key = tokenHash ∧ e.live db.now = true ∧ e.value.sessionId = sessionId

/-- The condition on a step of a purge, and on what is cached. -/
def reachesCache (db : AuthDb) : AuthStmt → Bool
  | .seek r revoked =>
    (revoked.isEmpty || db.redis.up) &&
      db.redis.sess.all fun e =>
        !(e.live db.now && r.sessions.contains e.value.sessionId) || (db.redis.smembers db.now r.key).contains e.key
  | .del revoked => revoked.isEmpty || db.redis.up
  | .cacheWrite sessionId => !db.sought.contains sessionId
  | _ => true

def Revoked (db : AuthDb) (sessionId : Nat) : Prop :=
  sessionId < db.nextSession ∧ ∀ s ∈ db.sessions, s.id = sessionId → s.revokedAt ≠ none

def Cold (db : AuthDb) (r : Revocation) : Prop :=
  ∀ x ∈ r.sessions, x ∈ db.sought ∧ Revoked db x ∧ ∀ tokenHash, ¬ Cached db x tokenHash

structure AuthDb.Sound (db : AuthDb) : Prop where
  unique : UniqueBy (fun s : SessionRow => some s.id) db.sessions
  issued : ∀ s ∈ db.sessions, s.id < db.nextSession
  cold : ∀ r ∈ db.revocations, Cold db r

structure Later (db db' : AuthDb) : Prop where
  sought : ∀ x ∈ db.sought, x ∈ db'.sought
  revocations : ∀ r ∈ db.revocations, r ∈ db'.revocations
  revoked : ∀ x, Revoked db x → Revoked db' x
  /-- Nothing is cached again. -/
  cached : ∀ x ∈ db.sought, ∀ tokenHash, Cached db' x tokenHash → Cached db x tokenHash

theorem Later.refl (db : AuthDb) : Later db db :=
  ⟨fun _ h => h, fun _ h => h, fun _ h => h, fun _ _ _ h => h⟩

theorem Later.trans (h : Later a b) (h' : Later b c) : Later a c where
  sought x hx := h'.sought x (h.sought x hx)
  revocations r hr := h'.revocations r (h.revocations r hr)
  revoked x hx := h'.revoked x (h.revoked x hx)
  cached x hx tokenHash hc := h.cached x hx tokenHash (h'.cached x (h.sought x hx) tokenHash hc)

variable {db : AuthDb} {α : Type}

theorem Cold.later (h : Cold db r) (hlater : Later db db') : Cold db' r := by
  intro x hx
  obtain ⟨hsought, hrevoked, hcold⟩ := h x hx
  exact ⟨hlater.sought x hsought, hlater.revoked x hrevoked,
    fun tokenHash hcached => hcold tokenHash (hlater.cached x hsought tokenHash hcached)⟩

theorem Revoked.of_rows (h : Revoked db x) (hnext : db.nextSession ≤ db'.nextSession)
    (hrows : ∀ s' ∈ db'.sessions, s'.id = x → ∃ s ∈ db.sessions, s.id = x ∧ (s.revokedAt ≠ none → s'.revokedAt ≠ none)) :
    Revoked db' x := by
  refine ⟨Nat.lt_of_lt_of_le h.1 hnext, fun s' hs' hid => ?_⟩
  obtain ⟨s, hs, hid', hkept⟩ := hrows s' hs' hid
  exact hkept (h.2 s hs hid')

structure Kept (db db' : AuthDb) : Prop where
  unique : UniqueBy (fun s : SessionRow => some s.id) db'.sessions
  issued : ∀ s ∈ db'.sessions, s.id < db'.nextSession
  revoked : ∀ x, Revoked db x → Revoked db' x

theorem Kept.same (h : db.Sound) (hsessions : db'.sessions = db.sessions)
    (hnext : db'.nextSession = db.nextSession) : Kept db db' where
  unique := hsessions ▸ h.unique
  issued := by
    rw [hsessions, hnext]
    exact h.issued
  revoked x hx := by
    rw [Revoked, hsessions, hnext]
    exact hx

theorem Kept.of_updateWhere (h : db.Sound)
    (hid : ∀ s, (f s).id = s.id) (hf : ∀ s, s.revokedAt ≠ none → (f s).revokedAt ≠ none)
    (hsessions : db'.sessions = updateWhere found f db.sessions) (hnext : db'.nextSession = db.nextSession) :
    Kept db db' where
  unique := by
    rw [hsessions]
    exact h.unique.updateWhere fun s _ _ => .inr (by rw [hid])
  issued := by
    rw [hsessions, hnext]
    intro s' hs'
    obtain ⟨s, hs, ⟨_, rfl⟩ | ⟨_, rfl⟩⟩ := mem_updateWhere hs'
    · rw [hid]
      exact h.issued s hs
    · exact h.issued s' hs
  revoked x hx := by
    refine hx.of_rows (Nat.le_of_eq hnext.symm) ?_
    rw [hsessions]
    intro s' hs' hx'
    obtain ⟨s, hs, ⟨_, rfl⟩ | ⟨_, rfl⟩⟩ := mem_updateWhere hs'
    · exact ⟨s, hs, (hid s).symm.trans hx', hf s⟩
    · exact ⟨s', hs, hx', fun h => h⟩

theorem Kept.slide (h : db.Sound) (row : SessionRow) : Kept db (db.slide row).2 := by
  rw [AuthDb.slide]
  split
  · exact .same h rfl rfl
  · split
    · exact .same h rfl rfl
    · refine .of_updateWhere h ?_ ?_ rfl rfl
      · exact fun _ => rfl
      · exact fun _ hs => hs

theorem Kept.signIn (h : db.Sound) (key : UserKey) (rehashed : Option String)
    (tokenHash password : String) : Kept db (db.signIn key rehashed tokenHash password).2 := by
  rw [AuthDb.signIn]
  split
  · by_cases htaken : (db.resetLoginState key rehashed).sessions.any (·.tokenHash = tokenHash) = true
    · simp only [AuthDb.issue, htaken, if_true]
      exact .same h rfl rfl
    · simp only [AuthDb.issue, htaken]
      constructor
      · apply h.unique.concat
        intro s hs hclash
        exact absurd (Option.some.inj hclash.2) (Nat.ne_of_lt (h.issued s hs))
      · intro s hs
        rcases mem_snoc.mp hs with hs | rfl
        · exact Nat.lt_succ_of_lt (h.issued s hs)
        · exact Nat.lt_succ_self _
      · intro x hx
        refine hx.of_rows (Nat.le_succ _) fun s hs hid => ?_
        rcases mem_snoc.mp hs with hs | rfl
        · exact ⟨s, hs, hid, fun h => h⟩
        · exact absurd hid (Nat.ne_of_gt hx.1)
  · exact .same h rfl rfl

theorem Kept.revoke (h : db.Sound) (found : SessionRow → Bool) :
    Kept db { db with sessions := updateWhere found ({ · with revokedAt := some db.now }) db.sessions } := by
  refine .of_updateWhere h ?_ ?_ rfl rfl
  · exact fun _ => rfl
  · exact fun _ _ => Option.some_ne_none _

theorem Kept.redeem (h : db.Sound) (tenantId : Uuid) (tokenHash : String) (instant : Millis)
    (passwordHash password : String) : Kept db (db.redeem tenantId tokenHash instant passwordHash password).2 := by
  rw [AuthDb.redeem]
  split
  · exact .same h rfl rfl
  · split
    · exact .same h rfl rfl
    · refine .of_updateWhere h ?_ ?_ rfl rfl
      · exact fun _ => rfl
      · exact fun _ _ => Option.some_ne_none _

theorem Effect.kept (h : db.Sound) (heffect : Effect crypto ended tag db db') : Kept db db' := by
  cases heffect with
  | signedIn key rehashed tokenHash password => exact .signIn h key rehashed tokenHash password
  | slid row => exact .slide h row
  | revoked found => exact .revoke h found
  | redeemed => exact .redeem h _ _ _ _ _
  | _ => exact .same h rfl rfl

theorem slide_frame (db : AuthDb) (row : SessionRow) : ∃ sessions, (db.slide row).2 = { db with sessions } := by
  rw [AuthDb.slide]
  split
  · exact ⟨_, rfl⟩
  · split
    · exact ⟨_, rfl⟩
    · exact ⟨_, rfl⟩

theorem signIn_frame (db : AuthDb) (key : UserKey) (rehashed : Option String) (tokenHash password : String) :
    ∃ users sessions nextSession,
      (db.signIn key rehashed tokenHash password).2 = { db with users, sessions, nextSession } := by
  rw [AuthDb.signIn]
  split
  · by_cases htaken : (db.resetLoginState key rehashed).sessions.any (·.tokenHash = tokenHash) = true
    · simp only [AuthDb.issue, htaken, if_true]
      exact ⟨_, _, _, rfl⟩
    · simp only [AuthDb.issue, htaken]
      exact ⟨_, _, _, rfl⟩
  · exact ⟨_, _, _, rfl⟩

theorem redeem_frame (db : AuthDb) (tenantId : Uuid) (tokenHash : String) (instant : Millis)
    (passwordHash password : String) : ∃ users sessions resetTokens resets,
      (db.redeem tenantId tokenHash instant passwordHash password).2 =
        { db with users, sessions, resetTokens, resets } := by
  rw [AuthDb.redeem]
  split
  · exact ⟨_, _, _, _, rfl⟩
  · split
    · exact ⟨_, _, _, _, rfl⟩
    · exact ⟨_, _, _, _, rfl⟩

structure Recorded (db db' : AuthDb) : Prop where
  sought : ∀ x ∈ db.sought, x ∈ db'.sought
  revocations : ∀ r ∈ db.revocations, r ∈ db'.revocations
  ended : ∀ r ∈ db'.revocations, r ∈ db.revocations ∨ Cold db r
  cached : ∀ x ∈ db.sought, ∀ tokenHash, Cached db' x tokenHash → Cached db x tokenHash

theorem Recorded.same (hsought : db'.sought = db.sought) (hrevocations : db'.revocations = db.revocations)
    (hnow : db.now ≤ db'.now)
    (hsess : ∀ e ∈ db'.redis.sess, e ∈ db.redis.sess ∨ e.value.sessionId ∉ db.sought) : Recorded db db' where
  sought := by
    rw [hsought]
    exact fun _ hx => hx
  revocations := by
    rw [hrevocations]
    exact fun _ hr => hr
  ended := by
    rw [hrevocations]
    exact fun _ hr => .inl hr
  cached := by
    rintro x hx tokenHash ⟨e, he, hkey, hlive, rfl⟩
    rcases hsess e he with he | hnot
    · refine ⟨e, he, hkey, ?_, rfl⟩
      simp only [Expiring.Entry.live, decide_eq_true_eq] at hlive ⊢
      exact Int.le_trans hnow hlive
    · exact absurd hx hnot

theorem Effect.recorded (hcond : reachesCache db tag = true)
    (heffect : Effect crypto Cold tag db db') : Recorded db db' := by
  cases heffect with
  | none | failed | requested | revoked => exact .same rfl rfl (Int.le_refl _) fun _ he => .inl he
  | keys _ _ r hsess =>
    refine .same rfl rfl (Int.le_refl _) fun e he => .inl ?_
    rw [← hsess]
    exact he
  | cached sessionId _ r hsess =>
    refine .same rfl rfl (Int.le_refl _) fun e he => (hsess e he).imp_right fun hid => ?_
    rw [hid]
    simpa [reachesCache] using hcond
  | evicted _ _ r hsess => exact .same rfl rfl (Int.le_refl _) fun e he => .inl (hsess e he)
  | sought =>
    exact ⟨fun _ hx => List.mem_append_right _ hx, fun _ hr => hr, fun _ hr => .inl hr, fun _ _ _ h => h⟩
  | announced r _ hover =>
    refine ⟨fun _ hx => hx, fun _ hr => List.mem_cons_of_mem _ hr, fun r' hr' => ?_, fun _ _ _ h => h⟩
    rcases List.mem_cons.mp hr' with rfl | hr'
    · exact .inr hover
    · exact .inl hr'
  | signedIn key rehashed tokenHash password =>
    obtain ⟨users, sessions, nextSession, hdb⟩ := signIn_frame db key rehashed tokenHash password
    rw [hdb]
    exact .same rfl rfl (Int.le_refl _) fun _ he => .inl he
  | slid row =>
    obtain ⟨sessions, hdb⟩ := slide_frame db row
    rw [hdb]
    exact .same rfl rfl (Int.le_refl _) fun _ he => .inl he
  | redeemed tenantId tokenHash instant salt password =>
    obtain ⟨users, sessions, resetTokens, resets, hdb⟩ :=
      redeem_frame db tenantId tokenHash instant (crypto.argon2 salt password) password
    rw [hdb]
    exact .same rfl rfl (Int.le_refl _) fun _ he => .inl he
  | ticked => exact .same rfl rfl (Int.le_add_of_nonneg_right (Int.natCast_nonneg _)) fun _ he => .inl he

def purging (crypto : Crypto) : Rely AuthStmt AuthDb where
  inv := AuthDb.Sound
  later := Later
  cond tag db := reachesCache db tag = true
  effect := Effect crypto Cold

theorem purging_sound : (purging crypto).Sound where
  refl := Later.refl
  trans := Later.trans
  keeps {tag s s'} hinv hcond heffect := by
    have hkept := Effect.kept hinv heffect
    have hrecorded := Effect.recorded hcond heffect
    have hlater : Later s s' := ⟨hrecorded.sought, hrecorded.revocations, hkept.revoked, hrecorded.cached⟩
    refine ⟨⟨hkept.unique, hkept.issued, fun r hr => ?_⟩, hlater⟩
    have hcold : Cold s r := (hrecorded.ended r hr).elim (hinv.cold r) id
    exact hcold.later hlater

theorem Acts.guards (h : Acts crypto Cold p) (db : AuthDb) : Prog.Guards (purging crypto) db p :=
  (h.weaken fun _ _ => trivial).guards (fun _ _ _ _ _ _ heffect => heffect) db

theorem Acts.ensures (h : Acts crypto Cold p) (db : AuthDb) : Prog.Ensures (purging crypto) (fun _ _ => True) db p :=
  .of_guards (h.guards db) fun _ _ => trivial

def Within (db : AuthDb) (ids : List Nat) (hashes : List String) : Prop :=
  ∀ x ∈ ids, x ∈ db.sought ∧ ∀ tokenHash, Cached db x tokenHash → tokenHash ∈ hashes

theorem Within.later (h : Within db ids hashes) (hlater : Later db db') : Within db' ids hashes := by
  intro x hx
  obtain ⟨hsought, hcached⟩ := h x hx
  exact ⟨hlater.sought x hsought, fun tokenHash hc => hcached tokenHash (hlater.cached x hsought tokenHash hc)⟩

theorem seekAll_ensures (revoked : List Nat) (users : List Revocation) (db : AuthDb) : Prog.Ensures (purging crypto)
      (fun members s => match members with
        | none => revoked = []
        | some members => Within s (users.flatMap (·.sessions)) members) db (seekAll revoked users) := by
  induction users generalizing db with
  | nil => simp [seekAll, Within]
  | cons r rest ih =>
    intro s _ hinv hcond
    have hcond' : reachesCache s (.seek r revoked) = true := hcond
    simp only [reachesCache, Bool.and_eq_true] at hcond'
    refine ⟨.sought r revoked s, ?_⟩
    cases hup : s.redis.up with
    | false =>
      have hrevoked : revoked = [] := by simpa [hup] using hcond'.1
      simpa [hup] using hrevoked
    | true =>
      simp only [hup, if_true]
      let s' : AuthDb := { s with sought := r.sessions ++ s.sought }
      have hown : Within s' r.sessions (s.redis.smembers s.now r.key) := by
        intro x hx
        refine ⟨List.mem_append_left _ hx, ?_⟩
        rintro tokenHash ⟨e, he, rfl, hlive, rfl⟩
        have hnamed := List.all_eq_true.mp hcond'.2 e he
        have hlive' : e.live s.now = true := hlive
        simpa [hlive', hx] using hnamed
      change Prog.Ensures _ _ s' ((seekAll revoked rest).bind fun others =>
        .pure (others.map (s.redis.smembers s.now r.key ++ ·)))
      refine Prog.Ensures.bind purging_sound ((ih s').after purging_sound) fun others s'' _ hothers => ?_
      cases others with
      | none => exact hothers.2
      | some =>
        intro x hx
        rcases List.mem_flatMap.mp hx with ⟨r', hr', hx'⟩
        rcases List.mem_cons.mp hr' with rfl | hr'
        · obtain ⟨hsought, hcached⟩ := hown.later hothers.1 x hx'
          exact ⟨hsought, fun tokenHash hc => List.mem_append_left _ (hcached tokenHash hc)⟩
        · obtain ⟨hsought, hcached⟩ := hothers.2 x (List.mem_flatMap.mpr ⟨r', hr', hx'⟩)
          exact ⟨hsought, fun tokenHash hc => List.mem_append_right _ (hcached tokenHash hc)⟩

theorem delAll_ensures (revoked : List Nat) (chunks : List (List DoomedKey)) (db : AuthDb)
    (h : ∀ x ∈ revoked, x ∈ db.sought ∧ ∀ tokenHash, Cached db x tokenHash → DoomedKey.sess tokenHash ∈ chunks.flatten) :
    Prog.Ensures (purging crypto) (fun _ s => Within s revoked []) db (delAll revoked chunks) := by
  induction chunks generalizing db with
  | nil =>
    intro x hx
    obtain ⟨hsought, hcached⟩ := h x hx
    exact ⟨hsought, fun tokenHash hc => absurd (hcached tokenHash hc) (by simp)⟩
  | cons keys rest ih =>
    intro s hs hinv hcond
    have hcond' : reachesCache s (.del revoked) = true := hcond
    simp only [reachesCache, Bool.or_eq_true] at hcond'
    cases hup : s.redis.up with
    | false =>
      obtain rfl : revoked = [] := by simpa [hup] using hcond'
      simp only [hup]
      exact ⟨.none _ s, by simp [Within]⟩
    | true =>
      simp only [hup, if_true]
      refine ⟨.evicted _ s _ fun e he => (mem_del he).1, ih _ fun x hx => ?_⟩
      obtain ⟨hsought, hcached⟩ := h x hx
      refine ⟨hs.sought x hsought, ?_⟩
      rintro tokenHash ⟨e, he, rfl, hlive, rfl⟩
      obtain ⟨he, hkept⟩ := mem_del he
      have hdoomed := hcached e.key (hs.cached _ hsought e.key ⟨e, he, rfl, hlive, rfl⟩)
      simpa [hkept] using hdoomed

theorem flatten_chunked (hsize : 0 < size) (fuel : Nat) (values : List α)
    (hfuel : values.length ≤ fuel) : (chunked size fuel values).flatten = values := by
  induction fuel generalizing values with
  | zero =>
    have hnil := List.eq_nil_of_length_eq_zero (Nat.le_zero.mp hfuel)
    simp [chunked, hnil]
  | succ fuel ih =>
    cases values with
    | nil => rfl
    | cons =>
      simp only [chunked, List.isEmpty_cons, Bool.false_eq_true, if_false, List.flatten_cons]
      rw [ih, List.take_append_drop]
      simp only [List.length_drop, List.length_cons] at hfuel ⊢
      omega

theorem purgeUsers_ensures (dropIndex : Bool) (db : AuthDb) :
    Prog.Ensures (purging crypto) (fun _ s => Within s (users.flatMap (·.sessions)) []) db
      (purgeUsers users dropIndex) := by
  rw [purgeUsers]
  split
  · rename_i hnone
    rw [List.isEmpty_iff.mp hnone]
    simp [Within]
  · refine Prog.Ensures.bind purging_sound (seekAll_ensures _ users db) fun members s _ hmembers => ?_
    cases members with
    | none =>
      simp [Within, hmembers]
    | some =>
      apply delAll_ensures
      intro x hx
      obtain ⟨hsought, hcached⟩ := hmembers x hx
      refine ⟨hsought, fun tokenHash hc => ?_⟩
      rw [flatten_chunked (by decide) _ _ (Nat.le_refl _), doomed]
      exact List.mem_append_left _ (List.mem_map_of_mem (hcached tokenHash hc))

theorem announceAll_ensures (db : AuthDb) (h : ∀ r ∈ users, Cold db r) :
    Prog.Ensures (purging crypto) (fun _ _ => True) db (announceAll users) := by
  induction users generalizing db with
  | nil => trivial
  | cons r rest ih =>
    intro s hs hinv hcond
    have heffect : Effect crypto Cold .announce s { s with revocations := r :: s.revocations } :=
      .announced r s ((h r List.mem_cons_self).later hs)
    have hlater := (purging_sound.keeps hinv hcond heffect).2
    refine ⟨heffect, ih _ fun r' hr' => ?_⟩
    exact (h r' (List.mem_cons_of_mem _ hr')).later (hs.trans hlater)

theorem purgeCacheForUsers_ensures (db : AuthDb) (h : ∀ r ∈ users, ∀ x ∈ r.sessions, Revoked db x) :
    Prog.Ensures (purging crypto) (fun _ _ => True) db (purgeCacheForUsers users) := by
  refine Prog.Ensures.bind purging_sound (purgeUsers_ensures users true db) fun _ s hs hpurged => ?_
  apply announceAll_ensures
  intro r hr x hx
  obtain ⟨hsought, hcached⟩ := hpurged x (List.mem_flatMap.mpr ⟨r, hr, hx⟩)
  exact ⟨hsought, hs.revoked x (h r hr x hx), fun tokenHash hc => List.not_mem_nil (hcached tokenHash hc)⟩

theorem revoked_of_found (h : db.Sound) (hs : s ∈ db.sessions) (hfound : found s = true) :
    Revoked { db with sessions := updateWhere found ({ · with revokedAt := some db.now }) db.sessions } s.id := by
  refine ⟨h.issued s hs, fun s' hs' hid => ?_⟩
  obtain ⟨s₀, hs₀, ⟨_, rfl⟩ | ⟨hother, rfl⟩⟩ := mem_updateWhere hs'
  · exact Option.some_ne_none _
  · rw [h.unique.eq_of_entry hs₀ hs (congrArg some hid) rfl, hfound] at hother
    cases hother

theorem revoke_revoked (h : db.Sound) (keys : List UserKey) (found : List Nat) :
    ∀ r ∈ (db.revoke keys found).1, ∀ x ∈ r.sessions, Revoked (db.revoke keys found).2 x := by
  intro r hr x hx
  obtain ⟨key, _, rfl⟩ := List.mem_map.mp hr
  obtain ⟨s, hs, rfl⟩ := List.mem_map.mp hx
  obtain ⟨hs, hguard⟩ := List.mem_filter.mp hs
  simp only [Bool.and_eq_true] at hguard
  exact revoked_of_found h hs (by simpa using hguard.1)

theorem revokeOne_revoked (h : db.Sound) (key : UserKey) (sessionId : Nat)
    (hs : (db.revokeOne key sessionId).1 = some s) : Revoked (db.revokeOne key sessionId).2 s.id := by
  have hfind : db.sessions.find? (fun s => s.id = sessionId && s.of key && s.revokedAt.isNone) = some s := hs
  have hmatches := List.find?_some hfind
  exact revoked_of_found h (List.mem_of_find?_eq_some hfind) hmatches

theorem redeem_revoked (h : db.Sound) (tenantId : Uuid) (tokenHash : String) (instant : Millis)
    (passwordHash password : String)
    (hr : (db.redeem tenantId tokenHash instant passwordHash password).1 = .reset r email) :
    ∀ x ∈ r.sessions, Revoked (db.redeem tenantId tokenHash instant passwordHash password).2 x := by
  intro x hx
  rw [AuthDb.redeem] at hr ⊢
  split at hr
  · cases hr
  · rename_i t ht
    split at hr
    · cases hr
    · rename_i u hu
      cases hr
      obtain ⟨s, hs, rfl⟩ := List.mem_map.mp hx
      obtain ⟨hs, hguard⟩ := List.mem_filter.mp hs
      simp only [Bool.and_eq_true] at hguard
      have hfound : (fun s : SessionRow =>
          (db.revocable [(tenantId, t.userId)] none).contains s.id && s.revokedAt.isNone) s = true := by
        simp only [List.contains_iff_mem, Bool.and_eq_true]
        exact ⟨hx, hguard.1.2⟩
      exact revoked_of_found h hs hfound

theorem revokeSessions_ensures (userIds : List Uuid) (keepSessionId : Option Nat) (db : AuthDb) :
    Prog.Ensures (purging crypto) (fun _ _ => True) db (revokeSessions tenantId userIds keepSessionId) := by
  have hrevoked : Prog.Ensures (purging crypto) (fun users s => ∀ r ∈ users, ∀ x ∈ r.sessions, Revoked s x) db
      (revokeAllForUsers tenantId userIds keepSessionId) := by
    refine Prog.Ensures.bind purging_sound ((purgeUsers_acts _ _).ensures db) fun _ s _ _ => ?_
    refine Prog.Ensures.bind purging_sound ((acts_read _ _).ensures s) fun found s' _ _ => ?_
    refine Prog.Ensures.stmt fun s hs hinv _ => ⟨.revoked _ s fun row hrow => ?_, revoke_revoked hinv _ _⟩
    simp only [Bool.and_eq_true, Option.isNone_iff_eq_none] at hrow
    exact hrow.2
  exact hrevoked.bind purging_sound fun users s _ h => purgeCacheForUsers_ensures users s h

theorem revokeOne_effect (db : AuthDb) (key : UserKey) (sessionId : Nat) :
    Effect crypto Cold .revoke db (db.revokeOne key sessionId).2 := by
  refine .revoked _ db fun s hs => ?_
  simp only [Bool.and_eq_true, Option.isNone_iff_eq_none] at hs
  exact hs.2

theorem logout_ensures (principal : SessionPrincipal) (allSessions : Bool) (db : AuthDb) :
    Prog.Ensures (purging crypto) (fun _ _ => True) db (logout principal allSessions) := by
  rw [logout]
  split
  · exact revokeSessions_ensures _ _ _ db
  · intro s _ hinv _
    refine ⟨revokeOne_effect s _ _, purgeCacheForUsers_ensures _ _ fun r hr x hx => ?_⟩
    rw [List.mem_singleton.mp hr, Option.mem_toList] at hx
    obtain ⟨row, hrow, rfl⟩ := Option.map_eq_some_iff.mp hx
    exact revokeOne_revoked hinv _ _ hrow

theorem resetConfirm_ensures (token password salt : String) (db : AuthDb) :
    Prog.Ensures (purging crypto) (fun _ _ => True) db (resetConfirm crypto tenantId token password salt) := by
  refine Prog.Ensures.bind purging_sound ((acts_read _ _).ensures db) fun presented s _ _ => ?_
  cases presented with
  | none => trivial
  | some =>
    simp only
    split
    · trivial
    · have hredeemed : Prog.Ensures (purging crypto)
          (fun redemption s => ∀ r email, redemption = .reset r email → ∀ x ∈ r.sessions, Revoked s x) s
          (redeemToken tenantId (crypto.sha256 token) (crypto.argon2 salt password) password) := by
        refine Prog.Ensures.bind purging_sound ((acts_read _ _).ensures s) fun begun s _ _ => ?_
        refine Prog.Ensures.bind purging_sound (Acts.ensures ?_ s) fun _ s _ _ => ?_
        · cases begun.2 with
          | none => exact acts_pure _
          | some => exact purgeUsers_acts _ _
        · refine Prog.Ensures.stmt fun s _ hinv _ => ⟨.redeemed _ _ _ salt _ s, fun r email hr => ?_⟩
          exact redeem_revoked hinv _ _ _ _ _ hr
      refine hredeemed.bind purging_sound fun redemption s _ hrevoked => ?_
      cases redemption with
      | reset r email =>
        have hr : ∀ r' ∈ [r], ∀ x ∈ r'.sessions, Revoked s x := by
          intro r' hr' x hx
          rw [List.mem_singleton.mp hr'] at hx
          exact hrevoked r email rfl x hx
        refine (purgeCacheForUsers_ensures [r] s hr).bind purging_sound fun _ s' _ _ => ?_
        exact ((clearEmailFailures_acts tenantId email).bind fun _ => acts_pure _).ensures s'
      | notRedeemable => exact (classifyRejection_acts _ _).ensures s
      | ownerInactive => trivial

theorem cached_of_read (h : (Expiring.find db.redis.sess db.now tokenHash).map (·.value) = some principal) :
    Cached db principal.sessionId tokenHash := by
  obtain ⟨e, he, rfl⟩ := Option.map_eq_some_iff.mp h
  obtain ⟨hmem, hkey, hlive⟩ := Expiring.find_some he
  exact ⟨e, hmem, hkey, hlive, rfl⟩

theorem resolved_live {tenantId : Uuid} (h : db.resolved tenantId tokenHash = some row) : ¬ Revoked db row.1.id := by
  intro hrevoked
  rw [AuthDb.resolved] at h
  split at h
  · cases h
  · rename_i s hs
    split at h
    · cases h
    · cases (Option.ite_none_right_eq_some.mp h).2
      have hmatches := List.find?_some hs
      simp only [SessionRow.live, Bool.and_eq_true, Option.isNone_iff_eq_none] at hmatches
      exact hrevoked.2 s (List.mem_of_find?_eq_some hs) rfl hmatches.2.1.1

theorem resolve_ensures (gone : List Revocation) (token : String) (tenantId : Uuid) (db : AuthDb)
    (hgone : ∀ r ∈ gone, r ∈ db.revocations) : Prog.Ensures (purging crypto)
      (fun answer _ => ∀ principal, answer = some principal → ∀ r ∈ gone, principal.sessionId ∉ r.sessions) db
      (resolve crypto token tenantId) := by
  have hcached : Prog.Ensures (purging crypto)
      (fun (cached : Option (Option SessionPrincipal)) s => (∀ r ∈ gone, r ∈ s.revocations) ∧
        ∀ principal, cached.join = some principal → ∀ r ∈ gone, principal.sessionId ∉ r.sessions) db
      (cacheRead (crypto.sha256 token)) := by
    intro s hs hinv _
    cases hup : s.redis.up with
    | false =>
      simp only [hup, Bool.false_eq_true, if_false]
      exact ⟨.none _ s, fun r hr => hs.revocations r (hgone r hr), fun principal h => by cases h⟩
    | true =>
      simp only [hup, if_true]
      refine ⟨.keys _ s _ rfl, fun r hr => hs.revocations r (hgone r hr), fun principal h r hr hmem => ?_⟩
      have hcold := hinv.cold r (hs.revocations r (hgone r hr)) _ hmem
      exact hcold.2.2 _ (cached_of_read h)
  refine Prog.Ensures.bind purging_sound hcached fun cached s _ h => ?_
  split
  · rename_i principal hfilter
    intro principal' heq
    cases heq
    exact h.2 principal (Option.filter_eq_some_iff.mp hfilter).1
  · have hread : Prog.Ensures (purging crypto)
        (fun (row : Option (SessionRow × UserRow)) _ =>
          ∀ found, row = some found → ∀ r ∈ gone, found.1.id ∉ r.sessions) s
        (Prog.read .sessionRead (·.resolved tenantId (crypto.sha256 token))) := by
      refine Prog.Ensures.stmt fun s' hs' hinv _ => ⟨.none _ s', fun found hfound r hr hmem => ?_⟩
      have hcold := hinv.cold r (hs'.revocations r (h.1 r hr)) _ hmem
      exact resolved_live hfound hcold.2.1
    refine Prog.Ensures.bind purging_sound hread fun row s _ hrow => ?_
    cases row with
    | none =>
      intro principal heq
      cases heq
    | some row =>
      have hslide : Acts crypto Cold (Prog.stmt .slide (·.slide row.1)) :=
        Prog.Within.stmt fun db _ => .slid row.1 db
      refine Prog.Ensures.bind purging_sound (hslide.ensures s) fun expiresAt s _ _ => ?_
      refine Prog.Ensures.bind purging_sound ((cacheIfIndexed_acts _ _ _).ensures s) fun _ s _ _ => ?_
      intro principal heq
      cases heq
      exact hrow row rfl

theorem authProgram_ensures (c : AuthCall) (db : AuthDb) :
    Prog.Ensures (purging crypto) (fun _ _ => True) db (authProgram crypto c) := by
  cases c with
  | login => exact ((login_acts _ _ _ _).bind fun _ => acts_pure _).ensures db
  | resolve => exact ((resolve_acts _ _).bind fun _ => acts_pure _).ensures db
  | logout => exact (logout_ensures _ _ db).bind purging_sound fun _ _ _ _ => trivial
  | revokeOwn => exact ((revokeOwn_acts _ _).bind fun _ => acts_pure _).ensures db
  | revokeSessions => exact (revokeSessions_ensures _ _ _ db).bind purging_sound fun _ _ _ _ => trivial
  | resetRequest => exact ((resetRequest_acts _ _ _).bind fun _ => acts_pure _).ensures db
  | resetConfirm => exact (resetConfirm_ensures _ _ _ _ db).bind purging_sound fun _ _ _ _ => trivial
  | tick milliseconds => exact Prog.Ensures.stmt fun s _ _ _ => ⟨.ticked milliseconds s, trivial⟩
  | reach up => exact Prog.Ensures.stmt fun s _ _ _ => ⟨.keys _ s { s.redis with up } rfl, trivial⟩

/-- Revocation is immediate: in every run that meets the condition, a resolution that starts once the second purge of a
    revocation has completed does not answer the principal of a session its commit revoked. -/
theorem revocation_is_immediate {db : AuthDb} (hdb : db.Sound) {s₀ s : AuthSys}
    (hbefore : Reachable (authProgram crypto) (fun s _ tag => reachesCache s.db tag = true) (.idle db) s₀)
    (hrun : Reachable (authProgram crypto) (fun s _ tag => reachesCache s.db tag = true) s₀ s) {i : Nat}
    (hi : s₀.calls.length ≤ i) {token : String} {tenantId : Uuid} {principal : SessionPrincipal}
    (hanswer : s.calls[i]? = some (.resolve token tenantId, .pure (.resolved (some principal)))) :
    ∀ r ∈ s₀.db.revocations, principal.sessionId ∉ r.sessions := by
  have hprog : ∀ c db, Prog.Guards (purging crypto) db (authProgram crypto c) :=
    fun c db => (authProgram_ensures c db).guards
  have hguarded := Reachable.guards purging_sound hprog (fun _ _ _ h => h) (Sys.guarded_idle hdb) hbefore
  let answers : AuthCall → AuthReply → AuthDb → Prop := fun c reply _ =>
    ∀ token tenantId principal, c = .resolve token tenantId → reply = .resolved (some principal) →
      ∀ r ∈ s₀.db.revocations, principal.sessionId ∉ r.sessions
  have hsince : ∀ c db, Later s₀.db db → Prog.Ensures (purging crypto) (answers c) db (authProgram crypto c) := by
    intro c db hlater
    cases c with
    | resolve token tenantId =>
      have hresolve : Prog.Ensures (purging crypto) _ db (resolve crypto token tenantId) :=
        resolve_ensures s₀.db.revocations token tenantId db hlater.revocations
      refine Prog.Ensures.bind purging_sound hresolve ?_
      intro answer _ _ hanswer _ _ principal _ hreply
      cases hreply
      exact hanswer principal rfl
    | _ =>
      refine (authProgram_ensures _ db).mono ?_
      intro _ _ _ _ _ _ hcall
      cases hcall
  have hensured := Reachable.ensures_since purging_sound hprog (fun _ _ _ h => h) hguarded hsince
    (fun _ _ _ _ _ h => h) hrun i _ hi hanswer
  exact hensured token tenantId principal rfl rfl

def adaTwice : AuthDb where
  users := [ada]
  sessions := [
    { id := 0, tenantId := 1, userId := 1, tokenHash := "phone", expiresAt := sessionIdleMs,
      absoluteExpiresAt := sessionAbsoluteMs, lastSeenAt := some 0, password := "correct horse" },
    { id := 1, tenantId := 1, userId := 1, tokenHash := "laptop", expiresAt := sessionIdleMs,
      absoluteExpiresAt := sessionAbsoluteMs, lastSeenAt := some 0, password := "correct horse" }]
  nextSession := 2

theorem adaTwice_sound : adaTwice.Sound where
  unique := by decide
  issued := by decide
  cold := by simp [adaTwice]

def adaOn (sessionId : Nat) : SessionPrincipal where
  userId := 1
  tenantId := 1
  email := ada.email
  role := .agent
  sessionId
  expiresAt := sessionIdleMs

def answered (s : AuthSys) (i : Nat) : Option (AuthCall × Option AuthReply) := s.calls[i]?.map fun e => (e.1, e.2.result?)

theorem answered_eq (h : answered s i = some (c, some reply)) : s.calls[i]? = some (c, .pure reply) := by
  obtain ⟨⟨c', p⟩, hcall, heq⟩ := Option.map_eq_some_iff.mp h
  obtain ⟨rfl, hresult⟩ := Prod.mk.inj heq
  have hp : p = .pure reply := Prog.eq_pure_of_result? hresult
  rw [hcall, hp]

/-- The phone signs out; then the laptop is resolved. -/
theorem revocation_is_immediate_on_the_phone : ∃ s₀ s : AuthSys,
    s₀.db.revocations = [⟨(1, 1), [0]⟩] ∧ answered s 1 = some (.resolve "laptop" 1, some (.resolved (some (adaOn 1)))) ∧
      ∀ r ∈ s₀.db.revocations, (adaOn 1).sessionId ∉ r.sessions := by
  let ok : AuthSys → AuthCall → AuthStmt → Bool := fun s _ tag => reachesCache s.db tag
  have hrun : ((run (authProgram .transparent) ok ([.spawn (.logout (adaOn 0) false)] ++ List.replicate 4 (.step 0))
      (.idle adaTwice)).bind fun s₀ =>
        (run (authProgram .transparent) ok ([.spawn (.resolve "laptop" 1)] ++ List.replicate 5 (.step 1)) s₀).map fun s =>
          (s₀.calls.length, decide (s₀.db.revocations = [⟨(1, 1), [0]⟩]),
            decide (answered s 1 = some (.resolve "laptop" 1, some (.resolved (some (adaOn 1))))))) =
              some (1, true, true) := by
    decide +kernel
  obtain ⟨s₀, hs₀, hrest⟩ := Option.bind_eq_some_iff.mp hrun
  obtain ⟨s, hs, hend⟩ := Option.map_eq_some_iff.mp hrest
  obtain ⟨hlength, hend⟩ := Prod.mk.inj hend
  obtain ⟨hrevoked, hanswer⟩ := Prod.mk.inj hend
  have hanswered := of_decide_eq_true hanswer
  have himmediate := revocation_is_immediate adaTwice_sound (reachable_of_run hs₀) (reachable_of_run hs)
    (Nat.le_of_eq hlength) (answered_eq hanswered)
  exact ⟨s₀, s, of_decide_eq_true hrevoked, hanswered, himmediate⟩

/-- A resolution has read the session when it is revoked, and caches its principal after the second purge. -/
theorem revoked_principal_is_cached_again : ¬ ∀ (crypto : Crypto) (db : AuthDb), db.Sound → ∀ s₀ s : AuthSys,
      Reachable (authProgram crypto) anyStep (.idle db) s₀ → Reachable (authProgram crypto) anyStep s₀ s →
        ∀ i token tenantId principal, s₀.calls.length ≤ i →
          s.calls[i]? = some (.resolve token tenantId, .pure (.resolved (some principal))) →
            ∀ r ∈ s₀.db.revocations, principal.sessionId ∉ r.sessions := by
  intro hclaim
  have hrun : ((run (authProgram .transparent) (fun _ _ _ => true)
      ([.spawn (.resolve "phone" 1), .step 0, .step 0, .step 0, .spawn (.revokeSessions 1 [1] none)] ++
        List.replicate 6 (.step 1)) (.idle adaTwice)).bind fun s₀ =>
        (run (authProgram .transparent) (fun _ _ _ => true)
          [.step 0, .step 0, .spawn (.resolve "phone" 1), .step 2] s₀).map fun s =>
            (s₀.calls.length, decide (⟨(1, 1), [0, 1]⟩ ∈ s₀.db.revocations),
              decide (answered s 2 = some (.resolve "phone" 1, some (.resolved (some (adaOn 0))))))) =
                some (2, true, true) := by
    decide +kernel
  obtain ⟨s₀, hs₀, hrest⟩ := Option.bind_eq_some_iff.mp hrun
  obtain ⟨s, hs, hend⟩ := Option.map_eq_some_iff.mp hrest
  obtain ⟨hlength, hend⟩ := Prod.mk.inj hend
  obtain ⟨hrevoked, hanswer⟩ := Prod.mk.inj hend
  have himmediate := hclaim .transparent adaTwice adaTwice_sound s₀ s (reachable_of_run_any hs₀)
    (reachable_of_run_any hs) 2 "phone" 1 (adaOn 0) (Nat.le_of_eq hlength) (answered_eq (of_decide_eq_true hanswer))
  exact himmediate _ (of_decide_eq_true hrevoked) (by decide)

end WhatsappCrm.Auth
