/-
Purpose: What each statement of the auth layer can do, whichever call it belongs to.
-/
import WhatsappCrm.Auth.Login

namespace WhatsappCrm.Auth

open Interleaving Table

variable (tenantId : Uuid)

variable (tokenHash email : String)

/-- What a statement can do; `ended` is what holds when the second purge of a revocation is over. -/
inductive Effect (crypto : Crypto) (ended : AuthDb → Revocation → Prop) : AuthStmt → AuthDb → AuthDb → Prop where
  | none (tag : AuthStmt) (db : AuthDb) : Effect crypto ended tag db db
  /-- Other keys of Redis than the cached principals. -/
  | keys (tag : AuthStmt) (db : AuthDb) (r : AuthRedis) (hsess : r.sess = db.redis.sess) :
      Effect crypto ended tag db { db with redis := r }
  | cached (sessionId : Nat) (db : AuthDb) (r : AuthRedis)
      (hsess : ∀ e ∈ r.sess, e ∈ db.redis.sess ∨ e.value.sessionId = sessionId) :
      Effect crypto ended (.cacheWrite sessionId) db { db with redis := r }
  | evicted (tag : AuthStmt) (db : AuthDb) (r : AuthRedis) (hsess : ∀ e ∈ r.sess, e ∈ db.redis.sess) :
      Effect crypto ended tag db { db with redis := r }
  | sought (r : Revocation) (revoked : List Nat) (db : AuthDb) :
      Effect crypto ended (.seek r revoked) db { db with sought := r.sessions ++ db.sought }
  | announced (r : Revocation) (db : AuthDb) (hover : ended db r) :
      Effect crypto ended .announce db { db with revocations := r :: db.revocations }
  | failed (key : UserKey) (db : AuthDb) : Effect crypto ended .accountFailure db (db.recordAccountFailure key)
  | signedIn (key : UserKey) (rehashed : Option String) (tokenHash password : String) (db : AuthDb)
      (hrehashed : ∀ passwordHash, rehashed = some passwordHash → ∃ salt, passwordHash = crypto.argon2 salt password) :
      Effect crypto ended (.signIn key password) db (db.signIn key rehashed tokenHash password).2
  | slid (row : SessionRow) (db : AuthDb) : Effect crypto ended .slide db (db.slide row).2
  | revoked (found : SessionRow → Bool) (db : AuthDb) (hfound : ∀ s, found s = true → s.revokedAt = none) :
      Effect crypto ended .revoke db
        { db with sessions := updateWhere found ({ · with revokedAt := some db.now }) db.sessions }
  | requested (key : UserKey) (tokenHash : String) (expiresAt : Millis) (db : AuthDb) :
      Effect crypto ended .resetIssue db (db.issueResetToken key tokenHash expiresAt)
  | redeemed (tenantId : Uuid) (tokenHash : String) (instant : Millis) (salt password : String) (db : AuthDb) :
      Effect crypto ended .resetCommit db (db.redeem tenantId tokenHash instant (crypto.argon2 salt password) password).2
  | ticked (milliseconds : Nat) (db : AuthDb) : Effect crypto ended .tick db { db with now := db.now + milliseconds }

variable {ended : AuthDb → Revocation → Prop}

abbrev Acts {α : Type} (crypto : Crypto) (ended : AuthDb → Revocation → Prop) (p : AuthProg α) : Prop :=
  p.Within (fun _ => True) (Effect crypto ended)

variable {α β : Type} {tag : AuthStmt}

theorem Acts.bind (h : Acts crypto ended p) (hf : ∀ a, Acts crypto ended (f a)) : Acts crypto ended (p.bind f) :=
  Prog.Within.bind h hf

theorem acts_pure (a : α) : Acts crypto ended (.pure a) := trivial

theorem acts_read (tag : AuthStmt) (f : AuthDb → α) : Acts crypto ended (.read tag f) :=
  Prog.Within.read fun db _ => .none tag db

theorem acts_redis {command : Millis → AuthRedis → β × AuthRedis}
    (h : ∀ db : AuthDb, Effect crypto ended tag db { db with redis := (command db.now db.redis).2 }) :
    Acts crypto ended (redis tag command) := by
  apply Prog.Within.stmt
  intro db _
  split
  · exact h db
  · exact .none tag db

theorem acts_keys {command : Millis → AuthRedis → β × AuthRedis}
    (h : ∀ now r, (command now r).2.sess = r.sess) : Acts crypto ended (redis tag command) :=
  acts_redis fun db => .keys tag db _ (h db.now db.redis)

theorem acts_evicts {command : Millis → AuthRedis → β × AuthRedis}
    (h : ∀ now r, ∀ e ∈ (command now r).2.sess, e ∈ r.sess) : Acts crypto ended (redis tag command) :=
  acts_redis fun db => .evicted tag db _ (h db.now db.redis)

theorem mem_cache {r : AuthRedis} {now : Millis} {tokenHash : String}
    (he : e ∈ (r.cache now tokenHash principal expiresAt).sess) : e ∈ r.sess ∨ e.value.sessionId = principal.sessionId := by
  rw [AuthRedis.cache] at he
  split at he
  · exact .inl he
  · rcases Expiring.mem_put.mp he with rfl | ⟨he, _⟩
    · exact .inr rfl
    · exact .inl he

theorem mem_del {r : AuthRedis} {keys : List DoomedKey}
    (he : e ∈ (r.del keys).sess) : e ∈ r.sess ∧ DoomedKey.sess e.key ∉ keys := by
  have herase : e ∈ Expiring.erase r.sess fun tokenHash => keys.contains (.sess tokenHash) := he
  obtain ⟨he, hkept⟩ := Expiring.mem_erase.mp herase
  exact ⟨he, by simpa using hkept⟩

theorem cacheIfIndexed_acts (principal : SessionPrincipal) (expiresAt : Millis) :
    Acts crypto ended (cacheIfIndexed tokenHash principal expiresAt) := by
  refine (acts_keys fun _ _ => rfl).bind fun indexed => ?_
  cases indexed with
  | none => exact acts_pure _
  | some _ =>
    refine Acts.bind (acts_redis fun db => ?_) fun _ => acts_pure _
    exact .cached _ db _ fun e he => mem_cache he

theorem resolve_acts (token : String) (tenantId : Uuid) : Acts crypto ended (resolve crypto token tenantId) := by
  refine (acts_keys fun _ _ => rfl).bind fun cached => ?_
  split
  · exact acts_pure _
  · refine (acts_read _ _).bind fun row => ?_
    cases row with
    | none => exact acts_pure _
    | some row =>
      refine Acts.bind (Prog.Within.stmt fun db _ => .slid row.1 db) fun expiresAt => ?_
      exact (cacheIfIndexed_acts _ _ _).bind fun _ => acts_pure _

theorem seekAll_acts (revoked : List Nat) (users : List Revocation) : Acts crypto ended (seekAll revoked users) := by
  induction users with
  | nil => exact acts_pure _
  | cons r rest ih =>
    refine Acts.bind (Prog.Within.stmt fun db _ => .sought r revoked db) fun members => ?_
    cases members with
    | none => exact acts_pure _
    | some => exact ih.bind fun _ => acts_pure _

theorem delAll_acts (revoked : List Nat) (chunks : List (List DoomedKey)) : Acts crypto ended (delAll revoked chunks) := by
  induction chunks with
  | nil => exact acts_pure _
  | cons keys rest ih =>
    refine (acts_evicts fun _ _ e he => (mem_del he).1).bind fun answer => ?_
    cases answer with
    | none => exact acts_pure _
    | some => exact ih

theorem purgeUsers_acts (users : List Revocation) (dropIndex : Bool) : Acts crypto ended (purgeUsers users dropIndex) := by
  rw [purgeUsers]
  split
  · exact acts_pure _
  · refine (seekAll_acts _ users).bind fun members => ?_
    cases members with
    | none => exact acts_pure _
    | some => exact delAll_acts _ _

theorem announceAll_acts (hover : ∀ db r, ended db r) (users : List Revocation) :
    Acts crypto ended (announceAll users) := by
  induction users with
  | nil => exact acts_pure _
  | cons r rest ih => exact Acts.bind (Prog.Within.stmt fun db _ => .announced r db (hover db r)) fun _ => ih

theorem purgeCacheForUsers_acts (hover : ∀ db r, ended db r) (users : List Revocation) :
    Acts crypto ended (purgeCacheForUsers users) :=
  (purgeUsers_acts users true).bind fun _ => announceAll_acts hover users

theorem revokeAllForUsers_acts (userIds : List Uuid) (keepSessionId : Option Nat) :
    Acts crypto ended (revokeAllForUsers tenantId userIds keepSessionId) := by
  refine (purgeUsers_acts _ _).bind fun _ => (acts_read _ _).bind fun found => ?_
  refine Prog.Within.stmt fun db _ => .revoked _ db fun s hs => ?_
  simp only [Bool.and_eq_true, Option.isNone_iff_eq_none] at hs
  exact hs.2

theorem revokeSessions_acts (hover : ∀ db r, ended db r) (tenantId : Uuid) (userIds : List Uuid) (keepSessionId : Option Nat) :
    Acts crypto ended (revokeSessions tenantId userIds keepSessionId) :=
  (revokeAllForUsers_acts _ _ _).bind (purgeCacheForUsers_acts hover)

theorem revokeOne_acts (key : UserKey) (sessionId : Nat) :
    Acts crypto ended (Prog.stmt .revoke (·.revokeOne key sessionId)) := by
  refine Prog.Within.stmt fun db _ => .revoked _ db fun s hs => ?_
  simp only [Bool.and_eq_true, Option.isNone_iff_eq_none] at hs
  exact hs.2

theorem logout_acts (hover : ∀ db r, ended db r) (principal : SessionPrincipal) (allSessions : Bool) :
    Acts crypto ended (logout principal allSessions) := by
  rw [logout]
  split
  · exact revokeSessions_acts hover _ _ _
  · exact (revokeOne_acts _ _).bind fun _ => purgeCacheForUsers_acts hover _

theorem revokeOwn_acts (principal : SessionPrincipal) (sessionId : Nat) :
    Acts crypto ended (revokeOwn principal sessionId) := by
  refine (revokeOne_acts _ _).bind fun row => ?_
  cases row with
  | none => exact acts_pure _
  | some =>
    refine (acts_evicts fun _ _ e he => (mem_del he).1).bind fun answer => ?_
    cases answer with
    | none => exact acts_pure _
    | some _ => exact (acts_keys fun _ _ => rfl).bind fun _ => acts_pure _

theorem recordEmailFailure_acts : Acts crypto ended (recordEmailFailure crypto tenantId email) := by
  refine (acts_keys fun _ _ => rfl).bind fun failures => ?_
  cases failures with
  | none => exact acts_pure _
  | some =>
    simp only
    split
    · exact acts_pure _
    · exact (acts_keys fun _ _ => rfl).bind fun _ => acts_pure _

theorem refuse_acts (userId : Option Uuid) (email : String) :
    Acts crypto ended (refuse crypto tenantId userId email) := by
  refine Acts.bind ?_ fun _ => acts_pure _
  cases userId with
  | none => exact recordEmailFailure_acts tenantId email
  | some =>
    exact Acts.bind (Prog.Within.stmt fun db _ => .failed _ db) fun _ => recordEmailFailure_acts tenantId email

theorem clearEmailFailures_acts : Acts crypto ended (clearEmailFailures crypto tenantId email) :=
  (acts_keys fun _ _ => rfl).bind fun _ => acts_pure _

theorem issueSession_acts (candidate : LoginCandidate) (passwordHash plaintext : String)
    (draw : LoginDraw) : Acts crypto ended (issueSession crypto tenantId candidate passwordHash plaintext draw) := by
  refine Acts.bind (Prog.Within.stmt fun db _ => .signedIn _ _ _ _ db ?_) fun issued => ?_
  · intro rehashed hrehashed
    cases (Option.ite_none_right_eq_some.mp hrehashed).2
    exact ⟨draw.salt, rfl⟩
  · cases issued with
    | none => exact acts_pure _
    | some =>
      exact (cacheIfIndexed_acts _ _ _).bind fun _ => (clearEmailFailures_acts _ _).bind fun _ => acts_pure _

theorem authenticate_acts (input : LoginInput) (context : LoginContext) (draw : LoginDraw)
    (candidate : Option LoginCandidate) : Acts crypto ended (authenticate crypto tenantId input context draw candidate) := by
  cases candidate with
  | none => exact refuse_acts _ _ _
  | some =>
    simp only [authenticate]
    split
    · exact refuse_acts _ _ _
    · split
      · exact refuse_acts _ _ _
      · split
        · exact acts_pure _
        · split
          · exact refuse_acts _ _ _
          · split
            · exact acts_pure _
            · exact issueSession_acts _ _ _ _ _

theorem login_acts (input : LoginInput) (context : LoginContext) (draw : LoginDraw) :
    Acts crypto ended (login crypto tenantId input context draw) := by
  refine Acts.bind ?_ fun refusal => ?_
  · refine (acts_keys fun _ _ => rfl).bind fun lockedForMs => ?_
    cases lockedForMs with
    | none => exact acts_pure _
    | some =>
      simp only
      split
      · exact acts_pure _
      · exact acts_pure _
  · cases refusal with
    | some => exact acts_pure _
    | none => exact (acts_read _ _).bind fun candidate => authenticate_acts _ _ _ _ candidate

theorem resetRequest_acts (token : String) : Acts crypto ended (resetRequest crypto tenantId email token) := by
  refine (acts_read _ _).bind fun user => ?_
  cases user with
  | none => exact acts_pure _
  | some =>
    refine (acts_read _ _).bind fun issued => ?_
    split
    · exact acts_pure _
    · exact Prog.Within.stmt fun db _ => .requested _ _ _ db

theorem redeemToken_acts (salt password : String) :
    Acts crypto ended (redeemToken tenantId tokenHash (crypto.argon2 salt password) password) := by
  refine (acts_read _ _).bind fun begun => Acts.bind ?_ fun _ => ?_
  · cases begun.2 with
    | none => exact acts_pure _
    | some => exact purgeUsers_acts _ _
  · exact Prog.Within.stmt fun db _ => .redeemed _ _ _ salt _ db

theorem classifyRejection_acts : Acts crypto ended (classifyRejection tenantId tokenHash) := by
  refine (acts_read _ _).bind fun token => ?_
  cases token with
  | none | some => exact acts_pure _

theorem redeemed_acts (hover : ∀ db r, ended db r) (tenantId : Uuid) (tokenHash : String) (redemption : Redemption) :
    Acts crypto ended (redeemed crypto tenantId tokenHash redemption) := by
  cases redemption with
  | notRedeemable => exact classifyRejection_acts _ _
  | ownerInactive => exact acts_pure _
  | reset =>
    exact (purgeCacheForUsers_acts hover _).bind fun _ => (clearEmailFailures_acts _ _).bind fun _ => acts_pure _

theorem resetConfirm_acts (hover : ∀ db r, ended db r) (tenantId : Uuid) (token password salt : String) :
    Acts crypto ended (resetConfirm crypto tenantId token password salt) := by
  refine (acts_read _ _).bind fun presented => ?_
  cases presented with
  | none => exact acts_pure _
  | some =>
    simp only
    split
    · exact acts_pure _
    · exact (redeemToken_acts _ _ _ _).bind (redeemed_acts hover _ _)

theorem authProgram_acts (hover : ∀ db r, ended db r) (c : AuthCall) : Acts crypto ended (authProgram crypto c) := by
  cases c with
  | login => exact (login_acts _ _ _ _).bind fun _ => acts_pure _
  | resolve => exact (resolve_acts _ _).bind fun _ => acts_pure _
  | logout => exact (logout_acts hover _ _).bind fun _ => acts_pure _
  | revokeOwn => exact (revokeOwn_acts _ _).bind fun _ => acts_pure _
  | revokeSessions => exact (revokeSessions_acts hover _ _ _).bind fun _ => acts_pure _
  | resetRequest => exact (resetRequest_acts _ _ _).bind fun _ => acts_pure _
  | resetConfirm => exact (resetConfirm_acts hover _ _ _ _).bind fun _ => acts_pure _
  | tick milliseconds => exact Prog.Within.stmt fun db _ => .ticked milliseconds db
  | reach => exact Prog.Within.stmt fun db _ => .keys _ db _ rfl

end WhatsappCrm.Auth
