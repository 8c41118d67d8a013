/-
Purpose: Whether a password reset is final.
-/
import WhatsappCrm.Auth.Effects

namespace WhatsappCrm.Auth

open Interleaving Table

variable (crypto : Crypto)

def ResetIsFinal (db : AuthDb) : Prop :=
  ∀ key password, db.resets.lookup key = some password →
    (∀ u ∈ db.users, u.is key = true → ∃ salt, u.passwordHash = some (crypto.argon2 salt password)) ∧
      ∀ s ∈ db.sessions, s.of key = true → s.live db.now = true → s.password = password

def stillVerifies (db : AuthDb) : AuthStmt → Bool
  | .signIn key password => db.users.all fun u => !u.is key || u.passwordHash.all (crypto.verify · password)
  | _ => true

/-- What carries the property: an expired session may slide, so it has to be revoked, too. -/
structure Settled (db : AuthDb) : Prop where
  password : ∀ key password, db.resets.lookup key = some password → ∀ u ∈ db.users, u.is key = true →
    ∃ salt, u.passwordHash = some (crypto.argon2 salt password)
  sessions : ∀ key password, db.resets.lookup key = some password → ∀ s ∈ db.sessions, s.of key = true →
    s.revokedAt = none → s.password = password

variable {crypto}

variable {db : AuthDb} {key : UserKey}

theorem Settled.final (h : Settled crypto db) : ResetIsFinal crypto db := by
  intro key password hreset
  refine ⟨h.password key password hreset, fun s hs hof hlive => h.sessions key password hreset s hs hof ?_⟩
  simp only [SessionRow.live, Bool.and_eq_true, Option.isNone_iff_eq_none] at hlive
  exact hlive.1.1

theorem Settled.keep (h : Settled crypto db) (hresets : db'.resets = db.resets)
    (husers : ∀ u' ∈ db'.users, ∃ u ∈ db.users, (∀ key, u'.is key = u.is key) ∧ u'.passwordHash = u.passwordHash)
    (hsessions : ∀ s' ∈ db'.sessions, s'.revokedAt = none →
      ∃ s ∈ db.sessions, s.revokedAt = none ∧ (∀ key, s'.of key = s.of key) ∧ s'.password = s.password) :
    Settled crypto db' := by
  constructor
  · intro key password hreset u' hu' his
    obtain ⟨u, hu, hkey, hhash⟩ := husers u' hu'
    rw [hhash]
    exact h.password key password (hresets ▸ hreset) u hu (hkey key ▸ his)
  · intro key password hreset s' hs' hof hopen
    obtain ⟨s, hs, hopen', hkey, hpassword⟩ := hsessions s' hs' hopen
    rw [hpassword]
    exact h.sessions key password (hresets ▸ hreset) s hs (hkey key ▸ hof) hopen'

theorem Settled.keep_users (h : Settled crypto db) (hresets : db'.resets = db.resets)
    (husers : ∀ u' ∈ db'.users, ∃ u ∈ db.users, (∀ key, u'.is key = u.is key) ∧ u'.passwordHash = u.passwordHash)
    (hsessions : db'.sessions = db.sessions) : Settled crypto db' := by
  refine h.keep hresets husers ?_
  rw [hsessions]
  exact fun s hs hopen => ⟨s, hs, hopen, fun _ => rfl, rfl⟩

theorem Settled.keep_sessions (h : Settled crypto db) (hresets : db'.resets = db.resets)
    (husers : db'.users = db.users) (hsessions : ∀ s' ∈ db'.sessions, s'.revokedAt = none →
      ∃ s ∈ db.sessions, s.revokedAt = none ∧ (∀ key, s'.of key = s.of key) ∧ s'.password = s.password) :
    Settled crypto db' := by
  refine h.keep hresets ?_ hsessions
  rw [husers]
  exact fun u hu => ⟨u, hu, fun _ => rfl, rfl⟩

theorem Settled.slide (h : Settled crypto db) (row : SessionRow) : Settled crypto (db.slide row).2 := by
  rw [AuthDb.slide]
  split
  · exact h
  · split
    · exact h
    · refine h.keep_sessions rfl rfl fun s' hs' hopen => ?_
      obtain ⟨s, hs, ⟨_, rfl⟩ | ⟨_, rfl⟩⟩ := mem_updateWhere hs'
      · exact ⟨s, hs, hopen, fun _ => rfl, rfl⟩
      · exact ⟨s', hs, hopen, fun _ => rfl, rfl⟩

theorem Settled.revoke (h : Settled crypto db) (found : SessionRow → Bool) : Settled crypto
      { db with sessions := updateWhere found ({ · with revokedAt := some db.now }) db.sessions } := by
  refine h.keep_sessions rfl rfl fun s' hs' hopen => ?_
  obtain ⟨s, hs, ⟨_, rfl⟩ | ⟨_, rfl⟩⟩ := mem_updateWhere hs'
  · cases hopen
  · exact ⟨s', hs, hopen, fun _ => rfl, rfl⟩

theorem Settled.recordAccountFailure (h : Settled crypto db) (key : UserKey) :
    Settled crypto (db.recordAccountFailure key) := by
  refine h.keep_users rfl (fun u' hu' => ?_) rfl
  obtain ⟨u, hu, ⟨_, rfl⟩ | ⟨_, rfl⟩⟩ := mem_updateWhere hu'
  · exact ⟨u, hu, fun _ => rfl, rfl⟩
  · exact ⟨u', hu, fun _ => rfl, rfl⟩

theorem UserRow.is_iff {u : UserRow} : u.is key = true ↔ (u.tenantId, u.id) = key := by
  simp [UserRow.is, Prod.ext_iff]

theorem SessionRow.of_iff {s : SessionRow} : s.of key = true ↔ (s.tenantId, s.userId) = key := by
  simp [SessionRow.of, Prod.ext_iff]

theorem Settled.presented (hcrypto : crypto.Lawful) (h : Settled crypto db) {presented password : String} (hcond : stillVerifies crypto db (.signIn key presented) = true)
    (hreset : db.resets.lookup key = some password) (hu : u ∈ db.users) (his : u.is key = true) :
    presented = password := by
  obtain ⟨salt, hhash⟩ := h.password key password hreset u hu his
  have hverifies := List.all_eq_true.mp hcond u hu
  simp only [his, hhash, Bool.not_true, Bool.false_or, Option.all_some] at hverifies
  exact (hcrypto salt password presented).mp hverifies

theorem Settled.signIn (hcrypto : crypto.Lawful) (h : Settled crypto db) {presented : String} (hcond : stillVerifies crypto db (.signIn key presented) = true) {rehashed : Option String}
    (hrehashed : ∀ passwordHash, rehashed = some passwordHash → ∃ salt, passwordHash = crypto.argon2 salt presented)
    (tokenHash : String) : Settled crypto (db.signIn key rehashed tokenHash presented).2 := by
  rw [AuthDb.signIn]
  split
  · rename_i hany
    obtain ⟨account, haccount, hkey⟩ := List.any_eq_true.mp hany
    by_cases htaken : (db.resetLoginState key rehashed).sessions.any (·.tokenHash = tokenHash) = true
    · simp only [AuthDb.issue, htaken, if_true]
      exact h
    · simp only [AuthDb.issue, htaken]
      constructor
      · intro key' password hreset u' hu' his
        obtain ⟨u, hu, ⟨hselected, rfl⟩ | ⟨_, rfl⟩⟩ := mem_updateWhere hu'
        · obtain rfl : key' = key := (UserRow.is_iff.mp his).symm.trans (UserRow.is_iff.mp hselected)
          cases hr : rehashed with
          | none => exact h.password key' password hreset u hu hselected
          | some =>
            obtain ⟨salt, rfl⟩ := hrehashed _ hr
            rw [h.presented hcrypto hcond hreset hu hselected]
            exact ⟨salt, rfl⟩
        · exact h.password key' password hreset u' hu his
      · intro key' password hreset s hs hof hopen
        rcases mem_snoc.mp hs with hs | rfl
        · exact h.sessions key' password hreset s hs hof hopen
        · obtain rfl : key' = key := (SessionRow.of_iff.mp hof).symm
          exact h.presented hcrypto hcond hreset haccount hkey
  · exact h

theorem revoked_of_reset
    (hs' : s' ∈ (db.revoke [key] (db.revocable [key] none)).2.sessions) (hof : s'.of key = true) :
    s'.revokedAt ≠ none := by
  intro hopen
  obtain ⟨s, hs, ⟨_, rfl⟩ | ⟨hother, rfl⟩⟩ := mem_updateWhere hs'
  · cases hopen
  · have hfound : s'.id ∈ db.revocable [key] none := by
      apply List.mem_map_of_mem
      apply List.mem_filter.mpr
      exact ⟨hs, by simp [hof, hopen]⟩
    simp [hopen, hfound] at hother

theorem Settled.redeem (h : Settled crypto db) (tenantId : Uuid) (tokenHash : String) (instant : Millis)
    (salt password : String) :
    Settled crypto (db.redeem tenantId tokenHash instant (crypto.argon2 salt password) password).2 := by
  rw [AuthDb.redeem]
  split
  · exact h
  · rename_i t _
    split
    · exact h.keep_users rfl (fun u hu => ⟨u, hu, fun _ => rfl, rfl⟩) rfl
    · generalize hkey : ((tenantId, t.userId) : UserKey) = key
      constructor
      · intro key' password' hreset u' hu' his
        obtain ⟨u, hu, ⟨hselected, rfl⟩ | ⟨hother, rfl⟩⟩ := mem_updateWhere hu'
        · obtain rfl : key' = key := (UserRow.is_iff.mp his).symm.trans (UserRow.is_iff.mp hselected)
          simp only [List.lookup_cons_self, Option.some.injEq] at hreset
          exact ⟨salt, by rw [hreset]⟩
        · have hkeys : key' ≠ key := by
            intro heq
            rw [heq, hother] at his
            cases his
          have hbeq : (key' == key) = false := by simpa using hkeys
          simp only [List.lookup_cons, hbeq] at hreset
          exact h.password key' password' hreset u' hu his
      · intro key' password' hreset s' hs' hof hopen
        have hkeys : key' ≠ key := by
          intro heq
          subst heq
          exact revoked_of_reset hs' hof hopen
        have hbeq : (key' == key) = false := by simpa using hkeys
        simp only [List.lookup_cons, hbeq] at hreset
        obtain ⟨s, hs, ⟨_, rfl⟩ | ⟨_, rfl⟩⟩ := mem_updateWhere hs'
        · cases hopen
        · exact h.sessions key' password' hreset s' hs hof hopen

theorem Settled.effect (hcrypto : crypto.Lawful) (h : Settled crypto db)
    (hcond : stillVerifies crypto db tag = true) (heffect : Effect crypto ended tag db db') : Settled crypto db' := by
  cases heffect with
  | none => exact h
  | failed key => exact h.recordAccountFailure key
  | signedIn key rehashed tokenHash password _ hrehashed => exact h.signIn hcrypto hcond hrehashed tokenHash
  | slid row => exact h.slide row
  | revoked found => exact h.revoke found
  | redeemed tenantId tokenHash instant salt password => exact h.redeem tenantId tokenHash instant salt password
  | _ => exact ⟨h.password, h.sessions⟩

/-- A reset is final: in every run whose sign-ins commit only while the stored hash verifies the password they
    presented, the stored password is the one of the last reset and no other password's session is live. -/
theorem password_reset_is_final (hcrypto : crypto.Lawful) {db : AuthDb} (hdb : db.resets = []) {s : AuthSys}
    (hrun : Reachable (authProgram crypto) (fun s _ tag => stillVerifies crypto s.db tag = true) (.idle db) s) :
    ResetIsFinal crypto s.db := by
  have h₀ : Settled crypto db := by
    constructor
    · intro key password hreset
      rw [hdb] at hreset
      cases hreset
    · intro key password hreset
      rw [hdb] at hreset
      cases hreset
  have hinv : Settled crypto s.db := by
    have hprog : ∀ c, (authProgram crypto c).Within (Settled crypto) (Effect crypto fun _ _ => True) :=
      fun c => (authProgram_acts (fun _ _ => trivial) c).weaken fun _ _ => trivial
    exact Reachable.invariant hprog (fun _ _ _ _ hI hcond heffect => hI.effect hcrypto hcond heffect) h₀ hrun
  exact hinv.final

def adaForgot : AuthDb where
  users := [ada]
  resetTokens := [{ tenantId := 1, userId := 1, tokenHash := "link", expiresAt := passwordResetTtlMs, createdAt := 0 }]

def oldPassword : AuthCall :=
  .login 1 { email := ada.email, password := "correct horse" } {} { token := "cookie", salt := "" }

def newPassword : AuthCall := .resetConfirm 1 "link" "battery staple" ""

/-- The sign-in comes first, and the reset revokes its session. -/
def signedInBefore : List (Move AuthCall) :=
  [.spawn oldPassword] ++ List.replicate 6 (.step 0) ++ [.spawn newPassword] ++ List.replicate 9 (.step 1)

theorem password_reset_is_final_after_a_sign_in : ∃ s : AuthSys,
    s.db.sessions.map (·.revokedAt) = [some 0] ∧ s.db.resets = [((1, 1), "battery staple")] ∧
      ResetIsFinal .transparent s.db := by
  have hrun : (run (authProgram .transparent) (fun s _ tag => stillVerifies .transparent s.db tag) signedInBefore
      (.idle adaForgot)).map (fun s => (s.db.sessions.map (·.revokedAt), decide (s.db.resets = [((1, 1), "battery staple")])))
        = some ([some 0], true) := by
    decide +kernel
  obtain ⟨s, hs, hend⟩ := Option.map_eq_some_iff.mp hrun
  obtain ⟨hsessions, hresets⟩ := Prod.mk.inj hend
  have hfinal := password_reset_is_final Crypto.transparent_lawful rfl (reachable_of_run hs)
  exact ⟨s, hsessions, of_decide_eq_true hresets, hfinal⟩

def signsInAfter : List (Move AuthCall) :=
  [.spawn oldPassword, .step 0, .step 0, .spawn newPassword] ++ List.replicate 8 (.step 1) ++ List.replicate 4 (.step 0)

theorem login_outlives_the_reset :
    ¬ ∀ (crypto : Crypto) (db : AuthDb), crypto.Lawful → db.resets = [] → ∀ s : AuthSys,
      Reachable (authProgram crypto) anyStep (.idle db) s → (∀ e ∈ s.calls, e.2.result?.isSome = true) →
        ResetIsFinal crypto s.db := by
  intro hclaim
  have hrun : (run (authProgram .transparent) (fun _ _ _ => true) signsInAfter (.idle adaForgot)).map
      (fun s => (s.calls.all (·.2.result?.isSome), s.db.resets.lookup (1, 1),
        s.db.users.any fun u => u.is (1, 1) && u.passwordHash = some "correct horse")) =
        some (true, some "battery staple", true) := by
    decide +kernel
  obtain ⟨s, hreach, hend⟩ := ends_of_run_any hrun
  obtain ⟨hfinished, hend⟩ := Prod.mk.inj hend
  obtain ⟨hreset, husers⟩ := Prod.mk.inj hend
  have hfinal := hclaim .transparent adaForgot Crypto.transparent_lawful rfl s hreach (List.all_eq_true.mp hfinished)
  obtain ⟨u, hu, hold⟩ := List.any_eq_true.mp husers
  simp only [Bool.and_eq_true, decide_eq_true_eq] at hold
  -- the stored hash is the old one again
  obtain ⟨salt, hnew⟩ := (hfinal (1, 1) "battery staple" hreset).1 u hu hold.1
  rw [hold.2, Option.some.injEq] at hnew
  have hsame : "correct horse" = "battery staple" := hnew
  exact absurd hsame (by decide)

end WhatsappCrm.Auth
