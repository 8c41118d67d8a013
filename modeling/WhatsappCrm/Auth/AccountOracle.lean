/-
Purpose: Whether the lockout tells an address that names an account from one that names none.
-/
import WhatsappCrm.Auth.Login

namespace WhatsappCrm.Auth

open Interleaving Table Lockout

variable (crypto : Crypto) (tenantId : Uuid)

structure Attempt where
  instant : Millis
  input : LoginInput
  context : LoginContext := {}
  draw : LoginDraw

abbrev Outcome := Except LoginError SessionPrincipal

def failing : Outcome → Bool
  | .ok _ => false
  | .error error => error.rejected

def Attempt.run (a : Attempt) (db : AuthDb) : Outcome × AuthDb :=
  (login crypto tenantId a.input a.context a.draw).alone { db with now := a.instant }

def outcomes : List Attempt → AuthDb → List Outcome
  | [], _ => []
  | a :: rest, db => (a.run crypto tenantId db).1 :: outcomes rest (a.run crypto tenantId db).2

def AuthRedis.tally (r : AuthRedis) (key : Uuid × String) : Tally where
  count now := ((Expiring.find r.emailfail now key).map (·.value)).getD 0
  wait now := (Expiring.remaining r.emaillock now key).toNat

def UserRow.tally (u : UserRow) : Tally where
  count now := if u.lastFailedLoginAt.all (· < now - loginLockoutMs) then 0 else u.failedLoginAttempts
  wait now := (u.lockedUntil.getD now - now).toNat

theorem UserRow.tally_wait (u : UserRow) (now : Int) : u.tally.wait now = (u.lockedUntil.getD now - now).toNat := rfl

theorem UserRow.candidate_locked (u : UserRow) (now : Millis) :
    (u.candidate now).locked = true ↔ 0 < u.tally.wait now := by
  rw [u.tally_wait]
  cases h : u.lockedUntil with
  | none => simp [UserRow.candidate, h]
  | some lockedUntil =>
    have hlocked : (u.candidate now).locked = decide (now < lockedUntil) := by simp [UserRow.candidate, h]
    rw [hlocked, decide_eq_true_eq, Option.getD_some, Int.pos_iff_toNat_pos.symm, Int.sub_pos]

theorem UserRow.windowedAttempts_eq (u : UserRow) (now : Millis) : u.windowedAttempts now = u.tally.count now + 1 := by
  simp only [UserRow.windowedAttempts, UserRow.tally]
  split
  · rfl
  · rfl

theorem UserRow.recordFailure_tally (u : UserRow) (now : Int) :
    (u.recordFailure now).tally.Agrees now (u.tally.fail lockoutPolicy now) := by
  intro later hlater
  have hattempts := u.windowedAttempts_eq now
  constructor
  · change (if decide (now < later - loginLockoutMs) = true then 0 else u.windowedAttempts now) =
      if later ≤ now + loginLockoutMs then u.tally.count now + 1 else 0
    simp only [hattempts, decide_eq_true_eq]
    by_cases hforgotten : now < later - loginLockoutMs
    · have hlapsed : ¬ later ≤ now + loginLockoutMs := by omega
      rw [if_pos hforgotten, if_neg hlapsed]
    · have hstands : later ≤ now + loginLockoutMs := by omega
      rw [if_neg hforgotten, if_pos hstands]
  · change ((if u.windowedAttempts now % loginFailureThreshold = 0 then some (now + loginLockoutMs)
      else u.lockedUntil).getD later - later).toNat =
        if (u.tally.count now + 1) % loginFailureThreshold = 0 then (now + loginLockoutMs - later).toNat
        else u.tally.wait later
    rw [hattempts]
    by_cases hlocks : (u.tally.count now + 1) % loginFailureThreshold = 0
    · rw [if_pos hlocks, if_pos hlocks, Option.getD_some]
    · rw [if_neg hlocks, if_neg hlocks, u.tally_wait]

theorem AuthRedis.incr_tally (r : AuthRedis) (now : Millis) (key : Uuid × String) : (r.incr now key).2.tally key =
      { count := ((r.tally key).fail lockoutPolicy now).count, wait := (r.tally key).wait } := by
  ext later
  · simp only [AuthRedis.incr, AuthRedis.tally, Tally.fail, lockoutPolicy, Expiring.find_put, if_pos]
    by_cases hlater : later ≤ now + loginLockoutMs
    · simp [hlater]
    · simp [hlater]
  · rfl

theorem AuthRedis.lock_tally (r : AuthRedis) (now : Millis) (key : Uuid × String) : (r.lock now key).tally key =
      { count := (r.tally key).count, wait := fun later => (now + loginLockoutMs - later).toNat } := by
  ext later
  · rfl
  · exact Expiring.remaining_put_self _ _ _ _ _

theorem recordEmailFailure_alone (email : String) (db : AuthDb) (hup : db.redis.up = true) :
    ∃ r : AuthRedis, ((recordEmailFailure crypto tenantId email).alone db).2 = { db with redis := r } ∧
      r.up = true ∧
        r.tally (emailKey crypto tenantId email) =
          (db.redis.tally (emailKey crypto tenantId email)).fail lockoutPolicy db.now := by
  generalize hkey : emailKey crypto tenantId email = key
  have hcount : (db.redis.incr db.now key).1 = (db.redis.tally key).count db.now + 1 := rfl
  have hincr := db.redis.incr_tally db.now key
  by_cases hlocks : (db.redis.incr db.now key).1 % loginFailureThreshold = 0
  · have hincrUp : (db.redis.incr db.now key).2.up = true := hup
    refine ⟨(db.redis.incr db.now key).2.lock db.now key, ?_, hup, ?_⟩
    · simp [recordEmailFailure, redis, Prog.alone, hkey, hup, hlocks, hincrUp]
    · rw [hcount] at hlocks
      rw [AuthRedis.lock_tally, hincr]
      simp [Tally.fail, lockoutPolicy, hlocks]
  · refine ⟨(db.redis.incr db.now key).2, ?_, hup, ?_⟩
    · simp [recordEmailFailure, redis, Prog.alone, hkey, hup, hlocks]
    · rw [hcount] at hlocks
      rw [hincr]
      simp [Tally.fail, lockoutPolicy, hlocks]

def answer (t : Tally) (now : Millis) : Outcome :=
  if 0 < t.wait now then .error (.tooManyAttempts (secondsUntil (t.wait now))) else .error .invalidCredentials

/-- What the attempt leaves of the tally: a refused one is not counted. -/
def next (t : Tally) (now : Millis) : Tally := if 0 < t.wait now then t else t.fail lockoutPolicy now

theorem login_locked (db : AuthDb) (input : LoginInput) (context : LoginContext) (draw : LoginDraw)
    (hup : db.redis.up = true) (hlocked : 0 < (db.redis.tally (emailKey crypto tenantId input.email)).wait db.now) :
    (login crypto tenantId input context draw).alone db =
      (answer (db.redis.tally (emailKey crypto tenantId input.email)) db.now, db) := by
  have hwait : (db.redis.tally (emailKey crypto tenantId input.email)).wait db.now =
      (Expiring.remaining db.redis.emaillock db.now (emailKey crypto tenantId input.email)).toNat := rfl
  rw [answer, if_pos hlocked]
  rw [hwait] at hlocked ⊢
  have hpositive : ¬ Expiring.remaining db.redis.emaillock db.now (emailKey crypto tenantId input.email) ≤ 0 := by omega
  have hnat : ((Expiring.remaining db.redis.emaillock db.now (emailKey crypto tenantId input.email)).toNat : Int) =
      Expiring.remaining db.redis.emaillock db.now (emailKey crypto tenantId input.email) := by omega
  rw [hnat]
  simp [login, assertEmailWithinLimit, redis, Prog.alone, hup, hpositive]

theorem login_unlocked (db : AuthDb) (input : LoginInput) (context : LoginContext) (draw : LoginDraw)
    (hup : db.redis.up = true)
    (hunlocked : ¬ 0 < (db.redis.tally (emailKey crypto tenantId input.email)).wait db.now) :
    (login crypto tenantId input context draw).alone db =
      (authenticate crypto tenantId input context draw (db.findCandidate tenantId input.email)).alone db := by
  have hnone : Expiring.remaining db.redis.emaillock db.now (emailKey crypto tenantId input.email) ≤ 0 := by
    have hwait : (db.redis.tally (emailKey crypto tenantId input.email)).wait db.now =
      (Expiring.remaining db.redis.emaillock db.now (emailKey crypto tenantId input.email)).toNat := rfl
    omega
  simp [login, assertEmailWithinLimit, redis, Prog.alone, hup, hnone]

structure Unknown (address : String) (t : Tally) (db : AuthDb) : Prop where
  up : db.redis.up = true
  absent : db.findByEmail tenantId address = none
  counted : (db.redis.tally (emailKey crypto tenantId address)).Agrees db.now t

structure Known (address : String) (t : Tally) (db : AuthDb) : Prop where
  up : db.redis.up = true
  account : ∃ u, db.findByEmail tenantId address = some u ∧ u.status = .active ∧
    (u.passwordHash = none ∨ u.tally.Agrees db.now t)
  counted : (db.redis.tally (emailKey crypto tenantId address)).Agrees db.now t

variable {crypto tenantId}

variable {t : Tally} {db : AuthDb} {a : Attempt}

theorem refuse_none (address : String) (db : AuthDb) (hup : db.redis.up = true)
    (hcounted : (db.redis.tally (emailKey crypto tenantId address)).Agrees db.now t) :
    ∃ r : AuthRedis, (refuse crypto tenantId none address).alone db =
      (.error .invalidCredentials, { db with redis := r }) ∧ r.up = true ∧
        (r.tally (emailKey crypto tenantId address)).Agrees db.now (t.fail lockoutPolicy db.now) := by
  obtain ⟨r, hdb, hrup, htally⟩ := recordEmailFailure_alone crypto tenantId address db hup
  refine ⟨r, ?_, hrup, htally ▸ hcounted.fail lockoutPolicy⟩
  rw [refuse, recordFailure, Prog.alone_bind, hdb]
  rfl

theorem refuse_account (address : String) (db : AuthDb) (hup : db.redis.up = true)
    (hu : db.findByEmail tenantId address = some u) (hshown : u.tally.Agrees db.now t)
    (hcounted : (db.redis.tally (emailKey crypto tenantId address)).Agrees db.now t) :
    ∃ db' : AuthDb, (refuse crypto tenantId (some u.id) address).alone db = (.error .invalidCredentials, db') ∧
      db'.now = db.now ∧ db'.redis.up = true ∧
        db'.findByEmail tenantId address = some (u.recordFailure db.now) ∧
          (u.recordFailure db.now).tally.Agrees db.now (t.fail lockoutPolicy db.now) ∧
            (db'.redis.tally (emailKey crypto tenantId address)).Agrees db.now (t.fail lockoutPolicy db.now) := by
  obtain ⟨r, hdb, hrup, htally⟩ :=
    recordEmailFailure_alone crypto tenantId address (db.recordAccountFailure (tenantId, u.id)) hup
  refine ⟨{ db.recordAccountFailure (tenantId, u.id) with redis := r }, ?_, rfl, hrup, ?_, ?_, ?_⟩
  · have hrun : ((recordFailure crypto tenantId (some u.id) address).alone db).2 =
        { db.recordAccountFailure (tenantId, u.id) with redis := r } := hdb
    rw [refuse, Prog.alone_bind, hrun]
    rfl
  · have hfound : (updateWhere (·.is (tenantId, u.id)) (·.recordFailure db.now) db.users).find?
        (fun v => v.tenantId = tenantId ∧ citext v.email = citext address) =
          (db.users.find? fun v => v.tenantId = tenantId ∧ citext v.email = citext address).map fun v =>
            if v.is (tenantId, u.id) then v.recordFailure db.now else v := by
      apply find?_updateWhere
      exact fun _ => rfl
    have htenant : u.tenantId = tenantId := by
      exact (of_find? hu).2.1
    have his : u.is (tenantId, u.id) = true := by simp [UserRow.is, htenant]
    rw [AuthDb.findByEmail] at hu
    rw [hu, Option.map_some, if_pos his] at hfound
    exact hfound
  · exact (u.recordFailure_tally db.now).trans (hshown.fail lockoutPolicy)
  · exact htally ▸ hcounted.fail lockoutPolicy

theorem issueSession_not_failing (candidate : LoginCandidate) (passwordHash plaintext : String) (draw : LoginDraw)
    (db : AuthDb) :
    failing ((issueSession crypto tenantId candidate passwordHash plaintext draw).alone db).1 = false := by
  rw [issueSession, Prog.alone_bind]
  split
  · rfl
  · rw [Prog.alone_bind, Prog.alone_bind]
    rfl

theorem emailKey_eq (h : citext email = citext address) :
    emailKey crypto tenantId email = emailKey crypto tenantId address := by
  have hlower : email.toLower = address.toLower := h
  rw [emailKey, emailKey, emailDigest, emailDigest, hlower]

theorem findByEmail_eq (h : citext email = citext address) (db : AuthDb) :
    db.findByEmail tenantId email = db.findByEmail tenantId address := by
  rw [AuthDb.findByEmail, AuthDb.findByEmail, h]

theorem Attempt.run_locked (hup : db.redis.up = true) (haddress : citext a.input.email = citext address)
    (hcounted : (db.redis.tally (emailKey crypto tenantId address)).Agrees a.instant t) (hlocked : 0 < t.wait a.instant) :
    a.run crypto tenantId db = (answer t a.instant, { db with now := a.instant }) := by
  have hwait := (hcounted a.instant (Int.le_refl _)).2
  rw [← emailKey_eq haddress] at hwait
  have hlocked' := hlocked
  rw [← hwait] at hlocked'
  rw [Attempt.run, login_locked crypto tenantId { db with now := a.instant } a.input a.context a.draw hup hlocked', answer,
    answer, hwait]

theorem Unknown.attempt (h : Unknown crypto tenantId address t db)
    (hlater : db.now ≤ a.instant) (haddress : citext a.input.email = citext address) :
    (a.run crypto tenantId db).1 = answer t a.instant ∧
      Unknown crypto tenantId address (next t a.instant) (a.run crypto tenantId db).2 ∧
        (a.run crypto tenantId db).2.now = a.instant := by
  have hcounted := h.counted.later hlater
  let db' : AuthDb := { db with now := a.instant }
  by_cases hlocked : 0 < t.wait a.instant
  · rw [Attempt.run_locked h.up haddress hcounted hlocked, next, if_pos hlocked]
    exact ⟨rfl, ⟨h.up, h.absent, hcounted⟩, rfl⟩
  · have hwait := (hcounted a.instant (Int.le_refl _)).2
    rw [← emailKey_eq haddress] at hcounted hwait
    obtain ⟨r, hrefused, hrup, htally⟩ := refuse_none a.input.email db' h.up hcounted
    have hcandidate : db'.findCandidate tenantId a.input.email = none := by
      have habsent : db'.findByEmail tenantId address = none := h.absent
      rw [AuthDb.findCandidate, findByEmail_eq haddress, habsent]
      rfl
    have hrun : a.run crypto tenantId db = (.error .invalidCredentials, { db' with redis := r }) := by
      have hunlocked := hlocked
      rw [← hwait] at hunlocked
      rw [Attempt.run, login_unlocked crypto tenantId db' a.input a.context a.draw h.up hunlocked, hcandidate]
      exact hrefused
    rw [emailKey_eq haddress] at htally
    rw [hrun, next, if_neg hlocked, answer, if_neg hlocked]
    exact ⟨rfl, ⟨hrup, h.absent, htally⟩, rfl⟩

theorem Known.attempt (h : Known crypto tenantId address t db)
    (hlater : db.now ≤ a.instant) (haddress : citext a.input.email = citext address)
    (hfailing : failing (a.run crypto tenantId db).1 = true) : (a.run crypto tenantId db).1 = answer t a.instant ∧
      Known crypto tenantId address (next t a.instant) (a.run crypto tenantId db).2 ∧
        (a.run crypto tenantId db).2.now = a.instant := by
  obtain ⟨u, hu, hactive, hshown⟩ := h.account
  have hcounted := h.counted.later hlater
  let db' : AuthDb := { db with now := a.instant }
  by_cases hlocked : 0 < t.wait a.instant
  · rw [Attempt.run_locked h.up haddress hcounted hlocked, next, if_pos hlocked]
    have hshown' : u.passwordHash = none ∨ u.tally.Agrees a.instant t := hshown.imp_right (·.later hlater)
    exact ⟨rfl, ⟨h.up, ⟨u, hu, hactive, hshown'⟩, hcounted⟩, rfl⟩
  · have hwait := (hcounted a.instant (Int.le_refl _)).2
    rw [← emailKey_eq haddress] at hcounted hwait
    have hunlocked := hlocked
    rw [← hwait] at hunlocked
    have hfound : db'.findByEmail tenantId a.input.email = some u := (findByEmail_eq haddress db').trans hu
    have hcandidate : db'.findCandidate tenantId a.input.email = some (u.candidate a.instant) := by
      rw [AuthDb.findCandidate, hfound]
      rfl
    have hlogin : a.run crypto tenantId db =
        (authenticate crypto tenantId a.input a.context a.draw (some (u.candidate a.instant))).alone db' := by
      rw [← hcandidate]
      exact login_unlocked crypto tenantId db' a.input a.context a.draw h.up hunlocked
    have hcandidateHash : (u.candidate a.instant).passwordHash = u.passwordHash := rfl
    have hcandidateActive : (u.candidate a.instant).status = .active := hactive
    rw [next, if_neg hlocked, answer, if_neg hlocked]
    cases hpassword : u.passwordHash with
    | none =>
      obtain ⟨r, hrefused, hrup, htally⟩ := refuse_none a.input.email db' h.up hcounted
      simp only [authenticate, hcandidateHash, hpassword, hrefused] at hlogin
      rw [emailKey_eq haddress] at htally
      rw [hlogin]
      exact ⟨rfl, ⟨hrup, ⟨u, hu, hactive, .inl hpassword⟩, htally⟩, rfl⟩
    | some passwordHash =>
      have hagrees : u.tally.Agrees a.instant t :=
        (hshown.resolve_left (by simp [hpassword])).later hlater
      have hopen : (u.candidate a.instant).locked = false := by
        rw [← Bool.not_eq_true, u.candidate_locked, (hagrees a.instant (Int.le_refl _)).2]
        exact hlocked
      simp only [authenticate, hcandidateHash, hpassword, hcandidateActive, hopen, ne_eq, not_true_eq_false,
        if_false, Bool.false_eq_true] at hlogin
      cases hverify : crypto.verify passwordHash a.input.password with
      | false =>
        obtain ⟨db'', hrefused, hnow, hup, hfound', hrecorded, htally⟩ :=
          refuse_account a.input.email db' h.up hfound hagrees hcounted
        simp only [hverify, Bool.not_false, if_true] at hlogin
        have hid : (u.candidate a.instant).id = u.id := rfl
        rw [hid, hrefused] at hlogin
        rw [hlogin]
        rw [findByEmail_eq haddress] at hfound'
        rw [emailKey_eq haddress] at htally
        rw [← hnow] at hrecorded htally
        have hnow' : db''.now = a.instant := hnow
        refine ⟨rfl, ⟨hup, ⟨_, hfound', hactive, .inr ?_⟩, ?_⟩, hnow'⟩
        · rw [hnow'] at hrecorded ⊢
          exact hrecorded
        · rw [hnow'] at htally ⊢
          exact htally
      | true =>
        -- the password is right: either the role is not admitted, or the attempt signs in
        exfalso
        simp only [hverify, Bool.not_true, Bool.false_eq_true, if_false] at hlogin
        rw [hlogin] at hfailing
        split at hfailing
        · cases hfailing
        · rw [issueSession_not_failing] at hfailing
          cases hfailing

def answers : List Attempt → Tally → List Outcome
  | [], _ => []
  | a :: rest, t => answer t a.instant :: answers rest (next t a.instant)

theorem Unknown.outcomes (h : Unknown crypto tenantId address t db)
    (haddress : ∀ a ∈ attempts, citext a.input.email = citext address)
    (htimes : (db.now :: attempts.map (·.instant)).Pairwise (· ≤ ·)) :
    outcomes crypto tenantId attempts db = answers attempts t := by
  induction attempts generalizing t db with
  | nil => rfl
  | cons a rest ih =>
    obtain ⟨hnow, htimes⟩ := List.pairwise_cons.mp htimes
    obtain ⟨hanswer, hnext, hinstant⟩ := h.attempt (hnow _ List.mem_cons_self) (haddress a List.mem_cons_self)
    have hrest := ih hnext (fun b hb => haddress b (List.mem_cons_of_mem _ hb)) (hinstant ▸ htimes)
    rw [Auth.outcomes, answers, hanswer, hrest]

theorem Known.outcomes (h : Known crypto tenantId address t db)
    (haddress : ∀ a ∈ attempts, citext a.input.email = citext address)
    (htimes : (db.now :: attempts.map (·.instant)).Pairwise (· ≤ ·))
    (hfailing : ∀ outcome ∈ outcomes crypto tenantId attempts db, failing outcome = true) :
    outcomes crypto tenantId attempts db = answers attempts t := by
  induction attempts generalizing t db with
  | nil => rfl
  | cons a rest ih =>
    obtain ⟨hnow, htimes⟩ := List.pairwise_cons.mp htimes
    obtain ⟨hanswer, hnext, hinstant⟩ := h.attempt (hnow _ List.mem_cons_self) (haddress a List.mem_cons_self)
      (hfailing _ List.mem_cons_self)
    have hrest := ih hnext (fun b hb => haddress b (List.mem_cons_of_mem _ hb)) (hinstant ▸ htimes)
      fun outcome houtcome => hfailing outcome (List.mem_cons_of_mem _ houtcome)
    rw [Auth.outcomes, answers, hanswer, hrest]

theorem AuthRedis.tally_rested {r : AuthRedis}
    (hfail : Expiring.find r.emailfail now key = none) (hlock : Expiring.find r.emaillock now key = none) :
    (r.tally key).Agrees now .rested := by
  intro later hlater
  have hfail' := Expiring.find_none_later hfail hlater
  have hlock' := Expiring.find_none_later hlock hlater
  simp [AuthRedis.tally, Tally.rested, Expiring.remaining, hfail', hlock']

theorem UserRow.tally_rested {u : UserRow} (hcount : u.failedLoginAttempts = 0)
    (hlock : u.lockedUntil = none) : u.tally.Agrees now .rested := by
  intro later _
  simp [UserRow.tally, Tally.rested, hcount, hlock]

/-- Wrong passwords presented to the address of an account one millisecond after the other. -/
def guesses (n : Nat) : List Attempt :=
  (List.range n).map fun i : Nat =>
    { instant := (i : Int), input := { email := ada.email, password := "guess" }, draw := { token := "", salt := "" } }

/-- The sequence of outcomes of failing attempts is the same whether the address names an active account or none. -/
theorem lockout_is_no_account_oracle {address : String} {t : Tally} {known unknown : AuthDb}
    (hknown : Known crypto tenantId address t known) (hunknown : Unknown crypto tenantId address t unknown)
    {attempts : List Attempt} (haddress : ∀ a ∈ attempts, citext a.input.email = citext address)
    (hknownTimes : (known.now :: attempts.map (·.instant)).Pairwise (· ≤ ·))
    (hunknownTimes : (unknown.now :: attempts.map (·.instant)).Pairwise (· ≤ ·))
    (hfailing : ∀ outcome ∈ outcomes crypto tenantId attempts known, failing outcome = true) :
    outcomes crypto tenantId attempts known = outcomes crypto tenantId attempts unknown := by
  rw [hknown.outcomes haddress hknownTimes hfailing, hunknown.outcomes haddress hunknownTimes]

/-- Eleven guesses at an account nobody has failed to sign in to, and at an address without one. -/
theorem lockout_is_no_account_oracle_eleven_guesses :
    outcomes .transparent 1 (guesses 11) { users := [ada] } = outcomes .transparent 1 (guesses 11) {} := by
  have htally : (AuthRedis.tally {} (emailKey .transparent 1 ada.email)).Agrees 0 .rested :=
    AuthRedis.tally_rested rfl rfl
  have hknown : Known .transparent 1 ada.email .rested { users := [ada] } :=
    ⟨rfl, ⟨ada, by simp [AuthDb.findByEmail, ada], rfl, .inr (UserRow.tally_rested rfl rfl)⟩, htally⟩
  have hunknown : Unknown .transparent 1 ada.email .rested {} := ⟨rfl, rfl, htally⟩
  refine lockout_is_no_account_oracle hknown hunknown ?_ ?_ ?_ ?_
  · intro a ha
    obtain ⟨n, _, rfl⟩ := List.mem_map.mp ha
    rfl
  · decide
  · decide
  · decide +kernel

end WhatsappCrm.Auth
