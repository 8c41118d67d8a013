/-
Purpose: What each statement of signing up can do, whichever call it belongs to.
-/
import WhatsappCrm.Lib.Ownership
import WhatsappCrm.Signup.Writes

namespace WhatsappCrm.Signup

open Interleaving Table Lifecycle
open Auth (Crypto)
open Domains (TenantDomain citext)

variable (config : SignupConfig) (crypto : Crypto)

def provisioned (command : ProvisionTenantCommand) (draw : ProvisionDraw) (startedAt now : Millis) (db : SignupDb) :
    ProvisionTenantResult × List SignupWrite :=
  provisioning config command draw startedAt now (findProvisionedTenant command.slug db)

variable (found : Option ExistingTenant → Prop)

/-- What a transaction writes when it commits in a state; a verification does where what is `found` is under its slug. -/
inductive Commits (db : SignupDb) : List SignupWrite → Prop
  | request (input : SignupInput) (ipAddress : Option String) (draw : RequestDraw) (expiresAt createdAt instant : Millis) :
      Commits db [.releaseSlug input.slug instant, .signup (signupRow crypto input ipAddress draw expiresAt createdAt)]
  | provision (command : ProvisionTenantCommand) (draw : ProvisionDraw) (startedAt now : Millis) :
      Commits db (provisioned config command draw startedAt now db).2
  | verify (signup : TenantSignup) (tokenHash : String) (draw : VerifyDraw) (startedAt now : Millis)
      (hfound : found (findProvisionedTenant signup.desiredSlug db)) :
      Commits db
        (verifyWrites crypto signup tokenHash startedAt
          (provisioned config (signupCommand signup) draw.provision startedAt now db).1.tenant.id draw
          (provisioned config (signupCommand signup) draw.provision startedAt now db).2)

inductive SignupEffect : SignupStmt → SignupDb → SignupDb → Prop
  | same (tag : SignupStmt) (db : SignupDb) : SignupEffect tag db db
  | lock (key : String) (db : SignupDb) : SignupEffect (.lock key) db { db with locks := key :: db.locks }
  | rollback (ws : List SignupWrite) (locks : List String) (db : SignupDb) :
      SignupEffect (.commit ws) db { db with locks }
  | commit {ws : List SignupWrite} {db db' : SignupDb} (locks : List String) (hws : Commits config crypto found db ws)
      (happly : applyWrites ws db = .ok db') : SignupEffect (.commit ws) db { db' with locks }
  | refresh (email tokenHash : String) (db : SignupDb) : SignupEffect .refresh db (refreshNewest email tokenHash db).2
  | deliver (mail : VerificationMail) (db : SignupDb) (hsent : mail.sentAt = db.now) :
      SignupEffect .deliver db { db with mails := db.mails ++ [mail] }
  | tick (milliseconds : Nat) (db : SignupDb) : SignupEffect .tick db { db with now := db.now + milliseconds }

variable {config crypto found}

variable {db : SignupDb}

theorem provisioned_aside {command : ProvisionTenantCommand} (hdb : db.Indexed) (hslug : slug ≠ command.slug)
    (hfresh : ∀ row, SignupWrite.tenant row ∈ (provisioned config command draw startedAt now db).2 →
      ∀ t ∈ db.tenants, t.id ≠ row.id) :
    ∀ w ∈ (provisioned config command draw startedAt now db).2, w.Aside (findTenant slug db) slug := by
  intro w hw
  unfold provisioned at hw hfresh
  cases hfind : findProvisionedTenant command.slug db with
  | none =>
    rw [hfind] at hw hfresh
    have hother : ∀ t, findTenant slug db = some t → draw.tenantId ≠ t.id := by
      intro t ht
      exact (hfresh _ List.mem_cons_self t (findTenant_some ht).1).symm
    simp only [provisioning, createTenant, creationWrites, List.mem_cons, List.not_mem_nil, or_false] at hw
    rcases hw with rfl | rfl | rfl | rfl | rfl | rfl
    · intro heq
      have heq' : citext command.slug.value = slug.value := heq
      rw [citext_slug] at heq'
      exact hslug (TenantSlug.ext_value heq'.symm)
    · exact hother
    · exact hother
    · exact hother
    · intro t ht
      have hid : (startingState command.path draw.tenantId now).entitlements.tenantId = draw.tenantId := by
        cases command.path <;> rfl
      rw [hid]
      exact hother t ht
    · trivial
  | some =>
    rw [hfind] at hw
    obtain ⟨tenant, htenant, rfl⟩ := Option.map_eq_some_iff.mp hfind
    have hother : ∀ t, findTenant slug db = some t → tenant.id ≠ t.id := by
      intro t ht hid
      obtain ⟨ht, hslug'⟩ := findTenant_some ht
      obtain ⟨htenant, hcommand⟩ := findTenant_some htenant
      rw [hdb.tenantId.eq_of_entry htenant ht (congrArg some hid) rfl] at hcommand
      exact hslug (TenantSlug.ext_value (hslug'.symm.trans hcommand))
    simp only [provisioning, completeTenant, completionWrites, List.mem_append] at hw
    rcases hw with hw | hw | hw | hw
    all_goals
      split at hw
      · cases List.mem_singleton.mp hw
        exact hother
      · cases hw

theorem applyWrites_provisioned (hdb : db.Indexed)
    (happly : applyWrites (before ++ (provisioned config command draw startedAt now db).2 ++ after) db = .ok db')
    (hbefore : ∀ w ∈ before, ∀ found slug, w.Aside found slug) (hafter : ∀ w ∈ after, ∀ found slug, w.Aside found slug)
    (hslug : slug ≠ command.slug) : findProvisionedTenant slug db' = findProvisionedTenant slug db := by
  refine applyWrites_aside (fun w hw => ?_) happly
  rcases List.mem_append.mp hw with hw | hw
  · rcases List.mem_append.mp hw with hw | hw
    · exact hbefore w hw _ _
    · refine provisioned_aside hdb hslug (fun row hrow => ?_) w hw
      exact applyWrites_fresh (List.mem_append_left _ (List.mem_append_right _ hrow)) happly
  · exact hafter w hw _ _

/-- What a call remembers: the slug it has locked, and what it has found under it. -/
inductive Held where
  | nothing
  | locked (slug : TenantSlug)
  | looked (slug : TenantSlug) (existing : Option ExistingTenant)

def Held.slug? : Held → Option TenantSlug
  | .nothing => none
  | .locked slug => some slug
  | .looked slug _ => some slug

def slugKey (slug : TenantSlug) : String := provisioningLockPrefix ++ slug.value

theorem slugKey_injective (h : slugKey a = slugKey b) : a = b :=
  lockKey_injective (a := { slug := a, name := "" }) (b := { slug := b, name := "" }) h

def Held.Holds : Held → SignupDb → Prop
  | .nothing, _ => True
  | .locked slug, db => slugKey slug ∈ db.locks
  | .looked slug existing, db => slugKey slug ∈ db.locks ∧ findProvisionedTenant slug db = existing

def Held.Apart (m k : Held) : Prop := ∀ a b, m.slug? = some a → k.slug? = some b → a ≠ b

def Granted (tag : SignupStmt) (db : SignupDb) : Prop :=
  match tag with
  | .lock key => key ∉ db.locks
  | _ => True

instance (tag : SignupStmt) (db : SignupDb) : Decidable (Granted tag db) := by
  unfold Granted
  split <;> infer_instance

/-- What is `found` is what the lookup of a verification finds. -/
def Finds (found : Option ExistingTenant → Prop) (tag : SignupStmt) (db : SignupDb) : Prop :=
  match tag with
  | .find .selfSignup slug => found (findProvisionedTenant slug db)
  | _ => True

def signupOwnership (config : SignupConfig) (crypto : Crypto) (found : Option ExistingTenant → Prop) :
    Ownership SignupStmt SignupDb Held where
  inv := SignupDb.Indexed
  holds := Held.Holds
  apart := Held.Apart
  cond tag db := Granted tag db ∧ Finds found tag db
  effect := SignupEffect config crypto found

theorem signupOwnership_sound : (signupOwnership config crypto found).Sound .nothing where
  symm h a b ha hb := Ne.symm (h b a hb ha)
  start_holds _ := trivial
  start_apart _ _ _ ha := by cases ha

theorem Held.Holds.keep {k : Held} (h : k.Holds db)
    (hlocks : ∀ slug, k.slug? = some slug → slugKey slug ∈ db.locks → slugKey slug ∈ db'.locks)
    (hfind : ∀ slug, k.slug? = some slug → findProvisionedTenant slug db' = findProvisionedTenant slug db) :
    k.Holds db' := by
  cases k with
  | nothing => trivial
  | locked slug => exact hlocks slug rfl h
  | looked slug => exact ⟨hlocks slug rfl h.1, (hfind slug rfl).trans h.2⟩

variable {m : Held}

theorem yields_quiet (hinv : db'.Indexed) (hm : m.Holds db) (hlocks : db'.locks = db.locks)
    (hfind : ∀ slug, findProvisionedTenant slug db' = findProvisionedTenant slug db) :
    (signupOwnership config crypto found).Yields m m db db' where
  inv := hinv
  holds := hm.keep (fun _ _ h => hlocks ▸ h) fun slug _ => hfind slug
  others _ hapart hk := ⟨hapart, hk.keep (fun _ _ h => hlocks ▸ h) fun slug _ => hfind slug⟩

theorem yields_unlock (hinv : db'.Indexed) (hkey : ∀ held, key = some held → m.slug?.map slugKey = some held)
    (hlocks : db'.locks = db.locks.filter fun held => key ≠ some held)
    (hfind : ∀ k : Held, m.Apart k → ∀ slug, k.slug? = some slug →
      findProvisionedTenant slug db' = findProvisionedTenant slug db) :
    (signupOwnership config crypto found).Yields m .nothing db db' where
  inv := hinv
  holds := trivial
  others k hapart hk := by
    have hnothing : Held.Apart .nothing k := by
      intro a b ha
      cases ha
    refine ⟨hnothing, hk.keep (fun slug hslug hheld => ?_) (hfind k hapart)⟩
    rw [hlocks]
    apply List.mem_filter.mpr
    refine ⟨hheld, decide_eq_true fun heq => ?_⟩
    obtain ⟨own, hown, hkeys⟩ := Option.map_eq_some_iff.mp (hkey _ heq)
    exact hapart own slug hown hslug (slugKey_injective hkeys)

theorem commit_owns (key : Option String) (ws : List SignupWrite) (aborts : Bool)
    (hkey : ∀ held, key = some held → m.slug?.map slugKey = some held)
    (hws : ∀ db, m.Holds db → Commits config crypto found db ws)
    (hfind : ∀ db db', db.Indexed → m.Holds db → applyWrites ws db = .ok db' → ∀ k : Held, m.Apart k →
      ∀ slug, k.slug? = some slug → findProvisionedTenant slug db' = findProvisionedTenant slug db) :
    (commit key ws aborts).Owns (signupOwnership config crypto found) (fun m' _ => m' = .nothing) m := by
  intro db hinv hm _
  have hgiveUp : ∀ locks, locks = db.locks.filter (fun held => key ≠ some held) →
      (signupOwnership config crypto found).Yields m .nothing db { db with locks } := by
    intro locks hlocks
    exact yields_unlock (hinv.of_same rfl rfl) hkey hlocks fun _ _ _ _ => rfl
  cases aborts with
  | true => exact ⟨.rollback ws _ db, .nothing, hgiveUp _ rfl, rfl⟩
  | false =>
    simp only [Bool.false_eq_true, if_false]
    cases happly : applyWrites ws db with
    | error => exact ⟨.rollback ws _ db, .nothing, hgiveUp _ rfl, rfl⟩
    | ok db' =>
      refine ⟨.commit _ (hws db hm) happly, .nothing, ?_, rfl⟩
      refine yields_unlock ((applyWrites_indexed hinv happly).of_same rfl rfl) hkey ?_ (hfind db db' hinv hm happly)
      rfl

theorem read_owns (f : SignupDb → α) :
    (Prog.read .read f : SignupProg α).Owns (signupOwnership config crypto found) (fun m' _ => m' = m) m :=
  fun db hinv hm _ => ⟨.same _ db, m, .same hinv hm fun _ hk => hk, rfl⟩

theorem advisoryLock_owns (slug : TenantSlug) :
    (advisoryLock (slugKey slug)).Owns (signupOwnership config crypto found) (fun m' _ => m' = .locked slug) .nothing := by
  intro db hinv _ hfree
  refine ⟨.lock _ db, .locked slug, ?_, rfl⟩
  constructor
  · exact hinv.of_same rfl rfl
  · exact List.mem_cons_self
  · intro k _ hk
    refine ⟨fun a b ha hb heq => ?_, hk.keep (fun _ _ h => List.mem_cons_of_mem _ h) fun _ _ => rfl⟩
    cases ha
    subst heq
    apply hfree.1
    cases k with
    | nothing => cases hb
    | locked =>
      cases hb
      exact hk
    | looked =>
      cases hb
      exact hk.1

theorem work_owns (command : ProvisionTenantCommand) (draw : ProvisionDraw) (startedAt : Millis) :
    (work config command draw startedAt).Owns (signupOwnership config crypto found)
      (fun m' r => ∃ existing now, m' = .looked command.slug existing ∧
        r = provisioning config command draw startedAt now existing ∧ (command.path = .selfSignup → found existing))
      .nothing := by
  unfold work
  apply (advisoryLock_owns command.slug).bind
  rintro m _ rfl
  intro db hinv hm hcond
  refine ⟨.same _ db, .looked command.slug (findProvisionedTenant command.slug db), ?_, ?_⟩
  · exact .same hinv ⟨hm, rfl⟩ fun _ hk => hk
  · apply (read_owns _).bind
    rintro m now rfl
    refine ⟨_, now, rfl, rfl, fun hpath => ?_⟩
    have hfound := hcond.2
    rw [hpath] at hfound
    exact hfound

theorem provision_owns (command : ProvisionTenantCommand) (draw : ProvisionDraw) (aborts : Bool) :
    (provision config command draw aborts).Owns (signupOwnership config crypto found) (fun _ _ => True) .nothing := by
  unfold provision
  simp only [Prog.bind_def]
  apply (read_owns _).bind
  rintro m startedAt rfl
  apply (work_owns command draw startedAt).bind
  rintro m r ⟨existing, now, rfl, rfl, _⟩
  apply Prog.Owns.bind (commit_owns _ _ aborts ?_ ?_ ?_)
  · rintro m committed rfl
    cases committed <;> trivial
  · rintro held hheld
    exact hheld
  · rintro db ⟨_, hfind⟩
    rw [← hfind]
    exact .provision command draw startedAt now
  · rintro db db' hdb ⟨_, hfind⟩ happly k hapart slug hslug
    have hother : slug ≠ command.slug := Ne.symm (hapart _ _ rfl hslug)
    rw [← hfind, ← List.append_nil (provisioning ..).2, ← List.nil_append (provisioning ..).2] at happly
    exact applyWrites_provisioned hdb happly (by simp) (by simp) hother

theorem completeSignup_owns (signup : TenantSignup) (tokenHash : String) (startedAt : Millis) (draw : VerifyDraw)
    (aborts : Bool) :
    (completeSignup config crypto signup tokenHash startedAt draw aborts).Owns (signupOwnership config crypto found)
      (fun _ _ => True) .nothing := by
  unfold completeSignup
  apply (work_owns _ _ startedAt).bind
  rintro m r ⟨existing, now, rfl, rfl, hfound⟩
  apply Prog.Owns.bind (commit_owns _ _ aborts ?_ ?_ ?_)
  · rintro m committed rfl
    cases committed <;> trivial
  · rintro held hheld
    exact hheld
  · rintro db ⟨_, hfind⟩
    rw [← hfind]
    have hfound' := hfound rfl
    rw [← hfind] at hfound'
    exact .verify signup tokenHash draw startedAt now hfound'
  · rintro db db' hdb ⟨_, hfind⟩ happly k hapart slug hslug
    have hother : slug ≠ (signupCommand signup).slug := Ne.symm (hapart _ _ rfl hslug)
    rw [← hfind, verifyWrites, ← List.singleton_append, ← List.append_assoc] at happly
    refine applyWrites_provisioned hdb happly ?_ ?_ hother
    · simp [SignupWrite.Aside]
    · simp [SignupWrite.Aside]

theorem verify_owns (token : String) (draw : VerifyDraw) (aborts : Bool) :
    (verify config crypto token draw aborts).Owns (signupOwnership config crypto found) (fun _ _ => True) .nothing := by
  unfold verify
  split
  · trivial
  · apply (read_owns _).bind
    rintro m startedAt rfl
    apply (read_owns _).bind
    rintro m signup rfl
    cases signup with
    | some signup => exact completeSignup_owns signup _ startedAt draw aborts
    | none =>
      apply (read_owns _).bind
      rintro m row rfl
      cases row <;> trivial

theorem slugTaken_owns (slug : TenantSlug) :
    (slugTaken slug).Owns (signupOwnership config crypto found) (fun m' _ => m' = .nothing) .nothing := by
  unfold slugTaken
  apply (read_owns _).bind
  rintro m tenant rfl
  apply (read_owns _).bind
  rintro m reserved rfl
  rfl

theorem assertMayRequest_owns (email : String) (ipAddress : Option String) (redis : RedisCounts) :
    (assertMayRequest email ipAddress redis).Owns (signupOwnership config crypto found) (fun m' _ => m' = .nothing)
      .nothing := by
  unfold assertMayRequest
  split
  · unfold assertRowsWithin
    apply (read_owns _).bind
    rintro m now rfl
    apply (read_owns _).bind
    rintro m byEmail rfl
    split
    · rfl
    · cases ipAddress with
      | none => rfl
      | some =>
        apply (read_owns _).bind
        rintro m byAddress rfl
        split <;> rfl
  · rfl

theorem deliver_owns (to_ token : String) (serial : Nat) :
    (deliver to_ token serial).Owns (signupOwnership config crypto found) (fun _ _ => True) .nothing := by
  intro db hinv hm _
  refine ⟨.deliver _ db rfl, .nothing, ?_, trivial⟩
  exact yields_quiet (hinv.of_same rfl rfl) hm rfl fun _ => rfl

theorem recordSignup_owns (input : SignupInput) (ipAddress : Option String) (draw : RequestDraw) (expiresAt : Millis) :
    (recordSignup crypto input ipAddress draw expiresAt).Owns (signupOwnership config crypto found)
      (fun m' _ => m' = .nothing) .nothing := by
  unfold recordSignup
  apply (read_owns _).bind
  rintro m startedAt rfl
  apply (read_owns _).bind
  rintro m instant rfl
  apply (slugTaken_owns input.slug).bind
  rintro m taken rfl
  split
  · rfl
  · apply Prog.Owns.bind (commit_owns _ _ false ?_ ?_ ?_)
    · rintro m committed rfl
      cases committed <;> rfl
    · rintro held hheld
      cases hheld
    · rintro db _
      exact .request input ipAddress draw expiresAt startedAt instant
    · rintro db db' _ _ happly k _ slug _
      exact applyWrites_aside (by simp [SignupWrite.Aside]) happly

theorem request_owns (input : SignupInput) (ipAddress : Option String) (draw : RequestDraw) (redis : RedisCounts) :
    (request config crypto input ipAddress draw redis).Owns (signupOwnership config crypto found) (fun _ _ => True)
      .nothing := by
  unfold request
  split
  · trivial
  · apply (assertMayRequest_owns input.email ipAddress redis).bind
    rintro m allowed rfl
    cases allowed with
    | error => trivial
    | ok _ =>
      apply (slugTaken_owns input.slug).bind
      rintro m taken rfl
      split
      · trivial
      · apply (read_owns _).bind
        rintro m now rfl
        apply (recordSignup_owns input ipAddress draw _).bind
        rintro m recorded rfl
        cases recorded with
        | error => trivial
        | ok serial => exact (deliver_owns input.email draw.token serial).bind fun _ _ _ => trivial

theorem resend_owns (email : String) (ipAddress : Option String) (token : String) (redis : RedisCounts) :
    (resend config crypto email ipAddress token redis).Owns (signupOwnership config crypto found) (fun _ _ => True)
      .nothing := by
  unfold resend
  split
  · trivial
  · split
    · trivial
    · intro db hinv hm _
      refine ⟨.refresh email _ db, .nothing, ?_, ?_⟩
      · have hquiet := refreshNewest_indexed email (crypto.sha256 token) hinv
        rcases refreshNewest_cases email (crypto.sha256 token) db with ⟨_, _, heq⟩ | ⟨_, _, _, _, heq⟩
        all_goals
          rw [heq] at hquiet ⊢
          exact yields_quiet hquiet hm rfl fun _ => rfl
      · cases (refreshNewest email (crypto.sha256 token) db).1 with
        | error => trivial
        | ok row =>
          cases row with
          | some row => exact (deliver_owns email token row.serial).bind fun _ _ _ => trivial
          | none => exact (read_owns _).bind fun _ _ _ => trivial

theorem signupProgram_owns (call : SignupCall) :
    (signupProgram config crypto call).Owns (signupOwnership config crypto found) (fun _ _ => True) .nothing := by
  cases call with
  | request input ipAddress draw redis => exact (request_owns input ipAddress draw redis).bind fun _ _ _ => trivial
  | resend email ipAddress token redis => exact (resend_owns email ipAddress token redis).bind fun _ _ _ => trivial
  | verify token draw aborts => exact (verify_owns token draw aborts).bind fun _ _ _ => trivial
  | provision command draw aborts => exact (provision_owns command draw aborts).bind fun _ _ _ => trivial
  | tick milliseconds =>
    intro db hinv hm _
    refine ⟨.tick milliseconds db, .nothing, ?_, trivial⟩
    exact yields_quiet (hinv.of_same rfl rfl) hm rfl fun _ => rfl

/-- The condition on runs: advisory locks are granted when they are free. -/
def granted (s : SignupSys) (_ : SignupCall) (tag : SignupStmt) : Prop := Granted tag s.db

instance (s : SignupSys) (call : SignupCall) (tag : SignupStmt) : Decidable (granted s call tag) :=
  inferInstanceAs (Decidable (Granted tag s.db))

abbrev SignupRun (config : SignupConfig) (crypto : Crypto) (db : SignupDb) (s : SignupSys) : Prop :=
  Reachable (signupProgram config crypto) granted (.idle db) s

section Runs

variable {cond : SignupSys → SignupCall → SignupStmt → Prop}

theorem Reachable.signupOwned_of (hcond : ∀ s call tag, cond s call tag → Granted tag s.db ∧ Finds found tag s.db)
    (hdb : db.Indexed) (hs : Reachable (signupProgram config crypto) cond (.idle db) s) :
    s.Owned (signupOwnership config crypto found) fun _ _ _ => True :=
  Reachable.owned signupOwnership_sound signupProgram_owns hcond hdb hs

theorem Reachable.signupEffect_of (hcond : ∀ s call tag, cond s call tag → Granted tag s.db ∧ Finds found tag s.db)
    (hdb : db.Indexed) (hs : Reachable (signupProgram config crypto) cond (.idle db) s)
    (hstep : Step (signupProgram config crypto) cond s s') :
    s'.db = s.db ∨ ∃ call tag, cond s call tag ∧ SignupEffect config crypto found tag s.db s'.db := by
  have howned := Reachable.signupOwned_of hcond hdb hs
  cases hstep with
  | spawn => exact .inl rfl
  | exec _ i call tag act next hcall hallowed =>
    exact .inr ⟨call, tag, hallowed, howned.exec_spec hcall (hcond s call tag hallowed)⟩

variable (hcond : ∀ s call tag, cond s call tag → Granted tag s.db)

include hcond

theorem finds_anything (s : SignupSys) (call : SignupCall) (tag : SignupStmt) (h : cond s call tag) :
    Granted tag s.db ∧ Finds (fun _ => True) tag s.db := by
  refine ⟨hcond s call tag h, ?_⟩
  unfold Finds
  split <;> trivial

theorem Reachable.signupOwned (hdb : db.Indexed) (hs : Reachable (signupProgram config crypto) cond (.idle db) s) :
    s.Owned (signupOwnership config crypto fun _ => True) fun _ _ _ => True :=
  Reachable.signupOwned_of (finds_anything hcond) hdb hs

theorem Reachable.signupEffect (hdb : db.Indexed) (hs : Reachable (signupProgram config crypto) cond (.idle db) s)
    (hstep : Step (signupProgram config crypto) cond s s') :
    s'.db = s.db ∨ ∃ call tag, cond s call tag ∧ SignupEffect config crypto (fun _ => True) tag s.db s'.db :=
  Reachable.signupEffect_of (finds_anything hcond) hdb hs hstep

end Runs

def appTest : SignupConfig where
  platformDomain := "app.test"

/-- A call that is started and takes its next statements with nothing in between. -/
def inOneGo (i : Nat) (call : SignupCall) (statements : Nat) : List (Move SignupCall) :=
  .spawn call :: List.replicate statements (.step i)

end WhatsappCrm.Signup
