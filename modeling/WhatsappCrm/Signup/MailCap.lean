/-
Purpose: How many verification mails one address is sent in 24 hours.
-/
import WhatsappCrm.Lib.Credit
import WhatsappCrm.Lib.Shares
import WhatsappCrm.Signup.Effects

namespace WhatsappCrm.Signup

open Interleaving Table Lifecycle
open Auth (Crypto)
open Domains (TenantDomain citext)

variable {found : Option ExistingTenant → Prop}

def mailsWithin (email : String) (instant : Millis) (db : SignupDb) : Nat :=
  db.mails.countP fun m => citext m.to_ = citext email && instant < m.sentAt && decide (m.sentAt ≤ instant + dayMs)

/-- No address is sent more than the allowed signups and their resends make, in any 24 hours. -/
def MailBounded (db : SignupDb) : Prop :=
  ∀ email instant, mailsWithin email instant db ≤ signupsPerEmailPerDay * (1 + resendsPerSignup)

def RefreshStep (s s' : SignupSys) : Prop :=
  ∃ (i : Nat) (call : SignupCall) (β : Type) (act : SignupDb → β × SignupDb) (next : β → SignupProg SignupReply),
    s.calls[i]? = some (call, .atomic .refresh act next) ∧ s' = s.exec i call act next

def RefreshesOne (db db' : SignupDb) : Prop :=
  db' = db ∨ ∃ row ∈ db.signups, ∃ tokenHash, row.live db.now = true ∧ row.resendCount < resendsPerSignup ∧
    db'.signups = updateWhere (fun s => s.id = row.id) (TenantSignup.refresh tokenHash) db.signups ∧
    (∀ s ∈ db'.signups, s.id = row.id → s = row.refresh tokenHash ∧ s.expiresAt = row.expiresAt) ∧
    ∀ presented, (∃ s ∈ db'.signups, s.id = row.id ∧ s.redeemable presented db'.now = true) ↔ presented = tokenHash

def mailsOf (email : String) (serial : Nat) (db : SignupDb) : Nat :=
  db.mails.countP fun m => citext m.to_ = citext email && m.serial = serial

def linksOf (email : String) (serial : Nat) (db : SignupDb) : Nat :=
  db.issued.countP fun l => citext l.email = citext email && l.serial = serial

def resendable (email : String) (db : SignupDb) (serial : Nat) : Bool :=
  db.signups.any fun s =>
    s.serial = serial && citext s.email = citext email && s.live db.now && decide (s.resendCount < resendsPerSignup)

def unfinished (email : String) (db : SignupDb) (serial : Nat) : Bool :=
  decide (mailsOf email serial db < linksOf email serial db) || resendable email db serial

def inPlay (email : String) (db : SignupDb) (serial : Nat) : Bool :=
  (db.mails.any fun m => citext m.to_ = citext email && m.serial = serial && decide (db.now - dayMs < m.sentAt)) ||
    unfinished email db serial

def signupsInPlay (email : String) (db : SignupDb) : Nat := (List.range db.recorded).countP (inPlay email db)

/-- The condition on a commit: when it records a signup, fewer than the allowed number of the address are in play. -/
def opensSafely (db : SignupDb) : SignupStmt → Bool
  | .commit ws => ws.all fun
      | .signup row => signupsInPlay row.email db < signupsPerEmailPerDay
      | _ => true
  | _ => true

def opensSafelyIn (s : SignupSys) (call : SignupCall) (tag : SignupStmt) : Prop :=
  granted s call tag ∧ opensSafely s.db tag = true

instance (s : SignupSys) (call : SignupCall) (tag : SignupStmt) : Decidable (opensSafelyIn s call tag) :=
  inferInstanceAs (Decidable (_ ∧ _))

structure MailBook (db : SignupDb) : Prop where
  serial : UniqueBy (fun s : TenantSignup => some s.serial) db.signups
  rows : ∀ s ∈ db.signups, s.serial < db.recorded
  links : ∀ l ∈ db.issued, l.serial < db.recorded
  resends : ∀ s ∈ db.signups, (db.issued.countP fun l => l.serial = s.serial) ≤ 1 + s.resendCount ∧
    s.resendCount ≤ resendsPerSignup
  total : ∀ serial, (db.issued.countP fun l => l.serial = serial) ≤ 1 + resendsPerSignup

theorem MailBook.linksOf_le {db : SignupDb} (h : MailBook db) (email : String) (serial : Nat) :
    linksOf email serial db ≤ 1 + resendsPerSignup := by
  refine le_trans (List.countP_mono_left fun l _ hl => ?_) (h.total serial)
  simp only [Bool.and_eq_true] at hl
  exact hl.2

theorem MailBook.links_none {db : SignupDb} (h : MailBook db) {serial : Nat} (hserial : db.recorded ≤ serial) :
    (db.issued.countP fun l => l.serial = serial) = 0 := by
  refine List.countP_eq_zero.mpr fun l hl hlink => ?_
  simp only [decide_eq_true_eq] at hlink
  have := h.links l hl
  omega

variable {w : SignupWrite} {tokenHash : String} {ws : List SignupWrite} {row : TenantSignup} {instant : Millis}

theorem MailBook.of_rows {db : SignupDb} (h : MailBook db) (hissued : db'.issued = db.issued)
    (hrecorded : db'.recorded = db.recorded) (hunique : UniqueBy (fun s : TenantSignup => some s.serial) db'.signups)
    (hrows : ∀ s' ∈ db'.signups, ∃ s ∈ db.signups, s'.serial = s.serial ∧ s'.resendCount = s.resendCount) :
    MailBook db' where
  serial := hunique
  rows s' hs' := by
    obtain ⟨s, hs, hserial, _⟩ := hrows s' hs'
    rw [hserial, hrecorded]
    exact h.rows s hs
  links := by
    rw [hissued, hrecorded]
    exact h.links
  resends s' hs' := by
    obtain ⟨s, hs, hserial, hcount⟩ := hrows s' hs'
    rw [hissued, hserial, hcount]
    exact h.resends s hs
  total := by
    rw [hissued]
    exact h.total

theorem MailBook.of_same {db : SignupDb} (h : MailBook db) (hissued : db'.issued = db.issued)
    (hrecorded : db'.recorded = db.recorded) (hsignups : db'.signups = db.signups) : MailBook db' := by
  apply h.of_rows hissued hrecorded
  · rw [hsignups]
    exact h.serial
  · intro s hs
    rw [hsignups] at hs
    exact ⟨s, hs, rfl, rfl⟩

theorem MailBook.of_update {db : SignupDb} (h : MailBook db) (hserial : ∀ s, (f s).serial = s.serial)
    (hcount : ∀ s, (f s).resendCount = s.resendCount) (hissued : db'.issued = db.issued)
    (hrecorded : db'.recorded = db.recorded) (hsignups : db'.signups = updateWhere p f db.signups) : MailBook db' := by
  apply h.of_rows hissued hrecorded
  · rw [hsignups]
    exact h.serial.updateWhere fun s _ _ => .inr (congrArg some (hserial s))
  · intro s' hs'
    rw [hsignups] at hs'
    obtain ⟨s, hs, ⟨_, rfl⟩ | ⟨_, rfl⟩⟩ := mem_updateWhere hs'
    · exact ⟨s, hs, hserial s, hcount s⟩
    · exact ⟨_, hs, rfl, rfl⟩

theorem MailBook.record {db : SignupDb} (h : MailBook db) (row : TenantSignup) (hcount : row.resendCount = 0) :
    MailBook (db.record (db.signups ++ [{ row with serial := db.recorded }]) { row with serial := db.recorded }) where
  serial := by
    apply h.serial.concat
    intro s hs hclash
    exact Nat.ne_of_lt (h.rows s hs) (Option.some.inj hclash.2)
  rows s hs := by
    rcases mem_snoc.mp hs with hs | rfl
    · exact Nat.lt_succ_of_lt (h.rows s hs)
    · exact Nat.lt_succ_self _
  links l hl := by
    rcases mem_snoc.mp hl with hl | rfl
    · exact Nat.lt_succ_of_lt (h.links l hl)
    · exact Nat.lt_succ_self _
  resends s hs := by
    simp only [SignupDb.record, List.countP_append, List.countP_singleton, decide_eq_true_eq]
    rcases mem_snoc.mp hs with hs | rfl
    · have hne : ¬ db.recorded = s.serial := Nat.ne_of_gt (h.rows s hs)
      rw [if_neg hne, Nat.add_zero]
      exact h.resends s hs
    · simp [h.links_none (Nat.le_refl _), hcount]
  total serial := by
    simp only [SignupDb.record, List.countP_append, List.countP_singleton, decide_eq_true_eq]
    by_cases hserial : db.recorded = serial
    · rw [if_pos hserial, h.links_none (Nat.le_of_eq hserial)]
      omega
    · rw [if_neg hserial, Nat.add_zero]
      exact h.total serial

theorem MailBook.apply {db : SignupDb} (h : MailBook db)
    (hw : ∀ row, w = .signup row → row.resendCount = 0) (happly : w.apply db = .ok db') : MailBook db' := by
  cases w with
  | signup row =>
    obtain ⟨rows, hinsert, rfl⟩ := map_ok happly
    rw [(insertRow_ok.mp hinsert).2]
    exact h.record row (hw row rfl)
  | releaseSlug =>
    cases happly
    exact h.of_rows rfl rfl (h.serial.filter _) fun s hs => ⟨s, (List.mem_filter.mp hs).1, rfl, rfl⟩
  | consume tokenHash instant =>
    simp only [SignupWrite.apply] at happly
    split at happly
    · cases happly
      exact h.of_update (f := ({ · with consumedAt := some instant })) (fun _ => rfl) (fun _ => rfl) rfl rfl rfl
    · cases happly
  | provisionedTenant id tenantId =>
    cases happly
    exact h.of_update (f := ({ · with provisionedTenantId := some tenantId })) (fun _ => rfl) (fun _ => rfl) rfl rfl rfl
  | _ =>
    obtain ⟨rows, _, rfl⟩ := map_ok happly
    exact h.of_same rfl rfl rfl

theorem signup_notMem_provisioning (command : ProvisionTenantCommand) (draw : ProvisionDraw) (startedAt now : Millis)
    (existing : Option ExistingTenant) (row : TenantSignup) :
    SignupWrite.signup row ∉ (provisioning config command draw startedAt now existing).2 := by
  intro hrow
  have hprovisions := provisioning_provisions config command draw startedAt now existing _ hrow
  cases hprovisions

theorem signup_notMem_verifyWrites {tenantId : Uuid} (hws : SignupWrite.signup row ∉ ws) :
    SignupWrite.signup row ∉ verifyWrites crypto signup tokenHash startedAt tenantId draw ws := by
  simp [verifyWrites, hws]

theorem Commits.request_or {db : SignupDb} (hws : Commits config crypto found db ws) :
    (∃ (input : SignupInput) (ipAddress : Option String) (draw : RequestDraw) (expiresAt createdAt instant : Millis),
      ws = [.releaseSlug input.slug instant,
        .signup (signupRow crypto input ipAddress draw expiresAt createdAt)]) ∨
      ∀ row, SignupWrite.signup row ∉ ws := by
  cases hws with
  | request input ipAddress draw expiresAt createdAt instant =>
    exact .inl ⟨input, ipAddress, draw, expiresAt, createdAt, instant, rfl⟩
  | provision command draw startedAt now => exact .inr (signup_notMem_provisioning command draw startedAt now _)
  | verify signup tokenHash draw startedAt now =>
    exact .inr fun row =>
      signup_notMem_verifyWrites (signup_notMem_provisioning _ draw.provision startedAt now _ row)

theorem Commits.fresh_signups {db : SignupDb} (hws : Commits config crypto found db ws) :
    ∀ row, SignupWrite.signup row ∈ ws → row.resendCount = 0 := by
  intro row hrow
  rcases hws.request_or with ⟨input, ipAddress, draw, expiresAt, createdAt, instant, rfl⟩ | hnone
  · simp only [List.mem_cons, reduceCtorEq, SignupWrite.signup.injEq, List.not_mem_nil, or_false, false_or] at hrow
    rw [hrow]
    rfl
  · exact absurd hrow (hnone row)

theorem MailBook.refresh {db : SignupDb} (h : MailBook db) (hindexed : db.Indexed) (hrow : row ∈ db.signups) (hcount : row.resendCount < resendsPerSignup) (hsignups : db'.signups = updateWhere (fun s => s.id = row.id) (TenantSignup.refresh tokenHash) db.signups)
    (hissued : db'.issued = db.issued ++ [{ serial := row.serial, email := row.email }])
    (hrecorded : db'.recorded = db.recorded) : MailBook db' where
  serial := by
    rw [hsignups]
    exact h.serial.updateWhere fun _ _ _ => .inr rfl
  rows s' hs' := by
    rw [hsignups] at hs'
    rw [hrecorded]
    obtain ⟨s, hs, ⟨_, rfl⟩ | ⟨_, rfl⟩⟩ := mem_updateWhere hs'
    · exact h.rows s hs
    · exact h.rows s' hs
  links l hl := by
    rw [hissued] at hl
    rw [hrecorded]
    rcases mem_snoc.mp hl with hl | rfl
    · exact h.links l hl
    · exact h.rows row hrow
  resends s' hs' := by
    rw [hsignups] at hs'
    rw [hissued, List.countP_append, List.countP_singleton]
    simp only [decide_eq_true_eq]
    obtain ⟨s, hs, ⟨hid, rfl⟩ | ⟨hid, rfl⟩⟩ := mem_updateWhere hs'
    · have hsame := hindexed.signupId.eq_of_entry hs hrow (congrArg some (of_decide_eq_true hid)) rfl
      subst hsame
      obtain ⟨hlinks, _⟩ := h.resends s hs
      refine ⟨?_, hcount⟩
      have hmore := Nat.succ_le_succ hlinks
      exact le_of_eq_of_le (congrArg _ (if_pos rfl)) hmore
    · have hne : ¬ row.serial = s'.serial := by
        intro heq
        have hsame := h.serial.eq_of_entry hrow hs (congrArg some heq) rfl
        rw [hsame] at hid
        simp at hid
      rw [if_neg hne, Nat.add_zero]
      exact h.resends s' hs
  total serial := by
    rw [hissued, List.countP_append, List.countP_singleton]
    simp only [decide_eq_true_eq]
    by_cases hserial : row.serial = serial
    · have hold := (h.resends row hrow).1
      rw [hserial] at hold
      rw [if_pos hserial]
      omega
    · rw [if_neg hserial, Nat.add_zero]
      exact h.total serial

theorem MailBook.effect {db : SignupDb} (h : MailBook db) (hindexed : db.Indexed)
    (heffect : SignupEffect config crypto found tag db db') : MailBook db' := by
  cases heffect with
  | same => exact h
  | lock | rollback | deliver | tick => exact h.of_same rfl rfl rfl
  | commit locks hws happly =>
    have hbook : MailBook _ := applyWrites_keeps
      (fun w hw _ _ hdb => MailBook.apply hdb fun row hrow => hws.fresh_signups row (hrow ▸ hw)) h happly
    exact hbook.of_same rfl rfl rfl
  | refresh email tokenHash =>
    rcases refreshNewest_cases email tokenHash db with ⟨_, _, heq⟩ | ⟨row, hnewest, hcount, _, heq⟩
    · rw [heq]
      exact h
    · rw [heq]
      exact h.refresh hindexed (newestLive_some hnewest).1 hcount rfl rfl rfl

def mailLedger (email : String) (serial : Nat) : Ledger SignupDb where
  granted := linksOf email serial
  spent := mailsOf email serial

theorem SignupWrite.apply_records {db : SignupDb} (h : w.apply db = .ok db') :
    db'.mails = db.mails ∧ db'.now = db.now ∧
      ((∀ row, w ≠ .signup row) → db'.issued = db.issued ∧ db'.recorded = db.recorded) := by
  cases w with
  | signup row =>
    obtain ⟨rows, _, rfl⟩ := map_ok h
    exact ⟨rfl, rfl, fun hne => absurd rfl (hne row)⟩
  | releaseSlug slug instant | provisionedTenant id tenantId =>
    cases h
    exact ⟨rfl, rfl, fun _ => ⟨rfl, rfl⟩⟩
  | consume =>
    simp only [SignupWrite.apply] at h
    split at h
    · cases h
      exact ⟨rfl, rfl, fun _ => ⟨rfl, rfl⟩⟩
    · cases h
  | _ =>
    obtain ⟨rows, _, rfl⟩ := map_ok h
    exact ⟨rfl, rfl, fun _ => ⟨rfl, rfl⟩⟩

theorem applyWrites_unrecorded (hws : ∀ row, SignupWrite.signup row ∉ ws) {db : SignupDb}
    (h : applyWrites ws db = .ok db') :
    db'.mails = db.mails ∧ db'.now = db.now ∧ db'.issued = db.issued ∧ db'.recorded = db.recorded := by
  refine applyWrites_keeps (K := fun db₁ => db₁.mails = db.mails ∧ db₁.now = db.now ∧ db₁.issued = db.issued ∧
    db₁.recorded = db.recorded) (fun w hw db₁ db₂ hdb₁ happly => ?_) ⟨rfl, rfl, rfl, rfl⟩ h
  obtain ⟨hmails, hnow, hrest⟩ := SignupWrite.apply_records happly
  obtain ⟨hissued, hrecorded⟩ := hrest fun row hrow => hws row (hrow ▸ hw)
  rw [hmails, hnow, hissued, hrecorded]
  exact hdb₁

theorem applyWrites_request {db : SignupDb} (h : applyWrites [.releaseSlug slug instant, .signup row] db = .ok db') :
    db' = ({ db with signups := db.signups.filter fun s => !s.abandoned slug instant } : SignupDb).record
      ((db.signups.filter fun s => !s.abandoned slug instant) ++ [{ row with serial := db.recorded }])
      { row with serial := db.recorded } := by
  obtain ⟨db₁, hrelease, hrest⟩ := applyWrites_cons.mp h
  obtain ⟨db₂, hinsert, hend⟩ := applyWrites_cons.mp hrest
  cases hrelease
  cases hend
  obtain ⟨rows, hrows, rfl⟩ := map_ok hinsert
  rw [(insertRow_ok.mp hrows).2]

section Affords

variable {email : String} {serial n : Nat}

variable {β : Type} {redis : RedisCounts}

theorem affords_read {α : Type} {f : SignupDb → α} {g : α → SignupProg β}
    (h : ∀ a, (g a).Affords (fun _ => True) (mailLedger email serial) n) :
    ((Prog.read .read f).bind g).Affords (fun _ => True) (mailLedger email serial) n :=
  fun db _ => ⟨n, (Ledger.Idle.refl db).settles n, h _⟩

theorem affords_commit {key : Option String} {aborts : Bool}
    (hws : ∀ row, SignupWrite.signup row ∉ ws) {g : Except DbError Nat → SignupProg β}
    (h : ∀ a, (g a).Affords (fun _ => True) (mailLedger email serial) n) :
    ((commit key ws aborts).bind g).Affords (fun _ => True) (mailLedger email serial) n := by
  intro db _
  refine ⟨n, Ledger.Idle.settles ?_ n, h _⟩
  dsimp only
  split
  · rename_i db' happly
    replace happly := (ok_of_ite happly).2
    obtain ⟨hmails, _, hissued, _⟩ := applyWrites_unrecorded hws happly
    simp only [Ledger.Idle, mailLedger, mailsOf, linksOf, hmails, hissued, le_refl, and_self]
  · exact ⟨Nat.le_refl _, Nat.le_refl _⟩

def credit (email : String) (serial : Nat) (link : IssuedLink) : Nat :=
  if citext link.email = citext email ∧ link.serial = serial then 1 else 0

theorem linksOf_issue {db : SignupDb} (hissued : db'.issued = db.issued ++ [link]) :
    linksOf email serial db' = linksOf email serial db + credit email serial link := by
  simp [linksOf, hissued, List.countP_append, List.countP_singleton, credit]

theorem settles_issue {db : SignupDb} (hissued : db'.issued = db.issued ++ [link])
    (hmails : db'.mails = db.mails) : (mailLedger email serial).Settles db db' 0 (credit email serial link) := by
  have hlinks : linksOf email serial db' = linksOf email serial db + credit email serial link := linksOf_issue hissued
  have hspent : mailsOf email serial db' = mailsOf email serial db := by rw [mailsOf, hmails, mailsOf]
  simp only [Ledger.Settles, mailLedger, hlinks, hspent]
  omega

theorem affords_deliver (link : IssuedLink) (hto : citext to_ = citext link.email)
    {g : Unit → SignupProg β} (h : ∀ a, (g a).Affords (fun _ => True) (mailLedger email serial) 0) :
    ((deliver to_ token link.serial).bind g).Affords (fun _ => True) (mailLedger email serial)
      (credit email serial link) := by
  intro db _
  refine ⟨0, ?_, h _⟩
  simp only [Ledger.Settles, mailLedger, mailsOf, linksOf, List.countP_append, List.countP_singleton, hto,
    Bool.and_eq_true, decide_eq_true_eq, credit]
  omega

theorem affords_work {command : ProvisionTenantCommand} {draw : ProvisionDraw} {startedAt : Millis}
    {g : ProvisionTenantResult × List SignupWrite → SignupProg β}
    (h : ∀ existing now, (g (provisioning config command draw startedAt now existing)).Affords (fun _ => True)
      (mailLedger email serial) n) :
    ((work config command draw startedAt).bind g).Affords (fun _ => True) (mailLedger email serial) n :=
  fun _ _ => ⟨n, Ledger.Idle.settles ⟨Nat.le_refl _, Nat.le_refl _⟩ n, fun db₁ _ =>
    ⟨n, (Ledger.Idle.refl db₁).settles n, fun db₂ _ => ⟨n, (Ledger.Idle.refl db₂).settles n, h _ _⟩⟩⟩

theorem affords_slugTaken {slug : TenantSlug} {g : Bool → SignupProg β}
    (h : ∀ a, (g a).Affords (fun _ => True) (mailLedger email serial) n) :
    ((slugTaken slug).bind g).Affords (fun _ => True) (mailLedger email serial) n := by
  unfold slugTaken
  exact affords_read fun _ => affords_read fun _ => h _

theorem affords_assertMayRequest {address : String} {g : Except SignupError Unit → SignupProg β} (h : ∀ a, (g a).Affords (fun _ => True) (mailLedger email serial) n) :
    ((assertMayRequest address ipAddress redis).bind g).Affords (fun _ => True) (mailLedger email serial) n := by
  unfold assertMayRequest
  split
  · unfold assertRowsWithin
    simp only [Prog.bind_def, Prog.bind_assoc]
    refine affords_read fun _ => affords_read fun _ => ?_
    split
    · exact h _
    · cases ipAddress with
      | none => exact h _
      | some =>
        simp only [Prog.bind_assoc]
        refine affords_read fun _ => ?_
        split <;> exact h _
  · exact h _

/-- The transaction of a request grants the link its answer names. -/
theorem affords_recordSignup {input : SignupInput} {draw : RequestDraw}
    {expiresAt : Millis} {g : Except SignupError Nat → SignupProg β}
    (herror : ∀ e, (g (.error e)).Affords (fun _ => True) (mailLedger email serial) 0)
    (hok : ∀ recorded, (g (.ok recorded)).Affords (fun _ => True) (mailLedger email serial)
      (credit email serial { serial := recorded, email := input.email })) :
    ((recordSignup crypto input ipAddress draw expiresAt).bind g).Affords (fun _ => True) (mailLedger email serial)
      0 := by
  unfold recordSignup
  simp only [Prog.bind_def, Prog.bind_assoc]
  refine affords_read fun startedAt => affords_read fun instant => affords_slugTaken fun taken => ?_
  split
  · exact herror _
  · intro db _
    dsimp only
    cases happly : applyWrites [.releaseSlug input.slug instant,
        .signup (signupRow crypto input ipAddress draw expiresAt startedAt)] db with
    | error e =>
      exact ⟨0, Ledger.Idle.settles ⟨Nat.le_refl _, Nat.le_refl _⟩ 0, herror _⟩
    | ok db' =>
      refine ⟨_, settles_issue ?_ ?_, hok db.recorded⟩
      · rw [applyWrites_request happly]
        rfl
      · rw [applyWrites_request happly]
        rfl

theorem affords_request {input : SignupInput} {draw : RequestDraw} :
    ((request config crypto input ipAddress draw redis).bind fun answer => .pure (SignupReply.requested answer)).Affords
      (fun _ => True) (mailLedger email serial) 0 := by
  unfold request
  split
  · trivial
  · simp only [Prog.bind_def, Prog.bind_assoc]
    refine affords_assertMayRequest fun allowed => ?_
    cases allowed with
    | error => trivial
    | ok _ =>
      simp only [requestAllowed, Prog.bind_def, Prog.bind_assoc]
      refine affords_slugTaken fun taken => ?_
      split
      · trivial
      · simp only [Prog.bind_assoc]
        refine affords_read fun now => affords_recordSignup (fun e => trivial) fun recorded => ?_
        exact affords_deliver { serial := recorded, email := input.email } rfl fun _ => trivial

theorem affords_resend {address : String} {token : String} :
    ((resend config crypto address ipAddress token redis).bind fun answer =>
      .pure (SignupReply.requested answer)).Affords (fun _ => True) (mailLedger email serial) 0 := by
  unfold resend
  split
  · trivial
  · split
    · trivial
    · intro db _
      rcases refreshNewest_cases address (crypto.sha256 token) db with ⟨answer, hanswer, heq⟩ | ⟨row, hnewest, _, _, heq⟩
      · rw [heq]
        refine ⟨0, (Ledger.Idle.refl db).settles 0, ?_⟩
        cases answer with
        | error => trivial
        | ok found =>
          cases found with
          | some row => exact absurd rfl (hanswer row)
          | none => exact affords_read fun _ => trivial
      · rw [heq]
        refine ⟨credit email serial { serial := row.serial, email := row.email }, settles_issue rfl rfl, ?_⟩
        exact affords_deliver { serial := row.serial, email := row.email } (newestLive_some hnewest).2.1.symm
          fun _ => trivial

theorem affords_signupProgram (call : SignupCall) :
    (signupProgram config crypto call).Affords (fun _ => True) (mailLedger email serial) 0 := by
  cases call with
  | request => exact affords_request
  | resend => exact affords_resend
  | verify token draw =>
    simp only [signupProgram, verify, Prog.bind_def]
    split
    · trivial
    · simp only [Prog.bind_assoc]
      refine affords_read fun startedAt => affords_read fun signup => ?_
      cases signup with
      | none =>
        refine affords_read fun row => ?_
        cases row <;> trivial
      | some =>
        simp only [completeSignup, Prog.bind_def, Prog.bind_assoc]
        refine affords_work fun existing now => affords_commit ?_ fun committed => ?_
        · intro row
          exact signup_notMem_verifyWrites (signup_notMem_provisioning _ draw.provision startedAt now existing row)
        · cases committed <;> trivial
  | provision command draw =>
    simp only [signupProgram, provision, Prog.bind_def, Prog.bind_assoc]
    refine affords_read fun startedAt => affords_work fun existing now => affords_commit ?_ fun committed => ?_
    · exact signup_notMem_provisioning command draw startedAt now existing
    · cases committed <;> trivial
  | tick => exact fun db _ => ⟨0, Ledger.Idle.settles ⟨Nat.le_refl _, Nat.le_refl _⟩ 0, trivial⟩

end Affords

def touches (email : String) (instant : Millis) (db : SignupDb) (serial : Nat) : Bool :=
  (db.mails.any fun m => (citext m.to_ = citext email && instant < m.sentAt && decide (m.sentAt ≤ instant + dayMs)) &&
      m.serial = serial) ||
    (decide (db.now ≤ instant + dayMs) && unfinished email db serial)

def windowCount (email : String) (instant : Millis) (db : SignupDb) : Nat :=
  (List.range db.recorded).countP (touches email instant db)

theorem touches_inPlay {email : String} {db : SignupDb} (hnow : db.now ≤ instant + dayMs)
    {serial : Nat} (h : touches email instant db serial = true) : inPlay email db serial = true := by
  simp only [touches, Bool.or_eq_true, Bool.and_eq_true, List.any_eq_true, decide_eq_true_eq] at h
  simp only [inPlay, Bool.or_eq_true, Bool.and_eq_true, List.any_eq_true, decide_eq_true_eq]
  rcases h with ⟨m, hm, ⟨⟨hto, hafter⟩, _⟩, hserial⟩ | ⟨_, hunfinished⟩
  · exact .inl ⟨m, hm, ⟨hto, hserial⟩, lt_of_le_of_lt (Int.sub_right_le_of_le_add hnow) hafter⟩
  · exact .inr hunfinished

theorem inPlay_congr {email : String} (h : citext email = citext email') {db : SignupDb} :
    inPlay email db = inPlay email' db := by
  unfold inPlay unfinished mailsOf linksOf resendable
  rw [h]

theorem windowCount_le_inPlay {email : String} {db : SignupDb} (hnow : db.now ≤ instant + dayMs) :
    windowCount email instant db ≤ signupsInPlay email db :=
  List.countP_mono_left fun _ _ h => touches_inPlay hnow h

structure Fades (db db' : SignupDb) : Prop where
  recorded : db'.recorded = db.recorded
  mails : db'.mails = db.mails
  now : db.now ≤ db'.now
  unfinished : ∀ email serial, unfinished email db' serial = true → unfinished email db serial = true

theorem Fades.refl (db : SignupDb) : Fades db db := ⟨rfl, rfl, le_refl _, fun _ _ h => h⟩

theorem Fades.trans (h : Fades a b) (h' : Fades b c) : Fades a c where
  recorded := h'.recorded.trans h.recorded
  mails := h'.mails.trans h.mails
  now := le_trans h.now h'.now
  unfinished email serial hc := h.unfinished email serial (h'.unfinished email serial hc)

theorem Fades.touches {db : SignupDb} (h : Fades db db') {email : String} {serial : Nat}
    (htouches : touches email instant db' serial = true) : touches email instant db serial = true := by
  simp only [Signup.touches, h.mails, Bool.or_eq_true, Bool.and_eq_true, decide_eq_true_eq] at htouches ⊢
  rcases htouches with hmail | ⟨hnow, hunfinished⟩
  · exact .inl hmail
  · exact .inr ⟨le_trans h.now hnow, h.unfinished email serial hunfinished⟩

theorem Fades.windowCount {db : SignupDb} (h : Fades db db') (email : String) (instant : Millis) :
    windowCount email instant db' ≤ windowCount email instant db := by
  rw [Signup.windowCount, h.recorded]
  exact List.countP_mono_left fun _ _ => h.touches

def RowsKept (db db' : SignupDb) : Prop :=
  ∀ s' ∈ db'.signups, ∃ s ∈ db.signups, s'.serial = s.serial ∧ s'.email = s.email ∧ s.resendCount ≤ s'.resendCount ∧
    (s'.live db'.now = true → s.live db.now = true)

theorem RowsKept.resendable {db : SignupDb} (h : RowsKept db db') {email : String} {serial : Nat}
    (hresend : resendable email db' serial = true) : resendable email db serial = true := by
  simp only [Signup.resendable, List.any_eq_true, Bool.and_eq_true, decide_eq_true_eq] at hresend ⊢
  obtain ⟨s', hs', ⟨⟨hserial', hemail'⟩, hlive'⟩, hcount'⟩ := hresend
  obtain ⟨s, hs, hserial, hemail, hcount, hlive⟩ := h s' hs'
  exact ⟨s, hs, ⟨⟨hserial ▸ hserial', hemail ▸ hemail'⟩, hlive hlive'⟩, lt_of_le_of_lt hcount hcount'⟩

theorem Fades.of_rows {db : SignupDb} (hrecorded : db'.recorded = db.recorded) (hmails : db'.mails = db.mails)
    (hnow : db.now ≤ db'.now) (hissued : db'.issued = db.issued) (hrows : RowsKept db db') : Fades db db' where
  recorded := hrecorded
  mails := hmails
  now := hnow
  unfinished email serial h := by
    simp only [Signup.unfinished, mailsOf, linksOf, hmails, hissued, Bool.or_eq_true] at h ⊢
    exact h.imp_right hrows.resendable

theorem RowsKept.of_same {db : SignupDb} (hsignups : db'.signups = db.signups) (hnow : db.now ≤ db'.now) :
    RowsKept db db' := by
  intro s hs
  rw [hsignups] at hs
  refine ⟨s, hs, rfl, rfl, Nat.le_refl _, fun hlive => ?_⟩
  simp only [TenantSignup.live, Bool.and_eq_true, decide_eq_true_eq] at hlive ⊢
  exact ⟨hlive.1, lt_of_le_of_lt hnow hlive.2⟩

theorem RowsKept.of_update {db : SignupDb}
    (hsignups : db'.signups = updateWhere p f db.signups) (hnow : db'.now = db.now)
    (hf : ∀ s, (f s).serial = s.serial ∧ (f s).email = s.email ∧ s.resendCount ≤ (f s).resendCount ∧
      ((f s).live db.now = true → s.live db.now = true)) : RowsKept db db' := by
  intro s' hs'
  rw [hsignups] at hs'
  rw [hnow]
  obtain ⟨s, hs, ⟨_, rfl⟩ | ⟨_, rfl⟩⟩ := mem_updateWhere hs'
  · exact ⟨s, hs, hf s⟩
  · exact ⟨_, hs, rfl, rfl, Nat.le_refl _, id⟩

theorem SignupWrite.apply_fades {db : SignupDb} (hw : ∀ row, w ≠ .signup row)
    (h : w.apply db = .ok db') : Fades db db' := by
  obtain ⟨hmails, hnow, hrest⟩ := SignupWrite.apply_records h
  obtain ⟨hissued, hrecorded⟩ := hrest hw
  refine .of_rows hrecorded hmails (le_of_eq hnow.symm) hissued ?_
  cases w with
  | signup row => exact absurd rfl (hw row)
  | releaseSlug =>
    cases h
    exact fun s hs => ⟨s, (List.mem_filter.mp hs).1, rfl, rfl, Nat.le_refl _, id⟩
  | provisionedTenant id tenantId =>
    cases h
    exact .of_update (f := ({ · with provisionedTenantId := some tenantId })) rfl rfl
      fun s => ⟨rfl, rfl, Nat.le_refl _, fun hlive => hlive⟩
  | consume tokenHash instant =>
    simp only [SignupWrite.apply] at h
    split at h
    · cases h
      refine .of_update (f := ({ · with consumedAt := some instant })) rfl rfl fun s => ⟨rfl, rfl, Nat.le_refl _, ?_⟩
      simp [TenantSignup.live]
    · cases h
  | _ =>
    obtain ⟨rows, _, rfl⟩ := map_ok h
    exact .of_same rfl (le_refl _)

theorem applyWrites_fades (hws : ∀ row, SignupWrite.signup row ∉ ws) {db : SignupDb}
    (h : applyWrites ws db = .ok db') : Fades db db' :=
  applyWrites_keeps (K := fun db₁ => Fades db db₁)
    (fun _ hw _ _ hdb₁ happly => hdb₁.trans (SignupWrite.apply_fades (fun row hrow => hws row (hrow ▸ hw)) happly))
    (.refl db) h

/-- A signup that is re-sent was not finished before. -/
theorem Fades.refresh {db : SignupDb} (hrow : row ∈ db.signups)
    (hlive : row.live db.now = true) (hcount : row.resendCount < resendsPerSignup) (hsignups : db'.signups = updateWhere (fun s => s.id = row.id) (TenantSignup.refresh tokenHash) db.signups)
    (hissued : db'.issued = db.issued ++ [{ serial := row.serial, email := row.email }])
    (hmails : db'.mails = db.mails) (hnow : db'.now = db.now) (hrecorded : db'.recorded = db.recorded) :
    Fades db db' where
  recorded := hrecorded
  mails := hmails
  now := le_of_eq hnow.symm
  unfinished email serial h := by
    simp only [Signup.unfinished, Bool.or_eq_true, decide_eq_true_eq] at h ⊢
    rcases h with hlinks | hresend
    · by_cases hown : citext row.email = citext email ∧ row.serial = serial
      · refine .inr (List.any_eq_true.mpr ⟨row, hrow, ?_⟩)
        simp [hown, hlive, hcount]
      · rw [linksOf_issue hissued, credit, if_neg hown, Nat.add_zero] at hlinks
        rw [mailsOf, hmails] at hlinks
        exact .inl hlinks
    · refine .inr (RowsKept.resendable ?_ hresend)
      exact .of_update hsignups hnow fun s => ⟨rfl, rfl, Nat.le_succ _, fun h => h⟩

theorem refreshNewest_fades (email tokenHash : String) (db : SignupDb) :
    Fades db (refreshNewest email tokenHash db).2 := by
  rcases refreshNewest_cases email tokenHash db with ⟨_, _, heq⟩ | ⟨row, hnewest, hcount, _, heq⟩
  · rw [heq]
    exact .refl db
  · rw [heq]
    obtain ⟨hrow, _, hlive⟩ := newestLive_some hnewest
    exact .refresh hrow hlive hcount rfl rfl rfl rfl rfl

def Paid (db : SignupDb) : Prop := ∀ email serial, mailsOf email serial db ≤ linksOf email serial db

theorem Paid.serial_lt {db : SignupDb} (h : Paid db) (hbook : MailBook db) (hm : m ∈ db.mails) :
    m.serial < db.recorded := by
  have hmails : 0 < mailsOf m.to_ m.serial db := List.countP_pos_iff.mpr ⟨m, hm, by simp⟩
  obtain ⟨l, hl, hlink⟩ := List.countP_pos_iff.mp (lt_of_lt_of_le hmails (h m.to_ m.serial))
  simp only [Bool.and_eq_true, decide_eq_true_eq] at hlink
  rw [← hlink.2]
  exact hbook.links l hl

def Windowed (db : SignupDb) : Prop := ∀ email instant, windowCount email instant db ≤ signupsPerEmailPerDay

theorem Fades.windowed {db : SignupDb} (h : Fades db db') (hdb : Windowed db) : Windowed db' :=
  fun email instant => le_trans (h.windowCount email instant) (hdb email instant)

/-- A signup is recorded while fewer than the allowed number of its address are in play. -/
theorem Windowed.record {db : SignupDb} (hdb : Windowed db) (hbook : MailBook db) (hpaid : Paid db)
    (row : TenantSignup) (hplay : ∀ email instant, citext row.email = citext email → db.now ≤ instant + dayMs →
      windowCount email instant db < signupsPerEmailPerDay) :
    Windowed (db.record (db.signups ++ [{ row with serial := db.recorded }]) { row with serial := db.recorded }) := by
  intro email instant
  let row' : TenantSignup := { row with serial := db.recorded }
  let db' := db.record (db.signups ++ [row']) row'
  have hlinks : ∀ serial, linksOf email serial db' = linksOf email serial db +
      credit email serial { serial := db.recorded, email := row.email } := fun _ => linksOf_issue rfl
  -- the signups before it are as they were
  have hbefore : ∀ serial, serial ≠ db.recorded → touches email instant db' serial = true →
      touches email instant db serial = true := by
    intro serial hserial h
    have hcredit : credit email serial { serial := db.recorded, email := row.email } = 0 :=
      if_neg fun heq => hserial heq.2.symm
    have hresend : resendable email db' serial = resendable email db serial := by
      have hrow : (row'.serial = serial) = False := eq_false (Ne.symm hserial)
      simp [resendable, db', SignupDb.record, List.any_append, hrow]
    simp only [touches, unfinished, hlinks, hcredit, hresend] at h ⊢
    exact h
  -- it was mailed in no window yet
  have hself : touches email instant db' db.recorded = true → citext row.email = citext email ∧
      db.now ≤ instant + dayMs := by
    intro h
    simp only [touches, Bool.or_eq_true, Bool.and_eq_true, List.any_eq_true, decide_eq_true_eq] at h
    rcases h with ⟨m, hm, _, hserial⟩ | ⟨hnow, hunfinished⟩
    · exact absurd hserial (Nat.ne_of_lt (hpaid.serial_lt hbook hm))
    · refine ⟨?_, hnow⟩
      simp only [unfinished, hlinks, Bool.or_eq_true, decide_eq_true_eq] at hunfinished
      rcases hunfinished with hlink | hresend
      · by_contra hother
        have hcredit : credit email db.recorded { serial := db.recorded, email := row.email } = 0 :=
          if_neg fun heq => hother heq.1
        have hnone : linksOf email db.recorded db = 0 := by
          refine List.countP_eq_zero.mpr fun l hl hlink => ?_
          simp only [Bool.and_eq_true, decide_eq_true_eq] at hlink
          exact Nat.ne_of_lt (hbook.links l hl) hlink.2
        rw [hnone, hcredit] at hlink
        exact Nat.not_lt_zero _ hlink
      · obtain ⟨s, hs, hrow⟩ := List.any_eq_true.mp hresend
        simp only [Bool.and_eq_true, decide_eq_true_eq] at hrow
        rcases mem_snoc.mp hs with hs | rfl
        · exact absurd hrow.1.1.1 (Nat.ne_of_lt (hbook.rows s hs))
        · exact hrow.1.1.2
  have hcount : windowCount email instant db' ≤ windowCount email instant db +
      if touches email instant db' db.recorded then 1 else 0 := by
    have hrange : List.range db'.recorded = List.range db.recorded ++ [db.recorded] := List.range_succ
    rw [windowCount, hrange, List.countP_append, List.countP_singleton]
    refine Nat.add_le_add_right (List.countP_mono_left fun serial hserial h => ?_) _
    exact hbefore serial (Nat.ne_of_lt (List.mem_range.mp hserial)) h
  cases hnew : touches email instant db' db.recorded with
  | false =>
    rw [hnew] at hcount
    exact le_trans hcount (hdb email instant)
  | true =>
    rw [hnew] at hcount
    obtain ⟨hemail, hnow⟩ := hself hnew
    exact le_trans hcount (hplay email instant hemail hnow)

theorem Windowed.deliver {db : SignupDb} (hdb : Windowed db) {mail : VerificationMail} (hsent : mail.sentAt = db.now)
    (hpaid : Paid { db with mails := db.mails ++ [mail] }) : Windowed { db with mails := db.mails ++ [mail] } := by
  intro email instant
  refine le_trans (List.countP_mono_left fun serial _ h => ?_) (hdb email instant)
  let db' : SignupDb := { db with mails := db.mails ++ [mail] }
  have hmails : mailsOf email serial db' = mailsOf email serial db +
      if citext mail.to_ = citext email ∧ mail.serial = serial then 1 else 0 := by
    simp [mailsOf, db', List.countP_append, List.countP_singleton]
  have hlinks : linksOf email serial db' = linksOf email serial db := rfl
  have hle := hpaid email serial
  rw [hmails, hlinks] at hle
  simp only [touches, unfinished, Bool.or_eq_true, Bool.and_eq_true, decide_eq_true_eq, List.any_append,
    List.any_cons, List.any_nil, Bool.or_false] at h ⊢
  rcases h with (hold | hnew) | ⟨hnow, hunfinished⟩
  · exact .inl hold
  · obtain ⟨⟨⟨hto, _⟩, hbefore⟩, hserial⟩ := hnew
    rw [if_pos ⟨hto, hserial⟩] at hle
    exact .inr ⟨hsent ▸ hbefore, .inl hle⟩
  · refine .inr ⟨hnow, hunfinished.imp_left fun hlt => ?_⟩
    rw [hmails] at hlt
    exact lt_of_le_of_lt (Nat.le_add_right _ _) hlt

theorem Windowed.bounded {db : SignupDb} (hdb : Windowed db) (hbook : MailBook db) (hpaid : Paid db) :
    MailBounded db := by
  intro email instant
  apply Shares.countP_le_mul VerificationMail.serial (touches email instant db) (n := db.recorded)
  · exact fun m hm _ => hpaid.serial_lt hbook hm
  · intro m hm hwithin
    simp only [touches, Bool.or_eq_true]
    exact .inl (List.any_eq_true.mpr ⟨m, hm, by rw [hwithin]; simp⟩)
  · intro serial
    refine le_trans (List.countP_mono_left fun m _ hm => ?_) (le_trans (hpaid email serial) (hbook.linksOf_le email serial))
    simp only [Bool.and_eq_true] at hm ⊢
    exact ⟨hm.1.1.1, hm.2⟩
  · exact hdb email instant

section Runs

variable {db : SignupDb} {s : SignupSys} {cond : SignupSys → SignupCall → SignupStmt → Prop}

structure NobodySignedUp (db : SignupDb) : Prop where
  indexed : db.Indexed
  signups : db.signups = []
  issued : db.issued = []
  mails : db.mails = []

instance (db : SignupDb) : Decidable (NobodySignedUp db) :=
  decidable_of_iff (db.Indexed ∧ db.signups = [] ∧ db.issued = [] ∧ db.mails = [])
    ⟨fun h => ⟨h.1, h.2.1, h.2.2.1, h.2.2.2⟩, fun h => ⟨h.indexed, h.signups, h.issued, h.mails⟩⟩

theorem NobodySignedUp.book (h : NobodySignedUp db) : MailBook db where
  serial := by
    rw [h.signups]
    exact List.Pairwise.nil
  rows := by simp [h.signups]
  links := by simp [h.issued]
  resends := by simp [h.signups]
  total := by simp [h.issued]

theorem NobodySignedUp.windowed (h : NobodySignedUp db) : Windowed db := by
  intro email instant
  have hnone : ∀ serial, touches email instant db serial = false := by
    intro serial
    simp [touches, unfinished, resendable, mailsOf, linksOf, h.signups, h.issued, h.mails]
  have hzero : windowCount email instant db = 0 := List.countP_eq_zero.mpr fun serial _ => by simp [hnone]
  exact hzero ▸ Nat.zero_le _

theorem paid (h : NobodySignedUp db) (hs : Reachable (signupProgram config crypto) cond (.idle db) s) : Paid s.db := by
  intro email serial
  have hstart : (mailLedger email serial).spent db ≤ (mailLedger email serial).granted db := by
    simp [mailLedger, mailsOf, h.mails]
  have hprog : ∀ call, (signupProgram config crypto call).Affords (fun _ => True) (mailLedger email serial) 0 :=
    affords_signupProgram
  exact (Reachable.solvent hprog hstart (fun _ _ => trivial) hs).spent_le

theorem book (hcond : ∀ s call tag, cond s call tag → Granted tag s.db) (h : NobodySignedUp db)
    (hs : Reachable (signupProgram config crypto) cond (.idle db) s) : MailBook s.db := by
  induction hs with
  | refl => exact h.book
  | tail hs hstep ih =>
    rcases Reachable.signupEffect hcond h.indexed hs hstep with hsame | ⟨_, _, _, heffect⟩
    · rw [hsame]
      exact ih
    · exact ih.effect (Reachable.signupOwned hcond h.indexed hs).inv heffect

theorem Windowed.effect (hdb : Windowed db) (hbook : MailBook db)
    (hpaid : Paid db) (hpaid' : Paid db') (hsafe : opensSafely db tag = true)
    (heffect : SignupEffect config crypto found tag db db') : Windowed db' := by
  cases heffect with
  | same => exact hdb
  | lock | rollback => exact Fades.windowed (.of_rows rfl rfl (le_refl _) rfl (.of_same rfl (le_refl _))) hdb
  | tick milliseconds =>
    have hnow : db.now ≤ db.now + milliseconds := Int.le_add_of_nonneg_right (Int.natCast_nonneg _)
    have hfades : Fades db { db with now := db.now + milliseconds } := .of_rows rfl rfl hnow rfl (.of_same rfl hnow)
    exact hfades.windowed hdb
  | refresh email tokenHash => exact (refreshNewest_fades email tokenHash db).windowed hdb
  | deliver mail _ hsent => exact hdb.deliver hsent hpaid'
  | commit locks hws happly =>
    rcases hws.request_or with ⟨input, ipAddress, draw, expiresAt, createdAt, instant, rfl⟩ | hnone
    · let db₁ : SignupDb := { db with signups := db.signups.filter fun s => !s.abandoned input.slug instant }
      have hrelease : Fades db db₁ := .of_rows rfl rfl (le_refl _) rfl fun s hs =>
        ⟨s, (List.mem_filter.mp hs).1, rfl, rfl, Nat.le_refl _, id⟩
      have hbook₁ : MailBook db₁ :=
        hbook.of_rows rfl rfl (hbook.serial.filter _) fun s hs => ⟨s, (List.mem_filter.mp hs).1, rfl, rfl⟩
      have hplay : signupsInPlay input.email db < signupsPerEmailPerDay := by
        simpa [opensSafely, signupRow] using hsafe
      have hrecord := Windowed.record (hrelease.windowed hdb) hbook₁ hpaid
        (signupRow crypto input ipAddress draw expiresAt createdAt) ?_
      · rw [applyWrites_request happly]
        exact hrecord
      · intro email window hemail hnow
        refine lt_of_le_of_lt (hrelease.windowCount email window) ?_
        exact lt_of_le_of_lt (windowCount_le_inPlay hnow) (by rwa [signupsInPlay, ← inPlay_congr hemail])
    · exact (applyWrites_fades hnone happly).windowed hdb

theorem windowed (h : NobodySignedUp db) (hs : Reachable (signupProgram config crypto) opensSafelyIn (.idle db) s) :
    Windowed s.db := by
  have hcond : ∀ (s : SignupSys) call tag, opensSafelyIn s call tag → Granted tag s.db := fun _ _ _ h => h.1
  induction hs with
  | refl => exact h.windowed
  | tail hs hstep ih =>
    rcases Reachable.signupEffect hcond h.indexed hs hstep with hsame | ⟨_, _, hsafe, heffect⟩
    · rw [hsame]
      exact ih
    · exact ih.effect (book hcond h hs) (paid h hs) (paid h (.tail hs hstep)) hsafe.2 heffect

/-- Wherever the update of a resend is executed, it refreshes one live row or none. -/
theorem RefreshStep.refreshesOne (hcond : ∀ s call tag, cond s call tag → Granted tag s.db) (hdb : db.Indexed)
    (hs : Reachable (signupProgram config crypto) cond (.idle db) s) (hstep : RefreshStep s s') :
    RefreshesOne s.db s'.db := by
  have howned := Reachable.signupOwned hcond hdb hs
  obtain ⟨i, call, β, act, next, hcall, rfl⟩ := hstep
  have heffect : SignupEffect config crypto (fun _ => True) .refresh s.db (act s.db).2 := howned.exec_spec hcall ⟨trivial, trivial⟩
  have hrefreshes : ∀ db', SignupEffect config crypto (fun _ => True) .refresh s.db db' → RefreshesOne s.db db' := by
    intro db' heffect
    cases heffect with
    | same => exact .inl rfl
    | refresh email tokenHash =>
      rcases refreshNewest_cases email tokenHash s.db with ⟨_, _, heq⟩ | ⟨row, hnewest, hcount, _, heq⟩
      · exact .inl (by rw [heq])
      · obtain ⟨hrow, _, hlive⟩ := newestLive_some hnewest
        have hrefreshed : ∀ s₁ ∈ (refreshNewest email tokenHash s.db).2.signups, s₁.id = row.id →
            s₁ = row.refresh tokenHash := by
          intro s₁ hs₁ hid
          rw [heq] at hs₁
          have hupdated := howned.inv.signupId.eq_updated (f := TenantSignup.refresh tokenHash) (fun _ => rfl) hrow hs₁
            rfl (congrArg some hid)
          simpa using hupdated
        refine .inr ⟨row, hrow, tokenHash, hlive, hcount, by rw [heq], ?_, fun presented => ?_⟩
        · exact fun s₁ hs₁ hid => ⟨hrefreshed s₁ hs₁ hid, by rw [hrefreshed s₁ hs₁ hid]; rfl⟩
        · have hnow : (refreshNewest email tokenHash s.db).2.now = s.db.now := by rw [heq]
          rw [hnow]
          constructor
          · rintro ⟨s₁, hs₁, hid, hredeems⟩
            rw [hrefreshed s₁ hs₁ hid] at hredeems
            simp only [TenantSignup.redeemable, Bool.and_eq_true, decide_eq_true_eq] at hredeems
            exact hredeems.1.symm
          · rintro rfl
            refine ⟨row.refresh presented, ?_, rfl, ?_⟩
            · rw [heq]
              have hmem := mem_updateWhere_of_mem (p := fun s : TenantSignup => decide (s.id = row.id))
                (f := TenantSignup.refresh presented) hrow
              simpa using hmem
            · simp only [TenantSignup.redeemable, Bool.and_eq_true, decide_eq_true_eq]
              exact ⟨rfl, hlive⟩
  exact hrefreshes _ heffect

/-- Where a signup is recorded only while fewer than the allowed number of its address are in play, no address is
    sent more than the cap in any 24 hours; and a resend refreshes one live signup or none, keeping its deadline. -/
theorem verification_mail_bounded (config : SignupConfig) (crypto : Crypto) {db : SignupDb} (h : NobodySignedUp db) :
    (∀ s, Reachable (signupProgram config crypto) opensSafelyIn (.idle db) s → MailBounded s.db) ∧
      ∀ s, SignupRun config crypto db s → ∀ s', RefreshStep s s' → RefreshesOne s.db s'.db := by
  refine ⟨fun s hs => ?_, fun s hs s' hstep => ?_⟩
  · exact (windowed h hs).bounded (book (fun _ _ _ h => h.1) h hs) (paid h hs)
  · exact hstep.refreshesOne (fun _ _ _ h => h) h.indexed hs

end Runs

def adaSignsUp (slug : TenantSlug) (draw : Nat) : SignupCall :=
  .request { email := "ada@mail.test", password := "secret", adminName := "Ada", tenantName := "Acme", slug } none
    { id := BitVec.ofNat 128 draw, token := toString draw, salt := "" } {}

def adaResends (token : String) : SignupCall := .resend "ada@mail.test" none token {}

/-- Three are re-sent three times, then more are made; when the first is no longer counted, a fourth is re-sent. -/
def resendsOfAnOlderSignup : List (Move SignupCall) :=
  inOneGo 0 (adaSignsUp ⟨"one", by decide⟩ 1) 11 ++ inOneGo 1 (.tick 82800000) 1 ++
    inOneGo 2 (adaResends "a") 2 ++ inOneGo 3 (adaResends "b") 2 ++ inOneGo 4 (adaResends "c") 2 ++
    inOneGo 5 (adaSignsUp ⟨"two", by decide⟩ 2) 11 ++
    inOneGo 6 (adaResends "d") 2 ++ inOneGo 7 (adaResends "e") 2 ++ inOneGo 8 (adaResends "f") 2 ++
    inOneGo 9 (adaSignsUp ⟨"three", by decide⟩ 3) 11 ++
    inOneGo 10 (adaResends "g") 2 ++ inOneGo 11 (adaResends "h") 2 ++ inOneGo 12 (adaResends "i") 2 ++
    inOneGo 13 (.tick 3600000) 1 ++ inOneGo 14 (adaSignsUp ⟨"four", by decide⟩ 4) 11 ++ inOneGo 15 (adaResends "j") 2

/-- Thirteen mails in a day, where twelve is the cap. -/
theorem resends_of_an_older_signup :
    ∃ s, SignupRun appTest Crypto.transparent {} s ∧ mailsWithin "ada@mail.test" 79200000 s.db = 13 ∧
      ¬ MailBounded s.db := by
  have hrun : ((run (signupProgram appTest Crypto.transparent) (fun s call tag => decide (granted s call tag))
      resendsOfAnOlderSignup (.idle {})).map fun s => mailsWithin "ada@mail.test" 79200000 s.db) = some 13 := by
    decide +kernel
  obtain ⟨s, hreach, hmails⟩ := ends_of_run hrun
  refine ⟨s, hreach, hmails, fun hbounded => ?_⟩
  have hcap := hbounded "ada@mail.test" 79200000
  rw [hmails] at hcap
  exact absurd hcap (by decide)

theorem exists_refreshStep {s : SignupSys} {i : Nat}
    (h : (s.calls[i]?.any fun e => decide (e.2.next? = some .refresh)) = true) : ∃ s', RefreshStep s s' := by
  obtain ⟨⟨call, p⟩, hcall, hnext⟩ := (Option.any_eq_true _ _).mp h
  cases p with
  | pure => simp [Prog.next?] at hnext
  | atomic tag act next =>
    obtain rfl : tag = .refresh := by simpa [Prog.next?] using hnext
    exact ⟨s.exec i call act next, i, call, _, act, next, hcall, rfl⟩

/-- One signup, re-sent once. -/
theorem verification_mail_bounded_resent :
    ∃ s s', s.db.mails.length = 1 ∧ MailBounded s.db ∧ RefreshStep s s' ∧ RefreshesOne s.db s'.db := by
  have hstart : NobodySignedUp {} := by decide
  have hrun : ((run (signupProgram appTest Crypto.transparent) (fun s call tag => decide (opensSafelyIn s call tag))
      (inOneGo 0 (adaSignsUp ⟨"one", by decide⟩ 1) 11 ++ inOneGo 1 (adaResends "a") 0) (.idle {})).map
        fun s => decide (s.db.mails.length = 1) && s.calls[1]?.any fun e => decide (e.2.next? = some .refresh)) =
      some true := by
    decide +kernel
  obtain ⟨s, hreach, hstate⟩ := ends_of_run hrun
  obtain ⟨hmails, hnext⟩ := Bool.and_eq_true_iff.mp hstate
  obtain ⟨s', hstep⟩ := exists_refreshStep hnext
  obtain ⟨hbounded, hrefreshes⟩ := verification_mail_bounded appTest Crypto.transparent hstart
  refine ⟨s, s', of_decide_eq_true hmails, hbounded s hreach, hstep, hrefreshes s ?_ s' hstep⟩
  exact hreach.mono fun _ _ _ h => h.1

end WhatsappCrm.Signup
