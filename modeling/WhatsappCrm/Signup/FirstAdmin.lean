/-
Purpose: What a verified signup comes to administer.
-/
import WhatsappCrm.Signup.MailCap

namespace WhatsappCrm.Signup

open Interleaving Table Lifecycle
open Auth (Crypto)
open Domains (TenantDomain citext)

variable {found : Option ExistingTenant → Prop}

def CameWith (db db' : SignupDb) (tenantId : Uuid) : Prop :=
  (∃ t ∈ db'.tenants, t.id = tenantId) ∧ ∀ t ∈ db.tenants, t.id ≠ tenantId

/-- Each new user and each new session is of a tenant that was created in the same step. -/
structure AdministersItsOwn (db db' : SignupDb) : Prop where
  users : ∀ u ∈ db'.users, u ∈ db.users ∨ CameWith db db' u.tenantId
  sessions : ∀ s ∈ db'.sessions, s ∈ db.sessions ∨ CameWith db db' s.tenantId

def TakesStep (call : SignupCall) (s s' : SignupSys) : Prop :=
  ∃ (i : Nat) (tag : SignupStmt) (β : Type) (act : SignupDb → β × SignupDb) (next : β → SignupProg SignupReply),
    s.calls[i]? = some (call, .atomic tag act next) ∧ s' = s.exec i call act next

/-- A signup is consumed by a verification that presents the token that is on it, and is consumed for good. -/
structure ConsumesOnce (crypto : Crypto) (s s' : SignupSys) : Prop where
  consumed : ∀ row ∈ s.db.signups, ∀ row' ∈ s'.db.signups, row'.serial = row.serial →
    row'.consumedAt = row.consumedAt ∨
      row.consumedAt = none ∧ ∃ token draw aborts, TakesStep (.verify token draw aborts) s s' ∧
        row.tokenHash = crypto.sha256 token
  kept : ∀ row ∈ s.db.signups, row.consumedAt ≠ none →
    ∃ row' ∈ s'.db.signups, row'.serial = row.serial ∧ row'.consumedAt = row.consumedAt

def TenantSignup.tenantEntry (s : TenantSignup) : Option Uuid := s.provisionedTenantId

def slugFreeIn (s : SignupSys) (_ : SignupCall) (tag : SignupStmt) : Prop :=
  Granted tag s.db ∧ Finds (· = none) tag s.db

instance (tag : SignupStmt) (db : SignupDb) : Decidable (Finds (· = none) tag db) := by
  unfold Finds
  split <;> infer_instance

instance (s : SignupSys) (call : SignupCall) (tag : SignupStmt) : Decidable (slugFreeIn s call tag) :=
  inferInstanceAs (Decidable (_ ∧ _))

variable {w : SignupWrite} {ws : List SignupWrite} {tokenHash : String} {tenantId : Uuid} {draw : VerifyDraw}
  {tag : SignupStmt}

theorem SignupWrite.apply_people {db : SignupDb} (h : w.apply db = .ok db') :
    (∀ u ∈ db'.users, u ∈ db.users ∨ w = .user u) ∧ ∀ s ∈ db'.sessions, s ∈ db.sessions ∨ w = .session s := by
  cases w with
  | user =>
    obtain ⟨rows, hinsert, rfl⟩ := map_ok h
    refine ⟨fun u hu => ?_, fun s hs => .inl hs⟩
    have hu' : u ∈ rows := hu
    rw [(insertRow_ok.mp hinsert).2] at hu'
    rcases mem_snoc.mp hu' with hu' | hu'
    · exact .inl hu'
    · exact .inr (congrArg _ hu'.symm)
  | session =>
    obtain ⟨rows, hinsert, rfl⟩ := map_ok h
    refine ⟨fun u hu => .inl hu, fun s hs => ?_⟩
    have hs' : s ∈ rows := hs
    rw [(insertRow_ok.mp hinsert).2] at hs'
    rcases mem_snoc.mp hs' with hs' | hs'
    · exact .inl hs'
    · exact .inr (congrArg _ hs'.symm)
  | releaseSlug slug instant | provisionedTenant id tenantId =>
    cases h
    exact ⟨fun u hu => .inl hu, fun s hs => .inl hs⟩
  | consume =>
    simp only [SignupWrite.apply] at h
    split at h
    · cases h
      exact ⟨fun u hu => .inl hu, fun s hs => .inl hs⟩
    · cases h
  | _ =>
    obtain ⟨rows, _, rfl⟩ := map_ok h
    exact ⟨fun u hu => .inl hu, fun s hs => .inl hs⟩

theorem applyWrites_people {db : SignupDb} (h : applyWrites ws db = .ok db') :
    (∀ u ∈ db'.users, u ∈ db.users ∨ .user u ∈ ws) ∧ ∀ s ∈ db'.sessions, s ∈ db.sessions ∨ .session s ∈ ws := by
  refine applyWrites_keeps
    (K := fun db₁ => (∀ u ∈ db₁.users, u ∈ db.users ∨ .user u ∈ ws) ∧
      ∀ s ∈ db₁.sessions, s ∈ db.sessions ∨ .session s ∈ ws)
    (fun w hw db₁ db₂ hdb₁ happly => ?_) ⟨fun u hu => .inl hu, fun s hs => .inl hs⟩ h
  obtain ⟨husers, hsessions⟩ := SignupWrite.apply_people happly
  refine ⟨fun u hu => ?_, fun s hs => ?_⟩
  · rcases husers u hu with hold | rfl
    · exact hdb₁.1 u hold
    · exact .inr hw
  · rcases hsessions s hs with hold | rfl
    · exact hdb₁.2 s hold
    · exact .inr hw

theorem verifyWrites_people (crypto : Crypto) (signup : TenantSignup) (hprovisions : ∀ w ∈ ws, w.provisions = true) :
    (∀ u, .user u ∈ verifyWrites crypto signup tokenHash startedAt tenantId draw ws → u.tenantId = tenantId) ∧
      ∀ s, .session s ∈ verifyWrites crypto signup tokenHash startedAt tenantId draw ws → s.tenantId = tenantId := by
  constructor
  · intro u hu
    have hnot : SignupWrite.user u ∉ ws := fun hwrite => Bool.noConfusion (hprovisions _ hwrite)
    have heq : u = adminRow signup tenantId draw := by simpa [verifyWrites, hnot] using hu
    exact heq ▸ rfl
  · intro s hs
    have hnot : SignupWrite.session s ∉ ws := fun hwrite => Bool.noConfusion (hprovisions _ hwrite)
    have heq : s = ⟨draw.sessionId, tenantId, draw.userId, crypto.sha256 draw.sessionToken⟩ := by
      simpa [verifyWrites, hnot] using hs
    exact heq ▸ rfl

theorem verify_creates {signup : TenantSignup} {db : SignupDb} (hfound : findProvisionedTenant signup.desiredSlug db = none)
    (happly : applyWrites
      (verifyWrites crypto signup tokenHash startedAt
        (provisioned config (signupCommand signup) draw.provision startedAt now db).1.tenant.id draw
        (provisioned config (signupCommand signup) draw.provision startedAt now db).2) db = .ok db') :
    CameWith db db' (provisioned config (signupCommand signup) draw.provision startedAt now db).1.tenant.id := by
  have hcreates : provisioned config (signupCommand signup) draw.provision startedAt now db =
      createTenant config (signupCommand signup) draw.provision startedAt now := by
    have hnone : findProvisionedTenant (signupCommand signup).slug db = none := hfound
    rw [provisioned, hnone]
    rfl
  rw [hcreates] at happly ⊢
  have hrow : SignupWrite.tenant (tenantRow (signupCommand signup) draw.provision startedAt now) ∈
      verifyWrites crypto signup tokenHash startedAt
        (createTenant config (signupCommand signup) draw.provision startedAt now).1.tenant.id draw
        (createTenant config (signupCommand signup) draw.provision startedAt now).2 :=
    List.mem_cons_of_mem _ (List.mem_append_left _ List.mem_cons_self)
  exact ⟨⟨_, applyWrites_tenant_mem hrow happly, rfl⟩, fun t ht => applyWrites_fresh hrow happly t ht⟩

/-- A verification that finds no tenant under its slug administers the one it creates. -/
theorem Commits.administersItsOwn {db : SignupDb} (hws : Commits config crypto (· = none) db ws) (happly : applyWrites ws db = .ok db') :
    AdministersItsOwn db db' := by
  obtain ⟨husers, hsessions⟩ := applyWrites_people happly
  cases hws with
  | request =>
    constructor
    · intro u hu
      exact .inl ((husers u hu).resolve_right (by simp))
    · intro s hs
      exact .inl ((hsessions s hs).resolve_right (by simp))
  | provision command draw startedAt now =>
    have hprovisions := provisioning_provisions config command draw startedAt now (findProvisionedTenant command.slug db)
    constructor
    · intro u hu
      exact .inl ((husers u hu).resolve_right fun hwrite => Bool.noConfusion (hprovisions _ hwrite))
    · intro s hs
      exact .inl ((hsessions s hs).resolve_right fun hwrite => Bool.noConfusion (hprovisions _ hwrite))
  | verify signup tokenHash draw startedAt now hfound =>
    have hprovisions := provisioning_provisions config (signupCommand signup) draw.provision startedAt now
      (findProvisionedTenant signup.desiredSlug db)
    have hcame := verify_creates hfound happly
    obtain ⟨huser, hsession⟩ := verifyWrites_people crypto signup hprovisions
    constructor
    · intro u hu
      exact (husers u hu).imp_right fun hwrite => huser u hwrite ▸ hcame
    · intro s hs
      exact (hsessions s hs).imp_right fun hwrite => hsession s hwrite ▸ hcame

structure Descends (ws : List SignupWrite) (row row' : TenantSignup) : Prop where
  serial : row'.serial = row.serial
  token : row'.tokenHash = row.tokenHash
  consumed : row'.consumedAt = row.consumedAt ∨
    row.consumedAt = none ∧ ∃ instant, .consume row.tokenHash instant ∈ ws

theorem Descends.refl (ws : List SignupWrite) (row : TenantSignup) : Descends ws row row := ⟨rfl, rfl, .inl rfl⟩

theorem Descends.trans (h : Descends [w] row row₁) (h' : Descends ws row₁ row₂) : Descends (w :: ws) row row₂ where
  serial := h'.serial.trans h.serial
  token := h'.token.trans h.token
  consumed := by
    rcases h.consumed with hsame | ⟨hnone, instant, hwrite⟩
    · rcases h'.consumed with hsame' | ⟨hnone', instant, hwrite⟩
      · exact .inl (hsame'.trans hsame)
      · exact .inr ⟨hsame ▸ hnone', instant, List.mem_cons_of_mem _ (h.token ▸ hwrite)⟩
    · exact .inr ⟨hnone, instant, List.mem_cons.mpr (.inl (List.mem_singleton.mp hwrite))⟩

/-- A write leaves rows that come of earlier ones, and new ones. -/
theorem SignupWrite.apply_descends {db : SignupDb} (h : w.apply db = .ok db') :
    db.recorded ≤ db'.recorded ∧ ∀ row' ∈ db'.signups,
      (∃ row ∈ db.signups, Descends [w] row row') ∨ db.recorded ≤ row'.serial := by
  cases w with
  | signup =>
    obtain ⟨rows, hinsert, rfl⟩ := map_ok h
    refine ⟨Nat.le_succ _, fun row' hrow' => ?_⟩
    have hrow : row' ∈ rows := hrow'
    rw [(insertRow_ok.mp hinsert).2] at hrow
    rcases mem_snoc.mp hrow with hrow | hrow
    · exact .inl ⟨row', hrow, .refl _ _⟩
    · exact .inr (hrow ▸ le_refl _)
  | releaseSlug =>
    cases h
    exact ⟨le_refl _, fun row' hrow' => .inl ⟨row', (List.mem_filter.mp hrow').1, .refl _ _⟩⟩
  | consume tokenHash instant =>
    simp only [SignupWrite.apply] at h
    split at h
    · cases h
      refine ⟨le_refl _, fun row' hrow' => .inl ?_⟩
      obtain ⟨row, hrow, ⟨hguard, rfl⟩ | ⟨_, rfl⟩⟩ := mem_updateWhere hrow'
      · simp only [TenantSignup.redeemable, TenantSignup.live, Bool.and_eq_true, decide_eq_true_eq] at hguard
        obtain ⟨rfl, hnone, _⟩ := hguard
        exact ⟨row, hrow, rfl, rfl, .inr ⟨hnone, instant, List.mem_singleton_self _⟩⟩
      · exact ⟨row', hrow, .refl _ _⟩
    · cases h
  | provisionedTenant =>
    cases h
    refine ⟨le_refl _, fun row' hrow' => .inl ?_⟩
    obtain ⟨row, hrow, ⟨_, rfl⟩ | ⟨_, rfl⟩⟩ := mem_updateWhere hrow'
    · exact ⟨row, hrow, rfl, rfl, .inl rfl⟩
    · exact ⟨row', hrow, .refl _ _⟩
  | _ =>
    obtain ⟨rows, _, rfl⟩ := map_ok h
    exact ⟨le_refl _, fun row' hrow' => .inl ⟨row', hrow', .refl _ _⟩⟩

theorem applyWrites_descends {db : SignupDb} (h : applyWrites ws db = .ok db') :
    ∀ row' ∈ db'.signups, (∃ row ∈ db.signups, Descends ws row row') ∨ db.recorded ≤ row'.serial := by
  induction ws generalizing db with
  | nil =>
    cases h
    exact fun row' hrow' => .inl ⟨row', hrow', .refl _ _⟩
  | cons w ws ih =>
    obtain ⟨db₁, hw, hws⟩ := applyWrites_cons.mp h
    obtain ⟨hrecorded, hfirst⟩ := SignupWrite.apply_descends hw
    intro row' hrow'
    rcases ih hws row' hrow' with ⟨row₁, hrow₁, hdescends⟩ | hnew
    · rcases hfirst row₁ hrow₁ with ⟨row, hrow, hdescends₁⟩ | hnew
      · exact .inl ⟨row, hrow, hdescends₁.trans hdescends⟩
      · exact .inr (hdescends.serial ▸ hnew)
    · exact .inr (le_trans hrecorded hnew)

def ConsumedThen (serial : Nat) (instant : Millis) (db : SignupDb) : Prop :=
  ∃ row ∈ db.signups, row.serial = serial ∧ row.consumedAt = some instant

theorem SignupWrite.apply_consumedThen {db : SignupDb}
    (hdb : ConsumedThen serial instant db) (h : w.apply db = .ok db') : ConsumedThen serial instant db' := by
  obtain ⟨row, hrow, hserial, hconsumed⟩ := hdb
  cases w with
  | signup =>
    obtain ⟨rows, hinsert, rfl⟩ := map_ok h
    refine ⟨row, ?_, hserial, hconsumed⟩
    have hmem : row ∈ rows := by
      rw [(insertRow_ok.mp hinsert).2]
      exact List.mem_append_left _ hrow
    exact hmem
  | releaseSlug =>
    cases h
    exact ⟨row, List.mem_filter.mpr ⟨hrow, by simp [TenantSignup.abandoned, hconsumed]⟩, hserial, hconsumed⟩
  | consume tokenHash instant' =>
    simp only [SignupWrite.apply] at h
    split at h
    · cases h
      have hguard : TenantSignup.redeemable tokenHash instant' row = false := by
        simp [TenantSignup.redeemable, TenantSignup.live, hconsumed]
      have hmem := mem_updateWhere_of_mem (p := TenantSignup.redeemable tokenHash instant')
        (f := ({ · with consumedAt := some instant' })) hrow
      rw [hguard] at hmem
      exact ⟨row, hmem, hserial, hconsumed⟩
    · cases h
  | provisionedTenant id tenantId =>
    cases h
    have hmem := mem_updateWhere_of_mem (p := fun s : TenantSignup => decide (s.id = id))
      (f := ({ · with provisionedTenantId := some tenantId })) hrow
    refine ⟨_, hmem, ?_, ?_⟩
    · split <;> exact hserial
    · split <;> exact hconsumed
  | _ =>
    obtain ⟨rows, _, rfl⟩ := map_ok h
    exact ⟨row, hrow, hserial, hconsumed⟩

theorem verifyWrites_consume (hprovisions : ∀ w ∈ ws, w.provisions = true)
    (h : .consume tokenHash' instant ∈ verifyWrites crypto signup tokenHash startedAt tenantId draw ws) :
    tokenHash' = tokenHash := by
  have hnot : SignupWrite.consume tokenHash' instant ∉ ws := fun hwrite => Bool.noConfusion (hprovisions _ hwrite)
  have hown : tokenHash' = tokenHash ∧ instant = startedAt := by simpa [verifyWrites, hnot] using h
  exact hown.1

def ConsumesBy (allowed : String → Prop) (tag : SignupStmt) : Prop :=
  ∀ ws, tag = .commit ws → ∀ tokenHash instant, .consume tokenHash instant ∈ ws → allowed tokenHash

abbrev Consuming {α : Type} (allowed : String → Prop) (p : SignupProg α) : Prop :=
  p.Within (fun _ => True) fun tag _ _ => ConsumesBy allowed tag

section Consuming

variable {α β : Type}

theorem Consuming.read (f : SignupDb → α) : Consuming allowed (.read .read f) := Prog.Within.read fun _ _ => nofun

theorem commit_consuming (key : Option String) (aborts : Bool)
    (h : ∀ tokenHash instant, .consume tokenHash instant ∈ ws → allowed tokenHash) :
    Consuming allowed (commit key ws aborts) := by
  refine Prog.Within.stmt fun _ _ ws' heq => ?_
  cases heq
  exact h

/-- What provisioning answers with, wherever it is used. -/
theorem Consuming.work {draw : ProvisionDraw}
    (hf : ∀ existing now, Consuming allowed (f (provisioning config command draw startedAt now existing))) :
    Consuming allowed ((work config command draw startedAt).bind f) := by
  unfold Signup.work advisoryLock
  simp only [Prog.bind_def, Prog.bind_assoc]
  apply Prog.Within.bind
  · exact Prog.Within.stmt fun _ _ => nofun
  · intro _
    apply Prog.Within.bind
    · exact Prog.Within.read fun _ _ => nofun
    · intro existing
      exact (Consuming.read _).bind fun now => hf existing now

theorem provision_consuming (command : ProvisionTenantCommand) (draw : ProvisionDraw) (aborts : Bool) :
    Consuming allowed (provision config command draw aborts) := by
  refine (Consuming.read _).bind fun startedAt => Consuming.work fun existing now => ?_
  refine (commit_consuming _ _ fun tokenHash instant hwrite => ?_).bind fun committed => ?_
  · have hprovisions := provisioning_provisions _ _ _ _ _ _ _ hwrite
    cases hprovisions
  · cases committed <;> trivial

theorem verify_consuming (token : String) (draw : VerifyDraw) (aborts : Bool) :
    Consuming (· = crypto.sha256 token) (verify config crypto token draw aborts) := by
  unfold verify
  split
  · trivial
  · refine (Consuming.read _).bind fun startedAt => (Consuming.read _).bind fun signup => ?_
    cases signup with
    | none =>
      refine (Consuming.read _).bind fun row => ?_
      cases row <;> trivial
    | some =>
      refine Consuming.work fun existing now => ?_
      refine (commit_consuming _ _ fun tokenHash instant hwrite => ?_).bind fun committed => ?_
      · exact verifyWrites_consume (provisioning_provisions _ _ _ _ _ _) hwrite
      · cases committed <;> trivial

theorem slugTaken_consuming (slug : TenantSlug) : Consuming allowed (slugTaken slug) :=
  (Consuming.read _).bind fun _ => (Consuming.read _).bind fun _ => trivial

theorem assertMayRequest_consuming (email : String) (ipAddress : Option String) (redis : RedisCounts) :
    Consuming allowed (assertMayRequest email ipAddress redis) := by
  unfold assertMayRequest
  split
  · refine (Consuming.read _).bind fun now => (Consuming.read _).bind fun byEmail => ?_
    split
    · trivial
    · cases ipAddress with
      | none => trivial
      | some =>
        refine (Consuming.read _).bind fun byAddress => ?_
        split <;> trivial
  · trivial

theorem deliver_consuming (to_ token : String) (serial : Nat) : Consuming allowed (deliver to_ token serial) :=
  Prog.Within.stmt fun _ _ => nofun

theorem request_consuming (input : SignupInput) (ipAddress : Option String) (draw : RequestDraw) (redis : RedisCounts) :
    Consuming allowed (request config crypto input ipAddress draw redis) := by
  unfold request
  split
  · trivial
  · refine (assertMayRequest_consuming _ _ _).bind fun answer => ?_
    cases answer with
    | error => trivial
    | ok _ =>
      refine (slugTaken_consuming _).bind fun taken => ?_
      split
      · trivial
      · refine (Consuming.read _).bind fun now => Prog.Within.bind ?_ fun recorded => ?_
        · refine (Consuming.read _).bind fun startedAt => (Consuming.read _).bind fun instant => ?_
          refine (slugTaken_consuming _).bind fun taken => ?_
          split
          · trivial
          · refine (commit_consuming _ _ ?_).bind fun committed => ?_
            · simp
            · cases committed <;> trivial
        · cases recorded with
          | error => trivial
          | ok => exact (deliver_consuming _ _ _).bind fun _ => trivial

theorem resend_consuming (email : String) (ipAddress : Option String) (token : String) (redis : RedisCounts) :
    Consuming allowed (resend config crypto email ipAddress token redis) := by
  unfold resend
  split
  · trivial
  · split
    · trivial
    · refine Prog.Within.bind (Prog.Within.stmt fun _ _ => nofun) fun refreshed => ?_
      cases refreshed with
      | error => trivial
      | ok row =>
        cases row with
        | some => exact (deliver_consuming _ _ _).bind fun _ => trivial
        | none => exact (Consuming.read _).bind fun _ => trivial

def Presents (crypto : Crypto) (call : SignupCall) (tokenHash : String) : Prop :=
  ∃ token draw aborts, call = .verify token draw aborts ∧ tokenHash = crypto.sha256 token

theorem signupProgram_consuming (call : SignupCall) :
    Consuming (Presents crypto call) (signupProgram config crypto call) := by
  cases call with
  | request => exact (request_consuming _ _ _ _).bind fun _ => trivial
  | resend => exact (resend_consuming _ _ _ _).bind fun _ => trivial
  | verify token draw aborts =>
    refine Prog.Within.bind ?_ fun _ => trivial
    apply Prog.Follows.mono _ (verify_consuming token draw aborts)
    intro tag _ _ _ _ hconsumes ws heq tokenHash instant hwrite
    exact ⟨token, draw, aborts, rfl, hconsumes ws heq tokenHash instant hwrite⟩
  | provision => exact (provision_consuming _ _ _).bind fun _ => trivial
  | tick => exact Prog.Within.stmt fun _ _ => nofun

end Consuming

structure NamesOnly (ids : List Uuid) (db : SignupDb) : Prop where
  one : UniqueBy TenantSignup.tenantEntry db.signups
  known : ∀ s ∈ db.signups, ∀ tenantId ∈ s.provisionedTenantId, tenantId ∈ ids

def SignupWrite.NamesNone : SignupWrite → Prop
  | .signup row => row.provisionedTenantId = none
  | .provisionedTenant _ _ => False
  | _ => True

theorem NamesOnly.of_signups {db : SignupDb} (h : NamesOnly ids db)
    (hsignups : db'.signups = db.signups) : NamesOnly ids db' where
  one := hsignups ▸ h.one
  known := hsignups ▸ h.known

theorem NamesOnly.update {db : SignupDb} (h : NamesOnly ids db)
    (hf : ∀ s, (f s).provisionedTenantId = s.provisionedTenantId)
    (hsignups : db'.signups = updateWhere p f db.signups) : NamesOnly ids db' where
  one := by
    rw [hsignups]
    exact h.one.updateWhere fun s _ _ => .inr (hf s)
  known s' hs' := by
    rw [hsignups] at hs'
    obtain ⟨s, hs, ⟨_, rfl⟩ | ⟨_, rfl⟩⟩ := mem_updateWhere hs'
    · rw [hf]
      exact h.known s hs
    · exact h.known s' hs

theorem NamesOnly.write (hw : w.NamesNone) {db : SignupDb}
    (h : NamesOnly ids db) (happly : w.apply db = .ok db') : NamesOnly ids db' := by
  cases w with
  | signup row =>
    obtain ⟨rows, hinsert, rfl⟩ := map_ok happly
    have hrow : row.provisionedTenantId = none := hw
    obtain rfl : rows = db.signups ++ [{ row with serial := db.recorded }] := (insertRow_ok.mp hinsert).2
    constructor
    · apply h.one.concat
      intro s _ hclash
      exact hclash.1 (hclash.2.trans hrow)
    · intro s hs
      rcases mem_snoc.mp hs with hs | rfl
      · exact h.known s hs
      · rw [hrow]
        simp
  | releaseSlug =>
    cases happly
    exact ⟨h.one.filter _, fun s hs => h.known s (List.mem_filter.mp hs).1⟩
  | consume tokenHash instant =>
    simp only [SignupWrite.apply] at happly
    split at happly
    · cases happly
      exact h.update (f := ({ · with consumedAt := some instant })) (fun _ => rfl) rfl
    · cases happly
  | provisionedTenant => exact hw.elim
  | _ =>
    obtain ⟨rows, _, rfl⟩ := map_ok happly
    exact h.of_signups rfl

theorem NamesOnly.writes (hws : ∀ w ∈ ws, w.NamesNone) {db : SignupDb}
    (h : NamesOnly ids db) (happly : applyWrites ws db = .ok db') : NamesOnly ids db' :=
  applyWrites_keeps (fun w hw _ _ h hw' => NamesOnly.write (hws w hw) h hw') h happly

theorem NamesOnly.name {id : Uuid} (hnew : tenantId ∉ ids) {db : SignupDb}
    (hdb : db.Indexed) (h : NamesOnly ids db) (happly : (SignupWrite.provisionedTenant id tenantId).apply db = .ok db') :
    NamesOnly (tenantId :: ids) db' := by
  cases happly
  constructor
  · apply h.one.updateOne hdb.signupId
    · intro a _ b _ ha hb
      simp only [decide_eq_true_eq] at ha hb
      exact ⟨nofun, congrArg some (ha.trans hb.symm)⟩
    · intro a _ b hb _ _ hclash
      exact hnew (h.known b hb tenantId hclash.2.symm)
  · intro s' hs'
    obtain ⟨s, hs, ⟨_, rfl⟩ | ⟨_, rfl⟩⟩ := mem_updateWhere hs'
    · intro named hnamed
      exact List.mem_cons.mpr (.inl (Option.some.inj hnamed).symm)
    · exact fun named hnamed => List.mem_cons_of_mem _ (h.known s' hs named hnamed)

theorem SignupWrite.namesNone_of_provisions (h : w.provisions = true) : w.NamesNone := by
  cases w <;> trivial

def SignupDb.tenantIds (db : SignupDb) : List Uuid := db.tenants.map (·.id)

theorem NamesOnly.mono {db : SignupDb} (h : NamesOnly ids db) (hids : ids ⊆ ids') : NamesOnly ids' db :=
  ⟨h.one, fun s hs tenantId hnamed => hids (h.known s hs tenantId hnamed)⟩

theorem applyWrites_tenantIds {db : SignupDb} (h : applyWrites ws db = .ok db') : db.tenantIds ⊆ db'.tenantIds := by
  intro tenantId hid
  obtain ⟨t, ht, rfl⟩ := List.mem_map.mp hid
  exact List.mem_map.mpr ⟨t, applyWrites_tenants_mono h t ht, rfl⟩

theorem Commits.namesOnly {db : SignupDb} (hws : Commits config crypto (· = none) db ws)
    (hdb : db.Indexed) (happly : applyWrites ws db = .ok db') (h : NamesOnly db.tenantIds db) :
    NamesOnly db'.tenantIds db' := by
  have hids := applyWrites_tenantIds happly
  cases hws with
  | request =>
    refine (NamesOnly.writes ?_ h happly).mono hids
    simp [SignupWrite.NamesNone, signupRow]
  | provision =>
    refine (NamesOnly.writes (fun w hw => ?_) h happly).mono hids
    exact SignupWrite.namesNone_of_provisions (provisioning_provisions _ _ _ _ _ _ w hw)
  | verify signup tokenHash draw startedAt now hfound =>
    obtain ⟨⟨t, ht, hid⟩, hnew⟩ := verify_creates hfound happly
    have hprovisions := provisioning_provisions config (signupCommand signup) draw.provision startedAt now
      (findProvisionedTenant signup.desiredSlug db)
    generalize (provisioned config (signupCommand signup) draw.provision startedAt now db).1.tenant.id = tenantId at *
    have hsplit : ∀ ws, verifyWrites crypto signup tokenHash startedAt tenantId draw ws =
        (.consume tokenHash startedAt :: (ws ++ [.user (adminRow signup tenantId draw)])) ++
          [.provisionedTenant signup.id tenantId,
            .session ⟨draw.sessionId, tenantId, draw.userId, crypto.sha256 draw.sessionToken⟩] := by
      intro ws
      simp [verifyWrites]
    rw [hsplit] at happly
    obtain ⟨db₁, hbefore, hrest⟩ := applyWrites_append.mp happly
    obtain ⟨db₂, hname, hafter⟩ := applyWrites_cons.mp hrest
    have h₁ : NamesOnly db.tenantIds db₁ := by
      refine NamesOnly.writes (fun w hw => ?_) h hbefore
      rcases List.mem_cons.mp hw with rfl | hw
      · trivial
      · rcases mem_snoc.mp hw with hw | rfl
        · exact SignupWrite.namesNone_of_provisions (hprovisions w hw)
        · trivial
    have hfresh : tenantId ∉ db.tenantIds := by
      intro hmem
      obtain ⟨t', ht', hid'⟩ := List.mem_map.mp hmem
      exact hnew t' ht' hid'
    have h₂ := h₁.name hfresh (applyWrites_indexed hdb hbefore) hname
    have h₃ : NamesOnly (tenantId :: db.tenantIds) db' := by
      refine NamesOnly.writes (fun w hw => ?_) h₂ hafter
      rw [List.mem_singleton.mp hw]
      trivial
    apply h₃.mono
    exact List.cons_subset.mpr ⟨List.mem_map.mpr ⟨t, ht, hid⟩, hids⟩

theorem SignupEffect.consumption {db : SignupDb} (hbook : MailBook db)
    (heffect : SignupEffect config crypto found tag db db') :
    (∀ row ∈ db.signups, ∀ row' ∈ db'.signups, row'.serial = row.serial → row'.consumedAt = row.consumedAt ∨
        row.consumedAt = none ∧ ∃ ws instant, tag = .commit ws ∧ .consume row.tokenHash instant ∈ ws) ∧
      ∀ row ∈ db.signups, row.consumedAt ≠ none →
        ∃ row' ∈ db'.signups, row'.serial = row.serial ∧ row'.consumedAt = row.consumedAt := by
  have hsame : ∀ row ∈ db.signups, ∀ row' ∈ db.signups, row'.serial = row.serial → row' = row :=
    fun row hrow row' hrow' heq => hbook.serial.eq_of_entry hrow' hrow (congrArg some heq) rfl
  have hkeep : ∀ db₁ : SignupDb, db₁.signups = db.signups →
      (∀ row ∈ db.signups, ∀ row' ∈ db₁.signups, row'.serial = row.serial → row'.consumedAt = row.consumedAt ∨
          row.consumedAt = none ∧ ∃ ws instant, tag = .commit ws ∧ .consume row.tokenHash instant ∈ ws) ∧
        ∀ row ∈ db.signups, row.consumedAt ≠ none →
          ∃ row' ∈ db₁.signups, row'.serial = row.serial ∧ row'.consumedAt = row.consumedAt := by
    intro db₁ heq
    rw [heq]
    exact ⟨fun row hrow row' hrow' hserial => .inl (by rw [hsame row hrow row' hrow' hserial]),
      fun row hrow _ => ⟨row, hrow, rfl, rfl⟩⟩
  cases heffect with
  | refresh email tokenHash =>
    rcases refreshNewest_cases email tokenHash db with ⟨_, _, heq⟩ | ⟨refreshed, _, _, _, heq⟩
    · rw [heq]
      exact hkeep _ rfl
    · rw [heq]
      refine ⟨fun row hrow row' hrow' hserial => .inl ?_, fun row hrow _ => ?_⟩
      · obtain ⟨row₀, hrow₀, ⟨_, rfl⟩ | ⟨_, rfl⟩⟩ := mem_updateWhere hrow'
        · rw [← hsame row hrow row₀ hrow₀ hserial]
          rfl
        · rw [hsame row hrow row' hrow₀ hserial]
      · have hmem := mem_updateWhere_of_mem (p := fun s : TenantSignup => decide (s.id = refreshed.id))
          (f := TenantSignup.refresh tokenHash) hrow
        refine ⟨_, hmem, ?_, ?_⟩
        · split <;> rfl
        · split <;> rfl
  | commit locks hws happly =>
    refine ⟨fun row hrow row' hrow' hserial => ?_, fun row hrow hconsumed => ?_⟩
    · rcases applyWrites_descends happly row' hrow' with ⟨row₀, hrow₀, hdescends⟩ | hnew
      · have heq := hsame row hrow row₀ hrow₀ (hdescends.serial.symm.trans hserial)
        subst heq
        exact hdescends.consumed.imp_right fun ⟨hnone, instant, hwrite⟩ => ⟨hnone, _, instant, rfl, hwrite⟩
      · have hold := hbook.rows row hrow
        omega
    · obtain ⟨instant, hinstant⟩ := Option.ne_none_iff_exists'.mp hconsumed
      obtain ⟨row', hrow', hserial, hconsumed'⟩ := applyWrites_keeps
        (fun _ _ _ _ hdb hw => SignupWrite.apply_consumedThen hdb hw) ⟨row, hrow, rfl, hinstant⟩ happly
      exact ⟨row', hrow', hserial, hconsumed'.trans hinstant.symm⟩
  | _ => exact hkeep _ rfl

section Runs

variable {db : SignupDb}

variable {s : SignupSys}

theorem SignupRun.consumesOnce (h : NobodySignedUp db) (hs : SignupRun config crypto db s)
    (hstep : Step (signupProgram config crypto) granted s s') : ConsumesOnce crypto s s' := by
  have hbook := book (fun _ _ _ h => h) h hs
  have howned := Reachable.signupOwned (fun _ _ _ h => h) h.indexed hs
  have hfollows : s.Follows (fun _ => True) fun call tag _ _ _ => ConsumesBy (Presents crypto call) tag :=
    Reachable.follows signupProgram_consuming (fun _ _ => trivial) hs
  cases hstep with
  | spawn _ =>
    have heffect : SignupEffect config crypto (fun _ => True) .read s.db s.db := .same .read s.db
    obtain ⟨hconsumed, hkept⟩ := heffect.consumption hbook
    refine ⟨fun row hrow row' hrow' hserial => .inl ?_, hkept⟩
    rcases hconsumed row hrow row' hrow' hserial with hsame | ⟨_, ws, instant, heq, _⟩
    · exact hsame
    · cases heq
  | exec _ i call tag act next hcall hallowed =>
    have heffect : SignupEffect config crypto (fun _ => True) tag s.db (act s.db).2 :=
      howned.exec_spec hcall (finds_anything (fun _ _ _ h => h) s call tag hallowed)
    obtain ⟨hconsumed, hkept⟩ := heffect.consumption hbook
    refine ⟨fun row hrow row' hrow' hserial => ?_, hkept⟩
    rcases hconsumed row hrow row' hrow' hserial with hsame | ⟨hnone, ws, instant, rfl, hwrite⟩
    · exact .inl hsame
    · have hconsumes := (hfollows.exec_spec trivial hcall).1
      obtain ⟨token, draw, aborts, rfl, hhash⟩ := hconsumes ws rfl _ instant hwrite
      exact .inr ⟨hnone, token, draw, aborts, ⟨i, _, _, act, next, hcall, rfl⟩, hhash⟩

theorem SignupEffect.administersItsOwn (heffect : SignupEffect config crypto (· = none) tag db db') : AdministersItsOwn db db' := by
  cases heffect with
  | refresh email tokenHash =>
    rcases refreshNewest_cases email tokenHash db with ⟨_, _, heq⟩ | ⟨refreshed, _, _, _, heq⟩
    all_goals
      rw [heq]
      exact ⟨fun u hu => .inl hu, fun s hs => .inl hs⟩
  | commit locks hws happly =>
    have hown := hws.administersItsOwn happly
    exact ⟨hown.users, hown.sessions⟩
  | _ =>
    exact ⟨fun u hu => .inl hu, fun s hs => .inl hs⟩

theorem SignupEffect.namesOnly (hdb : db.Indexed)
    (heffect : SignupEffect config crypto (· = none) tag db db') (h : NamesOnly db.tenantIds db) :
    NamesOnly db'.tenantIds db' := by
  cases heffect with
  | refresh email tokenHash =>
    rcases refreshNewest_cases email tokenHash db with ⟨_, _, heq⟩ | ⟨refreshed, _, _, _, heq⟩
    · rw [heq]
      exact h
    · rw [heq]
      exact h.update (f := TenantSignup.refresh tokenHash) (fun _ => rfl) rfl
  | commit locks hws happly =>
    have hnames := hws.namesOnly hdb happly h
    exact ⟨hnames.one, hnames.known⟩
  | _ => exact ⟨h.one, h.known⟩

abbrev SlugFreeRun (config : SignupConfig) (crypto : Crypto) (db : SignupDb) (s : SignupSys) : Prop :=
  Reachable (signupProgram config crypto) slugFreeIn (.idle db) s

theorem SlugFreeRun.administersItsOwn (hdb : db.Indexed) (hs : SlugFreeRun config crypto db s)
    (hstep : Step (signupProgram config crypto) slugFreeIn s s') : AdministersItsOwn s.db s'.db := by
  rcases Reachable.signupEffect_of (fun _ _ _ h => h) hdb hs hstep with hsame | ⟨_, _, _, heffect⟩
  · rw [hsame]
    exact ⟨fun u hu => .inl hu, fun s hs => .inl hs⟩
  · exact heffect.administersItsOwn

theorem SlugFreeRun.namesOnly (h : NobodySignedUp db) (hs : SlugFreeRun config crypto db s) :
    NamesOnly s.db.tenantIds s.db := by
  induction hs with
  | refl =>
    constructor
    · show UniqueBy TenantSignup.tenantEntry db.signups
      rw [h.signups]
      exact List.Pairwise.nil
    · show ∀ s ∈ db.signups, _
      simp [h.signups]
  | tail hs hstep ih =>
    rcases Reachable.signupEffect_of (fun _ _ _ h => h) h.indexed hs hstep with hsame | ⟨_, _, _, heffect⟩
    · rw [hsame]
      exact ih
    · exact heffect.namesOnly (Reachable.signupOwned_of (fun _ _ _ h => h) h.indexed hs).inv ih

end Runs

/-- In every run a signup is consumed once, by its own token. Where no verification finds a tenant under its slug,
    each admin and each session is of a tenant its own transaction has created. -/
theorem verified_signup_administers_its_own (config : SignupConfig) (crypto : Crypto) {db : SignupDb}
    (h : NobodySignedUp db) :
    (∀ s s', SignupRun config crypto db s → Step (signupProgram config crypto) granted s s' →
        ConsumesOnce crypto s s') ∧
      (∀ s s', SlugFreeRun config crypto db s → Step (signupProgram config crypto) slugFreeIn s s' →
        AdministersItsOwn s.db s'.db) ∧
      ∀ s, SlugFreeRun config crypto db s → UniqueBy TenantSignup.tenantEntry s.db.signups :=
  ⟨fun _ _ hs hstep => SignupRun.consumesOnce h hs hstep, fun _ _ hs hstep => hs.administersItsOwn h.indexed hstep,
    fun _ hs => (SlugFreeRun.namesOnly h hs).one⟩

theorem acme_slug : isTenantSlug "acme" = true := by decide

def reservedAndProvisioned : List (Move SignupCall) :=
  inOneGo 0 (adaSignsUp ⟨"acme", acme_slug⟩ 1) 11 ++
    inOneGo 1 (.provision { slug := ⟨"acme", acme_slug⟩, name := "Acme" } ⟨1, 2, 3, 4⟩ false) 5 ++
    inOneGo 2 (.verify "1" ⟨⟨5, 6, 7, 8⟩, 9, 10, "session"⟩ false) 5

/-- The one who has signed up becomes an admin of the operator's tenant. -/
theorem operator_provisions_a_reserved_slug : ∃ s s', SignupRun appTest Crypto.transparent {} s ∧
      Step (signupProgram appTest Crypto.transparent) granted s s' ∧ ¬ AdministersItsOwn s.db s'.db := by
  have hrun : ((run (signupProgram appTest Crypto.transparent) (fun s call tag => decide (granted s call tag))
      reservedAndProvisioned (.idle {})).bind fun s =>
        (play (signupProgram appTest Crypto.transparent) (fun s call tag => decide (granted s call tag)) s
          (.step 2)).map fun s' => s'.db.users.any fun u =>
            decide (u ∉ s.db.users) && s.db.tenants.any fun t => decide (t.id = u.tenantId)) = some true := by
    decide +kernel
  obtain ⟨s, hs, hplay⟩ := Option.bind_eq_some_iff.mp hrun
  obtain ⟨s', hstep, hadmin⟩ := Option.map_eq_some_iff.mp hplay
  obtain ⟨u, hu, hguard⟩ := List.any_eq_true.mp hadmin
  obtain ⟨hnew, htenant⟩ := Bool.and_eq_true_iff.mp hguard
  obtain ⟨t, ht, hid⟩ := List.any_eq_true.mp htenant
  refine ⟨s, s', (reachable_of_run hs).mono fun _ _ _ h => of_decide_eq_true h,
    (play_step hstep).mono fun _ _ _ h => of_decide_eq_true h, fun hown => ?_⟩
  rcases hown.users u hu with hold | ⟨_, hfresh⟩
  · exact of_decide_eq_true hnew hold
  · exact hfresh t ht (of_decide_eq_true hid)

/-- A signup that is verified before anybody else has its slug. -/
theorem verified_signup_administers_its_own_acme :
    ∃ s : SignupSys, s.db.users.length = 1 ∧ s.db.sessions.length = 1 ∧ UniqueBy TenantSignup.tenantEntry s.db.signups := by
  have hrun : ((run (signupProgram appTest Crypto.transparent) (fun s call tag => decide (slugFreeIn s call tag))
      (inOneGo 0 (adaSignsUp ⟨"acme", by decide⟩ 1) 11 ++
        inOneGo 1 (.verify "1" ⟨⟨5, 6, 7, 8⟩, 9, 10, "session"⟩ false) 6) (.idle {})).map fun s =>
        decide (s.db.users.length = 1) && decide (s.db.sessions.length = 1)) = some true := by
    decide +kernel
  obtain ⟨s, hreach, hstate⟩ := ends_of_run hrun
  obtain ⟨husers, hsessions⟩ := Bool.and_eq_true_iff.mp hstate
  have hstart : NobodySignedUp {} := by decide
  refine ⟨s, of_decide_eq_true husers, of_decide_eq_true hsessions, ?_⟩
  apply (verified_signup_administers_its_own appTest Crypto.transparent hstart).2.2
  exact hreach

end WhatsappCrm.Signup
