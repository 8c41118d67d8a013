/-
Purpose: A verified hostname stays verified until its tenant removes it, and it became so by the token its row has.
-/
import WhatsappCrm.Domains.Effects

namespace WhatsappCrm.Domains

open Interleaving Table

def StaysVerified (db db' : DomainDb) : Prop :=
  ∃ gone, db'.removed = db.removed ++ gone ∧
    ∀ d ∈ db.domains, d.verifiedAt ≠ none → d.id ∈ gone ∨
      ∃ d' ∈ db'.domains, d'.id = d.id ∧ d'.hostname = d.hostname ∧ d'.verifiedAt ≠ none

def VerifiesProved (db db' : DomainDb) : Prop :=
  ∀ d' ∈ db'.domains, d'.verifiedAt ≠ none →
    ∃ d ∈ db.domains, d.id = d'.id ∧ (d.verifiedAt = d'.verifiedAt ∨
      ∃ token, d.verificationToken = some token ∧ ∃ a ∈ db.answers, a.hostname = d.hostname ∧ a.reply.Proves token)

def OnItsClaim (tag : DomainStmt) (db : DomainDb) : Prop :=
  match tag with
  | .record id hostname token .proved =>
    ∀ d ∈ db.domains, d.id = id → d.hostname = hostname ∧ d.verificationToken = some token
  | .record id _ _ (.unproved _) => ∀ d ∈ db.domains, d.id = id → d.verifiedAt = none
  | _ => True

instance (tag : DomainStmt) (db : DomainDb) : Decidable (OnItsClaim tag db) :=
  match tag with
  | .record id hostname token .proved =>
    inferInstanceAs (Decidable (∀ d ∈ db.domains, d.id = id → d.hostname = hostname ∧ d.verificationToken = some token))
  | .record id _ _ (.unproved _) => inferInstanceAs (Decidable (∀ d ∈ db.domains, d.id = id → d.verifiedAt = none))
  | .read => isTrue trivial
  | .lookup => isTrue trivial
  | .refresh _ => isTrue trivial
  | .release => isTrue trivial
  | .commit _ => isTrue trivial
  | .surroundings => isTrue trivial

variable {db : DomainDb} {w : DomainWrite}

theorem StaysVerified.of_mem (hremoved : db'.removed = db.removed) (h : ∀ d ∈ db.domains, d.verifiedAt ≠ none →
      ∃ d' ∈ db'.domains, d'.id = d.id ∧ d'.hostname = d.hostname ∧ d'.verifiedAt ≠ none) : StaysVerified db db' :=
  ⟨[], by rw [hremoved, List.append_nil], fun d hd hverified => .inr (h d hd hverified)⟩

theorem StaysVerified.refl (db : DomainDb) : StaysVerified db db :=
  .of_mem rfl fun d hd hverified => ⟨d, hd, rfl, rfl, hverified⟩

theorem StaysVerified.trans (h : StaysVerified a b) (h' : StaysVerified b c) : StaysVerified a c := by
  obtain ⟨gone, hremoved, hrows⟩ := h
  obtain ⟨gone', hremoved', hrows'⟩ := h'
  refine ⟨gone ++ gone', by rw [hremoved', hremoved, List.append_assoc], fun d hd hverified => ?_⟩
  rcases hrows d hd hverified with hgone | ⟨d', hd', hid, hhostname, hverified'⟩
  · exact .inl (List.mem_append_left _ hgone)
  · rcases hrows' d' hd' hverified' with hgone | ⟨d'', hd'', hid', hhostname', hverified''⟩
    · exact .inl (List.mem_append_right _ (hid ▸ hgone))
    · exact .inr ⟨d'', hd'', hid'.trans hid, hhostname'.trans hhostname, hverified''⟩

theorem StaysVerified.of_update
    (hremoved : db'.removed = db.removed) (hdomains : db'.domains = updateWhere p f db.domains)
    (hf : ∀ d ∈ db.domains, p d = true → (f d).id = d.id ∧ (f d).hostname = d.hostname ∧
      (d.verifiedAt ≠ none → (f d).verifiedAt ≠ none)) : StaysVerified db db' := by
  apply StaysVerified.of_mem hremoved
  intro d hd hverified
  rw [hdomains]
  refine ⟨_, mem_updateWhere_of_mem hd, ?_⟩
  split
  · rename_i hp
    obtain ⟨hid, hhostname, hstays⟩ := hf d hd hp
    exact ⟨hid, hhostname, hstays hverified⟩
  · exact ⟨rfl, rfl, hverified⟩

theorem apply_staysVerified (h : w.apply db = .ok (rows, db')) : StaysVerified db db' := by
  cases w with
  | create =>
    obtain ⟨rfl, rfl, _⟩ := create_ok h
    exact .of_mem rfl fun d hd hverified => ⟨d, List.mem_append_left _ hd, rfl, rfl, hverified⟩
  | clearPrimary | setActivation =>
    cases h
    exact .of_update rfl rfl fun d _ _ => ⟨rfl, rfl, id⟩
  | makePrimary =>
    obtain ⟨rfl, rfl, _⟩ := makePrimary_ok h
    exact .of_update rfl rfl fun d _ _ => ⟨rfl, rfl, id⟩
  | delete tenantId rowId =>
    cases h
    refine ⟨_, rfl, fun d hd hverified => ?_⟩
    cases hnamed : d.named tenantId rowId with
    | true => exact .inl (List.mem_map_of_mem (List.mem_filter.mpr ⟨hd, hnamed⟩))
    | false => exact .inr ⟨d, List.mem_filter.mpr ⟨hd, by simp [hnamed]⟩, rfl, rfl, hverified⟩

theorem Effect.staysVerified (hclaim : OnItsClaim tag db) (h : Effect tag db db') : StaysVerified db db' := by
  cases h with
  | none => exact StaysVerified.refl db
  | looked | surrounded => exact .of_mem rfl fun d hd hverified => ⟨d, hd, rfl, rfl, hverified⟩
  | recorded scope rowId hostname token outcome now _ _ =>
    refine .of_update rfl rfl fun d hd hnamed => ⟨rfl, rfl, fun hverified => ?_⟩
    cases outcome with
    | proved => simp [TenantDomain.recordOutcome]
    | unproved =>
      -- The check failed after somebody else's had succeeded: what the condition rules out.
      exact absurd (hclaim d hd (TenantDomain.named_id hnamed)) hverified
  | refreshed => exact .of_update rfl rfl fun d _ _ => ⟨rfl, rfl, id⟩
  | released =>
    refine .of_mem rfl fun d hd hverified => ⟨d, List.mem_filter.mpr ⟨hd, ?_⟩, rfl, rfl, hverified⟩
    simp [TenantDomain.lapsed, hverified]
  | committed ws _ _ _ _ happly =>
    exact applyAll_induct (Q := fun _ _ => True) (K := StaysVerified db)
      (fun _ _ _ _ _ hstays happly => hstays.trans (apply_staysVerified happly)) (fun _ _ => trivial)
      (StaysVerified.refl db) happly

def AddsNone (db db' : DomainDb) : Prop :=
  ∀ d' ∈ db'.domains, d'.verifiedAt ≠ none → ∃ d ∈ db.domains, d.id = d'.id ∧ d.verifiedAt = d'.verifiedAt

theorem AddsNone.verifiesProved (h : AddsNone db db') : VerifiesProved db db' := by
  intro d' hd' hverified
  obtain ⟨d, hd, hid, hsame⟩ := h d' hd' hverified
  exact ⟨d, hd, hid, .inl hsame⟩

theorem AddsNone.trans (h : AddsNone a b) (h' : AddsNone b c) : AddsNone a c := by
  intro d'' hd'' hverified
  obtain ⟨d', hd', hid', hsame'⟩ := h' d'' hd'' hverified
  obtain ⟨d, hd, hid, hsame⟩ := h d' hd' (hsame' ▸ hverified)
  exact ⟨d, hd, hid.trans hid', hsame.trans hsame'⟩

theorem AddsNone.of_subset (h : ∀ d ∈ db'.domains, d ∈ db.domains) : AddsNone db db' :=
  fun d' hd' _ => ⟨d', h d' hd', rfl, rfl⟩

theorem AddsNone.of_update (hdomains : db'.domains = updateWhere p f db.domains)
    (hf : ∀ d, (f d).id = d.id ∧ (f d).verifiedAt = d.verifiedAt) : AddsNone db db' := by
  intro d' hd' _
  rw [hdomains] at hd'
  obtain ⟨d, hd, ⟨_, rfl⟩ | ⟨_, rfl⟩⟩ := mem_updateWhere hd'
  · exact ⟨d, hd, (hf d).1.symm, (hf d).2.symm⟩
  · exact ⟨d', hd, rfl, rfl⟩

def DomainWrite.CreatesUnverified (w : DomainWrite) : Prop := ∀ row, w = .create row → row.verifiedAt = none

theorem apply_addsNone (hw : w.CreatesUnverified) (h : w.apply db = .ok (rows, db')) : AddsNone db db' := by
  cases w with
  | create row =>
    obtain ⟨rfl, rfl, _⟩ := create_ok h
    intro d' hd' hverified
    rcases List.mem_append.mp hd' with hd' | hd'
    · exact ⟨d', hd', rfl, rfl⟩
    · rw [List.mem_singleton.mp hd'] at hverified
      exact absurd (hw row rfl) hverified
  | clearPrimary | setActivation =>
    cases h
    exact .of_update rfl fun d => ⟨rfl, rfl⟩
  | makePrimary =>
    obtain ⟨rfl, rfl, _⟩ := makePrimary_ok h
    exact .of_update rfl fun d => ⟨rfl, rfl⟩
  | delete =>
    cases h
    exact .of_subset fun d hd => (List.mem_filter.mp hd).1

theorem Committed.createsUnverified (h : Committed platforms ws) (hw : w ∈ ws) : w.CreatesUnverified := by
  rintro row rfl
  obtain ⟨_, _, _, _, _, rfl⟩ := h.created hw
  rfl

theorem Effect.verifiesProved (hclaim : OnItsClaim tag db) (h : Effect tag db db') : VerifiesProved db db' := by
  cases h with
  | none => exact (AddsNone.of_subset fun _ hd => hd).verifiesProved
  | looked | surrounded => exact AddsNone.verifiesProved (.of_subset fun _ hd => hd)
  | recorded scope rowId hostname token outcome now _ _ hanswer =>
    intro d' hd' hverified
    obtain ⟨d, hd, ⟨hnamed, rfl⟩ | ⟨_, rfl⟩⟩ := mem_updateWhere hd'
    · cases outcome with
      | unproved => simp [TenantDomain.recordOutcome] at hverified
      | proved =>
        -- The row still has the token that was looked up.
        obtain ⟨hhostname, htoken⟩ := hclaim d hd (TenantDomain.named_id hnamed)
        obtain ⟨a, ha, hname, hproves⟩ := hanswer
        exact ⟨d, hd, rfl, .inr ⟨token, htoken, a, ha, hname.trans hhostname.symm, hproves⟩⟩
    · exact ⟨d', hd, rfl, .inl rfl⟩
  | refreshed => exact AddsNone.verifiesProved (.of_update rfl fun d => ⟨rfl, rfl⟩)
  | released => exact AddsNone.verifiesProved (.of_subset fun d hd => (List.mem_filter.mp hd).1)
  | committed ws _ _ hws _ happly =>
    apply AddsNone.verifiesProved
    exact applyAll_induct (Q := fun w _ => w.CreatesUnverified) (K := AddsNone db)
      (fun _ _ _ _ hw hadds happly => hadds.trans (apply_addsNone hw happly))
      (fun _ he => hws.createsUnverified (List.mem_map_of_mem he)) (.of_subset fun _ hd => hd) happly

def recordsOnItsClaim (s : DomainSys) (_ : DomainCall) (tag : DomainStmt) : Prop := OnItsClaim tag s.db

/-- In every run in which outcomes meet the claims they were asked about, what is verified stays so until its tenant
    removes it, and what becomes so was proved by the token it has. -/
theorem verification_stands {config : DomainConfig} {db : DomainDb} (hdb : db.Indexed) {s : DomainSys}
    (hs : Reachable (domainProgram config) recordsOnItsClaim (.idle db) s) :
    (∀ s', Reachable (domainProgram config) recordsOnItsClaim s s' → StaysVerified s.db s'.db) ∧
      ∀ s', Step (domainProgram config) recordsOnItsClaim s s' → VerifiesProved s.db s'.db := by
  have hsound := domainRely_sound.under OnItsClaim
  have hprog : ∀ c db, Prog.Guards (domainRely.under OnItsClaim) db (domainProgram config c) :=
    fun c db => (domainProgram_guards config c db).under OnItsClaim
  have hcond : ∀ (s : DomainSys) c tag, recordsOnItsClaim s c tag → (domainRely.under OnItsClaim).cond tag s.db :=
    fun _ _ _ h => ⟨trivial, h⟩
  have hguarded := Reachable.guards hsound hprog hcond (Sys.guarded_idle hdb) hs
  constructor
  · intro s' hs'
    exact Reachable.effect hsound hprog hcond (K := StaysVerified s.db)
      (fun _ _ _ _ hclaim heffect hstays => hstays.trans (Effect.staysVerified hclaim.2 heffect)) hguarded
      (StaysVerified.refl s.db) hs'
  · intro s' hstep
    rcases (hstep.guarded hsound hprog hcond hguarded).2 with heq | ⟨tag, hclaim, heffect⟩
    · rw [heq]
      exact (AddsNone.of_subset fun _ hd => hd).verifiesProved
    · exact Effect.verifiesProved hclaim.2 heffect

def claimedDomain : TenantDomain where
  id := 7
  tenantId := 1
  hostname := "help.acme.com"
  kind := .custom
  verificationToken := some "first"
  verificationRequestedAt := some 1000
  createdAt := 1000

def claimedDb (dns : List (String × DnsReply)) : DomainDb where
  now := 60000
  serviceable := [1]
  domains := [claimedDomain]
  dns

def publishedRecord : String × DnsReply :=
  ("_whatsappcrm-challenge.help.acme.com", .records [["whatsappcrm-domain-verification=first"]])

def domainConfig (verificationTtlMs : Millis) : DomainConfig where
  platformDomain := "whatsappcrm.app"
  edgeHostname := some "edge.whatsappcrm.app"
  verificationTtlMs

def verifiedMoves : List (Move DomainCall) :=
  [.spawn (.verify 1 7), .step 0, .step 0, .step 0, .step 0, .step 0, .spawn .sweep, .step 1, .step 1, .step 1]

/-- A hostname that was verified. -/
theorem verification_stands_verified : ∃ s : DomainSys, s.db.domains.map (·.verifiedAt) = [some 60000] ∧
      ∀ s', Reachable (domainProgram (domainConfig 1000000)) recordsOnItsClaim s s' → StaysVerified s.db s'.db := by
  have hrun : (run (domainProgram (domainConfig 1000000)) (fun s _ tag => decide (OnItsClaim tag s.db)) verifiedMoves
      (.idle (claimedDb [publishedRecord]))).map (·.db.domains.map (·.verifiedAt)) = some [some 60000] := by
    decide +kernel
  obtain ⟨s, hreach, hverified⟩ := ends_of_run hrun
  exact ⟨s, hverified, (verification_stands (by decide +kernel) hreach).1⟩

/-- A sweep's check asks before the record is there, and its answer is written after the tenant's own check has found
    the record. -/
def undoneMoves : List (Move DomainCall) :=
  [.spawn .sweep, .step 0, .step 0, .step 0, .step 0, .spawn (.publish publishedRecord.1 publishedRecord.2), .step 1,
    .spawn (.verify 1 7), .step 2, .step 2, .step 2, .step 2, .step 2]

/-- A check that finds the record of a claim is written after the hostname was claimed again. -/
def rotatedMoves : List (Move DomainCall) :=
  [.spawn (.verify 1 7), .step 0, .step 0, .step 0, .step 0,
    .spawn (.claim 1 "help.acme.com" 8 "second"), .step 1, .step 1, .step 1]

/-- A sweep's late answer takes a verification back, and a check verifies a row whose token was never published. -/
theorem verification_undone :
    (∃ s s' : DomainSys, Reachable (domainProgram (domainConfig 1000000)) anyStep (.idle (claimedDb [])) s ∧
      Reachable (domainProgram (domainConfig 1000000)) anyStep s s' ∧ ¬ StaysVerified s.db s'.db) ∧
    ∃ s s' : DomainSys, Reachable (domainProgram (domainConfig 100)) anyStep (.idle (claimedDb [publishedRecord])) s ∧
      Step (domainProgram (domainConfig 100)) anyStep s s' ∧ ¬ VerifiesProved s.db s'.db := by
  have hany : ∀ (s : DomainSys) (c : DomainCall) (tag : DomainStmt), true = true → anyStep s c tag :=
    fun _ _ _ _ => trivial
  constructor
  · have hrun : ((run (domainProgram (domainConfig 1000000)) (fun _ _ _ => true) undoneMoves
        (.idle (claimedDb []))).bind fun s =>
          (play (domainProgram (domainConfig 1000000)) (fun _ _ _ => true) s (.step 0)).map fun s' =>
            (s.db.domains.map (·.verifiedAt), s.db.removed, s'.db.domains.map (·.verifiedAt), s'.db.removed)) =
        some ([some 60000], [], [none], []) := by
      decide +kernel
    obtain ⟨s, hs, hlast⟩ := Option.bind_eq_some_iff.mp hrun
    obtain ⟨s', hs', heq⟩ := Option.map_eq_some_iff.mp hlast
    simp only [Prod.mk.injEq] at heq
    obtain ⟨hverified, hremoved, hunverified, hremoved'⟩ := heq
    refine ⟨s, s', reachable_of_run_any hs, .single ((play_step hs').mono hany), ?_⟩
    rintro ⟨gone, hgone, hstays⟩
    obtain ⟨d, hdomains, hd⟩ := List.map_eq_singleton_iff.mp hverified
    rw [hremoved, hremoved', List.nil_append] at hgone
    rcases hstays d (by rw [hdomains]; exact List.mem_cons_self) (by simp [hd]) with hmem | ⟨d', hd', _, _, hverified'⟩
    · rw [← hgone] at hmem
      cases hmem
    · obtain ⟨d₀, hdomains', hd₀⟩ := List.map_eq_singleton_iff.mp hunverified
      rw [hdomains', List.mem_singleton] at hd'
      exact hverified' (hd' ▸ hd₀)
  · have hrun : ((run (domainProgram (domainConfig 100)) (fun _ _ _ => true) rotatedMoves
        (.idle (claimedDb [publishedRecord]))).bind fun s =>
          (play (domainProgram (domainConfig 100)) (fun _ _ _ => true) s (.step 0)).map fun s' =>
            (s.db.domains.map fun d => (d.verifiedAt, d.verificationToken),
              s.db.answers.map (fun a => decide (check "second" a.reply = .proved)),
              s'.db.domains.map (·.verifiedAt))) =
        some ([(none, some "second")], [false], [some 60000]) := by
      decide +kernel
    obtain ⟨s, hs, hlast⟩ := Option.bind_eq_some_iff.mp hrun
    obtain ⟨s', hs', heq⟩ := Option.map_eq_some_iff.mp hlast
    simp only [Prod.mk.injEq] at heq
    obtain ⟨hbefore, hanswers, hafter⟩ := heq
    refine ⟨s, s', reachable_of_run_any hs, (play_step hs').mono hany, fun hproved => ?_⟩
    obtain ⟨d', hdomains', hd'⟩ := List.map_eq_singleton_iff.mp hafter
    obtain ⟨d₀, hdomains, hd₀⟩ := List.map_eq_singleton_iff.mp hbefore
    obtain ⟨a₀, hanswers₀, ha₀⟩ := List.map_eq_singleton_iff.mp hanswers
    obtain ⟨d, hd, _, hcase⟩ := hproved d' (by rw [hdomains']; exact List.mem_cons_self) (by simp [hd'])
    rw [hdomains, List.mem_singleton] at hd
    subst hd
    simp only [Prod.mk.injEq] at hd₀
    rcases hcase with hsame | ⟨token, htoken, a, ha, _, hproves⟩
    · rw [hd₀.1, hd'] at hsame
      cases hsame
    · rw [hanswers₀, List.mem_singleton] at ha
      rw [hd₀.2] at htoken
      cases htoken
      exact of_decide_eq_false ha₀ (ha ▸ hproves)

end WhatsappCrm.Domains
