/-
Purpose: `Idempotency-Key` handling (`common/idempotency/idempotency.service.ts`) over its one table, as atomic statements of a
  request; how often the work of a key runs, and what its
  retries are answered.
-/
import WhatsappCrm.Lib.Json
import WhatsappCrm.Lib.Ownership
import WhatsappCrm.Lib.RelyGuarantee
import WhatsappCrm.Lib.Table
import WhatsappCrm.Tickets.Contract

namespace WhatsappCrm.Idempotency

open Interleaving Table

structure IdempotentRequest where
  /-- The `Idempotency-Key` header value. -/
  key : String
  operation : String
  target : String
  payload : Json
  /-- What a first execution answers with. -/
  statusCode : Nat

structure IdempotentOutcome (Body : Type) where
  statusCode : Nat
  body : Option Body
  replayed : Bool

inductive IdempotencyError where
  | keyReused (key : String)
  | requestInFlight (key : String)
  /-- The work failed, or a statement after it. -/
  | failed

def keyLifetimeMs : Int := 24 * 60 * 60 * 1000

def claimAttempts : Nat := 2

inductive IdempotencyKeyState where
  | inProgress
  | completed
deriving DecidableEq

structure IdempotencyKey (Body : Type) where
  id : Nat
  tenantId : Uuid
  key : String
  requestHash : String
  state : IdempotencyKeyState := .inProgress
  statusCode : Option Nat := none
  responseBody : Option Body := none
  expiresAt : Millis

/-- What an attempt that took a key knows of its row. -/
structure Claim where
  id : Nat
  tenantId : Uuid
  key : String
  requestHash : String
  expiresAt : Millis

structure IdempotencyKey.Of {Body : Type} (row : IdempotencyKey Body) (c : Claim) : Prop where
  id : row.id = c.id
  tenantId : row.tenantId = c.tenantId
  key : row.key = c.key
  requestHash : row.requestHash = c.requestHash
  expiresAt : row.expiresAt = c.expiresAt

structure WorkRun (Body : Type) where
  claim : Claim
  instant : Millis
  committed : Bool
  statusCode : Nat
  body : Option Body

structure IdempotencyDb (Body : Type) where
  now : Millis := 0
  /-- The id the next row is given: no id is drawn twice. -/
  nextId : Nat := 0
  keys : List (IdempotencyKey Body) := []
  /-- Every run of the work so far, in order: a record nothing of the product reads. -/
  works : List (WorkRun Body) := []

inductive IdempotencyStmt where
  | clock
  | create
  | find
  | expire
  | work (claim : Claim)
  | complete (claim : Claim)
  /-- An attempt frees the key; `committed` says whether its work had committed. -/
  | release (claim : Claim) (committed : Bool)
  | tick

variable {Body : Type}

namespace IdempotencyDb

variable (db : IdempotencyDb Body)

def findKey (tenantId : Uuid) (key : String) : Option (IdempotencyKey Body) :=
  db.keys.find? fun row => row.tenantId = tenantId ∧ row.key = key

/-- `idempotencyKey.create`; `none` is the unique violation. -/
def create (tenantId : Uuid) (key requestHash : String) (expiresAt : Millis) : Option Claim × IdempotencyDb Body :=
  match db.findKey tenantId key with
  | some _ => (none, db)
  | none =>
    (some { id := db.nextId, tenantId, key, requestHash, expiresAt },
      { db with
        nextId := db.nextId + 1
        keys := db.keys ++ [{ id := db.nextId, tenantId, key, requestHash, expiresAt }] })

/-- The `deleteMany` of a row past its lifetime. -/
def expire (tenantId : Uuid) (key : String) (now : Millis) : IdempotencyDb Body :=
  { db with keys := db.keys.filter fun row => !(row.tenantId = tenantId ∧ row.key = key ∧ row.expiresAt ≤ now) }

def owned (c : Claim) (row : IdempotencyKey Body) : Bool :=
  row.tenantId = c.tenantId ∧ row.key = c.key ∧ row.requestHash = c.requestHash ∧ row.state = .inProgress

/-- The `updateMany` that stores the response. -/
def complete (c : Claim) (statusCode : Nat) (body : Body) : IdempotencyDb Body :=
  { db with
    keys := updateWhere (owned c)
      ({ · with state := .completed, statusCode := some statusCode, responseBody := some body }) db.keys }

def release (c : Claim) : IdempotencyDb Body := { db with keys := db.keys.filter fun row => !owned c row }

def ran (c : Claim) (committed : Bool) (statusCode : Nat) (body : Option Body) : IdempotencyDb Body :=
  { db with works := db.works ++ [{ claim := c, instant := db.now, committed, statusCode, body }] }

end IdempotencyDb

abbrev IdempotencyProg (Body : Type) := Prog IdempotencyStmt (IdempotencyDb Body)

/-- What `claim` answers: the key is the caller's, or somebody has answered, or it throws. -/
inductive ClaimOutcome (Body : Type) where
  | owned (c : Claim)
  | stored (statusCode : Nat) (body : Option Body)
  | refused (error : IdempotencyError)

/-- `IdempotencyService.claim`, for at most this many attempts. -/
def claim (tenantId : Uuid) (request : IdempotentRequest) (requestHash : String) :
    Nat → IdempotencyProg Body (ClaimOutcome Body)
  | 0 => .pure (.refused (.requestInFlight request.key))
  | attempts + 1 => do
    let now ← .read .clock (·.now)
    match ← .stmt .create (·.create tenantId request.key requestHash (now + keyLifetimeMs)) with
    | some c => pure (.owned c)
    | none =>
      match ← .read .find (·.findKey tenantId request.key) with
      | none => claim tenantId request requestHash attempts
      | some held =>
        if held.expiresAt ≤ now then do
          let _ ← .stmt .expire fun db => ((), db.expire tenantId request.key now)
          claim tenantId request requestHash attempts
        else if held.requestHash ≠ requestHash then pure (.refused (.keyReused request.key))
        else if held.state ≠ .completed then pure (.refused (.requestInFlight request.key))
        else pure (.stored (held.statusCode.getD request.statusCode) held.responseBody)

/-- How a statement fails: before it did anything, or after. -/
inductive Fault where
  | before
  | after

/-- What the work does: it commits and answers, or it throws, with or without having committed. -/
inductive Work (Body : Type) where
  | done (body : Body)
  | failed (committed : Bool)

def Work.committed : Work Body → Bool
  | .done _ => true
  | .failed committed => committed

def Work.body? : Work Body → Option Body
  | .done body => some body
  | .failed _ => none

/-- Where the statements after the work fail. -/
structure Faults where
  completion : Option Fault := none
  release : Option Fault := none

/-- `IdempotencyService.release`, and the error that is thrown on. -/
def release (c : Claim) (committed : Bool) (fault : Option Fault) :
    IdempotencyProg Body (Except IdempotencyError (IdempotentOutcome Body)) :=
  match fault with
  | some .before => .pure (.error .failed)
  | _ => (Prog.stmt (.release c committed) fun db => ((), db.release c)).bind fun _ => .pure (.error .failed)

def completion (c : Claim) (statusCode : Nat) (body : Body) (faults : Faults) :
    IdempotencyProg Body (Except IdempotencyError (IdempotentOutcome Body)) :=
  match faults.completion with
  | some .before => release c true faults.release
  | some .after =>
    (Prog.stmt (.complete c) fun db => ((), db.complete c statusCode body)).bind fun _ =>
      release c true faults.release
  | none =>
    (Prog.stmt (.complete c) fun db => ((), db.complete c statusCode body)).bind fun _ =>
      .pure (.ok { statusCode, body := some body, replayed := false })

def attempt (c : Claim) (request : IdempotentRequest) (work : Work Body) (faults : Faults) :
    IdempotencyProg Body (Except IdempotencyError (IdempotentOutcome Body)) :=
  (Prog.stmt (.work c) fun db => ((), db.ran c work.committed request.statusCode work.body?)).bind fun _ =>
    match work with
    | .done body => completion c request.statusCode body faults
    | .failed committed => release c committed faults.release

def execute (hashIdempotentRequest : IdempotentRequest → String) (tenantId : Uuid) (request : IdempotentRequest)
    (work : Work Body) (faults : Faults) : IdempotencyProg Body (Except IdempotencyError (IdempotentOutcome Body)) :=
  (claim tenantId request (hashIdempotentRequest request) claimAttempts).bind fun outcome =>
    match outcome with
    | .refused error => .pure (.error error)
    | .stored statusCode body => .pure (.ok { statusCode, body, replayed := true })
    | .owned c => attempt c request work faults

inductive IdempotencyCall (Body : Type) where
  | execute (tenantId : Uuid) (request : IdempotentRequest) (work : Work Body) (faults : Faults)
  | tick (milliseconds : Nat)

inductive IdempotencyReply (Body : Type) where
  | executed (result : Except IdempotencyError (IdempotentOutcome Body))
  | ticked

def idempotencyProgram (hashIdempotentRequest : IdempotentRequest → String) :
    IdempotencyCall Body → IdempotencyProg Body (IdempotencyReply Body)
  | .execute tenantId request work faults =>
    (execute hashIdempotentRequest tenantId request work faults).bind (.pure ∘ .executed)
  | .tick milliseconds => .stmt .tick fun db => (.ticked, { db with now := db.now + milliseconds })

abbrev IdempotencySys (Body : Type) :=
  Sys IdempotencyStmt (IdempotencyDb Body) (IdempotencyCall Body) (IdempotencyReply Body)

def Claim.SameRequest (c c' : Claim) : Prop :=
  c.tenantId = c'.tenantId ∧ c.key = c'.key ∧ c.requestHash = c'.requestHash

def WorkedOnce (db : IdempotencyDb Body) : Prop :=
  db.works.Pairwise fun first later =>
    first.claim.SameRequest later.claim → first.committed = true → first.claim.expiresAt ≤ later.instant

instance (c c' : Claim) : Decidable (c.SameRequest c') := inferInstanceAs (Decidable (_ ∧ _))

instance (db : IdempotencyDb Body) : Decidable (WorkedOnce db) := inferInstanceAs (Decidable (List.Pairwise _ _))

def Answered (hashIdempotentRequest : IdempotentRequest → String) (s : IdempotencySys Body) : Prop :=
  ∀ tenantId request work faults outcome,
    s.Finished (.execute tenantId request work faults) (.executed (.ok outcome)) → outcome.replayed = true →
      ∃ run ∈ s.db.works, run.committed = true ∧ run.claim.tenantId = tenantId ∧ run.claim.key = request.key ∧
        run.claim.requestHash = hashIdempotentRequest request ∧ run.statusCode = outcome.statusCode ∧
          run.body = outcome.body

def IdempotencyStmt.issuer? : IdempotencyStmt → Option Claim
  | .complete c => some c
  | .release c _ => some c
  | _ => none

def TouchesOwnClaim (tag : IdempotencyStmt) (db db' : IdempotencyDb Body) : Prop :=
  ∀ c, tag.issuer? = some c → ∀ row : IdempotencyKey Body, row.id ≠ c.id → (row ∈ db'.keys ↔ row ∈ db.keys)

/-- The condition on a step: an attempt takes its statements before its claim expires, and comes to the release only
    when its work has committed nothing. -/
def prompt (db : IdempotencyDb Body) : IdempotencyStmt → Bool
  | .work c => db.now < c.expiresAt
  | .complete c => db.now < c.expiresAt
  | .release c committed => db.now < c.expiresAt && !committed
  | _ => true

def Held (db : IdempotencyDb Body) (c : Claim) : Prop :=
  db.now < c.expiresAt → ∃ row ∈ db.keys, row.Of c ∧ row.state = .inProgress

/-- What an attempt remembers, from its clock reading to its answer. -/
inductive Owned (Body : Type) where
  | nothing
  | reading (now : Millis)
  | claimed (c : Claim)
  | worked (run : WorkRun Body)
  | answered (run : WorkRun Body)

def Owned.claim? : Owned Body → Option Claim
  | .claimed c => some c
  | .worked run => some run.claim
  | _ => none

def Owned.Holds : Owned Body → IdempotencyDb Body → Prop
  | .nothing, _ => True
  | .reading now, db => now ≤ db.now
  | .claimed c, db => c.id < db.nextId ∧ (∀ run ∈ db.works, run.claim.id ≠ c.id) ∧ Held db c
  | .worked run, db => run ∈ db.works ∧ Held db run.claim
  | .answered run, db => run ∈ db.works ∧ run.committed = true

/-- No two attempts own one row. -/
def Owned.Apart (m k : Owned Body) : Prop :=
  ∀ c c', m.claim? = some c → k.claim? = some c' → c.id ≠ c'.id

structure IdempotencyDb.Sound (db : IdempotencyDb Body) : Prop where
  unique : UniqueBy (fun row : IdempotencyKey Body => some (row.tenantId, row.key)) db.keys
  issued : ∀ run ∈ db.works, run.claim.id < db.nextId
  distinct : db.works.Pairwise fun first later => first.claim.id ≠ later.claim.id
  /-- A stored response is the one a run of the work committed. -/
  stored : ∀ row ∈ db.keys, row.state = .completed → ∃ run ∈ db.works, run.committed = true ∧ row.Of run.claim ∧
    row.statusCode = some run.statusCode ∧ row.responseBody = run.body
  /-- The row of a run that committed is there until it expires. -/
  kept : ∀ run ∈ db.works, run.committed = true → db.now < run.claim.expiresAt →
    ∃ row ∈ db.keys, row.Of run.claim
  once : WorkedOnce db

def ownership (Body : Type) : Ownership IdempotencyStmt (IdempotencyDb Body) (Owned Body) where
  inv := IdempotencyDb.Sound
  holds := Owned.Holds
  apart := Owned.Apart
  cond tag db := prompt db tag = true
  effect := TouchesOwnClaim

theorem ownership_sound : (ownership Body).Sound .nothing where
  symm h c c' hc hc' := Ne.symm (h c' c hc' hc)
  start_holds _ := trivial
  start_apart _ _ _ hc _ := by cases hc

variable {db : IdempotencyDb Body} {c : Claim} {row : IdempotencyKey Body} {m : Owned Body}

theorem IdempotencyDb.Sound.same_row (hdb : db.Sound)
    (ha : a ∈ db.keys) (hb : b ∈ db.keys) (htenant : a.tenantId = b.tenantId) (hkey : a.key = b.key) : a = b := by
  have hentry : some (a.tenantId, a.key) = some (b.tenantId, b.key) := by rw [htenant, hkey]
  exact hdb.unique.eq_of_entry ha hb hentry rfl

theorem owned_iff : IdempotencyDb.owned c row = true ↔
      row.tenantId = c.tenantId ∧ row.key = c.key ∧ row.requestHash = c.requestHash ∧ row.state = .inProgress := by
  simp [IdempotencyDb.owned]

theorem of_owned (hdb : db.Sound) (hheld : Held db c) (hlive : db.now < c.expiresAt) (hrow : row ∈ db.keys)
    (howned : IdempotencyDb.owned c row = true) : row.Of c := by
  obtain ⟨own, hown, hof, _⟩ := hheld hlive
  obtain ⟨htenant, hkey, _, _⟩ := owned_iff.mp howned
  rw [hdb.same_row hrow hown (htenant.trans hof.tenantId.symm) (hkey.trans hof.key.symm)]
  exact hof

theorem findKey_some (h : db.findKey tenantId key = some row) : row ∈ db.keys ∧ row.tenantId = tenantId ∧ row.key = key := by
  exact of_find? h

theorem TouchesOwnClaim.of_issuer {tag : IdempotencyStmt} (h : tag.issuer? = none) : TouchesOwnClaim tag db db' := by
  intro c hc
  rw [h] at hc
  cases hc

theorem Owned.Holds.keep {k : Owned Body} (h : k.Holds db) (db' : IdempotencyDb Body) (hapart : m.Apart k)
    (hnow : db'.now = db.now) (hnext : db.nextId ≤ db'.nextId) (hworks : ∀ run ∈ db.works, run ∈ db'.works)
    (hruns : ∀ run ∈ db'.works, run ∈ db.works ∨ m.claim? = some run.claim)
    (hrows : ∀ c, k.claim? = some c → ∀ row ∈ db.keys, row.Of c → row.state = .inProgress → db.now < c.expiresAt →
      row ∈ db'.keys) : k.Holds db' := by
  have hheld : ∀ c, k.claim? = some c → Held db c → Held db' c := by
    intro c hc hheld hlive
    rw [hnow] at hlive
    obtain ⟨row, hrow, hof, hstate⟩ := hheld hlive
    exact ⟨row, hrows c hc row hrow hof hstate hlive, hof, hstate⟩
  cases k with
  | nothing => trivial
  | reading =>
    rw [Owned.Holds, hnow]
    exact h
  | claimed c =>
    obtain ⟨hid, hfresh, hc⟩ := h
    refine ⟨lt_of_lt_of_le hid hnext, ?_, hheld c rfl hc⟩
    intro run hrun
    rcases hruns run hrun with hrun | hclaim
    · exact hfresh run hrun
    · exact hapart _ _ hclaim rfl
  | worked run =>
    obtain ⟨hrun, hc⟩ := h
    exact ⟨hworks run hrun, hheld _ rfl hc⟩
  | answered run => exact ⟨hworks run h.1, h.2⟩

theorem create_yields (hdb : db.Sound) (tenantId : Uuid) (key requestHash : String)
    (expiresAt : Millis) (hread : now ≤ db.now) :
    ∃ m', (ownership Body).Yields (.reading now) m' db (db.create tenantId key requestHash expiresAt).2 ∧
      match (db.create tenantId key requestHash expiresAt).1 with
      | some c => m' = .claimed c ∧ c.tenantId = tenantId ∧ c.key = key ∧ c.requestHash = requestHash
      | none => m' = .reading now := by
  rw [IdempotencyDb.create]
  cases hfind : db.findKey tenantId key with
  | some => exact ⟨.reading now, .same hdb hread fun _ hk => hk, rfl⟩
  | none =>
    let c : Claim := { id := db.nextId, tenantId, key, requestHash, expiresAt }
    let row : IdempotencyKey Body := { id := db.nextId, tenantId, key, requestHash, expiresAt }
    have hof : row.Of c := ⟨rfl, rfl, rfl, rfl, rfl⟩
    refine ⟨.claimed c, ?_, rfl, rfl, rfl, rfl⟩
    constructor
    · constructor
      · apply List.pairwise_append.mpr
        refine ⟨hdb.unique, List.pairwise_singleton _ _, ?_⟩
        intro a ha b hb hclash
        rw [List.mem_singleton.mp hb] at hclash
        have hnone := List.find?_eq_none.mp hfind a ha
        simp only [decide_eq_true_eq] at hnone
        exact hnone (Prod.ext_iff.mp (Option.some.inj hclash.2))
      · exact fun run hrun => lt_trans (hdb.issued run hrun) (Nat.lt_succ_self _)
      · exact hdb.distinct
      · intro stored hstored hcompleted
        rcases mem_snoc.mp hstored with hstored | rfl
        · exact hdb.stored stored hstored hcompleted
        · cases hcompleted
      · intro run hrun hcommitted hlive
        obtain ⟨kept, hkept, hrunOf⟩ := hdb.kept run hrun hcommitted hlive
        exact ⟨kept, List.mem_append_left _ hkept, hrunOf⟩
      · exact hdb.once
    · refine ⟨Nat.lt_succ_self _, fun run hrun => Nat.ne_of_lt (hdb.issued run hrun), fun _ => ?_⟩
      exact ⟨row, List.mem_concat_self, hof, rfl⟩
    · intro k hapart hk
      have hkept : k.Holds { db with nextId := db.nextId + 1, keys := db.keys ++ [row] } := by
        refine Owned.Holds.keep hk _ hapart rfl (Nat.le_succ _) (fun _ hrun => hrun) (fun _ hrun => .inl hrun) ?_
        exact fun _ _ _ hrow _ _ _ => List.mem_append_left _ hrow
      refine ⟨fun c₁ c' hc₁ hc' => ?_, hkept⟩
      cases hc₁
      -- a claim that is owned was given an earlier id
      cases k with
      | claimed =>
        cases hc'
        exact Nat.ne_of_gt hk.1
      | worked run =>
        cases hc'
        exact Nat.ne_of_gt (hdb.issued run hk.1)
      | nothing | reading | answered => cases hc'

theorem expire_yields (hdb : db.Sound) (tenantId : Uuid) (key : String) (hread : now ≤ db.now) :
    (ownership Body).Yields (.reading now) .nothing db (db.expire tenantId key now) := by
  have hkept : ∀ row ∈ db.keys, db.now < row.expiresAt → row ∈ (db.expire tenantId key now).keys := by
    intro row hrow hlive
    apply List.mem_filter.mpr
    refine ⟨hrow, ?_⟩
    have hnot : ¬ row.expiresAt ≤ now := not_le.mpr (lt_of_le_of_lt hread hlive)
    simp [hnot]
  constructor
  · constructor
    · exact List.Pairwise.filter _ hdb.unique
    · exact hdb.issued
    · exact hdb.distinct
    · exact fun row hrow => hdb.stored row (List.mem_filter.mp hrow).1
    · intro run hrun hcommitted hlive
      obtain ⟨row, hrow, hof⟩ := hdb.kept run hrun hcommitted hlive
      exact ⟨row, hkept row hrow (hof.expiresAt ▸ hlive), hof⟩
    · exact hdb.once
  · trivial
  · intro k hapart hk
    refine ⟨fun c c' hc _ => (Option.some_ne_none c hc.symm).elim, ?_⟩
    refine Owned.Holds.keep hk _ hapart rfl (Nat.le_refl _) (fun _ hrun => hrun) (fun _ hrun => .inl hrun) ?_
    exact fun c _ row hrow hof _ hlive => hkept row hrow (hof.expiresAt ▸ hlive)

theorem ran_yields (hdb : db.Sound) (hc : (.claimed c : Owned Body).Holds db)
    (hlive : db.now < c.expiresAt) (committed : Bool) (statusCode : Nat) (body : Option Body) :
    (ownership Body).Yields (.claimed c)
      (.worked { claim := c, instant := db.now, committed, statusCode, body }) db
        (db.ran c committed statusCode body) := by
  obtain ⟨hid, hfresh, hheld⟩ := hc
  obtain ⟨own, hown, hof, hstate⟩ := hheld hlive
  constructor
  · constructor
    · exact hdb.unique
    · intro run hrun
      rcases mem_snoc.mp hrun with hrun | rfl
      · exact hdb.issued run hrun
      · exact hid
    · apply List.pairwise_append.mpr
      refine ⟨hdb.distinct, List.pairwise_singleton _ _, fun run hrun new hnew => ?_⟩
      rw [List.mem_singleton.mp hnew]
      exact hfresh run hrun
    · intro row hrow hcompleted
      obtain ⟨run, hrun, hstored⟩ := hdb.stored row hrow hcompleted
      exact ⟨run, List.mem_append_left _ hrun, hstored⟩
    · intro run hrun hcommitted hlive'
      rcases mem_snoc.mp hrun with hrun | rfl
      · exact hdb.kept run hrun hcommitted hlive'
      · exact ⟨own, hown, hof⟩
    · apply List.pairwise_append.mpr
      refine ⟨hdb.once, List.pairwise_singleton _ _, fun first hfirst new hnew hsame hcommitted => ?_⟩
      rw [List.mem_singleton.mp hnew] at hsame ⊢
      by_contra hexpired
      -- the row of the run that committed and the one of this attempt would be the same
      obtain ⟨row, hrow, hrowOf⟩ := hdb.kept first hfirst hcommitted (not_le.mp hexpired)
      have htenant : row.tenantId = own.tenantId := by rw [hrowOf.tenantId, hsame.1, hof.tenantId]
      have hkey : row.key = own.key := by rw [hrowOf.key, hsame.2.1, hof.key]
      have hrowown := hdb.same_row hrow hown htenant hkey
      exact hfresh first hfirst (by rw [← hrowOf.id, hrowown, hof.id])
  · refine ⟨List.mem_concat_self, fun _ => ⟨own, hown, hof, hstate⟩⟩
  · intro k hapart hk
    refine ⟨fun c₁ c' hc₁ hc' => hapart c₁ c' hc₁ hc', ?_⟩
    refine Owned.Holds.keep hk _ hapart rfl (Nat.le_refl _) (fun _ hrun => List.mem_append_left _ hrun) ?_ ?_
    · intro run hrun
      rcases mem_snoc.mp hrun with hrun | rfl
      · exact .inl hrun
      · exact .inr rfl
    · exact fun _ _ row hrow _ _ _ => hrow

theorem complete_yields (hdb : db.Sound) {run : WorkRun Body}
    (hrun : (Owned.worked run).Holds db) (hlive : db.now < run.claim.expiresAt) (hcommitted : run.committed = true)
    (hbody : run.body = some body) :
    (ownership Body).Yields (.worked run) (.answered run) db (db.complete run.claim run.statusCode body) := by
  obtain ⟨hmem, hheld⟩ := hrun
  have hof : ∀ row ∈ db.keys, IdempotencyDb.owned run.claim row = true → row.Of run.claim :=
    fun row hrow => of_owned hdb hheld hlive hrow
  constructor
  · constructor
    · exact hdb.unique.updateWhere fun _ _ _ => .inr rfl
    · exact hdb.issued
    · exact hdb.distinct
    · intro row hrow hcompleted
      obtain ⟨row₀, hrow₀, ⟨howned, rfl⟩ | ⟨_, rfl⟩⟩ := mem_updateWhere hrow
      · obtain ⟨hid, htenant, hkey, hhash, hexpires⟩ := hof row₀ hrow₀ howned
        exact ⟨run, hmem, hcommitted, ⟨hid, htenant, hkey, hhash, hexpires⟩, rfl, hbody.symm⟩
      · exact hdb.stored _ hrow₀ hcompleted
    · intro kept hkept hkeptCommitted hkeptLive
      obtain ⟨row, hrow, hid, htenant, hkey, hhash, hexpires⟩ := hdb.kept kept hkept hkeptCommitted hkeptLive
      refine ⟨_, mem_updateWhere_of_mem hrow, ?_⟩
      split
      · exact ⟨hid, htenant, hkey, hhash, hexpires⟩
      · exact ⟨hid, htenant, hkey, hhash, hexpires⟩
    · exact hdb.once
  · exact ⟨hmem, hcommitted⟩
  · intro k hapart hk
    refine ⟨fun c c' hc _ => (Option.some_ne_none c hc.symm).elim, ?_⟩
    refine Owned.Holds.keep hk _ hapart rfl (Nat.le_refl _) (fun _ hrun => hrun) (fun _ hrun => .inl hrun) ?_
    intro c hc row hrow hrowOf _ _
    apply mem_updateWhere_of_not hrow
    apply Bool.eq_false_iff.mpr
    intro howned
    exact hapart _ _ rfl hc ((hof row hrow howned).id.symm.trans hrowOf.id)

theorem release_yields (hdb : db.Sound) {run : WorkRun Body}
    (hrun : (Owned.worked run).Holds db) (hlive : db.now < run.claim.expiresAt) (hcommitted : run.committed = false) :
    (ownership Body).Yields (.worked run) .nothing db (db.release run.claim) := by
  obtain ⟨hmem, hheld⟩ := hrun
  have hkept : ∀ row ∈ db.keys, row.id ≠ run.claim.id → row ∈ (db.release run.claim).keys := by
    intro row hrow hother
    apply List.mem_filter.mpr
    refine ⟨hrow, ?_⟩
    rw [Bool.not_eq_true', Bool.eq_false_iff]
    exact fun howned => hother (of_owned hdb hheld hlive hrow howned).id
  constructor
  · constructor
    · exact List.Pairwise.filter _ hdb.unique
    · exact hdb.issued
    · exact hdb.distinct
    · exact fun row hrow => hdb.stored row (List.mem_filter.mp hrow).1
    · intro kept hkeptMem hkeptCommitted hkeptLive
      obtain ⟨row, hrow, hof⟩ := hdb.kept kept hkeptMem hkeptCommitted hkeptLive
      refine ⟨row, hkept row hrow fun hid => ?_, hof⟩
      -- a claim has one run, and this one committed nothing
      have hsymm : Std.Symm fun a b : WorkRun Body => a.claim.id ≠ b.claim.id := ⟨fun _ _ h => h.symm⟩
      have hsame : kept = run := by
        by_contra hne
        exact hdb.distinct.forall hkeptMem hmem hne (hof.id.symm.trans hid)
      rw [hsame, hcommitted] at hkeptCommitted
      cases hkeptCommitted
    · exact hdb.once
  · trivial
  · intro k hapart hk
    refine ⟨fun c c' hc _ => (Option.some_ne_none c hc.symm).elim, ?_⟩
    refine Owned.Holds.keep hk _ hapart rfl (Nat.le_refl _) (fun _ hrun => hrun) (fun _ hrun => .inl hrun) ?_
    intro c hc row hrow hrowOf _ _
    exact hkept row hrow fun hid => hapart _ _ rfl hc (hid.symm.trans hrowOf.id)

theorem complete_touches (hdb : db.Sound) (hheld : Held db c)
    (hlive : db.now < c.expiresAt) (statusCode : Nat) (body : Body) :
    TouchesOwnClaim (.complete c) db (db.complete c statusCode body) := by
  intro c' hc' row hother
  cases hc'
  have hof : ∀ row ∈ db.keys, IdempotencyDb.owned c row = true → row.Of c :=
    fun row hrow => of_owned hdb hheld hlive hrow
  constructor
  · intro hrow
    obtain ⟨row₀, hrow₀, ⟨howned, rfl⟩ | ⟨_, rfl⟩⟩ := mem_updateWhere hrow
    · exact absurd (hof row₀ hrow₀ howned).id hother
    · exact hrow₀
  · intro hrow
    apply mem_updateWhere_of_not hrow
    exact Bool.eq_false_iff.mpr fun howned => hother (hof row hrow howned).id

theorem release_touches (hdb : db.Sound) (hheld : Held db c) (hlive : db.now < c.expiresAt) (committed : Bool) :
    TouchesOwnClaim (.release c committed) db (db.release c) := by
  intro c' hc' row hother
  cases hc'
  constructor
  · exact fun hrow => (List.mem_filter.mp hrow).1
  · intro hrow
    apply List.mem_filter.mpr
    refine ⟨hrow, ?_⟩
    rw [Bool.not_eq_true', Bool.eq_false_iff]
    exact fun howned => hother (of_owned hdb hheld hlive hrow howned).id

/-- What an attempt answers with, when it did not work for it. -/
def Owned.Answers (tenantId : Uuid) (request : IdempotentRequest) (requestHash : String) (m : Owned Body)
    (result : Except IdempotencyError (IdempotentOutcome Body)) : Prop :=
  ∀ outcome, result = .ok outcome → outcome.replayed = true → ∃ run, m = .answered run ∧
    run.claim.tenantId = tenantId ∧ run.claim.key = request.key ∧ run.claim.requestHash = requestHash ∧
      run.statusCode = outcome.statusCode ∧ run.body = outcome.body

def ClaimOutcome.Owns (tenantId : Uuid) (request : IdempotentRequest) (requestHash : String) (m : Owned Body) :
    ClaimOutcome Body → Prop
  | .owned c => m = .claimed c
  | .stored statusCode body => ∃ run, m = .answered run ∧ run.claim.tenantId = tenantId ∧
      run.claim.key = request.key ∧ run.claim.requestHash = requestHash ∧ run.statusCode = statusCode ∧
        run.body = body
  | .refused _ => True

theorem claim_owns (tenantId : Uuid) (request : IdempotentRequest) (requestHash : String) (attempts : Nat)
    (hm : m.claim? = none) : (claim tenantId request requestHash attempts).Owns (ownership Body)
      (ClaimOutcome.Owns tenantId request requestHash) m := by
  induction attempts generalizing m with
  | zero => trivial
  | succ attempts ih =>
    have hfree : ∀ (m' k : Owned Body), m'.claim? = none → m'.Apart k :=
      fun m' k hm' c c' hc _ => by simp [hm'] at hc
    intro db hdb _ _
    refine ⟨.of_issuer rfl, .reading db.now, .same hdb (le_refl db.now) fun k _ => hfree _ k rfl, ?_⟩
    intro db₁ hdb₁ hread _
    obtain ⟨m₁, hyields, hanswer⟩ := create_yields hdb₁ tenantId request.key requestHash (db.now + keyLifetimeMs) hread
    refine ⟨.of_issuer rfl, m₁, hyields, ?_⟩
    cases hcreate : (db₁.create tenantId request.key requestHash (db.now + keyLifetimeMs)).1 with
    | some =>
      rw [hcreate] at hanswer
      exact hanswer.1
    | none =>
      rw [hcreate] at hanswer
      subst hanswer
      intro db₂ hdb₂ hread₂ _
      simp only [Prog.bind_pure_left]
      cases hfind : db₂.findKey tenantId request.key with
      | none => exact ⟨.of_issuer rfl, .reading db.now, .same hdb₂ hread₂ fun _ hk => hk, ih rfl⟩
      | some held =>
        obtain ⟨hmem, htenant, hkey⟩ := findKey_some hfind
        dsimp only
        split
        · refine ⟨.of_issuer rfl, .reading db.now, .same hdb₂ hread₂ fun _ hk => hk, ?_⟩
          intro db₃ hdb₃ hread₃ _
          exact ⟨.of_issuer rfl, .nothing, expire_yields hdb₃ tenantId request.key hread₃, ih rfl⟩
        · split
          · exact ⟨.of_issuer rfl, .reading db.now, .same hdb₂ hread₂ fun _ hk => hk, trivial⟩
          · rename_i hhash
            split
            · exact ⟨.of_issuer rfl, .reading db.now, .same hdb₂ hread₂ fun _ hk => hk, trivial⟩
            · rename_i hcompleted
              obtain ⟨run, hrun, hcommitted, hof, hstatus, hbody⟩ := hdb₂.stored held hmem (not_not.mp hcompleted)
              refine ⟨.of_issuer rfl, .answered run, .same hdb₂ ⟨hrun, hcommitted⟩ fun k _ => hfree _ k rfl, ?_⟩
              refine ⟨run, rfl, hof.tenantId.symm.trans htenant, hof.key.symm.trans hkey, ?_, ?_, hbody.symm⟩
              · exact hof.requestHash.symm.trans (not_not.mp hhash)
              · simp [hstatus]

theorem release_owns (run : WorkRun Body) (hm : m = .worked run ∨ run.committed = true)
    (fault : Option Fault) (Q : Owned Body → Except IdempotencyError (IdempotentOutcome Body) → Prop)
    (hQ : ∀ m, Q m (.error .failed)) : (release run.claim run.committed fault).Owns (ownership Body) Q m := by
  have hrelease : ((Prog.stmt (.release run.claim run.committed) fun db => ((), db.release run.claim)).bind fun _ =>
      (.pure (.error .failed) : IdempotencyProg Body (Except IdempotencyError (IdempotentOutcome Body)))).Owns
        (ownership Body) Q m := by
    intro db hdb hholds hcond
    have hcond' : db.now < run.claim.expiresAt ∧ run.committed = false := by simpa [ownership, prompt] using hcond
    obtain ⟨hlive, hcommitted⟩ := hcond'
    rcases hm with rfl | hm
    · exact ⟨release_touches hdb hholds.2 hlive _, .nothing, release_yields hdb hholds hlive hcommitted, hQ _⟩
    · rw [hcommitted] at hm
      cases hm
  cases fault with
  | none => exact hrelease
  | some fault =>
    cases fault with
    | before => exact hQ m
    | after => exact hrelease

theorem attempt_owns (tenantId : Uuid) (c : Claim) (request : IdempotentRequest) (requestHash : String)
    (work : Work Body) (faults : Faults) :
    (attempt c request work faults).Owns (ownership Body) (Owned.Answers tenantId request requestHash) (.claimed c) := by
  have hfailed : ∀ m : Owned Body, m.Answers tenantId request requestHash (.error .failed) :=
    fun m outcome houtcome => by cases houtcome
  intro db hdb hclaimed hlive
  have hlive' : db.now < c.expiresAt := by simpa [ownership, prompt] using hlive
  let run : WorkRun Body :=
    { claim := c, instant := db.now, committed := work.committed, statusCode := request.statusCode, body := work.body? }
  refine ⟨.of_issuer rfl, .worked run, ran_yields hdb hclaimed hlive' _ _ _, ?_⟩
  cases work with
  | failed => exact release_owns run (.inl rfl) faults.release _ hfailed
  | done body =>
    have hcomplete : ∀ (next : IdempotencyProg Body (Except IdempotencyError (IdempotentOutcome Body))),
        next.Owns (ownership Body) (Owned.Answers tenantId request requestHash) (.answered run) →
          ((Prog.stmt (.complete c) fun db => ((), db.complete c request.statusCode body)).bind fun _ => next).Owns
            (ownership Body) (Owned.Answers tenantId request requestHash) (.worked run) := by
      intro next hnext db₁ hdb₁ hworked hlive₁
      have hlive₁' : db₁.now < c.expiresAt := by simpa [ownership, prompt] using hlive₁
      refine ⟨complete_touches hdb₁ hworked.2 hlive₁' _ _, .answered run, ?_, hnext⟩
      exact complete_yields hdb₁ hworked hlive₁' rfl rfl
    show (completion c request.statusCode body faults).Owns _ _ _
    cases hfault : faults.completion with
    | none =>
      rw [completion, hfault]
      apply hcomplete
      intro outcome houtcome hreplayed
      cases houtcome
      cases hreplayed
    | some fault =>
      cases fault with
      | before =>
        rw [completion, hfault]
        exact release_owns run (.inl rfl) faults.release _ hfailed
      | after =>
        rw [completion, hfault]
        exact hcomplete _ (release_owns run (.inr rfl) faults.release _ hfailed)

theorem execute_owns (hashIdempotentRequest : IdempotentRequest → String) (tenantId : Uuid)
    (request : IdempotentRequest) (work : Work Body) (faults : Faults) :
    (execute hashIdempotentRequest tenantId request work faults).Owns (ownership Body)
      (Owned.Answers tenantId request (hashIdempotentRequest request)) .nothing := by
  apply (claim_owns tenantId request (hashIdempotentRequest request) claimAttempts rfl).bind
  intro m outcome houtcome
  cases outcome with
  | owned c =>
    rw [show m = .claimed c from houtcome]
    exact attempt_owns tenantId c request _ work faults
  | stored =>
    obtain ⟨run, rfl, htenant, hkey, hhash, hstatus, hbody⟩ := houtcome
    intro outcome heq _
    cases heq
    exact ⟨run, rfl, htenant, hkey, hhash, hstatus, hbody⟩
  | refused =>
    intro outcome heq
    cases heq

def Replies (hashIdempotentRequest : IdempotentRequest → String) :
    IdempotencyCall Body → Owned Body → IdempotencyReply Body → Prop
  | .execute tenantId request _ _, m, .executed result =>
    m.Answers tenantId request (hashIdempotentRequest request) result
  | _, _, _ => True

theorem tick_yields (hdb : db.Sound) (milliseconds : Nat) :
    (ownership Body).Yields .nothing .nothing db { db with now := db.now + milliseconds } := by
  have hlater : ∀ {deadline : Millis}, db.now + milliseconds < deadline → db.now < deadline :=
    fun h => lt_of_le_of_lt (le_add_of_nonneg_right (Int.natCast_nonneg _)) h
  constructor
  · exact { hdb with kept := fun run hrun hcommitted hlive => hdb.kept run hrun hcommitted (hlater hlive) }
  · trivial
  · intro k hapart hk
    refine ⟨hapart, ?_⟩
    cases k with
    | nothing => trivial
    | reading => exact le_trans hk (le_add_of_nonneg_right (Int.natCast_nonneg _))
    | claimed => exact ⟨hk.1, hk.2.1, fun hlive => hk.2.2 (hlater hlive)⟩
    | worked => exact ⟨hk.1, fun hlive => hk.2 (hlater hlive)⟩
    | answered => exact hk

theorem idempotencyProgram_owns (hashIdempotentRequest : IdempotentRequest → String) (call : IdempotencyCall Body) :
    (idempotencyProgram hashIdempotentRequest call).Owns (ownership Body) (Replies hashIdempotentRequest call)
      .nothing := by
  cases call with
  | execute tenantId request work faults =>
    apply (execute_owns hashIdempotentRequest tenantId request work faults).bind
    exact fun m result hresult => hresult
  | tick milliseconds =>
    intro db hdb _ _
    exact ⟨.of_issuer rfl, .nothing, tick_yields hdb milliseconds, trivial⟩

theorem sound_empty : ({} : IdempotencyDb Nat).Sound where
  unique := .nil
  issued := by simp
  distinct := .nil
  stored := by simp
  kept := by simp
  once := .nil

def sendMessage : IdempotentRequest :=
  { key := "k1", operation := "conversation.send", target := "c1", payload := .null, statusCode := 201 }

/-- A request works and completes, and its retry finds the response. -/
def sentAndRetried : List (Move (IdempotencyCall Nat)) :=
  [.spawn (.execute 1 sendMessage (.done 7) {}), .step 0, .step 0, .step 0, .step 0, .spawn (.tick 1000), .step 1,
    .spawn (.execute 1 sendMessage (.done 8) {}), .step 2, .step 2, .step 2]

def completionFails : List (Move (IdempotencyCall Nat)) :=
  [.spawn (.execute 1 sendMessage (.done 7) { completion := some .before }), .step 0, .step 0, .step 0, .step 0,
    .spawn (.execute 1 sendMessage (.done 8) {}), .step 1, .step 1, .step 1, .step 1]

section Replays

variable (row)

def Keyed (db : IdempotencyDb Body) : Prop :=
  UniqueBy (fun row : IdempotencyKey Body => some (row.tenantId, row.key)) db.keys

/-- The row is there, or it has expired. -/
def Kept (db : IdempotencyDb Body) : Prop := row ∈ db.keys ∨ row.expiresAt ≤ db.now

def Passes (db db' : IdempotencyDb Body) : Prop := db.now ≤ db'.now ∧ (Kept row db → Kept row db')

/-- What the calls count on while a response is stored: it stands as it is until it expires. -/
def standing : Rely IdempotencyStmt (IdempotencyDb Body) where
  inv := Keyed
  later := Passes row
  cond _ _ := True
  effect _ db db' := Keyed db' ∧ Passes row db db'

theorem standing_sound : (standing row).Sound where
  refl _ := ⟨le_refl _, id⟩
  trans h h' := ⟨h.1.trans h'.1, h'.2 ∘ h.2⟩
  keeps _ _ h := h

/-- The request is with the key of the row, and the row has not expired. -/
structure Asks (tenantId : Uuid) (request : IdempotentRequest) (db : IdempotencyDb Body) : Prop where
  tenant : tenantId = row.tenantId
  key : request.key = row.key
  live : db.now < row.expiresAt

/-- What a request with the key of a completed row is answered: the stored response, or that it is another request. -/
def IdempotencyKey.answerTo (request : IdempotentRequest) (requestHash : String) :
    Except IdempotencyError (IdempotentOutcome Body) :=
  if row.requestHash = requestHash then
    .ok { statusCode := row.statusCode.getD request.statusCode, body := row.responseBody, replayed := true }
  else .error (.keyReused request.key)

def ClaimOutcome.answer? : ClaimOutcome Body → Option (Except IdempotencyError (IdempotentOutcome Body))
  | .owned _ => none
  | .stored statusCode body => some (.ok { statusCode, body, replayed := true })
  | .refused error => some (.error error)

theorem create_passes (hdb : Keyed db) (tenantId : Uuid) (key requestHash : String) (expiresAt : Millis) :
    Keyed (db.create tenantId key requestHash expiresAt).2 ∧
      Passes row db (db.create tenantId key requestHash expiresAt).2 := by
  rw [IdempotencyDb.create]
  cases hfind : db.findKey tenantId key with
  | some => exact ⟨hdb, le_refl _, id⟩
  | none =>
    refine ⟨UniqueBy.concat hdb fun row hrow hclash => ?_, le_refl _, .imp_left (List.mem_append_left _)⟩
    have hother := List.find?_eq_none.mp hfind row hrow
    simp only [decide_eq_true_eq] at hother
    exact hother (Prod.ext_iff.mp (Option.some.inj hclash.2))

theorem expire_passes (hdb : Keyed db) (tenantId : Uuid) (key : String) {now : Millis} (hnow : now ≤ db.now) :
    Keyed (db.expire tenantId key now) ∧ Passes row db (db.expire tenantId key now) := by
  refine ⟨List.Pairwise.filter _ hdb, le_refl _, fun hrow => ?_⟩
  by_cases hexpired : row.expiresAt ≤ now
  · exact .inr (hexpired.trans hnow)
  · exact hrow.imp_left fun hrow => List.mem_filter.mpr ⟨hrow, by simp [hexpired]⟩

variable {row}

theorem Asks.earlier {tenantId : Uuid} (h : Asks row tenantId request db') (hnow : db.now ≤ db'.now) : Asks row tenantId request db :=
  { h with live := hnow.trans_lt h.live }

theorem Asks.find {tenantId : Uuid} (h : Asks row tenantId request db) (hdb : Keyed db) (hrow : Kept row db) :
    db.findKey tenantId request.key = some row := by
  obtain ⟨rfl, hkey, hlive⟩ := h
  exact hdb.find?_eq_some (hrow.resolve_right (not_le.mpr hlive)) (by simp [hkey]) fun _ _ h => by
    rw [(of_decide_eq_true h).1, (of_decide_eq_true h).2, hkey]

variable (hstate : row.state = .completed)

include hstate

theorem not_owned : IdempotencyDb.owned c row = false :=
  Bool.eq_false_iff.mpr fun howned => by simp [(owned_iff.mp howned).2.2.2] at hstate

theorem claim_answers (tenantId : Uuid) (request : IdempotentRequest) (requestHash : String) (attempts : Nat)
    (db : IdempotencyDb Body) : (claim tenantId request requestHash attempts).Ensures (standing row)
      (fun outcome db' => Kept row db → attempts ≠ 0 → Asks row tenantId request db' →
        outcome.answer? = some (row.answerTo request requestHash)) db := by
  induction attempts generalizing db with
  | zero => exact fun _ h => absurd rfl h
  | succ attempts ih =>
    -- the loop goes on only when the row has expired, or is another key's
    have hagain : ∀ db', (Kept row db → ¬Asks row tenantId request db') →
        (claim tenantId request requestHash attempts).Ensures (standing row) (fun outcome db' =>
          Kept row db → attempts + 1 ≠ 0 → Asks row tenantId request db' →
            outcome.answer? = some (row.answerTo request requestHash)) db' := fun db' hgone =>
      ((ih db').after (standing_sound row)).mono fun _ _ hlater hrow _ hasks =>
        absurd (hasks.earlier hlater.1.1) (hgone hrow)
    intro db₁ hlater₁ hdb₁ _
    refine ⟨⟨hdb₁, le_refl _, id⟩, ?_⟩
    intro db₂ hlater₂ hdb₂ _
    have hcreated := create_passes row hdb₂ tenantId request.key requestHash (db₁.now + keyLifetimeMs)
    refine ⟨hcreated, ?_⟩
    cases hcreate : (db₂.create tenantId request.key requestHash (db₁.now + keyLifetimeMs)).1 with
    | some c =>
      intro hrow _ hasks
      have hfound := (hasks.earlier hcreated.2.1).find hdb₂ (hlater₂.2 (hlater₁.2 hrow))
      simp [IdempotencyDb.create, hfound] at hcreate
    | none =>
      intro db₃ hlater₃ hdb₃ _
      refine ⟨⟨hdb₃, le_refl _, id⟩, ?_⟩
      have hfound : Kept row db → Asks row tenantId request db₃ → db₃.findKey tenantId request.key = some row :=
        fun hrow hasks => hasks.find hdb₃ (hlater₃.2 (hcreated.2.2 (hlater₂.2 (hlater₁.2 hrow))))
      simp only [Prog.bind_pure_left]
      cases hfind : db₃.findKey tenantId request.key with
      | none =>
        rw [hfind] at hfound
        exact hagain db₃ fun hrow hasks => nomatch hfound hrow hasks
      | some held =>
        rw [hfind] at hfound
        dsimp only
        split
        · rename_i hexpired
          intro db₄ hlater₄ hdb₄ _
          have hnow := ((hlater₂.1.trans hcreated.2.1).trans hlater₃.1).trans hlater₄.1
          refine ⟨expire_passes row hdb₄ tenantId request.key hnow, hagain _ fun hrow hasks => ?_⟩
          cases hfound hrow (hasks.earlier hlater₄.1)
          exact absurd hasks.live (not_lt.mpr (hexpired.trans hnow))
        · -- an answer is given, by the row that was found
          have hanswers : ∀ outcome : ClaimOutcome Body,
              (held = row → outcome.answer? = some (row.answerTo request requestHash)) →
                Kept row db → attempts + 1 ≠ 0 → Asks row tenantId request db₃ →
                  outcome.answer? = some (row.answerTo request requestHash) :=
            fun _ h hrow _ hasks => h (Option.some.inj (hfound hrow hasks))
          split
          · rename_i hhash
            refine hanswers _ fun h => ?_
            rw [IdempotencyKey.answerTo, ← h, if_neg hhash, ClaimOutcome.answer?]
          · split
            · rename_i hpending
              exact hanswers _ fun h => absurd (h ▸ hstate) hpending
            · rename_i hhash _
              refine hanswers _ fun h => ?_
              rw [IdempotencyKey.answerTo, ← h, if_pos (not_not.mp hhash), ClaimOutcome.answer?]

theorem attempt_passes (request : IdempotentRequest) (work : Work Body) (faults : Faults) (db : IdempotencyDb Body) :
    Prog.Guards (standing row) db (attempt c request work faults) := by
  have hrelease : ∀ committed fault (db : IdempotencyDb Body), Prog.Guards (standing row) db (release c committed fault) := by
    intro committed fault db
    unfold release
    split
    · trivial
    · exact fun _ _ hdb _ => ⟨⟨List.Pairwise.filter _ hdb, le_refl _,
        .imp_left fun hrow => List.mem_filter.mpr ⟨hrow, by simp [not_owned hstate]⟩⟩, trivial⟩
  have hcomplete : ∀ db statusCode body, Keyed db → Keyed (db.complete c statusCode body) ∧
      Passes row db (db.complete c statusCode body) := fun _ _ _ hdb =>
    ⟨UniqueBy.updateWhere hdb fun _ _ _ => .inr rfl, le_refl _,
      .imp_left fun hrow => mem_updateWhere_of_not hrow (not_owned hstate)⟩
  refine fun _ _ hdb _ => ⟨⟨hdb, le_refl _, id⟩, ?_⟩
  cases work with
  | failed => exact hrelease _ _ _
  | done body =>
    show Prog.Guards _ _ (completion c request.statusCode body faults)
    rw [completion]
    split
    · exact hrelease _ _ _
    · exact fun db _ hdb _ => ⟨hcomplete _ _ _ hdb, hrelease _ _ _⟩
    · exact fun db _ hdb _ => ⟨hcomplete _ _ _ hdb, trivial⟩

def Replayed (hashIdempotentRequest : IdempotentRequest → String) (row : IdempotencyKey Body) :
    IdempotencyCall Body → IdempotencyReply Body → IdempotencyDb Body → Prop
  | .execute tenantId request _ _, .executed result, db =>
    Asks row tenantId request db → result = row.answerTo request (hashIdempotentRequest request)
  | _, _, _ => True

theorem idempotencyProgram_replays (hashIdempotentRequest : IdempotentRequest → String) (call : IdempotencyCall Body)
    (db : IdempotencyDb Body) : (idempotencyProgram hashIdempotentRequest call).Ensures (standing row)
      (fun reply db' => Kept row db → Replayed hashIdempotentRequest row call reply db') db := by
  cases call with
  | tick milliseconds =>
    have hnow : ∀ now : Millis, now ≤ now + milliseconds := fun _ => Int.le_add_of_nonneg_right (Int.natCast_nonneg _)
    exact fun _ _ hdb _ => ⟨⟨hdb, hnow _, .imp_right fun h => h.trans (hnow _)⟩, fun _ => trivial⟩
  | execute tenantId request work faults =>
    refine .bind (standing_sound row) (Q := fun result db' => Kept row db → Asks row tenantId request db' →
      result = row.answerTo request (hashIdempotentRequest request)) ?_ fun _ _ _ hresult => hresult
    refine .bind (standing_sound row) (claim_answers hstate tenantId request _ claimAttempts db)
      fun outcome db' _ hanswer => ?_
    cases outcome with
    | refused | stored => exact fun hrow hasks => Option.some.inj (hanswer hrow (by decide) hasks)
    | owned c =>
      refine ((Prog.Ensures.of_guards (attempt_passes hstate request work faults db') fun _ _ => trivial).after
        (standing_sound row)).mono fun result db'' hlater hrow hasks => ?_
      cases hanswer hrow (by decide) (hasks.earlier hlater.1.1)

end Replays

end WhatsappCrm.Idempotency
