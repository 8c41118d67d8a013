/-
Purpose: Whether a document that is indexed is indexed from its current content, and a pending one is indexed at all.
-/
import WhatsappCrm.Ai.Knowledge
import WhatsappCrm.Lib.Debt
import WhatsappCrm.Lib.Ownership

namespace WhatsappCrm.Ai

open Interleaving Table

variable (j : IndexJob) (s : KnowledgeDb)

def KnowledgeDb.chunksOf (db : KnowledgeDb) (key : DocumentKey) : List (Nat × String) :=
  (db.chunks.filter (·.key = key)).map fun c => (c.ordinal, c.content)

def IsCurrent (db : KnowledgeDb) (d : KnowledgeDocument) : Prop :=
  d.chunkCount = (chunkDocument d.content).length ∧
    db.chunksOf d.key = (chunkDocument d.content).mapIdx fun ordinal content => (ordinal, content)

def KnowledgeDb.isPending (db : KnowledgeDb) (key : DocumentKey) : Bool :=
  db.documents.any fun d => d.key = key && d.status = .pending

variable {db : KnowledgeDb} {key : DocumentKey} {token : Nat} {α : Type} {tag : KnowledgeStmt}

theorem KnowledgeDb.isPending_iff : db.isPending key = true ↔ ∃ d ∈ db.documents, d.key = key ∧ d.status = .pending := by
  simp [isPending]

def IndexJob.willRead (j : IndexJob) : Bool := j.state = .waiting || (j.state = .active && j.progress ≠ .behind)

/-- The condition on a step: an index is committed from what is still stored, a pending document is queued for a job yet
    to read it, and the last run leaves none pending. -/
def meetsIndexing (db : KnowledgeDb) : KnowledgeStmt → Bool
  | .commit key content seen =>
    !db.serviceable.contains key.1 || db.collides key content seen ||
      (db.documents.all fun d => d.key ≠ key || chunkDocument d.content = chunkDocument content) && db.chunkIds key = seen
  | .enqueue key =>
    !db.isPending key || db.jobs.any (fun j => j.key = key && j.willRead) || db.redisUp && !db.jobs.any (·.key = key)
  | .settle key token (.dropped false) => !db.jobs.any (·.heldBy key token) || !db.isPending key
  | .settle key token (.threw false) =>
    !db.jobs.any (fun j => j.heldBy key token && aiIndexMaxAttempts ≤ j.attemptsMade + 1) || !db.isPending key
  | .abandon key => !db.jobs.any (fun j => j.key = key && j.state = .active) || !db.isPending key
  | _ => true

structure KnowledgeDb.Sound (db : KnowledgeDb) : Prop where
  jobs : UniqueBy (fun j : IndexJob => some j.key) db.jobs
  current : ∀ d ∈ db.documents, d.status = .indexed → IsCurrent db d
  /-- A pending document has a job that is not over, or somebody is about to queue one. -/
  pending : ∀ key, db.isPending key = true → key ∈ db.owed ∨ ∃ j ∈ db.jobs, j.key = key ∧ j.state ≠ .failed
  /-- So it is when the run of its job has read an earlier version. -/
  behind : ∀ key, db.isPending key = true → ∀ j ∈ db.jobs, j.key = key → j.state = .active → j.progress = .behind →
    key ∈ db.owed

/-- How far an attempt has come: it has taken the job, read the document, or settled what becomes of it. -/
inductive Phase where
  | taken
  | read
  | over

/-- What a call in progress owns: the lock of a job. -/
inductive JobHold where
  | nothing
  | run (key : DocumentKey) (token : Nat) (phase : Phase)

def JobHold.holds : JobHold → KnowledgeDb → Prop
  | .nothing, _ => True
  | .run key token phase, db => token < db.nextToken ∧ ∀ j ∈ db.jobs, j.heldBy key token = true →
      (phase ≠ .taken → j.progress ≠ .unread) ∧
        (phase = .over → db.isPending key = true → j.progress = .behind)

/-- Two attempts have different locks. -/
def JobHold.apart : JobHold → JobHold → Prop
  | .run _ token _, .run _ token' _ => token ≠ token'
  | _, _ => True

/-- What a statement that is no attempt's keeps. -/
structure Keeps (db db' : KnowledgeDb) : Prop where
  sound : db'.Sound
  held : ∀ m : JobHold, m.holds db → m.holds db'

theorem Keeps.refl (h : db.Sound) : Keeps db db := ⟨h, fun _ hm => hm⟩

theorem heldBy_iff {j : IndexJob} : j.heldBy key token = true ↔ j.key = key ∧ j.state = .active ∧ j.token = token := by
  simp [IndexJob.heldBy, and_assoc]

theorem Keeps.same (h : db.Sound) (hdocuments : db'.documents = db.documents)
    (hchunks : db'.chunks = db.chunks) (hjobs : db'.jobs = db.jobs) (howed : db'.owed = db.owed)
    (htoken : db'.nextToken = db.nextToken) : Keeps db db' := by
  have hpending : ∀ key, db'.isPending key = db.isPending key := fun key => by simp [KnowledgeDb.isPending, hdocuments]
  constructor
  · constructor
    · rw [hjobs]
      exact h.jobs
    · rw [hdocuments]
      intro d hd hindexed
      have hcurrent := h.current d hd hindexed
      rwa [IsCurrent, KnowledgeDb.chunksOf, hchunks]
    · intro key hkey
      rw [howed, hjobs]
      exact h.pending key (hpending key ▸ hkey)
    · intro key hkey
      rw [howed, hjobs]
      exact h.behind key (hpending key ▸ hkey)
  · intro m hm
    cases m with
    | nothing => trivial
    | run =>
      simp only [JobHold.holds, hjobs, htoken, hpending]
      exact hm

theorem fallBehind_progress {j : IndexJob} (h : j.progress ≠ .unread) : j.fallBehind.progress = .behind := by
  simp [IndexJob.fallBehind, h]

theorem Keeps.madePending (h : db.Sound)
    (hdocuments : ∀ d ∈ documents, d.key = key ∧ d.status = .pending ∨ d ∈ db.documents ∧ d.key ≠ key) :
    Keeps db { db with
      documents
      jobs := updateWhere (·.key = key) IndexJob.fallBehind db.jobs
      owed := key :: db.owed } := by
  have hold : ∀ other, other ≠ key → (documents.any fun d => d.key = other && d.status = .pending) = true →
      db.isPending other = true := by
    intro other hother hany
    obtain ⟨d, hd, hd'⟩ := List.any_eq_true.mp hany
    simp only [Bool.and_eq_true, decide_eq_true_eq] at hd'
    rcases hdocuments d hd with ⟨hkey, _⟩ | ⟨hd, _⟩
    · exact absurd (hd'.1.symm.trans hkey) hother
    · exact KnowledgeDb.isPending_iff.mpr ⟨d, hd, hd'.1, hd'.2⟩
  constructor
  · constructor
    · exact h.jobs.updateWhere fun j _ _ => .inr rfl
    · intro d hd hindexed
      rcases hdocuments d hd with ⟨_, hpending⟩ | ⟨hd, _⟩
      · rw [hindexed] at hpending
        cases hpending
      · exact h.current d hd hindexed
    · intro other hpending
      by_cases hother : other = key
      · exact .inl (hother ▸ List.mem_cons_self)
      · rcases h.pending other (hold other hother hpending) with howed | ⟨j, hj, hkey, hstate⟩
        · exact .inl (List.mem_cons_of_mem _ howed)
        · refine .inr ⟨j, mem_updateWhere_of_not hj ?_, hkey, hstate⟩
          simp [hkey, hother]
    · intro other hpending j' hj' hkey hactive hbehind
      by_cases hother : other = key
      · exact hother ▸ List.mem_cons_self
      · obtain ⟨j, hj, ⟨hsame, rfl⟩ | ⟨_, rfl⟩⟩ := mem_updateWhere hj'
        · exact absurd (hkey.symm.trans (of_decide_eq_true hsame)) hother
        · exact List.mem_cons_of_mem _ (h.behind other (hold other hother hpending) j' hj hkey hactive hbehind)
  · intro m hm
    cases m with
    | nothing => trivial
    | run other =>
      obtain ⟨htoken, hjobs⟩ := hm
      refine ⟨htoken, fun j' hj' hheld => ?_⟩
      obtain ⟨j, hj, ⟨hsame, rfl⟩ | ⟨hsame, rfl⟩⟩ := mem_updateWhere hj'
      · obtain ⟨hread, _⟩ := hjobs j hj hheld
        constructor
        · intro hphase
          rw [fallBehind_progress (hread hphase)]
          exact Progress.noConfusion
        · intro hphase _
          exact fallBehind_progress (hread (by simp [hphase]))
      · obtain ⟨hread, hover⟩ := hjobs j' hj hheld
        refine ⟨hread, fun hphase hpending => hover hphase (hold other ?_ hpending)⟩
        rintro rfl
        simp [(heldBy_iff.mp hheld).1] at hsame

theorem Keeps.settledDocument (h : db.Sound) (key : DocumentKey) (nextChunk : Nat)
    (hdocuments : ∀ d ∈ documents, d.key = key ∧ d.status ≠ .pending ∧
      (d.status = .indexed → IsCurrent { db with documents, chunks, nextChunk } d) ∨ d ∈ db.documents ∧ d.key ≠ key)
    (hchunks : ∀ other, other ≠ key → chunks.filter (·.key = other) = db.chunks.filter (·.key = other)) :
    Keeps db { db with documents, chunks, nextChunk } := by
  have hold : ∀ other, (documents.any fun d => d.key = other && d.status = .pending) = true →
      db.isPending other = true := by
    intro other hany
    obtain ⟨d, hd, hd'⟩ := List.any_eq_true.mp hany
    simp only [Bool.and_eq_true, decide_eq_true_eq] at hd'
    rcases hdocuments d hd with ⟨_, hsettled, _⟩ | ⟨hd, _⟩
    · exact absurd hd'.2 hsettled
    · exact KnowledgeDb.isPending_iff.mpr ⟨d, hd, hd'.1, hd'.2⟩
  constructor
  · constructor
    · exact h.jobs
    · intro d hd hindexed
      rcases hdocuments d hd with ⟨_, _, hcurrent⟩ | ⟨hd, hother⟩
      · exact hcurrent hindexed
      · obtain ⟨hcount, hsame⟩ := h.current d hd hindexed
        refine ⟨hcount, ?_⟩
        rw [← hsame]
        simp only [KnowledgeDb.chunksOf, hchunks d.key hother]
    · exact fun other hpending => h.pending other (hold other hpending)
    · exact fun other hpending => h.behind other (hold other hpending)
  · intro m hm
    cases m with
    | nothing => trivial
    | run other =>
      obtain ⟨htoken, hjobs⟩ := hm
      refine ⟨htoken, fun j hj hheld => ?_⟩
      obtain ⟨hread, hover⟩ := hjobs j hj hheld
      exact ⟨hread, fun hphase hpending => hover hphase (hold other hpending)⟩

theorem insert_keeps (h : db.Sound) (key : DocumentKey) (content : String) : Keeps db (db.insert key content).2 := by
  simp only [KnowledgeDb.insert]
  split
  · exact .refl h
  · split
    · exact .refl h
    · split
      · exact .refl h
      · rename_i hfresh
        apply Keeps.madePending h
        intro d hd
        rcases mem_snoc.mp hd with hd | rfl
        · refine .inr ⟨hd, fun hkey => hfresh ?_⟩
          exact List.any_eq_true.mpr ⟨d, hd, decide_eq_true (congrArg Prod.snd hkey)⟩
        · exact .inl ⟨rfl, rfl⟩

theorem edit_keeps (h : db.Sound) (key : DocumentKey) (content : Option String) : Keeps db (db.edit key content).2 := by
  simp only [KnowledgeDb.edit]
  split
  · exact .refl h
  · split
    · exact .refl h
    · apply Keeps.madePending h
      intro d' hd'
      obtain ⟨d, hd, ⟨hsame, rfl⟩ | ⟨hother, rfl⟩⟩ := mem_updateWhere hd'
      · exact .inl ⟨of_decide_eq_true hsame, rfl⟩
      · exact .inr ⟨hd, of_decide_eq_false hother⟩

theorem deleteDocument_keeps (h : db.Sound) (key : DocumentKey) : Keeps db (db.deleteDocument key).2 := by
  simp only [KnowledgeDb.deleteDocument]
  split
  · exact .refl h
  · split
    · exact .refl h
    · refine Keeps.settledDocument h key db.nextChunk (fun d hd => ?_) fun other hother => ?_
      · obtain ⟨hd, hkept⟩ := List.mem_filter.mp hd
        exact .inr ⟨hd, of_decide_eq_true hkept⟩
      · rw [List.filter_filter]
        apply List.filter_congr
        intro c _
        by_cases hc : c.key = other
        · simp [hc, hother]
        · simp [hc]

theorem recordFailure_keeps (h : db.Sound) (key : DocumentKey) : Keeps db (db.recordFailure key).2 := by
  simp only [KnowledgeDb.recordFailure]
  split
  · refine Keeps.settledDocument h key db.nextChunk (fun d' hd' => ?_) fun _ _ => rfl
    obtain ⟨d, hd, ⟨hsame, rfl⟩ | ⟨hother, rfl⟩⟩ := mem_updateWhere hd'
    · exact .inl ⟨of_decide_eq_true hsame, by simp, by simp⟩
    · exact .inr ⟨hd, of_decide_eq_false hother⟩
  · exact .refl h

theorem map_chunkRows (key : DocumentKey) (next : Nat) (chunks : List String) :
    (KnowledgeDb.chunkRows key next chunks).map (fun c => (c.ordinal, c.content)) =
      chunks.mapIdx fun ordinal content => (ordinal, content) := by
  apply List.ext_getElem
  · simp [KnowledgeDb.chunkRows]
  · intro i _ _
    simp [KnowledgeDb.chunkRows]

theorem chunkRows_key (hc : c ∈ KnowledgeDb.chunkRows key next chunks) : c.key = key := by
  obtain ⟨i, hi, rfl⟩ := List.mem_mapIdx.mp hc
  rfl

theorem commitIndex_keeps (h : db.Sound)
    (hcond : meetsIndexing db (.commit key content seen) = true) : Keeps db (db.commitIndex key content seen).2 := by
  simp only [KnowledgeDb.commitIndex]
  split
  · exact .refl h
  · rename_i hserviceable
    split
    · exact .refl h
    · rename_i hcollides
      have hmeets : (db.documents.all fun d => d.key ≠ key || chunkDocument d.content = chunkDocument content) = true ∧
          db.chunkIds key = seen := by
        have hactive : db.serviceable.contains key.1 = true := by simpa using hserviceable
        rw [Bool.not_eq_true] at hcollides
        simpa only [meetsIndexing, hactive, hcollides, Bool.not_true, Bool.false_or, Bool.and_eq_true,
          decide_eq_true_eq] using hcond
      obtain ⟨hcontent, hseen⟩ := hmeets
      have hrest : ∀ other, other ≠ key →
          (db.chunks.filter (fun c => !(c.key = key && seen.contains c.id)) ++
            KnowledgeDb.chunkRows key db.nextChunk (chunkDocument content)).filter (·.key = other) =
              db.chunks.filter (·.key = other) := by
        intro other hother
        have hnone : (KnowledgeDb.chunkRows key db.nextChunk (chunkDocument content)).filter (·.key = other) = [] := by
          apply List.filter_eq_nil_iff.mpr
          intro c hc
          simp [chunkRows_key hc, Ne.symm hother]
        rw [List.filter_append, hnone, List.append_nil, List.filter_filter]
        apply List.filter_congr
        intro c _
        by_cases hc : c.key = other
        · simp [hc, hother]
        · simp [hc]
      have hown : (db.chunks.filter (fun c => !(c.key = key && seen.contains c.id)) ++
            KnowledgeDb.chunkRows key db.nextChunk (chunkDocument content)).filter (·.key = key) =
              KnowledgeDb.chunkRows key db.nextChunk (chunkDocument content) := by
        have hall : (KnowledgeDb.chunkRows key db.nextChunk (chunkDocument content)).filter (·.key = key) =
            KnowledgeDb.chunkRows key db.nextChunk (chunkDocument content) := by
          apply List.filter_eq_self.mpr
          intro c hc
          simp [chunkRows_key hc]
        rw [List.filter_append, hall, List.filter_filter]
        -- Every earlier chunk of the document was among those that were deleted.
        have hgone : (db.chunks.filter fun c => c.key = key && !(c.key = key && seen.contains c.id)) = [] := by
          apply List.filter_eq_nil_iff.mpr
          intro c hc
          by_cases hkey : c.key = key
          · have hmem : c.id ∈ seen := by
              rw [← hseen]
              exact List.mem_map_of_mem (List.mem_filter.mpr ⟨hc, decide_eq_true hkey⟩)
            simp [hkey, hmem]
          · simp [hkey]
        rw [hgone, List.nil_append]
      refine Keeps.settledDocument h key _ (fun d' hd' => ?_) hrest
      obtain ⟨d, hd, ⟨hsame, rfl⟩ | ⟨hother, rfl⟩⟩ := mem_updateWhere hd'
      · have hkey := of_decide_eq_true hsame
        have hchunks : chunkDocument d.content = chunkDocument content := by
          simpa [hkey] using List.all_eq_true.mp hcontent d hd
        refine .inl ⟨hkey, by simp, fun _ => ⟨congrArg List.length hchunks.symm, ?_⟩⟩
        change (List.filter (fun c : KnowledgeChunk => c.key = d.key) _).map _ = _
        rw [hkey, hown, map_chunkRows, ← hchunks]
      · exact .inr ⟨hd, of_decide_eq_false hother⟩

theorem enqueue_keeps (h : db.Sound) (hcond : meetsIndexing db (.enqueue key) = true) : Keeps db (db.enqueue key) := by
  have hmeets : db.isPending key = true →
      (∃ j ∈ db.jobs, j.key = key ∧ j.willRead = true) ∨ db.redisUp = true ∧ db.jobs.any (·.key = key) = false := by
    intro hpending
    simpa [meetsIndexing, hpending] using hcond
  have hold : ∀ j ∈ db.jobs, j ∈ (db.enqueue key).jobs := by
    intro j hj
    simp only [KnowledgeDb.enqueue]
    split
    · exact List.mem_append_left _ hj
    · exact hj
  have hnew : ∀ j ∈ (db.enqueue key).jobs,
      j ∈ db.jobs ∨ j = { key } ∧ db.jobs.any (·.key = key) = false := by
    intro j hj
    simp only [KnowledgeDb.enqueue] at hj
    split at hj
    · rename_i hadds
      rcases mem_snoc.mp hj with hj | hj
      · exact .inl hj
      · exact .inr ⟨hj, by simpa using hadds.2⟩
    · exact .inl hj
  constructor
  · constructor
    · simp only [KnowledgeDb.enqueue]
      split
      · rename_i hadds
        apply h.jobs.concat
        rintro j hj ⟨_, hclash⟩
        simp only [Option.some.injEq] at hclash
        simp only [Bool.not_eq_true', List.any_eq_false, decide_eq_true_eq] at hadds
        exact hadds.2 j hj hclash
      · exact h.jobs
    · exact h.current
    · intro other hpending
      by_cases hother : other = key
      · subst hother
        right
        rcases hmeets hpending with ⟨j, hj, hkey, hwill⟩ | ⟨hup, hnone⟩
        · refine ⟨j, hold j hj, hkey, fun hfailed => ?_⟩
          simp [IndexJob.willRead, hfailed] at hwill
        · refine ⟨{ key := other }, ?_, rfl, by simp⟩
          simp [KnowledgeDb.enqueue, hup, hnone]
      · rcases h.pending other hpending with howed | ⟨j, hj, hrest⟩
        · exact .inl ((List.mem_erase_of_ne hother).mpr howed)
        · exact .inr ⟨j, hold j hj, hrest⟩
    · intro other hpending j hj hkey hactive hbehind
      have hj' : j ∈ db.jobs := (hnew j hj).resolve_right fun hnew => by simp [hnew.1] at hactive
      by_cases hother : other = key
      · subst hother
        rcases hmeets hpending with ⟨j₀, hj₀, hkey₀, hwill⟩ | ⟨_, hnone⟩
        · -- The one job of the document is yet to read it.
          have hsame : j₀ = j := h.jobs.eq_of_entry hj₀ hj' rfl (congrArg some (hkey.trans hkey₀.symm))
          simp [IndexJob.willRead, hsame, hactive, hbehind] at hwill
        · exact absurd hkey (by simpa using List.any_eq_false.mp hnone j hj')
      · exact (List.mem_erase_of_ne hother).mpr (h.behind other hpending j hj' hkey hactive hbehind)
  · intro m hm
    cases m with
    | nothing => trivial
    | run =>
      refine ⟨hm.1, fun j hj hheld => ?_⟩
      have hj' : j ∈ db.jobs := (hnew j hj).resolve_right fun hnew => by simp [hnew.1, IndexJob.heldBy] at hheld
      exact hm.2 j hj' hheld

theorem Keeps.released (h : db.Sound) (hunique : UniqueBy (fun j : IndexJob => some j.key) jobs)
    (hnew : ∀ j' ∈ jobs, j' ∈ db.jobs ∨ j'.state ≠ .active)
    (hold : ∀ j ∈ db.jobs, j.state ≠ .failed → (∃ j' ∈ jobs, j'.key = j.key ∧ j'.state ≠ .failed) ∨
      (db.isPending j.key = true → j.key ∈ db.owed)) : Keeps db { db with jobs } := by
  constructor
  · refine ⟨hunique, h.current, fun key hpending => ?_, fun key hpending j hj hkey hactive hbehind => ?_⟩
    · rcases h.pending key hpending with howed | ⟨j, hj, rfl, hstate⟩
      · exact .inl howed
      · rcases hold j hj hstate with hkept | howed
        · exact .inr hkept
        · exact .inl (howed hpending)
    · have hj' := (hnew j hj).resolve_right fun hnot => hnot hactive
      exact h.behind key hpending j hj' hkey hactive hbehind
  · intro m hm
    cases m with
    | nothing => trivial
    | run =>
      refine ⟨hm.1, fun j hj hheld => ?_⟩
      have hactive := (heldBy_iff.mp hheld).2.1
      exact hm.2 j ((hnew j hj).resolve_right fun hnot => hnot hactive) hheld

def AttemptResult.unrecorded : AttemptResult → Bool
  | .dropped recorded => !recorded
  | .threw recorded => !recorded
  | _ => false

theorem uniqueBy_filter (h : UniqueBy (fun j : IndexJob => some j.key) jobs)
    (p : IndexJob → Bool) : UniqueBy (fun j : IndexJob => some j.key) (jobs.filter p) :=
  List.Pairwise.filter p h

theorem settle_keeps (h : db.Sound) {result : AttemptResult} (hheld : (JobHold.run key token phase).holds db)
    (hphase : result.unrecorded = false → phase = .over)
    (hcond : meetsIndexing db (.settle key token result) = true) : Keeps db (db.settle key token result) := by
  have hover : phase = .over → ∀ j ∈ db.jobs, j.heldBy key token = true → db.isPending key = true → key ∈ db.owed := by
    intro hphase j hj hj' hpending
    obtain ⟨hkey, hactive, _⟩ := heldBy_iff.mp hj'
    exact h.behind key hpending j hj hkey hactive ((hheld.2 j hj hj').2 hphase hpending)
  have hremoved : (∀ j ∈ db.jobs, j.heldBy key token = true → db.isPending key = true → key ∈ db.owed) →
      Keeps db { db with jobs := db.jobs.filter fun j => !j.heldBy key token } := by
    intro howed
    apply Keeps.released h (uniqueBy_filter h.jobs _) fun j hj => .inl (List.mem_filter.mp hj).1
    intro j hj hstate
    cases hj' : j.heldBy key token with
    | false => exact .inl ⟨j, List.mem_filter.mpr ⟨hj, by simp [hj']⟩, rfl, hstate⟩
    | true =>
      right
      rw [(heldBy_iff.mp hj').1]
      exact howed j hj hj'
  have hfailed : (∀ j ∈ db.jobs, j.heldBy key token = true → aiIndexMaxAttempts ≤ j.attemptsMade + 1 →
      db.isPending key = true → key ∈ db.owed) →
      Keeps db { db with jobs := updateWhere (IndexJob.heldBy key token) IndexJob.fail db.jobs } := by
    intro howed
    refine Keeps.released h (h.jobs.updateWhere (f := IndexJob.fail) fun j _ _ => .inr rfl) ?_ ?_
    · intro j' hj'
      obtain ⟨j, hj, ⟨_, rfl⟩ | ⟨_, rfl⟩⟩ := mem_updateWhere hj'
      · right
        simp only [IndexJob.fail]
        split
        · exact IndexJobState.noConfusion
        · exact IndexJobState.noConfusion
      · exact .inl hj
    · intro j hj hstate
      cases hj' : j.heldBy key token with
      | false => exact .inl ⟨j, mem_updateWhere_of_not hj hj', rfl, hstate⟩
      | true =>
        by_cases hattempts : j.attemptsMade + 1 < aiIndexMaxAttempts
        · have hmem := mem_updateWhere_of_mem (p := IndexJob.heldBy key token) (f := IndexJob.fail) hj
          rw [if_pos hj'] at hmem
          exact .inl ⟨_, hmem, rfl, by simp [IndexJob.fail, hattempts]⟩
        · right
          rw [(heldBy_iff.mp hj').1]
          exact howed j hj hj' (Nat.le_of_not_lt hattempts)
  have hclear : ∀ p : IndexJob → Bool, (!db.jobs.any p || !db.isPending key) = true →
      ∀ j ∈ db.jobs, p j = true → db.isPending key = true → key ∈ db.owed := by
    intro p hp j hj hpj hpending
    have hany : db.jobs.any p = true := List.any_eq_true.mpr ⟨j, hj, hpj⟩
    rw [hany, hpending] at hp
    cases hp
  cases result with
  | indexed | skipped => exact hremoved (hover (hphase rfl))
  | dropped recorded =>
    cases recorded with
    | true => exact hremoved (hover (hphase rfl))
    | false => exact hremoved (hclear _ hcond)
  | threw recorded =>
    cases recorded with
    | true => exact hfailed fun j hj hj' _ => hover (hphase rfl) j hj hj'
    | false =>
      apply hfailed
      intro j hj hj' hattempts
      exact hclear _ hcond j hj (by simp [hj', hattempts])

def indexing : Ownership KnowledgeStmt KnowledgeDb JobHold where
  inv := KnowledgeDb.Sound
  holds := JobHold.holds
  apart := JobHold.apart
  cond tag db := meetsIndexing db tag = true
  effect _ _ _ := True

theorem indexing_sound : indexing.Sound .nothing where
  symm {m k} h := by
    cases m with
    | nothing => cases k <;> trivial
    | run =>
      cases k with
      | nothing => trivial
      | run => exact Ne.symm h
  start_holds _ := trivial
  start_apart k := trivial

theorem Keeps.yields (h : Keeps db db') {m m' : JobHold} (hm' : m'.holds db')
    (hapart : ∀ k, m.apart k → m'.apart k) : indexing.Yields m m' db db' where
  inv := h.sound
  holds := hm'
  others k hk hholds := ⟨hapart k hk, h.held k hholds⟩

theorem Keeps.idle (h : Keeps db db') : indexing.Yields .nothing .nothing db db' :=
  h.yields trivial fun _ hk => hk

theorem Keeps.letsGo (h : Keeps db db') (m : JobHold) : indexing.Yields m .nothing db db' :=
  h.yields trivial fun _ _ => trivial

theorem KnowledgeDb.Sound.updateJobs {p : IndexJob → Bool} {f : IndexJob → IndexJob} (h : db.Sound) (next : Nat)
    (hkey : ∀ j, (f j).key = j.key) (hstate : ∀ j, j.state ≠ .failed → (f j).state ≠ .failed)
    (hprogress : ∀ j, (f j).progress ≠ .behind) :
    KnowledgeDb.Sound { db with nextToken := next, jobs := updateWhere p f db.jobs } where
  jobs := h.jobs.updateWhere fun j _ _ => .inr (congrArg some (hkey j))
  current := h.current
  pending other hpending := by
    rcases h.pending other hpending with howed | ⟨j, hj, hother, hlive⟩
    · exact .inl howed
    · refine .inr ⟨_, mem_updateWhere_of_mem hj, ?_⟩
      split
      · exact ⟨(hkey j).trans hother, hstate j hlive⟩
      · exact ⟨hother, hlive⟩
  behind other hpending j' hj' hother hactive hbehind := by
    obtain ⟨j, hj, ⟨_, rfl⟩ | ⟨_, rfl⟩⟩ := mem_updateWhere hj'
    · exact absurd hbehind (hprogress j)
    · exact h.behind other hpending j' hj hother hactive hbehind

theorem take_yields (h : db.Sound) (htaken : (db.take key).1 = some token) : indexing.Yields .nothing (.run key token .taken) db (db.take key).2 := by
  simp only [KnowledgeDb.take] at htaken ⊢
  split at htaken
  · rename_i hany
    simp only [Option.some.injEq] at htaken
    subst htaken
    rw [if_pos hany]
    constructor
    · exact h.updateJobs _ (fun _ => rfl) (fun _ _ => IndexJobState.noConfusion) fun _ => Progress.noConfusion
    · exact ⟨Nat.lt_succ_self _, fun _ _ _ => ⟨fun hphase => absurd rfl hphase, by simp⟩⟩
    · intro m _ hm
      cases m with
      | nothing => exact ⟨trivial, trivial⟩
      | run =>
        obtain ⟨htoken, hjobs⟩ := hm
        refine ⟨Nat.ne_of_gt htoken, Nat.lt_succ_of_lt htoken, fun j' hj' hheld => ?_⟩
        obtain ⟨j, hj, ⟨_, rfl⟩ | ⟨_, rfl⟩⟩ := mem_updateWhere hj'
        · exact absurd (heldBy_iff.mp hheld).2.2 (Nat.ne_of_gt htoken)
        · exact hjobs j' hj hheld
  · cases htaken

theorem take_none (h : (db.take key).1 = none) : (db.take key).2 = db := by
  simp only [KnowledgeDb.take] at h ⊢
  split at h
  · cases h
  · rename_i hany
    rw [if_neg hany]

/-- An attempt that has found no document is done with it. -/
def Phase.found (content : Option String) : Phase := if content.isSome then .read else .over

theorem readContent_yields (h : db.Sound) (hheld : (JobHold.run key token .taken).holds db)
    (hread : (db.readContent key token).1 = .ok content) :
    indexing.Yields (.run key token .taken) (.run key token (.found content)) db (db.readContent key token).2 := by
  simp only [KnowledgeDb.readContent] at hread ⊢
  split at hread
  · rename_i hserviceable
    simp only [Except.ok.injEq] at hread
    rw [if_pos hserviceable]
    constructor
    · exact h.updateJobs _ (fun _ => rfl) (fun _ hlive => hlive) fun _ => Progress.noConfusion
    · refine ⟨hheld.1, fun j' hj' hj'' => ⟨fun _ => ?_, fun hphase hpending => ?_⟩⟩
      · obtain ⟨j, _, ⟨_, rfl⟩ | ⟨hnot, rfl⟩⟩ := mem_updateWhere hj'
        · exact Progress.noConfusion
        · rw [hj''] at hnot
          cases hnot
      · -- It found no document, so none is pending.
        obtain ⟨d, hd, hkey, _⟩ := KnowledgeDb.isPending_iff.mp hpending
        cases hfind : db.documents.find? (·.key = key) with
        | none => exact absurd hkey (by simpa using List.find?_eq_none.mp hfind d hd)
        | some =>
          rw [hfind] at hread
          simp [← hread, Phase.found] at hphase
    · intro m hapart hm
      cases m with
      | nothing => exact ⟨trivial, trivial⟩
      | run =>
        refine ⟨hapart, hm.1, fun j' hj' hheld' => ?_⟩
        obtain ⟨j, hj, ⟨hown, rfl⟩ | ⟨_, rfl⟩⟩ := mem_updateWhere hj'
        · have htoken := (heldBy_iff.mp hown).2.2
          exact absurd (htoken.symm.trans (heldBy_iff.mp hheld').2.2) hapart
        · exact hm.2 j' hj hheld'
  · cases hread

theorem readContent_error (h : (db.readContent key token).1 = .error error) : (db.readContent key token).2 = db := by
  simp only [KnowledgeDb.readContent] at h ⊢
  split at h
  · cases h
  · rename_i hserviceable
    rw [if_neg hserviceable]

theorem JobHold.holds_over (h : (JobHold.run key token .read).holds db)
    (hsettled : db.isPending key = false) : (JobHold.run key token .over).holds db := by
  refine ⟨h.1, fun j hj hheld => ⟨fun _ => (h.2 j hj hheld).1 Phase.noConfusion, fun _ hpending => ?_⟩⟩
  rw [hsettled] at hpending
  cases hpending

theorem isPending_updateWhere (hf : ∀ d, (f d).status ≠ .pending) :
    ((updateWhere (·.key = key) f db.documents).any fun d => d.key = key && d.status = .pending) = false := by
  apply List.any_eq_false.mpr
  intro d' hd' hpending
  simp only [Bool.and_eq_true, decide_eq_true_eq] at hpending
  obtain ⟨d, hd, ⟨_, rfl⟩ | ⟨hother, rfl⟩⟩ := mem_updateWhere hd'
  · exact hf d hpending.2
  · exact of_decide_eq_false hother hpending.1

theorem commitIndex_settles
    (h : (db.commitIndex key content seen).1 = .ok ()) : (db.commitIndex key content seen).2.isPending key = false := by
  simp only [KnowledgeDb.commitIndex] at h ⊢
  split at h
  · cases h
  · rename_i hserviceable
    rw [if_neg hserviceable]
    split at h
    · cases h
    · rename_i hcollides
      rw [if_neg hcollides]
      exact isPending_updateWhere (by simp)

theorem recordFailure_settles (h : (db.recordFailure key).1 = true) : (db.recordFailure key).2.isPending key = false := by
  simp only [KnowledgeDb.recordFailure] at h ⊢
  split at h
  · rename_i hserviceable
    rw [if_pos hserviceable]
    exact isPending_updateWhere (by simp)
  · cases h

def Ends (key : DocumentKey) (token : Nat) (m : JobHold) (result : AttemptResult) : Prop :=
  ∃ phase, m = .run key token phase ∧ (result.unrecorded = false → phase = .over)

theorem throwing_unrecorded (error : KnowledgeError) (recorded : Bool) :
    (throwing error recorded).unrecorded = !recorded := by
  cases error <;> rfl

theorem throwing_ends (key : DocumentKey) (token : Nat) (phase : Phase) (error : KnowledgeError) :
    Ends key token (.run key token phase) (throwing error false) :=
  ⟨phase, rfl, by simp [throwing_unrecorded]⟩

theorem recordFailure_owns (key : DocumentKey) (token : Nat) (error : KnowledgeError) (records : Bool) :
    (recordFailure key error records).Owns indexing (Ends key token) (.run key token .read) := by
  rw [recordFailure]
  split
  · intro s hinv hholds _
    refine ⟨trivial, ?_⟩
    have hkeeps := recordFailure_keeps hinv key
    have hread := hkeeps.held (.run key token .read) hholds
    cases hrecorded : (s.recordFailure key).1 with
    | true =>
      refine ⟨.run key token .over, hkeeps.yields ?_ ?_, ⟨.over, rfl, fun _ => rfl⟩⟩
      · exact JobHold.holds_over hread (recordFailure_settles hrecorded)
      · exact fun k hk => by cases k <;> exact hk
    | false => exact ⟨.run key token .read, hkeeps.yields hread fun _ hk => hk, throwing_ends _ _ _ _⟩
  · exact throwing_ends _ _ _ _

theorem index_owns (key : DocumentKey) (token : Nat) (fate : AttemptFate) :
    (index key token fate).Owns indexing (Ends key token) (.run key token .taken) := by
  rw [index]
  split
  · intro s hinv hholds _
    refine ⟨trivial, ?_⟩
    cases hread : (s.readContent key token).1 with
    | error =>
      refine ⟨.run key token .taken, ?_, throwing_ends _ _ _ _⟩
      rw [readContent_error hread]
      exact .same hinv hholds fun _ hk => hk
    | ok content =>
      refine ⟨_, readContent_yields hinv hholds hread, ?_⟩
      cases content with
      | none => exact ⟨.over, rfl, fun _ => rfl⟩
      | some content =>
        refine Prog.Owns.read (fun _ => trivial) fun s' _ _ => ?_
        split
        · intro s₁ hinv₁ hholds₁ hcond₁
          refine ⟨trivial, ?_⟩
          have hkeeps := commitIndex_keeps hinv₁ hcond₁
          have hstill := hkeeps.held (.run key token .read) hholds₁
          cases hcommitted : (s₁.commitIndex key content (s'.chunkIds key)).1 with
          | ok _ =>
            refine ⟨.run key token .over, hkeeps.yields ?_ ?_, ⟨.over, rfl, fun _ => rfl⟩⟩
            · exact JobHold.holds_over hstill (commitIndex_settles hcommitted)
            · exact fun k hk => by cases k <;> exact hk
          | error error =>
            exact ⟨.run key token .read, hkeeps.yields hstill fun _ hk => hk,
              recordFailure_owns key token error fate.records⟩
        · exact recordFailure_owns key token .database fate.records
  · exact ⟨.taken, rfl, fun h => by cases h⟩

theorem attempt_owns (key : DocumentKey) (fate : AttemptFate) :
    (attempt key fate).Owns indexing (fun _ _ => True) .nothing := by
  intro s hinv _ _
  refine ⟨trivial, ?_⟩
  cases htaken : (s.take key).1 with
  | none =>
    refine ⟨.nothing, ?_, trivial⟩
    rw [take_none htaken]
    exact (Keeps.refl hinv).idle
  | some token =>
    refine ⟨_, take_yields hinv htaken, (index_owns key token fate).bind ?_⟩
    rintro _ result ⟨phase, rfl, hphase⟩
    intro s' hinv' hholds' hcond'
    exact ⟨trivial, .nothing, (settle_keeps hinv' hholds' hphase hcond').letsGo _, trivial⟩

theorem whenIncluded_owns (tenantId : Uuid) {body : KnowledgeProg (Except KnowledgeError Unit)}
    (h : body.Owns indexing (fun _ _ => True) .nothing) :
    (whenIncluded tenantId body).Owns indexing (fun _ _ => True) .nothing := by
  refine Prog.Owns.read (fun _ => trivial) fun s _ _ => ?_
  split
  · exact h
  · trivial

theorem thenQueue_owns (key : DocumentKey) (tag : KnowledgeStmt)
    {write : KnowledgeDb → Except KnowledgeError Unit × KnowledgeDb}
    (hwrite : ∀ db, db.Sound → Keeps db (write db).2) :
    (thenQueue key tag write).Owns indexing (fun _ _ => True) .nothing := by
  intro s hinv _ _
  refine ⟨trivial, .nothing, (hwrite s hinv).idle, ?_⟩
  cases (write s).1 with
  | error => trivial
  | ok _ => exact fun s' hinv' _ hcond' => ⟨trivial, .nothing, (enqueue_keeps hinv' hcond').idle, trivial⟩

theorem jobs_idle (h : db.Sound) {p : IndexJob → Bool} (hp : ∀ j, p j = true → j.state = .failed) :
    Keeps db { db with jobs := db.jobs.filter fun j => !p j } := by
  apply Keeps.released h (uniqueBy_filter h.jobs _) fun j hj => .inl (List.mem_filter.mp hj).1
  intro j hj hstate
  cases hpj : p j with
  | false => exact .inl ⟨j, List.mem_filter.mpr ⟨hj, by simp [hpj]⟩, rfl, hstate⟩
  | true => exact absurd (hp j hpj) hstate

theorem retry_keeps (h : db.Sound) (key : DocumentKey) : Keeps db { db with
      jobs := updateWhere (fun j => j.key = key && j.state = .failed) ({ · with state := .waiting }) db.jobs } := by
  refine Keeps.released h (h.jobs.updateWhere (f := ({ · with state := .waiting })) fun j _ _ => .inr rfl) ?_ ?_
  · intro j' hj'
    obtain ⟨j, hj, ⟨_, rfl⟩ | ⟨_, rfl⟩⟩ := mem_updateWhere hj'
    · exact .inr IndexJobState.noConfusion
    · exact .inl hj
  · intro j hj hstate
    exact .inl ⟨j, mem_updateWhere_of_not hj (by simp [hstate]), rfl, hstate⟩

theorem abandon_keeps (h : db.Sound) (hcond : meetsIndexing db (.abandon key) = true) : Keeps db { db with
      jobs := updateWhere (fun j => j.key = key && j.state = .active) ({ · with state := .failed }) db.jobs } := by
  refine Keeps.released h (h.jobs.updateWhere (f := ({ · with state := .failed })) fun j _ _ => .inr rfl) ?_ ?_
  · intro j' hj'
    obtain ⟨j, hj, ⟨_, rfl⟩ | ⟨_, rfl⟩⟩ := mem_updateWhere hj'
    · exact .inr IndexJobState.noConfusion
    · exact .inl hj
  · intro j hj hstate
    by_cases hactive : j.key = key ∧ j.state = .active
    · right
      intro hpending
      have hany : (db.jobs.any fun j => j.key = key && j.state = .active) = true :=
        List.any_eq_true.mpr ⟨j, hj, by simp [hactive]⟩
      rw [hactive.1] at hpending
      simp only [meetsIndexing, hany, hpending] at hcond
      cases hcond
    · refine .inl ⟨j, mem_updateWhere_of_not hj ?_, rfl, hstate⟩
      simpa using hactive

theorem knowledgeProgram_owns (call : KnowledgeCall) :
    (knowledgeProgram call).Owns indexing (fun _ _ => True) .nothing := by
  have hend : ∀ {α : Type} {f : α → KnowledgeReply} {p : KnowledgeProg α},
      p.Owns indexing (fun _ _ => True) .nothing →
        (p.bind (.pure ∘ f)).Owns indexing (fun _ _ => True) .nothing :=
    fun h => h.bind fun _ _ _ => trivial
  have hsurroundings : ∀ {tag : KnowledgeStmt} {act : KnowledgeDb → KnowledgeReply × KnowledgeDb},
      (∀ db, db.Sound → meetsIndexing db tag = true → Keeps db (act db).2) →
        (Prog.stmt tag act).Owns indexing (fun _ _ => True) .nothing :=
    fun h s hinv _ hcond => ⟨trivial, .nothing, (h s hinv hcond).idle, trivial⟩
  cases call with
  | create key content =>
    exact hend (whenIncluded_owns key.1 (thenQueue_owns key _ fun db h => insert_keeps h key content))
  | update key content =>
    exact hend (whenIncluded_owns key.1 (thenQueue_owns key _ fun db h => edit_keeps h key (some content)))
  | reindex key => exact hend (whenIncluded_owns key.1 (thenQueue_owns key _ fun db h => edit_keeps h key none))
  | delete key =>
    refine hend (whenIncluded_owns key.1 fun s hinv _ _ => ?_)
    exact ⟨trivial, .nothing, (deleteDocument_keeps hinv key).idle, trivial⟩
  | attempt key fate => exact hend (attempt_owns key fate)
  | abandon => exact hsurroundings fun db h hcond => abandon_keeps h hcond
  | evict => exact hsurroundings fun db h _ => jobs_idle h (by simp)
  | retry key => exact hsurroundings fun db h _ => retry_keeps h key
  | advance | operate => exact hsurroundings fun db h _ => .same h rfl rfl rfl rfl rfl

def queues (key : DocumentKey) : KnowledgeStmt → Nat
  | .enqueue other => if other = key then 1 else 0
  | _ => 0

abbrev Unqueued {α : Type} (p : KnowledgeProg α) : Prop :=
  p.Within (fun _ => True) fun tag s s' => (∀ key, queues key tag = 0) ∧ s'.owed = s.owed

abbrev Tallies {α : Type} (key : DocumentKey) (p : KnowledgeProg α) : Prop :=
  p.Follows (fun _ => True) fun tag s q s' =>
    queues key tag ≤ s.owed.count key → s'.owed.count key + queues key tag = s.owed.count key + q.due (queues key)

theorem Unqueued.due (h : Unqueued p) (key : DocumentKey) : p.due (queues key) = 0 := by
  cases p with
  | pure => rfl
  | atomic => exact (h {} trivial).1.1 key

theorem Unqueued.tallies (h : Unqueued p) (key : DocumentKey) : Tallies key p := by
  induction p with
  | pure => trivial
  | atomic tag act next ih =>
    intro s _
    obtain ⟨⟨htag, howed⟩, hnext⟩ := h s trivial
    exact ⟨fun _ => by rw [howed, htag, Unqueued.due hnext], ih _ hnext⟩

theorem tallies_bind {β : Type} {f : α → KnowledgeProg β}
    (h : Tallies key p) (hf : ∀ a, Unqueued (f a)) : Tallies key (p.bind f) := by
  have hdue : ∀ q : KnowledgeProg α, (q.bind f).due (queues key) = q.due (queues key) := by
    intro q
    cases q with
    | pure a => exact (hf a).due key
    | atomic => rfl
  induction p with
  | pure a => exact (hf a).tallies key
  | atomic tag act next ih =>
    intro s hs
    obtain ⟨hcount, hnext⟩ := h s hs
    refine ⟨fun hle => ?_, ih _ hnext⟩
    rw [hdue]
    exact hcount hle

theorem quiet_stmt {act : KnowledgeDb → α × KnowledgeDb}
    (htag : ∀ key, queues key tag = 0) (howed : ∀ s, (act s).2.owed = s.owed) : Unqueued (.stmt tag act) :=
  Prog.Within.stmt fun s _ => ⟨htag, howed s⟩

theorem quiet_read (htag : ∀ key, queues key tag = 0) (f : KnowledgeDb → α) : Unqueued (.read tag f) :=
  quiet_stmt htag fun _ => rfl

theorem recordFailure_unqueued (key : DocumentKey) (error : KnowledgeError) (records : Bool) :
    Unqueued (recordFailure key error records) := by
  rw [recordFailure]
  split
  · refine Prog.Within.bind (quiet_stmt (fun _ => rfl) fun s => ?_) fun _ => trivial
    simp only [KnowledgeDb.recordFailure]
    split <;> rfl
  · trivial

theorem index_unqueued (key : DocumentKey) (token : Nat) (fate : AttemptFate) : Unqueued (index key token fate) := by
  rw [index]
  split
  · refine Prog.Within.bind (quiet_stmt (fun _ => rfl) fun s => ?_) fun found => ?_
    · simp only [KnowledgeDb.readContent]
      split <;> rfl
    · match found with
      | .error error => trivial
      | .ok none => trivial
      | .ok (some content) =>
        refine Prog.Within.bind (quiet_read (fun _ => rfl) _) fun seen => ?_
        split
        · refine Prog.Within.bind (quiet_stmt (fun _ => rfl) fun s => ?_) fun committed => ?_
          · simp only [KnowledgeDb.commitIndex]
            split
            · rfl
            · split <;> rfl
          · cases committed with
            | ok => trivial
            | error error => exact recordFailure_unqueued key error fate.records
        · exact recordFailure_unqueued key .database fate.records
  · trivial

theorem attempt_unqueued (key : DocumentKey) (fate : AttemptFate) : Unqueued (attempt key fate) := by
  refine Prog.Within.bind (quiet_stmt (fun _ => rfl) fun s => ?_) fun taken => ?_
  · simp only [KnowledgeDb.take]
    split <;> rfl
  · cases taken with
    | none => trivial
    | some token =>
      refine Prog.Within.bind (index_unqueued key token fate) fun result => ?_
      refine Prog.Within.bind (quiet_stmt (fun _ => rfl) fun s => ?_) fun _ => trivial
      cases result <;> rfl

theorem whenIncluded_tallies (key : DocumentKey) (tenantId : Uuid)
    (h : Tallies key body) (hdue : body.due (queues key) = 0) : Tallies key (whenIncluded tenantId body) := by
  intro s _
  simp only [Prog.bind_pure_left]
  cases s.included.contains tenantId with
  | true => exact ⟨fun _ => by simp [hdue, queues], h⟩
  | false => exact ⟨fun _ => by simp [queues], trivial⟩

theorem thenQueue_tallies (key other : DocumentKey) (htag : ∀ key, queues key tag = 0)
    {write : KnowledgeDb → Except KnowledgeError Unit × KnowledgeDb}
    (herror : ∀ s error, (write s).1 = .error error → (write s).2.owed = s.owed)
    (hok : ∀ s, (write s).1 = .ok () → (write s).2.owed = other :: s.owed) :
    Tallies key (thenQueue other tag write) := by
  intro s _
  cases hwritten : (write s).1 with
  | error error => exact ⟨fun _ => by simp [htag, herror s error hwritten], trivial⟩
  | ok _ =>
    constructor
    · intro _
      rw [hok s hwritten, htag]
      simp [queueIndexing, queues, List.count_cons]
    · intro s' _
      refine ⟨fun hle => ?_, trivial⟩
      simp only [queues] at hle ⊢
      by_cases hsame : other = key
      · subst hsame
        simp only [if_true] at hle ⊢
        simp only [KnowledgeDb.enqueue, List.count_erase_self, Prog.bind_pure_left, Prog.due_pure]
        omega
      · simp [KnowledgeDb.enqueue, hsame, List.count_erase_of_ne (Ne.symm hsame)]

theorem insert_owed (key : DocumentKey) (content : String) :
    (∀ error, (s.insert key content).1 = .error error → (s.insert key content).2.owed = s.owed) ∧
      ((s.insert key content).1 = .ok () → (s.insert key content).2.owed = key :: s.owed) := by
  simp only [KnowledgeDb.insert]
  split
  · simp
  · split
    · simp
    · split <;> simp

theorem edit_owed (key : DocumentKey) (content : Option String) :
    (∀ error, (s.edit key content).1 = .error error → (s.edit key content).2.owed = s.owed) ∧
      ((s.edit key content).1 = .ok () → (s.edit key content).2.owed = key :: s.owed) := by
  simp only [KnowledgeDb.edit]
  split
  · simp
  · split <;> simp

theorem deleteDocument_owed (key : DocumentKey) : (s.deleteDocument key).2.owed = s.owed := by
  simp only [KnowledgeDb.deleteDocument]
  split
  · rfl
  · split <;> rfl

theorem knowledgeProgram_tallies (key : DocumentKey) (call : KnowledgeCall) : Tallies key (knowledgeProgram call) := by
  have hedit : ∀ other content, Tallies key (thenQueue other (.edit other) (·.edit other content)) :=
    fun other content => thenQueue_tallies key other (fun _ => rfl) (fun s => (edit_owed s other content).1)
      fun s => (edit_owed s other content).2
  cases call with
  | create other content =>
    refine tallies_bind (whenIncluded_tallies key _ ?_ rfl) fun _ => trivial
    exact thenQueue_tallies key other (fun _ => rfl) (fun s => (insert_owed s other content).1)
      fun s => (insert_owed s other content).2
  | update other content => exact tallies_bind (whenIncluded_tallies key _ (hedit other content) rfl) fun _ => trivial
  | reindex other => exact tallies_bind (whenIncluded_tallies key _ (hedit other none) rfl) fun _ => trivial
  | delete other =>
    refine tallies_bind (whenIncluded_tallies key _ (Unqueued.tallies ?_ key) rfl) fun _ => trivial
    exact quiet_stmt (fun _ => rfl) fun s => deleteDocument_owed s other
  | attempt other fate => exact tallies_bind ((attempt_unqueued other fate).tallies key) fun _ => trivial
  | abandon | evict | retry | advance | operate => exact (quiet_stmt (fun _ => rfl) fun _ => rfl).tallies key

theorem knowledgeProgram_due (key : DocumentKey) (call : KnowledgeCall) :
    (knowledgeProgram call).due (queues key) = 0 := by
  cases call <;> rfl

theorem next_enqueue_of_owed {cond : KnowledgeSys → KnowledgeCall → KnowledgeStmt → Prop} (hdb : db.owed = []) {s : KnowledgeSys} (hs : Reachable knowledgeProgram cond (.idle db) s) (howed : key ∈ s.db.owed) : ∃ e ∈ s.calls, e.2.next? = some (.enqueue key) := by
  have hsum := Reachable.due (g := fun db => db.owed.count key) (knowledgeProgram_tallies key)
    (knowledgeProgram_due key) (by simp [hdb]) hs
  have hpos : 0 < (s.calls.map fun e => e.2.due (queues key)).sum := by
    rw [← hsum]
    exact List.count_pos_iff.mpr howed
  by_contra hnone
  push Not at hnone
  have hzero : (s.calls.map fun e => e.2.due (queues key)).sum = 0 := by
    apply List.sum_eq_zero
    intro n hn
    obtain ⟨e, he, rfl⟩ := List.mem_map.mp hn
    have hnext := hnone e he
    rw [Prog.due]
    cases htag : e.2.next? with
    | none => rfl
    | some tag =>
      cases tag with
      | enqueue other =>
        have hother : other ≠ key := by
          rintro rfl
          exact hnext htag
        simp [queues, hother]
      | _ => rfl
  omega

def indexingReaches (s : KnowledgeSys) (_ : KnowledgeCall) (tag : KnowledgeStmt) : Prop :=
  meetsIndexing s.db tag = true

structure IndexedFromContent (s : KnowledgeSys) : Prop where
  indexed : ∀ d ∈ s.db.documents, d.status = .indexed → IsCurrent s.db d
  pending : ∀ d ∈ s.db.documents, d.status = .pending →
    (∃ j ∈ s.db.jobs, j.key = d.key ∧ j.state ≠ .failed) ∨ ∃ e ∈ s.calls, e.2.next? = some (.enqueue d.key)

/-- Indexed means indexed from the current content, and what is made pending gets indexed, in every run whose indexes are
    committed from what is stored and whose queued jobs are yet to read it. -/
theorem indexed_means_current {db : KnowledgeDb} (hdb : db.Sound) (howed : db.owed = []) {s : KnowledgeSys}
    (hs : Reachable knowledgeProgram indexingReaches (.idle db) s) : IndexedFromContent s := by
  have hsound : s.db.Sound :=
    (Reachable.owned (Q := fun _ _ _ => True) indexing_sound knowledgeProgram_owns (fun _ _ _ hcond => hcond) hdb hs).inv
  refine ⟨hsound.current, fun d hd hstatus => ?_⟩
  have hpending : s.db.isPending d.key = true := KnowledgeDb.isPending_iff.mpr ⟨d, hd, rfl, hstatus⟩
  rcases hsound.pending d.key hpending with hqueued | hjob
  · exact .inr (next_enqueue_of_owed howed hs hqueued)
  · exact .inl hjob

def openingHours : KnowledgeDocument where
  id := 7
  tenantId := 1
  content := "Open on Monday"

def waitingDb : KnowledgeDb where
  serviceable := [1]
  documents := [openingHours]
  jobs := [{ key := (1, 7) }]

theorem waitingDb_sound : waitingDb.Sound where
  jobs := by decide +kernel
  current := by simp [waitingDb, openingHours]
  pending key hpending := by
    obtain ⟨d, hd, rfl, _⟩ := KnowledgeDb.isPending_iff.mp hpending
    rw [List.mem_singleton.mp hd]
    exact .inr ⟨_, List.mem_cons_self, rfl, IndexJobState.noConfusion⟩
  behind := by simp [waitingDb]

def indexedMoves : List (Move KnowledgeCall) :=
  [.spawn (.attempt (1, 7) {}), .step 0, .step 0, .step 0, .step 0, .step 0]

theorem indexed_means_current_opening_hours : ∃ s : KnowledgeSys,
    s.db.documents.map (fun d => (d.content, d.status)) = [("Open on Monday", .indexed)] ∧ IndexedFromContent s := by
  have hrun : (run knowledgeProgram (fun s _ tag => meetsIndexing s.db tag) indexedMoves (.idle waitingDb)).map
      (fun s => s.db.documents.map fun d => (d.content, d.status)) = some [("Open on Monday", .indexed)] := by
    decide +kernel
  obtain ⟨s, hs, hdocuments⟩ := Option.map_eq_some_iff.mp hrun
  exact ⟨s, hdocuments, indexed_means_current waitingDb_sound rfl (reachable_of_run hs)⟩

/-- The content is edited when the run of the job has read it; the edit's job is the one that is being run. -/
def editedMoves : List (Move KnowledgeCall) :=
  [.spawn (.attempt (1, 7) {}), .step 0, .step 0,
    .spawn (.update (1, 7) "Open on Tuesday"), .step 1, .step 1, .step 1, .step 0, .step 0, .step 0]

def failedDb : KnowledgeDb where
  serviceable := [1]
  included := [1]
  documents := [{ openingHours with status := .failed }]
  jobs := [{ key := (1, 7), state := .failed, attemptsMade := 3 }]

def reindexedMoves : List (Move KnowledgeCall) := [.spawn (.reindex (1, 7)), .step 0, .step 0, .step 0]

/-- A document is indexed from a content it no longer has, and one whose job has failed stays pending. -/
theorem indexed_from_earlier_content :
    (∃ s : KnowledgeSys, Reachable knowledgeProgram anyStep (.idle { waitingDb with included := [1] }) s ∧
      ∃ d ∈ s.db.documents, d.status = .indexed ∧ ¬ IsCurrent s.db d) ∧
    ∃ s : KnowledgeSys, Reachable knowledgeProgram anyStep (.idle failedDb) s ∧
      (∀ e ∈ s.calls, e.2.result?.isSome = true) ∧
      ∃ d ∈ s.db.documents, d.status = .pending ∧ ∀ j ∈ s.db.jobs, j.state = .failed := by
  constructor
  · have hrun : (run knowledgeProgram (fun _ _ _ => true) editedMoves (.idle { waitingDb with included := [1] })).map
        (fun s => s.db.documents.map fun d => (d.status, chunkDocument d.content, s.db.chunksOf d.key)) =
          some [(.indexed, ["Open on Tuesday"], [(0, "Open on Monday")])] := by
      decide +kernel
    obtain ⟨s, hs, hdocuments⟩ := Option.map_eq_some_iff.mp hrun
    obtain ⟨d, hd, hfields⟩ := List.map_eq_singleton_iff.mp hdocuments
    simp only [Prod.mk.injEq] at hfields
    obtain ⟨hstatus, hcontent, hchunks⟩ := hfields
    refine ⟨s, reachable_of_run_any hs, d, by rw [hd]; exact List.mem_cons_self, hstatus, fun hcurrent => ?_⟩
    have hsame := hcurrent.2
    rw [hcontent, hchunks] at hsame
    simp at hsame
  · have hrun : (run knowledgeProgram (fun _ _ _ => true) reindexedMoves (.idle failedDb)).map
        (fun s => (s.calls.all (·.2.result?.isSome), s.db.documents.map (·.status), s.db.jobs.all (·.state = .failed))) =
          some (true, [.pending], true) := by
      decide +kernel
    obtain ⟨s, hs, heq⟩ := Option.map_eq_some_iff.mp hrun
    simp only [Prod.mk.injEq] at heq
    obtain ⟨hfinished, hstatus, hfailed⟩ := heq
    obtain ⟨d, hd, hpending⟩ := List.map_eq_singleton_iff.mp hstatus
    refine ⟨s, reachable_of_run_any hs, fun e he => List.all_eq_true.mp hfinished e he, d, ?_, hpending, fun j hj => ?_⟩
    · rw [hd]
      exact List.mem_cons_self
    · exact of_decide_eq_true (List.all_eq_true.mp hfailed j hj)

end WhatsappCrm.Ai
