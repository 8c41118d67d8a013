/-
Purpose: A tenant's logo and favicon: replacing and removing them, with the bytes in one store and their key in another.
-/
import WhatsappCrm.Lib.Ownership
import WhatsappCrm.Tickets.Contract

namespace WhatsappCrm.Tenancy

open Interleaving

inductive BrandingAssetKind where
  | logo | favicon
deriving DecidableEq

def BrandingAssetKind.other : BrandingAssetKind → BrandingAssetKind
  | .logo => .favicon
  | .favicon => .logo

structure BrandingAssetLimits where
  maxBytes : Nat
  mimeTypes : List String

def brandingAssetLimits : BrandingAssetKind → BrandingAssetLimits
  | .logo => { maxBytes := 512 * 1024, mimeTypes := ["image/png", "image/jpeg", "image/webp"] }
  | .favicon => { maxBytes := 64 * 1024, mimeTypes := ["image/png", "image/x-icon"] }

/-- An object key is the number of its random draw: no two draws are alike. -/
abbrev StorageKey := Nat

structure StoredAsset where
  key : StorageKey
  mimeType : String
  sizeBytes : Nat
  updatedAt : Millis

structure AssetColumns where
  storageKey : Option StorageKey := none
  mimeType : Option String := none
  sizeBytes : Option Nat := none
  updatedAt : Option Millis := none

structure BrandingRow where
  logo : AssetColumns := {}
  favicon : AssetColumns := {}

def BrandingRow.columns (row : BrandingRow) : BrandingAssetKind → AssetColumns
  | .logo => row.logo
  | .favicon => row.favicon

def BrandingRow.assign (row : BrandingRow) (kind : BrandingAssetKind) (columns : AssetColumns) : BrandingRow :=
  match kind with
  | .logo => { row with logo := columns }
  | .favicon => { row with favicon := columns }

def assetColumns (asset : Option StoredAsset) : AssetColumns where
  storageKey := asset.map (·.key)
  mimeType := asset.map (·.mimeType)
  sizeBytes := asset.map (·.sizeBytes)
  updatedAt := asset.map (·.updatedAt)

structure BrandingDb where
  row : Option BrandingRow := none
  objects : List StorageKey := []
  nextKey : StorageKey := 0
  replaced : List (BrandingAssetKind × StoredAsset) := []

def BrandingDb.columns (db : BrandingDb) (kind : BrandingAssetKind) : AssetColumns := (db.row.getD {}).columns kind

def BrandingDb.keyOf (db : BrandingDb) (kind : BrandingAssetKind) : Option StorageKey := (db.columns kind).storageKey

def storedAsset (row : Option BrandingRow) (kind : BrandingAssetKind) : Option StoredAsset :=
  match (row.getD {}).columns kind with
  | ⟨some key, some mimeType, some sizeBytes, some updatedAt⟩ => some { key, mimeType, sizeBytes, updatedAt }
  | _ => none

inductive BrandingError where
  | assetTooLarge (kind : BrandingAssetKind) (maxBytes : Nat)
  | assetTypeUnsupported (kind : BrandingAssetKind) (mimeTypes : List String)
  | storage
  | database

inductive BrandingStmt where
  | row | putStream | upsert | updateMany | delete

/-- Which of a call's statements fail. A failed write of the row did not commit. -/
structure BrandingFaults where
  put : Bool := false
  write : Bool := false
  delete : Bool := false

abbrev BrandingProg := Prog BrandingStmt BrandingDb (Except BrandingError Unit)

/-- A failed delete is logged, and no more. -/
def discard (key : StorageKey) (faults : BrandingFaults) (next : BrandingProg) : BrandingProg :=
  .atomic .delete (fun db => ((), if faults.delete then db else { db with objects := db.objects.filter (· ≠ key) }))
    fun () => next

/-- `randomUUID()` and `putStream`. -/
def putStream (faults : BrandingFaults) (db : BrandingDb) : Option StorageKey × BrandingDb :=
  if faults.put then (none, { db with nextKey := db.nextKey + 1 })
  else (some db.nextKey, { db with nextKey := db.nextKey + 1, objects := db.objects ++ [db.nextKey] })

def upsertAsset (kind : BrandingAssetKind) (asset : StoredAsset) (faults : BrandingFaults) (db : BrandingDb) :
    Bool × BrandingDb :=
  if faults.write then (false, db)
  else (true, { db with
    row := some ((db.row.getD {}).assign kind (assetColumns (some asset))), replaced := db.replaced ++ [(kind, asset)] })

def clearAsset (kind : BrandingAssetKind) (faults : BrandingFaults) (db : BrandingDb) : Bool × BrandingDb :=
  if faults.write then (false, db) else (true, { db with row := db.row.map (·.assign kind (assetColumns none)) })

/-- The upload: its size, and what `sniffBrandingImageType` makes of its first bytes. -/
structure BrandingUpload where
  byteLength : Nat
  sniffed : Option String

def replaceAsset (kind : BrandingAssetKind) (upload : BrandingUpload) (now : Millis) (faults : BrandingFaults) : BrandingProg :=
  let limits := brandingAssetLimits kind
  if limits.maxBytes < upload.byteLength then .pure (.error (.assetTooLarge kind limits.maxBytes))
  else
    match upload.sniffed.filter limits.mimeTypes.contains with
    | none => .pure (.error (.assetTypeUnsupported kind limits.mimeTypes))
    | some mimeType =>
      .atomic .row (fun db => (storedAsset db.row kind, db)) fun previous =>
      .atomic .putStream (putStream faults) fun key =>
      match key with
      | none => .pure (.error .storage)
      | some key =>
        .atomic .upsert (upsertAsset kind { key, mimeType, sizeBytes := upload.byteLength, updatedAt := now } faults)
          fun committed =>
          if committed then
            match previous with
            | none => .pure (.ok ())
            | some previous => discard previous.key faults (.pure (.ok ()))
          else discard key faults (.pure (.error .database))

def removeAsset (kind : BrandingAssetKind) (faults : BrandingFaults) : BrandingProg :=
  .atomic .row (fun db => (storedAsset db.row kind, db)) fun previous =>
  match previous with
  | none => .pure (.ok ())
  | some previous =>
    .atomic .updateMany (clearAsset kind faults) fun committed =>
    if committed then discard previous.key faults (.pure (.ok ())) else .pure (.error .database)

inductive BrandingCall where
  | replace (kind : BrandingAssetKind) (upload : BrandingUpload) (now : Millis) (faults : BrandingFaults)
  | remove (kind : BrandingAssetKind) (faults : BrandingFaults)

def BrandingCall.kind : BrandingCall → BrandingAssetKind
  | .replace kind .. => kind
  | .remove kind _ => kind

def brandingProgram : BrandingCall → BrandingProg
  | .replace kind upload now faults => replaceAsset kind upload now faults
  | .remove kind faults => removeAsset kind faults

structure BrandingDb.Sound (db : BrandingDb) : Prop where
  columns : ∀ kind, db.columns kind = {} ∨ ∃ asset, (kind, asset) ∈ db.replaced ∧ db.columns kind = assetColumns (some asset)
  written : ∀ kind key, db.keyOf kind = some key → key ∈ db.objects ∧ key < db.nextKey
  distinct : ∀ kind key, db.keyOf kind = some key → db.keyOf kind.other ≠ some key

/-- The keys a call has in hand: the one it wrote bytes under that no row names, the one it read, and the one no row will
name again. -/
structure Held where
  staged : Option StorageKey := none
  seen : Option (BrandingAssetKind × StorageKey) := none
  dead : Option StorageKey := none

def Held.Has (m : Held) (key : StorageKey) : Prop := m.staged = some key ∨ (∃ kind, m.seen = some (kind, key)) ∨ m.dead = some key

structure Held.Holds (m : Held) (db : BrandingDb) : Prop where
  drawn : ∀ key, m.Has key → key < db.nextKey
  objects : ∀ key, m.staged = some key → key ∈ db.objects
  unnamed : ∀ key, m.staged = some key ∨ m.dead = some key → ∀ kind, db.keyOf kind ≠ some key
  seen : ∀ kind key, m.seen = some (kind, key) → db.keyOf kind.other ≠ some key ∧ m.staged ≠ some key

def Held.Apart (m k : Held) : Prop := (∀ key, m.staged = some key → ¬k.Has key) ∧ ∀ key, k.staged = some key → ¬m.Has key

def brandingOwnership : Ownership BrandingStmt BrandingDb Held where
  inv := BrandingDb.Sound
  holds := Held.Holds
  apart := Held.Apart
  cond _ _ := True
  effect _ _ _ := True

theorem not_has_empty (key : StorageKey) : ¬({} : Held).Has key := by simp [Held.Has]

theorem holds_empty (db : BrandingDb) : ({} : Held).Holds db :=
  ⟨fun key h => (not_has_empty key h).elim, nofun, fun _ h => h.elim nofun nofun, nofun⟩

theorem brandingOwnership_sound : brandingOwnership.Sound {} where
  symm h := ⟨h.2, h.1⟩
  start_holds _ := holds_empty _
  start_apart _ := ⟨nofun, fun key _ => not_has_empty key⟩

/-- A statement touches what its call has staged and objects it has in hand; a key that is new to the call was named by the
row or never drawn. -/
theorem yields (hinv : db'.Sound) (hholds : m'.Holds db') (hnext : db.nextKey ≤ db'.nextKey)
    (hobjects : ∀ key ∈ db.objects, key ∈ db'.objects ∨ m.Has key)
    (hnames : ∀ kind key, db'.keyOf kind = some key → db.keyOf kind = some key ∨ m.staged = some key)
    (hkeys : ∀ key, m'.Has key → m.Has key ∨ db.nextKey ≤ key ∨ ∃ kind, db.keyOf kind = some key)
    (hstaged : ∀ key, m'.staged = some key → m.staged = some key ∨ db.nextKey ≤ key) :
    brandingOwnership.Yields m m' db db' := by
  refine ⟨hinv, hholds, fun k (hapart : m.Apart k) (hk : k.Holds db) => ⟨⟨?_, ?_⟩, ?_⟩⟩
  · intro key hkey hmem
    rcases hstaged key hkey with hold | hfresh
    · exact hapart.1 key hold hmem
    · exact absurd (hk.drawn key hmem) (Nat.not_lt.mpr hfresh)
  · intro key hkey hmem
    rcases hkeys key hmem with hold | hfresh | ⟨kind, hnamed⟩
    · exact hapart.2 key hkey hold
    · exact absurd (hk.drawn key (.inl hkey)) (Nat.not_lt.mpr hfresh)
    · exact hk.unnamed key (.inl hkey) kind hnamed
  · have hfree : ∀ kind key, k.Has key → db.keyOf kind ≠ some key → db'.keyOf kind ≠ some key := by
      intro kind key hkey hold hnamed
      exact (hnames kind key hnamed).elim hold fun hmine => hapart.1 key hmine hkey
    refine ⟨fun key hkey => Nat.lt_of_lt_of_le (hk.drawn key hkey) hnext, ?_, ?_, ?_⟩
    · intro key hkey
      exact (hobjects key (hk.objects key hkey)).resolve_right (hapart.2 key hkey)
    · intro key hkey kind
      exact hfree kind key (hkey.imp_right .inr) (hk.unnamed key hkey kind)
    · intro kind key hkey
      exact ⟨hfree kind.other key (.inr (.inl ⟨kind, hkey⟩)) (hk.seen kind key hkey).1, (hk.seen kind key hkey).2⟩

theorem storedAsset_key {db : BrandingDb} (h : storedAsset db.row kind = some asset) : db.keyOf kind = some asset.key := by
  unfold storedAsset at h
  split at h
  · rename_i hcolumns
    cases h
    exact congrArg AssetColumns.storageKey hcolumns
  · cases h

def seenOf (kind : BrandingAssetKind) (previous : Option StoredAsset) : Held := { seen := previous.map fun a => (kind, a.key) }

theorem row_yields (hdb : db.Sound) (kind : BrandingAssetKind) :
    brandingOwnership.Yields {} (seenOf kind (storedAsset db.row kind)) db db := by
  have hseen : ∀ k key, (storedAsset db.row kind).map (fun a => (kind, a.key)) = some (k, key) →
      kind = k ∧ db.keyOf kind = some key := by
    intro k key hkey
    obtain ⟨asset, hasset, heq⟩ := Option.map_eq_some_iff.mp hkey
    cases heq
    exact ⟨rfl, storedAsset_key hasset⟩
  have hhas : ∀ key, (seenOf kind (storedAsset db.row kind)).Has key → db.keyOf kind = some key := by
    rintro key (h | ⟨k, h⟩ | h)
    · cases h
    · exact (hseen k key h).2
    · cases h
  refine yields hdb ⟨fun key hkey => (hdb.written kind key (hhas key hkey)).2, nofun, fun _ h => h.elim nofun nofun, ?_⟩
    (Nat.le_refl _) (fun _ => .inl) (fun _ _ => .inl) (fun key hkey => .inr (.inr ⟨kind, hhas key hkey⟩)) nofun
  intro k key hkey
  obtain ⟨rfl, hnamed⟩ := hseen k key hkey
  exact ⟨hdb.distinct _ key hnamed, nofun⟩

theorem putStream_yields (hdb : db.Sound) (hm : Held.Holds { seen } db) (faults : BrandingFaults) :
    brandingOwnership.Yields { seen } { staged := (putStream faults db).1, seen } db (putStream faults db).2 := by
  unfold putStream
  split
  · refine yields ⟨hdb.columns, fun kind key h => ?_, hdb.distinct⟩ ⟨fun key hkey => ?_, hm.objects, hm.unnamed, hm.seen⟩
      (Nat.le_succ _) (fun _ => .inl) (fun _ _ => .inl) (fun _ => .inl) (fun _ => .inl)
    · exact ⟨(hdb.written kind key h).1, Nat.lt_succ_of_lt (hdb.written kind key h).2⟩
    · exact Nat.lt_succ_of_lt (hm.drawn key hkey)
  · have hdrawn : ∀ kind, db.keyOf kind ≠ some db.nextKey := fun kind h => Nat.lt_irrefl _ (hdb.written kind _ h).2
    refine yields ⟨hdb.columns, fun kind key h => ?_, hdb.distinct⟩ ⟨?_, ?_, ?_, ?_⟩ (Nat.le_succ _)
      (fun key hkey => .inl (List.mem_append_left _ hkey)) (fun _ _ => .inl) ?_ ?_
    · exact ⟨List.mem_append_left _ (hdb.written kind key h).1, Nat.lt_succ_of_lt (hdb.written kind key h).2⟩
    · rintro key (h | h)
      · cases h
        exact Nat.lt_succ_self _
      · exact Nat.lt_succ_of_lt (hm.drawn key (.inr h))
    · intro key h
      cases h
      exact List.mem_append_right _ List.mem_cons_self
    · rintro key (h | h)
      · cases h
        exact hdrawn
      · cases h
    · intro kind key hkey
      refine ⟨(hm.seen kind key hkey).1, fun h => ?_⟩
      cases h
      exact Nat.lt_irrefl _ (hm.drawn _ (.inr (.inl ⟨kind, hkey⟩)))
    · rintro key (h | h)
      · exact .inr (.inl (Nat.le_of_eq (Option.some.inj h)))
      · exact .inl (.inr h)
    · intro key h
      exact .inr (Nat.le_of_eq (Option.some.inj h))

theorem eq_other {kind : BrandingAssetKind} (h : k ≠ kind) : k = kind.other := by cases k <;> cases kind <;> first | rfl | exact absurd rfl h

/-- A write of the row: the key it names was the call's own, and the one it read is named no more. -/
theorem assign_yields (asset : Option StoredAsset) (hdb : db.Sound)
    (hm : Held.Holds { staged := asset.map (·.key), seen := (seenOf kind previous).seen } db)
    (hcolumns : ∀ k, db'.columns k = if k = kind then assetColumns asset else db.columns k)
    (hobjects : db'.objects = db.objects) (hnext : db'.nextKey = db.nextKey)
    (hreplaced : db'.replaced = db.replaced ++ asset.toList.map (kind, ·)) :
    brandingOwnership.Yields { staged := asset.map (·.key), seen := (seenOf kind previous).seen }
      { dead := previous.map (·.key) } db db' := by
  have hkind : db'.keyOf kind = asset.map (·.key) := by
    rw [BrandingDb.keyOf, hcolumns, if_pos rfl]
    rfl
  have hother : ∀ k, k ≠ kind → db'.keyOf k = db.keyOf k := by
    intro k hk
    rw [BrandingDb.keyOf, hcolumns, if_neg hk]
    rfl
  have hnames : ∀ k key, db'.keyOf k = some key → (k = kind ∧ asset.map (·.key) = some key) ∨ db.keyOf k = some key := by
    intro k key hkey
    by_cases hk : k = kind
    · exact .inl ⟨hk, hkind ▸ hk ▸ hkey⟩
    · exact .inr (hother k hk ▸ hkey)
  have hread : ∀ key, previous.map (·.key) = some key → (seenOf kind previous).seen = some (kind, key) := by
    intro key hkey
    obtain ⟨a, rfl, rfl⟩ := Option.map_eq_some_iff.mp hkey
    rfl
  have hdead : ∀ key, ({ dead := previous.map (·.key) } : Held).Has key → (seenOf kind previous).seen = some (kind, key) := by
    rintro key (h | ⟨_, h⟩ | h)
    · cases h
    · cases h
    · exact hread key h
  refine yields ⟨?_, ?_, ?_⟩ ⟨?_, nofun, ?_, nofun⟩ (Nat.le_of_eq hnext.symm) (fun key hkey => .inl (hobjects ▸ hkey)) ?_
    (fun key hkey => .inl (.inr (.inl ⟨kind, hdead key hkey⟩))) nofun
  · intro k
    rw [hcolumns]
    split
    · subst k
      cases asset with
      | none => exact .inl rfl
      | some a => exact .inr ⟨a, hreplaced ▸ List.mem_concat_self, rfl⟩
    · exact (hdb.columns k).imp_right fun ⟨a, ha, h⟩ => ⟨a, hreplaced ▸ List.mem_append_left _ ha, h⟩
  · intro k key hkey
    rw [hobjects, hnext]
    rcases hnames k key hkey with ⟨-, hmine⟩ | hold
    · exact ⟨hm.objects key hmine, hm.drawn key (.inl hmine)⟩
    · exact hdb.written k key hold
  · intro k key hkey hsame
    rcases hnames k key hkey with ⟨rfl, hmine⟩ | hold
    · rw [hother _ (by cases k <;> nofun)] at hsame
      exact hm.unnamed key (.inl hmine) _ hsame
    · rcases hnames _ key hsame with ⟨-, hmine⟩ | hold'
      · exact hm.unnamed key (.inl hmine) k hold
      · exact hdb.distinct k key hold hold'
  · intro key hkey
    rw [hnext]
    exact hm.drawn key (.inr (.inl ⟨kind, hdead key hkey⟩))
  · intro key hkey k hnamed
    have hp := hm.seen kind key (hread key (hkey.resolve_left nofun))
    by_cases hk : k = kind
    · exact hp.2 (hkind ▸ hk ▸ hnamed)
    · exact hp.1 (eq_other hk ▸ hother k hk ▸ hnamed)
  · intro k key hnamed
    exact (hnames k key hnamed).symm.imp_right (·.2)

theorem discard_owns (key : StorageKey) (faults : BrandingFaults) (answer : Except BrandingError Unit) :
    (discard key faults (.pure answer)).Owns brandingOwnership (fun _ _ => True) { dead := some key } := by
  intro db (hdb : db.Sound) hm _
  refine ⟨trivial, {}, ?_, trivial⟩
  have hkey : ∀ kind, db.keyOf kind ≠ some key := hm.unnamed key (.inr rfl)
  have hnone : ∀ k, ({} : Held).Has k → ({ dead := some key } : Held).Has k ∨ db.nextKey ≤ k ∨ ∃ kind, db.keyOf kind = some k :=
    fun k h => (not_has_empty k h).elim
  split
  · exact yields hdb (holds_empty db) (Nat.le_refl _) (fun _ => .inl) (fun _ _ => .inl) hnone nofun
  · refine yields ⟨hdb.columns, fun kind k h => ⟨?_, (hdb.written kind k h).2⟩, hdb.distinct⟩ (holds_empty _)
      (Nat.le_refl _) (fun k hk => ?_) (fun _ _ => .inl) hnone nofun
    · have hne : k ≠ key := fun heq => hkey kind (heq ▸ h)
      simpa [hne] using (hdb.written kind k h).1
    · by_cases heq : k = key
      · exact .inr (.inr (.inr (congrArg some heq.symm)))
      · exact .inl (by simpa [heq] using hk)

theorem columns_assign (row : BrandingRow) (kind k : BrandingAssetKind) (columns : AssetColumns) :
    (row.assign kind columns).columns k = if k = kind then columns else row.columns k := by
  cases kind <;> cases k <;> rfl

theorem columns_upsert (faults : BrandingFaults) (db : BrandingDb) (kind : BrandingAssetKind) (asset : StoredAsset) (k : BrandingAssetKind) :
    (upsertAsset kind asset faults db).2.columns k =
      if (upsertAsset kind asset faults db).1 ∧ k = kind then assetColumns (some asset) else db.columns k := by
  unfold upsertAsset
  split
  · simp
  · simp [BrandingDb.columns, columns_assign]

theorem columns_clear (faults : BrandingFaults) (db : BrandingDb) (kind k : BrandingAssetKind) :
    (clearAsset kind faults db).2.columns k =
      if (clearAsset kind faults db).1 ∧ k = kind then assetColumns none else db.columns k := by
  unfold clearAsset
  split
  · simp
  · cases hrow : db.row with
    | none => cases k <;> simp [BrandingDb.columns, hrow, BrandingRow.columns, assetColumns]
    | some => simp [BrandingDb.columns, hrow, columns_assign]

theorem replaceAsset_owns (kind : BrandingAssetKind) (upload : BrandingUpload) (now : Millis) (faults : BrandingFaults) :
    (replaceAsset kind upload now faults).Owns brandingOwnership (fun _ _ => True) {} := by
  unfold replaceAsset
  dsimp only
  split
  · trivial
  split
  · trivial
  rename_i mimeType _
  intro db (hdb : db.Sound) _ _
  refine ⟨trivial, seenOf kind (storedAsset db.row kind), row_yields hdb kind, ?_⟩
  dsimp only
  generalize storedAsset db.row kind = previous
  intro db (hdb : db.Sound) hm _
  refine ⟨trivial, _, putStream_yields hdb hm faults, ?_⟩
  generalize (putStream faults db).1 = drawn
  cases drawn with
  | none => trivial
  | some key =>
    intro db (hdb : db.Sound) hm _
    have hcolumns := columns_upsert faults db kind { key, mimeType, sizeBytes := upload.byteLength, updatedAt := now }
    unfold upsertAsset at hcolumns ⊢
    dsimp only at hcolumns ⊢
    split at hcolumns
    · rename_i hfault
      rw [if_pos hfault]
      refine ⟨trivial, { dead := some key }, ?_, discard_owns key faults _⟩
      have hmine : ∀ k, ({ dead := some key } : Held).Has k → some key = some k := fun k h => by simpa [Held.Has] using h
      exact yields hdb ⟨fun k hk => hm.drawn k (.inl (hmine k hk)), nofun, fun k hk => hm.unnamed k (.inl (hk.resolve_left nofun)),
        nofun⟩ (Nat.le_refl _) (fun _ => .inl) (fun _ _ => .inl) (fun k hk => .inl (.inl (hmine k hk))) nofun
    · rename_i hfault
      rw [if_neg hfault]
      refine ⟨trivial, { dead := previous.map (·.key) }, ?_, ?_⟩
      · let asset : StoredAsset := { key, mimeType, sizeBytes := upload.byteLength, updatedAt := now }
        exact assign_yields (some asset) hdb hm (fun k => by simpa [asset] using hcolumns k) rfl rfl rfl
      · rw [if_pos rfl]
        cases previous with
        | none => trivial
        | some previous => exact discard_owns previous.key faults _

theorem removeAsset_owns (kind : BrandingAssetKind) (faults : BrandingFaults) :
    (removeAsset kind faults).Owns brandingOwnership (fun _ _ => True) {} := by
  intro db (hdb : db.Sound) _ _
  refine ⟨trivial, seenOf kind (storedAsset db.row kind), row_yields hdb kind, ?_⟩
  dsimp only
  generalize storedAsset db.row kind = previous
  cases previous with
  | none => trivial
  | some previous =>
    intro db (hdb : db.Sound) (hm : Held.Holds { seen := (seenOf kind (some previous)).seen } db) _
    have hcolumns := columns_clear faults db kind
    unfold clearAsset at hcolumns ⊢
    split at hcolumns
    · rename_i hfault
      rw [if_pos hfault]
      exact ⟨trivial, _, .same hdb hm fun _ hk => hk, trivial⟩
    · rename_i hfault
      rw [if_neg hfault]
      refine ⟨trivial, { dead := some previous.key }, ?_, discard_owns previous.key faults _⟩
      exact assign_yields none hdb hm (fun k => by simpa using hcolumns k) rfl rfl (List.append_nil _).symm

def KeepsOther (kind : BrandingAssetKind) (db db' : BrandingDb) : Prop := ∀ k, k ≠ kind → db'.columns k = db.columns k

theorem discard_within (key : StorageKey) (faults : BrandingFaults) (kind : BrandingAssetKind) (answer : Except BrandingError Unit) :
    (discard key faults (.pure answer)).Within (fun _ => True) fun _ => KeepsOther kind := by
  intro db _
  refine ⟨fun k _ => ?_, trivial⟩
  split <;> rfl

theorem brandingProgram_within (call : BrandingCall) :
    (brandingProgram call).Within (fun _ => True) fun _ => KeepsOther call.kind := by
  cases call with
  | replace kind upload now faults =>
    simp only [brandingProgram, replaceAsset, BrandingCall.kind]
    split
    · trivial
    split
    · trivial
    intro db _
    refine ⟨fun _ _ => rfl, fun db _ => ⟨fun k _ => ?_, ?_⟩⟩
    · unfold putStream
      split <;> rfl
    · dsimp only
      split
      · trivial
      intro db _
      refine ⟨fun k hk => ?_, ?_⟩
      · rw [columns_upsert, if_neg fun h => hk h.2]
      · split <;> dsimp only <;> split
        · trivial
        · exact discard_within _ faults kind _
        · exact discard_within _ faults kind _
        · exact discard_within _ faults kind _
  | remove kind faults =>
    intro db _
    refine ⟨fun _ _ => rfl, ?_⟩
    dsimp only
    split
    · trivial
    intro db _
    refine ⟨fun k hk => ?_, ?_⟩
    · rw [columns_clear, if_neg fun h => hk h.2]
    · dsimp only
      split
      · exact discard_within _ faults kind _
      · trivial

/-- Whatever interleaves and fails, a key the row names names bytes that are there, a kind's columns are those of one
    replacement, and no call changes the other kind's. -/
theorem branding_names_its_bytes {db : BrandingDb} (hdb : db.Sound)
    (hr : Reachable brandingProgram anyStep (.idle db) s) :
    s.db.Sound ∧ ∀ call, (brandingProgram call).Within (fun _ => True) fun _ => KeepsOther call.kind := by
  refine ⟨(Reachable.owned (Q := fun _ _ _ => True) brandingOwnership_sound (fun call => ?_) (fun _ _ _ _ => trivial) hdb hr).inv,
    brandingProgram_within⟩
  cases call with
  | replace kind upload now faults => exact replaceAsset_owns kind upload now faults
  | remove kind faults => exact removeAsset_owns kind faults

/-- Two replacements that both read the first one's key: the row ends with the later one's. -/
theorem branding_names_its_bytes_twice :
    ∃ s, Reachable brandingProgram anyStep (.idle {}) s ∧ (s.db.keyOf .logo, s.db.objects) = (some 2, [1, 2]) ∧ s.db.Sound := by
  have hdb : ({} : BrandingDb).Sound := by
    refine ⟨fun kind => ?_, fun kind _ h => ?_, fun kind _ h => ?_⟩ <;> cases kind
    · exact .inl rfl
    · exact .inl rfl
    all_goals cases h
  let call : BrandingCall := .replace .logo { byteLength := 1, sniffed := some "image/png" } 0 {}
  have hrun : (run brandingProgram (fun _ _ _ => true) [.spawn call, .step 0, .step 0, .step 0, .spawn call, .spawn call,
      .step 1, .step 2, .step 1, .step 2, .step 1, .step 2, .step 1, .step 2] (.idle {})).map (fun s =>
        (s.db.keyOf .logo, s.db.objects)) = some (some 2, [1, 2]) := by
    decide +kernel
  obtain ⟨s, hreach, hend⟩ := ends_of_run_any hrun
  exact ⟨s, hreach, hend, (branding_names_its_bytes hdb hreach).1⟩

end WhatsappCrm.Tenancy
