/-
Purpose: What an uploaded file is: the type it was declared under, or the one its first bytes are recognised as.
-/
import WhatsappCrm.Ai.Contract
import WhatsappCrm.Lib.Utf16

namespace WhatsappCrm.Media

open Ai (isSpace trim)

inductive MediaKind where
  | image | video | audio | document | sticker
deriving DecidableEq

def mediaKinds : List MediaKind := [.image, .video, .audio, .document, .sticker]

def uploadableMediaKinds : List MediaKind := [.image, .video, .audio, .document]

def sheet : String := "application/vnd.openxmlformats-officedocument.spreadsheetml.sheet"

def wordDocument : String := "application/vnd.openxmlformats-officedocument.wordprocessingml.document"

def presentation : String := "application/vnd.openxmlformats-officedocument.presentationml.presentation"

/-- `WHATSAPP_MEDIA_LIMITS[kind].mimeTypes`. -/
def MediaKind.mimeTypes : MediaKind → List String
  | .image => ["image/jpeg", "image/png"]
  | .video => ["video/mp4", "video/3gpp"]
  | .audio => ["audio/aac", "audio/amr", "audio/mpeg", "audio/mp4", "audio/ogg"]
  | .document => ["application/pdf", "text/plain", "application/vnd.ms-excel", sheet, "application/msword", wordDocument,
      "application/vnd.ms-powerpoint", presentation]
  | .sticker => ["image/webp"]

/-- A byte prefix at an offset, and for a container a second one that has to match. -/
structure Signature where
  mimeType : String
  magic : List UInt8
  offset : Nat := 0
  andThen : Option (Nat × List UInt8) := none

def ascii (text : String) : List UInt8 := text.toList.map fun c => UInt8.ofNat c.toNat

/-- Ordered: the first match wins. -/
def signatures : List Signature :=
  [{ mimeType := "image/jpeg", magic := [0xFF, 0xD8, 0xFF] },
    { mimeType := "image/png", magic := [0x89, 0x50, 0x4E, 0x47, 0x0D, 0x0A, 0x1A, 0x0A] },
    { mimeType := "image/webp", magic := ascii "RIFF", andThen := some (8, ascii "WEBP") },
    { mimeType := "application/pdf", magic := ascii "%PDF-" },
    { mimeType := "application/ogg", magic := ascii "OggS" },
    { mimeType := "audio/mpeg", magic := ascii "ID3" },
    { mimeType := "audio/mpeg", magic := [0xFF, 0xFB] },
    { mimeType := "audio/mpeg", magic := [0xFF, 0xF3] },
    { mimeType := "audio/mpeg", magic := [0xFF, 0xF2] },
    { mimeType := "audio/aac", magic := [0xFF, 0xF1] },
    { mimeType := "audio/aac", magic := [0xFF, 0xF9] },
    { mimeType := "audio/amr", magic := ascii "#!AMR" },
    { mimeType := "audio/mp4", magic := ascii "ftyp", offset := 4, andThen := some (8, ascii "M4A ") },
    { mimeType := "video/3gpp", magic := ascii "ftyp", offset := 4, andThen := some (8, ascii "3gp") },
    { mimeType := "video/mp4", magic := ascii "ftyp", offset := 4 },
    { mimeType := "application/zip", magic := [0x50, 0x4B, 0x03, 0x04] },
    { mimeType := "application/zip", magic := [0x50, 0x4B, 0x05, 0x06] },
    { mimeType := "application/x-ole-storage", magic := [0xD0, 0xCF, 0x11, 0xE0, 0xA1, 0xB1, 0x1A, 0xE1] }]

def zipContainerTypes : List String := [sheet, wordDocument, presentation]

def oleContainerTypes : List String := ["application/msword", "application/vnd.ms-excel", "application/vnd.ms-powerpoint"]

def equivalentTypes (declaredType : String) : List String :=
  if declaredType = "audio/ogg" then ["application/ogg", "audio/ogg"]
  else if declaredType = "audio/mp4" then ["audio/mp4", "video/mp4"]
  else if declaredType = "video/mp4" then ["video/mp4", "audio/mp4"]
  else [declaredType]

def hasPrefixAt (head magic : List UInt8) (offset : Nat) : Bool :=
  offset + magic.length ≤ head.length && (head.drop offset).take magic.length = magic

def Signature.matches (head : List UInt8) (signature : Signature) : Bool :=
  hasPrefixAt head signature.magic signature.offset &&
    signature.andThen.all fun second => hasPrefixAt head second.2 second.1

def sniffContentType (head : List UInt8) : Option String := (signatures.find? (·.matches head)).map (·.mimeType)

def isProbablyText (head : List UInt8) : Bool := head.all fun b => 0x20 ≤ b.toNat || b = 0x09 || b = 0x0A || b = 0x0D

inductive MediaError where
  | contentMismatch (declared : String) (detected : Option String)
  | unsupportedMediaType (mimeType : String)
deriving DecidableEq

structure ResolvedMediaType where
  kind : MediaKind
  mimeType : String
deriving DecidableEq

/-- What is known of `String.prototype.toLowerCase`. -/
structure Lowers (toLowerCase : String → String) : Prop where
  ascii : ∀ s, (∀ c ∈ s.toList, c.toNat < 0x80) → toLowerCase s = String.ofList (s.toList.map Char.toLower)
  again : ∀ s, toLowerCase (toLowerCase s) = toLowerCase s
  trimmed : ∀ s, trim s.toList = s.toList → trim (toLowerCase s).toList = (toLowerCase s).toList
  semicolon : ∀ s, ';' ∉ s.toList → ';' ∉ (toLowerCase s).toList

section

variable (toLowerCase : String → String)

/-- Lower-cased, parameters stripped, whitespace trimmed. -/
def normaliseMimeType (mimeType : String) : String :=
  toLowerCase (String.ofList (trim (mimeType.toList.takeWhile (· ≠ ';'))))

def mediaKindForMimeType (mimeType : String) : Option MediaKind :=
  mediaKinds.find? fun kind => kind.mimeTypes.contains (normaliseMimeType toLowerCase mimeType)

def isContentConsistentWithDeclaredType (head : List UInt8) (declared : String) : Bool :=
  let declaredType := normaliseMimeType toLowerCase declared
  if declaredType = "text/plain" then isProbablyText head
  else
    match sniffContentType head with
    | none => false
    | some detected =>
      if detected = "application/zip" then zipContainerTypes.contains declaredType
      else if detected = "application/x-ole-storage" then oleContainerTypes.contains declaredType
      else (equivalentTypes declaredType).contains detected

def requireUploadable (kind : MediaKind) (declared : String) : Except MediaError MediaKind :=
  if uploadableMediaKinds.contains kind then .ok kind else .error (.unsupportedMediaType declared)

def resolveUploadedMediaType (declaredMimeType : String) (head : List UInt8) : Except MediaError ResolvedMediaType :=
  let declared := normaliseMimeType toLowerCase declaredMimeType
  match mediaKindForMimeType toLowerCase declared with
  | some declaredKind =>
    if isContentConsistentWithDeclaredType toLowerCase head declared then
      (requireUploadable declaredKind declared).map fun kind => { kind, mimeType := declared }
    else .error (.contentMismatch declared (sniffContentType head))
  | none =>
    match sniffContentType head with
    | none => .error (.unsupportedMediaType declared)
    | some detected =>
      match mediaKindForMimeType toLowerCase detected with
      | none => .error (.unsupportedMediaType declared)
      | some detectedKind =>
        (requireUploadable detectedKind declared).map fun kind => { kind, mimeType := detected }

end

def Allows (mimeType detected : String) : Prop :=
  detected ∈ equivalentTypes mimeType ∨ detected = "application/zip" ∧ mimeType ∈ zipContainerTypes ∨
    detected = "application/x-ole-storage" ∧ mimeType ∈ oleContainerTypes

structure ResolvedMediaType.Honest (head : List UInt8) (r : ResolvedMediaType) : Prop where
  uploadable : r.kind ∈ uploadableMediaKinds
  ofKind : r.mimeType ∈ r.kind.mimeTypes
  allows : ∀ detected, sniffContentType head = some detected → Allows r.mimeType detected

def SignedText (toLowerCase : String → String) (declaredMimeType : String) (head : List UInt8) : Prop :=
  normaliseMimeType toLowerCase declaredMimeType = "text/plain" ∧ isProbablyText head = true ∧
    sniffContentType head ≠ none

variable {toLowerCase : String → String}

theorem normaliseMimeType_idem (hlower : Lowers toLowerCase) (mimeType : String) :
    normaliseMimeType toLowerCase (normaliseMimeType toLowerCase mimeType) = normaliseMimeType toLowerCase mimeType := by
  generalize hplain : String.ofList (trim (mimeType.toList.takeWhile (· ≠ ';'))) = plain
  have htrim : Utf16.Trimmed isSpace plain.toList := by
    rw [← hplain, String.toList_ofList]
    exact Utf16.trimmed_trim isSpace _
  have hsemicolon : ';' ∉ plain.toList := by
    intro hmem
    rw [← hplain, String.toList_ofList] at hmem
    have hin := (List.dropWhile_suffix _).mem ((List.rdropWhile_prefix isSpace _).mem hmem)
    simpa using List.mem_takeWhile_imp hin
  have htake : (toLowerCase plain).toList.takeWhile (· ≠ ';') = (toLowerCase plain).toList := by
    rw [List.takeWhile_eq_self_iff]
    intro c hc
    have hne : c ≠ ';' := fun h => hlower.semicolon plain hsemicolon (h ▸ hc)
    simp [hne]
  have hname : normaliseMimeType toLowerCase mimeType = toLowerCase plain := congrArg toLowerCase hplain
  rw [hname, normaliseMimeType, htake, hlower.trimmed plain htrim.trim_eq, String.ofList_toList, hlower.again]

theorem normaliseMimeType_of_mem (hlower : Lowers toLowerCase) (h : mimeType ∈ signatures.map (·.mimeType)) :
    normaliseMimeType toLowerCase mimeType = mimeType := by
  have hplain : ∀ t ∈ signatures.map (·.mimeType), String.ofList (trim (t.toList.takeWhile (· ≠ ';'))) = t ∧
      t.toList.all (·.toNat < 0x80) = true ∧ String.ofList (t.toList.map Char.toLower) = t := by
    decide +kernel
  obtain ⟨htrim, hascii, hsame⟩ := hplain mimeType h
  rw [normaliseMimeType, htrim, hlower.ascii mimeType (List.all_iff_forall_prop.mp hascii), hsame]

theorem mem_of_sniffContentType (h : sniffContentType head = some detected) : detected ∈ signatures.map (·.mimeType) := by
  obtain ⟨signature, hfind, rfl⟩ := Option.map_eq_some_iff.mp h
  exact List.mem_map_of_mem (List.mem_of_find?_eq_some hfind)

theorem text_not_detected (h : sniffContentType head = some detected) : ¬ Allows "text/plain" detected := by
  have htable : ∀ t ∈ signatures.map (·.mimeType), t ∉ equivalentTypes "text/plain" := by decide +kernel
  have hzip : "text/plain" ∉ zipContainerTypes := by decide +kernel
  have hole : "text/plain" ∉ oleContainerTypes := by decide +kernel
  rintro (hmem | ⟨-, hmem⟩ | ⟨-, hmem⟩)
  · exact htable detected (mem_of_sniffContentType h) hmem
  · exact hzip hmem
  · exact hole hmem

theorem mem_equivalentTypes (mimeType : String) : mimeType ∈ equivalentTypes mimeType := by
  unfold equivalentTypes
  split
  · rename_i h
    rw [h]
    decide
  split
  · rename_i h
    rw [h]
    decide
  split
  · rename_i h
    rw [h]
    decide
  · exact List.mem_singleton_self mimeType

theorem requireUploadable_ok
    (h : ((requireUploadable kind declared).map fun kind => ({ kind, mimeType } : ResolvedMediaType)) = .ok r) :
    kind ∈ uploadableMediaKinds ∧ r = { kind, mimeType } := by
  unfold requireUploadable at h
  split at h
  · rename_i hmem
    cases h
    exact ⟨List.contains_iff_mem.mp hmem, rfl⟩
  · cases h

theorem mem_mimeTypes (hsame : normaliseMimeType toLowerCase mimeType = mimeType)
    (h : mediaKindForMimeType toLowerCase mimeType = some kind) : mimeType ∈ kind.mimeTypes := by
  have hfound := List.find?_some h
  rw [hsame] at hfound
  exact List.contains_iff_mem.mp hfound

/-- A consistent type allows what the bytes look like, unless it is the one without a signature. -/
theorem allows_of_consistent (hsame : normaliseMimeType toLowerCase declared = declared) (hne : declared ≠ "text/plain")
    (h : isContentConsistentWithDeclaredType toLowerCase head declared = true)
    (hsniff : sniffContentType head = some detected) : Allows declared detected := by
  simp only [isContentConsistentWithDeclaredType, hsame, if_neg hne, hsniff] at h
  split at h
  · rename_i hzip
    exact .inr (.inl ⟨hzip, List.contains_iff_mem.mp h⟩)
  · split at h
    · rename_i hole
      exact .inr (.inr ⟨hole, List.contains_iff_mem.mp h⟩)
    · exact .inl (List.contains_iff_mem.mp h)

theorem resolved_type_honest_iff (hlower : Lowers toLowerCase) (declaredMimeType : String) (head : List UInt8) :
    (∀ r, resolveUploadedMediaType toLowerCase declaredMimeType head = .ok r → r.Honest head) ↔
      ¬ SignedText toLowerCase declaredMimeType head := by
  have hsame := normaliseMimeType_idem hlower declaredMimeType
  unfold SignedText resolveUploadedMediaType
  generalize normaliseMimeType toLowerCase declaredMimeType = declared at hsame ⊢
  dsimp only
  cases hkind : mediaKindForMimeType toLowerCase declared with
  | none =>
    have hne : declared ≠ "text/plain" := by
      rintro rfl
      simp [mediaKindForMimeType, hsame, mediaKinds, MediaKind.mimeTypes] at hkind
    refine iff_of_true ?_ fun h => hne h.1
    intro r hr
    cases hsniff : sniffContentType head with
    | none => simp [hsniff] at hr
    | some detected =>
      have hnormal := normaliseMimeType_of_mem hlower (mem_of_sniffContentType hsniff)
      cases hdetected : mediaKindForMimeType toLowerCase detected with
      | none => simp [hsniff, hdetected] at hr
      | some =>
        simp only [hsniff, hdetected] at hr
        obtain ⟨huploadable, rfl⟩ := requireUploadable_ok hr
        refine ⟨huploadable, mem_mimeTypes hnormal hdetected, ?_⟩
        intro _ h
        cases hsniff.symm.trans h
        exact .inl (mem_equivalentTypes detected)
  | some kind =>
    cases hconsistent : isContentConsistentWithDeclaredType toLowerCase head declared with
    | false =>
      refine iff_of_true (by simp) ?_
      rintro ⟨rfl, htext, -⟩
      simp [isContentConsistentWithDeclaredType, hsame, htext] at hconsistent
    | true =>
      simp only [if_true]
      by_cases hne : declared = "text/plain"
      · subst hne
        have hdocument : kind = .document := by
          simpa [mediaKindForMimeType, hsame, mediaKinds, MediaKind.mimeTypes] using hkind.symm
        have htext : isProbablyText head = true := by
          simpa [isContentConsistentWithDeclaredType, hsame] using hconsistent
        subst hdocument
        constructor
        · rintro hhonest ⟨-, -, hsniff⟩
          obtain ⟨detected, hdetected⟩ := Option.ne_none_iff_exists'.mp hsniff
          exact text_not_detected hdetected ((hhonest _ rfl).allows detected hdetected)
        · intro hunsigned r hr
          obtain ⟨huploadable, rfl⟩ := requireUploadable_ok hr
          refine ⟨huploadable, mem_mimeTypes hsame hkind, ?_⟩
          intro detected hdetected
          exact absurd ⟨rfl, htext, by simp [hdetected]⟩ hunsigned
      · refine iff_of_true ?_ fun h => hne h.1
        intro r hr
        obtain ⟨huploadable, rfl⟩ := requireUploadable_ok hr
        exact ⟨huploadable, mem_mimeTypes hsame hkind, fun _ => allows_of_consistent hsame hne hconsistent⟩

def asciiLowerCase (s : String) : String := String.ofList (s.toList.map Char.toLower)

def capitals : List Char := "ABCDEFGHIJKLMNOPQRSTUVWXYZ".toList

theorem toLower_eq_or_mem (c : Char) : c.toLower = c ∨ c ∈ capitals := by
  by_cases h : c.val ≥ 'A'.val ∧ c.val ≤ 'Z'.val
  · have hletters : ∀ n < 91, 65 ≤ n → Char.ofNat n ∈ capitals := by decide +kernel
    have hmem := hletters c.toNat (Nat.lt_succ_of_le h.2) h.1
    rw [Char.ofNat_toNat] at hmem
    exact .inr hmem
  · exact .inl (dif_neg h)

theorem lowers_asciiLowerCase : Lowers asciiLowerCase := by
  have hcapitals : ∀ c ∈ capitals, c.toLower.toLower = c.toLower ∧ isSpace c.toLower = isSpace c ∧ c.toLower ≠ ';' :=
    List.all_iff_forall_prop.mp (by decide +kernel)
  have hspace : (isSpace ∘ Char.toLower) = isSpace := by
    funext c
    rcases toLower_eq_or_mem c with h | h
    · exact congrArg isSpace h
    · exact (hcapitals c h).2.1
  constructor
  · exact fun _ _ => rfl
  · intro s
    rw [asciiLowerCase, asciiLowerCase, String.toList_ofList, List.map_map]
    congr 1
    apply List.map_congr_left
    intro c _
    rcases toLower_eq_or_mem c with h | h
    · rw [Function.comp_apply, h, h]
    · exact (hcapitals c h).1
  · intro s h
    have hmap : trim (s.toList.map Char.toLower) = (trim s.toList).map Char.toLower := by
      simp only [trim, List.dropWhile_map, ← List.map_reverse, hspace]
    rw [asciiLowerCase, String.toList_ofList, hmap, h]
  · intro s h hmem
    rw [asciiLowerCase, String.toList_ofList] at hmem
    obtain ⟨c, hc, heq⟩ := List.mem_map.mp hmem
    rcases toLower_eq_or_mem c with hsame | hcapital
    · rw [hsame] at heq
      exact h (heq ▸ hc)
    · exact (hcapitals c hcapital).2.2 heq

theorem resolved_type_honest_iff_png :
    (∀ r, resolveUploadedMediaType asciiLowerCase "IMAGE/PNG" [0x89, 0x50, 0x4E, 0x47, 0x0D, 0x0A, 0x1A, 0x0A] = .ok r →
      r.Honest [0x89, 0x50, 0x4E, 0x47, 0x0D, 0x0A, 0x1A, 0x0A]) ↔
      ¬ SignedText asciiLowerCase "IMAGE/PNG" [0x89, 0x50, 0x4E, 0x47, 0x0D, 0x0A, 0x1A, 0x0A] :=
  resolved_type_honest_iff lowers_asciiLowerCase _ _

/-- A document that begins `%PDF-1.7` passes for text. -/
theorem resolved_type_dishonest : ¬ ∀ (toLowerCase : String → String), Lowers toLowerCase → ∀ declaredMimeType head r,
      resolveUploadedMediaType toLowerCase declaredMimeType head = .ok r → r.Honest head := by
  intro hclaim
  have hhonest := hclaim asciiLowerCase lowers_asciiLowerCase "text/plain" (ascii "%PDF-1.7")
    { kind := .document, mimeType := "text/plain" } (by decide +kernel)
  have hsniff : sniffContentType (ascii "%PDF-1.7") = some "application/pdf" := by decide +kernel
  exact text_not_detected hsniff (hhonest.allows _ hsniff)

end WhatsappCrm.Media
