/-
Purpose: What an uploaded file is called, and the header it is sent back with.
-/
import WhatsappCrm.Lib.Utf16

namespace WhatsappCrm.Media

open Utf16

def maxFileNameLength : Nat := 255

def dot : UInt16 := 0x2E

/-- `/[\\/]/`. -/
def isSeparator (u : UInt16) : Bool := u = 0x5C ∨ u = 0x2F

/-- `/[\u0000-\u001f\u007f]/`. -/
def isControl (u : UInt16) : Bool := u.toNat ≤ 0x1F ∨ u.toNat = 0x7F

/-- `candidate.split(/[\\/]/).pop()`: what follows the last separator. -/
def leaf (candidate : List UInt16) : List UInt16 := candidate.rtakeWhile (!isSeparator ·)

def withoutControls (name : List UInt16) : List UInt16 := ((codePoints name).filter fun p => !p.any isControl).flatten

def stem (candidate : List UInt16) : List UInt16 := trim ((withoutControls (leaf candidate)).dropWhile (· = dot))

def sanitiseFileName (candidate : Option (List UInt16)) : Option (List UInt16) :=
  match candidate with
  | none => none
  | some candidate =>
    let cleaned := (stem candidate).take maxFileNameLength
    if cleaned.length = 0 then none else some cleaned

/-- `/[^\x20-\x7e]/g` and `/["\\]/g`, each replaced by `_`. -/
def asciiChar (u : UInt16) : Char :=
  if u.toNat < 0x20 ∨ 0x7E < u.toNat then '_' else if u = 0x22 ∨ u = 0x5C then '_' else Char.ofNat u.toNat

def beforeQuoted : List Char := "attachment; filename=\"".toList

def beforeExtended : List Char := "\"; filename*=UTF-8''".toList

def disposition (ascii extended : List Char) : List Char := beforeQuoted ++ ascii ++ beforeExtended ++ extended

/-- `none` is the `URIError` of `encodeURIComponent`. -/
def contentDispositionFor (fileName : Option (List UInt16)) : Option (List Char) :=
  match fileName with
  | none => some "attachment".toList
  | some fileName => (encodeURIComponent fileName).map (disposition (fileName.map asciiChar))

/-- A header of one line: a quoted name that needs no escapes, and one that decodes to the file's. -/
def SafeHeader (name : List UInt16) (header : List Char) : Prop :=
  ∃ ascii extended, header = disposition ascii extended ∧ (∀ c ∈ ascii, c ≠ '"' ∧ c ≠ '\\') ∧
    (∀ c ∈ header, 0x20 ≤ c.toNat ∧ c.toNat ≤ 0x7E) ∧ decodeURIComponent extended = name

structure SafeName (name : List UInt16) : Prop where
  ne_nil : name ≠ []
  length_le : name.length ≤ maxFileNameLength
  noSeparator : ∀ u ∈ name, isSeparator u = false
  noControl : ∀ u ∈ name, isControl u = false
  noLeadingDot : name.head? ≠ some dot
  trimmed : Trimmed isSpace name
  idempotent : sanitiseFileName (some name) = some name
  header : ∃ header, contentDispositionFor (some name) = some header ∧ SafeHeader name header

/-- What the steps before do not see to: trimming can bring a dot to the front, and cutting the name short can leave
white space at its end or half of a pair. -/
structure CutsCleanly (stem : List UInt16) : Prop where
  noLeadingDot : stem.head? ≠ some dot
  noTrailingSpace : ∀ u ∈ (stem.take maxFileNameLength).getLast?, isSpace u = false
  wellFormed : isWellFormed (stem.take maxFileNameLength) = true

theorem flatten_filter {ps : List (List α)}
    (h : ∀ p ∈ ps, p.filter q = if P p then p else []) : (ps.filter P).flatten = ps.flatten.filter q := by
  induction ps with
  | nil => rfl
  | cons p ps ih =>
    have hrest := ih fun q' hq' => h q' (List.mem_cons_of_mem p hq')
    rw [List.flatten_cons, List.filter_append, h p List.mem_cons_self, ← hrest]
    cases hp : P p with
    | true | false => simp [hp]

theorem withoutControls_eq (name : List UInt16) : withoutControls name = name.filter (!isControl ·) := by
  have hhigh : ∀ u, isHigh u = true → isControl u = false := by
    intro u hu
    simp only [isHigh, isControl, decide_eq_true_eq, decide_eq_false_iff_not] at hu ⊢
    omega
  have hlow : ∀ u, isLow u = true → isControl u = false := by
    intro u hu
    simp only [isLow, isControl, decide_eq_true_eq, decide_eq_false_iff_not] at hu ⊢
    omega
  rw [withoutControls, flatten_filter (q := fun u => !isControl u), flatten_codePoints]
  intro p hp
  rcases mem_codePoints hp with ⟨u, -, rfl⟩ | ⟨u, v, hu, hv, rfl⟩
  · cases hc : isControl u with
    | true | false => simp [hc]
  · simp [hhigh u hu, hlow v hv]

theorem mem_stem (hu : u ∈ stem candidate) : isSeparator u = false ∧ isControl u = false := by
  have hdrop := (List.dropWhile_suffix _).mem ((List.rdropWhile_prefix isSpace _).mem hu)
  rw [withoutControls_eq] at hdrop
  have hfilter := List.mem_filter.mp ((List.dropWhile_suffix _).mem hdrop)
  constructor
  · simpa using List.mem_rtakeWhile_imp hfilter.1
  · simpa using hfilter.2

theorem stem_eq_self (hseparator : ∀ u ∈ name, isSeparator u = false) (hcontrol : ∀ u ∈ name, isControl u = false)
    (hdot : name.head? ≠ some dot) (htrimmed : Trimmed isSpace name) : stem name = name := by
  have hleaf : leaf name = name := by
    rw [leaf, List.rtakeWhile_eq_self_iff]
    intro u hu
    simp [hseparator u hu]
  have hclean : withoutControls name = name := by
    rw [withoutControls_eq, List.filter_eq_self]
    intro u hu
    simp [hcontrol u hu]
  have hundotted : name.dropWhile (· = dot) = name := by
    cases name with
    | nil => rfl
    | cons u =>
      have hne : u ≠ dot := fun h => hdot (congrArg some h)
      simp [hne]
  rw [stem, hleaf, hclean, hundotted, trim, htrimmed.trim_eq]

theorem beforeQuoted_range : ∀ c ∈ beforeQuoted, 0x20 ≤ c.toNat ∧ c.toNat ≤ 0x7E :=
  List.all_iff_forall_prop.mp (by decide +kernel)

theorem beforeExtended_range : ∀ c ∈ beforeExtended, 0x20 ≤ c.toNat ∧ c.toNat ≤ 0x7E :=
  List.all_iff_forall_prop.mp (by decide +kernel)

theorem asciiChar_range (u : UInt16) :
    (asciiChar u ≠ '"' ∧ asciiChar u ≠ '\\') ∧ 0x20 ≤ (asciiChar u).toNat ∧ (asciiChar u).toNat ≤ 0x7E := by
  unfold asciiChar
  split
  · decide
  · split
    · decide
    · rename_i hrange hquote
      have hchar : (Char.ofNat u.toNat).toNat = u.toNat := toNat_ofNat (.inl (by omega))
      rw [not_or, ← UInt16.toNat_inj, ← UInt16.toNat_inj] at hquote
      refine ⟨⟨fun h => hquote.1 ?_, fun h => hquote.2 ?_⟩, ?_⟩
      · rw [← hchar, h]
        rfl
      · rw [← hchar, h]
        rfl
      · rw [hchar]
        omega

theorem contentDispositionFor_safe (h : isWellFormed name = true) :
    ∃ header, contentDispositionFor (some name) = some header ∧ SafeHeader name header := by
  have hencode : encodeURIComponent name = some ((characters name).flatMap percentChar) := if_pos h
  refine ⟨disposition (name.map asciiChar) ((characters name).flatMap percentChar), ?_, _, _, rfl, ?_, ?_,
    decodeURI_encode hencode⟩
  · rw [contentDispositionFor, hencode, Option.map_some]
  · intro c hc
    obtain ⟨u, -, rfl⟩ := List.mem_map.mp hc
    exact (asciiChar_range u).1
  · intro c hc
    simp only [disposition, List.mem_append] at hc
    rcases hc with ((hc | hc) | hc) | hc
    · exact beforeQuoted_range c hc
    · obtain ⟨u, -, rfl⟩ := List.mem_map.mp hc
      exact (asciiChar_range u).2
    · exact beforeExtended_range c hc
    · obtain ⟨d, -, hd⟩ := List.mem_flatMap.mp hc
      exact percentChar_range hd

end WhatsappCrm.Media
