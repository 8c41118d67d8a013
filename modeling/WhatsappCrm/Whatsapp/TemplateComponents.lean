/-
Purpose: What a template's component tree asks of a send (`message-template-components.ts`), what keeps one out of the
  picker (`message-template-sendability.ts`), and what a send has to supply (`template-send.validator.ts`).
-/
import WhatsappCrm.Ai.Contract
import WhatsappCrm.Lib.Json
import Mathlib.Data.List.TakeWhile

namespace WhatsappCrm.Templates

open Ai (isSpace)

/-- A text as `/\{\{\s*(\d+)\s*\}\}/g` divides it. -/
inductive Piece where
  | char (c : Char)
  | placeholder (marker : List Char) (index : Nat)

/-- The match of the pattern at the start of a text, with its index, and what follows it. -/
def placeholder? : List Char → Option (List Char × Nat × List Char)
  | a :: b :: inner =>
    let white := inner.takeWhile isSpace
    let afterWhite := inner.dropWhile isSpace
    let digits := afterWhite.takeWhile Json.isDigit
    let afterDigits := afterWhite.dropWhile Json.isDigit
    match afterDigits.dropWhile isSpace with
    | c :: d :: rest =>
      if (a = '{' ∧ b = '{') ∧ digits ≠ [] ∧ c = '}' ∧ d = '}' then
        some ('{' :: '{' :: (white ++ (digits ++ (afterDigits.takeWhile isSpace ++ ['}', '}']))),
          Json.digitsValue digits, rest)
      else none
    | _ => none
  | _ => none

/-- `text.matchAll`, with what lies between the matches. Every step takes a character. -/
def piecesFrom : Nat → List Char → List Piece
  | 0, _ => []
  | _ + 1, [] => []
  | fuel + 1, c :: text =>
    match placeholder? (c :: text) with
    | some (marker, index, rest) => .placeholder marker index :: piecesFrom fuel rest
    | none => .char c :: piecesFrom fuel text

def pieces (text : List Char) : List Piece := piecesFrom text.length text

def Piece.index? : Piece → Option Nat
  | .char _ => none
  | .placeholder _ index => some index

/-- The indices of a text's placeholders. The runtime rounds those above `2 ^ 53`, to ones as much too large. -/
def placeholderIndices (text : List Char) : List Nat := (pieces text).filterMap Piece.index?

def highestPlaceholder (text : List Char) : Nat := (placeholderIndices text).foldl max 0

def hasPlaceholder (text : List Char) : Bool := placeholderIndices text ≠ []

def Piece.filled (vars : List (List Char)) : Piece → List Char
  | .char c => [c]
  | .placeholder marker index => if index = 0 then marker else vars[index - 1]?.getD marker

def renderTemplateBody (bodyText : Option (List Char)) (vars : List (List Char)) : Option (List Char) :=
  bodyText.map fun text => (pieces text).flatMap (Piece.filled vars)

inductive MessageTemplateHeaderFormat where
  | text
  | image
  | video
  | document
  | location
deriving DecidableEq

def MessageTemplateHeaderFormat.label : MessageTemplateHeaderFormat → String
  | .text => "text"
  | .image => "image"
  | .video => "video"
  | .document => "document"
  | .location => "location"

structure MessageTemplateComponentSummary where
  bodyText : Option (List Char)
  parameterCount : Nat
  headerFormat : Option MessageTemplateHeaderFormat
  headerParameterCount : Nat
  requiresButtonParameters : Bool

variable (summary : MessageTemplateComponentSummary)

def emptySummary : MessageTemplateComponentSummary where
  bodyText := none
  parameterCount := 0
  headerFormat := none
  headerParameterCount := 0
  requiresButtonParameters := false

/-- `isRecord`, with the members. -/
def record? : Json → Option (List (List Char × Json))
  | .object members => some members
  | _ => none

def stringField? (key : String) (members : List (List Char × Json)) : Option (List Char) :=
  match Json.field? key.toList members with
  | some (.string text) => some text
  | _ => none

/-- `toLowerCase`, for the comparison with words that no character outside ASCII is the capital of. -/
def lowered (text : List Char) : List Char := text.map Char.toLower

def findComponent (components : List Json) (type : String) : Option (List (List Char × Json)) :=
  (components.filterMap record?).find? fun component => (stringField? "type" component).map lowered = some type.toList

def readText (component : Option (List (List Char × Json))) : Option (List Char) :=
  component.bind (stringField? "text")

def headerFormatOf (format : List Char) : Option MessageTemplateHeaderFormat :=
  [.text, .image, .video, .document, .location].find? fun f => f.label.toList = lowered format

def readHeaderFormat (header : List (List Char × Json)) : Option MessageTemplateHeaderFormat :=
  match stringField? "format" header with
  | none => if (stringField? "text" header).isSome then some .text else none
  | some format => headerFormatOf format

def parameterlessButtonTypes : List String := ["phone_number", "voice_call"]

def requiresParameter (button : Json) : Bool :=
  match record? button with
  | none => true
  | some members =>
    match stringField? "type" members with
    | none => true
    | some type =>
      if lowered type = "url".toList then
        match stringField? "url" members with
        | none => true
        | some url => hasPlaceholder url || (Json.field? "example".toList members).isSome
      else !(parameterlessButtonTypes.any fun t => t.toList = lowered type)

/-- What a stored tree says; a column without one holds `none`. -/
def describeTemplateComponents : Option Json → MessageTemplateComponentSummary
  | some (.array components) =>
    let bodyText := readText (findComponent components "body")
    let header := findComponent components "header"
    let headerFormat := header.bind readHeaderFormat
    { bodyText
      parameterCount := (bodyText.map highestPlaceholder).getD 0
      headerFormat
      headerParameterCount :=
        if headerFormat = some .text then ((readText header).map highestPlaceholder).getD 0 else 0
      requiresButtonParameters :=
        match (findComponent components "buttons").bind (Json.field? "buttons".toList) with
        | some (.array buttons) => buttons.any requiresParameter
        | _ => false }
  | _ => emptySummary

inductive MessageTemplateStatus where
  | pending
  | approved
  | rejected
  | paused
  | disabled
deriving DecidableEq

inductive MessageTemplateSendBlocker where
  | metaNotApproved
  | buttonParametersRequired

def messageTemplateSendBlockers (status : MessageTemplateStatus) (summary : MessageTemplateComponentSummary) :
    List MessageTemplateSendBlocker :=
  (if status ≠ .approved then [.metaNotApproved] else []) ++
    (if summary.requiresButtonParameters then [.buttonParametersRequired] else [])

inductive MediaKind where
  | image
  | video
  | audio
  | document
  | sticker
deriving DecidableEq

def MediaKind.label : MediaKind → String
  | .image => "image"
  | .video => "video"
  | .audio => "audio"
  | .document => "document"
  | .sticker => "sticker"

inductive MediaHeaderFormat where
  | image
  | video
  | document

def MediaHeaderFormat.kind : MediaHeaderFormat → MediaKind
  | .image => .image
  | .video => .video
  | .document => .document

inductive SendTemplateHeader where
  | text (vars : List (List Char))
  | media (format : MediaHeaderFormat) (mediaId : Uuid) (fileName : Option (List Char))
  | location (latitude longitude : ℚ) (name address : Option (List Char))

def SendTemplateHeader.format : SendTemplateHeader → MessageTemplateHeaderFormat
  | .text _ => .text
  | .media .image _ _ => .image
  | .media .video _ _ => .video
  | .media .document _ _ => .document
  | .location .. => .location

structure SendTemplateInput where
  templateName : List Char
  languageCode : List Char
  vars : List (List Char)
  header : Option SendTemplateHeader

def unitLength (text : List Char) : Nat := (text.flatMap Json.units).length

def lengthWithin (low high : Nat) (text : List Char) : Prop := low ≤ unitLength text ∧ unitLength text ≤ high

instance (low high : Nat) (text : List Char) : Decidable (lengthWithin low high text) :=
  inferInstanceAs (Decidable (_ ∧ _))

def maxArrayLength : Nat := 2 ^ 32 - 1

def sendTemplateHeaderSchema : SendTemplateHeader → Prop
  | .text vars => 1 ≤ vars.length ∧ vars.length ≤ maxArrayLength
  | .media _ _ fileName => ∀ text ∈ fileName, lengthWithin 1 255 text
  | .location latitude longitude name address =>
    (-90 ≤ latitude ∧ latitude ≤ 90) ∧ (-180 ≤ longitude ∧ longitude ≤ 180) ∧
      (∀ text ∈ name, lengthWithin 1 200 text) ∧ ∀ text ∈ address, lengthWithin 1 500 text

def sendTemplateInputSchema (input : SendTemplateInput) : Prop :=
  1 ≤ unitLength input.templateName ∧ lengthWithin 2 10 input.languageCode ∧ input.vars.length ≤ maxArrayLength ∧
    ∀ header ∈ input.header, sendTemplateHeaderSchema header

inductive TemplateNotSendableError where
  | buttons
  | variables (expected received : Nat)
  | header (message : String)

def assertHeaderMatches (header : Option SendTemplateHeader) (summary : MessageTemplateComponentSummary)
    (headerMedia : Option MediaKind) : Except TemplateNotSendableError Unit :=
  match summary.headerFormat, header with
  | none, none => .ok ()
  | none, some _ => .error (.header "That template has no header, so no header may be supplied for it.")
  | some format, none =>
    .error (.header ("That template has a " ++ format.label ++ " header, which must be supplied with the send."))
  | some format, some header =>
    if header.format ≠ format then
      .error (.header ("That template's header is a " ++ format.label ++ ", and a " ++ header.format.label ++
        " header was supplied."))
    else
      match header with
      | .text vars =>
        if vars.length ≠ summary.headerParameterCount then
          .error (.header ("That template's header takes " ++ toString summary.headerParameterCount ++
            " variable(s) and " ++ toString vars.length ++ " were supplied."))
        else .ok ()
      | .media mediaFormat _ _ =>
        match headerMedia with
        | some kind =>
          if kind ≠ mediaFormat.kind then
            .error (.header ("That template's header is a " ++ mediaFormat.kind.label ++
              ", and the media supplied is a " ++ kind.label ++ "."))
          else .ok ()
        | none => .ok ()
      | .location .. => .ok ()

/-- What is thrown instead of a send, if anything is. -/
def assertTemplateSendable (input : SendTemplateInput) (summary : MessageTemplateComponentSummary)
    (headerMedia : Option MediaKind) : Except TemplateNotSendableError Unit :=
  if summary.requiresButtonParameters then .error .buttons
  else if input.vars.length ≠ summary.parameterCount then
    .error (.variables summary.parameterCount input.vars.length)
  else assertHeaderMatches input.header summary headerMedia

variable {text marker rest : List Char} {index : Nat} {c : Char}

theorem span_append {text : List Char} (rest : List Char) (htext : ∀ c ∈ text, p c = true)
    (hrest : ∀ c ∈ rest.head?, p c = false) :
    (text ++ rest).takeWhile p = text ∧ (text ++ rest).dropWhile p = rest := by
  rw [List.takeWhile_append_of_pos htext, List.dropWhile_append_of_pos htext]
  cases rest with
  | nil => simp
  | cons c =>
    have hc := hrest c rfl
    simp [hc]

theorem placeholder?_marker (hwhite : ∀ c ∈ white, isSpace c = true)
    (hdigits : ∀ c ∈ digits, Json.isDigit c = true) (hne : digits ≠ []) (hwhite' : ∀ c ∈ white', isSpace c = true)
    (rest : List Char) : placeholder? ('{' :: '{' :: (white ++ (digits ++ (white' ++ '}' :: '}' :: rest)))) =
      some ('{' :: '{' :: (white ++ (digits ++ (white' ++ ['}', '}']))), Json.digitsValue digits, rest) := by
  have hdigit : ∀ c, isSpace c = true → Json.isDigit c = false := by
    intro c hc
    by_contra hd
    rw [Ai.isSpace_of_digit (by simpa [Json.isDigit] using hd)] at hc
    cases hc
  obtain ⟨htake, hdrop⟩ := span_append (digits ++ (white' ++ '}' :: '}' :: rest)) hwhite (by
    intro c hc
    obtain ⟨d, ds, rfl⟩ := List.exists_cons_of_ne_nil hne
    obtain rfl : d = c := Option.some.inj hc
    exact Ai.isSpace_of_digit (by simpa [Json.isDigit] using hdigits d List.mem_cons_self))
  obtain ⟨htake₂, hdrop₂⟩ := span_append (white' ++ '}' :: '}' :: rest) hdigits (by
    intro c hc
    cases white' with
    | nil =>
      cases hc
      rfl
    | cons w =>
      obtain rfl : w = c := Option.some.inj hc
      exact hdigit w (hwhite' w List.mem_cons_self))
  obtain ⟨htake₃, hdrop₃⟩ := span_append ('}' :: '}' :: rest) hwhite' (by
    intro c hc
    cases hc
    rfl)
  simp only [placeholder?, htake, hdrop, htake₂, hdrop₂, htake₃, hdrop₃, ne_eq, hne, not_false_eq_true, and_self,
    if_true]

/-- A match takes its marker, in which no letter stands, and is found in front of anything else too. -/
structure Marks (marker : List Char) (index : Nat) : Prop where
  ne_nil : marker ≠ []
  no_letter : 'x' ∉ marker
  found : ∀ rest, placeholder? (marker ++ rest) = some (marker, index, rest)

theorem marks_of_placeholder? (h : placeholder? text = some (marker, index, rest)) :
    text = marker ++ rest ∧ Marks marker index := by
  match text, h with
  | a :: b :: inner, h =>
    simp only [placeholder?] at h
    split at h
    · rename_i c d rest' hclose
      split at h
      · rename_i hmatch
        obtain ⟨⟨rfl, rfl⟩, hne, rfl, rfl⟩ := hmatch
        obtain ⟨rfl, rfl, rfl⟩ := h
        have hinner := List.takeWhile_append_dropWhile (p := isSpace) (l := inner)
        generalize hwhite : inner.takeWhile isSpace = white at *
        generalize inner.dropWhile isSpace = afterWhite at *
        have hafter := List.takeWhile_append_dropWhile (p := Json.isDigit) (l := afterWhite)
        generalize hdigits : afterWhite.takeWhile Json.isDigit = digits at *
        generalize afterWhite.dropWhile Json.isDigit = afterDigits at *
        have hlast := List.takeWhile_append_dropWhile (p := isSpace) (l := afterDigits)
        rw [hclose] at hlast
        generalize hwhite' : afterDigits.takeWhile isSpace = white' at *
        have hw : ∀ c ∈ white, isSpace c = true := fun c hc => List.mem_takeWhile_imp (hwhite ▸ hc)
        have hd : ∀ c ∈ digits, Json.isDigit c = true := fun c hc => List.mem_takeWhile_imp (hdigits ▸ hc)
        have hw' : ∀ c ∈ white', isSpace c = true := fun c hc => List.mem_takeWhile_imp (hwhite' ▸ hc)
        have hx : isSpace 'x' = false := by decide
        have hx' : Json.isDigit 'x' = false := by decide
        refine ⟨by simp [← hinner, ← hafter, ← hlast], List.cons_ne_nil _ _, ?_, fun rest => ?_⟩
        · intro hmem
          simp only [List.mem_cons, List.mem_append, List.not_mem_nil, or_false] at hmem
          rcases hmem with h | h | h | h | h | h | h
          · cases h
          · cases h
          · rw [hw _ h] at hx
            cases hx
          · rw [hd _ h] at hx'
            cases hx'
          · rw [hw' _ h] at hx
            cases hx
          · cases h
          · cases h
        · simpa using placeholder?_marker hw hd hne hw' rest
      · cases h
    · cases h

def Clear (text : List Char) : Prop := ∀ s, s <:+ text → placeholder? s = none

theorem clear_cons : Clear (c :: text) ↔ placeholder? (c :: text) = none ∧ Clear text := by
  constructor
  · intro h
    exact ⟨h _ List.suffix_rfl, fun s hs => h s (hs.trans (List.suffix_cons c text))⟩
  · rintro ⟨hhead, htail⟩ s hs
    rcases List.suffix_cons_iff.mp hs with rfl | hs
    · exact hhead
    · exact htail s hs

/-- The steps of the division: a marker in front of what follows it, or a character no placeholder starts at. -/
theorem pieces_induct {P : List Char → List Piece → Prop} (hnil : P [] [])
    (hmarker : ∀ marker index rest ps, Marks marker index → P rest ps →
      P (marker ++ rest) (.placeholder marker index :: ps))
    (hchar : ∀ c text ps, placeholder? (c :: text) = none → P text ps → P (c :: text) (.char c :: ps))
    (text : List Char) : P text (pieces text) := by
  have hfrom : ∀ fuel text, text.length ≤ fuel → P text (piecesFrom fuel text) := by
    intro fuel
    induction fuel with
    | zero =>
      intro text hlength
      rw [List.length_eq_zero_iff.mp (Nat.le_zero.mp hlength)]
      exact hnil
    | succ fuel ih =>
      intro text hlength
      cases text with
      | nil => exact hnil
      | cons c text =>
        rw [piecesFrom]
        split
        · rename_i marker index rest hmatch
          obtain ⟨htext, hmarks⟩ := marks_of_placeholder? hmatch
          have hshorter := congrArg List.length htext
          have hpos := List.length_pos_iff.mpr hmarks.ne_nil
          rw [List.length_append] at hshorter
          rw [htext]
          exact hmarker marker index rest _ hmarks (ih rest (by omega))
        · rename_i hmatch
          exact hchar c text _ hmatch (ih text (Nat.le_of_succ_le_succ hlength))
  exact hfrom text.length text (Nat.le_refl _)

theorem hasPlaceholder_eq_false : hasPlaceholder text = false ↔ Clear text := by
  have hiff : placeholderIndices text = [] ↔ Clear text := by
    refine pieces_induct (P := fun text ps => ps.filterMap Piece.index? = [] ↔ Clear text) ?_ ?_ ?_ text
    · simp [Clear, placeholder?]
    · intro marker index rest ps hmarks _
      have hsome := hmarks.found rest
      simp only [List.filterMap_cons, Piece.index?, List.cons_ne_nil, false_iff]
      intro hclear
      rw [hclear _ List.suffix_rfl] at hsome
      cases hsome
    · intro c text ps hnone ih
      rw [clear_cons]
      simpa [Piece.index?, hnone] using ih
  simp [hasPlaceholder, hiff]

/-- A body without the index 0, filled with letters, has no placeholder left: what precedes a letter is as it was. -/
theorem clear_filled {count : Nat} (h : ∀ i ∈ placeholderIndices text, 1 ≤ i ∧ i ≤ count) :
    Clear ((pieces text).flatMap (Piece.filled (List.replicate count ['x']))) := by
  revert h
  refine fun h => (pieces_induct (P := fun text ps => (∀ i ∈ ps.filterMap Piece.index?, 1 ≤ i ∧ i ≤ count) →
    Clear (ps.flatMap (Piece.filled (List.replicate count ['x']))) ∧
      ∀ m, 'x' ∉ m → m <+: ps.flatMap (Piece.filled (List.replicate count ['x'])) → m <+: text) ?_ ?_ ?_ text h).1
  · intro _
    exact ⟨by simp [Clear, placeholder?], fun m _ hm => hm⟩
  · intro marker index rest ps hmarks ih hindices
    obtain ⟨hlow, hhigh⟩ := hindices index (by simp [Piece.index?])
    have hfilled : Piece.filled (List.replicate count ['x']) (.placeholder marker index) = ['x'] := by
      have hlt : index - 1 < count := by omega
      simp [Piece.filled, show index ≠ 0 by omega, hlt]
    rw [List.flatMap_cons, hfilled, List.singleton_append, clear_cons]
    refine ⟨⟨?_, (ih fun i hi => hindices i (by simp [Piece.index?, hi])).1⟩, ?_⟩
    · cases ps.flatMap (Piece.filled (List.replicate count ['x'])) with
      | nil => rfl
      | cons =>
        simp only [placeholder?]
        split
        · rw [if_neg (by simp)]
        · rfl
    · intro m hx hm
      cases m with
      | nil => exact List.nil_prefix
      | cons =>
        obtain ⟨rfl, -⟩ := List.cons_prefix_cons.mp hm
        exact absurd List.mem_cons_self hx
  · intro c text ps hnone ih hindices
    obtain ⟨hclear, hprefix⟩ := ih hindices
    have hcons : ∀ m, 'x' ∉ m → m <+: c :: ps.flatMap (Piece.filled (List.replicate count ['x'])) → m <+: c :: text := by
      intro m hx hm
      cases m with
      | nil => exact List.nil_prefix
      | cons d m =>
        obtain ⟨rfl, htail⟩ := List.cons_prefix_cons.mp hm
        exact List.cons_prefix_cons.mpr ⟨rfl, hprefix m (fun h => hx (List.mem_cons_of_mem _ h)) htail⟩
    refine ⟨clear_cons.mpr ⟨?_, hclear⟩, hcons⟩
    by_contra hsome
    obtain ⟨⟨m, i, rest⟩, hsome⟩ := Option.ne_none_iff_exists'.mp hsome
    obtain ⟨heq, hmarks⟩ := marks_of_placeholder? hsome
    obtain ⟨rest', hrest⟩ := hcons m hmarks.no_letter ⟨rest, heq.symm⟩
    rw [← hrest, hmarks.found] at hnone
    cases hnone

/-- A marker with the index 0 is left whatever the variables. -/
theorem zero_left (vars : List (List Char)) (h : 0 ∈ placeholderIndices text) :
    hasPlaceholder ((pieces text).flatMap (Piece.filled vars)) = true := by
  obtain ⟨piece, hpiece, hindex⟩ := List.mem_filterMap.mp h
  have hmarks : ∀ marker index, .placeholder marker index ∈ pieces text → Marks marker index := by
    refine pieces_induct (P := fun _ ps => ∀ marker index, .placeholder marker index ∈ ps → Marks marker index)
      (by simp) ?_ ?_ text
    · intro marker index _ ps hmarks ih m i hm
      rcases List.mem_cons.mp hm with heq | hm
      · cases heq
        exact hmarks
      · exact ih m i hm
    · intro c _ ps _ ih m i hm
      rcases List.mem_cons.mp hm with heq | hm
      · cases heq
      · exact ih m i hm
  cases piece with
  | char => cases hindex
  | placeholder marker =>
    cases hindex
    by_contra hclear
    obtain ⟨before, after, hsplit⟩ := List.append_of_mem hpiece
    have hfound := (hmarks marker 0 hpiece).found (after.flatMap (Piece.filled vars))
    rw [hsplit, List.flatMap_append, List.flatMap_cons, Bool.not_eq_true, hasPlaceholder_eq_false] at hclear
    have hnone := hclear (marker ++ after.flatMap (Piece.filled vars)) (List.suffix_append _ _)
    rw [hnone] at hfound
    cases hfound

theorem foldl_max_le {l : List Nat} : l.foldl max a ≤ n ↔ a ≤ n ∧ ∀ i ∈ l, i ≤ n := by
  induction l generalizing a with
  | nil => simp
  | cons b l ih => simp only [List.foldl_cons, ih, max_le_iff, List.forall_mem_cons, and_assoc]

theorem highestPlaceholder_le : highestPlaceholder text ≤ n ↔ ∀ i ∈ placeholderIndices text, i ≤ n := by
  rw [highestPlaceholder, foldl_max_le]
  simp
def componentsOf : Option Json → List Json
  | some (.array components) => components
  | _ => []

def SendTemplateHeader.isMedia : SendTemplateHeader → Bool
  | .media .. => true
  | _ => false

def Sendable (name language : List Char) (components : Option Json) : Prop :=
  ∃ (input : SendTemplateInput) (headerMedia : Option MediaKind),
    (input.templateName = name ∧ input.languageCode = language) ∧ sendTemplateInputSchema input ∧
      headerMedia.isSome = input.header.any (·.isMedia) ∧
      assertTemplateSendable input (describeTemplateComponents components) headerMedia = .ok () ∧
      ∀ body ∈ renderTemplateBody (describeTemplateComponents components).bodyText input.vars, hasPlaceholder body = false

/-- Nothing with the wrong arity, header or header arity passes. -/
def Checked : Prop :=
  ∀ input headerMedia, assertTemplateSendable input summary headerMedia = .ok () →
    input.vars.length = summary.parameterCount ∧ input.header.map (·.format) = summary.headerFormat ∧
      ∀ vars, input.header = some (.text vars) → vars.length = summary.headerParameterCount

structure Fillable (components : List Json) : Prop where
  body : ∀ text ∈ readText (findComponent components "body"), ∀ i ∈ placeholderIndices text, 1 ≤ i ∧ i ≤ maxArrayLength
  header : ∀ header ∈ findComponent components "header", readHeaderFormat header = some .text →
    ∃ text ∈ readText (some header), (∃ i ∈ placeholderIndices text, 1 ≤ i) ∧
      ∀ i ∈ placeholderIndices text, i ≤ maxArrayLength

theorem describeTemplateComponents_eq (components : Option Json) :
    describeTemplateComponents components = describeTemplateComponents (some (.array (componentsOf components))) := by
  unfold componentsOf
  split
  · rfl
  · rename_i h
    unfold describeTemplateComponents
    split
    · exact absurd rfl (h _)
    · rfl

theorem checked_summary : Checked summary := by
  intro input headerMedia h
  simp only [assertTemplateSendable] at h
  split at h
  · cases h
  split at h
  · cases h
  rename_i hvars
  refine ⟨not_not.mp hvars, ?_⟩
  simp only [assertHeaderMatches] at h
  split at h
  · rename_i hformat hheader
    simp [hformat, hheader]
  · cases h
  · cases h
  · rename_i format header hformat hheader
    split at h
    · cases h
    rename_i heq
    refine ⟨by simp [hformat, hheader, not_not.mp heq], fun vars hvars => ?_⟩
    rw [hheader] at hvars
    cases hvars
    dsimp only at h
    split at h
    · cases h
    · rename_i hcount
      exact not_not.mp hcount

def headerFor : Option SendTemplateHeader :=
  summary.headerFormat.map fun
    | .text => .text (List.replicate summary.headerParameterCount ['x'])
    | .image => .media .image 0 none
    | .video => .media .video 0 none
    | .document => .media .document 0 none
    | .location => .location 0 0 none none

def headerMediaFor : Option MediaKind :=
  match summary.headerFormat with
  | some .image => some .image
  | some .video => some .video
  | some .document => some .document
  | _ => none

theorem assertHeaderMatches_headerFor :
    assertHeaderMatches (headerFor summary) summary (headerMediaFor summary) = .ok () := by
  unfold assertHeaderMatches headerFor headerMediaFor
  cases summary.headerFormat with
  | none => rfl
  | some format => cases format <;> simp [SendTemplateHeader.format, MediaHeaderFormat.kind]

theorem sendTemplateHeaderSchema_headerFor {summary : MessageTemplateComponentSummary}
    (h : summary.headerFormat = some .text →
      1 ≤ summary.headerParameterCount ∧ summary.headerParameterCount ≤ maxArrayLength) :
    ∀ header ∈ headerFor summary, sendTemplateHeaderSchema header := by
  unfold headerFor
  cases hformat : summary.headerFormat with
  | none => simp
  | some format => cases format <;> simp_all [sendTemplateHeaderSchema]

theorem headerMediaFor_isSome : (headerMediaFor summary).isSome = (headerFor summary).any (·.isMedia) := by
  unfold headerMediaFor headerFor
  cases summary.headerFormat with
  | none => rfl
  | some format => cases format <;> rfl

variable {components : List Json}

theorem headerParameterCount_bounds (h : Fillable components)
    (hformat : (describeTemplateComponents (some (.array components))).headerFormat = some .text) :
    1 ≤ (describeTemplateComponents (some (.array components))).headerParameterCount ∧
      (describeTemplateComponents (some (.array components))).headerParameterCount ≤ maxArrayLength := by
  obtain ⟨header, hheader, hread⟩ := Option.bind_eq_some_iff.mp hformat
  obtain ⟨text, htext, ⟨i, hi, hpos⟩, hhigh⟩ := h.header header hheader hread
  have hcount : (describeTemplateComponents (some (.array components))).headerParameterCount = highestPlaceholder text := by
    simp only [describeTemplateComponents, hheader, Option.bind_some, hread, if_true, Option.mem_def.mp htext,
      Option.map_some, Option.getD_some]
  rw [hcount]
  refine ⟨?_, highestPlaceholder_le.mpr hhigh⟩
  by_contra hzero
  have hall := highestPlaceholder_le.mp (Nat.le_of_lt_succ (Nat.not_le.mp hzero)) i hi
  omega

theorem parameterCount_of_body {text : List Char} (h : readText (findComponent components "body") = some text) :
    (describeTemplateComponents (some (.array components))).parameterCount = highestPlaceholder text := by
  simp only [describeTemplateComponents, h, Option.map_some, Option.getD_some]

variable {name : List Char} {stored : Option Json}

theorem Sendable.fillable (h : Sendable name language stored) :
    1 ≤ unitLength name ∧ lengthWithin 2 10 language ∧ Fillable (componentsOf stored) := by
  obtain ⟨input, headerMedia, ⟨rfl, rfl⟩, hschema, -, hassert, hfilled⟩ := h
  rw [describeTemplateComponents_eq] at hassert hfilled
  generalize componentsOf stored = components at *
  obtain ⟨hvars, hformat, harity⟩ := checked_summary _ input headerMedia hassert
  obtain ⟨hname, hlanguage, hlength, hheader⟩ := hschema
  refine ⟨hname, hlanguage, fun text htext i hi => ⟨?_, ?_⟩, fun header hfound hread => ?_⟩
  · by_contra hzero
    obtain rfl : i = 0 := by omega
    have hleft := zero_left input.vars hi
    have hclear := hfilled ((pieces text).flatMap (Piece.filled input.vars)) (by
      simp only [describeTemplateComponents, Option.mem_def.mp htext, renderTemplateBody, Option.map_some,
        Option.mem_def])
    rw [hclear] at hleft
    cases hleft
  · rw [parameterCount_of_body htext] at hvars
    exact highestPlaceholder_le.mp (hvars ▸ hlength) i hi
  · have htextFormat : (describeTemplateComponents (some (.array components))).headerFormat = some .text := by
      simp only [describeTemplateComponents, Option.mem_def.mp hfound, Option.bind_some, hread]
    rw [htextFormat] at hformat
    obtain ⟨sent, hsent, hsentFormat⟩ := Option.map_eq_some_iff.mp hformat
    cases sent with
    | media format => cases format <;> cases hsentFormat
    | location => cases hsentFormat
    | text vars =>
      obtain ⟨hlow, hhigh⟩ := hheader _ hsent
      rw [harity vars hsent] at hlow hhigh
      simp only [describeTemplateComponents, Option.mem_def.mp hfound, Option.bind_some, hread, if_true] at hlow hhigh
      cases htext : readText (some header) with
      | none => simp [htext] at hlow
      | some text =>
        simp only [htext, Option.map_some, Option.getD_some] at hlow hhigh
        refine ⟨text, rfl, ?_, highestPlaceholder_le.mp hhigh⟩
        by_contra hnone
        have hzero := highestPlaceholder_le.mpr fun i hi => Nat.le_of_lt_succ (Nat.not_le.mp fun h => hnone ⟨i, hi, h⟩)
        omega

theorem sendable_of_fillable
    (hbuttons : (describeTemplateComponents (some (.array components))).requiresButtonParameters = false)
    (hname : 1 ≤ unitLength name) (hlanguage : lengthWithin 2 10 language) (h : Fillable components) :
    Sendable name language (some (.array components)) := by
  unfold Sendable
  have hheader := headerParameterCount_bounds h
  have hbody := h.body
  generalize hread : readText (findComponent components "body") = bodyText at hbody
  have hbodyText : (describeTemplateComponents (some (.array components))).bodyText = bodyText := hread
  have hcount : (describeTemplateComponents (some (.array components))).parameterCount =
      (bodyText.map highestPlaceholder).getD 0 := by
    rw [← hread]
    rfl
  generalize describeTemplateComponents (some (.array components)) = summary at *
  refine ⟨{ templateName := name, languageCode := language, vars := List.replicate summary.parameterCount ['x'],
            header := headerFor summary }, headerMediaFor summary, ⟨rfl, rfl⟩, ?_, headerMediaFor_isSome summary, ?_, ?_⟩
  · refine ⟨hname, hlanguage, ?_, sendTemplateHeaderSchema_headerFor hheader⟩
    rw [List.length_replicate, hcount]
    cases bodyText with
    | none => exact Nat.zero_le _
    | some text => exact highestPlaceholder_le.mpr fun i hi => (hbody text rfl i hi).2
  · simp only [assertTemplateSendable, hbuttons, Bool.false_eq_true, if_false, List.length_replicate, ne_eq,
      not_true_eq_false]
    exact assertHeaderMatches_headerFor summary
  · intro body hrendered
    rw [hbodyText] at hrendered
    cases bodyText with
    | none => cases hrendered
    | some text =>
      cases hrendered
      rw [hcount, Option.map_some, Option.getD_some]
      exact hasPlaceholder_eq_false.mpr (clear_filled fun i hi =>
        ⟨(hbody text rfl i hi).1, highestPlaceholder_le.mp (Nat.le_refl _) i hi⟩)

/-- A template of the picker can be sent, and nothing that does not fit it passes, exactly when a request can name it and
    its tree asks for what a request can hold. -/
theorem picked_sendable_iff (name language : List Char) (components : Option Json)
    (hpicked : messageTemplateSendBlockers .approved (describeTemplateComponents components) = []) :
    Sendable name language components ∧ Checked (describeTemplateComponents components) ↔
      1 ≤ unitLength name ∧ lengthWithin 2 10 language ∧ Fillable (componentsOf components) := by
  constructor
  · exact fun h => h.1.fillable
  · rintro ⟨hname, hlanguage, hfillable⟩
    refine ⟨?_, checked_summary _⟩
    have hbuttons : (describeTemplateComponents components).requiresButtonParameters = false := by
      by_contra hb
      simp [messageTemplateSendBlockers, hb] at hpicked
    rw [describeTemplateComponents_eq] at hbuttons
    have hsendable := sendable_of_fillable hbuttons hname hlanguage hfillable
    unfold Sendable at hsendable ⊢
    rwa [describeTemplateComponents_eq]

def textComponent (type text : String) : Json :=
  .object [("type".toList, .string type.toList), ("text".toList, .string text.toList)]

/-- A body with two variables, under an image. -/
theorem picked_sendable_image : Sendable "order".toList "en".toList (some (.array
      [.object [("type".toList, .string "HEADER".toList), ("format".toList, .string "IMAGE".toList)],
        textComponent "BODY" "{{1}}, {{ 2 }}"])) :=
  ((picked_sendable_iff "order".toList "en".toList _ (by decide +kernel)).mpr
    ⟨by decide, by decide, by decide +kernel, by decide +kernel⟩).1

/-- A header that is a fixed text: the schema asks for a variable, and the check for none. -/
theorem fixed_header_not_sendable : messageTemplateSendBlockers .approved (describeTemplateComponents (some (.array
      [textComponent "HEADER" "Your order", textComponent "BODY" "It is on its way."]))) = [] ∧
      ¬ Sendable "order".toList "en".toList (some (.array
        [textComponent "HEADER" "Your order", textComponent "BODY" "It is on its way."])) := by
  refine ⟨by decide +kernel, fun h => ?_⟩
  obtain ⟨text, htext, ⟨i, hi, -⟩, -⟩ := h.fillable.2.2.header _ rfl (by decide)
  have hnone : placeholderIndices "Your order".toList = [] := by decide +kernel
  cases htext
  rw [hnone] at hi
  cases hi

end WhatsappCrm.Templates
