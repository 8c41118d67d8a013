/-
Purpose: Meta's vocabulary translated into the schema's (`webhooks/whatsapp-message.mapper.ts`), and the provider's
  timestamps.
-/
import WhatsappCrm.Lib.PlainObject
import WhatsappCrm.Webhooks.Store
import WhatsappCrm.Lib.IsoDate
import WhatsappCrm.Lib.Json

namespace WhatsappCrm.Webhooks

open PlainObject

inductive MessageContentType where
  | text
  | image
  | video
  | audio
  | document
  | sticker
  | location
  | contacts
  | interactive
  | template
  | system
  | unsupported
deriving DecidableEq

inductive MediaKind where
  | image
  | video
  | audio
  | document
  | sticker
deriving DecidableEq

def contentTypes : List (String × MessageContentType) :=
  [("text", .text), ("image", .image), ("video", .video), ("audio", .audio), ("document", .document),
    ("sticker", .sticker), ("location", .location), ("contacts", .contacts), ("interactive", .interactive),
    ("system", .system)]

def statuses : List (String × MessageStatus) :=
  [("sent", .sent), ("delivered", .delivered), ("read", .read), ("failed", .failed)]

def mediaKindsByType : List (String × MediaKind) :=
  [("image", .image), ("video", .video), ("audio", .audio), ("document", .document), ("sticker", .sticker)]

/-- `CONTENT_TYPES[metaType] ?? MessageContentType.unsupported`. -/
def toContentType (metaType : String) : Property MessageContentType :=
  match get contentTypes metaType with
  | .missing => .own .unsupported
  | property => property

def toStatus (metaStatus : String) : Property MessageStatus := get statuses metaStatus

/-- `MediaSchema`, without the caption, which is part of the message body. -/
structure MediaObject where
  id : Option String
  mimeType : Option String
  filename : Option String

structure MediaMessage where
  type : String
  image : Option MediaObject := none
  video : Option MediaObject := none
  audio : Option MediaObject := none
  document : Option MediaObject := none
  sticker : Option MediaObject := none

variable (message : MediaMessage)

/-- `InboundMediaDescriptor`, whose kind is what the table gave. -/
structure InboundMediaDescriptor (kind : Type) where
  kind : kind
  providerMediaId : String
  mimeType : String
  fileName : Option String

/-- `message.image ?? message.video ?? message.audio ?? message.document ?? message.sticker`. -/
def MediaMessage.media : Option MediaObject :=
  message.image <|> message.video <|> message.audio <|> message.document <|> message.sticker

/-- The handle a download is made with: `media.id`, unless it is empty. -/
def MediaMessage.handle : Option String :=
  (message.media.bind MediaObject.id).filter (· ≠ "")

def MediaMessage.descriptor {K : Type} (message : MediaMessage) (kind : K) : Option (InboundMediaDescriptor K) :=
  message.media.bind fun media =>
    match media.id with
    | none => none
    | some id =>
      if id = "" then none
      else some
        { kind
          providerMediaId := id
          mimeType :=
            match media.mimeType with
            | none => "application/octet-stream"
            | some mimeType => if mimeType = "" then "application/octet-stream" else mimeType
          fileName := media.filename }

def toInboundMedia : Option (InboundMediaDescriptor (Property MediaKind)) :=
  match get mediaKindsByType message.type with
  | .missing => none
  | kind => message.descriptor kind

def contentTypeOf (metaType : String) : MessageContentType := (getOwn contentTypes metaType).getD .unsupported

def inboundMediaOf : Option (InboundMediaDescriptor (Property MediaKind)) :=
  (getOwn mediaKindsByType message.type).bind fun kind => message.descriptor (.own kind)

theorem not_listed (h : name ∈ inheritedNames) :
    getOwn contentTypes name = none ∧ getOwn statuses name = none ∧ getOwn mediaKindsByType name = none := by
  have hall : ∀ name ∈ inheritedNames,
      getOwn contentTypes name = none ∧ getOwn statuses name = none ∧ getOwn mediaKindsByType name = none := by decide
  exact hall name h

theorem toContentType_eq_iff (metaType : String) :
    toContentType metaType = .own (contentTypeOf metaType) ↔ metaType ∉ inheritedNames := by
  unfold toContentType contentTypeOf
  cases hown : getOwn contentTypes metaType with
  | some =>
    rw [get_own hown]
    refine iff_of_true rfl fun hname => ?_
    rw [(not_listed hname).1] at hown
    cases hown
  | none =>
    rw [get_of_not_own hown]
    by_cases hname : metaType ∈ inheritedNames
    · rw [if_pos hname]
      exact iff_of_false nofun (not_not_intro hname)
    · rw [if_neg hname]
      exact iff_of_true rfl hname

def statusOf (metaStatus : String) : Property MessageStatus :=
  match getOwn statuses metaStatus with
  | some status => .own status
  | none => .missing

theorem toStatus_eq_iff (metaStatus : String) : toStatus metaStatus = statusOf metaStatus ↔ metaStatus ∉ inheritedNames := by
  unfold toStatus statusOf
  cases hown : getOwn statuses metaStatus with
  | some =>
    rw [get_own hown]
    refine iff_of_true rfl fun hname => ?_
    rw [(not_listed hname).2.1] at hown
    cases hown
  | none => simp [get_eq_missing_iff, hown]

theorem descriptor_isSome {message : MediaMessage} (kind : K) :
    (message.descriptor kind).isSome = message.handle.isSome := by
  unfold MediaMessage.descriptor MediaMessage.handle
  cases message.media with
  | none => rfl
  | some media =>
    simp only [Option.bind_some]
    cases media.id with
    | none => rfl
    | some id =>
      by_cases hempty : id = ""
      · simp [hempty]
      · simp [hempty]

theorem toInboundMedia_eq_iff :
    toInboundMedia message = inboundMediaOf message ↔ message.type ∉ inheritedNames ∨ message.handle = none := by
  unfold toInboundMedia inboundMediaOf
  cases hown : getOwn mediaKindsByType message.type with
  | some =>
    rw [get_own hown]
    refine iff_of_true rfl (Or.inl fun hname => ?_)
    rw [(not_listed hname).2.2] at hown
    cases hown
  | none =>
    rw [get_of_not_own hown]
    by_cases hname : message.type ∈ inheritedNames
    · rw [if_pos hname]
      let named : Property MediaKind := .inherited message.type
      have hsome : (message.descriptor named).isSome = message.handle.isSome := descriptor_isSome _
      have hnone : message.descriptor named = none ↔ message.handle = none := by
        rw [← Option.not_isSome_iff_eq_none, ← Option.not_isSome_iff_eq_none, hsome]
      exact hnone.trans (or_iff_right (not_not_intro hname)).symm
    · rw [if_neg hname]
      exact iff_of_true rfl (Or.inl hname)

/-- A string is mapped to what its table lists, or to the answer for a string no table lists, exactly when it is not a
    name of the prototype; of media, also when there is nothing to download. -/
theorem provider_strings_map_safely (metaType metaStatus : String) (message : MediaMessage) :
    (toContentType metaType = .own (contentTypeOf metaType) ↔ metaType ∉ inheritedNames) ∧
      (toStatus metaStatus = statusOf metaStatus ↔ metaStatus ∉ inheritedNames) ∧
      (toInboundMedia message = inboundMediaOf message ↔ message.type ∉ inheritedNames ∨ message.handle = none) :=
  ⟨toContentType_eq_iff metaType, toStatus_eq_iff metaStatus, toInboundMedia_eq_iff message⟩

/-- `constructor` is neither `unsupported`, nor no status, nor without media. -/
theorem constructor_maps_to_the_prototype :
    let image : MediaObject := { id := some "1037543291543636", mimeType := some "image/jpeg", filename := none }
    toContentType "constructor" = .inherited "constructor" ∧ contentTypeOf "constructor" = .unsupported ∧
      toStatus "constructor" = .inherited "constructor" ∧ statusOf "constructor" = .missing ∧
      (toInboundMedia { type := "constructor", image := some image }).map InboundMediaDescriptor.kind =
        some (.inherited "constructor") ∧
      inboundMediaOf { type := "constructor", image := some image } = none := by
  decide

open IsoDate (InRange)

abbrev Date := Option Millis

/-- The weight of the last of the 53 binary digits a double keeps of a number that has more. -/
def lastPlace (v : Nat) : Nat := 2 ^ (v.log2 - 52)

/-- Rounded to 53 binary digits, to the even one of two neighbours. -/
def rounded (v : Nat) : Nat :=
  let down := v / lastPlace v
  if 2 * (v % lastPlace v) < lastPlace v ∨ 2 * (v % lastPlace v) = lastPlace v ∧ down % 2 = 0 then down * lastPlace v
  else (down + 1) * lastPlace v

def firstInfinite : Nat := 2 ^ 1024

/-- The double nearest to a whole number; `none` is `Infinity`. -/
def double (v : Nat) : Option Nat :=
  if v < 2 ^ 53 then some v else if rounded v < firstInfinite then some (rounded v) else none

/-- `new Date(value)`, for a whole number of milliseconds. -/
def newDate (value : Int) : Date := if InRange value then some value else none

/-- `/^\d+$/`. -/
def isTimestamp (text : List Char) : Bool := !text.isEmpty && text.all Json.isDigit

/-- `new Date(Number(seconds) * 1_000)`. -/
def timestampDate (text : List Char) : Date :=
  ((double (Json.digitsValue text)).bind fun seconds => double (seconds * 1000)).bind fun value => newDate value

def ProviderTimestampSchema (text : List Char) : Option Date :=
  if isTimestamp text then some (timestampDate text) else none

/-- `new Date(sentAt.getTime() + SERVICE_WINDOW_MS)`: the time value of an invalid date is `NaN`. -/
def serviceWindowEndDate (sentAt : Date) : Date := sentAt.bind fun value => newDate (serviceWindowEnd value)

def UsableTimestamp (sentAt : Date) : Prop :=
  ∃ value, sentAt = some value ∧ InRange value ∧
    serviceWindowEndDate sentAt = some (serviceWindowEnd value) ∧ InRange (serviceWindowEnd value)

/-- The last second whose window ends within the range of a date. -/
def lastSecond : Nat := 8639999913600

theorem lastSecond_eq : lastSecond = 8639999913600 := rfl

theorem double_of_lt (h : v < 2 ^ 53) : double v = some v := if_pos h

theorem le_rounded (hv : 2 ^ 53 ≤ v) : 2 ^ 53 ≤ rounded v := by
  have hlog : 53 ≤ v.log2 := (Nat.le_log2 (by omega)).mpr hv
  have hlow : 2 ^ 52 ≤ v / lastPlace v := by
    rw [lastPlace, Nat.le_div_iff_mul_le (Nat.two_pow_pos _), ← Nat.pow_add, Nat.add_sub_cancel' (by omega)]
    exact Nat.log2_self_le (by omega)
  have hdown : 2 ^ 53 ≤ v / lastPlace v * lastPlace v := by
    calc 2 ^ 53 = 2 ^ 52 * 2 ^ 1 := by rw [← Nat.pow_add]
      _ ≤ v / lastPlace v * lastPlace v := Nat.mul_le_mul hlow (Nat.pow_le_pow_right (by omega) (by omega))
  simp only [rounded]
  split
  · exact hdown
  · rw [Nat.add_mul]
    exact Nat.le_add_right_of_le hdown

theorem le_double (hv : 2 ^ 53 ≤ v) (h : double v = some d) : 2 ^ 53 ≤ d := by
  rw [double, if_neg (Nat.not_lt.mpr hv)] at h
  split at h
  · exact Option.some.inj h ▸ le_rounded hv
  · exact absurd h (Option.some_ne_none d).symm

theorem newDate_eq_some : newDate value = some t ↔ InRange value ∧ value = t := by
  simp [newDate]

theorem timestampDate_of_le (h : Json.digitsValue text ≤ lastSecond) :
    timestampDate text = some ((Json.digitsValue text * 1000 : Nat) : Int) := by
  rw [lastSecond_eq] at h
  rw [timestampDate, double_of_lt (by omega), Option.bind_some, double_of_lt (by omega), Option.bind_some,
    newDate_eq_some]
  unfold InRange
  omega

theorem lt_timestampDate {value : Int} (h : lastSecond < Json.digitsValue text)
    (hdate : timestampDate text = some value) : 1000 * lastSecond < value := by
  rw [lastSecond_eq] at h ⊢
  obtain ⟨product, hscaled, hnew⟩ := Option.bind_eq_some_iff.mp hdate
  obtain ⟨seconds, hseconds, hproduct⟩ := Option.bind_eq_some_iff.mp hscaled
  have hlow : 8639999913600 < seconds := by
    by_cases hsmall : Json.digitsValue text < 2 ^ 53
    · rw [double_of_lt hsmall] at hseconds
      cases hseconds
      exact h
    · have := le_double (Nat.not_lt.mp hsmall) hseconds
      omega
  have hvalue := (newDate_eq_some.mp hnew).2
  by_cases hsmall : seconds * 1000 < 2 ^ 53
  · rw [double_of_lt hsmall] at hproduct
    cases hproduct
    omega
  · have := le_double (Nat.not_lt.mp hsmall) hproduct
    omega

theorem accepted_timestamp_usable_iff {sentAt : Date} (h : ProviderTimestampSchema text = some sentAt) :
    UsableTimestamp sentAt ↔ Json.digitsValue text ≤ lastSecond := by
  have hdate : timestampDate text = sentAt := by
    unfold ProviderTimestampSchema at h
    split at h
    · exact Option.some.inj h
    · cases h
  subst hdate
  rw [lastSecond_eq]
  constructor
  · rintro ⟨value, hvalue, -, -, hend⟩
    by_contra hlater
    have hlt := lt_timestampDate (lastSecond_eq ▸ Nat.not_le.mp hlater) hvalue
    rw [lastSecond_eq] at hlt
    simp only [InRange, serviceWindowEnd, serviceWindowMs] at hend
    omega
  · intro hle
    have hvalue := timestampDate_of_le (lastSecond_eq ▸ hle)
    have hrange : InRange (serviceWindowEnd ((Json.digitsValue text * 1000 : Nat) : Int)) := by
      simp only [InRange, serviceWindowEnd, serviceWindowMs]
      omega
    refine ⟨_, hvalue, ?_, ?_, hrange⟩
    · unfold InRange
      omega
    · rw [hvalue, serviceWindowEndDate, Option.bind_some, newDate, if_pos hrange]

theorem accepted_timestamp_usable_iff_lastSecond :
    ∃ sentAt, ProviderTimestampSchema "8639999913600".toList = some sentAt ∧
      (UsableTimestamp sentAt ↔ Json.digitsValue "8639999913600".toList ≤ lastSecond) :=
  ⟨some 8639999913600000, by decide +kernel, accepted_timestamp_usable_iff (by decide +kernel)⟩

/-- One second later the date is still valid and the end of its window is not. -/
theorem accepted_timestamp_not_usable :
    ¬ ∀ text sentAt, ProviderTimestampSchema text = some sentAt → UsableTimestamp sentAt := by
  intro hclaim
  have husable := hclaim "8639999913601".toList (some 8639999913601000) (by decide +kernel)
  obtain ⟨value, hvalue, -, hend, -⟩ := husable
  cases hvalue
  exact absurd hend (by decide +kernel)

end WhatsappCrm.Webhooks
