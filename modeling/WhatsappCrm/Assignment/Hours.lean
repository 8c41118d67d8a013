/-
Purpose: The two readers of a tenant's business hours: the routing engine (`assignment/rule-engine.service.ts`) and the
  workflow fact sheet (`workflows/workflow-fact-sheet.service.ts`).
-/
import WhatsappCrm.Assignment.RuleConditions
import WhatsappCrm.Tenancy.BusinessHours

namespace WhatsappCrm.Assignment

open Tenancy

def clockTime? : Json → Option ClockTime
  | .string text =>
    if h : clockTimeSchema (String.ofList text).toList = true then some ⟨String.ofList text, h⟩ else none
  | _ => none

def member? (name : String) (members : List (List Char × Json)) : Option Json := members.lookup name.toList

/-- `BusinessHoursIntervalSchema`. -/
def interval? : Json → Option BusinessHoursInterval
  | .object members => do
    let start ← clockTime? (← member? "from" members)
    let stop ← clockTime? (← member? "to" members)
    some { start, stop }
  | _ => none

def intervals? : Json → Option { intervals : List BusinessHoursInterval // intervals.length ≤ 4 }
  | .array items => do
    let intervals ← items.mapM interval?
    if h : intervals.length ≤ 4 then some ⟨intervals, h⟩ else none
  | _ => none

def businessDay? (name : List Char) : Option BusinessDay :=
  [("mon", BusinessDay.mon), ("tue", .tue), ("wed", .wed), ("thu", .thu), ("fri", .fri), ("sat", .sat), ("sun", .sun)].lookup
    (String.ofList name)

def weekOf (days : List (BusinessDay × { intervals : List BusinessHoursInterval // intervals.length ≤ 4 })) :
    BusinessHours where
  day d := (days.lookup d).map Subtype.val
  atMostFour d intervals h := by
    obtain ⟨listed, _, hlisted⟩ := Option.map_eq_some_iff.mp (Option.mem_def.mp h)
    rw [← hlisted]
    exact listed.property

/-- `BusinessHoursSchema.safeParse`: a partial record over the days, in which any other name is refused. -/
def businessHours? : Json → Option BusinessHours
  | .object members =>
    let entry := fun (m : List Char × Json) => do
      let day ← businessDay? m.1
      let intervals ← intervals? m.2
      some (day, intervals)
    ((members.filter fun m => m.1 ≠ "__proto__".toList).mapM entry).map weekOf
  | _ => none

/-- The two columns of `tenant_settings`. A column that is null is no value. -/
structure TenantHours where
  businessHours : Option Json
  timezone : String

/-- The stored value, unless the row is missing, the column is null or the value is `null`. -/
def stored (settings : Option TenantHours) : Option Json :=
  settings.bind fun row => row.businessHours.bind fun value =>
    match value with
    | .null => none
    | value => some value

def hasAnyOpenInterval (hours : BusinessHours) : Bool :=
  businessDays.any fun d => ((hours.day d).elim 0 List.length) > 0

section Readers

-- `wallClockIn`, which is `Intl`: `none` where it throws on a zone it does not know.
variable (wallClockIn : String → Millis → Option WallClock)

def readRoutingHours (settings : Option TenantHours) (instant : Millis) : Option Bool :=
  match settings, stored settings with
  | some row, some value =>
    match businessHours? value with
    | none => none
    | some hours =>
      if hasAnyOpenInterval hours then
        (wallClockIn row.timezone instant).map (isWithinBusinessHours (some hours))
      else none
  | _, _ => none

def readSheetHours (settings : Option TenantHours) (instant : Millis) : Option Bool :=
  match settings, stored settings with
  | some row, some value =>
    match businessHours? value with
    | none => none
    | some hours => (wallClockIn row.timezone instant).map (isWithinBusinessHours (some hours))
  | _, _ => none

/-- The hours parse, no day has an interval, and the zone is one the runtime knows. -/
def NeverOpen (settings : Option TenantHours) (instant : Millis) : Prop :=
  ∃ row value hours, settings = some row ∧ stored settings = some value ∧ businessHours? value = some hours ∧
    hasAnyOpenInterval hours = false ∧ (wallClockIn row.timezone instant).isSome = true

variable {wallClockIn}

theorem covers_of_not_open (h : hasAnyOpenInterval hours = false) (d : BusinessDay)
    (minutes : Nat) : covers (hours.day d) minutes = false := by
  have hall : ∀ d, ((hours.day d).elim 0 List.length) = 0 := by
    intro d
    have hd : d ∈ businessDays := by cases d <;> decide
    have hnone := List.any_eq_false.mp h d hd
    simpa using hnone
  have hempty := hall d
  cases hday : hours.day d with
  | none => rfl
  | some =>
    rw [hday] at hempty
    rw [List.length_eq_zero_iff.mp hempty]
    rfl

theorem isWithinBusinessHours_of_not_open (h : hasAnyOpenInterval hours = false)
    (clock : WallClock) : isWithinBusinessHours (some hours) clock = false := by
  rw [isWithinBusinessHours, covers_of_not_open h, covers_of_not_open h]
  rfl

theorem NeverOpen.answers (h : NeverOpen wallClockIn settings instant) :
    readRoutingHours wallClockIn settings instant = none ∧ readSheetHours wallClockIn settings instant = some false := by
  obtain ⟨row, value, hours, rfl, hvalue, hhours, hopen, hclock⟩ := h
  obtain ⟨clock, hclock⟩ := Option.isSome_iff_exists.mp hclock
  constructor
  · simp [readRoutingHours, hvalue, hhours, hopen]
  · simp [readSheetHours, hvalue, hhours, hclock, isWithinBusinessHours_of_not_open hopen]

theorem readers_agree_iff (settings : Option TenantHours) (instant : Millis) :
    readRoutingHours wallClockIn settings instant = readSheetHours wallClockIn settings instant ↔
      ¬NeverOpen wallClockIn settings instant := by
  constructor
  · intro hagree hnever
    obtain ⟨hrouting, hsheet⟩ := hnever.answers
    rw [hrouting, hsheet] at hagree
    cases hagree
  · intro hnever
    unfold readRoutingHours readSheetHours
    split
    · rename_i row value hvalue
      cases hhours : businessHours? value with
      | none => rfl
      | some hours =>
        dsimp only
        split
        · rfl
        · rename_i hclosed
          cases hclock : wallClockIn row.timezone instant with
          | none => rfl
          | some =>
            have hsome : (wallClockIn row.timezone instant).isSome = true := by
              rw [hclock]
              rfl
            exact absurd ⟨row, value, hours, rfl, hvalue, hhours, Bool.not_eq_true _ ▸ hclosed, hsome⟩ hnever
    · rfl

theorem verdicts_agree_iff (unicode : Ai.Unicode) (facts : RoutingFacts) (sheet : Workflows.WorkflowFacts) :
    (∀ within : Bool, conditionMatches unicode (.businessHours within) facts =
        .ok (Workflows.evaluateCondition (.businessHours within) sheet).held) ↔
      facts.withinBusinessHours = sheet.withinBusinessHours := by
  simp only [conditionMatches, Workflows.evaluateCondition, Except.ok.injEq]
  cases facts.withinBusinessHours with
  | none =>
    cases sheet.withinBusinessHours with
    | none => simp
    | some => simp [Workflows.held]
  | some routing =>
    cases sheet.withinBusinessHours with
    | none => simp
    | some value => cases routing <;> cases value <;> simp [Workflows.held]

end Readers

/-- The two readers agree, and with them a rule and a workflow on both of their conditions, exactly when the hours are not
    ones that are never open, read in a known zone. -/
theorem business_hours_mean_the_same (wallClockIn : String → Millis → Option WallClock) (settings : Option TenantHours)
    (instant : Millis) (unicode : Ai.Unicode) (facts : RoutingFacts) (sheet : Workflows.WorkflowFacts) :
    (readRoutingHours wallClockIn settings instant = readSheetHours wallClockIn settings instant ↔
        ¬NeverOpen wallClockIn settings instant) ∧
      ((∀ within : Bool,
          conditionMatches unicode (.businessHours within)
              { facts with withinBusinessHours := readRoutingHours wallClockIn settings instant } =
            .ok (Workflows.evaluateCondition (.businessHours within)
              { sheet with withinBusinessHours := readSheetHours wallClockIn settings instant }).held) ↔
        ¬NeverOpen wallClockIn settings instant) :=
  ⟨readers_agree_iff settings instant, (verdicts_agree_iff unicode _ _).trans (readers_agree_iff settings instant)⟩

def epochClock (zone : String) (_ : Millis) : Option WallClock := if zone = "UTC" then some (wallClock .thu 0 0) else none

/-- Of a tenant that stored `{}` the fact sheet says closed and the routing engine nothing. -/
theorem empty_hours_split_the_readers :
    let settings : Option TenantHours := some { businessHours := some (.object []), timezone := "UTC" }
    readRoutingHours epochClock settings 0 = none ∧ readSheetHours epochClock settings 0 = some false := by
  decide

end WhatsappCrm.Assignment
