/-
Purpose: `isWithinBusinessHours` (`packages/contracts/src/tenant.ts`): the weekly opening hours of a tenant, and whether a
  point of the week lies in them.
-/
import WhatsappCrm.Lib.Numeral

namespace WhatsappCrm.Tenancy

/-- A digit that is at most `most`: `[0-5]` for 5, `\d` for 9. -/
def digitUpTo (most : Nat) (c : Char) : Bool := (Numeral.decimal.digit? c).any (· ≤ most)

/-- `ClockTimeSchema`: `/^([01]\d|2[0-3]):[0-5]\d$|^24:00$/`. -/
def clockTimeSchema : List Char → Bool
  | [h, h', colon, m, m'] =>
    ((digitUpTo 1 h && digitUpTo 9 h' || h = '2' && digitUpTo 3 h') && colon = ':' && digitUpTo 5 m && digitUpTo 9 m') ||
      [h, h', colon, m, m'] = "24:00".toList
  | _ => false

structure ClockTime where
  text : String
  valid : clockTimeSchema text.toList = true

def minutesPerDay : Nat := 24 * 60

/-- `Number`, of a string of digits. -/
def number (text : List Char) : Nat := Numeral.value 10 (text.filterMap Numeral.decimal.digit?)

/-- `toMinutes`: the parts before and after the first colon. -/
def toMinutes (clockTime : List Char) : Nat :=
  let hours := clockTime.takeWhile (· ≠ ':')
  let minutes := ((clockTime.dropWhile (· ≠ ':')).drop 1).takeWhile (· ≠ ':')
  number hours * 60 + number minutes

def ClockTime.minutes (t : ClockTime) : Nat := toMinutes t.text.toList

theorem digitUpTo_iff : digitUpTo most c = true ↔ ∃ d, Numeral.decimal.digit? c = some d ∧ d ≤ most := by
  simp [digitUpTo, Option.any_eq_true]

theorem ne_colon_of_digit (h : Numeral.decimal.digit? c = some d) : c ≠ ':' := by
  rintro rfl
  cases h

theorem toMinutes_digits (ha : Numeral.decimal.digit? h = some a)
    (hb : Numeral.decimal.digit? h' = some b) (hc : Numeral.decimal.digit? m = some c)
    (hd : Numeral.decimal.digit? m' = some d) : toMinutes [h, h', ':', m, m'] = (a * 10 + b) * 60 + (c * 10 + d) := by
  have h₁ := ne_colon_of_digit ha
  have h₂ := ne_colon_of_digit hb
  have h₃ := ne_colon_of_digit hc
  have h₄ := ne_colon_of_digit hd
  simp [toMinutes, number, Numeral.value, h₁, h₂, h₃, h₄, ha, hb, hc, hd]

theorem toMinutes_le (h : clockTimeSchema text = true) : toMinutes text ≤ minutesPerDay := by
  unfold clockTimeSchema at h
  split at h
  · rename_i h₁ h₂ colon m₁ m₂
    rcases Bool.or_eq_true_iff.mp h with hday | hend
    · simp only [Bool.and_eq_true, Bool.or_eq_true, decide_eq_true_eq] at hday
      obtain ⟨⟨⟨hhour, rfl⟩, hm₁⟩, hm₂⟩ := hday
      obtain ⟨c, hc, hc5⟩ := digitUpTo_iff.mp hm₁
      obtain ⟨d, hd, hd9⟩ := digitUpTo_iff.mp hm₂
      rcases hhour with ⟨hh₁, hh₂⟩ | ⟨rfl, hh₂⟩
      · obtain ⟨a, ha, ha1⟩ := digitUpTo_iff.mp hh₁
        obtain ⟨b, hb, hb9⟩ := digitUpTo_iff.mp hh₂
        rw [toMinutes_digits ha hb hc hd, minutesPerDay]
        omega
      · obtain ⟨b, hb, hb3⟩ := digitUpTo_iff.mp hh₂
        have htwo : Numeral.decimal.digit? '2' = some 2 := by decide
        rw [toMinutes_digits htwo hb hc hd, minutesPerDay]
        omega
    · rw [of_decide_eq_true hend]
      decide
  · cases h

theorem ClockTime.minutes_le (t : ClockTime) : t.minutes ≤ minutesPerDay := toMinutes_le t.valid

inductive BusinessDay where
  | mon
  | tue
  | wed
  | thu
  | fri
  | sat
  | sun
deriving DecidableEq

variable (day : BusinessDay)

def businessDays : List BusinessDay := [.mon, .tue, .wed, .thu, .fri, .sat, .sun]

/-- `BUSINESS_DAYS.indexOf`. -/
def BusinessDay.index : Nat := businessDays.idxOf day

structure BusinessHoursInterval where
  start : ClockTime
  stop : ClockTime

/-- `BusinessHoursSchema`: at most four intervals on each day that is there. -/
structure BusinessHours where
  day : BusinessDay → Option (List BusinessHoursInterval)
  atMostFour : ∀ d, ∀ intervals ∈ day d, intervals.length ≤ 4

structure WallClock where
  today : BusinessDay
  yesterday : BusinessDay
  minutes : Nat

def wallClock (weekday : BusinessDay) (hour minute : Nat) : WallClock where
  today := weekday
  yesterday := businessDays.getD ((weekday.index + 6) % 7) weekday
  minutes := hour * 60 + minute

def BusinessHoursInterval.finish (interval : BusinessHoursInterval) : Nat :=
  if interval.stop.minutes ≤ interval.start.minutes then interval.stop.minutes + minutesPerDay else interval.stop.minutes

def covers (intervals : Option (List BusinessHoursInterval)) (minutes : Nat) : Bool :=
  (intervals.getD []).any fun interval => interval.start.minutes ≤ minutes ∧ minutes < interval.finish

def isWithinBusinessHours (hours : Option BusinessHours) (clock : WallClock) : Bool :=
  match hours with
  | none => false
  | some hours =>
    covers (hours.day clock.today) clock.minutes || covers (hours.day clock.yesterday) (clock.minutes + minutesPerDay)

def minutesPerWeek : Int := 7 * minutesPerDay

def OnWeek (point start stop : Int) : Prop :=
  ∃ turns : Int, start ≤ point + turns * minutesPerWeek ∧ point + turns * minutesPerWeek < stop

def BusinessDay.at (minutes : Nat) : Int := day.index * minutesPerDay + minutes

/-- The next time the clock shows `stop`: on the same day when that is after `start`, otherwise on the following day. -/
def nextOccurrence (start stop : ClockTime) : Int :=
  if start.minutes < stop.minutes then day.at stop.minutes else day.at (stop.minutes + minutesPerDay)

def InSpan (hours : BusinessHours) (point : Int) : Prop :=
  ∃ day, ∃ interval ∈ (hours.day day).getD [],
    OnWeek point (day.at interval.start.minutes) (nextOccurrence day interval.start interval.stop)

theorem nextOccurrence_eq (interval : BusinessHoursInterval) :
    nextOccurrence day interval.start interval.stop = day.at interval.finish := by
  by_cases h : interval.start.minutes < interval.stop.minutes
  · rw [nextOccurrence, if_pos h, BusinessHoursInterval.finish, if_neg (Nat.not_le.mpr h)]
  · rw [nextOccurrence, if_neg h, BusinessHoursInterval.finish, if_pos (Nat.not_lt.mp h)]

theorem BusinessHoursInterval.finish_le (interval : BusinessHoursInterval) : interval.finish ≤ 2 * minutesPerDay := by
  have hstart := interval.start.minutes_le
  have hstop := interval.stop.minutes_le
  rw [finish]
  split <;> omega

theorem BusinessDay.index_lt : day.index < 7 := by cases day <;> decide

theorem BusinessDay.index_injective {day day' : BusinessDay} (h : day.index = day'.index) : day = day' := by
  cases day <;> cases day' <;> first | rfl | exact absurd h (by decide)

theorem wallClock_yesterday_index (weekday : BusinessDay) (hour minute : Nat) :
    (wallClock weekday hour minute).yesterday.index = (weekday.index + 6) % 7 := by
  cases weekday <;> rfl

theorem covers_iff : covers intervals minutes = true ↔
      ∃ interval ∈ intervals.getD [], interval.start.minutes ≤ minutes ∧ minutes < interval.finish := by
  simp [covers]

/-- A span reaches no further than the end of the day after its own, so a point in it is on its day or the next. -/
theorem onWeek_iff {weekday day : BusinessDay} (hminutes : minutes < minutesPerDay)
    (hfinish : finish ≤ 2 * minutesPerDay) : OnWeek (weekday.at minutes) (day.at start) (day.at finish) ↔
      (day = weekday ∧ start ≤ minutes ∧ minutes < finish) ∨
        (day.index = (weekday.index + 6) % 7 ∧ start ≤ minutes + minutesPerDay ∧ minutes + minutesPerDay < finish) := by
  have hday := day.index_lt
  have hweekday := weekday.index_lt
  simp only [OnWeek, BusinessDay.at, minutesPerWeek, minutesPerDay] at *
  constructor
  · rintro ⟨turns, hstart, hstop⟩
    -- `turns` weeks and the days between the two put the point on the span's day, or on the one after it.
    have hdays : (weekday.index : Int) - day.index + 7 * turns = 0 ∨ (weekday.index : Int) - day.index + 7 * turns = 1 := by
      omega
    rcases hdays with hsame | hnext
    · left
      have hindex : day.index = weekday.index := by omega
      exact ⟨BusinessDay.index_injective hindex, by omega, by omega⟩
    · right
      exact ⟨by omega, by omega, by omega⟩
  · rintro (⟨rfl, hstart, hstop⟩ | ⟨hindex, hstart, hstop⟩)
    · exact ⟨0, by omega, by omega⟩
    · by_cases hmonday : weekday.index = 0
      · exact ⟨1, by omega, by omega⟩
      · exact ⟨0, by omega, by omega⟩

/-- A point of the week is within the business hours exactly when it lies in one of their spans. -/
theorem isWithinBusinessHours_iff (hours : BusinessHours) (weekday : BusinessDay) {hour minute : Nat} (hhour : hour < 24)
    (hminute : minute < 60) : isWithinBusinessHours (some hours) (wallClock weekday hour minute) = true ↔
      InSpan hours (weekday.at (hour * 60 + minute)) := by
  have hminutes : hour * 60 + minute < minutesPerDay := by
    rw [minutesPerDay]
    omega
  have hyesterday := wallClock_yesterday_index weekday hour minute
  simp only [isWithinBusinessHours, Bool.or_eq_true, covers_iff, InSpan]
  constructor
  · rintro (⟨interval, hmem, hcovers⟩ | ⟨interval, hmem, hcovers⟩)
    · refine ⟨weekday, interval, hmem, ?_⟩
      rw [nextOccurrence_eq, onWeek_iff hminutes interval.finish_le]
      exact .inl ⟨rfl, hcovers⟩
    · refine ⟨_, interval, hmem, ?_⟩
      rw [nextOccurrence_eq, onWeek_iff hminutes interval.finish_le]
      exact .inr ⟨hyesterday, hcovers⟩
  · rintro ⟨day, interval, hmem, hspan⟩
    rw [nextOccurrence_eq, onWeek_iff hminutes interval.finish_le] at hspan
    rcases hspan with ⟨rfl, hcovers⟩ | ⟨hindex, hcovers⟩
    · exact .inl ⟨interval, hmem, hcovers⟩
    · have hday : day = (wallClock weekday hour minute).yesterday :=
        BusinessDay.index_injective (hindex.trans hyesterday.symm)
      rw [hday] at hmem
      exact .inr ⟨interval, hmem, hcovers⟩

/-- Friday from ten in the evening to two at night. -/
def lateFriday : BusinessHours where
  day
    | .fri => some [⟨⟨"22:00", by decide⟩, ⟨"02:00", by decide⟩⟩]
    | _ => none
  atMostFour d intervals h := by
    cases d <;> cases h
    decide

theorem isWithinBusinessHours_iff_lateFriday :
    isWithinBusinessHours (some lateFriday) (wallClock .sat 1 0) = true ↔ InSpan lateFriday (BusinessDay.sat.at (1 * 60 + 0)) :=
  isWithinBusinessHours_iff lateFriday .sat (by decide) (by decide)

end WhatsappCrm.Tenancy
