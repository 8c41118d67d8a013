/-
Purpose: Months as the database counts them, in UTC: `age`, and adding months.
-/
import Mathlib.Data.Int.ConditionallyCompleteOrder
import Mathlib.Order.SuccPred.IntervalSucc
import WhatsappCrm.Lib.IsoDate

namespace Calendar

open IsoDate

def monthBegin (month : Int) : Int :=
  dayFromYear (month / 12) + monthStart (leapDay (month / 12)) ((month % 12).toNat + 1)

def monthOf (day : Int) : Int :=
  yearFromDay day * 12 + (monthFromDay (leapDay (yearFromDay day)) (day - dayFromYear (yearFromDay day)) - 1)

def monthLength (month : Int) : Int := monthBegin (month + 1) - monthBegin month

/-- A month has at least 28 days and at most 31. -/
theorem monthLength_bounds (month : Int) : 28 ≤ monthLength month ∧ monthLength month ≤ 31 := by
  have hleap := leapDay_nonneg (month / 12)
  have hleap' := leapDay_le (month / 12)
  unfold monthLength monthBegin
  have hcases : month % 12 = 11 ∨ month % 12 < 11 := by omega
  rcases hcases with hlast | hother
  · have hyear : (month + 1) / 12 = month / 12 + 1 := by omega
    have hmonth : (month + 1) % 12 = 0 := by omega
    rw [hyear, hmonth, hlast, dayFromYear_succ]
    simp [monthStart]
    omega
  · have hyear : (month + 1) / 12 = month / 12 := by omega
    have hmonth : (month + 1) % 12 = month % 12 + 1 := by omega
    rw [hyear, hmonth]
    generalize leapDay (month / 12) = leap at *
    generalize dayFromYear (month / 12) = begin
    have hnonneg : 0 ≤ month % 12 := by omega
    generalize month % 12 = m at *
    have hm : m = 0 ∨ m = 1 ∨ m = 2 ∨ m = 3 ∨ m = 4 ∨ m = 5 ∨ m = 6 ∨ m = 7 ∨ m = 8 ∨ m = 9 ∨ m = 10 := by omega
    rcases hm with rfl | rfl | rfl | rfl | rfl | rfl | rfl | rfl | rfl | rfl | rfl <;> simp [monthStart]
    -- only February depends on the year
    omega

theorem monthBegin_lt_succ (month : Int) : monthBegin month < monthBegin (month + 1) := by
  have hlength := (monthLength_bounds month).1
  unfold monthLength at hlength
  omega

theorem monthBegin_strictMono : StrictMono monthBegin := strictMono_int_of_lt_succ monthBegin_lt_succ

theorem monthFromDay_lt_next (leap day : Int) :
    monthFromDay leap day = 12 ∨ day < monthStart leap (monthFromDay leap day + 1) := by
  generalize hmonth : monthFromDay leap day = month
  iterate 11
    rcases ite_eq_iff.mp hmonth with ⟨hlt, rfl⟩ | ⟨_, hmonth⟩
    · exact .inr hlt
  exact .inl hmonth.symm

theorem monthBegin_monthOf (day : Int) : monthBegin (monthOf day) ≤ day ∧ day < monthBegin (monthOf day + 1) := by
  have hyear := Fields.day_of_year day
  obtain ⟨htwelve, hstart, _⟩ := monthFromDay_spec ⟨leapDay_nonneg (yearFromDay day), leapDay_le _⟩ hyear
  have hnext := monthFromDay_lt_next (leapDay (yearFromDay day)) (day - dayFromYear (yearFromDay day))
  generalize hm : monthFromDay (leapDay (yearFromDay day)) (day - dayFromYear (yearFromDay day)) = m at *
  have hmonth : monthOf day = yearFromDay day * 12 + (m - 1) := by rw [monthOf, hm]
  generalize yearFromDay day = year at *
  have hdiv : monthOf day / 12 = year := by omega
  have hmod : (monthOf day % 12).toNat + 1 = m := by omega
  constructor
  · rw [monthBegin, hdiv, hmod]
    omega
  · rcases hnext with hlast | hother
    · have hdiv' : (monthOf day + 1) / 12 = year + 1 := by omega
      have hmod' : ((monthOf day + 1) % 12).toNat + 1 = 1 := by omega
      rw [monthBegin, hdiv', hmod', dayFromYear_succ]
      simp only [monthStart]
      omega
    · have htwelve' : m ≠ 12 := fun h => by
        rw [h] at hother hstart
        simp only [monthStart] at hother hstart
        omega
      have hdiv' : (monthOf day + 1) / 12 = year := by omega
      have hmod' : ((monthOf day + 1) % 12).toNat + 1 = m + 1 := by omega
      rw [monthBegin, hdiv', hmod']
      omega

theorem monthOf_eq (hbegin : monthBegin month ≤ day) (hend : day < monthBegin (month + 1)) : monthOf day = month := by
  obtain ⟨hle, hlt⟩ := monthBegin_monthOf day
  have h₁ := monthBegin_strictMono.lt_iff_lt.mp (hle.trans_lt hend)
  have h₂ := monthBegin_strictMono.lt_iff_lt.mp (hbegin.trans_lt hlt)
  omega

def dateOf (day : Int) : Int := day - monthBegin (monthOf day)

theorem dateOf_bounds (day : Int) : 0 ≤ dateOf day ∧ dateOf day < monthLength (monthOf day) := by
  have hday := monthBegin_monthOf day
  unfold dateOf monthLength
  omega

def addMonths (t months : Int) : Int :=
  let month := monthOf (t / msPerDay) + months
  (monthBegin month + min (dateOf (t / msPerDay)) (monthLength month - 1)) * msPerDay + t % msPerDay

/-- An interval between two instants, field by field. -/
structure Age where
  years : Int
  months : Int
  days : Int
  time : Int

/-- The fields of the later instant less those of the earlier; a negative one borrows from the next. -/
def ageSince (later earlier : Int) : Age :=
  let time := later % msPerDay - earlier % msPerDay
  let days := dateOf (later / msPerDay) - dateOf (earlier / msPerDay) - if time < 0 then 1 else 0
  let months := monthOf (later / msPerDay) - monthOf (earlier / msPerDay) - if days < 0 then 1 else 0
  { years := months / 12
    months := months % 12
    days := if days < 0 then days + monthLength (monthOf (earlier / msPerDay)) else days
    time := if time < 0 then time + msPerDay else time }

/-- `age(timestamptz, timestamptz)`; of an earlier instant it is negative in every field. -/
def age (t since : Int) : Age :=
  if t < since then
    let back := ageSince since t
    { years := -back.years, months := -back.months, days := -back.days, time := -back.time }
  else ageSince t since

/-- `EXTRACT(YEAR FROM age(…)) * 12 + EXTRACT(MONTH FROM age(…))`. -/
def wholeMonths (t since : Int) : Int := (age t since).years * 12 + (age t since).months

def EarlierInMonth (t anchor : Int) : Prop :=
  dateOf (t / msPerDay) < dateOf (anchor / msPerDay) ∨
    dateOf (t / msPerDay) = dateOf (anchor / msPerDay) ∧ t % msPerDay < anchor % msPerDay

instance (t anchor : Int) : Decidable (EarlierInMonth t anchor) := inferInstanceAs (Decidable (_ ∨ _))

/-- From an anchor on, a month is counted when its date and time have come round. -/
theorem wholeMonths_eq (h : anchor ≤ t) : wholeMonths t anchor =
      monthOf (t / msPerDay) - monthOf (anchor / msPerDay) - if EarlierInMonth t anchor then 1 else 0 := by
  have hage : age t anchor = ageSince t anchor := if_neg (by omega)
  have hdays : (dateOf (t / msPerDay) - dateOf (anchor / msPerDay) -
      if t % msPerDay - anchor % msPerDay < 0 then 1 else 0) < 0 ↔ EarlierInMonth t anchor := by
    unfold EarlierInMonth
    split <;> omega
  rw [wholeMonths, hage]
  simp only [ageSince, hdays]
  omega

theorem day_time (t : Int) : t / msPerDay * msPerDay + t % msPerDay = t ∧ 0 ≤ t % msPerDay ∧ t % msPerDay < msPerDay := by
  unfold msPerDay
  omega

/-- An anniversary lies in the month it is counted to. -/
theorem addMonths_bounds (t n : Int) : monthBegin (monthOf (t / msPerDay) + n) * msPerDay ≤ addMonths t n ∧
      addMonths t n < monthBegin (monthOf (t / msPerDay) + n + 1) * msPerDay := by
  have hlength := (monthLength_bounds (monthOf (t / msPerDay) + n)).1
  have hdate := (dateOf_bounds (t / msPerDay)).1
  have htime := day_time t
  unfold monthLength at hlength
  simp only [addMonths, monthLength]
  generalize monthOf (t / msPerDay) + n = month at *
  generalize dateOf (t / msPerDay) = date at *
  generalize t % msPerDay = time at *
  unfold msPerDay at *
  omega

theorem addMonths_strictMono (t : Int) : StrictMono (addMonths t) := by
  apply strictMono_int_of_lt_succ
  intro n
  have hend := (addMonths_bounds t n).2
  have hbegin := (addMonths_bounds t (n + 1)).1
  rw [← Int.add_assoc] at hbegin
  omega

def PastShortMonth (t anchor : Int) : Prop :=
  monthLength (monthOf (t / msPerDay)) ≤ dateOf (anchor / msPerDay) ∧
    dateOf (t / msPerDay) = monthLength (monthOf (t / msPerDay)) - 1 ∧ anchor % msPerDay ≤ t % msPerDay

instance (t anchor : Int) : Decidable (PastShortMonth t anchor) := inferInstanceAs (Decidable (_ ∧ _ ∧ _))

theorem wholeMonths_nonneg (h : anchor ≤ t) : 0 ≤ wholeMonths t anchor := by
  rw [wholeMonths_eq h]
  have ht := monthBegin_monthOf (t / msPerDay)
  have hanchor := monthBegin_monthOf (anchor / msPerDay)
  have hdays : anchor / msPerDay ≤ t / msPerDay := by
    unfold msPerDay
    omega
  have hmonths : monthOf (anchor / msPerDay) ≤ monthOf (t / msPerDay) := by
    have hlt := monthBegin_strictMono.lt_iff_lt.mp (hanchor.1.trans_lt (hdays.trans_lt ht.2))
    omega
  split
  · rename_i hearlier
    -- within the anchor's month nothing after it comes earlier in the month
    have hother : monthOf (anchor / msPerDay) ≠ monthOf (t / msPerDay) := by
      intro hsame
      unfold EarlierInMonth dateOf at hearlier
      rw [hsame] at hearlier
      have htime := day_time t
      have htime' := day_time anchor
      unfold msPerDay at *
      omega
    omega
  · omega

/-- The anniversary that the counted months lead to is never later. -/
theorem monthBegin_add_dateOf (day : Int) : monthBegin (monthOf day) + dateOf day = day := by
  unfold dateOf
  omega

theorem addMonths_wholeMonths_le (h : anchor ≤ t) : addMonths anchor (wholeMonths t anchor) ≤ t := by
  have hday := monthBegin_monthOf (t / msPerDay)
  have htime := day_time t
  rw [wholeMonths_eq h]
  split
  · -- the anniversary is in the month before
    have hend := (addMonths_bounds anchor (monthOf (t / msPerDay) - monthOf (anchor / msPerDay) - 1)).2
    have hmonth : monthOf (anchor / msPerDay) + (monthOf (t / msPerDay) - monthOf (anchor / msPerDay) - 1) + 1 =
        monthOf (t / msPerDay) := by omega
    rw [hmonth] at hend
    unfold msPerDay at *
    omega
  · rename_i hround
    have hmonth : monthOf (anchor / msPerDay) + (monthOf (t / msPerDay) - monthOf (anchor / msPerDay) - 0) =
        monthOf (t / msPerDay) := by omega
    simp only [addMonths, hmonth]
    unfold EarlierInMonth at hround
    have hdate := monthBegin_add_dateOf (t / msPerDay)
    generalize dateOf (t / msPerDay) = date at *
    generalize dateOf (anchor / msPerDay) = date' at *
    generalize monthLength (monthOf (t / msPerDay)) = length at *
    generalize monthBegin (monthOf (t / msPerDay)) = begin at *
    unfold msPerDay at *
    omega

/-- The next one is later, but on the last day of a month too short for the anchor's date. -/
theorem lt_addMonths_wholeMonths_iff (h : anchor ≤ t) :
    t < addMonths anchor (wholeMonths t anchor + 1) ↔ ¬ PastShortMonth t anchor := by
  have hday := monthBegin_monthOf (t / msPerDay)
  have hbounds := dateOf_bounds (t / msPerDay)
  have htime := day_time t
  rw [wholeMonths_eq h]
  split
  · rename_i hearlier
    have hmonth : monthOf (anchor / msPerDay) + (monthOf (t / msPerDay) - monthOf (anchor / msPerDay) - 1 + 1) =
        monthOf (t / msPerDay) := by omega
    simp only [addMonths, hmonth]
    unfold PastShortMonth
    unfold EarlierInMonth at hearlier
    have hdate := monthBegin_add_dateOf (t / msPerDay)
    generalize dateOf (t / msPerDay) = date at *
    generalize dateOf (anchor / msPerDay) = date' at *
    generalize monthLength (monthOf (t / msPerDay)) = length at *
    generalize monthBegin (monthOf (t / msPerDay)) = begin at *
    unfold msPerDay at *
    omega
  · rename_i hround
    have hbegin := (addMonths_bounds anchor (monthOf (t / msPerDay) - monthOf (anchor / msPerDay) - 0 + 1)).1
    have hmonth : monthOf (anchor / msPerDay) + (monthOf (t / msPerDay) - monthOf (anchor / msPerDay) - 0 + 1) =
        monthOf (t / msPerDay) + 1 := by omega
    rw [hmonth] at hbegin
    apply iff_of_true
    · unfold msPerDay at *
      omega
    · rintro ⟨hshort, hlast, htimes⟩
      apply hround
      unfold EarlierInMonth
      omega

/-- The one after the next is later in any case. -/
theorem lt_addMonths_wholeMonths_add_two (h : anchor ≤ t) : t < addMonths anchor (wholeMonths t anchor + 1 + 1) := by
  have hday := monthBegin_monthOf (t / msPerDay)
  have htime := day_time t
  have hbegin := (addMonths_bounds anchor (monthOf (t / msPerDay) - monthOf (anchor / msPerDay) + 1)).1
  have hmonth : monthOf (anchor / msPerDay) + (monthOf (t / msPerDay) - monthOf (anchor / msPerDay) + 1) =
      monthOf (t / msPerDay) + 1 := by omega
  rw [hmonth] at hbegin
  have hle : monthOf (t / msPerDay) - monthOf (anchor / msPerDay) + 1 ≤ wholeMonths t anchor + 1 + 1 := by
    rw [wholeMonths_eq h]
    split <;> omega
  have hmono := (addMonths_strictMono anchor).monotone hle
  unfold msPerDay at *
  omega

theorem wholeMonths_next_month (h : anchor ≤ t) (hpast : PastShortMonth t anchor) :
    t < monthBegin (monthOf (t / msPerDay) + 1) * msPerDay ∧
      wholeMonths (monthBegin (monthOf (t / msPerDay) + 1) * msPerDay) anchor = wholeMonths t anchor + 1 := by
  have hday := monthBegin_monthOf (t / msPerDay)
  have hlength := (monthLength_bounds (monthOf (t / msPerDay))).1
  have htime := day_time t
  obtain ⟨hshort, hlast, htimes⟩ := hpast
  have hlt : t < monthBegin (monthOf (t / msPerDay) + 1) * msPerDay := by
    unfold msPerDay at *
    omega
  refine ⟨hlt, ?_⟩
  have hdiv : monthBegin (monthOf (t / msPerDay) + 1) * msPerDay / msPerDay = monthBegin (monthOf (t / msPerDay) + 1) := by
    unfold msPerDay
    omega
  have hmod : monthBegin (monthOf (t / msPerDay) + 1) * msPerDay % msPerDay = 0 := by
    unfold msPerDay
    omega
  have hmonth : monthOf (monthBegin (monthOf (t / msPerDay) + 1)) = monthOf (t / msPerDay) + 1 :=
    monthOf_eq (Int.le_refl _) (monthBegin_lt_succ _)
  have hfirst : dateOf (monthBegin (monthOf (t / msPerDay) + 1)) = 0 := by
    rw [dateOf, hmonth]
    omega
  rw [wholeMonths_eq (by omega), wholeMonths_eq h, hdiv, hmonth]
  have hearlier : EarlierInMonth (monthBegin (monthOf (t / msPerDay) + 1) * msPerDay) anchor := by
    unfold EarlierInMonth
    rw [hdiv, hfirst]
    omega
  have hearlier' : EarlierInMonth t anchor := by
    unfold EarlierInMonth
    omega
  rw [if_pos hearlier, if_pos hearlier']
  omega

end Calendar
