/-
Purpose: Instants in milliseconds and their text `YYYY-MM-DDTHH:mm:ss.sssZ`, in the proleptic Gregorian calendar. A year
  outside 0 to 9999 is written with a sign and six digits.
-/
import WhatsappCrm.Lib.Numeral

namespace IsoDate

open Numeral

def dayFromYear (year : Int) : Int :=
  365 * (year - 1970) + (year - 1969) / 4 - (year - 1901) / 100 + (year - 1601) / 400

def nearYear (day : Int) : Int := 1970 + day * 400 / 146097

def yearFromDay (day : Int) : Int :=
  if day < dayFromYear (nearYear day) then nearYear day - 1
  else if dayFromYear (nearYear day + 1) ≤ day then nearYear day + 1
  else nearYear day

theorem dayFromYear_nearYear (day : Int) :
    dayFromYear (nearYear day - 1) ≤ day ∧ day < dayFromYear (nearYear day + 1 + 1) := by
  unfold dayFromYear nearYear
  omega

theorem dayFromYear_yearFromDay_le (day : Int) : dayFromYear (yearFromDay day) ≤ day := by
  unfold yearFromDay
  split
  · exact (dayFromYear_nearYear day).1
  · rename_i hle
    split
    · assumption
    · exact Int.not_lt.mp hle

theorem lt_dayFromYear_yearFromDay (day : Int) : day < dayFromYear (yearFromDay day + 1) := by
  unfold yearFromDay
  split
  · rename_i hlt
    rwa [Int.sub_add_cancel]
  · split
    · exact (dayFromYear_nearYear day).2
    · rename_i hle
      exact Int.not_le.mp hle

def leapDay (year : Int) : Int := if year % 4 = 0 ∧ (year % 100 ≠ 0 ∨ year % 400 = 0) then 1 else 0

theorem dayFromYear_succ (year : Int) : dayFromYear (year + 1) = dayFromYear year + 365 + leapDay year := by
  unfold dayFromYear leapDay
  split <;> omega

theorem leapDay_nonneg (year : Int) : 0 ≤ leapDay year := by
  unfold leapDay
  split <;> decide

theorem leapDay_le (year : Int) : leapDay year ≤ 1 := by
  unfold leapDay
  split <;> decide

/-- The day of the year a month begins, January being month 1. -/
def monthStart (leap : Int) : Nat → Int
  | 1 => 0
  | 2 => 31
  | 3 => 59 + leap
  | 4 => 90 + leap
  | 5 => 120 + leap
  | 6 => 151 + leap
  | 7 => 181 + leap
  | 8 => 212 + leap
  | 9 => 243 + leap
  | 10 => 273 + leap
  | 11 => 304 + leap
  | _ => 334 + leap

/-- The month of a day of the year. -/
def monthFromDay (leap day : Int) : Nat :=
  if day < monthStart leap 2 then 1
  else if day < monthStart leap 3 then 2
  else if day < monthStart leap 4 then 3
  else if day < monthStart leap 5 then 4
  else if day < monthStart leap 6 then 5
  else if day < monthStart leap 7 then 6
  else if day < monthStart leap 8 then 7
  else if day < monthStart leap 9 then 8
  else if day < monthStart leap 10 then 9
  else if day < monthStart leap 11 then 10
  else if day < monthStart leap 12 then 11
  else 12

theorem monthFromDay_spec (hleap : 0 ≤ leap ∧ leap ≤ 1) (hday : 0 ≤ day ∧ day < 365 + leap) :
    (1 ≤ monthFromDay leap day ∧ monthFromDay leap day ≤ 12) ∧ monthStart leap (monthFromDay leap day) ≤ day ∧
      day < monthStart leap (monthFromDay leap day) + 31 := by
  generalize hmonth : monthFromDay leap day = month
  iterate 11
    rcases ite_eq_iff.mp hmonth with ⟨_, rfl⟩ | ⟨_, hmonth⟩
    · simp only [monthStart] at *
      omega
  subst hmonth
  simp only [monthStart] at *
  omega

/-- The instants that have a text. -/
def InRange (t : Int) : Prop := -8640000000000000 ≤ t ∧ t ≤ 8640000000000000

instance (t : Int) : Decidable (InRange t) := inferInstanceAs (Decidable (_ ∧ _))

def msPerDay : Int := 86400000

structure Fields where
  year : Int
  month : Nat
  date : Nat
  hour : Nat
  minute : Nat
  second : Nat
  milli : Nat

namespace Fields

def ofInstant (t : Int) : Fields :=
  let day := t / msPerDay
  let year := yearFromDay day
  let month := monthFromDay (leapDay year) (day - dayFromYear year)
  { year
    month
    date := (day - dayFromYear year - monthStart (leapDay year) month + 1).toNat
    hour := (t % msPerDay / 3600000).toNat
    minute := (t % msPerDay / 60000 % 60).toNat
    second := (t % msPerDay / 1000 % 60).toNat
    milli := (t % msPerDay % 1000).toNat }

def instant (f : Fields) : Int :=
  (dayFromYear f.year + monthStart (leapDay f.year) f.month + (f.date - 1)) * msPerDay +
    (f.hour * 3600000 + f.minute * 60000 + f.second * 1000 + f.milli)

/-- Each field is in its range. The last hour is 24 only at midnight. -/
structure Valid (f : Fields) : Prop where
  year : -1000000 < f.year ∧ f.year < 1000000
  month : 1 ≤ f.month ∧ f.month ≤ 12
  date : 1 ≤ f.date ∧ f.date ≤ 31
  hour : f.hour ≤ 23 ∨ (f.hour = 24 ∧ f.minute = 0 ∧ f.second = 0 ∧ f.milli = 0)
  minute : f.minute ≤ 59
  second : f.second ≤ 59
  milli : f.milli ≤ 999

instance (f : Fields) : Decidable f.Valid :=
  decidable_of_iff
    ((-1000000 < f.year ∧ f.year < 1000000) ∧ (1 ≤ f.month ∧ f.month ≤ 12) ∧ (1 ≤ f.date ∧ f.date ≤ 31) ∧
      (f.hour ≤ 23 ∨ (f.hour = 24 ∧ f.minute = 0 ∧ f.second = 0 ∧ f.milli = 0)) ∧ f.minute ≤ 59 ∧ f.second ≤ 59 ∧
      f.milli ≤ 999)
    ⟨fun ⟨hy, hm, hd, hh, hn, hs, hl⟩ => ⟨hy, hm, hd, hh, hn, hs, hl⟩,
      fun h => ⟨h.year, h.month, h.date, h.hour, h.minute, h.second, h.milli⟩⟩

theorem day_of_year (day : Int) : 0 ≤ day - dayFromYear (yearFromDay day) ∧
      day - dayFromYear (yearFromDay day) < 365 + leapDay (yearFromDay day) := by
  have hle := dayFromYear_yearFromDay_le day
  have hlt := lt_dayFromYear_yearFromDay day
  rw [dayFromYear_succ] at hlt
  omega

theorem instant_ofInstant (t : Int) : (ofInstant t).instant = t := by
  have hyear := day_of_year (t / msPerDay)
  have hmonth := monthFromDay_spec ⟨leapDay_nonneg _, leapDay_le _⟩ hyear
  simp only [instant, ofInstant]
  unfold msPerDay at *
  omega

theorem valid_ofInstant (ht : InRange t) : (ofInstant t).Valid := by
  have hyear := day_of_year (t / msPerDay)
  obtain ⟨htwelve, hstart, hend⟩ := monthFromDay_spec ⟨leapDay_nonneg _, leapDay_le _⟩ hyear
  constructor
  · have hle := dayFromYear_yearFromDay_le (t / msPerDay)
    have hlt := lt_dayFromYear_yearFromDay (t / msPerDay)
    simp only [ofInstant]
    unfold InRange at ht
    unfold msPerDay dayFromYear at *
    omega
  · exact htwelve
  · simp only [ofInstant]
    omega
  · simp only [ofInstant]
    unfold msPerDay
    omega
  · simp only [ofInstant]
    omega
  · simp only [ofInstant]
    omega
  · simp only [ofInstant]
    omega

end Fields

def writeYear (year : Int) : List Char :=
  if 0 ≤ year ∧ year ≤ 9999 then decimal.write 4 year.toNat
  else (if year < 0 then '-' else '+') :: decimal.write 6 year.natAbs

def Fields.text (f : Fields) : List Char :=
  writeYear f.year ++ '-' :: (decimal.write 2 f.month ++ '-' :: (decimal.write 2 f.date ++ 'T' ::
    (decimal.write 2 f.hour ++ ':' :: (decimal.write 2 f.minute ++ ':' :: (decimal.write 2 f.second ++ '.' ::
      (decimal.write 3 f.milli ++ ['Z']))))))

/-- `Date.prototype.toISOString`, `none` where it throws. -/
def toISOString (t : Int) : Option (List Char) := if InRange t then some (Fields.ofInstant t).text else none

/-- Four digits, or a sign and six. There is no year `-000000`. -/
def readYear (text : List Char) : Option (Int × List Char) :=
  match text with
  | [] => none
  | c :: rest =>
    if c = '-' then
      match decimal.read 6 rest with
      | none => none
      | some (n, rest) => if n = 0 then none else some (-(n : Int), rest)
    else if c = '+' then (decimal.read 6 rest).map fun r => ((r.1 : Int), r.2)
    else (decimal.read 4 text).map fun r => ((r.1 : Int), r.2)

/-- The fields of a text in the full form. -/
def readFields (text : List Char) : Option Fields := do
  let (year, rest) ← readYear text
  let rest ← if rest.head? = some '-' then some rest.tail else none
  let (month, rest) ← decimal.readBefore 2 '-' rest
  let (date, rest) ← decimal.readBefore 2 'T' rest
  let (hour, rest) ← decimal.readBefore 2 ':' rest
  let (minute, rest) ← decimal.readBefore 2 ':' rest
  let (second, rest) ← decimal.readBefore 2 '.' rest
  let (milli, rest) ← decimal.readBefore 3 'Z' rest
  if rest = [] ∧ ({ year, month, date, hour, minute, second, milli } : Fields).Valid then
    some { year, month, date, hour, minute, second, milli }
  else none

/-- `Date.parse` of a text in the full form; an instant that no date is, is out of range. -/
def readISOString (text : List Char) : Option Int := (readFields text).map Fields.instant

theorem readField_write (width n : Nat) (hn : n < 10 ^ width) (stop : Char) (rest : List Char) :
    decimal.readBefore width stop (decimal.write width n ++ stop :: rest) = some (n, rest) :=
  decimal.readBefore_write (by decide) hn stop rest

theorem readYear_write (hyear : -1000000 < year ∧ year < 1000000) (rest : List Char) :
    readYear (writeYear year ++ rest) = some (year, rest) := by
  unfold writeYear
  split
  · rename_i hfour
    have hread := @Alphabet.read_write decimal 4 year.toNat (by decide) (by simp [decimal]; omega) rest
    obtain ⟨d, rest', hd, htext⟩ : ∃ d rest', d < 10 ∧ decimal.write 4 year.toNat ++ rest = decimal.char d :: rest' :=
      ⟨_, _, Nat.mod_lt _ (by decide), rfl⟩
    have hminus : ∀ d, d < 10 → decimal.char d ≠ '-' ∧ decimal.char d ≠ '+' := by decide
    rw [htext] at hread ⊢
    simp only [readYear, if_neg (hminus d hd).1, if_neg (hminus d hd).2, hread, Option.map_some]
    congr 2
    omega
  · rename_i hfour
    have hread := @Alphabet.read_write decimal 6 year.natAbs (by decide) (by simp [decimal]; omega) rest
    split
    · rename_i hneg
      simp only [List.cons_append, readYear, if_true, hread, if_neg (show year.natAbs ≠ 0 by omega)]
      congr 2
      omega
    · rename_i hneg
      have hplus : ¬ '+' = '-' := by decide
      simp only [List.cons_append, readYear, if_neg hplus, if_true, hread, Option.map_some]
      congr 2
      omega

theorem readFields_text {f : Fields} (hf : f.Valid) : readFields f.text = some f := by
  obtain ⟨hyear, hmonth, hdate, hhour, hminute, hsecond, hmilli⟩ := id hf
  simp only [readFields, Fields.text, readYear_write hyear, Option.bind_eq_bind, Option.bind_some, List.head?_cons,
    if_true, List.tail_cons, readField_write 2 f.month (by omega),
    readField_write 2 f.date (by omega), readField_write 2 f.hour (by omega),
    readField_write 2 f.minute (by omega), readField_write 2 f.second (by omega),
    readField_write 3 f.milli (by omega)]
  exact if_pos ⟨trivial, hf⟩

theorem readISOString_toISOString {text : List Char} (h : toISOString t = some text) : readISOString text = some t := by
  unfold toISOString at h
  split at h
  · rename_i ht
    cases h
    rw [readISOString, readFields_text (Fields.valid_ofInstant ht), Option.map_some, Fields.instant_ofInstant]
  · cases h

theorem inRange_of_toISOString {text : List Char} (h : toISOString t = some text) : InRange t := by
  unfold toISOString at h
  split at h
  · assumption
  · cases h

end IsoDate
