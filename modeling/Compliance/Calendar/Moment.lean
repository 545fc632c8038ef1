/-!
# Dates and moments

Dates, and dates with a time of day.
-/
namespace Compliance.Calendar

/-!
## Calendar dates

Dates of the proleptic Gregorian calendar and their count of days since 1970-01-01. A month belongs
to the year that its March begins, so that the leap day is the last of the year.
-/

structure Date where
  year : Int
  month : Nat
  day : Nat
  deriving DecidableEq

def isLeap (year : Int) : Bool := year % 4 == 0 && (year % 100 != 0 || year % 400 == 0)

def daysInMonth (year : Int) (month : Nat) : Nat :=
  if month = 2 then (if isLeap year then 29 else 28)
  else if month = 4 ∨ month = 6 ∨ month = 9 ∨ month = 11 then 30
  else 31

/-- Days since 1970-01-01. -/
def Date.toDays (d : Date) : Int :=
  let y := if d.month ≤ 2 then d.year - 1 else d.year
  let era := y.fdiv 400
  let yearOfEra := y - era * 400
  let monthFromMarch : Int := if d.month ≤ 2 then d.month + 9 else (d.month : Int) - 3
  let dayOfYear := (153 * monthFromMarch + 2).fdiv 5 + d.day - 1
  let dayOfEra := yearOfEra * 365 + yearOfEra.fdiv 4 - yearOfEra.fdiv 100 + dayOfYear
  era * 146097 + dayOfEra - 719468

/-- The date so many days after 1970-01-01. -/
def Date.ofDays (days : Int) : Date :=
  let z := days + 719468
  let era := z.fdiv 146097
  let dayOfEra := z - era * 146097
  let yearOfEra :=
    (dayOfEra - dayOfEra.fdiv 1460 + dayOfEra.fdiv 36524 - dayOfEra.fdiv 146096).fdiv 365
  let dayOfYear := dayOfEra - (365 * yearOfEra + yearOfEra.fdiv 4 - yearOfEra.fdiv 100)
  let monthFromMarch := (5 * dayOfYear + 2).fdiv 153
  let day := dayOfYear - (153 * monthFromMarch + 2).fdiv 5 + 1
  let month := if monthFromMarch < 10 then monthFromMarch + 3 else monthFromMarch - 9
  let year := yearOfEra + era * 400 + (if month ≤ 2 then 1 else 0)
  ⟨year, month.toNat, day.toNat⟩

/-! ## Weeks

A week begins on a Monday and belongs to the year that its Thursday is in. -/

/-- The day of the week of a day since 1970-01-01; Monday is zero. -/
def weekday (days : Int) : Int := (days + 3).fmod 7

/-- The day on which the first week of a year begins. -/
def firstMonday (year : Int) : Int :=
  let newYear := Date.toDays ⟨year, 1, 1⟩
  let w := weekday newYear
  if w ≤ 3 then newYear - w else newYear - w + 7

/-- Whether a year has 53 weeks. -/
def isLong (year : Int) : Bool :=
  let w := weekday (Date.toDays ⟨year, 1, 1⟩)
  w == 3 || (w == 2 && isLeap year)

/-- The date of a day of a week, the days numbered from one. The weeks of the year zero have none:
what comes back then has no month. -/
def Date.ofWeek? (year week day : Nat) : Option Date :=
  if 1 ≤ week ∧ (week ≤ 52 ∨ (week = 53 ∧ isLong year)) ∧ 1 ≤ day ∧ day ≤ 7 then
    if year = 0 then some ⟨1, 0, 0⟩
    else some (Date.ofDays (firstMonday year + 7 * (week - 1) + (day - 1)))
  else none

/-- A number in decimal, filled up with zeros on the left. -/
def padded (width n : Nat) : List Char :=
  let ds := Nat.toDigits 10 n
  List.replicate (width - ds.length) '0' ++ ds

/-- A date as year, month and day. -/
def Date.text (d : Date) : List Char :=
  padded 4 d.year.toNat ++ '-' :: padded 2 d.month ++ '-' :: padded 2 d.day

example : Date.ofWeek? 2020 53 7 = some ⟨2021, 1, 3⟩ := by decide

example : Date.ofDays 19723 = ⟨2024, 1, 1⟩ ∧ Date.toDays ⟨2024, 2, 29⟩ = 19782 := by decide

/-!
## Dates with a time of day

A `Moment` may carry its offset from universal time. Its written form is in `Calendar.Reading`.
-/

structure Moment where
  date : Date
  hour : Nat
  minute : Nat
  second : Nat
  micro : Nat
  /-- Microseconds east of universal time, when known. -/
  offset : Option Int
  deriving DecidableEq

/-- Why a text or a set of numbers is no date. -/
inductive Fault where
  | form (text : String)
  | year (n : Int)
  | month
  | day
  | hour
  | minute
  | second
  | offset (micros : Int)
  deriving DecidableEq

/-- Microseconds after a point; there are none to show when they are zero. -/
def microText (micro : Nat) : List Char := if micro = 0 then [] else '.' :: padded 6 micro

/-- Hours and minutes of an offset, and seconds and microseconds if there are any. -/
def offsetText (micros : Int) : List Char :=
  let n := micros.natAbs
  let s := n / 1000000
  let base := padded 2 (s / 3600) ++ ':' :: padded 2 (s / 60 % 60)
  let second := if n % 60000000 = 0 then [] else ':' :: padded 2 (s % 60) ++ microText (n % 1000000)
  (if micros < 0 then '-' else '+') :: (base ++ second)

/-- A moment as text; microseconds are shown when they are not zero. -/
def Moment.text (between : Char) (m : Moment) : String :=
  let clock := padded 2 m.hour ++ ':' :: padded 2 m.minute ++ ':' :: padded 2 m.second
  let offset := match m.offset with | some s => offsetText s | none => []
  String.ofList (m.date.text ++ between :: clock ++ microText m.micro ++ offset)

/-- A moment in the form used for records. -/
def Moment.iso (m : Moment) : String := m.text 'T'

/-- The first of the numbers that is out of range. -/
def Date.check (d : Date) : Except Fault Date :=
  if d.year < 1 ∨ 9999 < d.year then .error (.year d.year)
  else if d.month < 1 ∨ 12 < d.month then .error .month
  else if d.day < 1 ∨ daysInMonth d.year d.month < d.day then .error .day
  else .ok d

/-- The first of the numbers that is out of range; the offset counts as the first. -/
def Moment.check (m : Moment) : Except Fault Moment := do
  match m.offset with
  | some z => if 86400000000 ≤ z.natAbs then throw (.offset z)
  | none => pure ()
  let _ ← m.date.check
  if 23 < m.hour then throw .hour
  if 59 < m.minute then throw .minute
  if 59 < m.second then throw .second
  return m

end Compliance.Calendar
