/-
  DetectionJobs/Time/Instant.lean
  ===============================
  **Moments in universal time, and how they are written.**

  An instant is kept as the fields of its calendar date and time of day in UTC.
  A leap second is the second before it with a full extra second of nanoseconds.
  Written form: `2024-06-01T12:30:05.25Z` with a fraction of no, three, six or nine
  digits, as few as hold the nanoseconds.
-/

namespace DetectionJobs

/-- A date of the Gregorian calendar, extended to years before its introduction. -/
structure Date where
  year : Int
  month : Nat
  day : Nat
deriving DecidableEq, Repr

namespace Date

def isLeapYear (y : Int) : Bool := y % 4 == 0 && (y % 100 != 0 || y % 400 == 0)

/-- The number of days of a month, counted from 1. -/
def monthLength (y : Int) (m : Nat) : Nat :=
  if m = 2 then (if isLeapYear y then 29 else 28)
  else if m = 4 ∨ m = 6 ∨ m = 9 ∨ m = 11 then 30
  else 31

/-- The years that dates reach. -/
def firstYear : Int := -262143
def lastYear : Int := 262142

/-- Whether the fields name a day of the calendar within the years it reaches. -/
def IsValid (d : Date) : Prop :=
  firstYear ≤ d.year ∧ d.year ≤ lastYear ∧ 1 ≤ d.month ∧ d.month ≤ 12 ∧
    1 ≤ d.day ∧ d.day ≤ monthLength d.year d.month

instance (d : Date) : Decidable d.IsValid := by unfold IsValid; infer_instance

def next (d : Date) : Date :=
  if d.day < monthLength d.year d.month then { d with day := d.day + 1 }
  else if d.month < 12 then { d with month := d.month + 1, day := 1 }
  else ⟨d.year + 1, 1, 1⟩

def previous (d : Date) : Date :=
  if 1 < d.day then { d with day := d.day - 1 }
  else if 1 < d.month then
    { d with month := d.month - 1, day := monthLength d.year (d.month - 1) }
  else ⟨d.year - 1, 12, 31⟩

end Date

/-- A moment in UTC: the day, the second of the day, and nanoseconds, of which a
    leap second has up to two seconds. -/
structure Instant where
  date : Date
  second : Nat
  nano : Nat
deriving DecidableEq, Repr

namespace Instant

/-- Whether the fields are within their ranges. -/
def IsValid (t : Instant) : Prop :=
  t.date.IsValid ∧ t.second < 86400 ∧ t.nano < 2000000000

instance (t : Instant) : Decidable t.IsValid := by unfold IsValid; infer_instance

/-! ### Written form -/

/-- A natural in at least `width` decimal digits. -/
def padded (width n : Nat) : List Char :=
  let digits := Nat.toDigits 10 n
  List.replicate (width - digits.length) '0' ++ digits

/-- The year in four digits; a year outside them with its sign. -/
def yearChars (y : Int) : List Char :=
  if y < 0 then '-' :: padded 4 y.natAbs
  else if 9999 < y then '+' :: padded 4 y.natAbs
  else padded 4 y.natAbs

/-- The fraction of a second: none, milliseconds, microseconds or nanoseconds. -/
def fractionChars (nano : Nat) : List Char :=
  if nano = 0 then []
  else if nano % 1000000 = 0 then '.' :: padded 3 (nano / 1000000)
  else if nano % 1000 = 0 then '.' :: padded 6 (nano / 1000)
  else '.' :: padded 9 nano

def chars (t : Instant) : List Char :=
  let isLeap := 1000000000 ≤ t.nano
  let second := t.second % 60 + if isLeap then 1 else 0
  yearChars t.date.year ++ '-' :: padded 2 t.date.month ++ '-' :: padded 2 t.date.day ++
    'T' :: padded 2 (t.second / 3600) ++ ':' :: padded 2 (t.second / 60 % 60) ++
    ':' :: padded 2 second ++ fractionChars (t.nano % 1000000000) ++ ['Z']

def text (t : Instant) : String := String.ofList t.chars

end Instant

end DetectionJobs
