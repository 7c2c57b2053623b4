/-
  DetectionJobs/Time/Reading.lean
  ===============================
  **Reading a moment in time.**

  The reader takes the written form of `Instant` and more: white space before each
  field and separator, one-digit fields, a space for the `T`, any number of digits
  of the fraction (nine are kept), and an offset from UTC, which it subtracts.
  A fault tells what is wrong with a text that it refuses.
-/
import DetectionJobs.Number.Power
import DetectionJobs.Text.Blank
import DetectionJobs.Time.Instant

namespace DetectionJobs.Instant

open Text (isBlank isBlankText)

/-- Why a text is no moment in time. -/
inductive Fault where
  | outOfRange
  | impossible
  | invalid
  | tooShort
  | tooLong
deriving DecidableEq, Repr

def Fault.message : Fault → String
  | .outOfRange => "input is out of range"
  | .impossible => "no possible date and time matching input"
  | .invalid => "input contains invalid characters"
  | .tooShort => "premature end of input"
  | .tooLong => "trailing input"

/-! ### Fields

Each gives its value and the characters after it. -/

/-- The value of at least one and at most `limit` digits. -/
def number (limit : Nat) (cs : List Char) : Except Fault (Nat × List Char) :=
  match cs with
  | [] => .error .tooShort
  | c :: _ =>
    if !c.isDigit then .error .invalid
    else
      let digits := (cs.take limit).takeWhile Char.isDigit
      let n := digits.foldl (fun n d => 10 * n + (d.toNat - 48)) 0
      if 2 ^ 63 ≤ n then .error .outOfRange else .ok (n, cs.drop digits.length)

/-- A field of at most two digits between `low` and `high`, after white space. -/
def field (low high : Nat) (cs : List Char) : Except Fault (Nat × List Char) := do
  let (n, rest) ← number 2 (cs.dropWhile isBlank)
  if low ≤ n ∧ n ≤ high then .ok (n, rest) else .error .outOfRange

/-- A separator, after white space. -/
def separator (mark : Char) (cs : List Char) : Except Fault (Unit × List Char) :=
  match cs.dropWhile isBlank with
  | [] => .error .tooShort
  | c :: rest => if c = mark then .ok ((), rest) else .error .invalid

/-- The year: four digits at most, or a sign and any number of digits. -/
def year (cs : List Char) : Except Fault (Int × List Char) := do
  let inWord (n : Int) : Except Fault Int :=
    if -2 ^ 31 ≤ n ∧ n < 2 ^ 31 then .ok n else .error .outOfRange
  match cs.dropWhile isBlank with
  | '-' :: rest =>
    let (n, rest) ← number rest.length rest
    return (← inWord (-n), rest)
  | '+' :: rest =>
    let (n, rest) ← number rest.length rest
    return (← inWord n, rest)
  | rest =>
    let (n, rest) ← number 4 rest
    return (n, rest)

/-- The fraction of a second in nanoseconds; a tenth digit and those after it are
    passed over. -/
def fraction (cs : List Char) : Except Fault (Nat × List Char) :=
  match cs with
  | '.' :: rest => do
    let (n, after) ← number 9 rest
    return (n * 10 ^ (9 - (rest.length - after.length)), after.dropWhile Char.isDigit)
  | _ => .ok (0, cs)

/-- Two digits, the first of them at most `top`. -/
def twoDigits (top : Char) (cs : List Char) : Except Fault (Nat × List Char) :=
  match cs with
  | [] => .error .tooShort
  | [c] => if c.toNat < 0x80 then .error .tooShort else .error .invalid
  | a :: b :: rest =>
    if a.isDigit && b.isDigit then
      if a ≤ top then .ok ((a.toNat - 48) * 10 + (b.toNat - 48), rest) else .error .outOfRange
    else .error .invalid

/-- The offset from UTC in seconds: `Z`, `UTC`, or a sign, hours and minutes with
    colons or white space between them. -/
def offset (cs : List Char) : Except Fault (Int × List Char) := do
  let signed (sign : Int) (cs : List Char) : Except Fault (Int × List Char) := do
    let (hours, rest) ← twoDigits '9' cs
    let (minutes, rest) ← twoDigits '5' (rest.dropWhile fun c => c = ':' || isBlank c)
    return (sign * (hours * 3600 + minutes * 60), rest)
  match cs with
  | [] => .error .tooShort
  | c :: rest =>
    if (cs.take 3).map Char.toLower = ['u', 't', 'c'] then .ok (0, cs.drop 3)
    else if c = 'Z' ∨ c = 'z' then .ok (0, rest)
    else if c = '+' then signed 1 rest
    else if c = '-' ∨ c = '−' then signed (-1) rest
    else .error .invalid

/-! ### The whole text -/

/-- The moment that is `offset` seconds before a local date and second of the day. -/
def ofLocal (date : Date) (second nano : Nat) (offset : Int) : Except Fault Instant :=
  let total : Int := second - offset
  let (shifted, second) :=
    if total < 0 then (date.previous, total + 86400)
    else if 86400 ≤ total then (date.next, total - 86400)
    else (date, total)
  if shifted.IsValid then .ok ⟨shifted, second.toNat, nano⟩ else .error .impossible

/-- The moment that a text names. -/
def read (s : String) : Except Fault Instant := do
  let (year, cs) ← year s.toList
  let (_, cs) ← separator '-' cs
  let (month, cs) ← field 1 12 cs
  let (_, cs) ← separator '-' cs
  let (day, cs) ← field 1 31 cs
  let cs ← match cs with
    | [] => .error .tooShort
    | c :: rest => if c = 'T' ∨ c = 't' ∨ c = ' ' then .ok rest else .error Fault.invalid
  let (hour, cs) ← field 0 23 cs
  let (_, cs) ← separator ':' cs
  let (minute, cs) ← field 0 59 cs
  let (_, cs) ← separator ':' cs
  let (second, cs) ← field 0 60 cs
  let (nano, cs) ← fraction cs
  let (offset, cs) ← offset (cs.dropWhile isBlank)
  if !cs.all isBlank then .error .tooLong
  let date : Date := ⟨year, month, day⟩
  if !decide date.IsValid then .error .outOfRange
  if 86400 ≤ offset.natAbs then .error .outOfRange
  let isLeap := second = 60
  ofLocal date (hour * 3600 + minute * 60 + (if isLeap then 59 else second))
    (if isLeap then nano + 1000000000 else nano) offset

end DetectionJobs.Instant
