/-
  DetectionJobs/Json/Numeral.lean
  ===============================
  **Numbers in JSON text.**

  A number without fraction and exponent is a whole number as long as it fits
  sixty-four bits.  Any other one becomes a `Double` in a fast but not always
  correctly rounded way: as many digits as fit sixty-four bits make the
  significand, digits beyond them only move the point, and the significand is
  multiplied or divided once by a power of ten.  A number beyond the finite ones
  is refused.
-/
import DetectionJobs.Json.Scan

namespace DetectionJobs.Json

/-- The value of a number in a text. -/
inductive Numeral where
  | whole (n : Int)
  | real (x : Double)
deriving DecidableEq, Repr

def digitValue (c : Char) : Nat := c.toNat - 48

def startsWithDigit : List Char → Bool
  | c :: _ => c.isDigit
  | [] => false

def isExponentMark (c : Char) : Bool := c = 'e' || c = 'E'

/-- Takes digits into a significand while it stays below `2^64`.  Gives the
    significand, the number of digits taken and the rest. -/
def gather (significand : Nat) (taken : Nat) : List Char → Nat × Nat × List Char
  | [] => (significand, taken, [])
  | c :: rest =>
    let next := 10 * significand + digitValue c
    if c.isDigit ∧ next < 2 ^ 64 then gather next (taken + 1) rest
    else (significand, taken, c :: rest)

/-! ### From significand and exponent to a number -/

/-- The power of ten, rounded to a number. -/
def powerOfTen (n : Nat) : Double := .ofNat (10 ^ n)

/-- `x · 10^e` in steps within the format's reach, and nothing when it is too
    large.  A quotient by `10^308` twice over is zero, so that few steps do. -/
def scaleBy (x : Double) (e : Int) : (steps : Nat) → Option Double
  | 0 => some x
  | steps + 1 =>
    if e.natAbs ≤ 308 then
      if 0 ≤ e then
        let y := x.mul (powerOfTen e.natAbs)
        if y.isFinite then some y else none
      else some (x.div (powerOfTen e.natAbs))
    else if x.magnitude = 0 then some x
    else if 0 ≤ e then none
    else scaleBy (x.div (powerOfTen 308)) (e + 308) steps

/-- The number that a sign, a significand and an exponent of ten make. -/
def assemble (negative : Bool) (significand : Nat) (e : Int) (rest : List Char) :
    Reading Numeral :=
  match scaleBy (.ofNat significand) e 3 with
  | none => .error (.here .numberOutOfRange rest)
  | some x => .ok (.real (if negative then x.neg else x), rest)

/-- The largest exponent that is read digit by digit. -/
def exponentLimit : Nat := 2 ^ 31 - 1

/-- Takes the digits of an exponent.  `none` stands for one above the limit; the
    rest then follows the digit that went beyond it. -/
def exponentDigits (n : Nat) : List Char → Option Nat × List Char
  | [] => (some n, [])
  | c :: rest =>
    if c.isDigit then
      let next := 10 * n + digitValue c
      if exponentLimit < next then (none, rest) else exponentDigits next rest
    else (some n, c :: rest)

/-- The exponent after its mark, and the number. -/
def exponentPart (negative : Bool) (significand : Nat) (point : Int) (cs : List Char) :
    Reading Numeral :=
  let (down, digits) := match cs with
    | '-' :: rest => (true, rest)
    | '+' :: rest => (false, rest)
    | rest => (false, rest)
  match digits with
  | [] => .error (.here .endInValue [])
  | c :: _ =>
    if !c.isDigit then .error (.beyond .invalidNumber digits)
    else
      match exponentDigits 0 digits with
      | (some n, rest) =>
        assemble negative significand (if down then point - n else point + n) rest
      | (none, rest) =>
        if significand ≠ 0 ∧ !down then .error (.here .numberOutOfRange rest)
        else .ok (.real (.ofMagnitude negative 0), rest.dropWhile Char.isDigit)

/-- The exponent, if there is one, and the number. -/
def withExponent (negative : Bool) (significand : Nat) (point : Int) (cs : List Char) :
    Reading Numeral :=
  match cs with
  | c :: rest =>
    if isExponentMark c then exponentPart negative significand point rest
    else assemble negative significand point cs
  | [] => assemble negative significand point []

/-- The fraction after its point, and the number. -/
def fractionPart (negative : Bool) (significand : Nat) (point : Int) (cs : List Char) :
    Reading Numeral :=
  let (significand, taken, rest) := gather significand 0 cs
  if startsWithDigit rest then
    withExponent negative significand (point - taken) (rest.dropWhile Char.isDigit)
  else if taken = 0 then
    .error (.beyond (if rest.isEmpty then .endInValue else .invalidNumber) rest)
  else withExponent negative significand (point - taken) rest

/-- A whole number of sixty-four bits; negative zero and what does not fit are
    not whole. -/
def wholeNumber (negative : Bool) (significand : Nat) : Numeral :=
  if !negative then .whole significand
  else if 0 < significand ∧ significand ≤ 2 ^ 63 then .whole (-significand)
  else .real (Double.ofNat significand).neg

/-- What follows the digits before the point. -/
def afterDigits (negative : Bool) (significand : Nat) (cs : List Char) : Reading Numeral :=
  match cs with
  | '.' :: rest => fractionPart negative significand 0 rest
  | c :: rest =>
    if isExponentMark c then exponentPart negative significand 0 rest
    else .ok (wholeNumber negative significand, cs)
  | [] => .ok (wholeNumber negative significand, [])

/-- The same for more digits than fit the significand: those left out only count. -/
def afterManyDigits (negative : Bool) (significand : Nat) (cs : List Char) :
    Reading Numeral :=
  let rest := cs.dropWhile Char.isDigit
  let point : Int := cs.length - rest.length
  match rest with
  | '.' :: rest => fractionPart negative significand point rest
  | rest => withExponent negative significand point rest

/-- An unsigned number; the sign was taken already. -/
def unsigned (negative : Bool) (cs : List Char) : Reading Numeral :=
  match cs with
  | [] => .error (.here .endInValue [])
  | c :: rest =>
    if c = '0' then
      if startsWithDigit rest then .error (.beyond .invalidNumber rest)
      else afterDigits negative 0 rest
    else if c.isDigit then
      let (significand, _, rest) := gather (digitValue c) 0 rest
      if startsWithDigit rest then afterManyDigits negative significand rest
      else afterDigits negative significand rest
    else .error (.beyond .invalidNumber cs)

/-- A number whose first character is the sign or a digit. -/
def numeral (cs : List Char) : Reading Numeral :=
  match cs with
  | '-' :: rest => unsigned true rest
  | cs => unsigned false cs

/-! ### Numbers that nobody reads -/

/-- Passes over an exponent after its mark. -/
def skipExponent (cs : List Char) : Except Failure (List Char) :=
  let digits := match cs with
    | '-' :: rest => rest
    | '+' :: rest => rest
    | rest => rest
  if startsWithDigit digits then .ok (digits.dropWhile Char.isDigit)
  else .error (.beyond .invalidNumber digits)

def skipExponentPart (cs : List Char) : Except Failure (List Char) :=
  match cs with
  | c :: rest => if isExponentMark c then skipExponent rest else .ok cs
  | [] => .ok []

def skipNumber (cs : List Char) : Except Failure (List Char) :=
  match cs with
  | [] => .error (.here .invalidNumber [])
  | c :: rest =>
    let digits := rest.dropWhile Char.isDigit
    if c = '0' ∧ startsWithDigit rest then .error (.beyond .invalidNumber rest)
    else if c.isDigit then
      match digits with
      | '.' :: fraction =>
        if startsWithDigit fraction then skipExponentPart (fraction.dropWhile Char.isDigit)
        else .error (.beyond .invalidNumber fraction)
      | digits => skipExponentPart digits
    else .error (.beyond .invalidNumber cs)

end DetectionJobs.Json
