/-
  DetectionJobs/Number/Notation.lean
  ==================================
  **How numbers are written.**

  Both notations write the shortest digits that identify the number.  The data
  notation is positional for absolute values from 10^-5 up to, but not including,
  10^16, and always has a fraction; outside that range the exponent is written
  with its sign.  The plain notation, of messages, is positional throughout and
  has a fraction only where one is needed.
-/
import DetectionJobs.Number.Shortest

namespace DetectionJobs.Double

def decimalDigits (n : Nat) : List Char := Nat.toDigits 10 n

/-- Digits with a point after the first `place` of them, zeros filled in on
    either side as needed; without a fraction, `whole` is put at the end. -/
def positional (digits : List Char) (place : Int) (whole : List Char) : List Char :=
  if place ≤ 0 then ['0', '.'] ++ List.replicate (-place).toNat '0' ++ digits
  else if digits.length ≤ place.toNat then
    digits ++ List.replicate (place.toNat - digits.length) '0' ++ whole
  else digits.take place.toNat ++ ['.'] ++ digits.drop place.toNat

/-- Digits with a point after the first one and a signed exponent of ten. -/
def scientific (digits : List Char) (power : Int) : List Char :=
  let sign := if power < 0 then '-' else '+'
  let tail := ['e', sign] ++ decimalDigits power.natAbs
  match digits with
  | [] => tail
  | [d] => d :: tail
  | d :: rest => [d, '.'] ++ rest ++ tail

def signChars (x : Double) : List Char := if x.isNegative then ['-'] else []

/-- The data notation of a finite number. -/
def dataChars (x : Double) : List Char :=
  let d := x.shortest
  let digits := decimalDigits d.digits
  let place := d.scale + digits.length
  x.signChars ++
    if x.magnitude = 0 then ['0', '.', '0']
    else if -5 < place ∧ place ≤ 16 then positional digits place ['.', '0']
    else scientific digits (place - 1)

/-- The plain notation of a finite number. -/
def plainChars (x : Double) : List Char :=
  let d := x.shortest
  let digits := decimalDigits d.digits
  x.signChars ++
    if x.magnitude = 0 then ['0'] else positional digits (d.scale + digits.length) []

def plain (x : Double) : String := String.ofList x.plainChars

end DetectionJobs.Double
