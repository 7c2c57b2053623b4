/-
  DetectionJobs/Number/Literal.lean
  =================================
  **Numbers read from decimal text, rounded correctly.**

  A literal is an optional sign before digits with an optional point and an
  optional exponent, or before one of the words `inf`, `infinity` and `nan` in
  any case.  At least one digit stands before the exponent.
-/
import DetectionJobs.Number.Double

namespace DetectionJobs.Double

def digitValue? (c : Char) : Option Nat :=
  if '0' ≤ c ∧ c ≤ '9' then some (c.toNat - 48) else none

/-- The natural that decimal digits write. -/
def digitsValue (cs : List Char) : Nat := cs.foldl (fun n c => 10 * n + (c.toNat - 48)) 0

/-- The number nearest to `digits · 10^scale`.  A scale beyond the reach of the
    format decides the result without computing the power. -/
def ofDecimal (negative : Bool) (digits : Nat) (scale : Int) : Double :=
  if digits = 0 then ofMagnitude negative 0
  else if 400 < scale then infinity negative
  else if scale < -400 - ((digits.log2 : Nat) : Int) then ofMagnitude negative 0
  else if 0 ≤ scale then ofRatio negative (digits * 10 ^ scale.toNat) 1
  else ofRatio negative digits (10 ^ (-scale).toNat)

/-- The exponent part of a literal, `e` included; no text is the exponent 0. -/
def readExponent? : List Char → Option Int
  | [] => some 0
  | e :: rest =>
    if e = 'e' ∨ e = 'E' then
      let (negative, digits) := match rest with
        | '-' :: r => (true, r)
        | '+' :: r => (false, r)
        | r => (false, r)
      if digits.isEmpty ∨ !digits.all Char.isDigit then none
      else
        let n : Int := digitsValue digits
        some (if negative then -n else n)
    else none

def readUnsigned? (negative : Bool) (cs : List Char) : Option Double :=
  let word := cs.map Char.toLower
  if word = ['i', 'n', 'f'] ∨ word = ['i', 'n', 'f', 'i', 'n', 'i', 't', 'y'] then
    some (infinity negative)
  else if word = ['n', 'a', 'n'] then some nan
  else
    let (whole, rest) := cs.span Char.isDigit
    let (fraction, rest) := match rest with
      | '.' :: r => r.span Char.isDigit
      | r => ([], r)
    if whole.isEmpty ∧ fraction.isEmpty then none
    else (readExponent? rest).map fun e =>
      ofDecimal negative (digitsValue (whole ++ fraction)) (e - fraction.length)

def ofLiteral? (s : String) : Option Double :=
  match s.toList with
  | '-' :: rest => readUnsigned? true rest
  | '+' :: rest => readUnsigned? false rest
  | cs => readUnsigned? false cs

end DetectionJobs.Double
