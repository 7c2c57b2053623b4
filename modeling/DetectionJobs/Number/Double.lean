/-
  DetectionJobs/Number/Double.lean
  ================================
  **Binary floating-point numbers of 64 bits, by exact arithmetic.**

  Coordinates and confidences are numbers of this format.  Every operation is
  defined on the bits: a finite number is `m · 2^e` for naturals `m` and an
  integer `e`, and the result of an operation is the quotient of two naturals,
  rounded once to the nearest number, of two equally near ones to the even.
-/
import DetectionJobs.Number.Power

namespace DetectionJobs

/-- A number of 64 bits: the sign, eleven bits of exponent and fifty-two bits
    of fraction.  Two numbers are equal when their bits are, so zero and
    negative zero differ and a NaN equals itself. -/
structure Double where
  bits : UInt64
deriving DecidableEq, Repr

namespace Double

/-- The magnitude of infinity; NaNs lie above, finite numbers below. -/
def infinityMagnitude : Nat := 0x7FF0000000000000

/-- The bits without the sign.  Among finite numbers of one sign, magnitudes
    are ordered as the numbers' absolute values are. -/
def magnitude (x : Double) : Nat := x.bits.toNat % 2 ^ 63

def isNegative (x : Double) : Bool := 2 ^ 63 ≤ x.bits.toNat

def isNaN (x : Double) : Bool := infinityMagnitude < x.magnitude

def isFinite (x : Double) : Bool := x.magnitude < infinityMagnitude

/-- The number with the given sign and magnitude. -/
def ofMagnitude (negative : Bool) (m : Nat) : Double :=
  ⟨UInt64.ofNat (if negative then 2 ^ 63 + m else m)⟩

def zero : Double := ofMagnitude false 0

def largest : Double := ofMagnitude false (infinityMagnitude - 1)

def infinity (negative : Bool) : Double := ofMagnitude negative infinityMagnitude

def nan : Double := ofMagnitude false (infinityMagnitude + 2 ^ 51)

def neg (x : Double) : Double := ofMagnitude (!x.isNegative) x.magnitude

/-! ### The value of a finite number -/

def exponentField (x : Double) : Nat := x.magnitude / 2 ^ 52

/-- The natural `m` of `m · 2^e`: the fraction, with the leading one that
    normal numbers leave out. -/
def significand (x : Double) : Nat :=
  if x.exponentField = 0 then x.magnitude % 2 ^ 52 else 2 ^ 52 + x.magnitude % 2 ^ 52

/-- The exponent `e` of `m · 2^e`. -/
def exponent (x : Double) : Int :=
  if x.exponentField = 0 then -1074 else (x.exponentField : Int) - 1075

/-! ### Rounding a quotient -/

/-- `n / d` times `2^-e`, again as a quotient. -/
def scaled (n d : Nat) (e : Int) : Nat × Nat :=
  if 0 ≤ e then (n, d * 2 ^ e.toNat) else (n * 2 ^ (-e).toNat, d)

/-- The largest `l` with `2^l ≤ n / d`, for positive `n` and `d`. -/
def floorLog2 (n d : Nat) : Int :=
  let guess : Int := (n.log2 : Int) - d.log2
  let (a, b) := scaled n d guess
  if a < b then guess - 1 else guess

/-- `n / d` rounded to a natural, halves to the even one. -/
def roundEven (n d : Nat) : Nat :=
  let q := n / d
  let r := n % d
  if 2 * r < d then q
  else if d < 2 * r then q + 1
  else if q % 2 = 0 then q else q + 1

/-- The number nearest to `n / d`, with the given sign: infinity where the
    rounded quotient is above every finite number. -/
def ofRatio (negative : Bool) (n d : Nat) : Double :=
  if n = 0 then ofMagnitude negative 0
  else
    let e := max (floorLog2 n d - 52) (-1074)
    let (a, b) := scaled n d e
    let m := (e + 1074).toNat * 2 ^ 52 + roundEven a b
    ofMagnitude negative (min m infinityMagnitude)

def ofNat (n : Nat) : Double := ofRatio false n 1

/-- The number nearest to an integer; zero has no sign. -/
def ofInt (n : Int) : Double := ofRatio (n < 0) n.natAbs 1

/-- A finite number's absolute value as a quotient. -/
def ratio (x : Double) : Nat × Nat :=
  if 0 ≤ x.exponent then (x.significand * 2 ^ x.exponent.toNat, 1)
  else (x.significand, 2 ^ (-x.exponent).toNat)

/-- The rounded product of two finite numbers. -/
def mul (x y : Double) : Double :=
  let (a, b) := x.ratio
  let (c, d) := y.ratio
  ofRatio (x.isNegative != y.isNegative) (a * c) (b * d)

/-- The rounded quotient of two finite numbers, the second not zero. -/
def div (x y : Double) : Double :=
  let (a, b) := x.ratio
  let (c, d) := y.ratio
  ofRatio (x.isNegative != y.isNegative) (a * d) (b * c)

/-! ### Order -/

/-- Integers in the order of the numbers; both zeros are 0. -/
def key (x : Double) : Int := if x.isNegative then -(x.magnitude : Int) else x.magnitude

/-- `x < y`; false when one of them is a NaN. -/
def lt (x y : Double) : Bool := !x.isNaN && !y.isNaN && x.key < y.key

/-- Integers in a total order of all numbers: negative zero lies below zero,
    and NaNs lie beyond the infinities. -/
def totalKey (x : Double) : Int :=
  if x.isNegative then -(x.magnitude : Int) - 1 else x.magnitude

end Double

end DetectionJobs
