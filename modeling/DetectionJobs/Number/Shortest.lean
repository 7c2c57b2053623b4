/-
  DetectionJobs/Number/Shortest.lean
  ==================================
  **The fewest decimal digits that identify a number.**

  The decimals that round to a number form an interval, from halfway to the
  neighbour below to halfway to the neighbour above; the ends belong to it when
  the significand is even.  For one digit, two digits and so on, the two points
  of that decimal grid beside the number are tested: the first grid with a point
  in the interval wins, and of two points the nearer one, of two equally near
  ones the even one.  All arithmetic is on naturals.
-/
import DetectionJobs.Number.Double

namespace DetectionJobs.Double

/-- A decimal `digits · 10^scale`. -/
structure Decimal where
  digits : Nat
  scale : Int
deriving DecidableEq, Repr

/-- The decimals that read back as a number, and the number itself, in multiples
    of `1 / unit`. -/
structure Interval where
  low : Nat
  value : Nat
  high : Nat
  unit : Nat
  closed : Bool

/-- The interval around a positive finite number.  Below a power of two the
    neighbour is half as far away. -/
def interval (x : Double) : Interval :=
  let m := 4 * x.significand
  let below := if x.magnitude % 2 ^ 52 = 0 ∧ 1 < x.exponentField then 1 else 2
  let closed := x.significand % 2 = 0
  let e := x.exponent - 2
  if 0 ≤ e then
    let f := 2 ^ e.toNat
    ⟨(m - below) * f, m * f, (m + 2) * f, 1, closed⟩
  else ⟨m - below, m, m + 2, 2 ^ (-e).toNat, closed⟩

namespace Interval

/-- `c · 10^g` and `n / unit` over a common denominator. -/
def align (i : Interval) (c : Nat) (g : Int) (n : Nat) : Nat × Nat :=
  if 0 ≤ g then (c * 10 ^ g.toNat * i.unit, n) else (c * i.unit, n * 10 ^ (-g).toNat)

/-- Whether the decimal `c · 10^g` lies in the interval. -/
def contains (i : Interval) (c : Nat) (g : Int) : Bool :=
  let (a, low) := i.align c g i.low
  let (_, high) := i.align c g i.high
  if i.closed then low ≤ a && a ≤ high else low < a && a < high

/-- The largest `c` with `c · 10^g` not above the number. -/
def floorAt (i : Interval) (g : Int) : Nat :=
  let (unit, v) := i.align 1 g i.value
  v / unit

/-- Whether `c + 1` is nearer to the number than `c` on the grid `10^g`. -/
def prefersUpper (i : Interval) (c : Nat) (g : Int) : Bool :=
  let (middle, twice) := i.align (2 * c + 1) g (2 * i.value)
  if twice = middle then c % 2 = 1 else middle < twice

/-- The point of the grid `10^g` that stands for the number, if one does. -/
def pointOn (i : Interval) (g : Int) : Option Nat :=
  let c := i.floorAt g
  match i.contains c g, i.contains (c + 1) g with
  | true, true => if i.prefersUpper c g then some (c + 1) else some c
  | true, false => some c
  | false, true => some (c + 1)
  | false, false => none

/-- The least `k` with the number below `10^k`, from an estimate that is off by
    one at most. -/
def scaleFrom (i : Interval) (estimate : Int) : Int :=
  if 0 < i.floorAt estimate then estimate + 1
  else if i.floorAt (estimate - 1) = 0 then estimate - 1 else estimate

/-- Tries ever finer grids. -/
def search (i : Interval) (k : Int) : (tries : Nat) → (digits : Nat) → Decimal
  | 0, n => ⟨i.floorAt (k - n), k - n⟩
  | tries + 1, n =>
    match i.pointOn (k - n) with
    | some c => ⟨c, k - n⟩
    | none => search i k tries (n + 1)

end Interval

/-- Moves the zeros at the end of the digits into the scale. -/
def Decimal.strip (d : Decimal) : (fuel : Nat) → Decimal
  | 0 => d
  | fuel + 1 =>
    if d.digits ≠ 0 ∧ d.digits % 10 = 0 then Decimal.strip ⟨d.digits / 10, d.scale + 1⟩ fuel
    else d

/-- The shortest decimal of a positive finite number's absolute value. -/
def shortest (x : Double) : Decimal :=
  if x.magnitude = 0 then ⟨0, 0⟩
  else
    let i := x.interval
    let log2 : Int := x.exponent + x.significand.log2
    let k := i.scaleFrom (log2 * 30103 / 100000 + 1)
    (i.search k 17 1).strip 20

end DetectionJobs.Double
