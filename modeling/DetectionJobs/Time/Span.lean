/-
  DetectionJobs/Time/Span.lean
  ============================
  **Lengths of time.**

  A span counts nanoseconds and never exceeds the longest span, of 2^64 seconds
  less one nanosecond: operations that would go beyond stop there.
-/
import DetectionJobs.Number.Power

namespace DetectionJobs

/-- A length of time in nanoseconds. -/
structure Span where
  nanos : Nat
deriving DecidableEq, Repr

namespace Span

def zero : Span := ⟨0⟩

/-- The longest span. -/
def longest : Span := ⟨2 ^ 64 * 1000000000 - 1⟩

def ofMillis (n : Nat) : Span := ⟨n * 1000000⟩

def ofSeconds (n : Nat) : Span := ⟨n * 1000000000⟩

/-- Whole milliseconds; a part of one is dropped. -/
def millis (s : Span) : Nat := s.nanos / 1000000

/-- Twice the span, or the longest one. -/
def double (s : Span) : Span := ⟨min (2 * s.nanos) longest.nanos⟩

/-- The digits of a fraction `part / 10^places`, zeros at the end left out; nothing
    for no fraction. -/
def fractionChars (part places : Nat) : List Char :=
  let digits := Nat.toDigits 10 part
  let padded := List.replicate (places - digits.length) '0' ++ digits
  if part = 0 then [] else '.' :: (padded.reverse.dropWhile (· = '0')).reverse

/-- A span in the largest unit, of s, ms, µs and ns, that it holds at least one of. -/
def describe (s : Span) : String :=
  let inUnit (size places : Nat) (unit : String) : String :=
    toString (s.nanos / size) ++ String.ofList (fractionChars (s.nanos % size) places) ++ unit
  if 1000000000 ≤ s.nanos then inUnit 1000000000 9 "s"
  else if 1000000 ≤ s.nanos then inUnit 1000000 6 "ms"
  else if 1000 ≤ s.nanos then inUnit 1000 3 "µs"
  else inUnit 1 0 "ns"

end Span

end DetectionJobs
