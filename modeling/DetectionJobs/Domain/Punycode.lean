/-
  DetectionJobs/Domain/Punycode.lean
  ==================================
  **Labels of any script in ASCII letters and digits.**

  The written form of a label has its ASCII characters first and then, after a hyphen,
  where each of the others is inserted.  Every step counts the insertions that are
  passed over, in order of code points and then of places, as a number in digits of
  base 36 whose weights adapt to the numbers before.
-/
import DetectionJobs.Number.Power
import DetectionJobs.Text.CharSet

namespace DetectionJobs.Domain.Punycode

def base : Nat := 36

/-- The adaptation before the first number. -/
def initialBias : Nat := 72

/-- The first code point that is inserted. -/
def firstInserted : Nat := 128

/-- Numbers stay below this. -/
def limit : Nat := 2 ^ 32

def digitChar (d : Nat) : Char :=
  if d < 26 then Char.ofNat (0x61 + d) else Char.ofNat (0x30 + (d - 26))

def digitValue? (c : Char) : Option Nat :=
  let n := c.toNat
  if 0x61 ≤ n ∧ n ≤ 0x7a then some (n - 0x61)
  else if 0x41 ≤ n ∧ n ≤ 0x5a then some (n - 0x41)
  else if 0x30 ≤ n ∧ n ≤ 0x39 then some (n - 0x30 + 26)
  else none

/-- A digit below the threshold of its position ends the number. -/
def threshold (position bias : Nat) : Nat :=
  if position ≤ bias then 1 else min 26 (position - bias)

/-- Divides by 35 until the rest fits one digit, and counts the divisions. -/
def settleBias (delta steps : Nat) : Nat :=
  if _h : delta > 455 then settleBias (delta / 35) (steps + 1)
  else base * steps + base * delta / (delta + 38)
termination_by delta
decreasing_by omega

/-- The adaptation after a number; `count` characters are in place then. -/
def adapt (delta count : Nat) (isFirst : Bool) : Nat :=
  let delta := if isFirst then delta / 700 else delta / 2
  settleBias (delta + delta / count) 0

/-! ### Writing -/

/-- The digits of a number, from the position `position` on. -/
def writeNumber (bias position n : Nat) : List Char :=
  let t := threshold position bias
  if _h : n < t then [digitChar n]
  else
    digitChar (t + (n - t) % (base - t)) ::
      writeNumber bias (position + base) ((n - t) / (base - t))
termination_by n
decreasing_by
  have h1 : 1 ≤ threshold position bias := by unfold threshold; split <;> omega
  have h2 : threshold position bias ≤ 26 := by unfold threshold; split <;> omega
  have h3 := Nat.div_le_self (n - threshold position bias) (base - threshold position bias)
  omega

/-- What is known while a label is written: the insertions passed over, the adaptation,
    the count of characters in place, and the digits so far. -/
structure Writing where
  delta : Nat
  bias : Nat
  count : Nat
  digits : List Char

/-- Passes over the places of one code point and writes where it stands. -/
def writeCodePoint (basicCount : Nat) (label : List Nat) (w : Writing) (n : Nat) : Writing :=
  label.foldl (fun w c =>
    if c < n then ⟨w.delta + 1, w.bias, w.count, w.digits⟩
    else if c = n then
      ⟨0, adapt w.delta (w.count + 1) (w.count == basicCount), w.count + 1,
        w.digits ++ writeNumber w.bias base w.delta⟩
    else w) w

def encode (cs : List Char) : List Char :=
  let label := cs.map (·.toNat)
  let basic := cs.filter (·.toNat < firstInserted)
  let inserted := ((label.filter (firstInserted ≤ ·)).mergeSort (· ≤ ·)).eraseDups
  let (w, _) := inserted.foldl (fun (w, previous) n =>
    let w := ⟨w.delta + (n - previous) * (w.count + 1), w.bias, w.count, w.digits⟩
    let w := writeCodePoint basic.length label w n
    (⟨w.delta + 1, w.bias, w.count, w.digits⟩, n + 1))
    ((⟨0, initialBias, basic.length, []⟩ : Writing), firstInserted)
  (if basic.isEmpty then [] else basic ++ ['-']) ++ w.digits

/-! ### Reading -/

/-- What is known while a label is read: its characters so far, the code point and place
    that come next, the adaptation, and of the number that is being read its start, the
    weight and the position of its next digit. -/
structure Reading where
  label : List Nat
  codePoint : Nat
  place : Nat
  bias : Nat
  start : Nat
  weight : Nat
  position : Nat

/-- Reads one digit; the last of a number inserts a character. -/
def Reading.digit? (r : Reading) (c : Char) : Option Reading := do
  let d ← digitValue? c
  let place := r.place + d * r.weight
  if limit ≤ place then none
  let t := threshold r.position r.bias
  if d < t then
    let count := r.label.length + 1
    let codePoint := r.codePoint + place / count
    if ¬ codePoint.isValidChar then none
    let index := place % count
    some ⟨r.label.take index ++ codePoint :: r.label.drop index, codePoint, index + 1,
      adapt (place - r.start) count (r.start == 0), index + 1, 1, base⟩
  else
    let weight := r.weight * (base - t)
    if limit ≤ weight then none
    some ⟨r.label, r.codePoint, place, r.bias, r.start, weight, r.position + base⟩

/-- The characters before the last hyphen and those after it. -/
def splitHyphen (cs : List Char) : List Char × List Char :=
  let tail := (cs.reverse.takeWhile (· ≠ '-')).reverse
  if tail.length = cs.length then ([], cs)
  else (cs.take (cs.length - tail.length - 1), tail)

def decode? (cs : List Char) : Option (List Char) := do
  let (basic, digits) := splitHyphen cs
  if ¬ basic.all (·.toNat < firstInserted) then none
  let r ← digits.foldlM Reading.digit?
    ⟨basic.map (·.toNat), firstInserted, 0, initialBias, 0, 1, base⟩
  if r.position ≠ base then none
  some (r.label.map Char.ofNat)

end DetectionJobs.Domain.Punycode
