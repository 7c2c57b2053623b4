/-
  DetectionJobs/Id/Uuid.lean
  ==========================
  **Identifiers of stored predictions.**

  A number of 128 bits, written as 32 hexadecimal digits in groups of 8, 4, 4, 4
  and 12.  The reader also takes the digits without hyphens, the groups in braces
  and the groups after `urn:uuid:`, and either case of the letters.
-/
import DetectionJobs.Number.Power
import DetectionJobs.Text.CharSet

namespace DetectionJobs

/-- An identifier of 128 bits. -/
structure Uuid where
  value : Nat
  isSmall : value < 16 ^ 32 := by decide
deriving DecidableEq, Repr

namespace Uuid

def groupLengths : List Nat := [8, 4, 4, 4, 12]

/-- The last `width` hexadecimal digits of a number. -/
def fixedDigits : (width : Nat) → Nat → List Char
  | 0, _ => []
  | width + 1, n => fixedDigits width (n / 16) ++ [Nat.digitChar (n % 16)]

/-- The written form: lower-case digits in hyphenated groups. -/
def chars (u : Uuid) : List Char :=
  fixedDigits 8 (u.value / 16 ^ 24) ++ '-' :: fixedDigits 4 (u.value / 16 ^ 20) ++
    '-' :: fixedDigits 4 (u.value / 16 ^ 16) ++ '-' :: fixedDigits 4 (u.value / 16 ^ 12) ++
    '-' :: fixedDigits 12 u.value

def text (u : Uuid) : String := String.ofList u.chars

/-- A random identifier from 122 random bits: four bits tell that it is random, and
    two that they do. -/
def ofRandom (bits : Nat) : Uuid :=
  let high := bits / 2 ^ 74 % 2 ^ 48
  let middle := bits / 2 ^ 62 % 2 ^ 12
  let low := bits % 2 ^ 62
  ⟨high * 2 ^ 80 + (4 * 2 ^ 12 + middle) * 2 ^ 64 + (2 * 2 ^ 62 + low), by
    have h1 : high < 2 ^ 48 := Nat.mod_lt _ (by decide)
    have h2 : middle < 2 ^ 12 := Nat.mod_lt _ (by decide)
    have h3 : low < 2 ^ 62 := Nat.mod_lt _ (by decide)
    omega⟩

/-! ### Reading -/

/-- Why a text is no identifier. -/
inductive Fault where
  | badChar (c : Char) (index : Nat)
  | badLength (length : Nat)
  | badGroupCount (count : Nat)
  | badGroupLength (group : Nat) (expected length : Nat)
deriving DecidableEq, Repr

def Fault.message : Fault → String
  | .badChar c i => "invalid character: found `" ++ c.toString ++ "` at " ++ toString i
  | .badLength n => "invalid length: found " ++ toString n
  | .badGroupCount n => "invalid group count: expected 5, found " ++ toString n
  | .badGroupLength g expected n =>
    "invalid group length in group " ++ toString g ++ ": expected " ++ toString expected ++
      ", found " ++ toString n

/-- The digits without what may stand around them, the index of the first one, and
    whether hyphens may be left out. -/
def unwrap (cs : List Char) : List Char × Nat × Bool :=
  if cs.head? = some '\x7b' ∧ cs.getLast? = some '\x7d' then (cs.tail.dropLast, 1, false)
  else if (cs.take 9).map Char.toLower = "urn:uuid:".toList then (cs.drop 9, 9, false)
  else (cs, 0, true)

/-- The parts of a text between hyphens. -/
def groups : List Char → List (List Char)
  | [] => [[]]
  | c :: rest =>
    match groups rest with
    | [] => [[c]]
    | g :: more => if c = '-' then [] :: g :: more else (c :: g) :: more

/-- The first group whose length is not the one expected. -/
def groupFault : (index : Nat) → (lengths : List Nat) → List (List Char) → Option Fault
  | i, n :: lengths, g :: gs =>
    if g.length = n then groupFault (i + 1) lengths gs else some (.badGroupLength i n g.length)
  | _, _, _ => none

def fault? (cs : List Char) : Option Fault :=
  let (body, start, simple) := unwrap cs
  let gs := groups body
  let isBad (c : Char) : Bool := c != '-' && (Text.hexValue? c).isNone
  match body.find? isBad with
  | some c => some (.badChar c (start + body.idxOf c))
  | none =>
    if gs.length = 1 ∧ simple then if body.length = 32 then none else some (.badLength cs.length)
    else if gs.length ≠ 5 then some (.badGroupCount gs.length)
    else groupFault 0 groupLengths gs

def read (s : String) : Except Fault Uuid :=
  match fault? s.toList with
  | some f => .error f
  | none =>
    .ok ⟨Text.hexNumber (unwrap s.toList).1 % 16 ^ 32, Nat.mod_lt _ (by decide)⟩

end Uuid

end DetectionJobs
