/-
  DetectionJobs/Id/Ulid.lean
  ==========================
  **Identifiers of jobs, which sort by the time of their creation.**

  A number of 128 bits: the milliseconds of its creation before 80 random bits,
  written as 26 digits of base 32.  A generator gives the next number instead when the
  clock has not moved on.
-/
import DetectionJobs.Number.Power

namespace DetectionJobs

/-- An identifier that carries its time of creation. -/
structure Ulid where
  value : Nat
  isSmall : value < 2 ^ 128 := by decide
deriving DecidableEq, Repr

namespace Ulid

/-- How many values the random part has. -/
def randomCount : Nat := 2 ^ 80

def millis (u : Ulid) : Nat := u.value / randomCount

/-- The identifier of a time and a random part. -/
def ofParts (millis random : Nat) : Ulid :=
  ⟨millis % 2 ^ 48 * randomCount + random % randomCount, by
    have h1 : millis % 2 ^ 48 < 2 ^ 48 := Nat.mod_lt _ (by decide)
    have h2 : random % randomCount < randomCount := Nat.mod_lt _ (by decide)
    unfold randomCount at *
    omega⟩

/-- The next identifier of the same millisecond; nothing after the last one. -/
def next? (u : Ulid) : Option Ulid :=
  if h : u.value % randomCount = randomCount - 1 then none
  else some ⟨u.value + 1, by
    have := u.isSmall
    unfold randomCount at h
    omega⟩

/-! ### Written form -/

/-- The digits: no `I`, `L`, `O` and `U`. -/
def digits : List Char := "0123456789ABCDEFGHJKMNPQRSTVWXYZ".toList

def digitChar (d : Nat) : Char := digits.getD d '0'

/-- The last `width` digits of a number. -/
def fixedDigits : (width : Nat) → Nat → List Char
  | 0, _ => []
  | width + 1, n => fixedDigits width (n / 32) ++ [digitChar (n % 32)]

def text (u : Ulid) : String := String.ofList (fixedDigits 26 u.value)

def isWritten (s : String) : Bool :=
  match s.toList with
  | c :: rest => rest.length = 25 && '0' ≤ c && c ≤ '7' && rest.all digits.contains
  | [] => false

/-! ### Generator -/

/-- What a new identifier is made of: the clock's milliseconds and random bits. -/
structure Source where
  millis : Nat
  random : Nat
deriving DecidableEq, Repr

def Source.ulid (s : Source) : Ulid := ofParts s.millis s.random

/-- The identifier after `previous`: a new one once the clock has moved on, otherwise
    the next one. -/
def generate? (previous : Ulid) (s : Source) : Option Ulid :=
  if s.millis ≤ previous.millis then previous.next? else some s.ulid

/-- Hands out an identifier.  Gives what the generator remembers and the identifier:
    after the last one of a millisecond a new one, which is not remembered. -/
def generate (previous : Ulid) (s spare : Source) : Ulid × Ulid :=
  match generate? previous s with
  | some u => (u, u)
  | none => (previous, spare.ulid)

/-- What a generator remembers at the start. -/
def zero : Ulid := ⟨0, by decide⟩

end Ulid

end DetectionJobs
