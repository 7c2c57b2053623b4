/-
  DetectionJobs/Text/CharSet.lean
  ===============================
  **Sets of characters, written as ranges of code points.**

  A Unicode property is data: a list of ranges.  Tables are kept as text in the
  notation of the standard's own lists (`300-36f 483`), which is read once when
  the program starts.
-/

namespace DetectionJobs.Text

def hexValue? (c : Char) : Option Nat :=
  let n := c.toNat
  if 0x30 ≤ n ∧ n ≤ 0x39 then some (n - 0x30)
  else if 0x61 ≤ n ∧ n ≤ 0x66 then some (n - 0x61 + 10)
  else if 0x41 ≤ n ∧ n ≤ 0x46 then some (n - 0x41 + 10)
  else none

/-- The number that the hexadecimal digits of a text write; other characters
    are passed over. -/
def hexNumber (cs : List Char) : Nat :=
  cs.foldl (fun n c => match hexValue? c with
    | some d => 16 * n + d
    | none => n) 0

/-- A number in lower-case hexadecimal digits. -/
def hexDigits (n : Nat) : List Char := Nat.toDigits 16 n

/-- A set of characters: the ranges of its code points, ends included. -/
structure CharSet where
  ranges : List (Nat × Nat)

namespace CharSet

/-- Reads one range, `300-36f`, or a single code point, `5bf`. -/
def readRange (word : List Char) : Nat × Nat :=
  let (low, high) := word.span (· ≠ '-')
  match high with
  | [] => (hexNumber low, hexNumber low)
  | _ :: rest => (hexNumber low, hexNumber rest)

/-- The words of a text, between spaces and line ends. -/
def words (cs : List Char) : List (List Char) :=
  let step (c : Char) : List (List Char) → List (List Char)
    | [] => []
    | word :: more => if c = ' ' ∨ c = '\n' then [] :: word :: more else (c :: word) :: more
  (cs.foldr step [[]]).filter (!·.isEmpty)

/-- The set that a list of ranges writes. -/
def ofNotation (text : String) : CharSet := ⟨(words text.toList).map readRange⟩

def contains (s : CharSet) (c : Char) : Bool :=
  s.ranges.any fun (low, high) => low ≤ c.toNat && c.toNat ≤ high

end CharSet

end DetectionJobs.Text
