/-
  DetectionJobs/Domain/Name.lean
  ==============================
  **Domain names in their ASCII form.**

  A name is folded and composed, and each label that is not ASCII is written with the
  prefix `xn--`.  A label that already has the prefix must be what such a label is
  written as.  Labels obey rules on marks, invisible joiners and directions.
-/
import DetectionJobs.Domain.Mapping
import DetectionJobs.Domain.Punycode
import DetectionJobs.Domain.Script
import DetectionJobs.Text.Canonical

namespace DetectionJobs.Domain

open Text

def isAscii (c : Char) : Bool := c.toNat < 0x80

/-- ASCII characters that no name may hold: those with a meaning in addresses, blanks and
    control characters. -/
def isForbidden (c : Char) : Bool :=
  c.toNat ≤ 0x20 || c.toNat = 0x7f || "%#/:<>?@[\\]^|".toList.contains c

def asciiPrefix : List Char := "xn--".toList

/-! ### Joiners -/

/-- The joiner and the non-joiner, which are never seen. -/
def joiner : Char := Char.ofNat 0x200D
def nonJoiner : Char := Char.ofNat 0x200C

/-- Whether a joiner or a non-joiner may stand between these characters, those before it
    nearest first: after a sign that silences a vowel, or, for the non-joiner, between two
    letters that would join. -/
def joinerFits (c : Char) (before after : List Char) : Bool :=
  before.head?.any silencers.contains
    || c == nonJoiner
      && (before.dropWhile nonspacing.contains).head?.any
        (fun b => joinsBoth.contains b || joinsNext.contains b)
      && (after.dropWhile nonspacing.contains).head?.any
        (fun a => joinsBoth.contains a || joinsPrevious.contains a)

/-- Whether every joiner of a label fits; `before` holds what precedes, nearest first. -/
def joinersFit (before : List Char) : List Char → Bool
  | [] => true
  | c :: after =>
    ((c != joiner && c != nonJoiner) || joinerFits c before after) && joinersFit (c :: before) after

/-! ### Directions -/

/-- Whether a character makes its name one of both directions. -/
def turns (c : Char) : Bool :=
  match Direction.ofChar c with
  | .rightToLeft | .arabicDigit => true
  | _ => false

/-- The rule for labels of a name of both directions: a label runs in the direction of its
    first letter, holds nothing of the other, and ends in a letter or digit of its own. -/
def runsOneWay (label : List Char) : Bool :=
  let directions := label.map Direction.ofChar
  let last := (directions.reverse.dropWhile (· == .nonspacing)).head?
  match directions.head? with
  | none => true
  | some .rightToLeft =>
    !directions.contains .leftToRight
      && (last == some .rightToLeft || last == some .europeanDigit || last == some .arabicDigit)
      && !(directions.contains .europeanDigit && directions.contains .arabicDigit)
  | some .leftToRight =>
    !directions.contains .rightToLeft && !directions.contains .arabicDigit
      && (last == some .leftToRight || last == some .europeanDigit)
  | some _ => false

/-! ### Labels -/

/-- A label in its own script and in ASCII. -/
structure Label where
  shown : List Char
  ascii : List Char
deriving DecidableEq, Repr

/-- The rules for a label beyond ASCII: it begins with no mark, and its joiners fit. -/
def isWellFormed (label : List Char) : Bool :=
  !label.head?.any marks.contains && joinersFit [] label

/-- How long a label may be on either side of its written form. -/
def longestShown : Nat := 1000
def longestWritten : Nat := 2000

/-- The label that a written form stands for. -/
def Label.ofWritten? (written : List Char) : Option Label := do
  let tail := written.drop asciiPrefix.length
  if tail.isEmpty ∨ tail.getLast? = some '-' ∨ longestWritten < tail.length then none
  let shown ← Punycode.decode? tail
  if shown.all isAscii ∨ canonical shown ≠ shown then none
  if ¬ shown.all (fun c => fold? c == some [c]) ∨ ¬ isWellFormed shown then none
  some ⟨shown, written⟩

/-- A folded label. -/
def Label.ofFolded? (label : List Char) : Option Label :=
  if label.any isForbidden then none
  else if label.all isAscii then
    if asciiPrefix.isPrefixOf label then Label.ofWritten? label else some ⟨label, label⟩
  else if asciiPrefix.isPrefixOf label ∨ ¬ isWellFormed label
      ∨ longestShown < label.length then none
  else some ⟨label, asciiPrefix ++ Punycode.encode label⟩

def splitDots (cs : List Char) : List (List Char) :=
  cs.foldr (fun c labels => match labels with
    | [] => [[c]]
    | label :: rest => if c = '.' then [] :: label :: rest else (c :: label) :: rest) [[]]

/-- The ASCII form of a name, if it obeys the rules. -/
def toAscii? (name : String) : Option String := do
  let folded ← name.toList.mapM fold?
  let labels ← (splitDots (canonical folded.flatten)).mapM Label.ofFolded?
  if labels.any (·.shown.any turns) ∧ ¬ labels.all (runsOneWay ·.shown) then none
  some (".".intercalate (labels.map fun l => String.ofList l.ascii))

end DetectionJobs.Domain
