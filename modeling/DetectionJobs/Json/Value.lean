/-
  DetectionJobs/Json/Value.lean
  =============================
  **JSON values and how they are written.**

  Members are written in the order in which they are given and without white
  space.  In strings only the quote, the backslash and the control characters
  below the space are escaped.
-/
import DetectionJobs.Json.Problem

namespace DetectionJobs.Json

/-- A JSON value.  Whole numbers are kept apart from others. -/
inductive Value where
  | null
  | bool (b : Bool)
  | whole (n : Int)
  | real (x : Double)
  | text (s : String)
  | list (items : List Value)
  | object (members : List (String × Value))

def Value.found : Value → Found
  | .null => .null
  | .bool b => .bool b
  | .whole n => .whole n
  | .real x => .real x
  | .text s => .text s
  | .list _ => .list
  | .object _ => .object

/-! ### Written form -/

/-- A character inside a string. -/
def writtenChar (c : Char) : List Char :=
  if c = '"' then ['\\', '"']
  else if c = '\\' then ['\\', '\\']
  else if c = Char.ofNat 8 then ['\\', 'b']
  else if c = '\t' then ['\\', 't']
  else if c = '\n' then ['\\', 'n']
  else if c = Char.ofNat 12 then ['\\', 'f']
  else if c = '\r' then ['\\', 'r']
  else if c.toNat < 0x20 then
    ['\\', 'u', '0', '0', Nat.digitChar (c.toNat / 16), Nat.digitChar (c.toNat % 16)]
  else [c]

/-- A string between quotes. -/
def writtenText (s : String) : List Char := '"' :: (s.toList.flatMap writtenChar ++ ['"'])

def writtenInt (n : Int) : List Char :=
  if n < 0 then '-' :: Nat.toDigits 10 n.natAbs else Nat.toDigits 10 n.natAbs

/-- A number; infinities and NaNs have no written form of their own. -/
def writtenReal (x : Double) : List Char :=
  if x.isFinite then x.dataChars else ['n', 'u', 'l', 'l']

mutual

def Value.chars : Value → List Char
  | .null => ['n', 'u', 'l', 'l']
  | .bool true => ['t', 'r', 'u', 'e']
  | .bool false => ['f', 'a', 'l', 's', 'e']
  | .whole n => writtenInt n
  | .real x => writtenReal x
  | .text s => writtenText s
  | .list items => '[' :: (itemChars items ++ [']'])
  | .object members => '\x7b' :: (memberChars members ++ ['\x7d'])

/-- The items of a list with commas between them. -/
def itemChars : List Value → List Char
  | [] => []
  | [v] => v.chars
  | v :: w :: rest => v.chars ++ ',' :: itemChars (w :: rest)

/-- The members of an object with commas between them. -/
def memberChars : List (String × Value) → List Char
  | [] => []
  | [(name, v)] => writtenText name ++ ':' :: v.chars
  | (name, v) :: m :: rest => writtenText name ++ ':' :: (v.chars ++ ',' :: memberChars (m :: rest))

end

def Value.write (v : Value) : String := String.ofList v.chars

end DetectionJobs.Json
