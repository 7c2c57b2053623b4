/-
  DetectionJobs/Json/Format.lean
  ==============================
  **Reading values of a given type.**

  A format says how a type is read from JSON text.  Problems come with their
  places; containers may nest 127 deep.
-/
import DetectionJobs.Json.Skip
import DetectionJobs.Json.Value

namespace DetectionJobs.Json

/-- How many containers may be open at once. -/
def maxDepth : Nat := 127

/-- How a type is read from the front of a text, given how many more containers may
    be opened. -/
structure Format (α : Type) where
  read : (depth : Nat) → List Char → Except Failure (α × List Char)

/-! ### Values that are not of the type asked for -/

/-- The failure where a value other than `expected` stands.  A value other than a
    container is read, and the problem placed after it. -/
def wrongType (expected : String) (cs : List Char) : Failure :=
  let after (found : Found) (rest : List Char) : Failure :=
    .here (.data (.wrongType found expected)) rest
  let afterWord (found : Found) : Except Failure (List Char) → Failure
    | .ok rest => after found rest
    | .error f => f
  match cs with
  | [] => .beyond .expectedValue []
  | c :: rest =>
    if c = 'n' then afterWord .null (word ['u', 'l', 'l'] rest)
    else if c = 't' then afterWord (.bool true) (word ['r', 'u', 'e'] rest)
    else if c = 'f' then afterWord (.bool false) (word ['a', 'l', 's', 'e'] rest)
    else if c = '-' ∨ c.isDigit then
      match numeral cs with
      | .ok (.whole n, rest) => after (.whole n) rest
      | .ok (.real x, rest) => after (.real x) rest
      | .error f => f
    else if c = '"' then
      match text rest with
      | .ok (s, rest) => after (.text s) rest
      | .error f => f
    else if c = '[' then after .list cs
    else if c = '\x7b' then after .object cs
    else .beyond .expectedValue cs

/-! ### Numbers -/

def readNumber (expected : String) (convert : Numeral → Except DataProblem α)
    (cs : List Char) : Except Failure (α × List Char) :=
  match skipSpace cs with
  | [] => .error (.beyond .endInValue [])
  | c :: rest =>
    if c = '-' ∨ c.isDigit then
      match numeral (c :: rest) with
      | .error f => .error f
      | .ok (n, after) =>
        match convert n with
        | .ok a => .ok (a, after)
        | .error p => .error (.here (.data p) after)
    else .error (wrongType expected (c :: rest))

/-- The type of numbers that `convert` accepts. -/
def Format.number (expected : String) (convert : Numeral → Except DataProblem α) : Format α where
  read _ cs := readNumber expected convert cs

def Numeral.toDouble : Numeral → Double
  | .whole n => .ofInt n
  | .real x => x

/-- Any number. -/
def Format.double : Format Double := .number "f64" fun n => .ok n.toDouble

/-- Whole numbers from `low` to `high`. -/
def Numeral.between (low high : Int) (expected : String) : Numeral → Except DataProblem Int
  | .whole n =>
    if low ≤ n ∧ n ≤ high then .ok n else .error (.wrongValue (.whole n) expected)
  | .real x => .error (.wrongType (.real x) expected)

def Format.int32 : Format Int32 := .number "i32" fun n =>
  (n.between (-2 ^ 31) (2 ^ 31 - 1) "i32").map Int32.ofInt

def Format.natural32 : Format Nat := .number "u32" fun n =>
  (n.between 0 (2 ^ 32 - 1) "u32").map Int.toNat

/-! ### Strings -/

/-- Strings that `convert` accepts. -/
def Format.string (expected : String) (convert : String → Except DataProblem α) : Format α where
  read _ cs :=
    match skipSpace cs with
    | [] => .error (.beyond .endInValue [])
    | '"' :: rest =>
      match Json.text rest with
      | .error f => .error f
      | .ok (s, after) =>
        match convert s with
        | .ok a => .ok (a, after)
        | .error p => .error (.here (.data p) after)
    | cs => .error (wrongType expected cs)

def Format.text : Format String := .string "a string" .ok

/-! ### Values that may be null -/

/-- `null`, or a value of the type. -/
def Format.nullable (f : Format α) : Format (Option α) where
  read depth cs :=
    match skipSpace cs with
    | 'n' :: rest =>
      match word ['u', 'l', 'l'] rest with
      | .ok rest => .ok (none, rest)
      | .error e => .error e
    | cs =>
      match f.read depth cs with
      | .ok (a, rest) => .ok (some a, rest)
      | .error e => .error e

/-! ### Lists -/

/-- Where the next element of a list starts; nothing at the closing bracket. -/
def nextElement (isFirst : Bool) (cs : List Char) : Except Failure (Option (List Char)) :=
  match skipSpace cs with
  | [] => .error (.beyond .endInList [])
  | c :: rest =>
    if c = ']' then .ok none
    else if isFirst then .ok (some (c :: rest))
    else if c = ',' then
      match skipSpace rest with
      | [] => .error (.beyond .endInValue [])
      | ']' :: rest => .error (.beyond .trailingComma (']' :: rest))
      | rest => .ok (some rest)
    else .error (.beyond .expectedCommaInList (c :: rest))

/-- The elements of a list, up to the closing bracket, after those in `taken`,
    which stand in reverse. -/
def elements (read : List Char → Except Failure (α × List Char)) :
    (fuel : Nat) → (taken : List α) → List Char → Except Failure (List α × List Char)
  | 0, _, cs => .error (.beyond .endInList cs)
  | fuel + 1, taken, cs =>
    match nextElement taken.isEmpty cs with
    | .error f => .error f
    | .ok none => .ok (taken.reverse, cs)
    | .ok (some start) =>
      match read start with
      | .error f => .error (f.within (.element taken.length))
      | .ok (a, rest) => elements read fuel (a :: taken) rest

def closeList (cs : List Char) : Except Failure (List Char) :=
  match skipSpace cs with
  | [] => .error (.beyond .endInList [])
  | ']' :: rest => .ok rest
  | ',' :: rest =>
    match skipSpace rest with
    | ']' :: rest => .error (.beyond .trailingComma (']' :: rest))
    | rest => .error (.beyond .trailingCharacters rest)
  | rest => .error (.beyond .trailingCharacters rest)

/-- Where the reader stands after it tried to close a list. -/
def afterList (cs : List Char) : List Char :=
  match skipSpace cs with
  | ']' :: rest => rest
  | ',' :: rest => skipSpace rest
  | rest => rest

/-- What is inside brackets, which are both taken here.  The first one is known to
    be there. -/
def inBrackets (depth : Nat) (inside : Nat → List Char → Except Failure (α × List Char))
    (cs : List Char) : Except Failure (α × List Char) :=
  match depth with
  | 0 => .error (.beyond .nestedTooDeep cs)
  | depth + 1 =>
    match inside depth cs.tail with
    | .error f => .error (f.settle afterList)
    | .ok (a, rest) => (closeList rest).map (a, ·)

def Format.list (f : Format α) : Format (List α) where
  read depth cs :=
    match skipSpace cs with
    | [] => .error (.beyond .endInValue [])
    | '[' :: rest =>
      inBrackets depth (fun depth cs => elements (f.read depth) (cs.length + 1) [] cs) ('[' :: rest)
    | cs => .error (wrongType "a sequence" cs)

/-! ### Objects -/

/-- The key of the next member of an object and what follows it; nothing at the
    closing brace. -/
def nextKey (isFirst : Bool) (cs : List Char) :
    Except Failure (Option (String × List Char)) :=
  let key (cs : List Char) := (text cs).map some
  match skipSpace cs with
  | [] => .error (.beyond .endInObject [])
  | c :: rest =>
    if c = '\x7d' then .ok none
    else if isFirst then
      if c = '"' then key rest else .error (.beyond .keyNotText (c :: rest))
    else if c = ',' then
      match skipSpace rest with
      | [] => .error (.beyond .endInValue [])
      | '"' :: rest => key rest
      | c :: rest =>
        if c = '\x7d' then .error (.beyond .trailingComma (c :: rest))
        else .error (.beyond .keyNotText (c :: rest))
    else .error (.beyond .expectedCommaInObject (c :: rest))

def closeObject (cs : List Char) : Except Failure (List Char) :=
  match skipSpace cs with
  | [] => .error (.beyond .endInObject [])
  | c :: rest =>
    if c = '\x7d' then .ok rest
    else if c = ',' then .error (.beyond .trailingComma (c :: rest))
    else .error (.beyond .trailingCharacters (c :: rest))

/-- Where the reader stands after it tried to close an object. -/
def afterObject (cs : List Char) : List Char :=
  match skipSpace cs with
  | [] => []
  | c :: rest => if c = '\x7d' then rest else c :: rest

/-- What is inside braces, which are both taken here.  The first one is known to
    be there. -/
def inBraces (depth : Nat) (inside : Nat → List Char → Except Failure (α × List Char))
    (cs : List Char) : Except Failure (α × List Char) :=
  match depth with
  | 0 => .error (.beyond .nestedTooDeep cs)
  | depth + 1 =>
    match inside depth cs.tail with
    | .error f => .error (f.settle afterObject)
    | .ok (a, rest) => (closeObject rest).map (a, ·)

/-- The value of the member `key`, after its colon. -/
def memberValue (key : String) (read : List Char → Except Failure (α × List Char))
    (cs : List Char) : Except Failure (α × List Char) :=
  match (colon cs).bind read with
  | .ok r => .ok r
  | .error f => .error (f.within (.member key))

/-- The members of an object, up to the closing brace, each put into a state that
    starts as `s`. -/
def collectMembers (step : σ → String → List Char → Except Failure (σ × List Char)) :
    (fuel : Nat) → (isFirst : Bool) → (s : σ) → List Char → Except Failure (σ × List Char)
  | 0, _, _, cs => .error (.beyond .endInObject cs)
  | fuel + 1, isFirst, s, cs =>
    match nextKey isFirst cs with
    | .error f => .error f
    | .ok none => .ok (s, cs)
    | .ok (some (key, rest)) =>
      match step s key rest with
      | .error f => .error f
      | .ok (s, rest) => collectMembers step fuel false s rest

/-! ### Any value -/

def readValue : (depth : Nat) → List Char → Except Failure (Value × List Char)
  | depth, cs =>
    match skipSpace cs with
    | [] => .error (.beyond .endInValue [])
    | c :: rest =>
      if c = 'n' then (word ['u', 'l', 'l'] rest).map (.null, ·)
      else if c = 't' then (word ['r', 'u', 'e'] rest).map (.bool true, ·)
      else if c = 'f' then (word ['a', 'l', 's', 'e'] rest).map (.bool false, ·)
      else if c = '-' ∨ c.isDigit then
        match numeral (c :: rest) with
        | .ok (.whole n, rest) => .ok (.whole n, rest)
        | .ok (.real x, rest) => .ok (.real x, rest)
        | .error f => .error f
      else if c = '"' then
        match text rest with
        | .ok (s, rest) => .ok (.text s, rest)
        | .error f => .error f
      else if c = '[' then
        match depth with
        | 0 => .error (.beyond .nestedTooDeep (c :: rest))
        | depth + 1 =>
          match elements (readValue depth) (rest.length + 1) [] rest with
          | .error f => .error (f.settle afterList)
          | .ok (items, rest) => (closeList rest).map (.list items, ·)
      else if c = '\x7b' then
        match depth with
        | 0 => .error (.beyond .nestedTooDeep (c :: rest))
        | depth + 1 =>
          let step (taken : List (String × Value)) (key : String) (cs : List Char) :=
            match memberValue key (readValue depth) cs with
            | .error f => Except.error f
            | .ok (v, rest) => .ok ((key, v) :: taken, rest)
          match collectMembers step (rest.length + 1) true [] rest with
          | .error f => .error (f.settle afterObject)
          | .ok (taken, rest) => (closeObject rest).map (.object taken.reverse, ·)
      else .error (.beyond .expectedValue (c :: rest))

/-! ### Whole texts -/

/-- Reads a text that holds one value of the type and nothing else. -/
def Format.parse (f : Format α) (s : String) : Except Failure α :=
  match f.read maxDepth s.toList with
  | .error e => .error e
  | .ok (a, rest) =>
    match skipSpace rest with
    | [] => .ok a
    | rest => .error (.beyond .trailingCharacters rest)

/-- The same with the message of a failure. -/
def Format.parseText (f : Format α) (s : String) : Except String α :=
  (f.parse s).mapError (·.describe s.toList)

end DetectionJobs.Json
