/-
  DetectionJobs/Json/Problem.lean
  ===============================
  **What can be wrong with a JSON text, and where.**

  A problem is either one of the syntax, or one of the data: the text is JSON,
  but not of the type that was asked for.  A failure adds where the problem was
  noticed and inside which members.  A place is kept as the text that was left
  at the time; its line and column are computed when the failure is described.
-/
import DetectionJobs.Number.Notation
import DetectionJobs.Text.Quoted

namespace DetectionJobs.Json

/-- The kind of a value, as messages name it. -/
inductive Found where
  | null
  | bool (b : Bool)
  | whole (n : Int)
  | real (x : Double)
  | text (s : String)
  | list
  | object
deriving DecidableEq, Repr

def Found.message : Found → String
  | .null => "null"
  | .bool b => "boolean `" ++ (if b then "true" else "false") ++ "`"
  | .whole n => "integer `" ++ toString n ++ "`"
  | .real x => "floating point `" ++ String.ofList x.dataChars ++ "`"
  | .text s => "string " ++ Text.quoted s
  | .list => "sequence"
  | .object => "map"

/-- Why a JSON text is not of the type that was asked for. -/
inductive DataProblem where
  | wrongType (found : Found) (expected : String)
  | wrongValue (found : Found) (expected : String)
  | wrongLength (length : Nat) (expected : String)
  | missingField (name : String)
  | duplicateField (name : String)
  | unknownVariant (name : String) (known : List String)
  | custom (text : String)
deriving DecidableEq, Repr

def named (name : String) : String := "`" ++ name ++ "`"

def DataProblem.message : DataProblem → String
  | .wrongType found expected => "invalid type: " ++ found.message ++ ", expected " ++ expected
  | .wrongValue found expected => "invalid value: " ++ found.message ++ ", expected " ++ expected
  | .wrongLength n expected => "invalid length " ++ toString n ++ ", expected " ++ expected
  | .missingField name => "missing field " ++ named name
  | .duplicateField name => "duplicate field " ++ named name
  | .unknownVariant name known =>
    "unknown variant " ++ named name ++ ", expected one of " ++
      String.intercalate ", " (known.map named)
  | .custom text => text

/-- What is wrong with a text. -/
inductive Problem where
  | endInList
  | endInObject
  | endInText
  | endInValue
  | expectedColon
  | expectedCommaInList
  | expectedCommaInObject
  | expectedIdent
  | expectedValue
  | invalidEscape
  | invalidNumber
  | numberOutOfRange
  | controlCharacter
  | keyNotText
  | loneSurrogate
  | trailingComma
  | trailingCharacters
  | endOfHexEscape
  | nestedTooDeep
  | data (problem : DataProblem)
deriving DecidableEq, Repr

def Problem.message : Problem → String
  | .endInList => "EOF while parsing a list"
  | .endInObject => "EOF while parsing an object"
  | .endInText => "EOF while parsing a string"
  | .endInValue => "EOF while parsing a value"
  | .expectedColon => "expected `:`"
  | .expectedCommaInList => "expected `,` or `]`"
  | .expectedCommaInObject => "expected `,` or `\x7d`"
  | .expectedIdent => "expected ident"
  | .expectedValue => "expected value"
  | .invalidEscape => "invalid escape"
  | .invalidNumber => "invalid number"
  | .numberOutOfRange => "number out of range"
  | .controlCharacter => "control character (\\u0000-\\u001F) found while parsing a string"
  | .keyNotText => "key must be a string"
  | .loneSurrogate => "lone leading surrogate in hex escape"
  | .trailingComma => "trailing comma"
  | .trailingCharacters => "trailing characters"
  | .endOfHexEscape => "unexpected end of hex escape"
  | .nestedTooDeep => "recursion limit exceeded"
  | .data problem => problem.message

def Problem.isData : Problem → Bool
  | .data _ => true
  | _ => false

/-- A step on the way to the value that a failure is about. -/
inductive Segment where
  | member (name : String)
  | element (index : Nat)
deriving DecidableEq, Repr

/-- The way to a value: `outputs[2].class`. -/
def pathText : List Segment → String
  | [] => ""
  | [.member name] => name
  | .member name :: .element i :: rest => name ++ pathText (.element i :: rest)
  | .member name :: rest => name ++ "." ++ pathText rest
  | [.element i] => "[" ++ toString i ++ "]"
  | .element i :: .element j :: rest => "[" ++ toString i ++ "]" ++ pathText (.element j :: rest)
  | .element i :: rest => "[" ++ toString i ++ "]." ++ pathText rest

/-- Where a problem was noticed: `ahead` bytes after the point where `rest` was
    left.  A problem that is `pending` belongs to a value whose end was not looked for
    yet; it is placed when the value is closed. -/
inductive Place where
  | seen (rest : List Char) (ahead : Nat)
  | pending (rest : List Char)
deriving DecidableEq, Repr

/-- A problem, its place and the way to the value that has it. -/
structure Failure where
  problem : Problem
  place : Place
  path : List Segment
deriving DecidableEq, Repr

namespace Failure

/-- A problem noticed at the next character, which was not taken. -/
def here (p : Problem) (rest : List Char) : Failure := ⟨p, .seen rest 0, []⟩

/-- A problem noticed on looking at the next character. -/
def beyond (p : Problem) (rest : List Char) : Failure := ⟨p, .seen rest 1, []⟩

/-- A problem of a value that is still to be closed. -/
def inside (p : Problem) (rest : List Char) : Failure := ⟨p, .pending rest, []⟩

/-- Places a pending problem where `close` ends; other problems keep their place. -/
def settle (close : List Char → List Char) (f : Failure) : Failure :=
  match f.place with
  | .seen .. => f
  | .pending rest => { f with place := .seen (close rest) 0 }

/-- The failure as one inside a member or element. -/
def within (s : Segment) (f : Failure) : Failure := { f with path := s :: f.path }

/-! ### Line and column -/

/-- A line, counted from 1, and the number of bytes before a point on it. -/
structure Position where
  line : Nat
  column : Nat
deriving DecidableEq, Repr

/-- The position after one more character, of which only `bytes` count. -/
def Position.step (p : Position) (c : Char) (bytes : Nat) : Position :=
  if c = '\n' then ⟨p.line + 1, 0⟩ else ⟨p.line, p.column + bytes⟩

def start : Position := ⟨1, 0⟩

/-- The position after some characters. -/
def Position.after (p : Position) (cs : List Char) : Position :=
  cs.foldl (fun p c => Position.step p c c.utf8Size) p

/-- The position after the given number of bytes, or at the end of the text. -/
def Position.advance (p : Position) : List Char → (bytes : Nat) → Position
  | [], _ => p
  | c :: rest, bytes =>
    if bytes = 0 then p
    else (p.step c (min bytes c.utf8Size)).advance rest (bytes - c.utf8Size)

/-- The position of a place in a text. -/
def placePosition (text : List Char) : Place → Position
  | .seen rest ahead =>
    (start.after (text.take (text.length - rest.length))).advance rest ahead
  | .pending rest => start.after (text.take (text.length - rest.length))

/-- The message of a failure to read a text, with its line and column. -/
def describe (text : List Char) (f : Failure) : String :=
  let p := placePosition text f.place
  f.problem.message ++ " at line " ++ toString p.line ++ " column " ++ toString p.column

/-- The message with the way to the value before it. -/
def describePath (text : List Char) (f : Failure) : String :=
  (if f.path.isEmpty then "" else pathText f.path ++ ": ") ++ f.describe text

end Failure

end DetectionJobs.Json
