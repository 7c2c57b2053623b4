/-
  DetectionJobs/Json/Skip.lean
  ============================
  **Passing over a value that nobody reads.**

  Members that a record does not know are checked for syntax only: numbers may be
  of any size and containers nest without limit, since the containers that are
  open are kept in a list.
-/
import DetectionJobs.Json.Numeral

namespace DetectionJobs.Json

/-- A container that is open. -/
inductive Frame where
  | list
  | object
deriving DecidableEq, Repr

/-- What is missing at the end of a text inside a container. -/
def Frame.endProblem : Frame → Problem
  | .list => .endInList
  | .object => .endInObject

/-- What is missing where neither a comma nor the end of a container stands. -/
def Frame.commaProblem : Frame → Problem
  | .list => .expectedCommaInList
  | .object => .expectedCommaInObject

def Frame.closing : Frame → Char
  | .list => ']'
  | .object => '\x7d'

/-- A colon, after white space. -/
def colon (cs : List Char) : Except Failure (List Char) :=
  match skipSpace cs with
  | [] => .error (.beyond .endInObject [])
  | ':' :: rest => .ok rest
  | rest => .error (.beyond .expectedColon rest)

/-- Passes over the key of a member, its colon included. -/
def skipKey (cs : List Char) : Except Failure (List Char) :=
  match skipSpace cs with
  | [] => .error (.beyond .endInObject [])
  | '"' :: rest => (skipText rest).bind colon
  | rest => .error (.beyond .keyNotText rest)

/-- Where the value of an item starts that stands in a container: past its key, if it has
    one. -/
def Frame.start : Frame → List Char → Except Failure (List Char)
  | .list, cs => .ok cs
  | .object, cs => skipKey cs

/-- Passes over a value that is no container, from its first character. -/
def skipScalar (c : Char) (rest : List Char) : Except Failure (List Char) :=
  if c = 'n' then word ['u', 'l', 'l'] rest
  else if c = 't' then word ['r', 'u', 'e'] rest
  else if c = 'f' then word ['a', 'l', 's', 'e'] rest
  else if c = '-' then skipNumber rest
  else if c.isDigit then skipNumber (c :: rest)
  else if c = '"' then skipText rest
  else .error (.beyond .expectedValue (c :: rest))

/-- What comes next while values are passed over: a value, or a comma or the end
    of the innermost container, of which `fresh` ones hold nothing yet. -/
inductive Awaited where
  | value
  | more (fresh : Bool)
deriving DecidableEq, Repr

/-- Passes over values until every container is closed again. -/
def skipFrom : (fuel : Nat) → Awaited → List Frame → List Char → Except Failure (List Char)
  | 0, _, _, cs => .error (.beyond .endInValue cs)
  | fuel + 1, .value, frames, cs =>
    match skipSpace cs with
    | [] => .error (.beyond .endInValue [])
    | c :: rest =>
      if c = '[' then skipFrom fuel (.more true) (.list :: frames) rest
      else if c = '\x7b' then skipFrom fuel (.more true) (.object :: frames) rest
      else
        match skipScalar c rest with
        | .error f => .error f
        | .ok rest => skipFrom fuel (.more false) frames rest
  | _ + 1, .more _, [], cs => .ok cs
  | fuel + 1, .more fresh, frame :: frames, cs =>
    match skipSpace cs with
    | [] => .error (.beyond frame.endProblem [])
    | c :: rest =>
      if c = frame.closing then skipFrom fuel (.more false) frames rest
      else if fresh then
        match frame.start (c :: rest) with
        | .error f => .error f
        | .ok cs => skipFrom fuel .value (frame :: frames) cs
      else if c = ',' then
        match frame.start rest with
        | .error f => .error f
        | .ok cs => skipFrom fuel .value (frame :: frames) cs
      else .error (.beyond frame.commaProblem (c :: rest))

/-- Passes over one value. -/
def skipValue (cs : List Char) : Except Failure (List Char) :=
  skipFrom (3 * cs.length + 3) .value [] cs

end DetectionJobs.Json
