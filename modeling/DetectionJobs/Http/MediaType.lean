/-
  DetectionJobs/Http/MediaType.lean
  =================================
  **Media types of request bodies.**

  A media type is a type and a subtype, `application/json`, which parameters may
  follow.  A subtype may end in a suffix, `application/vnd.api+json`.
-/
import DetectionJobs.Json.Format

namespace DetectionJobs.Http

/-- The characters that names and unquoted values are made of. -/
def isTokenChar (c : Char) : Bool :=
  c.isAlphanum || "!#$%&*+-.^_\x60|~".toList.contains c || c.toNat = 39

structure MediaType where
  type : String
  subtype : String
  suffix : Option String
deriving DecidableEq, Repr

namespace MediaType

/-- Splits a subtype at its last plus sign that is not its first character. -/
def splitSuffix (subtype : List Char) : List Char × Option (List Char) :=
  let suffix := (subtype.reverse.takeWhile (· ≠ '+')).reverse
  let rest := subtype.take (subtype.length - suffix.length - 1)
  if suffix.length = subtype.length ∨ rest.isEmpty then (subtype, none) else (rest, some suffix)

/-- The characters that a quoted value is made of. -/
def isQuotable (c : Char) : Bool := 0x20 ≤ c.toNat && c.toNat < 0x7f

/-- Drops the rest of a quoted value and the semicolon after it. -/
def dropQuoted? : List Char → Option (List Char)
  | [] => none
  | '"' :: rest =>
    match rest.dropWhile (· = ' ') with
    | [] => some []
    | ';' :: rest => some rest
    | _ => none
  | '\\' :: c :: rest => if isQuotable c then dropQuoted? rest else none
  | c :: rest => if isQuotable c then dropQuoted? rest else none

/-- Drops the first parameter and the semicolon after it. -/
def dropParameter? (cs : List Char) : Option (List Char) :=
  match (cs.dropWhile (· = ' ')).span isTokenChar with
  | ([], []) => some []
  | ([], _) => none
  | (_, '=' :: '"' :: rest) => dropQuoted? rest
  | (_, '=' :: rest) =>
    match rest.span isTokenChar with
    | (_, []) => some []
    | ([], _) => none
    | (_, ';' :: rest) => some rest
    | _ => none
  | _ => none

/-- Whether a text is a list of parameters; there are no more than its characters. -/
def areParameters : (fuel : Nat) → List Char → Bool
  | _, [] => true
  | 0, _ => false
  | fuel + 1, cs =>
    match dropParameter? cs with
    | none => false
    | some rest => areParameters fuel rest

def read? (s : String) : Option MediaType :=
  match s.toList.span isTokenChar with
  | (_ :: _, '/' :: rest) =>
    let type := s.toList.takeWhile isTokenChar
    let build (subtype : List Char) : MediaType :=
      let (name, suffix) := splitSuffix subtype
      ⟨(String.ofList type).toLower, (String.ofList name).toLower,
        suffix.map fun cs => (String.ofList cs).toLower⟩
    match rest.span isTokenChar with
    | (subtype, []) => some (build subtype)
    | ([], _) => none
    | (subtype, ';' :: rest) =>
      if areParameters rest.length rest then some (build subtype) else none
    | _ => none
  | _ => none

def isJson (m : MediaType) : Bool :=
  m.type = "application" && (m.subtype = "json" || m.suffix = some "json")

end MediaType

end DetectionJobs.Http
