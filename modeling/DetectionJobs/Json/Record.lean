/-
  DetectionJobs/Json/Record.lean
  ==============================
  **Reading records from objects, and from lists of their members' values.**

  A record is read from an object whose members may stand in any order: each
  known member at most once, unknown ones are passed over.  A list of the members'
  values in the order of declaration is read as well.  Members that are missing
  are found after everything else.
-/
import DetectionJobs.Json.Format

namespace DetectionJobs.Json

/-- One member of a record that is read into a state of type `σ`. -/
structure Member (σ : Type) where
  name : String
  /-- Whether a list may end before the member. -/
  trailing : Bool
  /-- Whether the state holds the member already. -/
  isSet : σ → Bool
  read : σ → (depth : Nat) → List Char → Except Failure (σ × List Char)

/-- The members of a record of type `α`, and the state in which they are collected. -/
structure Fields (σ α : Type) where
  members : List (Member σ)
  empty : σ
  build : σ → Except DataProblem α

namespace Fields

/-- One member, with what a missing one stands for. -/
def single (name : String) (trailing : Bool) (f : Format α) (absent : Except DataProblem α) :
    Fields (Option α) α where
  members := [{
    name := name
    trailing := trailing
    isSet := Option.isSome
    read := fun _ depth cs => (f.read depth cs).map fun (a, rest) => (some a, rest) }]
  empty := none
  build s := match s with
    | some a => .ok a
    | none => absent

def required (name : String) (f : Format α) : Fields (Option α) α :=
  single name false f (.error (.missingField name))

/-- A member that may be missing. -/
def withDefault (name : String) (f : Format α) (a : α) : Fields (Option α) α :=
  single name true f (.ok a)

/-- A member that may be null, and missing from an object. -/
def optional (name : String) (f : Format α) : Fields (Option (Option α)) (Option α) :=
  single name false f.nullable (.ok none)

/-- A member that may be null or missing. -/
def optionalWithDefault (name : String) (f : Format α) :
    Fields (Option (Option α)) (Option α) :=
  single name true f.nullable (.ok none)

/-- A member of the first part of a state. -/
def liftFirst (m : Member σ) : Member (σ × τ) where
  name := m.name
  trailing := m.trailing
  isSet s := m.isSet s.1
  read s depth cs := (m.read s.1 depth cs).map fun (a, rest) => ((a, s.2), rest)

/-- A member of the second part of a state. -/
def liftSecond (m : Member τ) : Member (σ × τ) where
  name := m.name
  trailing := m.trailing
  isSet s := m.isSet s.2
  read s depth cs := (m.read s.2 depth cs).map fun (b, rest) => ((s.1, b), rest)

/-- The members of two records, those of the first before those of the second. -/
def and (f : Fields σ α) (g : Fields τ β) : Fields (σ × τ) (α × β) where
  members := f.members.map liftFirst ++ g.members.map liftSecond
  empty := (f.empty, g.empty)
  build s := do
    let a ← f.build s.1
    let b ← g.build s.2
    return (a, b)

/-- The same members for another type. -/
def as (f : Fields σ α) (make : α → β) : Fields σ β where
  members := f.members
  empty := f.empty
  build s := (f.build s).map make

def find? (f : Fields σ α) (name : String) : Option (Member σ) :=
  f.members.find? (·.name = name)

/-- Reads a member of an object, whose key was read, into a state. -/
def readMember (f : Fields σ α) (depth : Nat) (s : σ) (key : String) (cs : List Char) :
    Except Failure (σ × List Char) :=
  match f.find? key with
  | some m =>
    if m.isSet s then .error (.inside (.data (.duplicateField key)) cs)
    else memberValue key (m.read s depth) cs
  | none => memberValue key (fun cs => (skipValue cs).map (s, ·)) cs

/-- Reads the values of a list into a state, starting with the value at `index`. -/
def readList (title : String) (depth : Nat) :
    List (Member σ) → (index : Nat) → σ → List Char → Except Failure (σ × List Char)
  | [], _, s, cs => .ok (s, cs)
  | m :: rest, index, s, cs =>
    match nextElement (index = 0) cs with
    | .error f => .error f
    | .ok none =>
      if m.trailing then readList title depth rest (index + 1) s cs
      else .error (.inside (.data (.wrongLength index title)) cs)
    | .ok (some start) =>
      match m.read s depth start with
      | .error f => .error (f.within (.element index))
      | .ok (s, cs) => readList title depth rest (index + 1) s cs

def lengthTitle (f : Fields σ α) (title : String) : String :=
  title ++ " with " ++ toString f.members.length ++
    (if f.members.length = 1 then " element" else " elements")

/-- Completes a record where its last member was read. -/
def finish (f : Fields σ α) : σ × List Char → Except Failure (α × List Char)
  | (s, rest) =>
    match f.build s with
    | .ok a => .ok (a, rest)
    | .error p => .error (.inside (.data p) rest)

/-- Reads members whose values start at given points of the text, in their order.
    Those that the record does not know are left out. -/
def readEntries (f : Fields σ α) (depth : Nat) :
    (entries : List (String × List Char)) → σ → Except Problem σ
  | [], s => .ok s
  | (key, start) :: rest, s =>
    match f.find? key with
    | none => f.readEntries depth rest s
    | some m =>
      if m.isSet s then .error (.data (.duplicateField key))
      else
        match m.read s depth start with
        | .error e => .error e.problem
        | .ok (s, _) => f.readEntries depth rest s

/-- Records, read from objects or lists. -/
def format (title : String) (f : Fields σ α) : Format α where
  read depth cs :=
    match skipSpace cs with
    | [] => .error (.beyond .endInValue [])
    | c :: rest =>
      if c = '[' then
        inBrackets depth (fun depth cs =>
          (readList (f.lengthTitle title) depth f.members 0 f.empty cs).bind f.finish) (c :: rest)
      else if c = '\x7b' then
        inBraces depth (fun depth cs =>
          (collectMembers (f.readMember depth) (cs.length + 1) true f.empty cs).bind f.finish)
          (c :: rest)
      else .error (wrongType title (c :: rest))

end Fields

end DetectionJobs.Json
