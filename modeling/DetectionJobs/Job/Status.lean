/-
  DetectionJobs/Job/Status.lean
  =============================
  **The states of a job.**

  A job is pending until its result is recorded; completed and failed are its ends.
  There is no state for a job that is being worked on: then a worker holds its
  message, and the job stays pending.
-/
import DetectionJobs.Json.Format

namespace DetectionJobs

/-- The recorded state of a job. -/
inductive Status where
  | pending
  | completed
  | failed
deriving DecidableEq, Repr

namespace Status

/-- Completed and failed are the ends of a job. -/
def isTerminal : Status → Bool
  | .pending => false
  | .completed => true
  | .failed => true

theorem isTerminal_eq_false {s : Status} : s.isTerminal = false ↔ s = .pending := by
  cases s <;> simp [isTerminal]

/-- The name under which a state is stored and sent. -/
def name : Status → String
  | .pending => "pending"
  | .completed => "completed"
  | .failed => "failed"

/-- The name of the state among the states. -/
def title : Status → String
  | .pending => "Pending"
  | .completed => "Completed"
  | .failed => "Failed"

def all : List Status := [.pending, .completed, .failed]

def ofName? (s : String) : Option Status := all.find? (·.name = s)

theorem ofName?_name (s : Status) : ofName? s.name = some s := by cases s <;> decide

/-! ### As JSON -/

open Json

/-- The state of a name, or the problem with it. -/
def ofVariant (s : String) : Except DataProblem Status :=
  match ofName? s with
  | some status => .ok status
  | none => .error (.unknownVariant s (all.map name))

/-- Reads an object with the name of the state as its only key and null as its
    value; the brace was not taken yet. -/
def readTagged (depth : Nat) (cs : List Char) : Except Failure (Status × List Char) :=
  match depth with
  | 0 => .error (.beyond .nestedTooDeep cs)
  | depth + 1 => do
    let (status, rest) ← (Format.string "variant identifier" ofVariant).read depth cs.tail
    let rest ← colon rest
    let rest ← match skipSpace rest with
      | [] => .error (Failure.beyond .endInValue [])
      | 'n' :: rest => word ['u', 'l', 'l'] rest
      | rest => .error (wrongType "unit" rest)
    match skipSpace rest with
    | [] => .error (.here .endInObject [])
    | c :: rest =>
      if c = '\x7d' then .ok (status, rest) else .error (.here .expectedValue (c :: rest))

/-- A state is the string of its name, or an object with that name as a key. -/
def format : Format Status where
  read depth cs :=
    match skipSpace cs with
    | [] => .error (.beyond .endInValue [])
    | c :: rest =>
      if c = '"' then (Format.string "variant identifier" ofVariant).read depth (c :: rest)
      else if c = '\x7b' then readTagged depth (c :: rest)
      else .error (.beyond .expectedValue (c :: rest))

end Status

end DetectionJobs
