/-
  DetectionJobs/Validation/Report.lean
  ====================================
  **Reports on values that break rules.**

  A rule looks at one field of a value and names a reason when it is broken.  A
  value is valid when no rule is broken; the report has one line for each reason.
-/
import DetectionJobs.Number.Notation

namespace DetectionJobs.Validation

/-- A field and why its value is refused. -/
structure Violation where
  field : String
  reason : String
deriving DecidableEq, Repr

/-- The broken rules of one value. -/
abbrev Report := List Violation

/-- One line for each broken rule. -/
def Report.text (r : Report) : String :=
  String.join (r.map fun v => v.field ++ ": " ++ v.reason ++ "\n")

/-- A number between `low` and `high`.  A NaN is neither below the one nor above the
    other. -/
def range (low high : Double) (x : Double) : Option String :=
  if x.lt low then some ("lower than " ++ low.plain)
  else if high.lt x then some ("greater than " ++ high.plain)
  else none

/-- A text of `low` to `high` bytes. -/
def byteLength (low high : Nat) (s : String) : Option String :=
  if s.utf8ByteSize < low then some ("length is lower than " ++ toString low)
  else if high < s.utf8ByteSize then some ("length is greater than " ++ toString high)
  else none

/-- The lines of one field's rules. -/
def check (field : String) (reasons : List (Option String)) : Report :=
  reasons.filterMap fun r => r.map (Violation.mk field)

/-- The value, if the report on it is empty. -/
def accept (r : Report) (a : α) : Except Report α := if r.isEmpty then .ok a else .error r

end DetectionJobs.Validation
