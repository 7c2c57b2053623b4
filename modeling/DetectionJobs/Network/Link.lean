/-
  DetectionJobs/Network/Link.lean
  ===============================
  **Reaching another machine.**
-/

namespace DetectionJobs.Network

/-- Why a machine is not reached: the system's number, name and text for it. -/
structure Obstacle where
  code : Nat
  kind : String
  reason : String
deriving DecidableEq, Repr

namespace Obstacle

/-- There is no way to the network of the machine. -/
def unreachable : Obstacle := ⟨101, "NetworkUnreachable", "Network is unreachable"⟩

def text (o : Obstacle) : String := o.reason ++ " (os error " ++ toString o.code ++ ")"

/-- The text with every part named. -/
def detail (o : Obstacle) : String :=
  "Os \x7b code: " ++ toString o.code ++ ", kind: " ++ o.kind ++ ", message: \"" ++ o.reason
    ++ "\" \x7d"

end Obstacle

/-- A way to another machine, if there is one. -/
abbrev Link (α : Type) := Except Obstacle α

end DetectionJobs.Network
