/-
  DetectionJobs/Queue/Fault.lean
  ==============================
  **Why an operation on the queue fails.**
-/

namespace DetectionJobs.Queue

/-- Why an operation on the queue fails. -/
inductive Fault where
  /-- The connection to a remote broker. -/
  | link (reason : String)
  /-- A body that is no message. -/
  | unreadable (reason : String)
  /-- A message with a blank member. -/
  | invalid (reason : String)
  /-- A broker that takes no calls. -/
  | closed
deriving DecidableEq, Repr

def Fault.message : Fault → String
  | .link reason => "Redis error: " ++ reason
  | .unreadable reason => "Serialization error: " ++ reason
  | .invalid reason => "Invalid job message: " ++ reason
  | .closed => "Queue closed"

end DetectionJobs.Queue
