/-
  DetectionJobs/Repository/Fault.lean
  ===================================
  **Why an operation on the stored jobs fails.**
-/
import DetectionJobs.Text.Quoted

namespace DetectionJobs.Repository

/-- Why an operation on the stored jobs fails. -/
inductive Fault where
  | database (reason : String)
  /-- A stored job whose state has no known name. -/
  | corruptStatus (jobId status : String)
  | unavailable (reason : String)
deriving DecidableEq, Repr

def Fault.message : Fault → String
  | .database reason => "Database error: " ++ reason
  | .corruptStatus jobId status =>
    "Stored job " ++ jobId ++ " has unknown status " ++ Text.quoted status
  | .unavailable reason => "Repository unavailable: " ++ reason

end DetectionJobs.Repository
