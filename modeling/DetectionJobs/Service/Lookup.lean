/-
  DetectionJobs/Service/Lookup.lean
  =================================
  **Telling how a job stands.**
-/
import DetectionJobs.Repository.Basic

namespace DetectionJobs.Lookup

/-- Why a job cannot be shown. -/
inductive Fault where
  | notFound (jobId : String)
  | repository (fault : Repository.Fault)
deriving DecidableEq, Repr

def Fault.message : Fault → String
  | .notFound jobId => "Job not found: " ++ jobId
  | .repository fault => "Failed to read job: " ++ fault.message

/-- The job with an identifier, which has to be stored. -/
def job (r : Repository) (jobId : String) : Repository × Except Fault JobView :=
  match r.get jobId with
  | (r, .error f) => (r, .error (.repository f))
  | (r, .ok none) => (r, .error (.notFound jobId))
  | (r, .ok (some v)) => (r, .ok v)

end DetectionJobs.Lookup
