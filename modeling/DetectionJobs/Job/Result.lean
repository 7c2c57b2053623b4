/-
  DetectionJobs/Job/Result.lean
  =============================
  **The outcome of a job, to be recorded.**
-/
import DetectionJobs.Job.Prediction
import DetectionJobs.Job.Status

namespace DetectionJobs

/-- The outcome of a job. -/
structure JobResult where
  jobId : String
  imageUrl : String
  status : Status
  error : Option String
  processedAt : Instant
  predictions : List Prediction
deriving DecidableEq, Repr

namespace JobResult

/-- The job is done: these objects were found. -/
def completed (jobId imageUrl : String) (predictions : List Prediction) (now : Instant) :
    JobResult :=
  ⟨jobId, imageUrl, .completed, none, now, predictions⟩

/-- The job cannot be done. -/
def failed (jobId imageUrl reason : String) (now : Instant) : JobResult :=
  ⟨jobId, imageUrl, .failed, some reason, now, []⟩

end JobResult

end DetectionJobs
