/-
  DetectionJobs/Service/Submission.lean
  =====================================
  **Accepting jobs.**

  A job gets its identifier, then, where that is wanted, a row that says it is
  pending, and then its message is published.  Nobody ever learns the identifier of a
  job that could not be published, so its row is closed as failed.
-/
import DetectionJobs.Id.Ulid
import DetectionJobs.Queue.Broker
import DetectionJobs.Repository.Basic
import DetectionJobs.Service.Metrics

namespace DetectionJobs

/-- What the parts of the service share. -/
structure Backend where
  broker : Queue.Broker
  repository : Repository
  metrics : Metrics
deriving DecidableEq, Repr

def Backend.empty : Backend := ⟨.empty, .empty, {}⟩

namespace Submission

/-- Why a job is not accepted. -/
inductive Fault where
  | repository (fault : Repository.Fault)
  | publish (fault : Queue.Fault)
deriving DecidableEq, Repr

def Fault.message : Fault → String
  | .repository fault => "Failed to record pending job: " ++ fault.message
  | .publish fault => "Failed to enqueue job: " ++ fault.message

structure Accepted where
  jobId : String
  imageUrl : String
deriving DecidableEq, Repr

/-- Records a job as pending, if that is wanted. -/
def record (b : Backend) (writePending : Bool) (jobId imageUrl : String) (now : Instant) :
    Backend × Except Repository.Fault Unit :=
  if writePending then
    let (r, answer) := b.repository.createPending jobId imageUrl now
    ({ b with repository := r }, answer)
  else (b, .ok ())

/-- Closes the row of a job that could not be published; a failure to do so is passed
    over. -/
def abandon (b : Backend) (writePending : Bool) (jobId imageUrl : String) (cause : Queue.Fault)
    (now : Instant) : Backend :=
  if writePending then
    { b with repository :=
        (b.repository.markFailed jobId imageUrl ("enqueue failed: " ++ cause.message) now).1 }
  else b

def publish (b : Backend) (jobId imageUrl : String) (now : Instant) :
    Backend × Except Queue.Fault Unit :=
  match b.broker.publish jobId imageUrl now with
  | .error f => (b, .error f)
  | .ok broker => ({ b with broker := broker }, .ok ())

/-- Accepts the job `jobId`. -/
def submit (b : Backend) (writePending : Bool) (jobId imageUrl : String) (now : Instant) :
    Backend × Except Fault Accepted :=
  match record b writePending jobId imageUrl now with
  | (b, .error f) => (b, .error (.repository f))
  | (b, .ok ()) =>
    match publish b jobId imageUrl now with
    | (b, .error f) => (abandon b writePending jobId imageUrl f now, .error (.publish f))
    | (b, .ok ()) =>
      ({ b with metrics := { b.metrics with submitted := b.metrics.submitted + 1 } },
        .ok ⟨jobId, imageUrl⟩)

end Submission

end DetectionJobs
