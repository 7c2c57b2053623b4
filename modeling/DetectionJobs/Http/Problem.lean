/-
  DetectionJobs/Http/Problem.lean
  ===============================
  **Errors as the callers of the HTTP interface see them.**

  A caller learns what it did wrong; of faults on the service's own side it learns no
  details.
-/
import DetectionJobs.Json.Value
import DetectionJobs.Service.Lookup
import DetectionJobs.Service.Submission

namespace DetectionJobs.Http

/-- An error that is reported to the caller. -/
inductive Problem where
  | validation (text : String)
  | notFound (text : String)
  | publish (text : String)
  | internal (text : String)
deriving DecidableEq, Repr

namespace Problem

def text : Problem → String
  | .validation text => text
  | .notFound text => text
  | .publish text => text
  | .internal text => text

def status : Problem → Nat
  | .validation _ => 400
  | .notFound _ => 404
  | .publish _ => 502
  | .internal _ => 500

/-- The word for the kind of the error. -/
def code : Problem → String
  | .validation _ => "validation_error"
  | .notFound _ => "not_found"
  | .publish _ => "publish_error"
  | .internal _ => "internal_error"

def body (p : Problem) : Json.Value :=
  .object [("error", .text p.code), ("message", .text p.text)]

def ofSubmission : Submission.Fault → Problem
  | .publish _ => .publish "failed to enqueue job"
  | .repository _ => .internal "failed to record job"

def ofLookup : Lookup.Fault → Problem
  | .notFound jobId => .notFound ("job not found: " ++ jobId)
  | .repository _ => .internal "error retrieving job status"

end Problem

end DetectionJobs.Http
