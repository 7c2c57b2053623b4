/-
  DetectionJobs/Job/View.lean
  ===========================
  **What a caller sees of a job.**
-/
import DetectionJobs.Job.Prediction
import DetectionJobs.Job.Status

namespace DetectionJobs

open Json

/-- A snapshot of a job and its predictions. -/
structure JobView where
  jobId : String
  imageUrl : String
  status : Status
  error : Option String
  processedAt : Option Instant
  createdAt : Instant
  predictions : List StoredPrediction
deriving DecidableEq, Repr

namespace JobView

/-- The JSON form; an absent error is left out, an absent time is null. -/
def toValue (v : JobView) : Value :=
  .object ([("job_id", .text v.jobId), ("image_url", .text v.imageUrl),
      ("status", .text v.status.name)] ++
    (match v.error with
      | some e => [("error", .text e)]
      | none => []) ++
    [("processed_at", match v.processedAt with
        | some t => .text t.text
        | none => .null),
      ("created_at", .text v.createdAt.text),
      ("predictions", .list (v.predictions.map StoredPrediction.toValue))])

abbrev Draft := ((((((Option String × Option String) × Option Status) ×
  Option (Option String)) × Option (Option Instant)) × Option Instant) ×
  Option (List StoredPrediction))

def fields : Fields Draft JobView :=
  (((((((Fields.required "job_id" .text).and (.required "image_url" .text)).and
    (.required "status" Status.format)).and (.optionalWithDefault "error" .text)).and
    (.optional "processed_at" instantFormat)).and (.required "created_at" instantFormat)).and
    (.required "predictions" (.list StoredPrediction.format))).as
    fun ((((((jobId, imageUrl), status), error), processedAt), createdAt), predictions) =>
      ⟨jobId, imageUrl, status, error, processedAt, createdAt, predictions⟩

def format : Format JobView := fields.format "struct JobView"

end JobView

end DetectionJobs
