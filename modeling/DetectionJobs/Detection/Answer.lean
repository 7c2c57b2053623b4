/-
  DetectionJobs/Detection/Answer.lean
  ===================================
  **The predictions in an answer of the detection service.**

  An answer holds outputs, each with a list of predictions.  The lists are joined in
  their order; the answer is accepted when every prediction is valid, and otherwise
  the first invalid one is named by its index in the joined list.
-/
import DetectionJobs.Detection.Fault
import DetectionJobs.Job.Prediction

namespace DetectionJobs.Detection

open Json

/-- One output of a detection.  The service counts its objects too, but only the
    predictions matter. -/
structure Output where
  count : Option Nat
  predictions : List Prediction

/-- The object that holds the predictions of an output. -/
def predictionsFormat : Format (List Prediction) :=
  (Fields.withDefault "predictions" (.list Prediction.format) []).format "struct OutputPredictions"

def Output.format : Format Output :=
  (((Fields.optionalWithDefault "count_objects" .natural32).and
    (.required "predictions" predictionsFormat)).as
    fun (count, predictions) => ⟨count, predictions⟩).format "struct InferOutput"

def answerFormat : Format (List Output) :=
  (Fields.required "outputs" (.list Output.format)).format "struct InferResponse"

/-- The first prediction that is not valid: its index and the report on it. -/
def firstInvalid : (index : Nat) → List Prediction → Option (Nat × Validation.Report)
  | _, [] => none
  | i, p :: rest => if p.report.isEmpty then firstInvalid (i + 1) rest else some (i, p.report)

/-- The predictions of the answer with the given text. -/
def predictionsOf (body : String) : Except Fault (List Prediction) :=
  match answerFormat.parseText body with
  | .error message => .error (.malformed message)
  | .ok outputs =>
    let predictions := outputs.flatMap Output.predictions
    match firstInvalid 0 predictions with
    | none => .ok predictions
    | some (i, report) =>
      .error (.malformed ("prediction " ++ toString i ++ " is invalid: " ++ report.text))

end DetectionJobs.Detection
