/-
  DetectionJobs/Detection/Fault.lean
  ==================================
  **Why a detection call gives no predictions.**

  Faults of the network, exceeded deadlines and answers that blame the service may
  go away, so that the job is worth another attempt.  A rejected request and an
  answer that makes no sense would come out the same again.
-/
import DetectionJobs.Time.Span

namespace DetectionJobs.Detection

/-- Why a detection call gives no predictions. -/
inductive Fault where
  | transport (reason : String)
  | timeout (deadline : Span)
  | unavailable (status : Nat) (body : String)
  | rejected (status : Nat) (body : String)
  | malformed (reason : String)
deriving DecidableEq, Repr

namespace Fault

def message : Fault → String
  | .transport reason => "HTTP request failed: " ++ reason
  | .timeout deadline => "Detection call exceeded its " ++ deadline.describe ++ " deadline"
  | .unavailable status body =>
    "Detection service unavailable (status " ++ toString status ++ "): " ++ body
  | .rejected status body =>
    "Detection service rejected the request (status " ++ toString status ++ "): " ++ body
  | .malformed reason => "Malformed detection response: " ++ reason

/-- Whether a later attempt may succeed. -/
def isRetryable : Fault → Bool
  | .transport _ => true
  | .timeout _ => true
  | .unavailable _ _ => true
  | .rejected _ _ => false
  | .malformed _ => false

end Fault

end DetectionJobs.Detection
