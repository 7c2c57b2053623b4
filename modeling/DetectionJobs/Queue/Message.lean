/-
  DetectionJobs/Queue/Message.lean
  ================================
  **The message of a job.**

  A message names a job and its image, neither of them blank.  Its body is a JSON
  object; a body that does not decode never will.
-/
import DetectionJobs.Json.Record
import DetectionJobs.Queue.Fault
import DetectionJobs.Text.Blank

namespace DetectionJobs

open Json

/-- What a worker has to know of a job. -/
structure Message where
  jobId : String
  imageUrl : String
deriving DecidableEq, Repr

namespace Message

/-- A message with no blank member. -/
def check (m : Message) : Except Queue.Fault Message :=
  if Text.isBlankText m.jobId then .error (.invalid "job_id is empty")
  else if Text.isBlankText m.imageUrl then .error (.invalid "image_url is empty")
  else .ok m

def make (jobId imageUrl : String) : Except Queue.Fault Message := check ⟨jobId, imageUrl⟩

def toValue (m : Message) : Value :=
  .object [("job_id", .text m.jobId), ("image_url", .text m.imageUrl)]

/-- The text that carries the message. -/
def body (m : Message) : String := m.toValue.write

def fields : Fields (Option String × Option String) Message :=
  ((Fields.required "job_id" .text).and (.required "image_url" .text)).as
    fun (jobId, imageUrl) => ⟨jobId, imageUrl⟩

def format : Format Message := fields.format "struct JobMessage"

def decode (body : String) : Except Queue.Fault Message :=
  match format.parseText body with
  | .error reason => .error (.unreadable reason)
  | .ok m => m.check

end Message

end DetectionJobs
