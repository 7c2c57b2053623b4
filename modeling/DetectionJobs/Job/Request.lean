/-
  DetectionJobs/Job/Request.lean
  ==============================
  **Requests to analyse an image, and the answers to them.**
-/
import DetectionJobs.Json.Record
import DetectionJobs.Url.Reading
import DetectionJobs.Validation.Report

namespace DetectionJobs

open Json

/-- A request to analyse the image at a URL. -/
structure JobRequest where
  imageUrl : String
deriving DecidableEq, Repr

namespace JobRequest

def format : Format JobRequest :=
  ((Fields.required "image_url" .text).as JobRequest.mk).format "struct SubmitJobRequest"

/-- An image is fetched over the web; the scheme is written in small letters. -/
def webScheme (url : String) : Option String :=
  if url.startsWith "http://" || url.startsWith "https://" then none
  else some "image_url must use http or https"

def readableUrl (url : String) : Option String :=
  match Url.read url with
  | .ok _ => none
  | .error f => some ("not a valid url: " ++ f.message)

def report (r : JobRequest) : Validation.Report :=
  Validation.check "image_url"
    [webScheme r.imageUrl, readableUrl r.imageUrl, Validation.byteLength 0 2048 r.imageUrl]

end JobRequest

/-- The answer to a request that was accepted. -/
structure JobReceipt where
  jobId : String
  status : String
deriving DecidableEq, Repr

namespace JobReceipt

/-- A job that waits for a worker. -/
def queued (jobId : String) : JobReceipt := ⟨jobId, "queued"⟩

def toValue (r : JobReceipt) : Value :=
  .object [("job_id", .text r.jobId), ("status", .text r.status)]

def format : Format JobReceipt :=
  (((Fields.required "job_id" .text).and (.required "status" .text)).as
    fun (jobId, status) => ⟨jobId, status⟩).format "struct SubmitJobResponse"

end JobReceipt

end DetectionJobs
