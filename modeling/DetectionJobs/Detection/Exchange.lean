/-
  DetectionJobs/Detection/Exchange.lean
  =====================================
  **Calls to the detection service.**

  A call posts the image's URL to the endpoint of a workflow.  Whatever comes of it is
  an exchange, and what the exchange says about the image is decided by its kind
  alone: only a complete answer can be final.
-/
import DetectionJobs.Detection.Answer
import DetectionJobs.Json.Value
import DetectionJobs.Url.Reading

namespace DetectionJobs.Detection

open Json

/-- A workflow of the detection service, and the key to it. -/
structure Client where
  baseUrl : String
  apiKey : String
  workspace : String
  workflow : String
deriving DecidableEq, Repr

namespace Client

/-- The address of the workflow; slashes at the end of the service's are dropped. -/
def endpoint (c : Client) : String :=
  let base := (c.baseUrl.toList.reverse.dropWhile (· = '/')).reverse
  String.ofList base ++ "/infer/workflows/" ++ c.workspace ++ "/" ++ c.workflow

def body (c : Client) (imageUrl : String) : Value :=
  .object [("api_key", .text c.apiKey), ("inputs", .object
    [("image", .object [("type", .text "url"), ("value", .text imageUrl)])])]

/-- Characters that a host may hold, but that no request can name. -/
def isUnspeakable (c : Char) : Bool := "\"\x60\x7b\x7d".toList.contains c

/-- Whether a request can be sent to a URL. -/
def canSend (u : Url) : Bool :=
  (u.scheme = "http" || u.scheme = "https") &&
    match u.host? with
    | some h => !h.text.toList.any isUnspeakable
    | none => false

end Client

/-- What is asked of the service in one call, and how long the call may take. -/
structure Request where
  address : String
  body : Value
  deadline : Span

namespace Request

/-- Whether a request can be sent at all. -/
def isSendable (r : Request) : Bool :=
  match Url.read r.address with
  | .ok u => Client.canSend u.withoutCredentials
  | .error _ => false

end Request

def Client.request (c : Client) (imageUrl : String) (deadline : Span) : Request :=
  ⟨c.endpoint, c.body imageUrl, deadline⟩

/-! ### Classification -/

def isSuccess (status : Nat) : Bool := 200 ≤ status ∧ status < 300

def isClientError (status : Nat) : Bool := 400 ≤ status ∧ status < 500

/-- What an answer without success says about the image. -/
def classifyStatus (status : Nat) (body : String) : Fault :=
  if isClientError status then .rejected status body else .unavailable status body

/-- What a call needs of those who carry the request to the service and the answer back.
    `World` is all that they meet with on the way. -/
structure Carrier (World : Type) where
  Failure : Type
  Answer : Type
  /-- Sends a request and waits for the head of the final answer. -/
  send : Request → World → Except Failure Answer
  status : Answer → Nat
  /-- Waits for the rest of an answer. -/
  text : Answer → Except Failure String
  isTimeout : Failure → Bool
  describe : Failure → String

namespace Carrier

variable {World : Type} (carrier : Carrier World)

def classifyFailure (deadline : Span) (f : carrier.Failure) : Fault :=
  if carrier.isTimeout f then .timeout deadline else .transport (carrier.describe f)

/-- What is made of a request that was sent. -/
def judge (deadline : Span) (sent : Except carrier.Failure carrier.Answer) :
    Except Fault (List Prediction) := do
  let answer ← sent.mapError (carrier.classifyFailure deadline)
  let body ← (carrier.text answer).mapError (carrier.classifyFailure deadline)
  if isSuccess (carrier.status answer) then predictionsOf body
  else .error (classifyStatus (carrier.status answer) body)

end Carrier

/-- Has an image analysed. -/
def Client.detect {World : Type} (c : Client) (carrier : Carrier World) (imageUrl : String)
    (deadline : Span) (w : World) : Except Fault (List Prediction) :=
  carrier.judge deadline (carrier.send (c.request imageUrl deadline) w)

/-! ### Exchanges that are over -/

/-- What became of a call. -/
inductive Exchange where
  | noUrl
  /-- No request can be sent to the endpoint. -/
  | noRequest (url : Url)
  /-- No complete answer came. -/
  | broken (url : Url)
  /-- The deadline passed before the answer was complete. -/
  | late
  | answered (status : Nat) (body : String)
deriving DecidableEq, Repr

namespace Exchange

def describe : Exchange → String
  | .noUrl => "builder error"
  | .noRequest url => "builder error for url (" ++ url.text ++ ")"
  | .broken url => "error sending request for url (" ++ url.text ++ ")"
  | .late => "operation timed out"
  | .answered .. => ""

def sent : Exchange → Except Exchange (Nat × String)
  | .answered status body => .ok (status, body)
  | e => .error e

/-- Knows what becomes of a call before it is made. -/
def carrier : Carrier Exchange where
  Failure := Exchange
  Answer := Nat × String
  send _ e := e.sent
  status := Prod.fst
  text answer := .ok answer.2
  isTimeout e := e = .late
  describe := describe

/-- What an exchange says about the image. -/
def result (deadline : Span) (e : Exchange) : Except Fault (List Prediction) :=
  carrier.judge deadline e.sent

end Exchange

/-- What a service does with the request that reaches it. -/
inductive Response where
  | silence
  | hangUp
  | answer (status : Nat) (body : String)
deriving DecidableEq, Repr

/-- The exchange of a call, when the service answers as `reach` tells; `none` stands for a
    service that is not reached. -/
def Client.call (c : Client) (reach : Url → Option Response) : Exchange :=
  match Url.read c.endpoint with
  | .error _ => .noUrl
  | .ok u =>
    let u := u.withoutCredentials
    if ¬ canSend u then .noRequest u
    else match reach u with
      | none => .broken u
      | some .hangUp => .broken u
      | some .silence => .late
      | some (.answer status body) => .answered status body

end DetectionJobs.Detection
