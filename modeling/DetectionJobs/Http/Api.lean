/-
  DetectionJobs/Http/Api.lean
  ===========================
  **The HTTP interface.**

  A request with a body that is announced as too long is refused before anything else.
  Browsers that ask what they may send are told that they may send everything.  All
  other requests go to the handler of their path and method.
-/
import DetectionJobs.Http.Coding
import DetectionJobs.Http.Health
import DetectionJobs.Http.MediaType
import DetectionJobs.Http.Problem
import DetectionJobs.Job.Request
import DetectionJobs.Url.Percent

namespace DetectionJobs.Http

/-- What the interface offers. -/
inductive Route where
  | health
  | metrics
  | submit
  | status (jobId : String)
deriving DecidableEq, Repr

namespace Route

/-- The route of a path.  The identifier of a job is one part of the path and not empty. -/
def ofPath? (path : String) : Option Route :=
  if path = "/health" then some .health
  else if path = "/metrics" then some .metrics
  else if path = "/api/v1/jobs" then some .submit
  else
    let start := "/api/v1/jobs/".toList
    let rest := path.toList.drop start.length
    if start.isPrefixOf path.toList ∧ rest ≠ [] ∧ '/' ∉ rest then
      some (.status (String.ofList rest))
    else none

/-- The methods that a route takes, as they are listed. -/
def methods : Route → List String
  | .submit => ["POST"]
  | _ => ["GET", "HEAD"]

def allowed (r : Route) : String := ",".intercalate r.methods

end Route

/-- How the interface is set up, and what a request may draw on. -/
structure Context where
  writePending : Bool
  hasMetrics : Bool
  /-- The identifier of a job that is accepted. -/
  jobId : String
  now : Instant

namespace Api

/-! ### Submitting a job -/

/-- How many bytes a body may have. -/
def bodyLimit : Nat := 64 * 1024

def announcedLength? (r : Request) : Option Nat :=
  (r.value? "content-length").bind fun s =>
    let digits := if s.startsWith "+" then s.toList.drop 1 else s.toList
    if digits.isEmpty ∨ ¬ digits.all (fun c => '0' ≤ c && c ≤ '9') then none
    else
      let n := digits.foldl (fun n c => 10 * n + (c.toNat - 0x30)) 0
      if n < 2 ^ 64 then some n else none

/-- Whether the body is longer than it may be: than the limit, or than announced. -/
def isTooLong (r : Request) : Bool :=
  min bodyLimit ((announcedLength? r).getD bodyLimit) < r.body.utf8ByteSize

def readJob (r : Request) : Except Problem JobRequest :=
  if ¬ ((r.value? "content-type").bind MediaType.read?).any MediaType.isJson then
    .error (.validation "Expected request with \x60Content-Type: application/json\x60")
  else if isTooLong r then
    .error (.validation "Failed to buffer the request body: length limit exceeded")
  else match JobRequest.format.parse r.body with
    | .error f =>
      let kind := if f.problem.isData then
          "Failed to deserialize the JSON body into the target type: "
        else "Failed to parse the request body as JSON: "
      .error (.validation (kind ++ f.describePath r.body.toList))
    | .ok job => if job.report.isEmpty then .ok job else .error (.validation job.report.text)

def problemResponse (p : Problem) : Response := .json p.status p.body.write

def submit (c : Context) (b : Backend) (r : Request) : Backend × Response :=
  match readJob r with
  | .error p => (b, problemResponse p)
  | .ok job =>
    match Submission.submit b c.writePending c.jobId job.imageUrl c.now with
    | (b, .error f) => (b, problemResponse (.ofSubmission f))
    | (b, .ok accepted) => (b, .json 202 (JobReceipt.queued accepted.jobId).toValue.write)

/-! ### The other handlers -/

def status (b : Backend) (part : String) : Backend × Response :=
  match Percent.decodeText? part.toList with
  | none => (b, .plain 400 "Invalid URL: Invalid UTF-8 in \x60job_id\x60")
  | some text =>
    let jobId := Text.trim text
    if jobId.isEmpty then (b, problemResponse (.validation "job id is required"))
    else match Lookup.job b.repository jobId with
      | (repository, answer) =>
        ({ b with repository := repository }, match answer with
          | .ok view => .json 200 view.toValue.write
          | .error f => problemResponse (.ofLookup f))

/-- Shows the counters, after a look at the queue. -/
def metrics (c : Context) (b : Backend) : Backend × Response :=
  if c.hasMetrics then
    let m := { b.metrics with depth := some b.broker.depth }
    ({ b with metrics := m }, .plain 200 m.page)
  else (b, .bare 404)

def handle (c : Context) (b : Backend) (r : Request) : Route → Backend × Response
  | .health => (b, (Health.ofBackend b).response)
  | .metrics => metrics c b
  | .submit => submit c b r
  | .status part => status b part

/-! ### The whole -/

/-- What a response hangs on, for those who keep responses. -/
def variesBy : String := "origin, access-control-request-method, access-control-request-headers"

/-- The answer to a browser that asks what it may send. -/
def permission : Response :=
  ⟨200, [("access-control-allow-headers", "*"), ("access-control-allow-methods", "*"),
    ("access-control-allow-origin", "*"), ("vary", variesBy)], ""⟩

/-- Lets scripts of any origin read a response. -/
def share (r : Response) : Response :=
  ((r.withHeader "access-control-allow-origin" "*").withHeader
    "access-control-expose-headers" "*").withHeader "vary" variesBy

/-- What a route, if there is one, makes of a request. -/
def dispatch (c : Context) (b : Backend) (r : Request) (route : Option Route) :
    Backend × Response :=
  if (announcedLength? r).any (bodyLimit < ·) then (b, .plain 413 "length limit exceeded")
  else if r.method = "OPTIONS" then (b, permission)
  else
    let (b, response) := match route with
      | none => (b, .bare 404)
      | some route =>
        if route.methods.contains r.method then handle c b r route else (b, .bare 405)
    (b, share ((Coding.ofRequest r).apply response))

def respond (c : Context) (b : Backend) (r : Request) : Backend × Response :=
  let route := Route.ofPath? r.path
  let (b, response) := dispatch c b r route
  let response := match route with
    | some route =>
      if route.methods.contains r.method then response
      else response.withHeader "allow" route.allowed
    | none => response
  (b, if r.method = "HEAD" then { response with body := "" } else response)

end Api

end DetectionJobs.Http
