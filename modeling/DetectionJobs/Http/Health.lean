/-
  DetectionJobs/Http/Health.lean
  ==============================
  **Whether the service can do its work.**
-/
import DetectionJobs.Http.Message
import DetectionJobs.Json.Value
import DetectionJobs.Service.Submission

namespace DetectionJobs.Http

open Json

/-- How a part of the service is: the milliseconds that it took to answer, or why it does
    not. -/
abbrev PartHealth := Except String Nat

structure Health where
  database : PartHealth
  queue : PartHealth

namespace Health

/-- Asks the parts; in memory they answer at once. -/
def ofBackend (b : Backend) : Health where
  database := .ok 0
  queue := match b.broker.check with
    | .ok () => .ok 0
    | .error f => .error f.message

def partValue : PartHealth → Value
  | .ok millis => .object [("status", .text "ok"), ("latency_ms", .whole millis)]
  | .error message =>
    .object [("status", .text "error"), ("latency_ms", .null), ("error", .text message)]

def isOk (h : Health) : Bool :=
  match h.database, h.queue with
  | .ok _, .ok _ => true
  | _, _ => false

def version : String := "0.1.0"

def toValue (h : Health) : Value :=
  .object [("status", .text (if h.isOk then "ok" else "degraded")), ("version", .text version),
    ("checks", .object [("database", partValue h.database), ("queue", partValue h.queue)])]

def response (h : Health) : Response :=
  .json (if h.isOk then 200 else 503) h.toValue.write

end Health

end DetectionJobs.Http
