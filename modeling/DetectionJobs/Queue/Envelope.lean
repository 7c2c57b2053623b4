/-
  DetectionJobs/Queue/Envelope.lean
  =================================
  **Envelopes and deliveries.**

  On the queue a message travels in an envelope, which counts the failed attempts.
  What a worker is handed may also be a text that is no envelope: then the whole
  text is the body, and no attempt has failed yet.
-/
import DetectionJobs.Job.Prediction
import DetectionJobs.Queue.Message

namespace DetectionJobs

open Json

/-- A message body with its history on the queue. -/
structure Envelope where
  /-- The job's identifier. -/
  correlationId : String
  /-- Deliveries so far that ended in a failure. -/
  attempts : Nat
  enqueuedAt : Instant
  lastError : Option String
  body : String
deriving DecidableEq, Repr

namespace Envelope

/-- The envelope of a new message. -/
def wrap (m : Message) (now : Instant) : Envelope := ⟨m.jobId, 0, now, none, m.body⟩

/-- The envelope after one more failed attempt. -/
def retried (e : Envelope) (reason : String) (now : Instant) : Envelope :=
  { e with attempts := e.attempts + 1, enqueuedAt := now, lastError := some reason }

def toValue (e : Envelope) : Value :=
  .object [("correlation_id", .text e.correlationId), ("attempts", .whole e.attempts),
    ("enqueued_at", .text e.enqueuedAt.text),
    ("last_error", match e.lastError with
      | some reason => .text reason
      | none => .null),
    ("body", .text e.body)]

def raw (e : Envelope) : String := e.toValue.write

abbrev Draft := (((Option String × Option Nat) × Option Instant) × Option (Option String)) ×
  Option String

def fields : Fields Draft Envelope :=
  (((((Fields.required "correlation_id" .text).and (.required "attempts" .natural32)).and
    (.required "enqueued_at" instantFormat)).and (.optionalWithDefault "last_error" .text)).and
    (.required "body" .text)).as
    fun ((((correlationId, attempts), enqueuedAt), lastError), body) =>
      ⟨correlationId, attempts, enqueuedAt, lastError, body⟩

def format : Format Envelope := fields.format "struct Envelope"

/-- The envelope that a text holds. -/
def ofRaw? (raw : String) : Option Envelope := (format.parse raw).toOption

end Envelope

/-- What a worker is handed. -/
structure Delivery where
  /-- The text as the queue holds it; a settlement finds the delivery by it. -/
  raw : String
  correlationId : Option String
  attempts : Nat
  body : String
deriving DecidableEq, Repr

namespace Delivery

/-- The delivery of a text. -/
def ofRaw (raw : String) : Delivery :=
  match Envelope.ofRaw? raw with
  | some e => ⟨raw, some e.correlationId, e.attempts, e.body⟩
  | none => ⟨raw, none, 0, raw⟩

/-- The envelope to write back: the one that was read, or a new one around the text. -/
def envelope (d : Delivery) (now : Instant) : Envelope :=
  match Envelope.ofRaw? d.raw with
  | some e => e
  | none => ⟨d.correlationId.getD "", d.attempts, now, none, d.body⟩

end Delivery

end DetectionJobs
