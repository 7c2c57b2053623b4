/-
  DetectionJobs/Proofs/Queue/Carriage.lean
  ========================================
  **What an entry of the queue carries, and that a retry does not change it.**

  A message crosses two encodings: its body is a JSON text, which is a string in the JSON
  text of the envelope.  Both are read back as they were written.  An entry that goes back
  to the queue, or to the dead, therefore has the body that it had before, whether it was
  an envelope or any other text, and one more attempt.
-/
import DetectionJobs.Proofs.Json.Members
import DetectionJobs.Proofs.Time.Written
import DetectionJobs.Queue.Envelope

namespace DetectionJobs

open Json

/-! ### Messages -/

namespace Message

theorem fields_fills (m : Message) (depth : Nat) :
    fields.Fills depth (none, none) [("job_id", .text m.jobId), ("image_url", .text m.imageUrl)]
      (some m.jobId, some m.imageUrl) := by
  have hid := Fields.Fills.required "job_id" (Format.text_reads m.jobId depth)
  have hurl := Fields.Fills.required "image_url" (Format.text_reads m.imageUrl depth)
  refine .as (.and hid ?_ hurl)
  intro n hn
  rw [List.mem_singleton.mp hn]
  rfl

theorem parse_body (m : Message) : format.parse m.body = .ok m :=
  (Fields.format_reads "struct JobMessage" (fields_fills m 126) rfl).parse

/-- **A message is read back from its body**, blank members apart. -/
theorem decode_body (m : Message) : decode m.body = m.check := by
  rw [decode, Format.parseText, parse_body]
  rfl

theorem eq_of_make {jobId imageUrl : String} {m : Message} (h : make jobId imageUrl = .ok m) :
    m = ⟨jobId, imageUrl⟩ ∧ m.check = .ok m := by
  have heq : m = ⟨jobId, imageUrl⟩ := by
    unfold make check at h
    split at h
    · cases h
    split at h
    · cases h
    · exact (Except.ok.inj h).symm
  subst heq
  exact ⟨rfl, h⟩

end Message

/-! ### Envelopes -/

namespace Envelope

def members (e : Envelope) : List (String × Value) :=
  [("correlation_id", .text e.correlationId), ("attempts", .whole e.attempts),
    ("enqueued_at", .text e.enqueuedAt.text),
    ("last_error", match e.lastError with
      | some reason => .text reason
      | none => .null),
    ("body", .text e.body)]

theorem lastError_reads (e : Option String) (depth : Nat) :
    Format.text.nullable.Reads depth
      (match e with
        | some reason => .text reason
        | none => .null) e := by
  cases e with
  | none => exact Format.nullable_reads_null _ depth
  | some reason => exact Format.nullable_reads_text (Format.text_reads reason depth)

theorem fields_fills {e : Envelope} (hattempts : e.attempts < 2 ^ 32)
    (htime : e.enqueuedAt.IsClock) (depth : Nat) :
    fields.Fills depth ((((none, none), none), none), none) e.members
      ((((some e.correlationId, some e.attempts), some e.enqueuedAt), some e.lastError),
        some e.body) := by
  have hid := Fields.Fills.required "correlation_id" (Format.text_reads e.correlationId depth)
  have hcount := Fields.Fills.required "attempts" (Format.natural32_reads hattempts depth)
  have hmoment := Fields.Fills.required "enqueued_at" (instantFormat_reads htime.1 depth)
  rw [Instant.shown_eq htime.isShown] at hmoment
  have hreason := Fields.Fills.optionalWithDefault "last_error" (lastError_reads e.lastError depth)
  have hbody := Fields.Fills.required "body" (Format.text_reads e.body depth)
  refine .as (.and (.and (.and (.and hid ?_ hcount) ?_ hmoment) ?_ hreason) ?_ hbody)
  all_goals
    intro n hn
    rw [List.mem_singleton.mp hn]
    rfl

/-- **An envelope is read back from its text.** -/
theorem ofRaw?_raw {e : Envelope} (hattempts : e.attempts < 2 ^ 32)
    (htime : e.enqueuedAt.IsClock) : ofRaw? e.raw = some e := by
  have hparse : format.parse e.raw = .ok e :=
    (Fields.format_reads "struct Envelope" (fields_fills hattempts htime 126) rfl).parse
  rw [ofRaw?, hparse]
  rfl

end Envelope

namespace Queue

/-! ### Entries -/

def bodyOf (raw : String) : String := (Delivery.ofRaw raw).body

/-- How many attempts at the entry have failed. -/
def attemptsOf (raw : String) : Nat := (Delivery.ofRaw raw).attempts

/-- The entry is a message in transit. -/
def Carries (raw : String) (m : Message) : Prop := Message.decode (bodyOf raw) = .ok m

/-- Another failed attempt of the entry can still be counted in thirty-two bits. -/
def Countable (raw : String) : Prop := (Delivery.ofRaw raw).attempts < 2 ^ 32 - 1

instance (raw : String) : Decidable (Countable raw) := by unfold Countable; infer_instance

/-- The entry that is written when an attempt failed. -/
def retriedRaw (raw reason : String) (now : Instant) : String :=
  (((Delivery.ofRaw raw).envelope now).retried reason now).raw

theorem ofRaw_raw (raw : String) : (Delivery.ofRaw raw).raw = raw := by
  unfold Delivery.ofRaw
  split <;> rfl

theorem ofRaw_envelope {e : Envelope} (hattempts : e.attempts < 2 ^ 32)
    (htime : e.enqueuedAt.IsClock) :
    Delivery.ofRaw e.raw = ⟨e.raw, some e.correlationId, e.attempts, e.body⟩ := by
  rw [Delivery.ofRaw, Envelope.ofRaw?_raw hattempts htime]

/-- The envelope to write back agrees with the delivery, readable or not. -/
theorem envelope_ofRaw (raw : String) (now : Instant) :
    ((Delivery.ofRaw raw).envelope now).attempts = (Delivery.ofRaw raw).attempts ∧
      ((Delivery.ofRaw raw).envelope now).body = (Delivery.ofRaw raw).body := by
  rw [Delivery.envelope, ofRaw_raw]
  unfold Delivery.ofRaw
  cases h : Envelope.ofRaw? raw with
  | none => exact ⟨rfl, rfl⟩
  | some e => exact ⟨rfl, rfl⟩

theorem attempts_retried_lt {raw : String} (reason : String) {now : Instant} (h : Countable raw) :
    (((Delivery.ofRaw raw).envelope now).retried reason now).attempts < 2 ^ 32 := by
  show ((Delivery.ofRaw raw).envelope now).attempts + 1 < 2 ^ 32
  rw [Countable] at h
  rw [(envelope_ofRaw raw now).1]
  omega

theorem ofRaw?_retriedRaw {raw : String} (reason : String) {now : Instant} (h : Countable raw)
    (hnow : now.IsClock) :
    Envelope.ofRaw? (retriedRaw raw reason now) =
      some (((Delivery.ofRaw raw).envelope now).retried reason now) :=
  Envelope.ofRaw?_raw (attempts_retried_lt reason h) hnow

/-- **A retry counts one attempt and keeps the body.** -/
theorem ofRaw_retriedRaw {raw : String} (reason : String) {now : Instant} (h : Countable raw)
    (hnow : now.IsClock) :
    (Delivery.ofRaw (retriedRaw raw reason now)).attempts = (Delivery.ofRaw raw).attempts + 1 ∧
      bodyOf (retriedRaw raw reason now) = bodyOf raw := by
  obtain ⟨hattempts, hbody⟩ := envelope_ofRaw raw now
  have hread := ofRaw_envelope (attempts_retried_lt reason h) hnow
  rw [bodyOf, bodyOf, retriedRaw, hread]
  exact ⟨congrArg (· + 1) hattempts, hbody⟩

theorem attemptsOf_retriedRaw {raw : String} (reason : String) {now : Instant} (h : Countable raw)
    (hnow : now.IsClock) : attemptsOf (retriedRaw raw reason now) = attemptsOf raw + 1 :=
  (ofRaw_retriedRaw reason h hnow).1

theorem countable_retriedRaw {raw : String} (reason : String) {now : Instant}
    (h : Countable raw) (hnow : now.IsClock) (hroom : attemptsOf raw + 1 < 2 ^ 32 - 1) :
    Countable (retriedRaw raw reason now) := by
  have hattempts := attemptsOf_retriedRaw reason h hnow
  rw [attemptsOf] at hattempts
  rwa [Countable, hattempts]

theorem carries_retriedRaw {raw reason : String} {now : Instant} {m : Message}
    (h : Countable raw) (hnow : now.IsClock) :
    Carries (retriedRaw raw reason now) m ↔ Carries raw m := by
  rw [Carries, Carries, (ofRaw_retriedRaw reason h hnow).2]

theorem ofRaw_wrap (m : Message) {now : Instant} (hnow : now.IsClock) :
    Delivery.ofRaw (Envelope.wrap m now).raw =
      ⟨(Envelope.wrap m now).raw, some m.jobId, 0, m.body⟩ :=
  ofRaw_envelope (e := Envelope.wrap m now) (Nat.two_pow_pos 32) hnow

/-- The entry of a published message carries it. -/
theorem carries_wrap {m : Message} {now : Instant} (h : m.check = .ok m) (hnow : now.IsClock) :
    Carries (Envelope.wrap m now).raw m := by
  rw [Carries, bodyOf, ofRaw_wrap m hnow]
  exact (Message.decode_body m).trans h

theorem countable_wrap (m : Message) {now : Instant} (hnow : now.IsClock) :
    Countable (Envelope.wrap m now).raw := by
  rw [Countable, ofRaw_wrap m hnow]
  exact Nat.sub_pos_of_lt (Nat.one_lt_two_pow (by omega))

end Queue

end DetectionJobs
