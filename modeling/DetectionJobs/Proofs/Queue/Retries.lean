/-
  DetectionJobs/Proofs/Queue/Retries.lean
  =======================================
  **However often a delivery fails, its content stays.**

  A retry takes the envelope out of a delivery and writes it anew.  A text that is no envelope
  gets one around it, whose identifier is empty; from then on it is an envelope like any other,
  so that no later retry wraps it again or starts to count anew.  The clock is read when the
  envelope is taken out and once more when it is written, and only the second reading stays.
-/
import DetectionJobs.Proofs.Queue.Carriage

namespace DetectionJobs.Queue

/-- A failed attempt: why it failed, and what the clock showed when the envelope was taken out
    of the delivery and when it was written. -/
structure Retry where
  reason : String
  opened : Instant
  written : Instant

/-- The envelope that is written after a failed attempt. -/
def Retry.envelope (r : Retry) (d : Delivery) : Envelope :=
  (d.envelope r.opened).retried r.reason r.written

/-- The entry after a failed attempt. -/
def Retry.entry (raw : String) (r : Retry) : String := (r.envelope (.ofRaw raw)).raw

/-- The entry after some failed attempts, the first one first. -/
def retriedAll (raw : String) (rs : List Retry) : String := rs.foldl Retry.entry raw

/-- Who a delivery belongs to; an entry without an envelope belongs to nobody. -/
def ownerOf (raw : String) : String := (Delivery.ofRaw raw).correlationId.getD ""

variable {raw : String} {r : Retry} {rs : List Retry}

/-! ### One failed attempt -/

theorem envelope_correlationId (raw : String) (now : Instant) :
    ((Delivery.ofRaw raw).envelope now).correlationId = ownerOf raw := by
  rw [Delivery.envelope, ofRaw_raw, ownerOf]
  unfold Delivery.ofRaw
  cases h : Envelope.ofRaw? raw with
  | none => rfl
  | some e => rfl

/-- What a retry writes, member by member. -/
theorem retry_envelope (r : Retry) (raw : String) :
    r.envelope (.ofRaw raw) =
      ⟨ownerOf raw, attemptsOf raw + 1, r.written, some r.reason, bodyOf raw⟩ := by
  obtain ⟨hattempts, hbody⟩ := envelope_ofRaw raw r.opened
  rw [Retry.envelope, Envelope.retried, envelope_correlationId, hattempts, hbody]
  rfl

/-- **The envelope of a retry is read back as it is.** -/
theorem ofRaw?_retry (h : Countable raw) (hnow : r.written.IsClock) :
    Envelope.ofRaw? (r.envelope (.ofRaw raw)).raw = some (r.envelope (.ofRaw raw)) :=
  Envelope.ofRaw?_raw (attempts_retried_lt r.reason h) hnow

theorem ofRaw_retry (h : Countable raw) (hnow : r.written.IsClock) :
    Delivery.ofRaw (r.envelope (.ofRaw raw)).raw =
      ⟨(r.envelope (.ofRaw raw)).raw, some (ownerOf raw), attemptsOf raw + 1, bodyOf raw⟩ := by
  rw [Delivery.ofRaw, ofRaw?_retry h hnow, retry_envelope]

/-- The envelope of a readable entry is the one that was written, whenever it is taken out. -/
theorem envelope_retry (h : Countable raw) (hnow : r.written.IsClock) (now : Instant) :
    (Delivery.ofRaw (r.envelope (.ofRaw raw)).raw).envelope now = r.envelope (.ofRaw raw) := by
  rw [Delivery.envelope, ofRaw_raw, ofRaw?_retry h hnow]

/-! ### Any number of failed attempts -/

theorem of_entry (h : Countable raw) (hnow : r.written.IsClock) :
    attemptsOf (r.entry raw) = attemptsOf raw + 1 ∧ bodyOf (r.entry raw) = bodyOf raw ∧
      ownerOf (r.entry raw) = ownerOf raw := by
  rw [attemptsOf, bodyOf, ownerOf, Retry.entry, ofRaw_retry h hnow, Option.getD_some]
  exact ⟨rfl, rfl, rfl⟩

/-- **What is left after some failed attempts**: the body, the owner, and a count that has grown
    by as many. -/
theorem of_retriedAll (raw : String) (hnow : ∀ r ∈ rs, r.written.IsClock)
    (hroom : attemptsOf raw + rs.length < 2 ^ 32) :
    attemptsOf (retriedAll raw rs) = attemptsOf raw + rs.length ∧
      bodyOf (retriedAll raw rs) = bodyOf raw ∧ ownerOf (retriedAll raw rs) = ownerOf raw := by
  -- on the attempts, whatever the entry is at first
  induction rs generalizing raw with
  | nil => exact ⟨rfl, rfl, rfl⟩
  | cons r rs ih =>
    rw [List.length_cons] at hroom
    have hcount : Countable raw := by
      show attemptsOf raw < 2 ^ 32 - 1
      omega
    obtain ⟨hattempts, hbody, howner⟩ := of_entry hcount (hnow r List.mem_cons_self)
    obtain ⟨hcounted, hkept, hsame⟩ :=
      ih (r.entry raw) (fun r' hr' => hnow r' (List.mem_cons_of_mem r hr'))
        (by rw [hattempts]; omega)
    rw [retriedAll] at hcounted hkept hsame
    rw [retriedAll, List.foldl_cons, hcounted, hattempts, hkept, hbody, hsame, howner,
      List.length_cons]
    exact ⟨by omega, rfl, rfl⟩

/-- **Retries keep the content of any entry**, an envelope or any other text.  The envelope that
    a failed attempt writes has the body, one attempt more and the reason; it is read back with
    every member as it was written.  After any number of failed attempts as many more are
    counted, and the body is still the same. -/
theorem retries_keep_content (hcount : Countable raw) :
    (∀ r : Retry, r.written.IsClock →
      let d := Delivery.ofRaw raw
      let e := r.envelope d
      (e.body = d.body ∧ e.attempts = d.attempts + 1 ∧ e.lastError = some r.reason) ∧
        Envelope.ofRaw? e.raw = some e ∧
        Delivery.ofRaw e.raw =
          ⟨e.raw, some (d.correlationId.getD ""), d.attempts + 1, d.body⟩ ∧
        ∀ now, (Delivery.ofRaw e.raw).envelope now = e) ∧
    ∀ rs : List Retry, (∀ r ∈ rs, r.written.IsClock) →
      (Delivery.ofRaw raw).attempts + rs.length < 2 ^ 32 →
        (Delivery.ofRaw (retriedAll raw rs)).attempts =
            (Delivery.ofRaw raw).attempts + rs.length ∧
          (Delivery.ofRaw (retriedAll raw rs)).body = (Delivery.ofRaw raw).body := by
  refine ⟨fun r hnow => ⟨⟨?_, ?_, ?_⟩, ?_, ?_, ?_⟩, fun rs hnow hroom => ?_⟩
  · rw [retry_envelope]
    rfl
  · rw [retry_envelope]
    rfl
  · rw [retry_envelope]
  · exact ofRaw?_retry hcount hnow
  · exact ofRaw_retry hcount hnow
  · exact envelope_retry hcount hnow
  · obtain ⟨hattempts, hbody, -⟩ := of_retriedAll raw hnow hroom
    exact ⟨hattempts, hbody⟩

/-- The body of a message with quotes in it, and no envelope around it. -/
def quoted : String := (⟨"job-\"1\"", "https://x/\\a.png"⟩ : Message).body

def outage : Retry := ⟨"503", ⟨⟨2024, 2, 29⟩, 0, 0⟩, ⟨⟨2024, 2, 29⟩, 86399, 999999999⟩⟩

theorem retries_keep_content_of_quoted :
    Countable quoted ∧ outage.written.IsClock ∧
      (Delivery.ofRaw (retriedAll quoted [outage, outage])).attempts = 2 ∧
      (Delivery.ofRaw (retriedAll quoted [outage, outage])).body = quoted := by
  have hcount : Countable quoted := by decide +kernel
  have hclock : outage.written.IsClock := by decide
  have hnew : (Delivery.ofRaw quoted).attempts = 0 ∧ (Delivery.ofRaw quoted).body = quoted := by
    decide +kernel
  obtain ⟨hattempts, hbody⟩ := (retries_keep_content hcount).2 [outage, outage]
    (by simp [hclock]) (by rw [hnew.1]; decide)
  rw [hnew.1] at hattempts
  rw [hnew.2] at hbody
  exact ⟨hcount, hclock, hattempts, hbody⟩

end DetectionJobs.Queue
