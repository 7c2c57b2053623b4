/-
  DetectionJobs/Proofs/Http/Submitting.lean
  =========================================
  **A submission whose calls may fail one by one.**

  A submission makes up to three calls: it notes the job, publishes its message, and closes the
  job again if that failed.  Faults may come and go before each of them.  What is left behind
  hangs on which calls failed, and a job that passed the checks is never refused by the queue
  for its message.
-/
import DetectionJobs.Http.Api
import DetectionJobs.Proofs.Queue.Lists
import DetectionJobs.Proofs.Repository.Rows

namespace DetectionJobs

/-! ### Messages of checked jobs -/

theorem Text.isBlankText_eq_false {s : String} {c : Char} {cs : List Char}
    (h : s.toList = c :: cs) (hc : Text.isBlank c = false) : Text.isBlankText s = false := by
  rw [Text.isBlankText, h, List.all_cons, hc, Bool.false_and]

theorem Ulid.isBlankText_text (u : Ulid) : Text.isBlankText u.text = false := by
  have hdigit : ∀ d < 32, Text.isBlank (Ulid.digitChar d) = false := by decide
  have hfirst : ∀ width n, ∃ d < 32, ∃ cs,
      Ulid.fixedDigits (width + 1) n = Ulid.digitChar d :: cs := by
    intro width
    induction width with
    | zero => exact fun n => ⟨n % 32, Nat.mod_lt _ (by decide), [], rfl⟩
    | succ width ih =>
      intro n
      obtain ⟨d, hd, cs, hcs⟩ := ih (n / 32)
      exact ⟨d, hd, cs ++ [Ulid.digitChar (n % 32)], by rw [Ulid.fixedDigits, hcs]; rfl⟩
  obtain ⟨d, hd, cs, hcs⟩ := hfirst 25 u.value
  have htext : u.text.toList = Ulid.digitChar d :: cs := by
    rw [Ulid.text, String.toList_ofList, hcs]
  exact Text.isBlankText_eq_false htext (hdigit d hd)

theorem JobRequest.webScheme_of_report {job : JobRequest} (h : job.report.isEmpty = true) :
    webScheme job.imageUrl = none := by
  unfold report Validation.check at h
  cases hscheme : webScheme job.imageUrl with
  | none => rfl
  | some reason =>
    rw [hscheme] at h
    cases h

theorem JobRequest.isBlankText_imageUrl {job : JobRequest} (h : job.report.isEmpty = true) :
    Text.isBlankText job.imageUrl = false := by
  have hscheme := webScheme_of_report h
  have hblank : ∀ {start : String} {c : Char} {cs : List Char}, start.toList = c :: cs →
      Text.isBlank c = false → job.imageUrl.startsWith start = true →
      Text.isBlankText job.imageUrl = false := by
    intro start c cs hstart hc hurl
    obtain ⟨rest, hrest⟩ := String.startsWith_string_iff.mp hurl
    rw [hstart] at hrest
    exact Text.isBlankText_eq_false hrest.symm hc
  unfold webScheme at hscheme
  split at hscheme
  · next hstart =>
    rcases Bool.or_eq_true_iff.mp hstart with hhttp | hhttps
    · exact hblank rfl rfl hhttp
    · exact hblank rfl rfl hhttps
  · cases hscheme

/-- A job that passed the checks makes a message, whatever identifier it was given. -/
theorem Message.check_of_report {job : JobRequest} (u : Ulid) (h : job.report.isEmpty = true) :
    (⟨u.text, job.imageUrl⟩ : Message).check = .ok ⟨u.text, job.imageUrl⟩ := by
  simp [Message.check, u.isBlankText_text, JobRequest.isBlankText_imageUrl h]

/-! ### Rows of fresh jobs -/

namespace Repository

variable {r : Repository} {jobId : String}

theorem rows_put_of_fresh (h : r.find? jobId = none) (row : Row) :
    (r.put jobId row).rows = r.rows ++ [(jobId, row)] := by
  simp only [put, h, Option.isSome_none, Bool.false_eq_true, if_false]

theorem ne_of_fresh (h : r.find? jobId = none) : ∀ e ∈ r.rows, e.1 ≠ jobId := by
  intro e he heq
  have hnone := List.lookup_eq_none_iff.mp h e he
  simp [heq] at hnone

/-- A row that was added behind the others is the one that is found, and replaced. -/
theorem find?_of_added {added : Repository} {row : Row} (h : r.find? jobId = none)
    (hrows : added.rows = r.rows ++ [(jobId, row)]) : added.find? jobId = some row := by
  rw [find?, hrows, lookup_append_put _ _ _ _ h, if_pos rfl]

theorem rows_put_of_added {added : Repository} {row : Row} (h : r.find? jobId = none)
    (hrows : added.rows = r.rows ++ [(jobId, row)]) (row' : Row) :
    (added.put jobId row').rows = r.rows ++ [(jobId, row')] := by
  have hothers : (r.rows.map fun e => if e.1 = jobId then (jobId, row') else e) = r.rows := by
    have hsame := List.map_congr_left (l := r.rows) (f := fun e =>
      if e.1 = jobId then (jobId, row') else e) (g := id) fun e he => if_neg (ne_of_fresh h e he)
    rw [hsame, List.map_id]
  have hsome : (added.find? jobId).isSome = true := by
    rw [find?_of_added h hrows]
    rfl
  rw [put, if_pos hsome, hrows, List.map_append, hothers]
  simp

end Repository

/-! ### Faults that come and go -/

/-- Faults that are set up. -/
structure Weather where
  isDown : Bool
  settleFaults : Nat
  repositoryFaults : Nat

/-- The backend once the weather has changed, if it did. -/
def Backend.under (b : Backend) : Option Weather → Backend
  | none => b
  | some w => { b with
      broker := { b.broker with isDown := w.isDown, settleFaults := w.settleFaults }
      repository := { b.repository with faults := w.repositoryFaults } }

/-- Neither the lists of the queue nor the stored jobs have changed. -/
structure Backend.Unchanged (b b' : Backend) : Prop where
  lists : b.broker.Same b'.broker
  rows : b'.repository.rows = b.repository.rows

theorem Backend.Unchanged.refl (b : Backend) : b.Unchanged b := ⟨.refl _, rfl⟩

theorem Backend.unchanged_under (b : Backend) (w : Option Weather) : b.Unchanged (b.under w) := by
  cases w <;> exact ⟨⟨rfl, rfl, rfl, rfl⟩, rfl⟩

namespace Submission

/-- What came of a submission: its answer, and what the closing write answered if there was
    one. -/
structure Attempt where
  answer : Except Fault Accepted
  closed : Option (Except Repository.Fault Bool)

/-- A submission during which the weather may change, before it publishes and before it
    closes the job again. -/
def submitAmid (first second : Option Weather) (b : Backend) (writePending : Bool)
    (jobId imageUrl : String) (now : Instant) : Backend × Attempt :=
  match record b writePending jobId imageUrl now with
  | (b, .error f) => (b, ⟨.error (.repository f), none⟩)
  | (b, .ok ()) =>
    match publish (b.under first) jobId imageUrl now with
    | (b, .error f) =>
      (abandon (b.under second) writePending jobId imageUrl f now,
        ⟨.error (.publish f), if writePending then
          some ((b.under second).repository.markFailed jobId imageUrl
            ("enqueue failed: " ++ f.message) now).2
        else none⟩)
    | (b, .ok ()) =>
      ({ b with metrics := { b.metrics with submitted := b.metrics.submitted + 1 } },
        ⟨.ok ⟨jobId, imageUrl⟩, none⟩)

theorem submitAmid_calm (b : Backend) (writePending : Bool) (jobId imageUrl : String)
    (now : Instant) :
    submit b writePending jobId imageUrl now =
      ((submitAmid none none b writePending jobId imageUrl now).1,
        (submitAmid none none b writePending jobId imageUrl now).2.answer) := by
  simp only [submit, submitAmid, Backend.under]
  cases record b writePending jobId imageUrl now with
  | mk b noted =>
    cases noted with
    | error f => rfl
    | ok _ =>
      dsimp only
      cases publish b jobId imageUrl now with
      | mk b published => cases published <;> rfl

/-- The rows that note a job. -/
def notedRows (writePending : Bool) (jobId imageUrl : String) (now : Instant) :
    List (String × Row) :=
  if writePending then [(jobId, Repository.pendingRow imageUrl now)] else []

/-- The row of a job that was noted and closed again. -/
def abandonedRow (imageUrl : String) (cause : Queue.Fault) (now : Instant) : Row :=
  Repository.closedRow (some (Repository.pendingRow imageUrl now)) imageUrl
    ("enqueue failed: " ++ cause.message) now

/-- What a submission leaves behind. -/
inductive Submitted (b : Backend) (writePending : Bool) (jobId imageUrl : String) (now : Instant) :
    Backend → Attempt → Prop where
  | unnoted {b' : Backend} (fault : Repository.Fault) (hsame : b.Unchanged b') :
      Submitted b writePending jobId imageUrl now b' ⟨.error (.repository fault), none⟩
  | accepted {b' : Backend}
      (hlists : (b.broker.push (Envelope.wrap ⟨jobId, imageUrl⟩ now).raw).Same b'.broker)
      (hrows : b'.repository.rows =
        b.repository.rows ++ notedRows writePending jobId imageUrl now) :
      Submitted b writePending jobId imageUrl now b' ⟨.ok ⟨jobId, imageUrl⟩, none⟩
  | unpublished {b' : Backend} (hwrite : writePending = false) (hsame : b.Unchanged b') :
      Submitted b writePending jobId imageUrl now b' ⟨.error (.publish .closed), none⟩
  | closed {b' : Backend} (hwrite : writePending = true) (hlists : b.broker.Same b'.broker)
      (hrows : b'.repository.rows =
        b.repository.rows ++ [(jobId, abandonedRow imageUrl .closed now)]) :
      Submitted b writePending jobId imageUrl now b' ⟨.error (.publish .closed), some (.ok true)⟩
  | stranded {b' : Backend} (hwrite : writePending = true) (fault : Repository.Fault)
      (hlists : b.broker.Same b'.broker)
      (hrows : b'.repository.rows =
        b.repository.rows ++ [(jobId, Repository.pendingRow imageUrl now)]) :
      Submitted b writePending jobId imageUrl now b'
        ⟨.error (.publish .closed), some (.error fault)⟩

section Submitted

variable {b : Backend} {jobId imageUrl : String} {now : Instant}

theorem publish_of_check (hcheck : (⟨jobId, imageUrl⟩ : Message).check = .ok ⟨jobId, imageUrl⟩) :
    publish b jobId imageUrl now =
      if b.broker.isDown then (b, .error .closed)
      else ({ b with broker := b.broker.push (Envelope.wrap ⟨jobId, imageUrl⟩ now).raw },
        .ok ()) := by
  rw [publish, Queue.Broker.publish, Queue.Broker.check, Message.make]
  cases b.broker.isDown with
  | true => rfl
  | false =>
    rw [hcheck]
    rfl

/-- A job is noted, unless that fails. -/
theorem record_of_fresh (hfresh : b.repository.find? jobId = none) (writePending : Bool) :
    (∃ fault b', record b writePending jobId imageUrl now = (b', .error fault) ∧
      b.Unchanged b') ∨
    ∃ r, record b writePending jobId imageUrl now = ({ b with repository := r }, .ok ()) ∧
      r.rows = b.repository.rows ++ notedRows writePending jobId imageUrl now := by
  cases writePending with
  | false =>
    refine Or.inr ⟨b.repository, rfl, ?_⟩
    rw [notedRows, if_neg Bool.false_ne_true, List.append_nil]
  | true =>
    cases hfaults : b.repository.faults with
    | succ n =>
      refine Or.inl ⟨.unavailable "simulated database outage",
        { b with repository := { b.repository with faults := n } }, ?_, ⟨.refl _, rfl⟩⟩
      rw [record, if_pos rfl, Repository.createPending, Repository.call_of_fault hfaults]
    | zero =>
      refine Or.inr ⟨b.repository.put jobId (Repository.pendingRow imageUrl now), ?_, ?_⟩
      · rw [record, if_pos rfl, Repository.createPending_of_noFault hfaults, hfresh]
        rfl
      · exact Repository.rows_put_of_fresh hfresh _

/-- Closing a job that was noted. -/
theorem submitted_of_closing {noted : Backend} (hfresh : b.repository.find? jobId = none)
    (hlists : b.broker.Same noted.broker)
    (hrows : noted.repository.rows =
      b.repository.rows ++ [(jobId, Repository.pendingRow imageUrl now)]) :
    Submitted b true jobId imageUrl now (abandon noted true jobId imageUrl .closed now)
      ⟨.error (.publish .closed), some (noted.repository.markFailed jobId imageUrl
        ("enqueue failed: " ++ Queue.Fault.closed.message) now).2⟩ := by
  rw [abandon, if_pos rfl]
  cases hfaults : noted.repository.faults with
  | succ n =>
    rw [Repository.markFailed, Repository.call_of_fault hfaults]
    exact .stranded rfl _ hlists hrows
  | zero =>
    have hfound := Repository.find?_of_added hfresh hrows
    have hopen : noted.repository.isEnded jobId = false := by
      rw [Repository.isEnded, hfound]
      rfl
    rw [Repository.markFailed_of_noFault hfaults, hopen, hfound]
    exact .closed rfl hlists (Repository.rows_put_of_added hfresh hrows _)

/-- **What a submission leaves behind**, whichever of its calls fail. -/
theorem submitted_of_submitAmid
    (hcheck : (⟨jobId, imageUrl⟩ : Message).check = .ok ⟨jobId, imageUrl⟩)
    (hfresh : b.repository.find? jobId = none) (first second : Option Weather)
    (writePending : Bool) :
    Submitted b writePending jobId imageUrl now
      (submitAmid first second b writePending jobId imageUrl now).1
      (submitAmid first second b writePending jobId imageUrl now).2 := by
  -- noting the job is followed through first, then the publishing, then the closing
  rcases record_of_fresh hfresh writePending with ⟨fault, b', hrecord, hsame⟩ | ⟨r, hrecord, hrows⟩
  · rw [submitAmid, hrecord]
    exact .unnoted fault hsame
  · rw [submitAmid, hrecord]
    dsimp only
    rw [publish_of_check hcheck]
    have hnoted := Backend.unchanged_under { b with repository := r } first
    generalize ({ b with repository := r } : Backend).under first = noted at hnoted
    have hlists : b.broker.Same noted.broker := hnoted.lists
    rw [← hnoted.rows] at hrows
    cases noted.broker.isDown with
    | false => exact .accepted (hlists.push _) hrows
    | true =>
      have hlater := noted.unchanged_under second
      rw [if_pos rfl]
      rw [← hlater.rows] at hrows
      cases writePending with
      | false =>
        rw [notedRows, if_neg Bool.false_ne_true, List.append_nil] at hrows
        exact .unpublished rfl ⟨hlists.trans hlater.lists, hrows⟩
      | true => exact submitted_of_closing hfresh (hlists.trans hlater.lists) hrows

end Submitted

end Submission

end DetectionJobs
