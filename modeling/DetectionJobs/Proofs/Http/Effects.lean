/-
  DetectionJobs/Proofs/Http/Effects.lean
  ======================================
  **What a request leaves behind.**

  Only a request to submit a job that passes all checks makes calls that write; every other one
  leaves the queue and the stored jobs as they are, and is never answered like a submission.
  What a submission leaves behind is told by its answer.
-/
import DetectionJobs.Proofs.Http.Submitting

namespace DetectionJobs.Http

open Submission (Attempt)

/-! ### Responses -/

section Responses

variable (r : Request) (response : Response)

def dressed : Response := Api.share ((Coding.ofRequest r).apply response)

theorem status_dressed : (dressed r response).status = response.status := by
  show ((Coding.ofRequest r).apply response).status = _
  unfold Coding.apply
  split
  · rfl
  · cases Coding.ofRequest r <;> rfl

theorem body_dressed : (dressed r response).body = response.body := by
  show ((Coding.ofRequest r).apply response).body = _
  unfold Coding.apply
  split
  · rfl
  · cases Coding.ofRequest r <;> rfl

end Responses

namespace Api

variable {c : Context} {b : Backend} {r : Request} {job : JobRequest}

def answerResponse : Except Submission.Fault Submission.Accepted → Response
  | .error f => problemResponse (.ofSubmission f)
  | .ok accepted => .json 202 (JobReceipt.queued accepted.jobId).toValue.write

/-! ### Requests that submit a job -/

/-- The job that a request submits, if it does and the job passes the checks. -/
def submission? (r : Request) : Option JobRequest :=
  if (announcedLength? r).any (bodyLimit < ·) then none
  else if Route.ofPath? r.path = some .submit ∧ r.method = "POST" then (readJob r).toOption
  else none

theorem path_of_submit {path : String} (h : Route.ofPath? path = some .submit) :
    path = "/api/v1/jobs" := by
  unfold Route.ofPath? at h
  by_cases hpath : path = "/api/v1/jobs"
  · exact hpath
  · simp only [hpath, if_false] at h
    split at h
    · cases h
    · split at h
      · cases h
      · split at h <;> cases h

theorem of_submission (h : submission? r = some job) :
    (announcedLength? r).any (bodyLimit < ·) = false ∧ Route.ofPath? r.path = some .submit ∧
      r.method = "POST" ∧ readJob r = .ok job := by
  unfold submission? at h
  split at h
  · cases h
  · next hlength =>
    rw [Option.ite_none_right_eq_some] at h
    obtain ⟨⟨hroute, hmethod⟩, h⟩ := h
    refine ⟨Bool.eq_false_iff.mpr hlength, hroute, hmethod, ?_⟩
    cases hread : readJob r with
    | error p =>
      rw [hread] at h
      cases h
    | ok read =>
      rw [hread] at h
      exact congrArg _ (Option.some.inj h)

theorem of_readJob (h : readJob r = .ok job) :
    JobRequest.format.parse r.body = .ok job ∧ job.report.isEmpty = true := by
  unfold readJob at h
  split at h
  · cases h
  · split at h
    · cases h
    · split at h
      · cases h
      · next hparse =>
        split at h
        · next hreport =>
          cases h
          exact ⟨hparse, hreport⟩
        · cases h

theorem respond_of_submission (h : submission? r = some job) :
    respond c b r =
      ((Submission.submit b c.writePending c.jobId job.imageUrl c.now).1,
        dressed r (answerResponse
          (Submission.submit b c.writePending c.jobId job.imageUrl c.now).2)) := by
  obtain ⟨hlength, hroute, hmethod, hread⟩ := of_submission h
  have hsubmit : submit c b r =
      ((Submission.submit b c.writePending c.jobId job.imageUrl c.now).1, answerResponse
        (Submission.submit b c.writePending c.jobId job.imageUrl c.now).2) := by
    rw [submit, hread]
    dsimp only
    cases Submission.submit b c.writePending c.jobId job.imageUrl c.now with
    | mk b' answer => cases answer <;> rfl
  have hdispatch : dispatch c b r (some .submit) =
      ((submit c b r).1, dressed r (submit c b r).2) := by
    rw [dispatch, hlength, if_neg Bool.false_ne_true, hmethod]
    rfl
  rw [respond, hroute, hdispatch, hsubmit, hmethod]
  rfl

/-! ### Requests that do not -/

/-- The answers that a submission which was attempted does not get, but for the 500 of one
    that could not be noted. -/
def quietStatuses : List Nat := [200, 400, 404, 405, 413, 500, 503]

/-- Nothing is left behind, and the answer is not one of a submission. -/
structure Quiet (b : Backend) (result : Backend × Response) : Prop where
  same : b.Unchanged result.1
  status : result.2.status ∈ quietStatuses

theorem unchanged_get (b : Backend) (jobId : String) :
    b.Unchanged { b with repository := (b.repository.get jobId).1 } := by
  refine ⟨.refl _, ?_⟩
  show (b.repository.get jobId).1.rows = b.repository.rows
  rw [Repository.get]
  cases hfaults : b.repository.faults with
  | zero => rw [Repository.call_of_noFault hfaults]
  | succ n => rw [Repository.call_of_fault hfaults]

theorem quiet_status (b : Backend) (part : String) : Quiet b (status b part) := by
  unfold status
  split
  · exact ⟨.refl b, (by decide : 400 ∈ quietStatuses)⟩
  · next text _ =>
    dsimp only
    split
    · exact ⟨.refl b, (by decide : 400 ∈ quietStatuses)⟩
    · have hsame := unchanged_get b (Text.trim text)
      rw [Lookup.job]
      cases hget : b.repository.get (Text.trim text) with
      | mk repository answer =>
        rw [hget] at hsame
        cases answer with
        | error f => exact ⟨hsame, (by decide : 500 ∈ quietStatuses)⟩
        | ok view =>
          cases view with
          | none => exact ⟨hsame, (by decide : 404 ∈ quietStatuses)⟩
          | some v => exact ⟨hsame, (by decide : 200 ∈ quietStatuses)⟩

theorem status_of_readJob {p : Problem} (h : readJob r = .error p) : p.status = 400 := by
  unfold readJob at h
  split at h
  · cases h
    rfl
  · split at h
    · cases h
      rfl
    · split at h
      · cases h
        rfl
      · split at h
        · cases h
        · cases h
          rfl

theorem quiet_handle {route : Route} (h : route = .submit → ∃ p, readJob r = .error p) :
    Quiet b (handle c b r route) := by
  cases route with
  | health =>
    refine ⟨.refl b, ?_⟩
    show (Health.ofBackend b).response.status ∈ _
    rw [Health.response]
    split
    · exact (by decide : 200 ∈ quietStatuses)
    · exact (by decide : 503 ∈ quietStatuses)
  | metrics =>
    show Quiet b (metrics c b)
    unfold metrics
    split
    · exact ⟨⟨.refl _, rfl⟩, (by decide : 200 ∈ quietStatuses)⟩
    · exact ⟨.refl b, (by decide : 404 ∈ quietStatuses)⟩
  | submit =>
    obtain ⟨p, hp⟩ := h rfl
    show Quiet b (submit c b r)
    rw [submit, hp]
    refine ⟨.refl b, ?_⟩
    show p.status ∈ quietStatuses
    rw [status_of_readJob hp]
    decide
  | status part => exact quiet_status b part

theorem Quiet.dressed {result : Backend × Response} (h : Quiet b result) :
    Quiet b (result.1, dressed r result.2) := by
  refine ⟨h.same, ?_⟩
  rw [status_dressed]
  exact h.status

theorem quiet_dispatch (h : submission? r = none) :
    Quiet b (dispatch c b r (Route.ofPath? r.path)) := by
  unfold dispatch
  split
  · exact ⟨.refl b, (by decide : 413 ∈ quietStatuses)⟩
  · next hlength =>
    split
    · exact ⟨.refl b, (by decide : 200 ∈ quietStatuses)⟩
    · apply Quiet.dressed
      split
      · exact ⟨.refl b, (by decide : 404 ∈ quietStatuses)⟩
      · next route hroute =>
        split
        · next hmethod =>
          apply quiet_handle
          intro hsubmit
          subst hsubmit
          rw [submission?, if_neg hlength, hroute] at h
          have hpost : r.method = "POST" := by
            simpa [Route.methods] using hmethod
          rw [if_pos ⟨rfl, hpost⟩] at h
          cases hread : readJob r with
          | error p => exact ⟨p, rfl⟩
          | ok job =>
            rw [hread] at h
            cases h
        · exact ⟨.refl b, (by decide : 405 ∈ quietStatuses)⟩

/-- **A request that submits no job** leaves nothing behind, whatever it is. -/
theorem quiet_respond (h : submission? r = none) : Quiet b (respond c b r) := by
  have hquiet := quiet_dispatch (c := c) (b := b) h
  have hstatus : (respond c b r).2.status =
      (dispatch c b r (Route.ofPath? r.path)).2.status := by
    unfold respond
    dsimp only
    split
    · split
      · split <;> rfl
      · rfl
    · split
      · split <;> rfl
      · rfl
  refine ⟨hquiet.same, ?_⟩
  rw [hstatus]
  exact hquiet.status

/-! ### All requests -/

/-- The answer to a request during which the weather may change, and what came of the
    submission if it was one. -/
def respondAmid (first second : Option Weather) (c : Context) (b : Backend) (r : Request) :
    Backend × Option Attempt × Response :=
  match submission? r with
  | none => ((respond c b r).1, none, (respond c b r).2)
  | some job =>
    let (b, attempt) := Submission.submitAmid first second b c.writePending c.jobId job.imageUrl
      c.now
    (b, some attempt, dressed r (answerResponse attempt.answer))

theorem respondAmid_calm (c : Context) (b : Backend) (r : Request) :
    respond c b r =
      ((respondAmid none none c b r).1, (respondAmid none none c b r).2.2) := by
  rw [respondAmid]
  cases h : submission? r with
  | none => rfl
  | some job =>
    rw [respond_of_submission h, Submission.submitAmid_calm]

/-- The job of a request is on the queue and noted, if that is wanted. -/
structure Enqueued (c : Context) (r : Request) (b b' : Backend) (response : Response)
    (job : JobRequest) (entry : String) : Prop where
  method : r.method = "POST"
  path : r.path = "/api/v1/jobs"
  request : JobRequest.format.parse r.body = .ok job
  receipt : response.body = (JobReceipt.queued c.jobId).toValue.write
  carries : Queue.Carries entry ⟨c.jobId, job.imageUrl⟩
  lists : b'.broker.ready = b.broker.ready ++ [entry] ∧ b'.broker.inFlight = b.broker.inFlight ∧
    b'.broker.dead = b.broker.dead ∧ b'.broker.acked = b.broker.acked
  rows : b'.repository.rows = b.repository.rows ++
    if c.writePending then [(c.jobId, Repository.pendingRow job.imageUrl c.now)] else []

/-- The job of a request could not be put on the queue.  If it was noted, it is closed again,
    unless that fails too. -/
structure Abandoned (c : Context) (b b' : Backend) (closed : Option (Except Repository.Fault Bool))
    (job : JobRequest) : Prop where
  lists : b.broker.Same b'.broker
  unnoted : c.writePending = false → closed = none ∧ b'.repository.rows = b.repository.rows
  noted : c.writePending = true → ∃ answer row, closed = some answer ∧
    b'.repository.rows = b.repository.rows ++ [(c.jobId, row)] ∧ row.imageUrl = job.imageUrl ∧
    match answer with
    | .ok isWritten =>
      isWritten = true ∧ row.status = .failed ∧ row.error = some "enqueue failed: Queue closed"
    | .error _ => row = Repository.pendingRow job.imageUrl c.now

/-- What a request leaves behind, by its answer. -/
structure Effects (c : Context) (r : Request) (b b' : Backend) (attempt : Option Attempt)
    (response : Response) : Prop where
  accepted : response.status = 202 → ∃ job entry, Enqueued c r b b' response job entry
  refused : response.status ∈ [400, 404, 405, 413, 415, 500] ∨
    r.method ∈ ["GET", "HEAD", "OPTIONS"] → b.Unchanged b'
  failed : response.status = 502 →
    ∃ job a, submission? r = some job ∧ attempt = some a ∧ Abandoned c b b' a.closed job
  valid : ∀ job, submission? r = some job → ∃ a, attempt = some a ∧
    (∀ reason, a.answer ≠ .error (.publish (.invalid reason))) ∧
    response.status = match a.answer with
      | .ok _ => 202
      | .error (.repository _) => 500
      | .error (.publish _) => 502

theorem effects_of_quiet {b' : Backend} {response : Response} (hnone : submission? r = none)
    (h : Quiet b (b', response)) : Effects c r b b' none response := by
  have hstatus : response.status ≠ 202 ∧ response.status ≠ 502 := by
    have hmem := h.status
    constructor
    · intro heq
      rw [heq] at hmem
      exact absurd hmem (by decide)
    · intro heq
      rw [heq] at hmem
      exact absurd hmem (by decide)
  constructor
  · intro haccepted
    exact absurd haccepted hstatus.1
  · intro _
    exact h.same
  · intro hfailed
    exact absurd hfailed hstatus.2
  · intro job hjob
    rw [hnone] at hjob
    cases hjob

theorem status_answerResponse (answer : Except Submission.Fault Submission.Accepted) :
    (dressed r (answerResponse answer)).status = match answer with
      | .ok _ => 202
      | .error (.repository _) => 500
      | .error (.publish _) => 502 := by
  rw [status_dressed]
  cases answer with
  | ok accepted => rfl
  | error f => cases f <;> rfl

section Submitted

variable {b' : Backend} {attempt : Attempt}

theorem enqueued_of_submitted (hjob : submission? r = some job)
    (hcheck : (⟨c.jobId, job.imageUrl⟩ : Message).check = .ok ⟨c.jobId, job.imageUrl⟩)
    (hnow : c.now.IsClock)
    (h : Submission.Submitted b c.writePending c.jobId job.imageUrl c.now b' attempt)
    {accepted : Submission.Accepted} (hanswer : attempt.answer = .ok accepted) :
    Enqueued c r b b' (dressed r (answerResponse attempt.answer)) job
      (Envelope.wrap ⟨c.jobId, job.imageUrl⟩ c.now).raw := by
  obtain ⟨_, hroute, hmethod, hread⟩ := of_submission hjob
  cases h with
  | accepted hlists hrows =>
    exact ⟨hmethod, path_of_submit hroute, (of_readJob hread).1, body_dressed ..,
      Queue.carries_wrap hcheck hnow,
      ⟨hlists.ready, hlists.inFlight, hlists.dead, hlists.acked⟩, hrows⟩
  | _ => cases hanswer

theorem unchanged_of_submitted
    (h : Submission.Submitted b c.writePending c.jobId job.imageUrl c.now b' attempt)
    {fault : Repository.Fault} (hanswer : attempt.answer = .error (.repository fault)) :
    b.Unchanged b' := by
  cases h with
  | unnoted _ hsame => exact hsame
  | _ => cases hanswer

theorem abandoned_of_submitted
    (h : Submission.Submitted b c.writePending c.jobId job.imageUrl c.now b' attempt)
    {fault : Queue.Fault} (hanswer : attempt.answer = .error (.publish fault)) :
    Abandoned c b b' attempt.closed job := by
  cases h with
  | unnoted => cases hanswer
  | accepted => cases hanswer
  | unpublished hwrite hsame =>
    refine ⟨hsame.lists, fun _ => ⟨rfl, hsame.rows⟩, ?_⟩
    intro htrue
    rw [hwrite] at htrue
    cases htrue
  | closed hwrite hlists hrows =>
    refine ⟨hlists, ?_, fun _ => ⟨_, _, rfl, hrows, rfl, rfl, rfl, rfl⟩⟩
    intro hfalse
    rw [hwrite] at hfalse
    cases hfalse
  | stranded hwrite fault hlists hrows =>
    refine ⟨hlists, ?_, fun _ => ⟨_, _, rfl, hrows, rfl, rfl⟩⟩
    intro hfalse
    rw [hwrite] at hfalse
    cases hfalse

theorem effects_of_submitted (hjob : submission? r = some job)
    (hcheck : (⟨c.jobId, job.imageUrl⟩ : Message).check = .ok ⟨c.jobId, job.imageUrl⟩)
    (hnow : c.now.IsClock)
    (h : Submission.Submitted b c.writePending c.jobId job.imageUrl c.now b' attempt) :
    Effects c r b b' (some attempt) (dressed r (answerResponse attempt.answer)) := by
  have hstatus := status_answerResponse (r := r) attempt.answer
  refine ⟨?_, ?_, ?_, ?_⟩
  · intro haccepted
    rw [hstatus] at haccepted
    cases hanswer : attempt.answer with
    | ok accepted =>
      rw [← hanswer]
      exact ⟨job, _, enqueued_of_submitted hjob hcheck hnow h hanswer⟩
    | error f =>
      rw [hanswer] at haccepted
      cases f <;> cases haccepted
  · rintro (hrefused | hmember)
    · rw [hstatus] at hrefused
      cases hanswer : attempt.answer with
      | ok accepted =>
        rw [hanswer] at hrefused
        exact absurd hrefused (by decide : 202 ∉ [400, 404, 405, 413, 415, 500])
      | error f =>
        cases f with
        | repository fault => exact unchanged_of_submitted h hanswer
        | publish fault =>
          rw [hanswer] at hrefused
          exact absurd hrefused (by decide : 502 ∉ [400, 404, 405, 413, 415, 500])
    · rw [(of_submission hjob).2.2.1] at hmember
      exact absurd hmember (by decide)
  · intro hfailed
    rw [hstatus] at hfailed
    cases hanswer : attempt.answer with
    | ok accepted =>
      rw [hanswer] at hfailed
      cases hfailed
    | error f =>
      cases f with
      | repository fault =>
        rw [hanswer] at hfailed
        cases hfailed
      | publish fault => exact ⟨job, attempt, hjob, rfl, abandoned_of_submitted h hanswer⟩
  · intro _ _
    refine ⟨attempt, rfl, ?_, hstatus⟩
    intro reason
    cases h <;> exact nofun

end Submitted

/-- **What a request leaves behind** is told by its answer, whatever the request is, and whichever
    faults there are before and between the calls that it makes.  Without a change of the weather
    this is what the interface does. -/
theorem request_effects (c : Context) (b : Backend) (r : Request) {u : Ulid}
    (hid : c.jobId = u.text) (hnow : c.now.IsClock)
    (hfresh : b.repository.find? c.jobId = none) :
    respond c b r = ((respondAmid none none c b r).1, (respondAmid none none c b r).2.2) ∧
      ∀ first second : Option Weather,
        Effects c r b (respondAmid first second c b r).1 (respondAmid first second c b r).2.1
          (respondAmid first second c b r).2.2 := by
  refine ⟨respondAmid_calm c b r, ?_⟩
  intro first second
  rw [respondAmid]
  cases hjob : submission? r with
  | none => exact effects_of_quiet hjob (quiet_respond hjob)
  | some job =>
    have hreport := (of_readJob (of_submission hjob).2.2.2).2
    have hcheck := Message.check_of_report u hreport
    rw [← hid] at hcheck
    exact effects_of_submitted hjob hcheck hnow
      (Submission.submitted_of_submitAmid hcheck hfresh first second c.writePending)

def sample : Context := ⟨true, false, Ulid.zero.text, ⟨⟨2024, 6, 1⟩, 43200, 0⟩⟩

def sampleRequest : Request :=
  ⟨"POST", "/api/v1/jobs", [("content-type", "application/json")],
    "\x7b\"image_url\":\"http://[::1]/a.png\"\x7d"⟩

/-- The queue goes down before the message is published, and then the stored jobs fail. -/
def storm : Option Weather := some ⟨true, 0, 1⟩

theorem request_effects_in_storm :
    (respond sample .empty sampleRequest).2.status = 202 ∧
      (respondAmid storm none sample .empty sampleRequest).2.2.status = 502 ∧
      respond sample .empty sampleRequest =
        ((respondAmid none none sample .empty sampleRequest).1,
          (respondAmid none none sample .empty sampleRequest).2.2) ∧
      ∀ first second : Option Weather,
        Effects sample sampleRequest .empty (respondAmid first second sample .empty sampleRequest).1
          (respondAmid first second sample .empty sampleRequest).2.1
          (respondAmid first second sample .empty sampleRequest).2.2 :=
  ⟨by decide +kernel, by decide +kernel,
    request_effects sample .empty sampleRequest (u := .zero) rfl (by decide) rfl⟩

end Api

end DetectionJobs.Http
