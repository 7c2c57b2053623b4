/-
  DetectionJobs/Proofs/Transactions/Atomicity.lean
  ================================================
  **Reads and writes are atomic, however their statements are interleaved.**

  Whatever is read of a job is what some of the committed writes have left, one after the
  other and each with nobody else at work.  These writes leave of its predictions just those
  of the last result among them.
-/
import DetectionJobs.Proofs.Transactions.Steps

namespace DetectionJobs.Repository

namespace Workload

variable {t₀ : Tables} {f : Workload} {actions : List Action}

theorem Run.sound {f' : Workload} (h : Run f actions f') (hsound : f.Sound t₀) : f'.Sound t₀ := by
  refine Machine.Run.invariant (P := fun _ f => f.Sound t₀) hsound
    (fun _ _ _ _ _ _ hkept _ hstep => ?_) h
  obtain ⟨f₁, htaken, heq⟩ := Option.map_eq_some_iff.mp hstep
  cases heq
  exact hkept.change (change_of_step htaken)

/-! ### The predictions that are left -/

theorem rowsOf_written {c : Call} (now : Instant) (ids : Nat → Uuid) (t : Tables)
    (jobId : String) :
    (c.written now ids t).rowsOf jobId =
      match c with
      | .upsert r => if r.jobId = jobId then Tables.rowsFor r now ids else t.rowsOf jobId
      | _ => t.rowsOf jobId := by
  cases c with
  | createPending other imageUrl => exact t.rowsOf_notePending other imageUrl now jobId
  | upsert r =>
    refine (t.rowsOf_recordResult r now ids jobId).trans ?_
    simp only [eq_comm]
  | markFailed other imageUrl reason =>
    rw [Call.written, Tables.closeJob]
    split
    · exact t.rowsOf_placeResult other imageUrl .failed (some reason) now now jobId
    · rfl
  | get other => rfl

/-- Writes leave the predictions of the last result among them. -/
theorem rowsOf_after {log : List Entry} (h : ∀ e ∈ log, e.call.Accepted e.now) (t : Tables)
    (jobId : String) : (after t log).rowsOf jobId = rowsLeft jobId (t.rowsOf jobId) log := by
  -- on the writes, whatever the tables were before the first of them
  induction log generalizing t with
  | nil => rfl
  | cons e log ih =>
    have hrows := rowsOf_written (c := e.call) e.now e.ids t jobId
    rw [← Call.alone_of_accepted (h e List.mem_cons_self)] at hrows
    refine (ih (fun e he => h e (List.mem_cons_of_mem _ he)) _).trans ?_
    rw [hrows]
    rfl

/-! ### Atomicity -/

/-- What is atomic about the calls on a store that began with some tables. -/
structure Atomic (t₀ : Tables) (f : Workload) : Prop where
  /-- The committed tables are what the committed writes leave, one after the other. -/
  tables : f.tables = after t₀ f.log
  /-- A write is committed for its session, and no more than once. -/
  entries : ∀ e ∈ f.log, ∃ c, f.sessions[e.session]? = some c ∧ c.call.isWrite = true ∧
    e = ⟨e.session, c.call, c.now, c.ids⟩
  once : (f.log.map (·.session)).Nodup
  /-- A read finds what the first so many writes have left, with all those among them that
      were committed before it began. -/
  reads : ∀ (i : Nat) (c : Session) jobId a, f.sessions[i]? = some c → c.call = .get jobId →
    c.stage = .answered a →
    ∃ k, c.since ≤ k ∧ k ≤ f.log.length ∧ a = .view ((after t₀ (f.log.take k)).viewOf jobId)
  /-- Of the predictions of a job, writes leave those of the last result. -/
  rows : ∀ k jobId, (after t₀ (f.log.take k)).rowsOf jobId =
    rowsLeft jobId (t₀.rowsOf jobId) (f.log.take k)
  /-- A write that was answered is committed. -/
  writes : ∀ (i : Nat) (c : Session) a, f.sessions[i]? = some c → c.call.isWrite = true →
    c.stage = .answered a → ∃ e ∈ f.log, e.session = i
  /-- A result is not recorded if a statement before the commit failed. -/
  traceless : ∀ (i : Nat) (c : Session) r s, f.sessions[i]? = some c → c.call = .upsert r →
    c.stage = .failed s → s ≠ .commit → ∀ e ∈ f.log, e.session ≠ i

namespace Sound

variable {i : Nat} {c : Session}

theorem read_atomically (h : Sound t₀ f) (hc : f.sessions[i]? = some c) {jobId : String}
    {a : Answer} (hcall : c.call = .get jobId) (hstage : c.stage = .answered a) :
    ∃ k, c.since ≤ k ∧ k ≤ f.log.length ∧
      a = .view ((after t₀ (f.log.take k)).viewOf jobId) := by
  cases h.standing i c hc with
  | running hstage' | failed hstage' =>
    rw [hstage] at hstage'
    cases hstage'
  | read hcall' hstage' hsince hlog =>
    rw [hcall] at hcall'
    cases hcall'
    rw [hstage] at hstage'
    cases hstage'
    exact ⟨_, hsince, hlog, rfl⟩
  | wrote hcall' =>
    rw [hcall] at hcall'
    cases hcall'

theorem committed_of_answered (h : Sound t₀ f) (hc : f.sessions[i]? = some c) {a : Answer}
    (hwrite : c.call.isWrite = true) (hstage : c.stage = .answered a) :
    ∃ e ∈ f.log, e.session = i := by
  cases h.standing i c hc with
  | running hstage' | failed hstage' =>
    rw [hstage] at hstage'
    cases hstage'
  | read hcall =>
    rw [hcall] at hwrite
    cases hwrite
  | wrote _ _ hsome => exact List.mem_map.mp hsome

theorem not_committed_of_failed (h : Sound t₀ f) (hc : f.sessions[i]? = some c) {r : JobResult}
    {s : Statement} (hcall : c.call = .upsert r) (hstage : c.stage = .failed s)
    (hs : s ≠ .commit) : ∀ e ∈ f.log, e.session ≠ i := by
  intro e he heq
  have hmem : i ∈ f.log.map (·.session) := List.mem_map.mpr ⟨e, he, heq⟩
  cases h.standing i c hc with
  | running hstage' | wrote _ hstage' =>
    rw [hstage] at hstage'
    cases hstage'
  | failed hstage' hnone =>
    rw [hstage] at hstage'
    cases hstage'
    exact hnone r hcall hs hmem
  | read hcall' =>
    rw [hcall] at hcall'
    cases hcall'

theorem entry_of_session (h : Sound t₀ f) {e : Entry} (he : e ∈ f.log) :
    ∃ c, f.sessions[e.session]? = some c ∧ c.call.isWrite = true ∧
      e = ⟨e.session, c.call, c.now, c.ids⟩ := by
  have hentry := h.entries e he
  rw [List.getElem?_map, Option.map_eq_some_iff] at hentry
  obtain ⟨c, hc, hterms⟩ := hentry
  obtain ⟨session, call, now, ids⟩ := e
  cases hterms
  exact ⟨c, hc, Call.isWrite_of_accepted (h.accepted _ he), rfl⟩

end Sound

/-- **Reads and writes are atomic**, for any number of calls, however their statements are
    interleaved and whichever of them fail. -/
theorem reads_and_writes_atomic (hunique : t₀.Unique) (h : Run (opening t₀) actions f) :
    Atomic t₀ f := by
  have hsound := h.sound (.opening hunique)
  refine ⟨hsound.tables, ?_, hsound.once, ?_, ?_, ?_, ?_⟩
  · intro e he
    exact hsound.entry_of_session he
  · intro i c jobId a hc hcall hstage
    exact hsound.read_atomically hc hcall hstage
  · intro k jobId
    exact rowsOf_after (fun e he => hsound.accepted e (List.mem_of_mem_take he)) t₀ jobId
  · intro i c a hc hwrite hstage
    exact hsound.committed_of_answered hc hwrite hstage
  · intro i c r s hc hcall hstage hs
    exact hsound.not_committed_of_failed hc hcall hstage hs

def noon : Instant := ⟨⟨2024, 6, 1⟩, 43200, 0⟩

def found (label : String) (confidence : Double) : Prediction :=
  ⟨.zero, .zero, .zero, .zero, confidence, label, 0⟩

def completed (ps : List Prediction) : Call :=
  .upsert (.completed "job-1" "https://x/a.png" ps noon)

/-- Two results are recorded while their job is read.  A third one is not: its confidence is
    too high. -/
def interleaved : List Action :=
  [.call (completed [found "cat" .zero]) noon .ofRandom, .call (.get "job-1") noon .ofRandom,
    .call (completed [found "dog" .zero, found "ox" .zero]) noon .ofRandom,
    .call (completed [found "bat" .zero, found "owl" (.ofNat 2)]) noon .ofRandom,
    .send 0 .answered, .send 0 .answered, .send 2 .answered, .send 0 .answered,
    .send 0 .answered, .send 0 .answered, .send 1 .answered, .send 2 .answered,
    .send 1 .answered, .send 2 .answered, .send 1 .answered, .send 2 .answered,
    .send 2 .answered, .send 1 .answered, .send 3 .answered, .send 3 .answered,
    .send 3 .answered, .send 3 .answered, .send 1 .answered]

theorem reads_and_writes_atomic_amid_results :
    ∃ f, (opening .empty).replay? interleaved = some (f, interleaved) ∧ Atomic .empty f ∧
      f.log.map (·.session) = [0, 2] ∧
      f.tables.predictions.map (·.prediction.label) = ["dog", "ox"] ∧
      f.sessions[1]?.map (·.stage) =
        some (.answered (.view ((after .empty (f.log.take 1)).viewOf "job-1"))) ∧
      ((after .empty (f.log.take 1)).rowsOf "job-1").map (·.prediction.label) = ["cat"] ∧
      f.sessions[3]?.map (·.stage) = some (.failed
        (.insertPredictions "job-1" [found "bat" .zero, found "owl" (.ofNat 2)])) := by
  have hunique : Tables.empty.Unique := List.nodup_nil
  have hreplay : ∃ f, (opening .empty).replay? interleaved = some (f, interleaved) := ⟨_, rfl⟩
  obtain ⟨f, hf⟩ := hreplay
  have hatomic := reads_and_writes_atomic hunique (Machine.run_of_replay hf)
  cases hf
  exact ⟨_, rfl, hatomic, rfl, rfl, rfl, rfl, rfl⟩

end Workload

end DetectionJobs.Repository
