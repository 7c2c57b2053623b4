/-
  DetectionJobs/Repository/Basic.lean
  ===================================
  **The jobs that are stored in memory.**

  Every job has one row, which never goes away again.  A row keeps its image and the
  time of its first write; its state, error, time of processing and predictions are
  those of the last write that took effect.  Predictions are kept with the most
  confident first.
-/
import DetectionJobs.Job.Result
import DetectionJobs.Job.View
import DetectionJobs.Repository.Fault

namespace DetectionJobs

/-- What is stored of a job. -/
structure Row where
  imageUrl : String
  status : Status
  error : Option String
  processedAt : Option Instant
  createdAt : Instant
  predictions : List StoredPrediction
deriving DecidableEq, Repr

/-- The stored jobs by their identifiers, in the order of their first writes, and how
    many calls are still to fail. -/
structure Repository where
  rows : List (String × Row)
  faults : Nat
deriving DecidableEq, Repr

namespace Repository

def empty : Repository := ⟨[], 0⟩

def find? (r : Repository) (jobId : String) : Option Row := r.rows.lookup jobId

/-- Replaces the row of a job, or adds one. -/
def put (r : Repository) (jobId : String) (row : Row) : Repository :=
  if (r.find? jobId).isSome then
    { r with rows := r.rows.map fun e => if e.1 = jobId then (jobId, row) else e }
  else { r with rows := r.rows ++ [(jobId, row)] }

/-- The row of a job of which nothing but its image is known. -/
def pendingRow (imageUrl : String) (now : Instant) : Row :=
  ⟨imageUrl, .pending, none, none, now, []⟩

/-- Makes a call: one of those that are to fail, or `act`.  Gives the stored jobs
    after the call and its answer. -/
def call (r : Repository) (act : Repository → Repository × α) :
    Repository × Except Fault α :=
  match r.faults with
  | n + 1 => ({ r with faults := n }, .error (.unavailable "simulated database outage"))
  | 0 =>
    let (r, a) := act r
    (r, .ok a)

/-! ### Writing -/

/-- Records a job that was submitted, unless it has a row. -/
def createPending (r : Repository) (jobId imageUrl : String) (now : Instant) :
    Repository × Except Fault Unit :=
  r.call fun r =>
    match r.find? jobId with
    | some _ => (r, ())
    | none => (r.put jobId (pendingRow imageUrl now), ())

/-- Predictions with the more confident ones first; equally confident ones keep
    their order. -/
def byConfidence (ps : List StoredPrediction) : List StoredPrediction :=
  ps.mergeSort fun a b => b.prediction.confidence.totalKey ≤ a.prediction.confidence.totalKey

/-- The predictions of a result with identifiers and a time of storage. -/
def stored (ps : List Prediction) (ids : Nat → Uuid) (now : Instant) : List StoredPrediction :=
  byConfidence (ps.mapIdx fun i p => ⟨ids i, p, now⟩)

/-- Records the outcome of a job, whatever its row said before. -/
def upsert (r : Repository) (result : JobResult) (ids : Nat → Uuid) (now : Instant) :
    Repository × Except Fault Unit :=
  r.call fun r =>
    let row := (r.find? result.jobId).getD (pendingRow result.imageUrl now)
    (r.put result.jobId { row with
      status := result.status
      error := result.error
      processedAt := some result.processedAt
      predictions := stored result.predictions ids now }, ())

/-- Records that a job failed, unless it has come to an end.  Tells whether it was
    recorded. -/
def markFailed (r : Repository) (jobId imageUrl reason : String) (now : Instant) :
    Repository × Except Fault Bool :=
  r.call fun r =>
    let row := (r.find? jobId).getD (pendingRow imageUrl now)
    if row.status.isTerminal then (r, false)
    else
      (r.put jobId { row with status := .failed, error := some reason, processedAt := some now },
        true)

/-! ### Reading -/

/-- What a caller sees of a row. -/
def Row.view (jobId : String) (row : Row) : JobView :=
  ⟨jobId, row.imageUrl, row.status, row.error, row.processedAt, row.createdAt, row.predictions⟩

def get (r : Repository) (jobId : String) : Repository × Except Fault (Option JobView) :=
  r.call fun r => (r, (r.find? jobId).map (Row.view jobId))

def countWith (r : Repository) (s : Status) : Nat := r.rows.countP (·.2.status = s)

end Repository

end DetectionJobs
