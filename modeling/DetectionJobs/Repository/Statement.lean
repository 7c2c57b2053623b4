/-
  DetectionJobs/Repository/Statement.lean
  =======================================
  **The statements that are sent to the relational store.**

  Every statement has a text with numbered places and parameters for them.  What it does
  to the tables is told beside it.
-/
import DetectionJobs.Job.Result
import DetectionJobs.Repository.Tables

namespace DetectionJobs.Repository

/-- A value that is sent along with a statement. -/
inductive Parameter where
  | text (s : String)
  | optionalText (s : Option String)
  | time (t : Instant)
  | real (x : Double)
  | int (n : Int32)
deriving DecidableEq, Repr

inductive Statement where
  | begin
  | commit
  | rollback
  /-- Lets the transaction see one state of the tables, and write nothing. -/
  | readSnapshot
  | insertPending (jobId imageUrl : String)
  /-- Adds a job with its result, or overwrites its result. -/
  | upsertJob (result : JobResult)
  | deletePredictions (jobId : String)
  | insertPredictions (jobId : String) (ps : List Prediction)
  /-- Adds a job that failed, or lets a pending one fail. -/
  | insertFailed (jobId imageUrl reason : String) (processedAt : Instant)
  | selectJob (jobId : String)
  | selectPredictions (jobId : String)
  | ping
deriving DecidableEq, Repr

/-- What the store answers. -/
inductive Reply where
  | done
  | changed (rows : Nat)
  | job (row : Option JobRecord)
  | predictions (rows : List PredictionRecord)
deriving DecidableEq, Repr

/-- Why the store refuses a statement. -/
inductive Refusal where
  | parameters (count : Nat)
  | nul
  | check
  | job (jobId : String)
deriving DecidableEq, Repr

def Refusal.message : Refusal → String
  | .parameters count => "too many parameters: " ++ toString count
  | .nul => "invalid byte sequence for encoding \"UTF8\": 0x00"
  | .check => "new row violates a check constraint"
  | .job jobId => "no row of job " ++ jobId

namespace Statement

/-! ### Text and parameters -/

/-- `$3, $4`: the places of `count` parameters after the first `start`. -/
def places (start count : Nat) : String :=
  ", ".intercalate ((List.range count).map fun i => "$" ++ toString (start + i + 1))

/-- How many parameters a row of a prediction has. -/
def rowWidth : Nat := 8

def text : Statement → String
  | .begin => "BEGIN"
  | .commit => "COMMIT"
  | .rollback => "ROLLBACK"
  | .readSnapshot => "SET TRANSACTION ISOLATION LEVEL REPEATABLE READ READ ONLY"
  | .insertPending _ _ =>
    "INSERT INTO jobs (job_id, image_url, status) VALUES ($1, $2, 'pending') "
      ++ "ON CONFLICT (job_id) DO NOTHING"
  | .upsertJob _ =>
    "INSERT INTO jobs (job_id, image_url, status, error, processed_at) "
      ++ "VALUES ($1, $2, $3, $4, $5) ON CONFLICT (job_id) DO UPDATE SET "
      ++ "status = EXCLUDED.status, error = EXCLUDED.error, processed_at = EXCLUDED.processed_at"
  | .deletePredictions _ => "DELETE FROM predictions WHERE job_id = $1"
  | .insertPredictions _ ps =>
    "INSERT INTO predictions (job_id, x, y, width, height, confidence, class, class_id) VALUES "
      ++ ", ".intercalate ((List.range ps.length).map fun i =>
        "(" ++ places (rowWidth * i) rowWidth ++ ")")
  | .insertFailed .. =>
    "INSERT INTO jobs (job_id, image_url, status, error, processed_at) "
      ++ "VALUES ($1, $2, 'failed', $3, $4) ON CONFLICT (job_id) DO UPDATE SET "
      ++ "status = EXCLUDED.status, error = EXCLUDED.error, processed_at = EXCLUDED.processed_at "
      ++ "WHERE jobs.status = 'pending'"
  | .selectJob _ =>
    "SELECT job_id, image_url, status, error, processed_at, created_at FROM jobs "
      ++ "WHERE job_id = $1"
  | .selectPredictions _ =>
    "SELECT id, x, y, width, height, confidence, class, class_id, created_at FROM predictions "
      ++ "WHERE job_id = $1 ORDER BY confidence DESC, id"
  | .ping => "SELECT 1"

def rowParameters (jobId : String) (p : Prediction) : List Parameter :=
  [.text jobId, .real p.x, .real p.y, .real p.width, .real p.height, .real p.confidence,
    .text p.label, .int p.classId]

def parameters : Statement → List Parameter
  | .insertPending jobId imageUrl => [.text jobId, .text imageUrl]
  | .upsertJob r =>
    [.text r.jobId, .text r.imageUrl, .text r.status.name, .optionalText r.error,
      .time (inMicros r.processedAt)]
  | .deletePredictions jobId => [.text jobId]
  | .insertPredictions jobId ps => ps.flatMap (rowParameters jobId)
  | .insertFailed jobId imageUrl reason processedAt =>
    [.text jobId, .text imageUrl, .text reason, .time (inMicros processedAt)]
  | .selectJob jobId => [.text jobId]
  | .selectPredictions jobId => [.text jobId]
  | _ => []

/-! ### Effect -/

/-- How many parameters a statement may have. -/
def parameterLimit : Nat := 65535

def hasNul (s : String) : Bool := s.toList.contains (Char.ofNat 0)

def parameterHasNul : Parameter → Bool
  | .text s => Statement.hasNul s
  | .optionalText s => s.any Statement.hasNul
  | _ => false

/-- Whether a statement may be sent at all. -/
def accept (s : Statement) : Except Refusal Unit :=
  if parameterLimit < s.parameters.length then .error (.parameters s.parameters.length)
  else if s.parameters.any parameterHasNul then .error .nul
  else .ok ()

/-- Overwrites the result of a job. -/
def overwrite (status : Status) (error : Option String) (processedAt : Instant)
    (j : JobRecord) : JobRecord :=
  { j with status := status.name, error := error, processedAt := some (inMicros processedAt) }

/-- What a statement does to the tables at the time `now`, and what is answered; `ids` are
    the identifiers that the store draws. -/
def effect (now : Instant) (ids : Nat → Uuid) (t : Tables) :
    Statement → Except Refusal (Tables × Reply)
  | .begin | .commit | .rollback | .readSnapshot | .ping => .ok (t, .done)
  | .insertPending jobId imageUrl =>
    match t.job? jobId with
    | some _ => .ok (t, .changed 0)
    | none =>
      let fresh := ⟨jobId, imageUrl, Status.pending.name, none, none, inMicros now⟩
      .ok (t.putJob fresh id, .changed 1)
  | .upsertJob r =>
    let change := overwrite r.status r.error r.processedAt
    let fresh := change ⟨r.jobId, r.imageUrl, "", none, none, inMicros now⟩
    .ok (t.putJob fresh change, .changed 1)
  | .deletePredictions jobId =>
    .ok ({ t with predictions := t.predictions.filter (·.jobId ≠ jobId) },
      .changed (t.predictions.countP (·.jobId = jobId)))
  | .insertPredictions jobId ps =>
    if (t.job? jobId).isNone then .error (.job jobId)
    else if ps.all meetsChecks then
      let rows := ps.mapIdx fun i p => ⟨ids i, jobId, p, inMicros now⟩
      .ok ({ t with predictions := t.predictions ++ rows }, .changed ps.length)
    else .error .check
  | .insertFailed jobId imageUrl reason processedAt =>
    let change := overwrite .failed (some reason) processedAt
    let fresh := change ⟨jobId, imageUrl, "", none, none, inMicros now⟩
    if (t.job? jobId).any (·.status ≠ Status.pending.name) then .ok (t, .changed 0)
    else .ok (t.putJob fresh change, .changed 1)
  | .selectJob jobId => .ok (t, .job (t.job? jobId))
  | .selectPredictions jobId => .ok (t, .predictions (t.predictionsOf jobId))

def apply (now : Instant) (ids : Nat → Uuid) (t : Tables) (s : Statement) :
    Except Refusal (Tables × Reply) := do
  s.accept
  s.effect now ids t

end Statement

end DetectionJobs.Repository
