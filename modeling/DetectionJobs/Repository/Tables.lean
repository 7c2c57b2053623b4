/-
  DetectionJobs/Repository/Tables.lean
  ====================================
  **The tables of the relational store.**

  One table has a row for each job, the other one for each prediction.  Times are kept in
  whole microseconds.  The store keeps no text with a NUL, and of numbers it checks the
  bounds.
-/
import DetectionJobs.Job.Prediction
import DetectionJobs.Job.Status

namespace DetectionJobs.Repository

/-- The year from which the store counts microseconds. -/
def epochYear : Int := 2000

/-- A time in whole microseconds: what is left over is dropped on the side that is nearer
    to the epoch. -/
def inMicros (t : Instant) : Instant :=
  let left := t.nano % 1000
  if left = 0 then t
  else if epochYear ≤ t.date.year then { t with nano := t.nano - left }
  else
    let nano := t.nano - left + 1000
    if nano < 1000000000 then { t with nano := nano }
    else if t.second + 1 < 86400 then ⟨t.date, t.second + 1, nano - 1000000000⟩
    else ⟨t.date.next, 0, nano - 1000000000⟩

/-- The row of a job. -/
structure JobRecord where
  jobId : String
  imageUrl : String
  status : String
  error : Option String
  processedAt : Option Instant
  createdAt : Instant
deriving DecidableEq, Repr

/-- The row of a prediction. -/
structure PredictionRecord where
  id : Uuid
  jobId : String
  prediction : Prediction
  createdAt : Instant
deriving DecidableEq, Repr

/-- What the store holds.  Identifiers of jobs are unique. -/
structure Tables where
  jobs : List JobRecord
  predictions : List PredictionRecord
deriving DecidableEq, Repr

/-- Not below a bound; the store takes a NaN to be above every number. -/
def atLeast (low x : Double) : Bool := x.isNaN || !x.lt low

def atMost (high x : Double) : Bool := !x.isNaN && !high.lt x

/-- The bounds that the store checks. -/
def meetsChecks (p : Prediction) : Bool :=
  atLeast .zero p.x && atLeast .zero p.y && atLeast .zero p.width && atLeast .zero p.height &&
    atLeast .zero p.confidence && atMost (.ofNat 1) p.confidence

/-- The order in which predictions are read: the most confident first, and equally
    confident ones by their identifiers. -/
def PredictionRecord.precedes (a b : PredictionRecord) : Bool :=
  if b.prediction.confidence.lt a.prediction.confidence then true
  else if a.prediction.confidence.lt b.prediction.confidence then false
  else a.id.value ≤ b.id.value

namespace Tables

def empty : Tables := ⟨[], []⟩

def job? (t : Tables) (jobId : String) : Option JobRecord := t.jobs.find? (·.jobId = jobId)

/-- Adds a row, or changes the one of the same job. -/
def putJob (t : Tables) (fresh : JobRecord) (change : JobRecord → JobRecord) : Tables :=
  match t.job? fresh.jobId with
  | none => { t with jobs := t.jobs ++ [fresh] }
  | some _ =>
    { t with jobs := t.jobs.map fun j => if j.jobId = fresh.jobId then change j else j }

def predictionsOf (t : Tables) (jobId : String) : List PredictionRecord :=
  (t.predictions.filter (·.jobId = jobId)).mergeSort PredictionRecord.precedes

end Tables

end DetectionJobs.Repository
