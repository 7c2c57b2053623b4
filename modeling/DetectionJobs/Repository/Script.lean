/-
  DetectionJobs/Repository/Script.lean
  ====================================
  **The stored jobs in a relational store.**

  An operation is a script of statements, each of which may hang on the replies before
  it.  Writes of more than one statement are a transaction, and so are the two reads that
  make up a job's view: they come from one state of the tables.
-/
import DetectionJobs.Job.View
import DetectionJobs.Repository.Fault
import DetectionJobs.Repository.Statement

namespace DetectionJobs.Repository

/-- Statements to send, and what they come to. -/
inductive Script (α : Type) where
  | done (a : α)
  | send (s : Statement) (next : Reply → Script α)

namespace Script

/-- Sends statements of which no reply matters. -/
def sendAll (ss : List Statement) (rest : Script α) : Script α :=
  ss.foldr (fun s rest => .send s fun _ => rest) rest

/-! ### Operations -/

def createPending (jobId imageUrl : String) : Script Unit :=
  sendAll [.insertPending jobId imageUrl] (.done ())

/-- The statements that record a result. -/
def upsertStatements (r : JobResult) : List Statement :=
  [.begin, .upsertJob r, .deletePredictions r.jobId] ++
    (if r.predictions.isEmpty then [] else [.insertPredictions r.jobId r.predictions]) ++
    [.commit]

def upsert (r : JobResult) : Script Unit := sendAll (upsertStatements r) (.done ())

/-- Tells whether a row was written. -/
def markFailed (jobId imageUrl reason : String) (now : Instant) : Script Bool :=
  .send (.insertFailed jobId imageUrl reason now) fun reply =>
    .done (match reply with
      | .changed rows => 0 < rows
      | _ => false)

/-- A stored prediction as it is shown. -/
def storedOf (r : PredictionRecord) : StoredPrediction := ⟨r.id, r.prediction, r.createdAt⟩

def viewOf (j : JobRecord) (status : Status) (ps : List PredictionRecord) : JobView :=
  ⟨j.jobId, j.imageUrl, status, j.error, j.processedAt, j.createdAt, ps.map storedOf⟩

/-- Reads a job.  A state without a known name ends the script, and with it the
    transaction. -/
def get (jobId : String) : Script (Except Fault (Option JobView)) :=
  sendAll [.begin, .readSnapshot] (.send (.selectJob jobId) fun reply =>
    match reply with
    | .job (some j) =>
      match Status.ofName? j.status with
      | none => .done (.error (.corruptStatus jobId j.status))
      | some status => .send (.selectPredictions jobId) fun reply =>
        sendAll [.commit] (.done (.ok (some (viewOf j status (match reply with
          | .predictions ps => ps
          | _ => [])))))
    | _ => sendAll [.commit] (.done (.ok none)))

def ping : Script Unit := sendAll [.ping] (.done ())

/-! ### Running -/

/-- The tables as others see them, and those of the transaction that is open. -/
structure Connection where
  committed : Tables
  open? : Option Tables
deriving DecidableEq, Repr

/-- Carries out a statement on a connection.  Outside a transaction it is one by
    itself. -/
def Connection.apply (now : Instant) (ids : Nat → Uuid) (c : Connection) (s : Statement) :
    Except Refusal (Connection × Reply) :=
  match s, c.open? with
  | .begin, _ => .ok (⟨c.committed, some c.committed⟩, .done)
  | .commit, some t => .ok (⟨t, none⟩, .done)
  | .rollback, _ => .ok (⟨c.committed, none⟩, .done)
  | s, some t => (s.apply now ids t).map fun (t, reply) => (⟨c.committed, some t⟩, reply)
  | s, none => (s.apply now ids c.committed).map fun (t, reply) => (⟨t, none⟩, reply)

/-- Runs a script with nobody else at work.  A transaction that is open at its end, or when
    a statement is refused, leaves no trace. -/
def run (now : Instant) (ids : Nat → Uuid) : Connection → Script α → Tables × Except Fault α
  | c, .done a => (c.committed, .ok a)
  | c, .send s next =>
    match c.apply now ids s with
    | .error refusal => (c.committed, .error (.database refusal.message))
    | .ok (c, reply) => run now ids c (next reply)

/-- The connection to some tables, with no transaction open. -/
def connect (t : Tables) : Connection := ⟨t, none⟩

end Script

end DetectionJobs.Repository
