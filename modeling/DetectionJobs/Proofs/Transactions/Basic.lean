/-
  DetectionJobs/Proofs/Transactions/Basic.lean
  ============================================
  **Many calls on one relational store.**

  Each call is a session of its own that sends one statement after the other, and between any
  two statements others may send theirs.  What a transaction writes stays with it: versions of
  rows of jobs, rows of predictions that it took out and rows that it added.  Its statements
  see the committed tables with these changes put on them, or, once it asked for a snapshot,
  the tables as its first query found them.  Its commit puts the changes on the tables as they
  are by then.

  An insert with a conflict clause takes the lock on the row of its job, for which it waits,
  and the lock is held until the transaction is over.  A statement may also be refused, or be
  carried out with its reply lost; the call has failed in both cases, and what is left of its
  transaction is dropped.
-/
import DetectionJobs.Proofs.Repository.Relational
import DetectionJobs.Proofs.Machine

namespace DetectionJobs.Repository

/-! ### What a transaction writes -/

structure Changes where
  /-- Versions of the rows of jobs, in the order in which they were written. -/
  jobs : List JobRecord
  removed : List PredictionRecord
  added : List PredictionRecord

namespace Changes

def none : Changes := ⟨[], [], []⟩

/-- Puts a version in the place of the row of its job, or adds it. -/
def place (jobs : List JobRecord) (j : JobRecord) : List JobRecord :=
  if jobs.any (·.jobId = j.jobId) then jobs.map fun old => if old.jobId = j.jobId then j else old
  else jobs ++ [j]

def on (c : Changes) (t : Tables) : Tables :=
  ⟨c.jobs.foldl place t.jobs, t.predictions.filter (· ∉ c.removed) ++ c.added⟩

def write (c : Changes) (j : JobRecord) : Changes := { c with jobs := c.jobs ++ [j] }

end Changes

namespace Statement

/-- The changes of a transaction after a statement, which sees the tables `view`. -/
def changes (now : Instant) (ids : Nat → Uuid) (view : Tables) (own : Changes) :
    Statement → Changes
  | .insertPending jobId imageUrl =>
    if (view.job? jobId).isSome then own
    else own.write ⟨jobId, imageUrl, Status.pending.name, none, none, inMicros now⟩
  | .upsertJob r =>
    own.write (overwrite r.status r.error r.processedAt
      ((view.job? r.jobId).getD ⟨r.jobId, r.imageUrl, "", none, none, inMicros now⟩))
  | .deletePredictions jobId =>
    { own with
      removed := own.removed ++ view.rowsOf jobId
      added := own.added.filter (·.jobId ≠ jobId) }
  | .insertPredictions jobId ps =>
    { own with added := own.added ++ ps.mapIdx fun i p => ⟨ids i, jobId, p, inMicros now⟩ }
  | .insertFailed jobId imageUrl reason processedAt =>
    if view.isOpen jobId then
      own.write (overwrite .failed (some reason) processedAt
        ((view.job? jobId).getD ⟨jobId, imageUrl, "", none, none, inMicros now⟩))
    else own
  | _ => own

/-- The job whose row a statement locks. -/
def lock? : Statement → Option String
  | .insertPending jobId _ => some jobId
  | .upsertJob r => some r.jobId
  | .insertFailed jobId .. => some jobId
  | _ => none

/-- Whether a statement has nothing to wait for: a row is there, and it would do nothing. -/
def isSettled (t : Tables) : Statement → Bool
  | .insertPending jobId _ => (t.job? jobId).isSome
  | _ => false

end Statement

/-! ### Sessions -/

/-- The state of the tables that a transaction sees, its own changes apart. -/
inductive Sight where
  /-- The latest one that is committed. -/
  | latest
  /-- That of its first query, once there was one. -/
  | snapshot (taken? : Option Tables)

structure Transaction where
  sight : Sight
  own : Changes
  locks : List String

namespace Transaction

def begun : Transaction := ⟨.latest, .none, []⟩

def base (x : Transaction) (committed : Tables) : Tables :=
  match x.sight with
  | .snapshot (some taken) => taken
  | _ => committed

def view (x : Transaction) (committed : Tables) : Tables := x.own.on (x.base committed)

/-- After a query a snapshot is taken. -/
def sightAfter (x : Transaction) (committed : Tables) : Sight :=
  match x.sight with
  | .snapshot _ => .snapshot (some (x.base committed))
  | .latest => .latest

end Transaction

inductive Stage where
  | running (script : Script Answer)
  | answered (a : Answer)
  /-- A statement was refused, or its reply was lost. -/
  | failed (s : Statement)

def Stage.of : Script Answer → Stage
  | .done a => .answered a
  | script => .running script

structure Session where
  call : Call
  now : Instant
  ids : Nat → Uuid
  /-- How many writes had been committed when it began. -/
  since : Nat
  stage : Stage
  transaction? : Option Transaction

/-- A committed write: the session it is from, with its call. -/
structure Entry where
  session : Nat
  call : Call
  now : Instant
  ids : Nat → Uuid

def Call.isWrite : Call → Bool
  | .get _ => false
  | _ => true

namespace Session

/-- Carries out a statement.  Outside a transaction it is one by itself.  Gives the committed
    tables, the transaction that is open then, and the reply. -/
def carryOut (c : Session) (committed : Tables) (s : Statement) :
    Except Refusal (Tables × Option Transaction × Reply) :=
  match s, c.transaction? with
  | .begin, _ => .ok (committed, some .begun, .done)
  | .commit, some x => .ok (x.own.on committed, none, .done)
  | .rollback, _ => .ok (committed, none, .done)
  | .readSnapshot, some x => .ok (committed, some { x with sight := .snapshot none }, .done)
  | s, some x => do
    let (_, reply) ← s.apply c.now c.ids (x.view committed)
    let own := s.changes c.now c.ids (x.view committed) x.own
    return (committed, some ⟨x.sightAfter committed, own, s.lock?.toList ++ x.locks⟩, reply)
  | s, none => do
    let (_, reply) ← s.apply c.now c.ids committed
    return ((s.changes c.now c.ids committed .none).on committed, none, reply)

/-- Whether a statement ends a transaction with a commit, if it is carried out. -/
def commits (c : Session) (s : Statement) : Bool :=
  match s, c.transaction? with
  | .commit, some _ => true
  | s, none => s.isPlain
  | _, _ => false

end Session

/-- The committed tables, with everyone who uses them and the writes in the order of their
    commits. -/
structure Workload where
  tables : Tables
  sessions : List Session
  log : List Entry

namespace Workload

def opening (t : Tables) : Workload := ⟨t, [], []⟩

def holds (f : Workload) (i : Nat) (jobId : String) : Bool :=
  (f.sessions[i]?.bind (·.transaction?)).any (·.locks.contains jobId)

/-- Whether a statement of a session has to wait for a lock of another one. -/
def waits (f : Workload) (i : Nat) (s : Statement) : Bool :=
  !s.isSettled f.tables && s.lock?.any fun jobId =>
    (List.range f.sessions.length).any fun k => k ≠ i && f.holds k jobId

inductive Fate where
  | answered
  /-- It was carried out, but the reply was lost. -/
  | lost
  | refused
deriving DecidableEq

inductive Action where
  | call (c : Call) (now : Instant) (ids : Nat → Uuid)
  | send (i : Nat) (fate : Fate)
  /-- What is left of the transaction of a call that is over is rolled back. -/
  | drop (i : Nat)

def put (f : Workload) (i : Nat) (c : Session) : Workload :=
  { f with sessions := f.sessions.set i c }

def served (f : Workload) (i : Nat) (c : Session) (s : Statement) (fate : Fate)
    (next : Reply → Script Answer) (committed : Tables) (transaction? : Option Transaction)
    (reply : Reply) : Workload where
  tables := committed
  sessions := f.sessions.set i { c with
    stage := if fate = .lost then .failed s else .of (next reply)
    transaction? := transaction? }
  log := if c.call.isWrite && c.commits s then f.log ++ [⟨i, c.call, c.now, c.ids⟩] else f.log

def step? (f : Workload) : Action → Option Workload
  | .call c now ids =>
    some { f with
      sessions := f.sessions ++ [⟨c, now, ids, f.log.length, .running (c.script now), none⟩] }
  | .send i fate => do
    let c ← f.sessions[i]?
    match c.stage with
    | .running (.send s next) =>
      if fate = .refused then some (f.put i { c with stage := .failed s })
      else if f.waits i s then none
      else
        match c.carryOut f.tables s with
        | .error _ => some (f.put i { c with stage := .failed s })
        | .ok (committed, transaction?, reply) =>
          some (f.served i c s fate next committed transaction? reply)
    | _ => none
  | .drop i => do
    let c ← f.sessions[i]?
    match c.stage with
    | .running _ => none
    | _ => some (f.put i { c with transaction? := none })

/-- The steps of a workload, with themselves for a report. -/
def noting (f : Workload) (a : Action) : Option (Workload × List Action) :=
  (f.step? a).map fun f' => (f', [a])

abbrev Run (f : Workload) (actions : List Action) (f' : Workload) : Prop :=
  Machine.Run noting Anything f actions f'

abbrev replay? (f : Workload) (actions : List Action) : Option (Workload × List Action) :=
  Machine.replay? noting Anything f actions

/-! ### Writes in the order of their commits -/

/-- The tables after some writes, one after the other with nobody else at work. -/
def after (t : Tables) (log : List Entry) : Tables :=
  log.foldl (fun t e => (e.call.alone e.now e.ids t).1) t

theorem after_append (t : Tables) (log log' : List Entry) :
    after t (log ++ log') = after (after t log) log' := List.foldl_append

/-- The rows of the predictions of a job that are left by the last result among some writes. -/
def rowsLeft (jobId : String) (rows : List PredictionRecord) (log : List Entry) :
    List PredictionRecord :=
  log.foldl (fun rows e =>
    match e.call with
    | .upsert r => if r.jobId = jobId then Tables.rowsFor r e.now e.ids else rows
    | _ => rows) rows

end Workload

end DetectionJobs.Repository
