/-
  DetectionJobs/Proofs/Repository/Relational.lean
  ===============================================
  **What each call does to the tables when nobody else is at work.**

  The tables are looked at one job at a time: the row of the job and the rows of its
  predictions.  A call changes what they hold of one job and leaves every other job alone.
-/
import DetectionJobs.Repository.Script

namespace DetectionJobs.Repository

/-! ### What the tables hold of a job -/

namespace Tables

variable (t : Tables)

/-- The rows of the predictions of a job, as they were written. -/
def rowsOf (jobId : String) : List PredictionRecord := t.predictions.filter (·.jobId = jobId)

/-- Two states of the tables hold the same of a job. -/
def SameJob (jobId : String) (t' : Tables) : Prop :=
  t'.job? jobId = t.job? jobId ∧ t'.rowsOf jobId = t.rowsOf jobId

theorem jobId_of_job? {t : Tables} {jobId : String} {j : JobRecord} (h : t.job? jobId = some j) :
    j.jobId = jobId := by simpa using List.find?_some h

/-- Writing the row of a job changes that row and no other. -/
theorem job?_putJob (fresh : JobRecord) (change : JobRecord → JobRecord)
    (hchange : ∀ j, (change j).jobId = j.jobId) (jobId : String) :
    (t.putJob fresh change).job? jobId =
      if jobId = fresh.jobId then some (((t.job? jobId).map change).getD fresh)
      else t.job? jobId := by
  unfold putJob
  cases hold : t.job? fresh.jobId with
  | none =>
    show (t.jobs ++ [fresh]).find? _ = _
    rw [List.find?_append, List.find?_singleton]
    by_cases h : jobId = fresh.jobId
    · subst h
      have hnone : t.jobs.find? (·.jobId = fresh.jobId) = none := hold
      rw [if_pos rfl, hold, hnone, if_pos (decide_eq_true rfl)]
      rfl
    · have hne : ¬ decide (fresh.jobId = jobId) = true := by simpa using fun heq => h heq.symm
      rw [if_neg h, if_neg hne, Option.or_none]
      rfl
  | some old =>
    have hfound : ∀ jobs : List JobRecord,
        (jobs.map fun j => if j.jobId = fresh.jobId then change j else j).find? (·.jobId = jobId) =
          (jobs.find? (·.jobId = jobId)).map fun j =>
            if j.jobId = fresh.jobId then change j else j := by
      intro jobs
      rw [List.find?_map]
      congr 2
      funext j
      show decide ((if j.jobId = fresh.jobId then change j else j).jobId = jobId) = _
      split
      · rw [hchange]
      · rfl
    show (t.jobs.map _).find? _ = _
    rw [hfound]
    by_cases h : jobId = fresh.jobId
    · subst h
      have hsome : t.jobs.find? (·.jobId = fresh.jobId) = some old := hold
      rw [if_pos rfl, hold, hsome, Option.map_some, if_pos (jobId_of_job? hold)]
      rfl
    · rw [if_neg h]
      cases hjob : t.job? jobId with
      | none =>
        have hnone : t.jobs.find? (·.jobId = jobId) = none := hjob
        rw [hnone, Option.map_none]
      | some j =>
        have hsome : t.jobs.find? (·.jobId = jobId) = some j := hjob
        have hne : ¬ j.jobId = fresh.jobId := by rwa [jobId_of_job? hjob]
        rw [hsome, Option.map_some, if_neg hne]

theorem predictions_putJob (fresh : JobRecord) (change : JobRecord → JobRecord) :
    (t.putJob fresh change).predictions = t.predictions := by
  unfold putJob
  split <;> rfl

/-! ### Writes -/

/-- Adds a pending job, unless it has a row. -/
def notePending (jobId imageUrl : String) (now : Instant) : Tables :=
  if (t.job? jobId).isSome then t
  else t.putJob ⟨jobId, imageUrl, Status.pending.name, none, none, inMicros now⟩ id

/-- Gives a job a result, with a row if it has none. -/
def placeResult (jobId imageUrl : String) (status : Status) (error : Option String)
    (processedAt now : Instant) : Tables :=
  t.putJob (Statement.overwrite status error processedAt
    ⟨jobId, imageUrl, "", none, none, inMicros now⟩) (Statement.overwrite status error processedAt)

def rowsFor (r : JobResult) (now : Instant) (ids : Nat → Uuid) : List PredictionRecord :=
  r.predictions.mapIdx fun i p => ⟨ids i, r.jobId, p, inMicros now⟩

/-- Replaces what is held of a job by a result. -/
def recordResult (r : JobResult) (now : Instant) (ids : Nat → Uuid) : Tables :=
  { t.placeResult r.jobId r.imageUrl r.status r.error r.processedAt now with
    predictions := t.predictions.filter (·.jobId ≠ r.jobId) ++ rowsFor r now ids }

/-- Whether a job may still be closed as failed. -/
def isOpen (jobId : String) : Bool := (t.job? jobId).all (·.status = Status.pending.name)

def closeJob (jobId imageUrl reason : String) (processedAt now : Instant) : Tables :=
  if t.isOpen jobId then t.placeResult jobId imageUrl .failed (some reason) processedAt now
  else t

/-! ### What writes leave of each job -/

theorem job?_placeResult (jobId imageUrl : String) (status : Status) (error : Option String)
    (processedAt now : Instant) (other : String) :
    (t.placeResult jobId imageUrl status error processedAt now).job? other =
      if other = jobId then
        some (Statement.overwrite status error processedAt
          ((t.job? jobId).getD ⟨jobId, imageUrl, "", none, none, inMicros now⟩))
      else t.job? other := by
  have hchange : ∀ j, (Statement.overwrite status error processedAt j).jobId = j.jobId :=
    fun _ => rfl
  refine (t.job?_putJob _ _ hchange other).trans ?_
  show (if other = jobId then _ else _) = _
  by_cases h : other = jobId
  · subst h
    rw [if_pos rfl, if_pos rfl]
    cases t.job? other <;> rfl
  · rw [if_neg h, if_neg h]

theorem job?_notePending (jobId imageUrl : String) (now : Instant) (other : String) :
    (t.notePending jobId imageUrl now).job? other =
      if other = jobId then
        some ((t.job? jobId).getD
          ⟨jobId, imageUrl, Status.pending.name, none, none, inMicros now⟩)
      else t.job? other := by
  rw [notePending]
  cases hold : t.job? jobId with
  | none =>
    rw [Option.isSome_none, if_neg Bool.false_ne_true]
    refine (t.job?_putJob _ id (fun _ => rfl) other).trans ?_
    show (if other = jobId then _ else _) = _
    by_cases h : other = jobId
    · subst h
      rw [if_pos rfl, if_pos rfl, hold]
      rfl
    · rw [if_neg h, if_neg h]
  | some j =>
    rw [Option.isSome_some, if_pos rfl]
    by_cases h : other = jobId
    · subst h
      rw [if_pos rfl, hold, Option.getD_some]
    · rw [if_neg h]

theorem rowsOf_notePending (jobId imageUrl : String) (now : Instant) (other : String) :
    (t.notePending jobId imageUrl now).rowsOf other = t.rowsOf other := by
  rw [notePending]
  split
  · rfl
  · rw [rowsOf, predictions_putJob, rowsOf]

theorem rowsOf_placeResult (jobId imageUrl : String) (status : Status) (error : Option String)
    (processedAt now : Instant) (other : String) :
    (t.placeResult jobId imageUrl status error processedAt now).rowsOf other = t.rowsOf other := by
  rw [placeResult, rowsOf, predictions_putJob, rowsOf]

theorem jobId_of_mem_rowsFor {r : JobResult} {now : Instant} {ids : Nat → Uuid}
    {row : PredictionRecord} (h : row ∈ rowsFor r now ids) : row.jobId = r.jobId := by
  obtain ⟨i, hi, rfl⟩ := List.mem_mapIdx.mp h
  rfl

theorem rowsOf_recordResult (r : JobResult) (now : Instant) (ids : Nat → Uuid) (other : String) :
    (t.recordResult r now ids).rowsOf other =
      if other = r.jobId then rowsFor r now ids else t.rowsOf other := by
  show (t.predictions.filter (·.jobId ≠ r.jobId) ++ rowsFor r now ids).filter
    (·.jobId = other) = _
  rw [List.filter_append, List.filter_filter]
  by_cases h : other = r.jobId
  · rw [if_pos h, List.filter_eq_nil_iff.mpr, List.filter_eq_self.mpr, List.nil_append]
    · intro row hrow
      exact decide_eq_true ((jobId_of_mem_rowsFor hrow).trans h.symm)
    · intro row _
      simp only [h, ne_eq, decide_not, Bool.and_not_self, Bool.false_eq_true, not_false_eq_true]
  · rw [if_neg h]
    have hnew : (rowsFor r now ids).filter (·.jobId = other) = [] := by
      apply List.filter_eq_nil_iff.mpr
      intro row hrow
      rw [jobId_of_mem_rowsFor hrow, decide_eq_true_eq]
      exact fun heq => h heq.symm
    rw [hnew, List.append_nil, rowsOf]
    apply List.filter_congr
    intro row _
    by_cases hrow : row.jobId = other
    · simp only [hrow, decide_true, Bool.true_and, ne_eq, h, not_false_eq_true]
    · simp only [hrow, decide_false, Bool.false_and]

end Tables

/-! ### Calls -/

namespace Script

def map (f : α → β) : Script α → Script β
  | .done a => .done (f a)
  | .send s next => .send s fun reply => (next reply).map f

theorem map_sendAll (f : α → β) (ss : List Statement) (rest : Script α) :
    (sendAll ss rest).map f = sendAll ss (rest.map f) := by
  induction ss with
  | nil => rfl
  | cons s ss ih => exact congrArg (Script.send s) (funext fun _ => ih)

end Script

inductive Call where
  | createPending (jobId imageUrl : String)
  | upsert (result : JobResult)
  | markFailed (jobId imageUrl reason : String)
  | get (jobId : String)

inductive Answer where
  | done
  | written (isWritten : Bool)
  | view (v : Except Fault (Option JobView))

namespace Call

def jobId : Call → String
  | .createPending jobId _ => jobId
  | .upsert result => result.jobId
  | .markFailed jobId .. => jobId
  | .get jobId => jobId

def script (now : Instant) : Call → Script Answer
  | .createPending jobId imageUrl => (Script.createPending jobId imageUrl).map fun _ => .done
  | .upsert result => (Script.upsert result).map fun _ => .done
  | .markFailed jobId imageUrl reason =>
    (Script.markFailed jobId imageUrl reason now).map .written
  | .get jobId => (Script.get jobId).map .view

/-- The call with nobody else at work. -/
def alone (c : Call) (now : Instant) (ids : Nat → Uuid) (t : Tables) :
    Tables × Except Fault Answer :=
  (c.script now).run now ids (Script.connect t)

end Call

/-! ### Each call alone -/

section Alone

variable {t t' : Tables} {now : Instant} {ids : Nat → Uuid} {s : Statement}

theorem Statement.apply_of_accept (h : s.accept = .ok ()) :
    s.apply now ids t = s.effect now ids t := by
  rw [Statement.apply, h]
  rfl

/-- Whether a statement neither begins nor ends a transaction. -/
def Statement.isPlain : Statement → Bool
  | .begin | .commit | .rollback => false
  | _ => true

theorem run_outside {reply : Reply} {next : Reply → Script α} (hplain : s.isPlain = true)
    (haccept : s.accept = .ok ()) (heffect : s.effect now ids t = .ok (t', reply)) :
    (Script.send s next).run now ids (Script.connect t) =
      (next reply).run now ids (Script.connect t') := by
  have happly : (Script.connect t).apply now ids s = .ok (Script.connect t', reply) := by
    have houtside : (Script.connect t).apply now ids s =
        (s.apply now ids t).map fun result => (⟨result.1, none⟩, result.2) := by
      cases s with
      | begin | commit | rollback => cases hplain
      | _ => rfl
    rw [houtside, Statement.apply_of_accept haccept, heffect]
    rfl
  rw [Script.run, happly]

theorem run_within {committed : Tables} {reply : Reply} {next : Reply → Script α}
    (hplain : s.isPlain = true) (haccept : s.accept = .ok ())
    (heffect : s.effect now ids t = .ok (t', reply)) :
    (Script.send s next).run now ids ⟨committed, some t⟩ =
      (next reply).run now ids ⟨committed, some t'⟩ := by
  have happly : (⟨committed, some t⟩ : Script.Connection).apply now ids s =
      .ok (⟨committed, some t'⟩, reply) := by
    have hwithin : (⟨committed, some t⟩ : Script.Connection).apply now ids s =
        (s.apply now ids t).map fun result => (⟨committed, some result.1⟩, result.2) := by
      cases s with
      | begin | commit | rollback => cases hplain
      | _ => rfl
    rw [hwithin, Statement.apply_of_accept haccept, heffect]
    rfl
  rw [Script.run, happly]

theorem run_begin {next : Reply → Script α} :
    (Script.send .begin next).run now ids (Script.connect t) =
      (next .done).run now ids ⟨t, some t⟩ := rfl

theorem run_commit {committed : Tables} {next : Reply → Script α} :
    (Script.send .commit next).run now ids ⟨committed, some t⟩ =
      (next .done).run now ids (Script.connect t) := rfl

theorem effect_insertPending (t : Tables) (now : Instant) (ids : Nat → Uuid)
    (jobId imageUrl : String) :
    (Statement.insertPending jobId imageUrl).effect now ids t =
      .ok (t.notePending jobId imageUrl now,
        .changed (if (t.job? jobId).isSome then 0 else 1)) := by
  rw [Statement.effect, Tables.notePending]
  cases t.job? jobId <;> rfl

theorem effect_insertFailed (t : Tables) (now : Instant) (ids : Nat → Uuid)
    (jobId imageUrl reason : String) (processedAt : Instant) :
    (Statement.insertFailed jobId imageUrl reason processedAt).effect now ids t =
      .ok (t.closeJob jobId imageUrl reason processedAt now,
        .changed (if t.isOpen jobId then 1 else 0)) := by
  rw [Statement.effect, Tables.closeJob, Tables.isOpen]
  cases t.job? jobId with
  | none => rfl
  | some j =>
    by_cases h : j.status = Status.pending.name
    · simp only [Option.any_some, Option.all_some, h, ne_eq, not_true_eq_false, decide_false,
        decide_true, if_true, if_false, Bool.false_eq_true]
      rfl
    · simp only [Option.any_some, Option.all_some, h, ne_eq, not_false_eq_true, decide_false,
        decide_true, if_true, if_false, Bool.false_eq_true]

theorem effect_insertPredictions (now : Instant) (ids : Nat → Uuid) {r : JobResult}
    (hjob : (t.job? r.jobId).isSome) (hchecks : r.predictions.all meetsChecks = true) :
    (Statement.insertPredictions r.jobId r.predictions).effect now ids t =
      .ok ({ t with predictions := t.predictions ++ Tables.rowsFor r now ids },
        .changed r.predictions.length) := by
  rw [Statement.effect, if_neg (by simpa using Option.isSome_iff_ne_none.mp hjob), if_pos hchecks]
  rfl

theorem alone_createPending {jobId imageUrl : String}
    (h : (Statement.insertPending jobId imageUrl).accept = .ok ()) :
    (Call.createPending jobId imageUrl).alone now ids t =
      (t.notePending jobId imageUrl now, .ok .done) :=
  run_outside rfl h (effect_insertPending t now ids jobId imageUrl)

theorem alone_markFailed {jobId imageUrl reason : String}
    (h : (Statement.insertFailed jobId imageUrl reason now).accept = .ok ()) :
    (Call.markFailed jobId imageUrl reason).alone now ids t =
      (t.closeJob jobId imageUrl reason now now, .ok (.written (t.isOpen jobId))) := by
  refine (run_outside rfl h (effect_insertFailed t now ids jobId imageUrl reason now)).trans ?_
  cases t.isOpen jobId <;> rfl

/-- What a result has to be for the tables to take it. -/
structure Storable (r : JobResult) : Prop where
  job : (Statement.upsertJob r).accept = .ok ()
  old : (Statement.deletePredictions r.jobId).accept = .ok ()
  new : r.predictions ≠ [] →
    (Statement.insertPredictions r.jobId r.predictions).accept = .ok () ∧
      r.predictions.all meetsChecks = true

theorem effect_deletePredictions (t : Tables) (now : Instant) (ids : Nat → Uuid) (jobId : String) :
    (Statement.deletePredictions jobId).effect now ids t =
      .ok ({ t with predictions := t.predictions.filter (·.jobId ≠ jobId) },
        .changed (t.predictions.countP (·.jobId = jobId))) := rfl

theorem effect_upsertJob (t : Tables) (now : Instant) (ids : Nat → Uuid) (r : JobResult) :
    (Statement.upsertJob r).effect now ids t =
      .ok (t.placeResult r.jobId r.imageUrl r.status r.error r.processedAt now, .changed 1) := rfl

theorem alone_upsert {r : JobResult} (h : Storable r) :
    (Call.upsert r).alone now ids t = (t.recordResult r now ids, .ok .done) := by
  have hplaced := effect_upsertJob t now ids r
  have hpredictions : (t.placeResult r.jobId r.imageUrl r.status r.error r.processedAt
      now).predictions = t.predictions := t.predictions_putJob _ _
  have hsome : ((t.placeResult r.jobId r.imageUrl r.status r.error r.processedAt now).job?
      r.jobId).isSome := by
    rw [t.job?_placeResult, if_pos rfl]
    rfl
  generalize hp : t.placeResult r.jobId r.imageUrl r.status r.error r.processedAt now = placed
    at hplaced hpredictions hsome
  have hcleared := effect_deletePredictions placed now ids r.jobId
  rw [hpredictions] at hcleared
  rw [Call.alone, Call.script, Script.upsert, Script.map_sendAll, Script.upsertStatements,
    Tables.recordResult, hp]
  cases hempty : r.predictions with
  | nil =>
    have hrows : Tables.rowsFor r now ids = [] := by rw [Tables.rowsFor, hempty, List.mapIdx_nil]
    rw [hrows, List.append_nil]
    exact run_begin.trans ((run_within rfl h.job hplaced).trans
      ((run_within rfl h.old hcleared).trans run_commit))
  | cons p ps =>
    obtain ⟨haccept, hchecks⟩ := h.new (by simp [hempty])
    have hfilled := effect_insertPredictions (t := { placed with
      predictions := t.predictions.filter (·.jobId ≠ r.jobId) }) now ids hsome hchecks
    rw [hempty] at haccept hfilled
    exact run_begin.trans ((run_within rfl h.job hplaced).trans
      ((run_within rfl h.old hcleared).trans ((run_within rfl haccept hfilled).trans run_commit)))

/-- What is read of a job. -/
def Tables.viewOf (t : Tables) (jobId : String) : Except Fault (Option JobView) :=
  match t.job? jobId with
  | none => .ok none
  | some j =>
    match Status.ofName? j.status with
    | none => .error (.corruptStatus jobId j.status)
    | some status => .ok (some (Script.viewOf j status (t.predictionsOf jobId)))

theorem alone_get {jobId : String} (hjob : (Statement.selectJob jobId).accept = .ok ())
    (hpredictions : (Statement.selectPredictions jobId).accept = .ok ()) :
    (Call.get jobId).alone now ids t = (t, .ok (.view (t.viewOf jobId))) := by
  have hsnapshot : Statement.readSnapshot.accept = .ok () := rfl
  rw [Call.alone, Call.script, Script.get, Script.map_sendAll]
  refine run_begin.trans ((run_within rfl hsnapshot rfl).trans ((run_within rfl hjob rfl).trans ?_))
  rw [Tables.viewOf]
  cases t.job? jobId with
  | none => rfl
  | some j =>
    dsimp only
    cases Status.ofName? j.status with
    | none => rfl
    | some status => exact (run_within rfl hpredictions rfl).trans run_commit

end Alone

end DetectionJobs.Repository
