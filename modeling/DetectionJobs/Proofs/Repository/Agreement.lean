/-
  DetectionJobs/Proofs/Repository/Agreement.lean
  ==============================================
  **The stored jobs in memory and those in the tables agree.**

  The two are given the same calls with the same readings of the clock.  Of every job they
  hold the same image, state, error and time, up to the microseconds that the tables keep,
  and the same predictions.  Both read them with the most confident first; equal numbers stand
  by their identifiers in the tables, and in memory by the sign of zero and then as they came.
-/
import DetectionJobs.Proofs.Repository.Relational
import DetectionJobs.Proofs.Repository.Rows
import Mathlib.Data.List.Sort

namespace DetectionJobs.Repository

/-! ### The order of predictions -/

/-- The total order of numbers refines their numeric order. -/
theorem key_le_of_totalKey_le {x y : Double} (h : x.totalKey ≤ y.totalKey) : x.key ≤ y.key := by
  unfold Double.totalKey at h
  unfold Double.key
  by_cases hx : x.isNegative = true
  · by_cases hy : y.isNegative = true
    · simp only [hx, hy, if_true] at h ⊢
      omega
    · simp only [hx, hy, if_true, if_false, Bool.false_eq_true] at h ⊢
      omega
  · by_cases hy : y.isNegative = true
    · simp only [hx, hy, if_true, if_false, Bool.false_eq_true] at h ⊢
      omega
    · simp only [hx, hy, if_false, Bool.false_eq_true] at h ⊢
      exact h

def confidences (ps : List Prediction) : List Int := ps.map (·.confidence.key)

/-- In memory the most confident predictions come first. -/
theorem pairwise_byConfidence (ps : List StoredPrediction) :
    (confidences ((byConfidence ps).map (·.prediction))).Pairwise (· ≥ ·) := by
  rw [confidences, List.map_map, List.pairwise_map]
  exact (ranked_byConfidence ps).descending.imp key_le_of_totalKey_le

def keyedOrder (a b : PredictionRecord) : Bool :=
  decide (b.prediction.confidence.key < a.prediction.confidence.key) ||
    (decide (a.prediction.confidence.key = b.prediction.confidence.key) &&
      decide (a.id.value ≤ b.id.value))

theorem precedes_eq {a b : PredictionRecord} (ha : a.prediction.confidence.isNaN = false)
    (hb : b.prediction.confidence.isNaN = false) : a.precedes b = keyedOrder a b := by
  unfold PredictionRecord.precedes keyedOrder Double.lt
  simp only [ha, hb, Bool.not_false, Bool.true_and, decide_eq_true_eq]
  split
  · next h => simp only [h, decide_true, Bool.true_or]
  · split
    · next h h' =>
      have hne : ¬ a.prediction.confidence.key = b.prediction.confidence.key := by omega
      simp only [h, hne, decide_false, Bool.false_and, Bool.or_false]
    · next h h' =>
      have heq : a.prediction.confidence.key = b.prediction.confidence.key := by omega
      simp only [heq, Int.lt_irrefl, decide_false, decide_true, Bool.true_and, Bool.false_or]

/-- Numbers are read from the tables with the greatest first. -/
theorem pairwise_precedes {rows : List PredictionRecord}
    (h : ∀ row ∈ rows, row.prediction.confidence.isNaN = false) :
    (confidences ((rows.mergeSort PredictionRecord.precedes).map (·.prediction))).Pairwise
      (· ≥ ·) := by
  have hcongr : rows.mergeSort PredictionRecord.precedes = rows.mergeSort keyedOrder := by
    have hmap := List.map_mergeSort (r := PredictionRecord.precedes) (s := keyedOrder) (f := id)
      (l := rows) fun a ha b hb => precedes_eq (h a ha) (h b hb)
    rwa [List.map_id, List.map_id] at hmap
  have hsorted : (rows.mergeSort keyedOrder).Pairwise fun a b => keyedOrder a b = true := by
    apply List.pairwise_mergeSort
    · intro a b c hab hbc
      simp only [keyedOrder, Bool.or_eq_true, Bool.and_eq_true, decide_eq_true_eq] at hab hbc ⊢
      omega
    · intro a b
      simp only [keyedOrder, Bool.or_eq_true, Bool.and_eq_true, decide_eq_true_eq]
      omega
  rw [hcongr, confidences, List.map_map, List.pairwise_map]
  refine hsorted.imp fun {a b} hab => ?_
  simp only [keyedOrder, Bool.or_eq_true, Bool.and_eq_true, decide_eq_true_eq] at hab
  show b.prediction.confidence.key ≤ a.prediction.confidence.key
  omega

/-! ### Rows -/

/-- The rows of a job in the tables and its row in memory say the same. -/
structure Matches (j : JobRecord) (rows : List PredictionRecord) (row : Row) : Prop where
  imageUrl : j.imageUrl = row.imageUrl
  status : j.status = row.status.name
  error : j.error = row.error
  processedAt : j.processedAt = row.processedAt.map inMicros
  predictions : (rows.map (·.prediction)).Perm (row.predictions.map (·.prediction))
  sorted : (confidences (row.predictions.map (·.prediction))).Pairwise (· ≥ ·)
  numbers : ∀ r ∈ rows, r.prediction.confidence.isNaN = false

/-- What is held of one job agrees. -/
inductive MatchesJob : Option JobRecord → List PredictionRecord → Option Row → Prop where
  | absent : MatchesJob none [] none
  | present {j : JobRecord} {rows : List PredictionRecord} {row : Row} (h : Matches j rows row) :
      MatchesJob (some j) rows (some row)

structure Agree (t : Tables) (r : Repository) : Prop where
  noFaults : r.faults = 0
  jobs : ∀ jobId, MatchesJob (t.job? jobId) (t.rowsOf jobId) (r.find? jobId)

theorem agree_empty : Agree .empty .empty := ⟨rfl, fun _ => .absent⟩

/-! ### Answers -/

/-- Two views of a job, the first one from the tables.  Equal numbers may stand in any order. -/
structure SameView (v v' : JobView) : Prop where
  jobId : v.jobId = v'.jobId
  imageUrl : v.imageUrl = v'.imageUrl
  status : v.status = v'.status
  error : v.error = v'.error
  processedAt : v.processedAt = v'.processedAt.map inMicros
  predictions : (v.predictions.map (·.prediction)).Perm (v'.predictions.map (·.prediction))
  confidences : confidences (v.predictions.map (·.prediction)) =
    confidences (v'.predictions.map (·.prediction))

inductive SameAnswer : Except Fault Answer → Except Fault Answer → Prop where
  | done : SameAnswer (.ok .done) (.ok .done)
  | written (isWritten : Bool) : SameAnswer (.ok (.written isWritten)) (.ok (.written isWritten))
  | absent : SameAnswer (.ok (.view (.ok none))) (.ok (.view (.ok none)))
  | present {v v' : JobView} (h : SameView v v') :
      SameAnswer (.ok (.view (.ok (some v)))) (.ok (.view (.ok (some v'))))

def Call.inMemory (now : Instant) (ids : Nat → Uuid) (r : Repository) :
    Call → Repository × Except Fault Answer
  | .createPending jobId imageUrl =>
    let (r, answer) := r.createPending jobId imageUrl now
    (r, answer.map fun _ => .done)
  | .upsert result =>
    let (r, answer) := r.upsert result ids now
    (r, answer.map fun _ => .done)
  | .markFailed jobId imageUrl reason =>
    let (r, answer) := r.markFailed jobId imageUrl reason now
    (r, answer.map .written)
  | .get jobId =>
    let (r, answer) := r.get jobId
    (r, answer.map fun v => .view (.ok v))

section WithoutFaults

variable {r : Repository} {now : Instant} {ids : Nat → Uuid} (h : r.faults = 0)

include h

theorem inMemory_createPending (jobId imageUrl : String) :
    (Call.createPending jobId imageUrl).inMemory now ids r =
      ((r.find? jobId).elim (r.put jobId (pendingRow imageUrl now)) fun _ => r, .ok .done) := by
  rw [Call.inMemory, createPending_of_noFault h]
  rfl

theorem inMemory_upsert (result : JobResult) :
    (Call.upsert result).inMemory now ids r =
      (r.put result.jobId (recordedRow (r.find? result.jobId) result ids now), .ok .done) := by
  rw [Call.inMemory, upsert_of_noFault h]
  rfl

theorem inMemory_markFailed (jobId imageUrl reason : String) :
    (Call.markFailed jobId imageUrl reason).inMemory now ids r =
      (if r.isEnded jobId then r
        else r.put jobId (closedRow (r.find? jobId) imageUrl reason now),
        .ok (.written (!r.isEnded jobId))) := by
  rw [Call.inMemory, markFailed_of_noFault h]
  rfl

theorem inMemory_get (jobId : String) :
    (Call.get jobId).inMemory now ids r =
      (r, .ok (.view (.ok ((r.find? jobId).map (Row.view jobId))))) := by
  rw [Call.inMemory, get_of_noFault h]
  rfl

end WithoutFaults

/-! ### Calls that the tables take -/

def IsPlainText (s : String) : Prop := Statement.hasNul s = false

instance (s : String) : Decidable (IsPlainText s) := by
  unfold IsPlainText
  infer_instance

/-- A result with fewer predictions than a statement can hold, all of them within the bounds
    that the tables check. -/
structure FitsTables (r : JobResult) : Prop where
  jobId : IsPlainText r.jobId
  imageUrl : IsPlainText r.imageUrl
  error : ∀ e ∈ r.error, IsPlainText e
  labels : ∀ p ∈ r.predictions, IsPlainText p.label
  few : r.predictions.length < 8192
  checked : r.predictions.all meetsChecks = true

def Call.Fits : Call → Prop
  | .createPending jobId imageUrl => IsPlainText jobId ∧ IsPlainText imageUrl
  | .upsert result => FitsTables result
  | .markFailed jobId imageUrl reason =>
    IsPlainText jobId ∧ IsPlainText imageUrl ∧ IsPlainText reason
  | .get jobId => IsPlainText jobId

theorem accept_of_plain {s : Statement} (hfew : s.parameters.length ≤ Statement.parameterLimit)
    (hplain : ∀ p ∈ s.parameters, Statement.parameterHasNul p = false) : s.accept = .ok () := by
  have hnone : s.parameters.any Statement.parameterHasNul = false := by
    rw [List.any_eq_false]
    intro p hp
    rw [hplain p hp]
    exact Bool.false_ne_true
  rw [Statement.accept, if_neg (Nat.not_lt.mpr hfew), hnone, if_neg Bool.false_ne_true]

theorem length_flatMap_rowParameters (jobId : String) (ps : List Prediction) :
    (ps.flatMap (Statement.rowParameters jobId)).length = Statement.rowWidth * ps.length := by
  induction ps with
  | nil => rfl
  | cons p ps ih =>
    rw [List.flatMap_cons, List.length_append, ih, List.length_cons, Nat.mul_succ, Nat.add_comm]
    rfl

theorem storable_of_fits {r : JobResult} (h : FitsTables r) : Storable r := by
  constructor
  · apply accept_of_plain (by show 5 ≤ _; decide)
    intro p hp
    simp only [Statement.parameters, List.mem_cons, List.not_mem_nil, or_false] at hp
    rcases hp with rfl | rfl | rfl | rfl | rfl
    · exact h.jobId
    · exact h.imageUrl
    · show Statement.hasNul r.status.name = false
      cases r.status <;> decide
    · show r.error.any Statement.hasNul = false
      cases hr : r.error with
      | none => rfl
      | some e => exact h.error e hr
    · rfl
  · apply accept_of_plain (by show 1 ≤ _; decide)
    intro p hp
    cases List.mem_singleton.mp hp
    exact h.jobId
  · intro _
    refine ⟨accept_of_plain ?_ ?_, h.checked⟩
    · have hfew := h.few
      show (r.predictions.flatMap _).length ≤ _
      rw [length_flatMap_rowParameters, Statement.rowWidth, Statement.parameterLimit]
      omega
    · intro p hp
      obtain ⟨q, hq, hp⟩ := List.mem_flatMap.mp hp
      simp only [Statement.rowParameters, List.mem_cons, List.not_mem_nil, or_false] at hp
      rcases hp with rfl | rfl | rfl | rfl | rfl | rfl | rfl | rfl
      · exact h.jobId
      · rfl
      · rfl
      · rfl
      · rfl
      · rfl
      · exact h.labels q hq
      · rfl

/-! ### Call by call -/

section Calls

variable {t : Tables} {r : Repository} {jobId imageUrl reason : String} {now : Instant}
  {ids ids' : Nat → Uuid}

def Match (x : Tables × Except Fault Answer) (y : Repository × Except Fault Answer) : Prop :=
  SameAnswer x.2 y.2 ∧ Agree x.1 y.1

theorem faults_put (r : Repository) (jobId : String) (row : Row) :
    (r.put jobId row).faults = r.faults := by
  unfold put
  split <;> rfl

theorem matches_pendingRow (jobId imageUrl : String) (now : Instant) :
    Matches ⟨jobId, imageUrl, Status.pending.name, none, none, inMicros now⟩ []
      (pendingRow imageUrl now) := by
  constructor
  · rfl
  · rfl
  · rfl
  · rfl
  · exact .refl _
  · exact .nil
  · intro row hrow
    cases hrow

theorem Agree.of_same {t' : Tables} (h : Agree t r) (hsame : ∀ other, t.SameJob other t') :
    Agree t' r := by
  refine ⟨h.noFaults, fun other => ?_⟩
  rw [(hsame other).1, (hsame other).2]
  exact h.jobs other

theorem Agree.put {t' : Tables} {row : Row} (h : Agree t r)
    (hothers : ∀ other, other ≠ jobId → t.SameJob other t')
    (hown : MatchesJob (t'.job? jobId) (t'.rowsOf jobId) (some row)) :
    Agree t' (r.put jobId row) := by
  refine ⟨(faults_put r jobId row).trans h.noFaults, fun other => ?_⟩
  rw [find?_put]
  by_cases hother : other = jobId
  · subst hother
    rw [if_pos rfl]
    exact hown
  · rw [if_neg hother, (hothers other hother).1, (hothers other hother).2]
    exact h.jobs other

theorem match_createPending (h : Agree t r)
    (hfits : (Call.createPending jobId imageUrl).Fits) :
    Match ((Call.createPending jobId imageUrl).alone now ids t)
      ((Call.createPending jobId imageUrl).inMemory now ids' r) := by
  have haccept : (Statement.insertPending jobId imageUrl).accept = .ok () := by
    apply accept_of_plain (by show 2 ≤ _; decide)
    intro p hp
    simp only [Statement.parameters, List.mem_cons, List.not_mem_nil, or_false] at hp
    rcases hp with rfl | rfl
    · exact hfits.1
    · exact hfits.2
  have hothers : ∀ other, other ≠ jobId → t.SameJob other (t.notePending jobId imageUrl now) := by
    intro other hother
    constructor
    · rw [t.job?_notePending, if_neg hother]
    · exact t.rowsOf_notePending ..
  have hown := t.job?_notePending jobId imageUrl now jobId
  rw [if_pos rfl] at hown
  rw [alone_createPending haccept, inMemory_createPending h.noFaults]
  refine ⟨.done, ?_⟩
  have hjob := h.jobs jobId
  generalize hold : t.job? jobId = old at hjob hown
  generalize hrows : t.rowsOf jobId = rows at hjob
  generalize r.find? jobId = row at hjob
  cases hjob with
  | absent =>
    apply h.put hothers
    rw [hown, t.rowsOf_notePending, hrows]
    exact .present (matches_pendingRow jobId imageUrl now)
  | present =>
    apply h.of_same
    intro other
    by_cases hother : other = jobId
    · subst hother
      exact ⟨hown.trans hold.symm, t.rowsOf_notePending ..⟩
    · exact hothers other hother

/-- A job that fails keeps its image and its predictions. -/
theorem Matches.close {j : JobRecord} {rows : List PredictionRecord} {row : Row}
    (h : Matches j rows row) (reason : String) (now : Instant) :
    Matches (Statement.overwrite .failed (some reason) now j) rows
      { row with status := .failed, error := some reason, processedAt := some now } :=
  ⟨h.imageUrl, rfl, rfl, rfl, h.predictions, h.sorted, h.numbers⟩

theorem match_markFailed (h : Agree t r) (hfits : (Call.markFailed jobId imageUrl reason).Fits) :
    Match ((Call.markFailed jobId imageUrl reason).alone now ids t)
      ((Call.markFailed jobId imageUrl reason).inMemory now ids' r) := by
  have haccept : (Statement.insertFailed jobId imageUrl reason now).accept = .ok () := by
    apply accept_of_plain (by show 4 ≤ _; decide)
    intro p hp
    simp only [Statement.parameters, List.mem_cons, List.not_mem_nil, or_false] at hp
    rcases hp with rfl | rfl | rfl | rfl
    · exact hfits.1
    · exact hfits.2.1
    · exact hfits.2.2
    · rfl
  have hothers : ∀ other, other ≠ jobId → t.SameJob other
      (t.placeResult jobId imageUrl .failed (some reason) now now) := by
    intro other hother
    constructor
    · rw [t.job?_placeResult, if_neg hother]
    · exact t.rowsOf_placeResult ..
  have hown := t.job?_placeResult jobId imageUrl .failed (some reason) now now jobId
  rw [if_pos rfl] at hown
  rw [alone_markFailed haccept, inMemory_markFailed h.noFaults, isEnded, Tables.closeJob,
    Tables.isOpen]
  have hjob := h.jobs jobId
  generalize t.job? jobId = old at hjob hown
  generalize hrows : t.rowsOf jobId = rows at hjob
  generalize r.find? jobId = row at hjob
  have hplaced := t.rowsOf_placeResult jobId imageUrl .failed (some reason) now now jobId
  rw [hrows] at hplaced
  cases hjob with
  | absent =>
    have hclosed := (matches_pendingRow jobId imageUrl now).close reason now
    refine ⟨.written true, ?_⟩
    show Agree (t.placeResult jobId imageUrl .failed (some reason) now now) _
    apply h.put hothers
    rw [hown, hplaced]
    exact .present hclosed
  | @present j _ row hmatches =>
    have hopen : decide (j.status = Status.pending.name) = !row.status.isTerminal := by
      rw [hmatches.status]
      cases row.status <;> decide
    simp only [Option.all_some, Option.any_some, hopen]
    by_cases hterminal : row.status.isTerminal = true
    · simp only [hterminal]
      exact ⟨.written false, h⟩
    · simp only [hterminal]
      refine ⟨.written true, ?_⟩
      show Agree (t.placeResult jobId imageUrl .failed (some reason) now now) _
      apply h.put hothers
      rw [hown, hplaced]
      exact .present (hmatches.close reason now)

theorem isNaN_of_meetsChecks {p : Prediction} (h : meetsChecks p = true) :
    p.confidence.isNaN = false := by
  unfold meetsChecks atMost at h
  simp only [Bool.and_eq_true, Bool.not_eq_true'] at h
  exact h.2.1

theorem prediction_rowsFor (result : JobResult) (now : Instant) (ids : Nat → Uuid) :
    (Tables.rowsFor result now ids).map (·.prediction) = result.predictions :=
  map_mapIdx_eq_self _ fun _ _ => rfl

/-- A result replaces what was known of a job, but for its image. -/
theorem matches_recorded {result : JobResult} {j : JobRecord} {row : Row}
    (hfits : FitsTables result) (himage : j.imageUrl = row.imageUrl) :
    Matches (Statement.overwrite result.status result.error result.processedAt j)
      (Tables.rowsFor result now ids)
      { row with
        status := result.status
        error := result.error
        processedAt := some result.processedAt
        predictions := stored result.predictions ids' now } := by
  constructor
  · exact himage
  · rfl
  · rfl
  · rfl
  · rw [prediction_rowsFor]
    exact (stored_perm ..).symm
  · exact pairwise_byConfidence _
  · intro p hp
    have hmem : p.prediction ∈ result.predictions := by
      rw [← prediction_rowsFor result now ids]
      exact List.mem_map_of_mem hp
    exact isNaN_of_meetsChecks (List.all_eq_true.mp hfits.checked _ hmem)

theorem match_upsert {result : JobResult} (h : Agree t r) (hfits : FitsTables result) :
    Match ((Call.upsert result).alone now ids t)
      ((Call.upsert result).inMemory now ids' r) := by
  have hjobs : ∀ other, (t.recordResult result now ids).job? other = _ :=
    t.job?_placeResult result.jobId result.imageUrl result.status result.error
      result.processedAt now
  rw [alone_upsert (storable_of_fits hfits), inMemory_upsert h.noFaults]
  refine ⟨.done, h.put ?_ ?_⟩
  · intro other hother
    constructor
    · rw [hjobs, if_neg hother]
    · rw [t.rowsOf_recordResult, if_neg hother]
  · rw [hjobs, if_pos rfl, t.rowsOf_recordResult, if_pos rfl]
    apply MatchesJob.present
    apply matches_recorded hfits
    have hjob := h.jobs result.jobId
    generalize t.job? result.jobId = old at hjob
    generalize t.rowsOf result.jobId = rows at hjob
    generalize r.find? result.jobId = row at hjob
    cases hjob with
    | absent => rfl
    | present hmatches => exact hmatches.imageUrl

/-- Sorted alike, the same numbers come in one order. -/
theorem confidences_eq {ps qs : List Prediction} (hperm : ps.Perm qs)
    (hps : (confidences ps).Pairwise (· ≥ ·)) (hqs : (confidences qs).Pairwise (· ≥ ·)) :
    confidences ps = confidences qs := by
  apply List.Perm.eq_of_pairwise _ hps hqs (hperm.map _)
  intro a b _ _ hab hba
  omega

theorem sameView {j : JobRecord} {row : Row} (h : Matches j (t.rowsOf jobId) row)
    (hjob : j.jobId = jobId) :
    SameView (Script.viewOf j row.status (t.predictionsOf jobId)) (Row.view jobId row) := by
  have hsorted : (t.predictionsOf jobId).Perm (t.rowsOf jobId) := List.mergeSort_perm _ _
  have hviews : ((t.predictionsOf jobId).map Script.storedOf).map (·.prediction) =
      (t.predictionsOf jobId).map (·.prediction) := by rw [List.map_map]; rfl
  have hpredictions := (hsorted.map (·.prediction)).trans h.predictions
  refine ⟨hjob, h.imageUrl, rfl, h.error, h.processedAt, ?_, ?_⟩
  · exact hviews ▸ hpredictions
  · show confidences (((t.predictionsOf jobId).map Script.storedOf).map (·.prediction)) = _
    rw [hviews]
    exact confidences_eq hpredictions (pairwise_precedes h.numbers) h.sorted

theorem match_get (h : Agree t r) (hfits : (Call.get jobId).Fits) :
    Match ((Call.get jobId).alone now ids t) ((Call.get jobId).inMemory now ids' r) := by
  have hplain : ∀ p ∈ [Parameter.text jobId], Statement.parameterHasNul p = false := by
    intro p hp
    cases List.mem_singleton.mp hp
    exact hfits
  rw [alone_get (accept_of_plain (by show 1 ≤ _; decide) hplain)
    (accept_of_plain (by show 1 ≤ _; decide) hplain), inMemory_get h.noFaults]
  refine ⟨?_, h⟩
  have hjob := h.jobs jobId
  rw [Tables.viewOf]
  generalize hold : t.job? jobId = old at hjob
  generalize r.find? jobId = row at hjob
  generalize hrows : t.rowsOf jobId = rows at hjob
  cases hjob with
  | absent => exact .absent
  | @present j _ row hmatches =>
    simp only [hmatches.status, Status.ofName?_name]
    rw [← hrows] at hmatches
    exact .present (sameView hmatches (Tables.jobId_of_job? hold))

/-- **Call by call**, one answer; the two agree afterwards. -/
theorem match_call (h : Agree t r) (c : Call) (hfits : c.Fits) :
    Match (c.alone now ids t) (c.inMemory now ids' r) := by
  cases c with
  | createPending jobId imageUrl => exact match_createPending h hfits
  | upsert result => exact match_upsert h hfits
  | markFailed jobId imageUrl reason => exact match_markFailed h hfits
  | get jobId => exact match_get h hfits

end Calls

/-! ### Sequences of calls -/

/-- The reading of the clock for a call, and the identifiers that either side draws. -/
structure Draw where
  now : Instant
  ids : Nat → Uuid
  ids' : Nat → Uuid

def runTables (t : Tables) : List (Call × Draw) → Tables × List (Except Fault Answer)
  | [] => (t, [])
  | (c, draw) :: rest =>
    let (t, answer) := c.alone draw.now draw.ids t
    let (t, answers) := runTables t rest
    (t, answer :: answers)

def runInMemory (r : Repository) : List (Call × Draw) → Repository × List (Except Fault Answer)
  | [] => (r, [])
  | (c, draw) :: rest =>
    let (r, answer) := c.inMemory draw.now draw.ids' r
    let (r, answers) := runInMemory r rest
    (r, answer :: answers)

/-- **The two agree.**  On calls that the tables take, and without faults, memory and tables
    give the same answers: nothing fails, a conditional write tells the same, and a job that is
    read is there on both sides or on neither, with the same image, state, error, time and
    predictions. -/
theorem repositories_agree {calls : List (Call × Draw)} (h : ∀ call ∈ calls, call.1.Fits) :
    List.Forall₂ SameAnswer (runTables .empty calls).2 (runInMemory .empty calls).2 := by
  suffices hrun : ∀ t r, Agree t r →
      List.Forall₂ SameAnswer (runTables t calls).2 (runInMemory r calls).2 from
    hrun _ _ agree_empty
  induction calls with
  | nil =>
    intro t r _
    exact .nil
  | cons call rest ih =>
    intro t r hagree
    obtain ⟨hanswer, hafter⟩ := match_call hagree call.1 (h call List.mem_cons_self)
    exact .cons hanswer (ih (fun c hc => h c (List.mem_cons_of_mem _ hc)) _ _ hafter)

def sure (confidence : Double) : Prediction :=
  ⟨.zero, .zero, .zero, .zero, confidence, "cat", 0⟩

def noon : Draw := ⟨⟨⟨2024, 6, 1⟩, 43200, 1⟩, .ofRandom, .ofRandom⟩

/-- Both zeros are found, and a certain object. -/
def zeros : JobResult :=
  .completed "job-1" "https://x/a.png"
    [sure .zero, sure (Double.neg .zero), sure (.ofNat 1)] noon.now

theorem zeros_fit : FitsTables zeros := by
  refine ⟨by decide, by decide, ?_, ?_, by decide, by decide +kernel⟩
  · intro e he
    cases he
  · intro p hp
    simp only [zeros, JobResult.completed, List.mem_cons, List.not_mem_nil, or_false] at hp
    rcases hp with rfl | rfl | rfl <;> decide

theorem repositories_agree_on_zeros :
    (runInMemory .empty [(.createPending "job-1" "https://x/a.png", noon), (.upsert zeros, noon),
        (.markFailed "job-1" "https://x/a.png" "late", noon), (.get "job-1", noon)]).2.length = 4 ∧
      List.Forall₂ SameAnswer
        (runTables .empty [(.createPending "job-1" "https://x/a.png", noon),
          (.upsert zeros, noon), (.markFailed "job-1" "https://x/a.png" "late", noon),
          (.get "job-1", noon)]).2
        (runInMemory .empty [(.createPending "job-1" "https://x/a.png", noon),
          (.upsert zeros, noon), (.markFailed "job-1" "https://x/a.png" "late", noon),
          (.get "job-1", noon)]).2 := by
  refine ⟨rfl, repositories_agree ?_⟩
  intro call hcall
  simp only [List.mem_cons, List.not_mem_nil, or_false] at hcall
  rcases hcall with rfl | rfl | rfl | rfl
  · exact ⟨by decide, by decide⟩
  · exact zeros_fit
  · exact ⟨by decide, by decide, by decide⟩
  · show IsPlainText "job-1"
    decide

end DetectionJobs.Repository
