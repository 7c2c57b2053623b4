/-
  DetectionJobs/Proofs/Repository/Rows.lean
  =========================================
  **What each call does to the rows of the stored jobs.**

  A call writes the row of one job or nothing at all.  The rows are looked at through
  `find?`; the lemmas say of every identifier which row it has after the call.
-/
import DetectionJobs.Repository.Basic

namespace DetectionJobs.Repository

/-! ### Looking up and putting rows -/

theorem lookup_map_put (rows : List (String × Row)) (jobId other : String) (row : Row) :
    (rows.map fun e => if e.1 = jobId then (jobId, row) else e).lookup other =
      if other = jobId then (rows.lookup jobId).map fun _ => row else rows.lookup other := by
  induction rows with
  | nil => simp
  | cons e rows ih =>
    obtain ⟨key, old⟩ := e
    by_cases hkey : key = jobId
    · subst hkey
      by_cases hother : other = key
      · simp [hother]
      · have hne : (other == key) = false := by simpa using hother
        simp [List.lookup_cons, hne, ih, hother]
    · by_cases hother : other = key
      · subst hother
        simp [hkey]
      · have hne : (other == key) = false := by simpa using hother
        have hne' : (jobId == key) = false := by simpa using fun h : jobId = key => hkey h.symm
        simp [List.lookup_cons, hne, hne', hkey, ih]

theorem lookup_append_put (rows : List (String × Row)) (jobId other : String) (row : Row)
    (h : rows.lookup jobId = none) :
    (rows ++ [(jobId, row)]).lookup other =
      if other = jobId then some row else rows.lookup other := by
  induction rows with
  | nil => by_cases hother : other = jobId <;> simp [hother]
  | cons e rows ih =>
    obtain ⟨key, old⟩ := e
    by_cases hkey : jobId = key
    · simp [hkey] at h
    · have hne : (jobId == key) = false := by simpa using hkey
      rw [List.lookup_cons, hne] at h
      by_cases hother : other = key
      · subst hother
        have hne' : ¬ other = jobId := fun h => hkey h.symm
        simp [hne']
      · have hne' : (other == key) = false := by simpa using hother
        simp only [List.cons_append, List.lookup_cons, hne']
        exact ih h

/-- Putting a row changes the row of its job and no other. -/
theorem find?_put (r : Repository) (jobId other : String) (row : Row) :
    (r.put jobId row).find? other = if other = jobId then some row else r.find? other := by
  unfold put find?
  split
  · next h =>
    obtain ⟨old, hold⟩ := Option.isSome_iff_exists.mp h
    simp only [lookup_map_put, hold, Option.map_some]
  · next h => exact lookup_append_put _ _ _ _ (Option.not_isSome_iff_eq_none.mp h)

/-! ### The order of predictions -/

def rank (p : StoredPrediction) : Int := p.prediction.confidence.totalKey

/-- The predictions `ys` are `xs` with the most confident ones first, and equally confident
    ones stand as they stood. -/
structure Ranked (xs ys : List StoredPrediction) : Prop where
  perm : ys.Perm xs
  descending : ys.Pairwise fun a b => rank b ≤ rank a
  stable : ∀ k, ys.filter (rank · = k) = xs.filter (rank · = k)

theorem ranked_byConfidence (ps : List StoredPrediction) : Ranked ps (byConfidence ps) := by
  have htrans : ∀ a b c : StoredPrediction, decide (rank b ≤ rank a) = true →
      decide (rank c ≤ rank b) = true → decide (rank c ≤ rank a) = true := by
    intro a b c hab hbc
    simp only [decide_eq_true_eq] at hab hbc ⊢
    omega
  have htotal : ∀ a b : StoredPrediction,
      (decide (rank b ≤ rank a) || decide (rank a ≤ rank b)) = true := by
    intro a b
    simp only [Bool.or_eq_true, decide_eq_true_eq]
    omega
  have hperm : (byConfidence ps).Perm ps := List.mergeSort_perm _ _
  refine ⟨hperm, ?_, ?_⟩
  · exact (List.pairwise_mergeSort htrans htotal ps).imp of_decide_eq_true
  · intro k
    -- those of one rank are in order before the sort, so that the sort leaves them so
    have hequal : (ps.filter (rank · = k)).Pairwise fun a b => decide (rank b ≤ rank a) = true := by
      refine (List.pairwise_of_forall (R := fun _ _ => True) fun _ _ => trivial).imp_of_mem ?_
      intro a b ha hb _
      simp only [List.mem_filter, decide_eq_true_eq] at ha hb ⊢
      omega
    have hsublist := (List.sublist_mergeSort htrans htotal hequal List.filter_sublist).filter
      (rank · = k)
    rw [List.filter_filter] at hsublist
    simp only [Bool.and_self] at hsublist
    exact (hsublist.eq_of_length (hperm.filter _).length_eq.symm).symm

theorem map_mapIdx_eq_self {β : Type} (ps : List Prediction) {f : Nat → Prediction → β}
    {g : β → Prediction} (h : ∀ i p, g (f i p) = p) : (ps.mapIdx f).map g = ps := by
  apply List.ext_getElem
  · rw [List.length_map, List.length_mapIdx]
  · intro i _ _
    rw [List.getElem_map, List.getElem_mapIdx, h]

/-- Predictions are stored as they are, in some order. -/
theorem stored_perm (ps : List Prediction) (ids : Nat → Uuid) (now : Instant) :
    ((stored ps ids now).map (·.prediction)).Perm ps := by
  have hmap := (ranked_byConfidence (ps.mapIdx fun i p => ⟨ids i, p, now⟩)).perm.map (·.prediction)
  rwa [map_mapIdx_eq_self ps fun _ _ => rfl] at hmap

/-! ### Calls with and without a fault -/

theorem call_of_fault {r : Repository} {n : Nat} (h : r.faults = n + 1)
    (act : Repository → Repository × α) :
    r.call act = ({ r with faults := n }, .error (.unavailable "simulated database outage")) := by
  simp only [call, h]

theorem call_of_noFault {r : Repository} (h : r.faults = 0) (act : Repository → Repository × α) :
    r.call act = ((act r).1, .ok (act r).2) := by
  simp only [call, h]

/-! ### Calls that write -/

/-- The row after a result was recorded over what was known of the job. -/
def recordedRow (known : Option Row) (result : JobResult) (ids : Nat → Uuid) (now : Instant) :
    Row :=
  { known.getD (pendingRow result.imageUrl now) with
    status := result.status
    error := result.error
    processedAt := some result.processedAt
    predictions := stored result.predictions ids now }

/-- The row after a job that had not come to an end was closed. -/
def closedRow (known : Option Row) (imageUrl reason : String) (now : Instant) : Row :=
  { known.getD (pendingRow imageUrl now) with
    status := .failed
    error := some reason
    processedAt := some now }

theorem createPending_of_noFault {r : Repository} (h : r.faults = 0) (jobId imageUrl : String)
    (now : Instant) :
    r.createPending jobId imageUrl now =
      ((r.find? jobId).elim (r.put jobId (pendingRow imageUrl now)) fun _ => r, .ok ()) := by
  rw [createPending, call_of_noFault h]
  cases r.find? jobId <;> rfl

theorem upsert_of_noFault {r : Repository} (h : r.faults = 0) (result : JobResult)
    (ids : Nat → Uuid) (now : Instant) :
    r.upsert result ids now =
      (r.put result.jobId (recordedRow (r.find? result.jobId) result ids now), .ok ()) := by
  rw [upsert, call_of_noFault h]
  rfl

/-- The job has a row, and the row says that it came to its end. -/
def isEnded (r : Repository) (jobId : String) : Bool :=
  (r.find? jobId).any (·.status.isTerminal)

theorem markFailed_of_noFault {r : Repository} (h : r.faults = 0) (jobId imageUrl reason : String)
    (now : Instant) :
    r.markFailed jobId imageUrl reason now =
      (if r.isEnded jobId then r
        else r.put jobId (closedRow (r.find? jobId) imageUrl reason now),
        .ok (!r.isEnded jobId)) := by
  rw [markFailed, call_of_noFault h, isEnded]
  cases hrow : r.find? jobId with
  | none => rfl
  | some row => cases hterminal : row.status.isTerminal <;> simp [hterminal, closedRow]

theorem get_of_noFault {r : Repository} (h : r.faults = 0) (jobId : String) :
    r.get jobId = (r, .ok ((r.find? jobId).map (Row.view jobId))) := by
  rw [get, call_of_noFault h]

/-- A job is recorded as pending only where there is no row yet. -/
theorem find?_createPending {r r' : Repository} {jobId imageUrl : String} {now : Instant}
    {answer : Except Fault Unit} (h : r.createPending jobId imageUrl now = (r', answer)) :
    (∀ j, r'.find? j = r.find? j) ∨
      r.find? jobId = none ∧
        ∀ j, r'.find? j = if j = jobId then some (pendingRow imageUrl now) else r.find? j := by
  unfold createPending call at h
  split at h
  · cases h
    exact Or.inl fun _ => rfl
  · dsimp only at h
    cases hrow : r.find? jobId with
    | some row =>
      rw [hrow] at h
      cases h
      exact Or.inl fun _ => rfl
    | none =>
      rw [hrow] at h
      cases h
      exact Or.inr ⟨rfl, fun j => find?_put r jobId j _⟩

/-- A result is recorded over whatever was known of the job, or the call fails. -/
theorem find?_upsert {r r' : Repository} {result : JobResult} {ids : Nat → Uuid} {now : Instant}
    {answer : Except Fault Unit} (h : r.upsert result ids now = (r', answer)) :
    (∃ f, answer = .error f ∧ ∀ j, r'.find? j = r.find? j) ∨
      answer = .ok () ∧ ∀ j, r'.find? j =
        if j = result.jobId then some (recordedRow (r.find? result.jobId) result ids now)
        else r.find? j := by
  unfold upsert call at h
  split at h
  · cases h
    exact Or.inl ⟨_, rfl, fun _ => rfl⟩
  · cases h
    exact Or.inr ⟨rfl, fun j => find?_put r result.jobId j _⟩

/-- The answer of the conditional write tells whether the job had come to an end. -/
theorem find?_markFailed {r r' : Repository} {jobId imageUrl reason : String} {now : Instant}
    {answer : Except Fault Bool} (h : r.markFailed jobId imageUrl reason now = (r', answer)) :
    (∃ f, answer = .error f ∧ ∀ j, r'.find? j = r.find? j) ∨
    (answer = .ok false ∧ (∃ row, r.find? jobId = some row ∧ row.status.isTerminal = true) ∧
      ∀ j, r'.find? j = r.find? j) ∨
    (answer = .ok true ∧ (∀ row, r.find? jobId = some row → row.status.isTerminal = false) ∧
      ∀ j, r'.find? j =
        if j = jobId then some (closedRow (r.find? jobId) imageUrl reason now)
        else r.find? j) := by
  unfold markFailed call at h
  split at h
  · cases h
    exact Or.inl ⟨_, rfl, fun _ => rfl⟩
  · dsimp only at h
    cases hrow : r.find? jobId with
    | none =>
      rw [hrow] at h
      cases h
      exact Or.inr (Or.inr ⟨rfl, by simp, fun j => find?_put r jobId j _⟩)
    | some row =>
      rw [hrow] at h
      by_cases hterminal : row.status.isTerminal = true
      · simp only [Option.getD_some, if_pos hterminal] at h
        cases h
        exact Or.inr (Or.inl ⟨rfl, ⟨row, rfl, hterminal⟩, fun _ => rfl⟩)
      · simp only [Option.getD_some, if_neg hterminal] at h
        cases h
        refine Or.inr (Or.inr ⟨rfl, ?_, fun j => find?_put r jobId j _⟩)
        rintro row' ⟨⟩
        exact Bool.eq_false_iff.mpr hterminal

end DetectionJobs.Repository
