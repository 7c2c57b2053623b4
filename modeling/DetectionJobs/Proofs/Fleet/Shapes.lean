/-
  DetectionJobs/Proofs/Fleet/Shapes.lean
  ======================================
  **Every row has the shape of its state.**

  A pending row says nothing but that there is a job, a failed one has no predictions, and
  the predictions of a completed one are those of a single detection call for its job.  The
  write that closes a job does not clear its predictions; that a failed row has none rests
  on the shape of pending rows.
-/
import DetectionJobs.Proofs.Fleet.Rows

namespace DetectionJobs

namespace Fleet

open Worker

variable {f f' : Fleet} {es trace trace' : List Event} {jobId : String}

/-! ### The shape of a row -/

/-- The trace tells which detection call the outcome of a job came from. -/
def Warranted (trace : List Event) (result : JobResult) : Prop :=
  match result.status with
  | .pending => False
  | .completed =>
    result.error = none ∧
      ∃ who m, m.jobId = result.jobId ∧ Event.detected who m (.ok result.predictions) ∈ trace
  | .failed =>
    result.predictions = [] ∧
      ∃ who m fault, m.jobId = result.jobId ∧ Event.detected who m (.error fault) ∈ trace ∧
        fault.isRetryable = false ∧ result.error = some fault.message

/-- A row has the shape of its state.  The predictions of a completed job are those of one
    detection call, which was made for a message of that job. -/
def WellFormed (trace : List Event) (jobId : String) (row : Row) : Prop :=
  match row.status with
  | .pending => row.error = none ∧ row.processedAt = none ∧ row.predictions = []
  | .completed =>
    row.processedAt.isSome = true ∧ row.error = none ∧
      ∃ who m ps, m.jobId = jobId ∧ Event.detected who m (.ok ps) ∈ trace ∧
        (row.predictions.map (·.prediction)).Perm ps
  | .failed => row.processedAt.isSome = true ∧ row.error.isSome = true ∧ row.predictions = []

theorem Warranted.mono {result : JobResult} (h : Warranted trace result)
    (hsub : trace ⊆ trace') : Warranted trace' result := by
  unfold Warranted at h ⊢
  split at h
  · exact h
  · obtain ⟨herror, who, m, hjob, hdetected⟩ := h
    exact ⟨herror, who, m, hjob, hsub hdetected⟩
  · obtain ⟨hnone, who, m, fault, hjob, hdetected, hcause⟩ := h
    exact ⟨hnone, who, m, fault, hjob, hsub hdetected, hcause⟩

theorem WellFormed.mono {row : Row} (h : WellFormed trace jobId row)
    (hsub : trace ⊆ trace') : WellFormed trace' jobId row := by
  unfold WellFormed at h ⊢
  split at h
  · exact h
  · obtain ⟨htime, herror, who, m, ps, hjob, hdetected, hperm⟩ := h
    exact ⟨htime, herror, who, m, ps, hjob, hsub hdetected, hperm⟩
  · exact h

theorem wellFormed_pendingRow (imageUrl : String) (now : Instant) :
    WellFormed trace jobId (Repository.pendingRow imageUrl now) :=
  ⟨rfl, rfl, rfl⟩

/-- A row that is closed keeps its predictions; it has none, since its job was pending. -/
theorem wellFormed_closedRow {old : Option Row} (imageUrl reason : String) (now : Instant)
    (hold : ∀ row, old = some row → WellFormed trace jobId row)
    (hopen : ∀ row, old = some row → row.status.isTerminal = false) :
    WellFormed trace jobId (Repository.closedRow old imageUrl reason now) := by
  refine ⟨rfl, rfl, ?_⟩
  cases old with
  | none => rfl
  | some row =>
    have hrow := hold row rfl
    rw [WellFormed, Status.isTerminal_eq_false.mp (hopen row rfl)] at hrow
    exact hrow.2.2

theorem wellFormed_recordedRow {result : JobResult} (old : Option Row) (ids : Nat → Uuid)
    (now : Instant) (h : Warranted trace result) :
    WellFormed trace result.jobId (Repository.recordedRow old result ids now) := by
  unfold Warranted at h
  unfold WellFormed
  show match result.status with
    | .pending => _
    | .completed => _
    | .failed => _
  cases hstatus : result.status with
  | pending =>
    rw [hstatus] at h
    cases h
  | completed =>
    rw [hstatus] at h
    obtain ⟨herror, who, m, hjob, hdetected⟩ := h
    exact ⟨rfl, herror, who, m, result.predictions, hjob, hdetected,
      Repository.stored_perm result.predictions ids now⟩
  | failed =>
    rw [hstatus] at h
    obtain ⟨hnone, who, m, fault, hjob, hdetected, _, herror⟩ := h
    refine ⟨rfl, Option.isSome_iff_exists.mpr ⟨_, herror⟩, ?_⟩
    show Repository.stored result.predictions ids now = []
    simp [hnone, Repository.stored, Repository.byConfidence]

theorem afterSetback_ne_storing (c : Config) (t : Task) (m m' : Message) (s : Setback)
    (result : JobResult) : Task.afterSetback c t m s ≠ .storing m' result := by
  unfold Task.afterSetback
  split
  · exact nofun
  · exact nofun

/-- An outcome comes into the hand of a task with the answer of its detection call. -/
theorem warranted_of_deed {c : Config} {supply : Supply} {who : Badge} {b b' : Backend} {t : Task}
    {next : Option Phase} {m : Message} {result : JobResult}
    (h : Deed c supply who b t b' next es) (hnext : next = some (.storing m result)) :
    Warranted es result := by
  cases h with
  | @heard m' answer =>
    have hphase := Option.some.inj hnext
    cases answer with
    | ok ps =>
      cases hphase
      exact ⟨rfl, who, _, rfl, List.mem_singleton_self _⟩
    | error fault =>
      simp only [Task.afterDetection] at hphase
      split at hphase
      · exact absurd hphase (afterSetback_ne_storing _ _ _ _ _ _)
      · next hfinal =>
        cases hphase
        exact ⟨rfl, who, _, fault, rfl, List.mem_singleton_self _,
          Bool.eq_false_iff.mpr hfinal, rfl⟩
  | unrecorded => exact absurd (Option.some.inj hnext) (afterSetback_ne_storing _ _ _ _ _ _)
  | unsettled _ _ _ hgoing =>
    rcases hgoing with rfl | rfl
    · cases hnext
    · cases hnext
  | _ => cases hnext

/-- Rows have their shape, and what tasks have in hand or have recorded is warranted. -/
structure Warrants (trace : List Event) (f : Fleet) : Prop where
  row : ∀ jobId row, f.row? jobId = some row → WellFormed trace jobId row
  inHand : ∀ result, f.InHand result → Warranted trace result
  recorded : ∀ jobId, ∀ result ∈ outcomes trace jobId, Warranted trace result

theorem warrants_start : Warrants [] start where
  row := by rintro jobId row ⟨⟩
  inHand := by rintro result ⟨who, t, m, ⟨member, hmember, _⟩, _⟩; cases hmember
  recorded := by rintro jobId result ⟨⟩

/-- What a task has in hand after a step it had before, or it just got the answer. -/
theorem inHand_of_change (h : Change f f' es) {result : JobResult} (hresult : f'.InHand result) :
    f.InHand result ∨ Warranted es result := by
  obtain ⟨who, t, m, hlive, hphase⟩ := hresult
  cases h with
  | quiet _ _ htasks | noted _ _ _ htasks | dismissed _ _ _ htasks | published _ _ _ _ htasks
  | pushed _ _ _ htasks | recovered _ _ htasks =>
    exact Or.inl ⟨who, t, m, htasks who t hlive, hphase⟩
  | handed _ _ _ htasks =>
    rcases htasks who t hlive with hold | ⟨_, rfl⟩
    · exact Or.inl ⟨who, t, m, hold, hphase⟩
    · cases hphase
  | worked _ hdeed htasks =>
    rcases htasks who t hlive with hold | ⟨phase, hnext, _, rfl⟩
    · exact Or.inl ⟨who, t, m, hold, hphase⟩
    · exact Or.inr (warranted_of_deed hdeed (hnext.trans (congrArg some hphase)))

theorem Warrants.of_change (h : Warrants trace f) (hchange : Change f f' es) :
    Warrants (trace ++ es) f' where
  row := by
    intro jobId row hrow
    have hold : ∀ row, f.row? jobId = some row → WellFormed (trace ++ es) jobId row :=
      fun row hrow => (h.row jobId row hrow).mono (List.subset_append_left trace es)
    have hrewrite := rewrite_of_change hchange jobId
    rw [hrow] at hrewrite
    generalize hbefore : f.row? jobId = old at hrewrite hold
    generalize hafter : some row = new at hrewrite
    cases hrewrite with
    | same => exact hold row hafter.symm
    | noted =>
      cases hafter
      exact wellFormed_pendingRow ..
    | closed _ hopen =>
      cases hafter
      exact wellFormed_closedRow _ _ _ hold hopen
    | recorded _ hjob hresult =>
      cases hafter
      subst hjob
      exact wellFormed_recordedRow _ _ _
        ((h.inHand _ hresult).mono (List.subset_append_left trace es))
  inHand := by
    intro result hresult
    rcases inHand_of_change hchange hresult with hold | hnew
    · exact (h.inHand result hold).mono (List.subset_append_left trace es)
    · exact hnew.mono (List.subset_append_right trace es)
  recorded := by
    intro jobId result hresult
    rw [outcomes_append] at hresult
    rcases List.mem_append.mp hresult with hold | hnew
    · exact (h.recorded jobId result hold).mono (List.subset_append_left trace es)
    · have hresult := (rewrite_of_change hchange jobId).inHand hnew
      exact (h.inHand result hresult).mono (List.subset_append_left trace es)

theorem warrants_of_run {allowed : Fleet → Action → Prop} (h : Run allowed start trace f) :
    Warrants trace f :=
  h.invariant (P := Warrants) warrants_start
    fun _ _ _ _ _ _ hwarrants _ hstep => hwarrants.of_change (change_of_step hstep)

/-- **Rows are well-formed and stay.**  In every run, whatever goes wrong, a row has the shape
    of its state, and from then on it neither disappears nor becomes pending again. -/
theorem rows_well_formed (h : Run Anything start trace f) (h' : Run Anything f trace' f')
    {row : Row} (hrow : f.row? jobId = some row) :
    WellFormed trace jobId row ∧
      ∃ row', f'.row? jobId = some row' ∧ (row.status ≠ .pending → row'.status ≠ .pending) := by
  obtain ⟨row', hrow', hterminal⟩ := row_kept ((orderly_opening _ _).of_run h) h' hrow
  refine ⟨(warrants_of_run h).row jobId row hrow, row', hrow', fun hended hpending => hended ?_⟩
  have hopen : ¬ row'.status.isTerminal = true :=
    Bool.eq_false_iff.mp (Status.isTerminal_eq_false.mpr hpending)
  exact Status.isTerminal_eq_false.mp (Bool.eq_false_iff.mpr (mt hterminal hopen))

theorem rows_well_formed_after_rejection :
    ∃ f trace f' trace' row, start.replay? Anything completing = some (f, trace) ∧
      f.replay? Anything rejecting = some (f', trace') ∧ f.row? "job-1" = some row ∧
      WellFormed trace "job-1" row ∧
      ∃ row', f'.row? "job-1" = some row' ∧ (row.status ≠ .pending → row'.status ≠ .pending) := by
  obtain ⟨f, trace, f', trace', row, row', hcompleting, hrejecting, hrow, _⟩ :=
    rejected_after_completion
  exact ⟨f, trace, f', trace', row, hcompleting, hrejecting, hrow,
    rows_well_formed (Machine.run_of_replay hcompleting) (Machine.run_of_replay hrejecting) hrow⟩

end Fleet

end DetectionJobs
