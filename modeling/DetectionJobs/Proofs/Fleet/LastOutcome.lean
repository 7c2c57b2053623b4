/-
  DetectionJobs/Proofs/Fleet/LastOutcome.lean
  ===========================================
  **The last recorded outcome of a job stands.**

  Both ends of a job are meant to be final.  But a job that came to an end may be delivered
  again, and then its outcome is written over the one before, even a rejection over the
  predictions.  Nothing else changes the row of such a job: not the end of its attempts, no
  submission, no failed write and no recovery.
-/
import DetectionJobs.Proofs.Fleet.Shapes

namespace DetectionJobs.Fleet

open Worker

variable {f f' : Fleet} {es trace trace' : List Event} {jobId : String}

/-- What the last recorded outcome, if there was one, makes of a row. -/
def Superseded (row : Row) : Option JobResult → Row → Prop
  | none, row' => row' = row
  | some result, row' => ∃ ids now, row' = Repository.recordedRow (some row) result ids now

theorem superseded_of_rewrite {row row' : Row} {new : Option Row}
    (h : Superseded row (outcomes trace jobId).getLast? row')
    (hend : row'.status.isTerminal = true) (hrewrite : Rewrite f es jobId (some row') new) :
    ∃ row'', new = some row'' ∧ Superseded row (outcomes (trace ++ es) jobId).getLast? row'' := by
  rw [outcomes_append]
  cases hrewrite with
  | same hnone =>
    rw [hnone, List.append_nil]
    exact ⟨row', rfl, h⟩
  | noted _ hold => cases hold
  | closed _ hopen =>
    rw [hopen row' rfl] at hend
    cases hend
  | @recorded result ids now hone =>
    refine ⟨_, rfl, ?_⟩
    rw [hone, List.getLast?_concat]
    -- what is written over an earlier outcome leaves nothing of that outcome
    refine ⟨ids, now, ?_⟩
    cases hlast : (outcomes trace jobId).getLast? with
    | none =>
      rw [hlast] at h
      rw [h]
    | some earlier =>
      rw [hlast] at h
      obtain ⟨ids', now', rfl⟩ := h
      rfl

theorem superseded_of_run {allowed : Fleet → Action → Prop} (horderly : Orderly f)
    (h : Run allowed f trace f') {row : Row} (hrow : f.row? jobId = some row)
    (hend : row.status.isTerminal = true) :
    ∃ row', f'.row? jobId = some row' ∧ Superseded row (outcomes trace jobId).getLast? row' := by
  induction h with
  | refl => exact ⟨row, hrow, rfl⟩
  | step hrun _ hstep ih =>
    obtain ⟨row', hrow', hsuperseded⟩ := ih
    obtain ⟨kept, hkept, hterminal⟩ := row_kept horderly hrun hrow
    obtain rfl : kept = row' := Option.some.inj (hkept.symm.trans hrow')
    have hrewrite := rewrite_of_change (change_of_step hstep) jobId
    rw [hrow'] at hrewrite
    exact superseded_of_rewrite hsuperseded (hterminal hend) hrewrite

theorem Superseded.keeps {row row' : Row} {last : Option JobResult}
    (h : Superseded row last row') :
    row'.imageUrl = row.imageUrl ∧ row'.createdAt = row.createdAt := by
  cases last with
  | none =>
    obtain rfl := h
    exact ⟨rfl, rfl⟩
  | some result =>
    obtain ⟨ids, now, rfl⟩ := h
    exact ⟨rfl, rfl⟩

/-- **The last recorded outcome stands.**  A job that came to an end stays at an end and keeps
    its image and the time of its first write.  Nothing but a further outcome of the same job,
    which came out of a detection call for it, changes its row; without one the row stays as it
    is, and otherwise the last one decides about state, error, time and predictions. -/
theorem last_outcome_stands (h : Run Anything start trace f) (h' : Run Anything f trace' f')
    {row : Row} (hrow : f.row? jobId = some row) (hend : row.status.isTerminal = true) :
    (∃ row', f'.row? jobId = some row' ∧ row'.status.isTerminal = true ∧
      row'.imageUrl = row.imageUrl ∧ row'.createdAt = row.createdAt ∧
      Superseded row (outcomes trace' jobId).getLast? row') ∧
    ∀ result ∈ outcomes trace' jobId,
      result.jobId = jobId ∧ Warranted (trace ++ trace') result := by
  have horderly := (orderly_opening _ _).of_run h
  constructor
  · obtain ⟨row', hrow', hsuperseded⟩ := superseded_of_run horderly h' hrow hend
    obtain ⟨kept, hkept, hterminal⟩ := row_kept horderly h' hrow
    obtain rfl : kept = row' := Option.some.inj (hkept.symm.trans hrow')
    obtain ⟨himage, hcreated⟩ := hsuperseded.keeps
    exact ⟨kept, hrow', hterminal hend, himage, hcreated, hsuperseded⟩
  · intro result hresult
    have hwhole : Run Anything start (trace ++ trace') f' := h.trans h'
    refine ⟨jobId_of_mem_outcomes hresult, (warrants_of_run hwhole).recorded jobId result ?_⟩
    rw [outcomes_append]
    exact List.mem_append_right _ hresult

theorem last_outcome_stands_after_rejection :
    ∃ f trace f' trace' row, start.replay? Anything completing = some (f, trace) ∧
      f.replay? Anything rejecting = some (f', trace') ∧ f.row? "job-1" = some row ∧
      row.status.isTerminal = true ∧
      (∃ row', f'.row? "job-1" = some row' ∧ row'.status.isTerminal = true ∧
        row'.imageUrl = row.imageUrl ∧ row'.createdAt = row.createdAt ∧
        Superseded row (outcomes trace' "job-1").getLast? row') ∧
      ∀ result ∈ outcomes trace' "job-1",
        result.jobId = "job-1" ∧ Warranted (trace ++ trace') result := by
  obtain ⟨f, trace, f', trace', row, row', hcompleting, hrejecting, hrow, hcompleted, _⟩ :=
    rejected_after_completion
  have hend : row.status.isTerminal = true := by
    rw [hcompleted]
    rfl
  exact ⟨f, trace, f', trace', row, hcompleting, hrejecting, hrow, hend,
    last_outcome_stands (Machine.run_of_replay hcompleting) (Machine.run_of_replay hrejecting) hrow
      hend⟩

/-- The ends are not final: a completed job whose acknowledgement fails is delivered again and
    then rejected, which costs it its predictions. -/
theorem completed_row_not_final :
    ¬ ∀ (trace trace' : List Event) (f f' : Fleet) (jobId : String) (row : Row),
      Run Anything start trace f → Run Anything f trace' f' → f.row? jobId = some row →
      row.status.isTerminal = true →
      ∃ row', f'.row? jobId = some row' ∧ row'.status = row.status ∧
        (row.status = .completed → row'.predictions = row.predictions) := by
  intro hfinal
  obtain ⟨f, trace, f', trace', row, row', hcompleting, hrejecting, hrow, hcompleted, hrow',
    hfailed⟩ := rejected_after_completion
  have hend : row.status.isTerminal = true := by
    rw [hcompleted]
    rfl
  obtain ⟨kept, hkept, hstatus, _⟩ := hfinal trace trace' f f' "job-1" row
    (Machine.run_of_replay hcompleting) (Machine.run_of_replay hrejecting) hrow hend
  obtain rfl : kept = row' := Option.some.inj (hkept.symm.trans hrow')
  rw [hfailed, hcompleted] at hstatus
  cases hstatus

end DetectionJobs.Fleet
