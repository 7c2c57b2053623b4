/-
  DetectionJobs/Proofs/Fleet/Rows.lean
  ====================================
  **What becomes of the rows.**

  A step rewrites the row of a job in one of four ways.  A row that is there stays there,
  and a job that came to an end stays at an end, though it need not be the same one.
-/
import DetectionJobs.Proofs.Fleet.Entries

namespace DetectionJobs.Fleet

open Worker

/-! ### Rewriting a row -/

/-- The outcomes of a job that a trace tells were recorded, the last one at the end. -/
def outcomes (trace : List Event) (jobId : String) : List JobResult :=
  trace.filterMap fun
    | .recorded _ result => if result.jobId = jobId then some result else none
    | _ => none

theorem outcomes_append (trace trace' : List Event) (jobId : String) :
    outcomes (trace ++ trace') jobId = outcomes trace jobId ++ outcomes trace' jobId :=
  List.filterMap_append

theorem jobId_of_mem_outcomes {trace : List Event} {jobId : String} {result : JobResult}
    (h : result ∈ outcomes trace jobId) : result.jobId = jobId := by
  obtain ⟨event, _, hevent⟩ := List.mem_filterMap.mp h
  split at hevent
  · next who recorded =>
    obtain ⟨hjob, heq⟩ := Option.ite_none_right_eq_some.mp hevent
    cases heq
    exact hjob
  · cases hevent

/-- A task is about to record the outcome of a job. -/
def InHand (f : Fleet) (result : JobResult) : Prop :=
  ∃ who t m, f.Live who t ∧ t.phase = .storing m result

/-- What a step makes of the row of a job. -/
inductive Rewrite (f : Fleet) (es : List Event) (jobId : String) (old : Option Row) :
    Option Row → Prop where
  | same (hnone : outcomes es jobId = []) : Rewrite f es jobId old old
  | noted {imageUrl : String} {now : Instant} (hnone : outcomes es jobId = [])
      (hold : old = none) : Rewrite f es jobId old (some (Repository.pendingRow imageUrl now))
  | closed {imageUrl reason : String} {now : Instant} (hnone : outcomes es jobId = [])
      (hopen : ∀ row, old = some row → row.status.isTerminal = false) :
      Rewrite f es jobId old (some (Repository.closedRow old imageUrl reason now))
  | recorded {result : JobResult} {ids : Nat → Uuid} {now : Instant}
      (hone : outcomes es jobId = [result]) (hjob : result.jobId = jobId)
      (hresult : f.InHand result) :
      Rewrite f es jobId old (some (Repository.recordedRow old result ids now))

variable {f f' : Fleet} {es trace trace' : List Event} {jobId : String}

theorem rewrite_of_deed {c : Config} {supply : Supply} {who : Badge} {t : Task} {b' : Backend}
    {next : Option Phase} (hlive : f.Live who t)
    (h : Deed c supply who f.backend t b' next es) (jobId : String) :
    Rewrite f es jobId (f.row? jobId) (b'.repository.find? jobId) := by
  cases h with
  | @recorded m result r hphase hcall =>
    rcases Repository.find?_upsert hcall with ⟨_, hfault, _⟩ | ⟨_, hrows⟩
    · cases hfault
    · show Rewrite f _ jobId _ (r.find? jobId)
      rw [hrows]
      split
      · next hjob =>
        subst hjob
        exact .recorded (by simp [outcomes]) rfl ⟨who, t, m, hlive, hphase⟩
      · next hjob => exact .same (by simp [outcomes, Ne.symm hjob])
  | @unrecorded m result r fault hphase hcall =>
    rcases Repository.find?_upsert hcall with ⟨_, _, hrows⟩ | ⟨hok, _⟩
    · show Rewrite f _ jobId _ (r.find? jobId)
      rw [hrows]
      exact .same rfl
    · cases hok
  | @closed m reason r answer hphase hcall =>
    show Rewrite f _ jobId _ (r.find? jobId)
    rcases Repository.find?_markFailed hcall with
      ⟨_, _, hrows⟩ | ⟨_, _, hrows⟩ | ⟨_, hopen, hrows⟩
    · rw [hrows]
      exact .same rfl
    · rw [hrows]
      exact .same rfl
    · rw [hrows]
      split
      · next hjob =>
        subst hjob
        exact .closed rfl hopen
      · exact .same rfl
  | @settled s metrics hphase =>
    refine .same ?_
    cases s.settlement <;> rfl
  | _ => exact .same rfl

/-- **Every step rewrites the row of a job in one of these ways.** -/
theorem rewrite_of_change (h : Change f f' es) (jobId : String) :
    Rewrite f es jobId (f.row? jobId) (f'.row? jobId) := by
  cases h with
  | noted _ hnone hrows =>
    rw [hrows]
    split
    · next hjob =>
      subst hjob
      exact .noted rfl hnone
    · exact .same rfl
  | dismissed _ hopen hrows =>
    rw [hrows]
    split
    · next hjob =>
      subst hjob
      exact .closed rfl hopen
    · exact .same rfl
  | worked hlive hdeed => exact rewrite_of_deed hlive hdeed jobId
  | quiet _ hrows | published _ _ _ hrows | pushed _ _ hrows | recovered _ hrows
  | handed _ _ hrows =>
    rw [hrows jobId]
    exact .same rfl

/-- What is recorded was in the hand of a task. -/
theorem Rewrite.inHand {old new : Option Row} (h : Rewrite f es jobId old new)
    {result : JobResult} (hresult : result ∈ outcomes es jobId) : f.InHand result := by
  cases h with
  | same hnone | noted hnone | closed hnone =>
    rw [hnone] at hresult
    cases hresult
  | recorded hone _ hinHand =>
    rw [hone] at hresult
    obtain rfl := List.mem_singleton.mp hresult
    exact hinHand

/-- A row stays, and an end that was reached stays an end. -/
theorem Rewrite.keeps {row : Row} {new : Option Row} (h : Rewrite f es jobId (some row) new)
    (horderly : Orderly f) :
    ∃ row', new = some row' ∧ (row.status.isTerminal = true → row'.status.isTerminal = true) := by
  cases h with
  | same => exact ⟨row, rfl, id⟩
  | noted _ hold => cases hold
  | closed => exact ⟨_, rfl, fun _ => rfl⟩
  | recorded _ _ hresult =>
    obtain ⟨who, t, m, hlive, hphase⟩ := hresult
    have hfits := (horderly.task who t hlive).phase
    rw [hphase] at hfits
    exact ⟨_, rfl, fun _ => hfits.2.2⟩

/-- **No row disappears, and no job comes back from its end.** -/
theorem row_kept {allowed : Fleet → Action → Prop} (horderly : Orderly f)
    (h : Run allowed f trace f') {row : Row} (hrow : f.row? jobId = some row) :
    ∃ row', f'.row? jobId = some row' ∧
      (row.status.isTerminal = true → row'.status.isTerminal = true) := by
  induction h with
  | refl => exact ⟨row, hrow, id⟩
  | step hrun _ hstep ih =>
    obtain ⟨row', hrow', hterminal⟩ := ih
    have hrewrite := rewrite_of_change (change_of_step hstep) jobId
    rw [hrow'] at hrewrite
    obtain ⟨row'', hrow'', hterminal'⟩ := hrewrite.keeps (horderly.of_run hrun)
    exact ⟨row'', hrow'', fun h => hterminal' (hterminal h)⟩

/-! ### A job that is rejected after it was completed -/

/-- A job is submitted and completed; its delivery is not acknowledged yet. -/
def completing : List Action :=
  submitting ++ beginning ++
    handling 0 (.ok [⟨.zero, .zero, .zero, .zero, .zero, "cat", 0⟩])

/-- The acknowledgement keeps failing, the entry is put back, and when it is handed out again
    the detection service rejects the image. -/
def rejecting : List Action :=
  .disturb false 3 0 :: [Shift.TaskMove.work, .wake, .work, .wake, .work].map (.task ⟨0, 0⟩ noon) ++
    taking [.begin, .join, .recover false] ++ handling 1 (.error (.rejected 404 "gone"))

theorem rejected_after_completion :
    ∃ f trace f' trace' row row', start.replay? Anything completing = some (f, trace) ∧
      f.replay? Anything rejecting = some (f', trace') ∧
      f.row? "job-1" = some row ∧ row.status = .completed ∧
      f'.row? "job-1" = some row' ∧ row'.status = .failed := by
  have hstates : (do
      let first ← start.replay? Anything completing
      let second ← first.1.replay? Anything rejecting
      let row ← first.1.row? "job-1"
      let row' ← second.1.row? "job-1"
      some (row.status, row'.status)) = some (.completed, .failed) := by decide +kernel
  obtain ⟨⟨f, trace⟩, hcompleting, hstates⟩ := Option.bind_eq_some_iff.mp hstates
  obtain ⟨⟨f', trace'⟩, hrejecting, hstates⟩ := Option.bind_eq_some_iff.mp hstates
  obtain ⟨row, hrow, hstates⟩ := Option.bind_eq_some_iff.mp hstates
  obtain ⟨row', hrow', hstates⟩ := Option.bind_eq_some_iff.mp hstates
  obtain ⟨hcompleted, hfailed⟩ := Prod.mk.inj (Option.some.inj hstates)
  exact ⟨f, trace, f', trace', row, row', hcompleting, hrejecting, hrow, hcompleted, hrow',
    hfailed⟩

end DetectionJobs.Fleet
