/-
  DetectionJobs/Proofs/Fleet/History.lean
  =======================================
  **Runs that remember every action.**

  The trace of a run tells what was done.  Some statements refer to more than that: to who
  was to blame, to what a party did since a given moment, or to the fleet as it was when an
  entry was written.  A history keeps every action of a run, with the fleet that took it.
-/
import DetectionJobs.Proofs.Fleet.Basic

namespace DetectionJobs.Fleet

/-- The actions of a run, each with the fleet that took it, the oldest first. -/
abbrev Past := List (Fleet × Action)

/-- The steps of a fleet, with themselves for a report. -/
def remembering (f : Fleet) (a : Action) : Option (Fleet × Past) :=
  (f.step? a).map fun (f', _) => (f', [(f, a)])

/-- A run of allowed actions, with its past. -/
abbrev History (allowed : Fleet → Action → Prop) (f : Fleet) (past : Past) (f' : Fleet) : Prop :=
  Machine.Run remembering allowed f past f'

variable {allowed : Fleet → Action → Prop} {f f' f'' g : Fleet} {past : Past}
  {trace : List Event} {a : Action} {es : List Event}

theorem remembering_eq_some :
    f.remembering a = some (f', past) ↔ ∃ es, f.step? a = some (f', es) ∧ past = [(f, a)] := by
  rw [remembering, Option.map_eq_some_iff]
  constructor
  · rintro ⟨⟨f'', es⟩, hstep, heq⟩
    cases heq
    exact ⟨es, hstep, rfl⟩
  · rintro ⟨es, hstep, rfl⟩
    exact ⟨(f', es), hstep, rfl⟩

theorem History.step (h : History allowed f past f') (hallowed : allowed f' a)
    (hstep : f'.step? a = some (f'', es)) : History allowed f (past ++ [(f', a)]) f'' :=
  Machine.Run.step h hallowed (remembering_eq_some.mpr ⟨es, hstep, rfl⟩)

/-! ### Histories and runs -/

/-- The histories are those of the runs. -/
theorem exists_history_iff :
    (∃ past, History allowed f past f') ↔ ∃ trace, Run allowed f trace f' := by
  constructor
  · rintro ⟨past, h⟩
    induction h with
    | refl => exact ⟨[], .refl⟩
    | step _ hallowed hstep ih =>
      obtain ⟨trace, hrun⟩ := ih
      obtain ⟨es, hstep, _⟩ := remembering_eq_some.mp hstep
      exact ⟨_, hrun.step hallowed hstep⟩
  · rintro ⟨trace, h⟩
    induction h with
    | refl => exact ⟨[], .refl⟩
    | step _ hallowed hstep ih =>
      obtain ⟨past, hhistory⟩ := ih
      exact ⟨_, History.step hhistory hallowed hstep⟩

/-- **What holds at first and is kept by every step holds of every history.** -/
theorem History.invariant {P : Past → Fleet → Prop} (hstart : P [] f)
    (hstep : ∀ past f' a f'' es, History allowed f past f' → P past f' → allowed f' a →
      f'.step? a = some (f'', es) → P (past ++ [(f', a)]) f'')
    (h : History allowed f past f') : P past f' := by
  refine Machine.Run.invariant hstart (fun past f' a f'' more hhistory hpast hallowed hnext => ?_) h
  obtain ⟨es, htaken, rfl⟩ := remembering_eq_some.mp hnext
  exact hstep past f' a f'' es hhistory hpast hallowed htaken

/-- A history goes through each of its fleets, which took their actions there. -/
theorem History.split {earlier later : Past}
    (h : History allowed f (earlier ++ (g, a) :: later) f') :
    History allowed f earlier g ∧ allowed g a ∧ ∃ g' es, g.step? a = some (g', es) := by
  generalize hpast : earlier ++ (g, a) :: later = past at h
  induction h generalizing later with
  | refl => exact absurd hpast (List.append_ne_nil_of_right_ne_nil _ (List.cons_ne_nil _ _))
  | @step past more f₁ f₂ a' hhistory hallowed hstep ih =>
    obtain ⟨es, htaken, rfl⟩ := remembering_eq_some.mp hstep
    rcases later.eq_nil_or_concat with rfl | ⟨later, last, rfl⟩
    · have hend : earlier ++ [(g, a)] = past ++ [(f₁, a')] := hpast
      obtain ⟨rfl, heq⟩ := List.append_inj' hend rfl
      cases heq
      exact ⟨hhistory, hallowed, _, _, htaken⟩
    · rw [List.concat_eq_append, ← List.cons_append, ← List.append_assoc] at hpast
      have hend : earlier ++ (g, a) :: later ++ [last] = past ++ [(f₁, a')] := hpast
      exact ih (List.append_inj' hend rfl).1

theorem History.before (h : History allowed f past f') (hmem : (g, a) ∈ past) :
    ∃ earlier, History allowed f earlier g ∧ allowed g a ∧
      ∃ g' es, g.step? a = some (g', es) := by
  obtain ⟨earlier, later, rfl⟩ := List.append_of_mem hmem
  exact ⟨earlier, h.split⟩

/-! ### Histories of given actions -/

/-- The past after these actions, up to the first one that is not possible. -/
def pastOf (f : Fleet) : List Action → Past
  | [] => []
  | a :: rest =>
    match f.step? a with
    | some (f', _) => (f, a) :: pastOf f' rest
    | none => []

theorem history_of_replay [∀ f a, Decidable (allowed f a)] {actions : List Action}
    (h : f.replay? allowed actions = some (f', trace)) :
    History allowed f (pastOf f actions) f' := by
  induction actions generalizing f trace with
  | nil =>
    cases h
    exact .refl
  | cons a rest ih =>
    obtain ⟨hallowed, f₁, es, es', hstep, hrest, -⟩ := Machine.replay?_cons_eq_some.mp h
    rw [pastOf, hstep]
    exact (History.step .refl hallowed hstep).trans (ih hrest)

end DetectionJobs.Fleet
