/-
  DetectionJobs/Proofs/Machine.lean
  =================================
  **Machines that take one action after the other.**

  A machine is given by what it does with an action, if the action is possible, and by what it
  reports of that.  The actions of a run may be restricted further.  What the steps of a run
  report is put together in their order: a list of events, a number, or both of two reports.
-/
namespace DetectionJobs

/-- What steps report, put together in the order of the steps. -/
class Reports (ρ : Type) where
  /-- What is reported if nothing is done. -/
  blank : ρ
  join : ρ → ρ → ρ
  blank_join (r : ρ) : join blank r = r
  join_blank (r : ρ) : join r blank = r
  join_assoc (r₁ r₂ r₃ : ρ) : join (join r₁ r₂) r₃ = join r₁ (join r₂ r₃)

namespace Reports

instance {ε : Type} : Reports (List ε) where
  blank := []
  join r r' := r ++ r'
  blank_join := List.nil_append
  join_blank := List.append_nil
  join_assoc := List.append_assoc

instance : Reports Nat where
  blank := 0
  join r r' := r + r'
  blank_join := Nat.zero_add
  join_blank := Nat.add_zero
  join_assoc := Nat.add_assoc

instance {ρ ρ' : Type} [Reports ρ] [Reports ρ'] : Reports (ρ × ρ') where
  blank := (blank, blank)
  join r r' := (join r.1 r'.1, join r.2 r'.2)
  blank_join r := by rw [blank_join, blank_join]
  join_blank r := by rw [join_blank, join_blank]
  join_assoc r₁ r₂ r₃ := by rw [join_assoc, join_assoc]

end Reports

/-- What is done with an action, if it is possible, and its report. -/
abbrev Machine (σ α ρ : Type) := σ → α → Option (σ × ρ)

/-- Whatever is possible is allowed. -/
def Anything {σ α : Type} (_ : σ) (_ : α) : Prop := True

instance {σ α : Type} (s : σ) (a : α) : Decidable (Anything s a) := .isTrue trivial

namespace Machine

variable {σ α ρ : Type} [Reports ρ] {machine : Machine σ α ρ} {allowed : σ → α → Prop}
  {s s' s'' : σ} {report report' : ρ}

/-- A run of allowed actions, with its report. -/
inductive Run (machine : Machine σ α ρ) (allowed : σ → α → Prop) (s : σ) : ρ → σ → Prop where
  | refl : Run machine allowed s Reports.blank s
  | step {report more : ρ} {s' s'' : σ} {a : α} :
      Run machine allowed s report s' → allowed s' a → machine s' a = some (s'', more) →
      Run machine allowed s (Reports.join report more) s''

theorem Run.trans (h : Run machine allowed s report s') (h' : Run machine allowed s' report' s'') :
    Run machine allowed s (Reports.join report report') s'' := by
  induction h' with
  | refl =>
    rw [Reports.join_blank]
    exact h
  | step _ hallowed hstep ih =>
    rw [← Reports.join_assoc]
    exact ih.step hallowed hstep

/-- **What holds at first and is kept by every step holds of every run.** -/
theorem Run.invariant {P : ρ → σ → Prop} (hstart : P Reports.blank s)
    (hstep : ∀ report s' a s'' more, Run machine allowed s report s' → P report s' →
      allowed s' a → machine s' a = some (s'', more) → P (Reports.join report more) s'')
    (h : Run machine allowed s report s') : P report s' := by
  induction h with
  | refl => exact hstart
  | step hrun hallowed hnext ih => exact hstep _ _ _ _ _ hrun ih hallowed hnext

/-- Takes actions one after the other, if all of them are allowed and possible. -/
def replay? (machine : Machine σ α ρ) (allowed : σ → α → Prop) [∀ s a, Decidable (allowed s a)]
    (s : σ) : List α → Option (σ × ρ)
  | [] => some (s, Reports.blank)
  | a :: rest =>
    if allowed s a then do
      let (s', report) ← machine s a
      let (s'', more) ← replay? machine allowed s' rest
      some (s'', Reports.join report more)
    else none

theorem replay?_cons_eq_some [∀ s a, Decidable (allowed s a)] {a : α} {rest : List α} :
    machine.replay? allowed s (a :: rest) = some (s', report) ↔
      allowed s a ∧ ∃ s₁ first more, machine s a = some (s₁, first) ∧
        machine.replay? allowed s₁ rest = some (s', more) ∧ Reports.join first more = report := by
  rw [replay?, Option.ite_none_right_eq_some]
  refine and_congr_right fun _ => ?_
  constructor
  · intro h
    obtain ⟨⟨s₁, first⟩, hstep, h⟩ := Option.bind_eq_some_iff.mp h
    obtain ⟨⟨s₂, more⟩, hrest, h⟩ := Option.bind_eq_some_iff.mp h
    cases h
    exact ⟨s₁, first, more, hstep, hrest, rfl⟩
  · rintro ⟨s₁, first, more, hstep, hrest, rfl⟩
    exact Option.bind_eq_some_iff.mpr
      ⟨(s₁, first), hstep, Option.bind_eq_some_iff.mpr ⟨(s', more), hrest, rfl⟩⟩

/-- What can be replayed is a run. -/
theorem run_of_replay [∀ s a, Decidable (allowed s a)] {actions : List α}
    (h : machine.replay? allowed s actions = some (s', report)) :
    Run machine allowed s report s' := by
  induction actions generalizing s report with
  | nil =>
    cases h
    exact .refl
  | cons a rest ih =>
    obtain ⟨hallowed, s₁, first, more, hstep, hrest, rfl⟩ := replay?_cons_eq_some.mp h
    have hfirst : Run machine allowed s (Reports.join Reports.blank first) s₁ :=
      Run.refl.step hallowed hstep
    rw [Reports.blank_join] at hfirst
    exact hfirst.trans (ih hrest)

end Machine

end DetectionJobs
