/-
  DetectionJobs/Service/Metrics.lean
  ==================================
  **Counters of what the service did.**

  A counter appears among the samples once it counted something.
-/

namespace DetectionJobs

/-- How a delivery ended. -/
inductive Outcome where
  | completed
  | failed
  | dropped
  | requeued
  | deadLettered
  | unsettled
deriving DecidableEq, Repr

namespace Outcome

def all : List Outcome := [.completed, .deadLettered, .dropped, .failed, .requeued, .unsettled]

def name : Outcome → String
  | .completed => "Completed"
  | .failed => "Failed"
  | .dropped => "Dropped"
  | .requeued => "Requeued"
  | .deadLettered => "DeadLettered"
  | .unsettled => "Unsettled"

def counter : Outcome → String
  | .completed => "jobs_completed_total"
  | .failed => "jobs_failed_total"
  | .dropped => "jobs_dropped_total"
  | .requeued => "jobs_requeued_total"
  | .deadLettered => "jobs_dead_lettered_total"
  | .unsettled => "jobs_unsettled_total"

end Outcome

/-- How often each outcome occurred. -/
structure Tally where
  completed : Nat := 0
  failed : Nat := 0
  dropped : Nat := 0
  requeued : Nat := 0
  deadLettered : Nat := 0
  unsettled : Nat := 0
deriving DecidableEq, Repr

namespace Tally

def get (t : Tally) : Outcome → Nat
  | .completed => t.completed
  | .failed => t.failed
  | .dropped => t.dropped
  | .requeued => t.requeued
  | .deadLettered => t.deadLettered
  | .unsettled => t.unsettled

def add (t : Tally) : Outcome → Tally
  | .completed => { t with completed := t.completed + 1 }
  | .failed => { t with failed := t.failed + 1 }
  | .dropped => { t with dropped := t.dropped + 1 }
  | .requeued => { t with requeued := t.requeued + 1 }
  | .deadLettered => { t with deadLettered := t.deadLettered + 1 }
  | .unsettled => { t with unsettled := t.unsettled + 1 }

@[simp] theorem get_add_self (t : Tally) (o : Outcome) : (t.add o).get o = t.get o + 1 := by
  cases o <;> rfl

theorem get_add_of_ne (t : Tally) {o p : Outcome} (h : p ≠ o) : (t.add o).get p = t.get p := by
  cases o <;> cases p <;> first | rfl | exact absurd rfl h

end Tally

/-- What was counted since the start of the service. -/
structure Metrics where
  submitted : Nat := 0
  /-- Detection calls that came to an end. -/
  detections : Nat := 0
  outcomes : Tally := {}
  /-- The depth of the queue when it was last looked at. -/
  depth : Option Nat := none
deriving DecidableEq, Repr

namespace Metrics

/-- A counter, a gauge or a summary that has samples. -/
structure Series where
  name : String
  kind : String
  /-- What follows the name in the line of the sample. -/
  suffix : String
  value : Nat
deriving DecidableEq, Repr

/-- What has been counted, in alphabetical order. -/
def series (m : Metrics) : List Series :=
  let counted (name : String) (n : Nat) : List Series :=
    if n = 0 then [] else [⟨name, "counter", "", n⟩]
  (if m.detections = 0 then []
    else [⟨"detection_duration_seconds", "summary", "_count", m.detections⟩]) ++
    counted Outcome.completed.counter m.outcomes.completed ++
    counted Outcome.deadLettered.counter m.outcomes.deadLettered ++
    counted Outcome.dropped.counter m.outcomes.dropped ++
    counted Outcome.failed.counter m.outcomes.failed ++
    counted Outcome.requeued.counter m.outcomes.requeued ++
    counted "jobs_submitted_total" m.submitted ++
    counted Outcome.unsettled.counter m.outcomes.unsettled ++
    (m.depth.map fun n => ⟨"queue_depth", "gauge", "", n⟩).toList

/-- The samples as a page: each after a line that tells its kind. -/
def page (m : Metrics) : String :=
  String.join (m.series.map fun s =>
    "# TYPE " ++ s.name ++ " " ++ s.kind ++ "\n" ++ s.name ++ s.suffix ++ " " ++ toString s.value
      ++ "\n\n")

end Metrics

end DetectionJobs
