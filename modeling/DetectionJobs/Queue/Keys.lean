/-
  DetectionJobs/Queue/Keys.lean
  =============================
  **The names of the lists that hold a queue on a remote store.**
-/

namespace DetectionJobs.Queue

/-- The lists of one queue as one consumer sees them. -/
structure Keys where
  ready : String
  processing : String
  dead : String
deriving DecidableEq, Repr

/-- Every consumer of a queue holds its deliveries in a list of its own. -/
def Keys.ofNames (queue consumer : String) : Keys :=
  ⟨queue, queue ++ ":processing:" ++ consumer, queue ++ ":dead"⟩

end DetectionJobs.Queue
