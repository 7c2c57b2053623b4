/-
  DetectionJobs/Simulation/Detector.lean
  ======================================
  **A detection service that follows a script.**

  An image may have steps of its own, which are gone through until the last, which
  repeats.  Any other call takes the next step of the script, and one after the script
  has ended the fallback.
-/
import DetectionJobs.Detection.Answer

namespace DetectionJobs.Simulation

/-- What a call comes to. -/
inductive Act where
  /-- An answer with this body. -/
  | answer (body : String)
  | fault (f : Detection.Fault)
  /-- No answer ever. -/
  | hang
  /-- The caller dies. -/
  | panic
deriving DecidableEq, Repr

/-- An act after some milliseconds. -/
structure Step where
  delay : Nat
  act : Act
deriving DecidableEq, Repr

/-- A call that was made: when, for which image, and its deadline in milliseconds. -/
structure Call where
  time : Nat
  url : String
  deadline : Nat
deriving DecidableEq, Repr

structure Detector where
  /-- The steps of images that have their own. -/
  pinned : List (String × List Step)
  script : List Step
  fallback : Step
  /-- The calls so far, the last one first. -/
  calls : List Call
deriving DecidableEq, Repr

namespace Detector

/-- Takes the first step of an image's own; the last one stays. -/
def takePinned? (url : String) :
    List (String × List Step) → Option (Step × List (String × List Step))
  | [] => none
  | (u, steps) :: rest =>
    if u = url then
      match steps with
      | [] => none
      | [s] => some (s, (u, [s]) :: rest)
      | s :: more => some (s, (u, more) :: rest)
    else (takePinned? url rest).map fun (s, rest) => (s, (u, steps) :: rest)

/-- The step of the next call for an image. -/
def next (d : Detector) (url : String) : Step × Detector :=
  match takePinned? url d.pinned with
  | some (s, pinned) => (s, { d with pinned := pinned })
  | none =>
    match d.script with
    | s :: rest => (s, { d with script := rest })
    | [] => (d.fallback, d)

def call (d : Detector) (c : Call) : Step × Detector :=
  { d with calls := c :: d.calls }.next c.url

end Detector

/-- What a caller gets, at the latest at the deadline: after how many milliseconds, and the
    answer, or none if the caller dies. -/
def Step.outcome (s : Step) (deadline : Span) :
    Nat × Option (Except Detection.Fault (List Prediction)) :=
  let limit := (deadline.nanos + 999999) / 1000000
  let late := (limit, some (Except.error (Detection.Fault.timeout deadline)))
  if limit < s.delay then late
  else match s.act with
    | .answer body => (s.delay, some (Detection.predictionsOf body))
    | .fault f => (s.delay, some (.error f))
    | .panic => (s.delay, none)
    | .hang => late

end DetectionJobs.Simulation
