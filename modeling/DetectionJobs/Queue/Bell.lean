/-
  DetectionJobs/Queue/Bell.lean
  =============================
  **Waking those who wait for the queue.**

  Every new entry rings the bell once.  A ring wakes whoever has waited longest;
  when nobody waits it is kept, once, for the next who would.  Whoever leaves
  after being woken and before running passes the ring on.
-/

namespace DetectionJobs.Queue

/-- Who waits, who was woken, and whether a ring is kept. -/
structure Bell where
  kept : Bool
  waiting : List Nat
  woken : List Nat
deriving DecidableEq, Repr

namespace Bell

def silent : Bell := ⟨false, [], []⟩

def ring (b : Bell) : Bell :=
  match b.waiting with
  | [] => { b with kept := true }
  | r :: rest => { b with waiting := rest, woken := b.woken ++ [r] }

/-- Receiver `r` takes the kept ring, or waits.  Tells whether it may go on. -/
def listen (b : Bell) (r : Nat) : Bell × Bool :=
  if b.kept then ({ b with kept := false }, true)
  else ({ b with waiting := b.waiting ++ [r] }, false)

/-- Receiver `r` was woken and runs. -/
def resume (b : Bell) (r : Nat) : Bell := { b with woken := b.woken.erase r }

/-- Receiver `r` waits no longer. -/
def leave (b : Bell) (r : Nat) : Bell :=
  if b.woken.contains r then (b.resume r).ring else { b with waiting := b.waiting.erase r }

end Bell

end DetectionJobs.Queue
