/-
  DetectionJobs/Queue/Receiver.lean
  =================================
  **Waiting for an entry.**

  A receiver looks for an entry, and if there is none it listens to the bell.  A ring
  makes it look again, since another receiver may have been quicker; when its time is
  up it leaves with nothing.
-/
import DetectionJobs.Queue.Broker

namespace DetectionJobs.Queue

/-- How far a call that receives is. -/
inductive Receiver where
  | looking
  /-- There was no entry; the bell is still to be heard. -/
  | listening
  | waiting
  | received (raw : String)
  | expired
deriving DecidableEq, Repr

namespace Receiver

/-- A call begins, unless the broker is down. -/
def begin (b : Broker) : Except Fault Receiver := b.check.map fun _ => .looking

/-- Takes the next entry, if there is one. -/
def look (b : Broker) : Broker × Receiver :=
  match b.takeNext with
  | some (raw, b) => (b, .received raw)
  | none => (b, .listening)

/-- Hears a ring that was kept, or waits for one. -/
def listen (number : Nat) (b : Broker) : Broker × Receiver :=
  let (bell, heard) := b.bell.listen number
  ({ b with bell := bell }, if heard then .looking else .waiting)

/-- Goes on after a ring. -/
def resume (number : Nat) (b : Broker) : Broker × Receiver :=
  ({ b with bell := b.bell.resume number }, .looking)

/-- Gives up the place at the bell. -/
def leave (number : Nat) (b : Broker) : Broker := { b with bell := b.bell.leave number }

/-- Whether a ring was meant for this receiver. -/
def isWoken (number : Nat) (b : Broker) : Bool := b.bell.woken.contains number

/-- Looks and listens until there is an entry or nothing is left but to wait.  No more
    than one ring is kept, so that two rounds are enough. -/
def settle (number : Nat) (b : Broker) : Broker × Receiver :=
  let round (b : Broker) : Broker × Receiver :=
    match look b with
    | (b, .listening) => listen number b
    | found => found
  match round b with
  | (b, .looking) => round b
  | found => found

end Receiver

end DetectionJobs.Queue
