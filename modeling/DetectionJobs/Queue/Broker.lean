/-
  DetectionJobs/Queue/Broker.lean
  ===============================
  **The queue in memory.**

  An entry waits in `ready`, is held by a worker in `inFlight`, and ends up
  acknowledged, back in `ready` with one more attempt, or in `dead`.  A settlement
  looks its entry up by the text; one that is no longer there is settled all the
  same, so that settling twice does no harm but to write the envelope twice.
-/
import DetectionJobs.Queue.Bell
import DetectionJobs.Queue.Envelope

namespace DetectionJobs.Queue

/-- The lists of the queue, and the faults that are simulated on it. -/
structure Broker where
  /-- Entries that wait, the next one to be delivered first. -/
  ready : List String
  inFlight : List String
  /-- Entries that were given up, the oldest first. -/
  dead : List String
  /-- How many acknowledgements removed an entry. -/
  acked : Nat
  /-- Whether publishing and receiving fail. -/
  isDown : Bool
  /-- How many settlements are still to fail. -/
  settleFaults : Nat
  bell : Bell
deriving DecidableEq, Repr

namespace Broker

def empty : Broker := ⟨[], [], [], 0, false, 0, .silent⟩

/-! ### Entries -/

/-- Adds an entry behind those that wait. -/
def push (b : Broker) (raw : String) : Broker :=
  { b with ready := b.ready ++ [raw], bell := b.bell.ring }

/-- Removes the first entry that is the text; the last entry takes its place. -/
def swapRemove (raw : String) : List String → Option (List String)
  | [] => none
  | entry :: rest =>
    if entry = raw then
      match rest.getLast? with
      | none => some []
      | some last => some (last :: rest.dropLast)
    else (swapRemove raw rest).map (entry :: ·)

/-- Removes a held entry, if it is there. -/
def release (b : Broker) (raw : String) : Broker :=
  match swapRemove raw b.inFlight with
  | some held => { b with inFlight := held }
  | none => b

/-- The next entry, which is held from then on. -/
def takeNext (b : Broker) : Option (String × Broker) :=
  match b.ready with
  | [] => none
  | raw :: rest => some (raw, { b with ready := rest, inFlight := b.inFlight ++ [raw] })

/-! ### Publishing -/

/-- Fails while the broker is down. -/
def check (b : Broker) : Except Fault Unit := if b.isDown then .error .closed else .ok ()

def publish (b : Broker) (jobId imageUrl : String) (now : Instant) : Except Fault Broker := do
  b.check
  let m ← Message.make jobId imageUrl
  return b.push (Envelope.wrap m now).raw

def depth (b : Broker) : Nat := b.ready.length

/-! ### Settling -/

/-- What becomes of a delivery. -/
inductive Settlement where
  | ack
  | requeue (reason : String)
  | deadLetter (reason : String)
deriving DecidableEq, Repr

/-- Settles a delivery; whatever becomes of it, it is no longer held. -/
def settle (b : Broker) (d : Delivery) (now : Instant) : Settlement → Broker
  | .ack =>
    match swapRemove d.raw b.inFlight with
    | some held => { b with inFlight := held, acked := b.acked + 1 }
    | none => b
  | .requeue reason =>
    (b.release d.raw).push ((d.envelope now).retried reason now).raw
  | .deadLetter reason =>
    let b := b.release d.raw
    { b with dead := b.dead ++ [((d.envelope now).retried reason now).raw] }

/-- Settles a delivery unless a fault is due.  Gives the broker after the call and
    whether the call succeeded. -/
def trySettle (b : Broker) (d : Delivery) (now : Instant) (s : Settlement) :
    Broker × Except Fault Unit :=
  match b.settleFaults with
  | n + 1 => ({ b with settleFaults := n }, .error .closed)
  | 0 => (b.settle d now s, .ok ())

/-- Puts every held entry back before those that wait, the one held last first.
    Gives their number. -/
def recover (b : Broker) : Nat × Broker :=
  let back := { b with ready := b.inFlight.reverse ++ b.ready, inFlight := [] }
  (b.inFlight.length, if b.inFlight.isEmpty then back else { back with bell := b.bell.ring })

/-! ### Contents -/

/-- The envelopes among some entries. -/
def envelopes (entries : List String) : List Envelope := entries.filterMap Envelope.ofRaw?

end Broker

end DetectionJobs.Queue
