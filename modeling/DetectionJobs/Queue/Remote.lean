/-
  DetectionJobs/Queue/Remote.lean
  ===============================
  **The queue on a list store.**

  New entries are pushed at the head of the list of the queue and taken from its tail.
  A consumer moves an entry into a list of its own, so that the entry outlives the
  consumer.  A settlement removes it from there, and in one transaction with that
  pushes the envelope of the next attempt, if there is one.

  An operation is a machine that sends one request at a time and learns the reply.
-/
import DetectionJobs.Network.Link
import DetectionJobs.Queue.Address
import DetectionJobs.Queue.Broker
import DetectionJobs.Queue.Keys
import DetectionJobs.Queue.ListStore

namespace DetectionJobs.Queue

/-- An operation on the queue, as far as it has come. -/
inductive Remote where
  | publish (raw : String)
  /-- Waits for an entry for a number of seconds. -/
  | receive (seconds : String)
  | acknowledge (raw : String)
  /-- Settles an entry with another envelope, which goes to the queue or to the dead. -/
  | replace (raw next : String) (isDead : Bool)
  /-- Puts back what the consumer holds; so many entries are back already. -/
  | recover (count : Nat)
  | depth
  | deadDepth
  | ping
deriving DecidableEq, Repr

namespace Remote

/-- What an operation answers. -/
inductive Answer where
  | done
  | count (n : Nat)
  | delivery (raw : Option String)
deriving DecidableEq, Repr

/-- The request that an operation sends next. -/
def request (k : Keys) : Remote → Request
  | .publish raw => .single (.pushHead k.ready raw)
  | .receive seconds => .single (.awaitMove k.ready k.processing .tail .head seconds)
  | .acknowledge raw => .single (.removeFirst k.processing raw)
  | .replace raw next isDead =>
    .transaction [.removeFirst k.processing raw,
      .pushHead (if isDead then k.dead else k.ready) next]
  | .recover _ => .single (.move k.processing k.ready .tail .tail)
  | .depth => .single (.length k.ready)
  | .deadDepth => .single (.length k.dead)
  | .ping => .single .ping

/-- What follows a reply: the answer, or more to do. -/
def next : Remote → Reply → Answer ⊕ Remote
  | .receive _, .item v => .inl (.delivery v)
  | .recover n, .item (some _) => .inr (.recover (n + 1))
  | .recover n, _ => .inl (.count n)
  | .depth, .count n => .inl (.count n)
  | .deadDepth, .count n => .inl (.count n)
  | _, _ => .inl .done

/-- Carries an operation out without interruption.  A recovery has as many requests as
    the consumer holds entries, and one that finds none. -/
def run (k : Keys) : (fuel : Nat) → ListStore → Remote → ListStore × Option Answer
  | 0, s, _ => (s, none)
  | fuel + 1, s, op =>
    let (s, reply) := s.serve (op.request k)
    match op.next reply with
    | .inl a => (s, some a)
    | .inr op => run k fuel s op

/-- How many requests an operation needs at most. -/
def requests (k : Keys) (s : ListStore) : Nat := (s.get k.processing).length + 1

/-- Carries an operation out over a link. -/
def perform (k : Keys) (link : Network.Link ListStore) (op : Remote) :
    Except Fault (ListStore × Answer) :=
  match link with
  | .error o => .error (.link o.text)
  | .ok s =>
    match op.run k (requests k s) s with
    | (s, some a) => .ok (s, a)
    | (_, none) => .error .closed

/-- The operation that publishes the message of a job. -/
def ofMessage (jobId imageUrl : String) (now : Instant) : Except Fault Remote := do
  let m ← Message.make jobId imageUrl
  return .publish (Envelope.wrap m now).raw

/-- The operation that settles a delivery. -/
def ofSettlement (d : Delivery) (now : Instant) : Broker.Settlement → Remote
  | .ack => .acknowledge d.raw
  | .requeue reason => .replace d.raw ((d.envelope now).retried reason now).raw false
  | .deadLetter reason => .replace d.raw ((d.envelope now).retried reason now).raw true

end Remote

end DetectionJobs.Queue
