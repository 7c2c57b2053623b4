/-
  DetectionJobs/Proofs/Crowd/Basic.lean
  =====================================
  **Producers and consumers of one queue on a list store.**

  A crowd is a store with everyone who uses one queue on it.  Every call is a machine that
  sends one request after the other; between any two requests others may send theirs.  The
  store carries each request out whole, a transaction like a single command.  A request may
  also be refused, and then it changes nothing, or be carried out with its reply lost; the
  call that sent it has failed in both cases.

  Whoever opens the queue does so under a name.  Receiving, settling and recovering is for
  consumers; publishing and looking on is open to everyone, under any name.
-/
import DetectionJobs.Proofs.Queue.Carriage
import DetectionJobs.Proofs.Queue.Stores
import DetectionJobs.Proofs.Machine

namespace DetectionJobs.Queue

/-! ### What is asked for -/

/-- The entry that a settlement writes.  Its count of attempts has thirty-two bits, and a
    full one starts again from zero. -/
def nextEntry (raw reason : String) (now : Instant) : String :=
  let e := ((Delivery.ofRaw raw).envelope now).retried reason now
  { e with attempts := e.attempts % 2 ^ 32 }.raw

theorem nextEntry_of_countable {raw : String} (h : Countable raw) (reason : String)
    (now : Instant) : nextEntry raw reason now = retriedRaw raw reason now := by
  rw [nextEntry, Nat.mod_eq_of_lt (attempts_retried_lt reason h), retriedRaw]

theorem bodyOf_nextEntry (raw reason : String) {now : Instant} (hnow : now.IsClock) :
    bodyOf (nextEntry raw reason now) = bodyOf raw := by
  rw [bodyOf, nextEntry, ofRaw_envelope (Nat.mod_lt _ (Nat.two_pow_pos 32)) hnow]
  exact (envelope_ofRaw raw now).2

inductive Order where
  | publish (jobId imageUrl : String)
  | receive (seconds : String)
  /-- Settles the delivery of an entry, whoever received it. -/
  | settle (raw : String) (s : Broker.Settlement)
  | recover
  | depth
  | deadDepth
  | ping

namespace Order

/-- Whether it is for a consumer to ask. -/
def isConsuming : Order → Bool
  | .receive _ | .settle .. | .recover => true
  | _ => false

def settlement (raw : String) (now : Instant) : Broker.Settlement → Remote
  | .ack => .acknowledge raw
  | .requeue reason => .replace raw (nextEntry raw reason now) false
  | .deadLetter reason => .replace raw (nextEntry raw reason now) true

theorem settlement_of_countable {raw : String} (h : Countable raw) (now : Instant)
    (s : Broker.Settlement) : settlement raw now s = .ofSettlement (.ofRaw raw) now s := by
  cases s with
  | ack => rw [settlement, Remote.ofSettlement, ofRaw_raw]
  | requeue reason =>
    rw [settlement, Remote.ofSettlement, ofRaw_raw, nextEntry_of_countable h, retriedRaw]
  | deadLetter reason =>
    rw [settlement, Remote.ofSettlement, ofRaw_raw, nextEntry_of_countable h, retriedRaw]

/-- The operation to carry out, unless the message is refused before anything is sent. -/
def start (now : Instant) : Order → Except Fault Remote
  | .publish jobId imageUrl => Remote.ofMessage jobId imageUrl now
  | .receive seconds => .ok (.receive seconds)
  | .settle raw s => .ok (settlement raw now s)
  | .recover => .ok (.recover 0)
  | .depth => .ok .depth
  | .deadDepth => .ok .deadDepth
  | .ping => .ok .ping

end Order

namespace Remote

/-- The entry in whose place an operation writes another one. -/
def replaced? : Remote → Option String
  | .replace raw .. => some raw
  | _ => none

/-- Whether the operation changes what its consumer holds. -/
def isConsuming : Remote → Bool
  | .receive _ | .acknowledge _ | .replace .. | .recover _ => true
  | _ => false

/-- What is written instead of an entry has the body of the entry. -/
def KeepsBody : Remote → Prop
  | .replace raw next _ => bodyOf next = bodyOf raw
  | _ => True

end Remote

theorem Order.publish_of_start {jobId imageUrl : String} {now : Instant} {op : Remote}
    (h : (publish jobId imageUrl).start now = .ok op) : ∃ raw, op = .publish raw := by
  cases hm : Message.make jobId imageUrl with
  | error f => simp [start, Remote.ofMessage, hm, bind, Except.bind] at h
  | ok m =>
    simp only [start, Remote.ofMessage, hm] at h
    cases h
    exact ⟨_, rfl⟩

theorem Order.keepsBody_of_start {o : Order} {now : Instant} {op : Remote} (hnow : now.IsClock)
    (h : o.start now = .ok op) : op.KeepsBody := by
  cases o with
  | publish jobId imageUrl =>
    obtain ⟨raw, rfl⟩ := publish_of_start h
    trivial
  | settle raw s =>
    cases h
    cases s with
    | ack => trivial
    | requeue reason => exact bodyOf_nextEntry raw reason hnow
    | deadLetter reason => exact bodyOf_nextEntry raw reason hnow
  | _ => cases h; trivial

/-! ### Calls -/

namespace Crowd

inductive Stage where
  | running (op : Remote)
  | answered (a : Remote.Answer)
  | failed
deriving DecidableEq

/-- A call under way, and the name under which the queue was opened for it. -/
structure Call where
  name : String
  stage : Stage
deriving DecidableEq

def Call.op? (c : Call) : Option Remote :=
  match c.stage with
  | .running op => some op
  | _ => none

inductive Fate where
  | answered
  /-- It was carried out, but the reply was lost. -/
  | lost
  | refused
deriving DecidableEq

def Stage.after (fate : Fate) : Remote.Answer ⊕ Remote → Stage
  | .inl a => if fate = .answered then .answered a else .failed
  | .inr op => if fate = .answered then .running op else .failed

inductive Event where
  | pushed (entry : String)
  /-- An acknowledgement removed the entry. -/
  | acked (name entry : String)
  /-- A recovery put the entry back. -/
  | returned (name entry : String)
deriving DecidableEq

/-- What is told of a request that was carried out. -/
def report (name : String) : Remote → Reply → List Event
  | .publish raw, _ => [.pushed raw]
  | .acknowledge raw, .count n => if n = 0 then [] else [.acked name raw]
  | .recover _, .item (some raw) => [.returned name raw]
  | _, _ => []

def openAfter (fate : Fate) (name : String) (opened : List (String × String)) :
    Remote → Reply → List (String × String)
  | .receive _, .item (some raw) =>
    if fate = .answered then opened ++ [(name, raw)] else opened
  | .acknowledge raw, _ => opened.erase (name, raw)
  | .replace raw .., _ => opened.erase (name, raw)
  | .recover _, .item (some raw) => opened.erase (name, raw)
  | _, _ => opened

end Crowd

/-- A store and everyone who uses one queue on it. -/
structure Crowd where
  queue : String
  names : List String
  store : ListStore
  calls : List Crowd.Call
  /-- The deliveries that are open, each with the name of its consumer: they were handed
      out, no settlement of theirs was carried out, and no recovery put them back.  To the
      store, deliveries of one consumer with one text are all the same. -/
  opened : List (String × String)

/-- The entries that wait, are dead or are held by one of these consumers. -/
def Shelves.entries (v : Shelves) (names : List String) : List String :=
  v.ready ++ v.dead ++ names.flatMap v.held

def Shelves.copies (v : Shelves) (names : List String) (body : String) : Nat :=
  ((v.entries names).map bodyOf).count body

namespace Crowd

def shelves (f : Crowd) : Shelves := f.store.shelves f.queue

/-- How many entries of the queue hold a body, wherever they are. -/
def copies (f : Crowd) (body : String) : Nat := f.shelves.copies f.names body

def opening (queue : String) (names : List String) (store : ListStore) : Crowd :=
  ⟨queue, names, store, [], []⟩

/-! ### Steps -/

inductive Action where
  | call (name : String) (order : Order) (now : Instant)
  | send (i : Nat) (fate : Fate)

def step? (f : Crowd) : Action → Option (Crowd × List Event)
  | .call name order now =>
    if now.IsClock ∧ (order.isConsuming = true → name ∈ f.names) then
      let stage := match order.start now with
        | .ok op => .running op
        | .error _ => .failed
      some ({ f with calls := f.calls ++ [⟨name, stage⟩] }, [])
    else none
  | .send i fate => do
    let c ← f.calls[i]?
    let op ← c.op?
    if fate = .refused then
      some ({ f with calls := f.calls.set i ⟨c.name, .failed⟩ }, [])
    else
      let (store, reply) := f.store.serve (op.request (.ofNames f.queue c.name))
      some ({ f with
        store := store
        calls := f.calls.set i ⟨c.name, .after fate (op.next reply)⟩
        opened := openAfter fate c.name f.opened op reply }, report c.name op reply)

/-! ### Runs -/

/-- The steps of a crowd, with themselves and with what they tell for a report. -/
def telling (f : Crowd) (a : Action) : Option (Crowd × List Action × List Event) :=
  (f.step? a).map fun (f', es) => (f', [a], es)

/-- A run of allowed actions, with what it tells. -/
abbrev Run (allowed : Crowd → Action → Prop) (f : Crowd) (actions : List Action)
    (trace : List Event) (f' : Crowd) : Prop :=
  Machine.Run telling allowed f (actions, trace) f'

abbrev replay? (allowed : Crowd → Action → Prop) [∀ f a, Decidable (allowed f a)] (f : Crowd)
    (actions : List Action) : Option (Crowd × List Action × List Event) :=
  Machine.replay? telling allowed f actions

/-- No reply is lost, and only an open delivery is requeued or dead-lettered: one that was
    settled with effect is not settled again, nor one that a recovery put back.
    Acknowledgements may come at any time; one that is late finds nothing. -/
def Careful (f : Crowd) : Action → Prop
  | .call .. => True
  | .send i fate => fate ≠ .lost ∧
    (fate = .answered → ∀ c ∈ f.calls[i]?, ∀ op ∈ c.op?, ∀ raw ∈ op.replaced?,
      (c.name, raw) ∈ f.opened)

/-- The call at a place gets its replies, and its consumer does nothing else that changes
    what it holds. -/
def Undisturbed (i : Nat) (name : String) (f : Crowd) : Action → Prop
  | .call .. => True
  | .send j fate =>
    if j = i then fate = .answered
    else ∀ c ∈ f.calls[j]?, ∀ op ∈ c.op?, op.isConsuming = true → c.name ≠ name

instance (f : Crowd) (a : Action) : Decidable (Careful f a) := by
  cases a <;> unfold Careful <;> infer_instance

instance (i : Nat) (name : String) (f : Crowd) (a : Action) :
    Decidable (Undisturbed i name f a) := by
  cases a <;> unfold Undisturbed <;> infer_instance

variable {allowed : Crowd → Action → Prop} {f f' : Crowd} {actions actions' : List Action}
  {trace : List Event}

/-- **What holds at first and is kept by every step holds of every run.** -/
theorem Run.invariant {P : List Action → List Event → Crowd → Prop} (hstart : P [] [] f)
    (hstep : ∀ actions trace f' a f'' es, Run allowed f actions trace f' →
      P actions trace f' → allowed f' a → f'.step? a = some (f'', es) →
      P (actions ++ [a]) (trace ++ es) f'')
    (h : Run allowed f actions trace f') : P actions trace f' := by
  refine Machine.Run.invariant (P := fun report f => P report.1 report.2 f) hstart
    (fun report f' a f'' more hrun hreport hallowed hnext => ?_) h
  obtain ⟨⟨f₁, es⟩, htaken, heq⟩ := Option.map_eq_some_iff.mp hnext
  cases heq
  exact hstep _ _ _ _ _ _ hrun hreport hallowed htaken

theorem actions_of_replay [∀ f a, Decidable (allowed f a)]
    (h : f.replay? allowed actions = some (f', actions', trace)) : actions' = actions := by
  induction actions generalizing f actions' trace with
  | nil =>
    cases h
    rfl
  | cons a rest ih =>
    obtain ⟨_, f₁, first, ⟨rest', trace'⟩, hstep, hrest, heq⟩ :=
      Machine.replay?_cons_eq_some.mp h
    obtain ⟨_, _, htold⟩ := Option.map_eq_some_iff.mp hstep
    cases htold
    cases heq
    exact congrArg (a :: ·) (ih hrest)

/-! ### What a run tells of bodies -/

/-- How many entries with a body were published. -/
def published (trace : List Event) (body : String) : Nat :=
  trace.countP fun
    | .pushed entry => bodyOf entry = body
    | _ => false

/-- How many entries with a body an acknowledgement removed. -/
def removed (trace : List Event) (body : String) : Nat :=
  trace.countP fun
    | .acked _ entry => bodyOf entry = body
    | _ => false

/-- The entries that recoveries of a consumer put back, in this order. -/
def putBack (name : String) (trace : List Event) : List String :=
  trace.filterMap fun
    | .returned who entry => if who = name then some entry else none
    | _ => none

/-- How many requests the call at a place has sent. -/
def turns (i : Nat) (actions : List Action) : Nat :=
  actions.countP fun
    | .send j _ => j = i
    | _ => false

end Crowd

end DetectionJobs.Queue
