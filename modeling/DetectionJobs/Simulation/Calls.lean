/-
  DetectionJobs/Simulation/Calls.lean
  ===================================
  **Calls from outside on the virtual clock.**
-/
import DetectionJobs.Http.Api
import DetectionJobs.Simulation.Run

namespace DetectionJobs.Simulation.World

/-! ### The queue -/

def publish (w : World) (jobId imageUrl : String) : World × Except Queue.Fault Unit :=
  let (s, w) := w.supply
  let (b, answer) := Submission.publish w.backend jobId imageUrl s.now
  ({ w with backend := b }, answer)

def pushRaw (w : World) (raw : String) : World := w.withBroker (w.backend.broker.push raw)

/-- Receives an entry and keeps the delivery. -/
def take (w : World) (wait : Nat) : World × Except Queue.Fault (Option Delivery) :=
  match w.receive wait with
  | (w, .ok (some d)) => ({ w with deliveries := w.deliveries ++ [d] }, .ok (some d))
  | other => other

/-- Settles a delivery that was kept. -/
def settle (w : World) (d : Delivery) (s : Queue.Broker.Settlement) :
    World × Except Queue.Fault Unit :=
  let (supply, w) := w.supply
  let (b, answer) := w.backend.broker.trySettle d supply.now s
  (w.withBroker b, answer)

/-- Puts back what is held, and tells how many entries that were. -/
def recover (w : World) : World × Except Queue.Fault Nat :=
  match w.drawRecovery with
  | (true, w) => (w, .error .closed)
  | (false, w) =>
    let (n, b) := w.backend.broker.recover
    (w.withBroker b, .ok n)

/-- Makes publishing and receiving fail, or work again. -/
def setQueueDown (w : World) (isDown : Bool) : World :=
  w.withBroker { w.backend.broker with isDown := isDown }

def failSettlements (w : World) (n : Nat) : World :=
  w.withBroker { w.backend.broker with settleFaults := n }

/-! ### The stored jobs -/

def failRepository (w : World) (n : Nat) : World :=
  w.withRepository { w.backend.repository with faults := n }

/-- Makes a call to the stored jobs. -/
def withJobs (w : World)
    (act : Repository → Worker.Supply → Repository × Except Repository.Fault α) :
    World × Except Repository.Fault α :=
  let (s, w) := w.supply
  let (r, answer) := act w.backend.repository s
  (w.withRepository r, answer)

def createPending (w : World) (jobId imageUrl : String) : World × Except Repository.Fault Unit :=
  w.withJobs fun r s => r.createPending jobId imageUrl s.now

def upsert (w : World) (result : JobResult) : World × Except Repository.Fault Unit :=
  w.withJobs fun r s => r.upsert result s.ids s.now

def markFailed (w : World) (jobId imageUrl reason : String) :
    World × Except Repository.Fault Bool :=
  w.withJobs fun r s => r.markFailed jobId imageUrl reason s.now

def get (w : World) (jobId : String) : World × Except Repository.Fault (Option JobView) :=
  w.withJobs fun r _ => r.get jobId

def lookUp (w : World) (jobId : String) : World × Except Lookup.Fault JobView :=
  let (r, answer) := Lookup.job w.backend.repository jobId
  (w.withRepository r, answer)

/-! ### The service -/

def submit (w : World) (imageUrl : String) : World × Except Submission.Fault Submission.Accepted :=
  let (id, w) := w.drawId
  let (s, w) := w.supply
  let (b, answer) := Submission.submit w.backend w.writePending id.text imageUrl s.now
  ({ w with backend := b }, answer)

def drawIds : Nat → World → List Ulid × World
  | 0, w => ([], w)
  | n + 1, w =>
    let (id, w) := w.drawId
    let (ids, w) := drawIds n w
    (id :: ids, w)

def respond (w : World) (hasMetrics : Bool) (r : Http.Request) : World × Http.Response :=
  let (id, w) := w.drawId
  let (s, w) := w.supply
  let (b, response) := Http.Api.respond ⟨w.writePending, hasMetrics, id.text, s.now⟩ w.backend r
  ({ w with backend := b }, response)

/-! ### Looking on -/

/-- Ten numbers that sum up the world: entries ready, held, acknowledged and dead, rows in
    all and by their state, detection calls, and the clock. -/
def summary (w : World) : List Nat :=
  let b := w.backend.broker
  let r := w.backend.repository
  [b.ready.length, b.inFlight.length, b.acked, (Queue.Broker.envelopes b.dead).length,
    r.rows.length, r.countWith .pending, r.countWith .completed, r.countWith .failed,
    w.detector.calls.length, w.clock]

end DetectionJobs.Simulation.World
