/-
  DetectionJobs/Proofs/Worker/Drain.lean
  ======================================
  **Receiving and handling until the queue is empty.**

  Entries are received and handled one after the other.  A message has as many deliveries left
  as attempts are allowed and not yet counted in its entry, but at least one.  Each delivery
  takes one of them away, since an entry that goes back to the queue counts one attempt more;
  so the deliveries that are left, over all entries that wait, are what the drain uses up.

  An entry that goes back is written anew and waits behind all others.  To speak of what
  becomes of a message, messages have numbers, and beside the entries that wait stands the
  line of their numbers.
-/
import Mathlib.Algebra.GroupWithZero.Nat
import Mathlib.Data.List.Forall2
import Mathlib.Data.List.Nodup
import DetectionJobs.Proofs.Worker.Effects

namespace DetectionJobs.Worker

namespace Bench

variable {c : Config} {x : Outside} {r r' : Repository} {m : Message} {setback : Setback}
  {errands tried : List Errand}

/-- What is to be recorded is no setback. -/
theorem Finding.setback?_eq_none {answer : Except Detection.Fault (List Prediction)}
    {result : JobResult} (h : Finding m answer result) :
    (Errand.detect m answer).setback? = none := by
  cases h with
  | found => rfl
  | rejected _ hfinal => exact if_neg (Bool.eq_false_iff.mp hfinal)

/-- The calls of a setback tell of it, whatever comes after them. -/
theorem SetBack.setback?_eq (h : SetBack x c r m setback errands r') (more : List Errand) :
    (errands ++ more).findSome? Errand.setback? = some setback := by
  cases h with
  | @detection f _ hretryable =>
    have hfirst : (Errand.detect m (.error f)).setback? = some (.detection f) := if_pos hretryable
    rw [List.singleton_append, List.findSome?_cons, hfirst]
  | repository hfinding =>
    rw [List.cons_append, List.findSome?_cons, hfinding.setback?_eq_none]
    rfl

theorem setback?_of_settles {settlement : Queue.Broker.Settlement}
    (hall : ∀ e ∈ tried, ∃ answer, e = .settle settlement answer) :
    tried.findSome? Errand.setback? = none := by
  refine List.findSome?_eq_none_iff.mpr fun e he => ?_
  obtain ⟨answer, rfl⟩ := hall e he
  rfl

end Bench

/-- What a delivery of a drain meets with. -/
structure Circumstances extends Outside where
  isClock : ∀ i, (draw i).now.IsClock
  /-- How many calls to the stored jobs are to fail from then on. -/
  faults : Nat

/-- A delivery that was handled. -/
structure Visit where
  /-- The message that it was for. -/
  number : Nat
  entry : String
  /-- Why the attempt failed, if it did and may succeed later. -/
  setback : Option Setback
  detections : Nat
  outcome : Option Outcome
  /-- What it added to the dead entries. -/
  buried : List String

structure Drain where
  /-- The messages of the entries that wait. -/
  line : List Nat
  backend : Backend
  ledger : Ledger
  visits : List Visit

namespace Drain

def start (b : Backend) (l : Ledger) : Drain := ⟨List.range b.broker.ready.length, b, l, []⟩

/-- Enters a delivery that was handled, and what the queue was before that.  If an entry went
    back, it waits in the line for the same message. -/
def enter (s : Drain) (b : Queue.Broker) (entry : String) (d : Bench) : Drain where
  line := s.line.tail ++
    List.replicate (d.backend.broker.ready.length - b.ready.length) (s.line.headD 0)
  backend := d.backend
  ledger := d.ledger
  visits := s.visits ++
    [{ number := s.line.headD 0
       entry := entry
       setback := d.setback?
       detections := d.detections
       outcome := d.task.outcome?
       buried := d.backend.broker.dead.drop b.dead.length }]

/-- The work on the delivery of an entry that was taken from the queue. -/
def handled (c : Config) (x : Circumstances) (s : Drain) (b : Queue.Broker) (raw : String) :
    Bench :=
  let repository := { s.backend.repository with faults := x.faults }
  Bench.handle c x.toOutside { s.backend with broker := b, repository := repository } s.ledger raw

/-- Receives the next entry, if there is one, and handles it. -/
def next (c : Config) (x : Nat → Circumstances) (s : Drain) : Drain :=
  match Queue.Receiver.begin s.backend.broker with
  | .error _ => s
  | .ok _ =>
    match Queue.Receiver.look s.backend.broker with
    | (b, .received raw) => s.enter b raw (s.handled c (x s.visits.length) b raw)
    | _ => s

def ready (s : Drain) : List String := s.backend.broker.ready

def visitsOf (s : Drain) (number : Nat) : List Visit :=
  s.visits.filter fun v => v.number = number

/-- How many deliveries of an entry there may still be. -/
def budget (c : Config) (raw : String) : Nat := max 1 (c.maxAttempts - Queue.attemptsOf raw)

variable {c : Config} {x : Nat → Circumstances} {s : Drain} {b : Backend} {l : Ledger}
  {raw raw₀ : String} {rest back : List String} {i : Nat} {line : List Nat} {v : Visit}
  {vs : List Visit} {total : Nat}

/-! ### One delivery -/

/-- How a delivery of the entry ended, and what goes back to the queue. -/
inductive Treated (c : Config) (raw : String) (v : Visit) : List String → Prop where
  | dropped {fault : Queue.Fault} (hbody : Message.decode (Queue.bodyOf raw) = .error fault)
      (houtcome : v.outcome = some .dropped) (hsetback : v.setback = none)
      (hdetections : v.detections = 0) : Treated c raw v []
  | recorded {m : Message} {o : Outcome} (hbody : Message.decode (Queue.bodyOf raw) = .ok m)
      (hrecorded : o = .completed ∨ o = .failed) (houtcome : v.outcome = some o)
      (hsetback : v.setback = none) (hdetections : v.detections = 1) : Treated c raw v []
  | requeued {m : Message} {setback : Setback} {now : Instant}
      (hbody : Message.decode (Queue.bodyOf raw) = .ok m)
      (hroom : Queue.attemptsOf raw + 1 < c.maxAttempts) (houtcome : v.outcome = some .requeued)
      (hsetback : v.setback = some setback) (hdetections : v.detections = 1)
      (hnow : now.IsClock) : Treated c raw v [Queue.retriedRaw raw setback.message now]
  | deadLettered {m : Message} {setback : Setback} {now : Instant}
      (hbody : Message.decode (Queue.bodyOf raw) = .ok m)
      (hroom : ¬ Queue.attemptsOf raw + 1 < c.maxAttempts)
      (houtcome : v.outcome = some .deadLettered) (hsetback : v.setback = some setback)
      (hdetections : v.detections = 1) (hnow : now.IsClock)
      (hburied : v.buried = [Queue.retriedRaw raw setback.message now]) : Treated c raw v []

/-- What one delivery does besides. -/
structure Delivered (c : Config) (raw : String) (rest : List String) (i : Nat) (line : List Nat)
    (s s' : Drain) (v : Visit) (back : List String) : Prop where
  treated : Treated c raw v back
  entry : v.entry = raw
  number : v.number = i
  visits : s'.visits = s.visits ++ [v]
  line : s'.line = line ++ back.map fun _ => i
  ready : s'.ready = rest ++ back
  held : s'.backend.broker.inFlight.Perm s.backend.broker.inFlight
  dead : s'.backend.broker.dead = s.backend.broker.dead ++ v.buried
  isDown : s'.backend.broker.isDown = s.backend.broker.isDown
  settleFaults : s'.backend.broker.settleFaults = s.backend.broker.settleFaults

/-- The queue when the next entry was taken from it. -/
def taken (b : Queue.Broker) (raw : String) (rest : List String) : Queue.Broker :=
  { b with ready := rest, inFlight := b.inFlight ++ [raw] }

theorem next_of_nil (hready : s.ready = []) : s.next c x = s := by
  rw [ready] at hready
  unfold next
  split
  · rfl
  · rw [Queue.Receiver.look, Queue.Broker.takeNext, hready]

theorem next_of_cons (hup : s.backend.broker.isDown = false) (hready : s.ready = raw :: rest) :
    s.next c x = s.enter (taken s.backend.broker raw rest) raw
      (s.handled c (x s.visits.length) (taken s.backend.broker raw rest) raw) := by
  rw [ready] at hready
  have hbegin : Queue.Receiver.begin s.backend.broker = .ok .looking := by
    rw [Queue.Receiver.begin, Queue.Broker.check, hup]
    rfl
  have hlook : Queue.Receiver.look s.backend.broker =
      (taken s.backend.broker raw rest, .received raw) := by
    rw [Queue.Receiver.look, Queue.Broker.takeNext, hready, taken]
  simp only [next, hbegin, hlook]

/-- The four courses of a delivery treat its entry in four ways. -/
theorem treated_of_course {x : Outside} {r r' : Repository} {errands tried : List Errand}
    {settlement : Queue.Broker.Settlement} {settled held : Outcome} {now : Instant}
    (hcourse : Bench.Course x c r raw errands r' settlement settled held)
    (htried : ∀ e ∈ tried, ∃ answer, e = .settle settlement answer) (hnow : now.IsClock)
    (houtcome : v.outcome = some settled)
    (hsetback : v.setback = (errands ++ tried).findSome? Errand.setback?)
    (hdetections : v.detections = (errands ++ tried).countP Errand.isDetect)
    (hburied : v.buried = settlement.buried raw now) :
    Treated c raw v (settlement.back raw now) := by
  have hnone : tried.findSome? Errand.setback? = none := Bench.setback?_of_settles htried
  have hzero : tried.countP Errand.isDetect = 0 := Bench.countP_of_settles htried fun _ => rfl
  rw [List.countP_append, hzero, Nat.add_zero] at hdetections
  cases hcourse with
  | unreadable hbody => exact .dropped hbody houtcome (hsetback.trans hnone) hdetections
  | recorded hbody hfinding =>
    have hway := hfinding.setback?_eq_none
    rw [List.findSome?_append, List.findSome?_cons, hway] at hsetback
    exact .recorded hbody hfinding.outcome.2.2 houtcome (hsetback.trans hnone) hdetections
  | again hbody hway hroom =>
    rw [hway.once.1] at hdetections
    exact .requeued hbody hroom houtcome (hsetback.trans (hway.setback?_eq tried)) hdetections hnow
  | noMore hbody hway hroom =>
    rw [List.append_assoc, hway.setback?_eq] at hsetback
    rw [List.countP_append, hway.once.1] at hdetections
    exact .deadLettered hbody hroom houtcome hsetback hdetections hnow hburied

theorem delivered_of_settled {d : Bench} {o : Outcome} {settlement : Queue.Broker.Settlement}
    {now : Instant} (hline : s.line = i :: line) (houtcome : d.task.phase = .finished o)
    (hsettled : d.backend.broker =
      (taken s.backend.broker raw rest).settle (.ofRaw raw) now settlement)
    (htreated : ∀ v : Visit, v.outcome = some o → v.setback = d.setback? →
      v.detections = d.detections → v.buried = settlement.buried raw now →
      Treated c raw v (settlement.back raw now)) :
    ∃ v back, Delivered c raw rest i line s (s.enter (taken s.backend.broker raw rest) raw d) v
      back := by
  obtain ⟨hready, hdead⟩ := (taken s.backend.broker raw rest).lists_settle raw now settlement
  obtain ⟨hdown, hfaults⟩ := (taken s.backend.broker raw rest).faults_settle raw now settlement
  have hheld := (taken s.backend.broker raw rest).inFlight_settle raw now settlement
  rw [← hsettled] at hready hdead hdown hfaults hheld
  have hburied : d.backend.broker.dead.drop (taken s.backend.broker raw rest).dead.length =
      settlement.buried raw now := by
    rw [hdead, List.drop_left]
  have hback : d.backend.broker.ready.length - (taken s.backend.broker raw rest).ready.length =
      (settlement.back raw now).length := by
    rw [hready, List.length_append, Nat.add_sub_cancel_left]
  refine ⟨_, settlement.back raw now, ?_, rfl, ?_, rfl, ?_, hready, ?_, ?_, hdown, hfaults⟩
  · refine htreated _ ?_ rfl rfl hburied
    rw [Task.outcome?, houtcome]
  · rw [hline]
    rfl
  · rw [enter, hline, hback, List.map_const']
    rfl
  · -- the entry that was taken is held no more
    refine hheld.trans ?_
    have hmoved : (s.backend.broker.inFlight ++ [raw]).Perm (raw :: s.backend.broker.inFlight) :=
      List.perm_append_singleton raw _
    have herase := hmoved.erase raw
    rwa [List.erase_cons_head] at herase
  · show d.backend.broker.dead = s.backend.broker.dead ++ _
    rw [hburied]
    exact hdead

/-- **A delivery that is received is treated in one of four ways.** -/
theorem delivered_of_next (hup : s.backend.broker.isDown = false)
    (hfaults : s.backend.broker.settleFaults = 0) (hready : s.ready = raw :: rest)
    (hline : s.line = i :: line) :
    ∃ v back, Delivered c raw rest i line s (s.next c x) v back := by
  rw [next_of_cons hup hready, handled, Bench.handle]
  obtain ⟨errands, r', settlement, settled, held, d, o, hcourse, hat, hsettled⟩ :=
    Bench.handled c (x s.visits.length).toOutside
      { s.backend with
        broker := taken s.backend.broker raw rest
        repository := { s.backend.repository with faults := (x s.visits.length).faults } }
      s.ledger raw (Or.inl (Bench.tries_le c)) (Nat.le_of_eq (Bench.enough_eq c).symm)
  have hdone := hsettled.done
  rw [hat.broker, hat.task] at hdone
  have hnofault : (taken s.backend.broker raw rest).settleFaults = 0 := hfaults
  have hroom : (taken s.backend.broker raw rest).settleFaults < Bench.tries c := by
    rw [hnofault]
    exact Nat.lt_of_lt_of_le Nat.zero_lt_one (Nat.le_max_right _ _)
  obtain ⟨rfl, _, j, hbroker⟩ := hdone hroom
  have hclear : { taken s.backend.broker raw rest with settleFaults := 0 } =
      taken s.backend.broker raw rest := by
    rw [← hnofault]
  rw [hclear] at hbroker
  obtain ⟨tried, htold, _, htried⟩ := hsettled.errands
  rw [hat.errands] at htold
  refine delivered_of_settled hline hsettled.phase hbroker fun v hv hs hd hb => ?_
  rw [Bench.setback?, htold] at hs
  rw [Bench.detections, htold] at hd
  exact treated_of_course hcourse htried ((x s.visits.length).isClock j) hv hs hd hb

/-! ### The way of one message -/

/-- The deliveries of a message, and the entry as which it waits now, if it still does. -/
inductive Journey (c : Config) (raw₀ : String) : List Visit → List String → Prop where
  | begun : Journey c raw₀ [] [raw₀]
  | step {vs : List Visit} {raw : String} {v : Visit} {back : List String} :
      Journey c raw₀ vs [raw] → v.entry = raw → Treated c raw v back →
      Journey c raw₀ (vs ++ [v]) back

/-- A message that waits had nothing but setbacks, each of which took away one of its
    deliveries. -/
structure Waiting (c : Config) (raw₀ : String) (vs : List Visit) (raw : String) : Prop where
  body : Queue.bodyOf raw = Queue.bodyOf raw₀
  first : (vs.map (·.entry) ++ [raw]).head? = some raw₀
  bodies : ∀ v ∈ vs, Queue.bodyOf v.entry = Queue.bodyOf raw₀
  attempts : Queue.attemptsOf raw = Queue.attemptsOf raw₀ + vs.length
  left : vs.length + budget c raw = budget c raw₀
  outcomes : vs.map (·.outcome) = List.replicate vs.length (some .requeued)
  setbacks : ∀ v ∈ vs, v.setback ≠ none
  detections : (vs.map (·.detections)).sum = vs.length
  countable : Queue.Countable raw
  readable : vs ≠ [] → ∃ m, Message.decode (Queue.bodyOf raw₀) = .ok m

theorem waiting_start (h : Queue.Countable raw₀) : Waiting c raw₀ [] raw₀ :=
  ⟨rfl, rfl, nofun, rfl, Nat.zero_add _, rfl, nofun, rfl, h, fun hne => absurd rfl hne⟩

theorem Waiting.first_append (h : Waiting c raw₀ vs raw) (hentry : v.entry = raw) :
    ((vs ++ [v]).map (·.entry)).head? = some raw₀ := by
  rw [List.map_append, List.map_singleton, hentry]
  exact h.first

theorem Waiting.bodies_append (h : Waiting c raw₀ vs raw) (hentry : v.entry = raw) :
    ∀ v' ∈ vs ++ [v], Queue.bodyOf v'.entry = Queue.bodyOf raw₀ := by
  intro v' hv'
  rcases List.mem_append.mp hv' with hold | hnew
  · exact h.bodies v' hold
  · rw [List.mem_singleton.mp hnew, hentry]
    exact h.body

theorem Waiting.requeued {m : Message} {setback : Setback} {now : Instant}
    (h : Waiting c raw₀ vs raw) (hentry : v.entry = raw) (hlimit : c.maxAttempts < 2 ^ 32)
    (hbody : Message.decode (Queue.bodyOf raw) = .ok m)
    (hroom : Queue.attemptsOf raw + 1 < c.maxAttempts) (houtcome : v.outcome = some .requeued)
    (hsetback : v.setback = some setback) (hdetections : v.detections = 1)
    (hnow : now.IsClock) :
    Waiting c raw₀ (vs ++ [v]) (Queue.retriedRaw raw setback.message now) := by
  have hattempts := Queue.attemptsOf_retriedRaw setback.message h.countable hnow
  have hlength : (vs ++ [v]).length = vs.length + 1 := List.length_append
  have hold := h.attempts
  refine ⟨?_, ?_, h.bodies_append hentry, ?_, ?_, ?_, ?_, ?_, ?_, ?_⟩
  · rw [(Queue.ofRaw_retriedRaw setback.message h.countable hnow).2]
    exact h.body
  · rw [List.head?_append, h.first_append hentry]
    rfl
  · rw [hattempts, hlength]
    omega
  · have hleft := h.left
    rw [budget] at hleft ⊢
    rw [hattempts, hlength]
    omega
  · rw [List.map_append, h.outcomes, hlength, List.replicate_succ', List.map_singleton, houtcome]
  · intro v' hv'
    rcases List.mem_append.mp hv' with hold | hnew
    · exact h.setbacks v' hold
    · rw [List.mem_singleton.mp hnew, hsetback]
      nofun
  · rw [List.map_append, List.sum_append, h.detections, hlength, List.map_singleton, hdetections,
      List.sum_singleton]
  · exact Queue.countable_retriedRaw setback.message h.countable hnow (by omega)
  · intro _
    rw [← h.body]
    exact ⟨m, hbody⟩

theorem Journey.waiting (h : Journey c raw₀ vs back) (hcount : Queue.Countable raw₀)
    (hlimit : c.maxAttempts < 2 ^ 32) : ∀ raw, back = [raw] → Waiting c raw₀ vs raw := by
  -- along the way: of the four ways to treat an entry, one leaves an entry that waits
  induction h with
  | begun =>
    intro raw hraw
    cases hraw
    exact waiting_start hcount
  | @step vs raw v back _ hentry htreated ih =>
    intro raw' hraw'
    have hwaiting := ih raw rfl
    cases htreated with
    | requeued hbody hroom houtcome hsetback hdetections hnow =>
      rw [← List.singleton_inj.mp hraw']
      exact hwaiting.requeued hentry hlimit hbody hroom houtcome hsetback hdetections hnow
    | dropped => cases hraw'
    | recorded => cases hraw'
    | deadLettered => cases hraw'

/-- **A delivery takes away one of those that are left.** -/
theorem budget_of_treated (h : Treated c raw v back) (hcount : Queue.Countable raw) :
    1 + (back.map (budget c)).sum ≤ budget c raw := by
  cases h with
  | requeued _ hroom _ _ _ hnow =>
    rw [List.map_singleton, List.sum_singleton, budget, budget,
      Queue.attemptsOf_retriedRaw _ hcount hnow]
    omega
  | dropped =>
    rw [List.map_nil, List.sum_nil, budget]
    omega
  | recorded =>
    rw [List.map_nil, List.sum_nil, budget]
    omega
  | deadLettered =>
    rw [List.map_nil, List.sum_nil, budget]
    omega

theorem Treated.atMostOne (h : Treated c raw v back) : back = [] ∨ ∃ raw', back = [raw'] := by
  cases h with
  | requeued => exact Or.inr ⟨_, rfl⟩
  | dropped => exact Or.inl rfl
  | recorded => exact Or.inl rfl
  | deadLettered => exact Or.inl rfl

/-! ### The end of one message -/

/-- The message was given up: it can be read, but as many deliveries as it had all failed. -/
def Exhausted (c : Config) (raw₀ : String) (vs : List Visit) : Prop :=
  (∃ m, Message.decode (Queue.bodyOf raw₀) = .ok m) ∧ budget c raw₀ ≤ vs.length ∧
    ∀ v ∈ vs.take (budget c raw₀), v.setback ≠ none

/-- Among the dead is an entry with its body that counts all attempts, and names the last
    setback. -/
def Buried (c : Config) (raw₀ : String) (dead : List String) (vs : List Visit) : Prop :=
  ∃ v setback entry e, vs.getLast? = some v ∧ v.setback = some setback ∧ v.buried = [entry] ∧
    entry ∈ dead ∧ Envelope.ofRaw? entry = some e ∧ e.body = Queue.bodyOf raw₀ ∧
    e.attempts = Queue.attemptsOf raw₀ + budget c raw₀ ∧ e.lastError = some setback.message

/-- What became of a message whose first entry was this one. -/
structure Concluded (c : Config) (raw₀ : String) (dead : List String) (vs : List Visit) (k : Nat)
    (o : Outcome) : Prop where
  first : (vs.map (·.entry)).head? = some raw₀
  bodies : ∀ v ∈ vs, Queue.bodyOf v.entry = Queue.bodyOf raw₀
  /-- It went back some times, and then came to its end. -/
  outcomes : vs.map (·.outcome) = List.replicate k (some .requeued) ++ [some o]
  ending : o = .completed ∨ o = .failed ∨ o = .dropped ∨ o = .deadLettered
  deliveries : vs.length ≤ budget c raw₀
  detections : (vs.map (·.detections)).sum ≤ budget c raw₀
  givenUp : o = .deadLettered ↔ Exhausted c raw₀ vs
  buried : o = .deadLettered → Buried c raw₀ dead vs
  dropped : o = .dropped ↔ ∃ fault, Message.decode (Queue.bodyOf raw₀) = .error fault
  droppedAtOnce : o = .dropped → k = 0

theorem budget_pos (c : Config) (raw : String) : 1 ≤ budget c raw := Nat.le_max_left _ _

theorem Waiting.length_le (h : Waiting c raw₀ vs raw) (v : Visit) :
    (vs ++ [v]).length ≤ budget c raw₀ := by
  have hpos := budget_pos c raw
  rw [List.length_append, List.length_singleton, ← h.left]
  omega

theorem Waiting.outcomes_append {o : Outcome} (h : Waiting c raw₀ vs raw)
    (houtcome : v.outcome = some o) :
    (vs ++ [v]).map (·.outcome) = List.replicate vs.length (some .requeued) ++ [some o] := by
  rw [List.map_append, h.outcomes, List.map_singleton, houtcome]

theorem Waiting.detections_le (h : Waiting c raw₀ vs raw) (hdetections : v.detections ≤ 1) :
    ((vs ++ [v]).map (·.detections)).sum ≤ budget c raw₀ := by
  have hlength := h.length_le v
  rw [List.length_append, List.length_singleton] at hlength
  rw [List.map_append, List.sum_append, h.detections, List.map_singleton, List.sum_singleton]
  omega

theorem Waiting.not_exhausted (h : Waiting c raw₀ vs raw) (hsetback : v.setback = none) :
    ¬ Exhausted c raw₀ (vs ++ [v]) := by
  rintro ⟨-, -, hfailed⟩
  refine hfailed v ?_ hsetback
  rw [List.take_of_length_le (h.length_le v)]
  exact List.mem_append_right _ (List.mem_singleton_self v)

theorem Waiting.buried {setback : Setback} {now : Instant} (h : Waiting c raw₀ vs raw)
    (hlast : budget c raw = 1) (hsetback : v.setback = some setback)
    (hburied : v.buried = [Queue.retriedRaw raw setback.message now]) (hnow : now.IsClock)
    {dead : List String} (hdead : ∀ entry ∈ v.buried, entry ∈ dead) :
    Buried c raw₀ dead (vs ++ [v]) := by
  obtain ⟨hattempts, hbody⟩ := Queue.envelope_ofRaw raw now
  have hcount : Queue.attemptsOf raw + 1 = Queue.attemptsOf raw₀ + budget c raw₀ := by
    rw [h.attempts, ← h.left, hlast]
    rfl
  refine ⟨v, setback, _, ((Delivery.ofRaw raw).envelope now).retried setback.message now,
    List.getLast?_concat, hsetback, hburied, ?_, Queue.ofRaw?_retriedRaw _ h.countable hnow, ?_,
    ?_, rfl⟩
  · apply hdead
    rw [hburied]
    exact List.mem_singleton_self _
  · exact hbody.trans h.body
  · exact (congrArg (· + 1) hattempts).trans hcount

/-- **A message whose entry does not go back has come to one of its four ends.** -/
theorem Waiting.concluded (h : Waiting c raw₀ vs raw) (hentry : v.entry = raw)
    (htreated : Treated c raw v [])
    {dead : List String} (hdead : ∀ entry ∈ v.buried, entry ∈ dead) :
    ∃ o, Concluded c raw₀ dead (vs ++ [v]) vs.length o := by
  have hlength := h.length_le v
  have hfirst := h.first_append hentry
  have hbodies := h.bodies_append hentry
  generalize hback : ([] : List String) = back at htreated
  cases htreated with
  | requeued => cases hback
  | @dropped fault hbody houtcome hsetback hdetections =>
    rw [h.body] at hbody
    -- a message that went back was read before, and its body is still the same
    have hnone : vs = [] := by
      by_contra hne
      obtain ⟨m, hm⟩ := h.readable hne
      rw [hm] at hbody
      cases hbody
    refine ⟨.dropped, hfirst, hbodies, h.outcomes_append houtcome, by simp, hlength,
      h.detections_le (by omega), ?_, nofun, ?_, ?_⟩
    · exact ⟨nofun, fun hexhausted => absurd hexhausted (h.not_exhausted hsetback)⟩
    · exact ⟨fun _ => ⟨fault, hbody⟩, fun _ => rfl⟩
    · intro _
      rw [hnone]
      rfl
  | @recorded m o hbody hrecorded houtcome hsetback hdetections =>
    rw [h.body] at hbody
    have hnot : o ≠ .deadLettered ∧ o ≠ .dropped := by
      rcases hrecorded with rfl | rfl
      · exact ⟨nofun, nofun⟩
      · exact ⟨nofun, nofun⟩
    refine ⟨o, hfirst, hbodies, h.outcomes_append houtcome, ?_, hlength,
      h.detections_le (by omega), ?_, fun ho => absurd ho hnot.1, ?_, fun ho => absurd ho hnot.2⟩
    · rcases hrecorded with rfl | rfl
      · exact Or.inl rfl
      · exact Or.inr (Or.inl rfl)
    · exact ⟨fun ho => absurd ho hnot.1,
        fun hexhausted => absurd hexhausted (h.not_exhausted hsetback)⟩
    · refine ⟨fun ho => absurd ho hnot.2, ?_⟩
      rintro ⟨fault, hfault⟩
      rw [hbody] at hfault
      cases hfault
  | @deadLettered m setback now hbody hroom houtcome hsetback hdetections hnow hburied =>
    rw [h.body] at hbody
    -- no attempt is left after this one, so all deliveries it had are used up
    have hlast : budget c raw = 1 := by
      rw [budget]
      omega
    have hall : budget c raw₀ = (vs ++ [v]).length := by
      rw [← h.left, hlast, List.length_append, List.length_singleton]
    refine ⟨.deadLettered, hfirst, hbodies, h.outcomes_append houtcome, by simp, hlength,
      h.detections_le (by omega), ?_, fun _ => h.buried hlast hsetback hburied hnow hdead, ?_,
      nofun⟩
    · refine ⟨fun _ => ⟨⟨m, hbody⟩, Nat.le_of_eq hall, ?_⟩, fun _ => rfl⟩
      intro v' hv'
      rcases List.mem_append.mp (List.mem_of_mem_take hv') with hold | hnew
      · exact h.setbacks v' hold
      · rw [List.mem_singleton.mp hnew, hsetback]
        nofun
    · refine ⟨nofun, ?_⟩
      rintro ⟨fault, hfault⟩
      rw [hbody] at hfault
      cases hfault

theorem Journey.concluded (h : Journey c raw₀ vs back) (hcount : Queue.Countable raw₀)
    (hlimit : c.maxAttempts < 2 ^ 32) (hback : back = []) {dead : List String}
    (hdead : ∀ v ∈ vs, ∀ entry ∈ v.buried, entry ∈ dead) :
    ∃ k o, Concluded c raw₀ dead vs k o := by
  cases h with
  | begun => cases hback
  | @step vs raw v _ hway hentry htreated =>
    rw [hback] at htreated
    have hlast : v ∈ vs ++ [v] := List.mem_append_right _ (List.mem_singleton_self v)
    have hwaiting := hway.waiting hcount hlimit raw rfl
    exact ⟨vs.length, hwaiting.concluded hentry htreated (hdead v hlast)⟩

/-! ### The way of all messages -/

/-- The way of the message with this number, which waits as these entries or has ended. -/
def Underway (c : Config) (b : Backend) (s : Drain) (i : Nat) (back : List String) : Prop :=
  ∃ raw₀, b.broker.ready[i]? = some raw₀ ∧ Journey c raw₀ (s.visitsOf i) back

/-- How far a drain has come that began with this queue. -/
structure Progress (c : Config) (b : Backend) (s : Drain) : Prop where
  isDown : s.backend.broker.isDown = false
  settleFaults : s.backend.broker.settleFaults = 0
  held : s.backend.broker.inFlight.Perm b.broker.inFlight
  nodup : s.line.Nodup
  waiting : List.Forall₂ (fun i raw => Underway c b s i [raw]) s.line s.ready
  ended : ∀ i < b.broker.ready.length, i ∉ s.line → Underway c b s i []
  buried : ∀ v ∈ s.visits, ∀ entry ∈ v.buried, entry ∈ s.backend.broker.dead
  left : s.visits.length + (s.ready.map (budget c)).sum ≤ (b.broker.ready.map (budget c)).sum

theorem progress_start (c : Config) (b : Backend) (l : Ledger)
    (hup : b.broker.isDown = false) (hfaults : b.broker.settleFaults = 0) :
    Progress c b (start b l) := by
  refine ⟨hup, hfaults, .refl _, List.nodup_range, ?_, ?_, nofun, Nat.le_of_eq (Nat.zero_add _)⟩
  · refine List.forall₂_iff_get.mpr ⟨List.length_range, fun i hi hraw => ?_⟩
    refine ⟨b.broker.ready.get ⟨i, hraw⟩, ?_, .begun⟩
    have hnumber : (start b l).line.get ⟨i, hi⟩ = i := List.getElem_range hi
    rw [hnumber]
    exact List.getElem?_eq_getElem hraw
  · intro i hi hout
    exact absurd (List.mem_range.mpr hi) hout

theorem visitsOf_of_eq {s' : Drain} (hvisits : s'.visits = s.visits ++ [v])
    (hnumber : v.number = i) :
    s'.visitsOf i = s.visitsOf i ++ [v] := by
  rw [visitsOf, visitsOf, hvisits, List.filter_append, List.filter_singleton, hnumber]
  simp

theorem visitsOf_of_ne {s' : Drain} {j : Nat} (hvisits : s'.visits = s.visits ++ [v])
    (hnumber : v.number = i) (hne : j ≠ i) : s'.visitsOf j = s.visitsOf j := by
  rw [visitsOf, visitsOf, hvisits, List.filter_append, List.filter_singleton, hnumber]
  simp [hne.symm]

theorem Delivered.underway_of_ne {s' : Drain} {j : Nat} {entries : List String}
    (h : Delivered c raw rest i line s s' v back) (hne : j ≠ i)
    (hway : Underway c b s j entries) : Underway c b s' j entries := by
  rw [Underway, visitsOf_of_ne h.visits h.number hne]
  exact hway

theorem Delivered.underway {s' : Drain} (h : Delivered c raw rest i line s s' v back)
    (hway : Underway c b s i [raw]) : Underway c b s' i back := by
  obtain ⟨raw₀, hget, hjourney⟩ := hway
  refine ⟨raw₀, hget, ?_⟩
  rw [visitsOf_of_eq h.visits h.number]
  exact hjourney.step h.entry h.treated

/-- **A delivery keeps the way of every message in order.** -/
theorem Progress.of_delivered {s' : Drain} (h : Progress c b s)
    (hd : Delivered c raw rest i line s s' v back) (hready : s.ready = raw :: rest)
    (hline : s.line = i :: line) (hcount : ∀ raw ∈ b.broker.ready, Queue.Countable raw)
    (hlimit : c.maxAttempts < 2 ^ 32) : Progress c b s' := by
  have hwaiting := h.waiting
  have hnodup := h.nodup
  rw [hready, hline] at hwaiting
  rw [hline] at hnodup
  obtain ⟨hway, hothers⟩ := List.forall₂_cons.mp hwaiting
  obtain ⟨hout, hnodup'⟩ := List.nodup_cons.mp hnodup
  refine ⟨hd.isDown.trans h.isDown, hd.settleFaults.trans h.settleFaults, hd.held.trans h.held,
    ?_, ?_, ?_, ?_, ?_⟩
  · rw [hd.line]
    rcases hd.treated.atMostOne with rfl | ⟨raw', rfl⟩
    · simpa using hnodup'
    · exact (List.nodup_append_comm.mp (List.nodup_cons.mpr ⟨hout, hnodup'⟩))
  · -- the others wait as before, and behind them the entry that went back, if any
    rw [hd.line, hd.ready]
    have hrest : List.Forall₂ (fun j raw => Underway c b s' j [raw]) line rest := by
      have hboth := (List.forall₂_and_left _ _).mpr
        ⟨fun j hj => ne_of_mem_of_not_mem hj hout, hothers⟩
      exact hboth.imp fun j raw hj => hd.underway_of_ne hj.1 hj.2
    have hback := hd.underway hway
    rcases hd.treated.atMostOne with rfl | ⟨raw', rfl⟩
    · simpa using hrest
    · exact List.rel_append hrest (.cons hback .nil)
  · intro j hj hleft
    rw [hd.line, List.mem_append, not_or] at hleft
    by_cases hji : j = i
    · -- the message that was delivered is in the line no more, so nothing of it went back
      subst hji
      have hback := hd.underway hway
      rcases hd.treated.atMostOne with rfl | ⟨raw', rfl⟩
      · exact hback
      · exact absurd (List.mem_singleton_self j) hleft.2
    · refine hd.underway_of_ne hji (h.ended j hj ?_)
      rw [hline]
      exact fun hmem => (List.mem_cons.mp hmem).elim hji hleft.1
  · intro v' hv' entry hentry
    rw [hd.visits] at hv'
    rw [hd.dead]
    rcases List.mem_append.mp hv' with hold | hnew
    · exact List.mem_append_left _ (h.buried v' hold entry hentry)
    · rw [List.mem_singleton.mp hnew] at hentry
      exact List.mem_append_right _ hentry
  · obtain ⟨raw₀, hget, hjourney⟩ := hway
    have hcountable := hcount raw₀ (List.mem_of_getElem? hget)
    -- what is spent and what is left make up the same sum as before
    have hspent := budget_of_treated hd.treated
      (hjourney.waiting hcountable hlimit raw rfl).countable
    have hleft := h.left
    rw [hready, List.map_cons, List.sum_cons] at hleft
    rw [hd.visits, hd.ready, List.length_append, List.length_singleton, List.map_append,
      List.sum_append]
    omega

theorem Progress.exists_delivered (h : Progress c b s) (hready : s.ready = raw :: rest) :
    ∃ i line v back, s.line = i :: line ∧
      Delivered c raw rest i line s (s.next c x) v back := by
  have hlength := h.waiting.length_eq
  rw [hready] at hlength
  obtain ⟨i, line, hline⟩ := List.exists_cons_of_length_eq_add_one hlength
  obtain ⟨v, back, hd⟩ := delivered_of_next (c := c) h.isDown h.settleFaults hready hline
  exact ⟨i, line, v, back, hline, hd⟩

/-- **After any number of rounds** everything is in order, and each round was a delivery unless
    the queue is empty. -/
theorem progress_of_rounds (l : Ledger) (hup : b.broker.isDown = false)
    (hfaults : b.broker.settleFaults = 0) (hcount : ∀ raw ∈ b.broker.ready, Queue.Countable raw)
    (hlimit : c.maxAttempts < 2 ^ 32) (n : Nat) :
    Progress c b ((next c x)^[n] (start b l)) ∧
      (((next c x)^[n] (start b l)).ready = [] ∨
        ((next c x)^[n] (start b l)).visits.length = n) := by
  -- on the number of rounds; once the queue is empty a round changes nothing
  induction n with
  | zero => exact ⟨progress_start c b l hup hfaults, Or.inr rfl⟩
  | succ n ih =>
    obtain ⟨hprogress, hrounds⟩ := ih
    rw [Function.iterate_succ_apply']
    cases hready : ((next c x)^[n] (start b l)).ready with
    | nil =>
      rw [next_of_nil hready]
      exact ⟨hprogress, Or.inl hready⟩
    | cons raw rest =>
      obtain ⟨i, line, v, back, hline, hd⟩ := hprogress.exists_delivered (x := x) hready
      refine ⟨hprogress.of_delivered hd hready hline hcount hlimit, Or.inr ?_⟩
      have hsome : ((next c x)^[n] (start b l)).ready ≠ [] := by
        rw [hready]
        exact List.cons_ne_nil _ _
      have hlength := hrounds.resolve_left hsome
      rw [hd.visits, List.length_append, List.length_singleton, hlength]

theorem Progress.ready_eq_nil (h : Progress c b s)
    (hrounds : s.ready = [] ∨ s.visits.length = (b.broker.ready.map (budget c)).sum) :
    s.ready = [] := by
  cases hready : s.ready with
  | nil => rfl
  | cons raw rest =>
    have hsome : s.ready ≠ [] := by
      rw [hready]
      exact List.cons_ne_nil _ _
    have hlength := hrounds.resolve_left hsome
    have hleft := h.left
    have hpos := budget_pos c raw
    rw [hready, List.map_cons, List.sum_cons] at hleft
    omega

/-- **A drain comes to its end.**  Whatever the detection service answers and whichever calls to
    the stored jobs fail, after as many rounds as there are deliveries left the queue is empty and
    holds only what it held before; and every message has come to one of its four ends within
    its own deliveries. -/
theorem ends_within_budget (c : Config) (x : Nat → Circumstances) (b : Backend) (l : Ledger)
    (hup : b.broker.isDown = false) (hfaults : b.broker.settleFaults = 0)
    (hcount : ∀ raw ∈ b.broker.ready, Queue.Countable raw) (hlimit : c.maxAttempts < 2 ^ 32) :
    let left := (b.broker.ready.map (budget c)).sum
    let last := (next c x)^[left] (start b l)
    last.ready = [] ∧ last.backend.broker.inFlight.Perm b.broker.inFlight ∧
      last.visits.length ≤ left ∧
      ∀ i raw, b.broker.ready[i]? = some raw →
        ∃ k o, Concluded c raw last.backend.broker.dead (last.visitsOf i) k o := by
  intro left last
  obtain ⟨hprogress, hrounds⟩ :=
    progress_of_rounds (c := c) (x := x) l hup hfaults hcount hlimit left
  have hready : last.ready = [] := hprogress.ready_eq_nil hrounds
  refine ⟨hready, hprogress.held, Nat.le_trans (Nat.le_add_right _ _) hprogress.left, ?_⟩
  intro i raw hget
  obtain ⟨hi, -⟩ := List.getElem?_eq_some_iff.mp hget
  have hout : i ∉ last.line := by
    have hwaiting := hprogress.waiting
    rw [hready] at hwaiting
    rw [List.forall₂_nil_right_iff.mp hwaiting]
    exact List.not_mem_nil
  obtain ⟨raw₀, hget', hjourney⟩ := hprogress.ended i hi hout
  rw [hget, Option.some.injEq] at hget'
  subst hget'
  refine hjourney.concluded (hcount raw (List.mem_of_getElem? hget)) hlimit rfl ?_
  intro v hv
  exact hprogress.buried v (List.mem_of_mem_filter hv)

/-- Another body without an envelope. -/
def other : String := (⟨"job-2", "https://x/b.png"⟩ : Message).body

def pair : Backend := ⟨(Queue.Broker.empty.push Bench.bare).push other, .empty, {}⟩

/-- It is noon, the detection service gives this answer, and so many calls to the stored jobs
    fail. -/
def atNoon (answer : Except Detection.Fault (List Prediction)) (faults : Nat) : Circumstances where
  reply _ := some (0, answer)
  draw _ := ⟨Bench.noon, .ofRandom⟩
  isClock _ := by decide
  faults := faults

/-- The first detection call fails, and the result of the third one cannot be recorded. -/
def failing : Nat → Circumstances
  | 0 => atNoon (.error (.transport "reset")) 0
  | 1 => atNoon (.ok []) 0
  | _ => atNoon (.ok []) 1

/-- Two attempts are allowed. -/
def twice : Config := { Config.standard with maxAttempts := 2 }

theorem outcomes_visitsOf (s : Drain) (n : Nat) : (s.visitsOf n).map (·.outcome) =
    ((s.visits.map fun v => (v.number, v.outcome)).filter (·.1 = n)).map (·.2) := by
  rw [visitsOf, List.filter_map, List.map_map]
  rfl

/-- One message goes back behind the other one, which is completed, and is given up when it
    fails again. -/
theorem ends_within_budget_of_pair :
    (∀ raw ∈ pair.broker.ready, Queue.Countable raw) ∧
    let last := (next twice failing)^[4] (start pair .empty)
    last.ready = [] ∧ last.backend.broker.inFlight = [] ∧ last.visits.length ≤ 4 ∧
      Concluded twice Bench.bare last.backend.broker.dead (last.visitsOf 0) 1 .deadLettered ∧
      Concluded twice other last.backend.broker.dead (last.visitsOf 1) 0 .completed := by
  have hcount : ∀ raw ∈ pair.broker.ready, Queue.Countable raw := by decide +kernel
  have hleft : (pair.broker.ready.map (budget twice)).sum = 4 := by decide +kernel
  have hvisited : ((next twice failing)^[4] (start pair .empty)).visits.map
      (fun v => (v.number, v.outcome)) =
        [(0, some .requeued), (1, some .completed), (0, some .deadLettered)] := by
    decide +kernel
  obtain ⟨hready, hheld, hvisits, hall⟩ :=
    ends_within_budget twice failing pair .empty rfl rfl hcount (by decide)
  rw [hleft] at hready hheld hvisits hall
  refine ⟨hcount, hready, hheld.eq_nil, hvisits, ?_, ?_⟩
  · obtain ⟨k, o, hconcluded⟩ := hall 0 Bench.bare rfl
    have hpath := hconcluded.outcomes
    rw [outcomes_visitsOf, hvisited] at hpath
    obtain rfl : k = 1 := by simpa using (congrArg List.length hpath).symm
    obtain rfl : o = .deadLettered := by simpa using hpath.symm
    exact hconcluded
  · obtain ⟨k, o, hconcluded⟩ := hall 1 other rfl
    have hpath := hconcluded.outcomes
    rw [outcomes_visitsOf, hvisited] at hpath
    obtain rfl : k = 0 := by simpa using (congrArg List.length hpath).symm
    obtain rfl : o = .completed := by simpa using hpath.symm
    exact hconcluded

end Drain

end DetectionJobs.Worker
