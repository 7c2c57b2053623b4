/-
  DetectionJobs/Proofs/Worker/Retrying.lean
  =========================================
  **How often a settlement is tried, and what lies between the tries.**

  A settlement is tried until it takes place or no try is left.  A try that fails is followed
  by a pause, unless it was the last one, and each pause is twice as long as the one before
  it, as far as spans go.  So the faults that are ahead and the tries of the worker decide
  together which calls are made, how long the work pauses, what is in the queue at the end,
  and whether the loop of the worker is told to recover the delivery.
-/
import DetectionJobs.Proofs.Worker.Effects

namespace DetectionJobs

/-- Doubling again and again multiplies by a power of two, up to the longest span. -/
theorem Span.double_iterate {s : Span} (hs : s.nanos ≤ longest.nanos) (i : Nat) :
    double^[i] s = ⟨min (2 ^ i * s.nanos) longest.nanos⟩ := by
  induction i with
  | zero => rw [Function.iterate_zero_apply, Nat.pow_zero, Nat.one_mul, Nat.min_eq_left hs]
  | succ i ih =>
    rw [Function.iterate_succ_apply', ih, double, Nat.pow_succ', Nat.mul_assoc]
    congr 1
    show min (2 * min (2 ^ i * s.nanos) longest.nanos) longest.nanos = _
    omega

namespace Worker

/-- What can be seen of the work on a delivery: its calls and its pauses. -/
inductive Effort where
  | call (e : Errand)
  | pause (length : Span)

namespace Effort

def isCall : Effort → Bool
  | .call _ => true
  | .pause _ => false

def pause? : Effort → Option Span
  | .call _ => none
  | .pause length => some length

end Effort

theorem Settling.next_iterate (s : Settling) (i : Nat) :
    Settling.next^[i] s =
      { s with tries := s.tries - i, backoff := Span.double^[i] s.backoff } := by
  induction i with
  | zero => rfl
  | succ i ih =>
    rw [Function.iterate_succ_apply', ih, Function.iterate_succ_apply', Settling.next,
      Nat.sub_add_eq]

namespace Bench

/-- What the next move shows: the pause that it ends, or the calls that it makes. -/
def effort (c : Config) (x : Outside) (d : Bench) : List Effort :=
  (d.task.pause? c).toList.map .pause ++
    ((d.move c x).errands.drop d.errands.length).map .call

/-- What the next moves show, one after the other. -/
def efforts (c : Config) (x : Outside) : Nat → Bench → List Effort
  | 0, _ => []
  | n + 1, d => d.effort c x ++ efforts c x n (d.move c x)

variable {c : Config} {x : Outside} {d d' : Bench} {s : Settling} {i k m n : Nat} {raw : String}
  {settlement : Queue.Broker.Settlement} {settled held o : Outcome}

/-! ### What moves show -/

theorem efforts_add (m n : Nat) (d : Bench) :
    efforts c x (m + n) d = efforts c x m d ++ efforts c x n ((move c x)^[m] d) := by
  induction m generalizing d with
  | zero => rw [Nat.zero_add]; rfl
  | succ m ih =>
    rw [Nat.succ_add, efforts, efforts, ih, List.append_assoc, Function.iterate_succ_apply]

/-- Once the work is done, nothing is to be seen. -/
theorem efforts_of_finished (h : d.task.phase = .finished o) (n : Nat) : efforts c x n d = [] := by
  have heffort : d.effort c x = [] := by
    rw [effort, move_of_finished h, Task.pause?, h, List.drop_length]
    rfl
  induction n with
  | zero => rfl
  | succ n ih => rw [efforts, heffort, move_of_finished h, ih, List.nil_append]

/-- A move that makes one call and waits for nothing shows that call. -/
theorem effort_of_errands {e : Errand} (hpause : d.task.pause? c = none)
    (h : (d.move c x).errands = d.errands ++ [e]) : d.effort c x = [.call e] := by
  rw [effort, hpause, h, List.drop_left]
  rfl

theorem pause?_of_settling (h : d.task.phase = .settling s) : d.task.pause? c = none := by
  rw [Task.pause?, h]

/-- A try that fails shows its call and the pause after it. -/
theorem efforts_of_fault (hphase : d.task.phase = .settling s) (htries : 1 < s.tries)
    (hfaults : d.backend.broker.settleFaults = n + 1) : efforts c x 2 d =
      [.call (.settle s.settlement (.error .closed)), .pause s.backoff] := by
  have hmove := move_of_fault (c := c) (x := x) hphase htries hfaults
  have hcall : d.effort c x = [.call (.settle s.settlement (.error .closed))] :=
    effort_of_errands (pause?_of_settling hphase) (by rw [hmove]; rfl)
  have hpause : (d.move c x).effort c x = [.pause s.backoff] := by
    rw [hmove, effort]
    simp only [Task.pause?, move, Task.resume, List.drop_length, List.map_nil, List.append_nil]
    rfl
  rw [efforts, efforts, efforts, hcall, hpause]
  rfl

/-! ### Tries that fail -/

/-- So many tries failed, and the next one is to be made. -/
def tried (d : Bench) (s : Settling) (i : Nat) : Bench where
  backend := { d.backend with
    broker := { d.backend.broker with settleFaults := d.backend.broker.settleFaults - i } }
  ledger := d.ledger
  task := { d.task with phase := .settling (Settling.next^[i] s) }
  draws := d.draws + i
  errands := d.errands ++ List.replicate i (.settle s.settlement (.error .closed))

theorem tried_zero (hphase : d.task.phase = .settling s) : d.tried s 0 = d := by
  obtain ⟨_, _, ⟨_, _⟩, _, _⟩ := d
  obtain rfl := hphase
  simp [tried]

theorem retrying_tried (d : Bench) (s : Settling) (i : Nat) :
    (d.tried s i).retrying (Settling.next^[i] s) (d.backend.broker.settleFaults - (i + 1)) =
      d.tried s (i + 1) := by
  have hsettlement : (Settling.next^[i] s).settlement = s.settlement := by
    rw [Settling.next_iterate]
  simp only [retrying, tried, hsettlement, ← Function.iterate_succ_apply' Settling.next,
    List.append_assoc, List.replicate_succ', Nat.add_assoc]

/-- Every two moves use up a try and a fault, as long as there are both. -/
theorem iterate_tried (hphase : d.task.phase = .settling s) (htries : i < s.tries)
    (hfaults : i ≤ d.backend.broker.settleFaults) :
    (move c x)^[2 * i] d = d.tried s i ∧
      efforts c x (2 * i) d = (List.range i).flatMap fun j =>
        [.call (.settle s.settlement (.error .closed)), .pause (Span.double^[j] s.backoff)] := by
  -- the delivery and the other lists stay, so that one failed try leads to the next one
  induction i with
  | zero => exact ⟨(tried_zero hphase).symm, rfl⟩
  | succ i ih =>
    obtain ⟨hmoves, hefforts⟩ := ih (by omega) (by omega)
    have hnext := Settling.next_iterate s i
    have hmore : 1 < (Settling.next^[i] s).tries := by
      rw [hnext]
      show 1 < s.tries - i
      omega
    have hahead : (d.tried s i).backend.broker.settleFaults =
        d.backend.broker.settleFaults - (i + 1) + 1 := by
      show d.backend.broker.settleFaults - i = _
      omega
    constructor
    · rw [Nat.mul_succ, Nat.add_comm, Function.iterate_add_apply, hmoves, ← retrying_tried]
      exact move_move_of_fault rfl hmore hahead
    · rw [Nat.mul_succ, efforts_add, hefforts, hmoves, efforts_of_fault rfl hmore hahead, hnext,
        List.range_succ, List.flatMap_append, List.flatMap_singleton]

/-! ### The last try -/

/-- A try after which the delivery is done is the last one, and nothing is to be seen after it. -/
theorem end_of_last {answer : Except Queue.Fault Unit} (hphase : d.task.phase = .settling s)
    (htries : i < s.tries) (hfaults : i ≤ d.backend.broker.settleFaults)
    (hlast : (d.tried s i).move c x = d') (hdone : d'.task.phase = .finished o)
    (hcall : d'.errands = (d.tried s i).errands ++ [.settle s.settlement answer])
    (hm : 2 * i + 1 ≤ m) :
    (move c x)^[m] d = d' ∧
      efforts c x m d = ((List.range i).flatMap fun j =>
          [.call (.settle s.settlement (.error .closed)), .pause (Span.double^[j] s.backoff)]) ++
        [.call (.settle s.settlement answer)] := by
  obtain ⟨hmoves, hefforts⟩ := iterate_tried (c := c) (x := x) hphase htries hfaults
  obtain ⟨j, rfl⟩ := Nat.exists_eq_add_of_le hm
  have hend : (move c x)^[2 * i + 1] d = d' := by rw [Function.iterate_succ_apply', hmoves, hlast]
  have hseen : (d.tried s i).effort c x = [.call (.settle s.settlement answer)] :=
    effort_of_errands (pause?_of_settling rfl) (by rw [hlast, hcall])
  constructor
  · rw [Nat.add_comm, Function.iterate_add_apply, hend, iterate_of_finished hdone]
  · rw [efforts_add, hend, efforts_of_finished hdone, List.append_nil, efforts_add, hmoves,
      hefforts, efforts, hseen, efforts, List.append_nil]

/-! ### What a settlement comes to -/

/-- What is to be seen of a settlement of which `k` tries are to fail. -/
structure Shows (s : Settling) (k : Nat) (seen : List Effort) : Prop where
  /-- All tries but the last one fail, and after each of them comes a pause. -/
  order : seen = ((List.range (min k (s.tries - 1))).flatMap fun i =>
      [.call (.settle s.settlement (.error .closed)),
        .pause ⟨min (2 ^ i * s.backoff.nanos) Span.longest.nanos⟩]) ++
    [.call (.settle s.settlement (if k < s.tries then .ok () else .error .closed))]
  calls : seen.countP Effort.isCall = min (k + 1) s.tries
  pauses : seen.filterMap Effort.pause? = (List.range (min k (s.tries - 1))).map fun i =>
    ⟨min (2 ^ i * s.backoff.nanos) Span.longest.nanos⟩

/-- The work on a settlement of the entry `raw`, of which `k` tries are to fail, leads from `d`
    to `d'`. -/
structure Retried (x : Outside) (raw : String) (s : Settling) (k : Nat) (d d' : Bench)
    (seen : List Effort) : Prop extends Shows s k seen where
  /-- Whoever asked for the settlement learns whether it was made. -/
  outcome : d'.task.phase = .finished (if k < s.tries then s.settled else s.held)
  /-- The loop of the worker learns of a delivery that is left as it is, and of no other. -/
  flag : d'.ledger.needsRecovery = (d.ledger.needsRecovery || decide (s.tries ≤ k))
  faults : d'.backend.broker.settleFaults = k - s.tries
  repository : d'.backend.repository = d.backend.repository
  /-- With a try more than faults the settlement is made, once and at the last call. -/
  made : k < s.tries →
    d'.backend.broker = { d.backend.broker with settleFaults := 0 }.settle (.ofRaw raw)
      (x.draw (d.draws + k)).now s.settlement ∧
    d.inFlight.Perm (raw :: d'.inFlight) ∧
    d'.ready = d.ready ++ s.settlement.back raw (x.draw (d.draws + k)).now ∧
    d'.dead = d.dead ++ s.settlement.buried raw (x.draw (d.draws + k)).now ∧
    d'.backend.broker.acked = d.backend.broker.acked + if s.settlement = .ack then 1 else 0
  /-- Without, the lists stay as they were, and faults are all that changes in the queue. -/
  givenUp : s.tries ≤ k →
    d'.backend.broker = { d.backend.broker with settleFaults := k - s.tries } ∧
    d'.inFlight = d.inFlight ∧ d'.ready = d.ready ∧ d'.dead = d.dead ∧
    d'.backend.broker.acked = d.backend.broker.acked

/-- Of tries that fail, each one is a call and a pause. -/
theorem count_flatMap_tries (e : Errand) (f : Nat → Span) (i : Nat) :
    ((List.range i).flatMap fun j => [.call e, .pause (f j)]).countP Effort.isCall = i ∧
      ((List.range i).flatMap fun j => [.call e, .pause (f j)]).filterMap Effort.pause? =
        (List.range i).map f := by
  induction i with
  | zero => exact ⟨rfl, rfl⟩
  | succ i ih =>
    obtain ⟨hcalls, hpauses⟩ := ih
    rw [List.range_succ, List.flatMap_append, List.flatMap_singleton, List.countP_append,
      List.filterMap_append, List.map_append, hcalls, hpauses]
    exact ⟨rfl, rfl⟩

theorem shows_of_order {seen : List Effort} {answer : Except Queue.Fault Unit}
    (hbackoff : s.backoff.nanos ≤ Span.longest.nanos) (htries : 0 < s.tries)
    (hi : i = min k (s.tries - 1))
    (hanswer : answer = if k < s.tries then .ok () else .error .closed)
    (h : seen = ((List.range i).flatMap fun j =>
        [.call (.settle s.settlement (.error .closed)), .pause (Span.double^[j] s.backoff)]) ++
      [.call (.settle s.settlement answer)]) : Shows s k seen := by
  simp only [Span.double_iterate hbackoff] at h
  obtain ⟨hcalls, hpauses⟩ := count_flatMap_tries (.settle s.settlement (.error .closed))
    (fun j => ⟨min (2 ^ j * s.backoff.nanos) Span.longest.nanos⟩) i
  subst hi hanswer
  refine ⟨h, ?_, ?_⟩
  · rw [h, List.countP_append, hcalls]
    show min k (s.tries - 1) + 1 = min (k + 1) s.tries
    omega
  · rw [h, List.filterMap_append, hpauses]
    exact List.append_nil _

/-- With a try more than faults, the last try settles the delivery. -/
theorem retried_of_room (hbackoff : s.backoff.nanos ≤ Span.longest.nanos)
    (htask : d.task = ⟨.ofRaw raw, .settling s⟩) (hheld : raw ∈ d.inFlight)
    (hk : d.backend.broker.settleFaults = k) (hroom : k < s.tries) (hm : 2 * k + 1 ≤ m) :
    Retried x raw s k d ((move c x)^[m] d) (efforts c x m d) := by
  have hphase : d.task.phase = .settling s := by rw [htask]
  have hnone : (d.tried s k).backend.broker.settleFaults = 0 := by
    show d.backend.broker.settleFaults - k = 0
    omega
  have hlast := move_of_noFault (c := c) (x := x) (d := d.tried s k) rfl hnone
  rw [Settling.next_iterate] at hlast
  obtain ⟨hend, hseen⟩ := end_of_last hphase hroom (Nat.le_of_eq hk.symm) hlast rfl rfl hm
  have hbroker : ((move c x)^[m] d).backend.broker =
      { d.backend.broker with settleFaults := 0 }.settle (.ofRaw raw)
        (x.draw (d.draws + k)).now s.settlement := by
    rw [hend, ← hnone]
    simp only [tried, htask]
  obtain ⟨hready, hdead⟩ := Queue.Broker.lists_settle { d.backend.broker with settleFaults := 0 }
    raw (x.draw (d.draws + k)).now s.settlement
  have hinFlight := Queue.Broker.inFlight_settle { d.backend.broker with settleFaults := 0 } raw
    (x.draw (d.draws + k)).now s.settlement
  have hacked := Queue.Broker.acked_settle { d.backend.broker with settleFaults := 0 } hheld
    (x.draw (d.draws + k)).now s.settlement
  refine ⟨shows_of_order hbackoff (by omega) (by omega) (if_pos hroom).symm hseen, ?_, ?_, ?_, ?_,
    fun _ => ⟨hbroker, ?_, ?_, ?_, ?_⟩, fun hnot => absurd hroom (Nat.not_lt.mpr hnot)⟩
  · rw [hend, if_pos hroom]
  · rw [hend, decide_eq_false (Nat.not_le.mpr hroom), Bool.or_false]
    rfl
  · rw [hbroker, (Queue.Broker.faults_settle _ raw _ s.settlement).2]
    show 0 = _
    omega
  · rw [hend]
    rfl
  · rw [inFlight, inFlight, hbroker]
    exact (List.perm_cons_erase hheld).trans (hinFlight.symm.cons raw)
  · rw [ready, hbroker, hready, ready]
  · rw [dead, hbroker, hdead, dead]
  · rw [hbroker, hacked]

/-- With no more tries than faults, the last try fails as well. -/
theorem retried_of_noRoom (hbackoff : s.backoff.nanos ≤ Span.longest.nanos)
    (htask : d.task = ⟨.ofRaw raw, .settling s⟩) (hk : d.backend.broker.settleFaults = k)
    (htries : 0 < s.tries) (hnone : s.tries ≤ k) (hm : 2 * s.tries ≤ m + 1) :
    Retried x raw s k d ((move c x)^[m] d) (efforts c x m d) := by
  have hphase : d.task.phase = .settling s := by rw [htask]
  have hone : (Settling.next^[s.tries - 1] s).tries = 1 := by
    rw [Settling.next_iterate]
    show s.tries - (s.tries - 1) = 1
    omega
  have hahead : (d.tried s (s.tries - 1)).backend.broker.settleFaults = k - s.tries + 1 := by
    show d.backend.broker.settleFaults - (s.tries - 1) = _
    omega
  have hlast := move_of_lastTry (c := c) (x := x) (d := d.tried s (s.tries - 1)) rfl hone hahead
  rw [Settling.next_iterate] at hlast
  obtain ⟨hend, hseen⟩ := end_of_last hphase (Nat.sub_lt htries Nat.one_pos) (by omega) hlast
    rfl rfl (show 2 * (s.tries - 1) + 1 ≤ m by omega)
  have hnot : ¬ k < s.tries := Nat.not_lt.mpr hnone
  refine ⟨shows_of_order hbackoff htries (by omega) (if_neg hnot).symm hseen, ?_, ?_, ?_, ?_,
    fun hroom => absurd hroom hnot, fun _ => ?_⟩
  · rw [hend, if_neg hnot]
  · rw [hend, decide_eq_true hnone, Bool.or_true]
  · rw [hend]
  · rw [hend]
    rfl
  · rw [hend]
    exact ⟨rfl, rfl, rfl, rfl, rfl⟩

/-- **A settlement is tried until it takes place or no try is left**, whatever faults are ahead
    and however often the worker is to try. -/
theorem settlement_retried (c : Config) (x : Outside) (d : Bench) (raw : String)
    (settlement : Queue.Broker.Settlement) (settled held : Outcome) (m : Nat)
    (hbackoff : c.settleBackoff.nanos ≤ Span.longest.nanos) (hheld : raw ∈ d.inFlight)
    (htask : d.task = ⟨.ofRaw raw, Task.firstTry c settlement settled held⟩)
    (hm : 2 * max c.settleAttempts 1 ≤ m + 1) :
    Retried x raw ⟨settlement, max c.settleAttempts 1, c.settleBackoff, settled, held⟩
      d.backend.broker.settleFaults d ((move c x)^[m] d) (efforts c x m d) := by
  have htries : 0 < max c.settleAttempts 1 :=
    Nat.lt_of_lt_of_le Nat.zero_lt_one (Nat.le_max_right _ _)
  rcases Nat.lt_or_ge d.backend.broker.settleFaults (max c.settleAttempts 1) with hroom | hnone
  · exact retried_of_room hbackoff htask hheld rfl hroom (by omega)
  · exact retried_of_noRoom hbackoff htask rfl htries hnone hm

/-- A worker that tries a settlement four times, and twice whose first pause is more than the
    longest span. -/
def patient : Config :=
  { Config.standard with settleAttempts := 4, settleBackoff := .ofSeconds (2 ^ 63) }

/-- A delivery that is to go back to the queue, with three failures ahead. -/
def goingBack : Bench where
  backend := { troubled with broker := { troubled.broker with settleFaults := 3 } }
  ledger := .empty
  task := ⟨.ofRaw bare, Task.firstTry patient (.requeue "busy") .requeued .unsettled⟩
  draws := 0
  errands := []

theorem settlement_retried_at_longest :
    patient.settleBackoff.nanos ≤ Span.longest.nanos ∧ bare ∈ goingBack.inFlight ∧
      goingBack.task =
        ⟨.ofRaw bare, Task.firstTry patient (.requeue "busy") .requeued .unsettled⟩ ∧
      2 * max patient.settleAttempts 1 ≤ 7 + 1 ∧
      Retried quietNoon bare ⟨.requeue "busy", 4, patient.settleBackoff, .requeued, .unsettled⟩ 3
        goingBack ((move patient quietNoon)^[7] goingBack)
        (efforts patient quietNoon 7 goingBack) ∧
      (efforts patient quietNoon 7 goingBack).filterMap Effort.pause? =
        [.ofSeconds (2 ^ 63), .longest, .longest] := by
  have hbackoff : patient.settleBackoff.nanos ≤ Span.longest.nanos := by decide
  have hheld : bare ∈ goingBack.inFlight := List.mem_singleton_self _
  have htries : 2 * max patient.settleAttempts 1 ≤ 7 + 1 := by decide
  have hretried := settlement_retried patient quietNoon goingBack bare (.requeue "busy") .requeued
    .unsettled 7 hbackoff hheld rfl htries
  refine ⟨hbackoff, hheld, rfl, htries, hretried, ?_⟩
  rw [hretried.pauses]
  decide

end Bench

end Worker

end DetectionJobs
