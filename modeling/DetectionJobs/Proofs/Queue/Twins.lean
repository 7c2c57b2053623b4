/-
  DetectionJobs/Proofs/Queue/Twins.lean
  =====================================
  **The queue in memory and the queue on a list store, call by call.**

  Both are given the same calls by one consumer, with the same readings of the clock.  What
  waits and what is dead agrees, up to the end at which the lists begin; what is held agrees
  as a multiset.  Its order is the one thing that may part them: taking an entry out of the
  memory's list moves the last entry into its place, and the list store keeps the order.  A
  recovery makes that order the order of the next deliveries.
-/
import DetectionJobs.Proofs.Queue.Lists
import DetectionJobs.Proofs.Queue.Stores
import Mathlib.Data.List.Basic

namespace DetectionJobs.Queue.Twins

/-! ### The calls of a consumer -/

inductive Call where
  | publish (jobId imageUrl : String)
  | receive
  | settle (raw : String) (s : Broker.Settlement)
  | recover
  | depth
deriving DecidableEq

inductive Outcome where
  | done
  | count (n : Nat)
  | delivery (d : Option Delivery)
  | refused (f : Fault)
deriving DecidableEq

/-- A call to the queue in memory.  A wait for an entry ends without one, since nobody else
    is there to publish. -/
def inMemory (b : Broker) (now : Instant) : Call → Broker × Outcome
  | .publish jobId imageUrl =>
    match b.publish jobId imageUrl now with
    | .ok b => (b, .done)
    | .error f => (b, .refused f)
  | .receive =>
    match Receiver.begin b with
    | .error f => (b, .refused f)
    | .ok _ =>
      match Receiver.settle 0 b with
      | (b, .received raw) => (b, .delivery (some (.ofRaw raw)))
      | (b, _) => (Receiver.leave 0 b, .delivery none)
  | .settle raw s =>
    match b.trySettle (.ofRaw raw) now s with
    | (b, .ok ()) => (b, .done)
    | (b, .error f) => (b, .refused f)
  | .recover => (b.recover.2, .count b.recover.1)
  | .depth => (b, .count b.depth)

def outcome : Remote.Answer → Outcome
  | .done => .done
  | .count n => .count n
  | .delivery raw => .delivery (raw.map .ofRaw)

def performed (k : Keys) (s : ListStore) (op : Remote) : ListStore × Outcome :=
  match op.perform k (.ok s) with
  | .ok (s, a) => (s, outcome a)
  | .error f => (s, .refused f)

/-- A call to the queue on a list store, with a wait of so many seconds. -/
def onStore (k : Keys) (wait : String) (s : ListStore) (now : Instant) :
    Call → ListStore × Outcome
  | .publish jobId imageUrl =>
    match Remote.ofMessage jobId imageUrl now with
    | .ok op => performed k s op
    | .error f => (s, .refused f)
  | .receive => performed k s (.receive wait)
  | .settle raw settlement => performed k s (.ofSettlement (.ofRaw raw) now settlement)
  | .recover => performed k s (.recover 0)
  | .depth => performed k s .depth

/-- Calls one after the other, each with its reading of the clock. -/
def runInMemory (b : Broker) : List (Call × Instant) → Broker × List Outcome
  | [] => (b, [])
  | (c, now) :: rest =>
    let (b, o) := inMemory b now c
    let (b, os) := runInMemory b rest
    (b, o :: os)

def runOnStore (k : Keys) (wait : String) (s : ListStore) :
    List (Call × Instant) → ListStore × List Outcome
  | [] => (s, [])
  | (c, now) :: rest =>
    let (s, o) := onStore k wait s now c
    let (s, os) := runOnStore k wait s rest
    (s, o :: os)

/-! ### What the two have in common -/

variable {queue name : String} {b b' : Broker} {s s' : ListStore}

structure Agree (queue name : String) (b : Broker) (s : ListStore) : Prop where
  ready : (s.shelves queue).ready = b.ready.reverse
  dead : (s.shelves queue).dead = b.dead.reverse
  held : ((s.shelves queue).held name).Perm b.inFlight
  isUp : b.isDown = false
  noFaults : b.settleFaults = 0

/-- Both hold their entries in one order, so that a recovery puts them back in one order. -/
def Aligned (queue name : String) (b : Broker) (s : ListStore) : Prop :=
  (s.shelves queue).held name = b.inFlight.reverse

instance (queue name : String) (b : Broker) (s : ListStore) :
    Decidable (Aligned queue name b s) := by
  unfold Aligned
  infer_instance

theorem agree_empty (queue name : String) : Agree queue name .empty .empty :=
  ⟨rfl, rfl, .refl _, rfl, rfl⟩

/-- An operation with one request. -/
theorem performed_of_serve {k : Keys} {op : Remote} {reply : Reply} {a : Remote.Answer}
    (hserve : s.serve (op.request k) = (s', reply)) (hnext : op.next reply = .inl a) :
    performed k s op = (s', outcome a) := by
  rw [performed, Remote.perform, Remote.requests, Remote.run, hserve]
  simp only [hnext]

theorem performed_of_done {k : Keys} {op : Remote}
    (hnext : ∀ reply, op.next reply = .inl .done) :
    performed k s op = ((s.serve (op.request k)).1, .done) :=
  performed_of_serve rfl (hnext _)

/-! ### Call by call -/

variable (wait : String)

def Match (queue name : String) (x : Broker × Outcome) (y : ListStore × Outcome) : Prop :=
  x.2 = y.2 ∧ Agree queue name x.1 y.1

theorem agree_push (h : Agree queue name b s) {raw : String}
    (hshelves : s'.shelves queue =
      { s.shelves queue with ready := raw :: (s.shelves queue).ready }) :
    Agree queue name (b.push raw) s' := by
  constructor
  · rw [hshelves, h.ready]
    exact List.reverse_concat.symm
  · rw [hshelves]
    exact h.dead
  · rw [hshelves]
    exact h.held
  · exact h.isUp
  · exact h.noFaults

theorem match_publish (h : Agree queue name b s) (jobId imageUrl : String) (now : Instant) :
    Match queue name (inMemory b now (.publish jobId imageUrl))
      (onStore (.ofNames queue name) wait s now (.publish jobId imageUrl)) := by
  have hcheck : b.check = .ok () := by
    rw [Broker.check, h.isUp]
    rfl
  cases hm : Message.make jobId imageUrl with
  | error f =>
    have hmemory : inMemory b now (.publish jobId imageUrl) = (b, .refused f) := by
      rw [inMemory, Broker.publish, hcheck, hm]
      rfl
    have hstore : onStore (.ofNames queue name) wait s now (.publish jobId imageUrl) =
        (s, .refused f) := by
      rw [onStore, Remote.ofMessage, hm]
      rfl
    rw [hmemory, hstore]
    exact ⟨rfl, h⟩
  | ok m =>
    have hmemory : inMemory b now (.publish jobId imageUrl) =
        (b.push (Envelope.wrap m now).raw, .done) := by
      rw [inMemory, Broker.publish, hcheck, hm]
      rfl
    have hstore : onStore (.ofNames queue name) wait s now (.publish jobId imageUrl) =
        performed (.ofNames queue name) s (.publish (Envelope.wrap m now).raw) := by
      rw [onStore, Remote.ofMessage, hm]
      rfl
    rw [hmemory, hstore, performed_of_done fun reply => by cases reply <;> rfl]
    exact ⟨rfl, agree_push h (s.shelves_publish queue name _)⟩

/-- A receiver in memory finds the next entry, or leaves with nothing. -/
theorem inMemory_receive_cons {raw : String} {rest : List String} (now : Instant)
    (hup : b.isDown = false) (hready : b.ready = raw :: rest) :
    inMemory b now .receive = ({ b with ready := rest, inFlight := b.inFlight ++ [raw] },
      .delivery (some (.ofRaw raw))) := by
  obtain ⟨ready, inFlight, dead, acked, isDown, settleFaults, bell⟩ := b
  cases hup
  cases hready
  rfl

theorem inMemory_receive_nil (now : Instant) (hup : b.isDown = false) (hready : b.ready = []) :
    ∃ bell, inMemory b now .receive = ({ b with bell := bell }, .delivery none) := by
  obtain ⟨ready, inFlight, dead, acked, isDown, settleFaults, kept, waiting, woken⟩ := b
  cases hup
  cases hready
  -- a ring that was kept makes it look once more
  cases kept with
  | false => exact ⟨_, rfl⟩
  | true => exact ⟨_, rfl⟩

theorem match_receive (h : Agree queue name b s) (now : Instant) :
    Match queue name (inMemory b now .receive)
      (onStore (.ofNames queue name) wait s now .receive) := by
  cases hready : b.ready with
  | nil =>
    obtain ⟨bell, hmemory⟩ := inMemory_receive_nil now h.isUp hready
    have hnone : (s.shelves queue).ready = [] := by rw [h.ready, hready, List.reverse_nil]
    rw [hmemory, onStore, performed_of_serve (s.serve_receive_nil queue name wait hnone) rfl]
    exact ⟨rfl, h.ready, h.dead, h.held, h.isUp, h.noFaults⟩
  | cons raw rest =>
    have hlast : (s.shelves queue).ready = rest.reverse ++ [raw] := by
      rw [h.ready, hready, List.reverse_cons]
    obtain ⟨s', hserve, hshelves⟩ := s.serve_receive_concat queue name wait hlast
    rw [inMemory_receive_cons now h.isUp hready, onStore, performed_of_serve hserve rfl]
    refine ⟨rfl, ?_, ?_, ?_, h.isUp, h.noFaults⟩
    · rw [hshelves]
    · rw [hshelves]
      exact h.dead
    · simp only [hshelves, Function.update_self]
      exact (h.held.cons raw).trans (List.perm_append_singleton raw _).symm

/-- A settlement on a list store adds one entry at most, and takes one copy of its own. -/
theorem performed_settlement (s : ListStore) (queue name raw : String) (now : Instant)
    (settlement : Broker.Settlement) :
    ∃ s', performed (.ofNames queue name) s (.ofSettlement (.ofRaw raw) now settlement) =
        (s', .done) ∧
      s'.shelves queue = ⟨settlement.back raw now ++ (s.shelves queue).ready,
        settlement.buried raw now ++ (s.shelves queue).dead,
        Function.update (s.shelves queue).held name (((s.shelves queue).held name).erase raw)⟩ := by
  cases settlement with
  | ack =>
    obtain ⟨s', hserve, hshelves⟩ := s.serve_acknowledge queue name raw
    refine ⟨s', ?_, hshelves⟩
    rw [Remote.ofSettlement, ofRaw_raw, performed_of_serve hserve rfl]
    rfl
  | requeue reason =>
    refine ⟨_, ?_, s.shelves_replace queue name raw (retriedRaw raw reason now) false⟩
    rw [Remote.ofSettlement, ofRaw_raw]
    exact performed_of_done fun reply => by cases reply <;> rfl
  | deadLetter reason =>
    refine ⟨_, ?_, s.shelves_replace queue name raw (retriedRaw raw reason now) true⟩
    rw [Remote.ofSettlement, ofRaw_raw]
    exact performed_of_done fun reply => by cases reply <;> rfl

theorem match_settle (h : Agree queue name b s) (raw : String) (now : Instant)
    (settlement : Broker.Settlement) :
    Match queue name (inMemory b now (.settle raw settlement))
      (onStore (.ofNames queue name) wait s now (.settle raw settlement)) := by
  have hmemory : inMemory b now (.settle raw settlement) =
      (b.settle (.ofRaw raw) now settlement, .done) := by
    rw [inMemory, Broker.trySettle_of_noFault h.noFaults]
  obtain ⟨s', hperformed, hshelves⟩ := performed_settlement s queue name raw now settlement
  obtain ⟨hready, hdead⟩ := b.lists_settle raw now settlement
  obtain ⟨hdown, hfaults⟩ := b.faults_settle raw now settlement
  have hone : ∀ items : List String, items.length ≤ 1 → items.reverse = items := by
    intro items hlength
    match items, hlength with
    | [], _ => rfl
    | [_], _ => rfl
  rw [hmemory, onStore, hperformed]
  refine ⟨rfl, ?_, ?_, ?_, hdown.trans h.isUp, hfaults.trans h.noFaults⟩
  · rw [hshelves, hready, List.reverse_append, ← h.ready, hone]
    cases settlement <;> simp [Broker.Settlement.back]
  · rw [hshelves, hdead, List.reverse_append, ← h.dead, hone]
    cases settlement <;> simp [Broker.Settlement.buried]
  · simp only [hshelves, Function.update_self]
    exact (h.held.erase raw).trans (b.inFlight_settle raw now settlement).symm

theorem performed_recover (s : ListStore) (queue name : String) :
    ∃ s', performed (.ofNames queue name) s (.recover 0) =
        (s', .count ((s.shelves queue).held name).length) ∧
      s'.shelves queue = ⟨(s.shelves queue).ready ++ ((s.shelves queue).held name).reverse,
        (s.shelves queue).dead, Function.update (s.shelves queue).held name []⟩ := by
  obtain ⟨s', hperform, hshelves⟩ := s.perform_recover queue name
  refine ⟨s', ?_, hshelves⟩
  rw [performed, hperform]
  rfl

theorem recover_eq (b : Broker) :
    ∃ bell, b.recover =
      (b.inFlight.length,
        { b with ready := b.inFlight.reverse ++ b.ready, inFlight := [], bell := bell }) := by
  rw [Broker.recover]
  cases b.inFlight.isEmpty with
  | true => exact ⟨_, rfl⟩
  | false => exact ⟨_, rfl⟩

/-- Recoveries give one number; the lists agree afterwards if both held their entries in one
    order. -/
theorem match_recover (h : Agree queue name b s) (now : Instant) :
    (inMemory b now .recover).2 = (onStore (.ofNames queue name) wait s now .recover).2 ∧
      (Aligned queue name b s → Agree queue name (inMemory b now .recover).1
        (onStore (.ofNames queue name) wait s now .recover).1) := by
  obtain ⟨s', hperformed, hshelves⟩ := performed_recover s queue name
  obtain ⟨bell, hrecover⟩ := recover_eq b
  rw [onStore, hperformed, inMemory, hrecover]
  constructor
  · rw [h.held.length_eq]
  · intro haligned
    rw [Aligned] at haligned
    refine ⟨?_, ?_, ?_, h.isUp, h.noFaults⟩
    · rw [hshelves, List.reverse_append, haligned, h.ready]
    · rw [hshelves]
      exact h.dead
    · simp only [hshelves, Function.update_self, List.Perm.refl]

theorem match_depth (h : Agree queue name b s) (now : Instant) :
    Match queue name (inMemory b now .depth) (onStore (.ofNames queue name) wait s now .depth) := by
  have hstore : performed (.ofNames queue name) s .depth =
      (s, .count (s.shelves queue).ready.length) :=
    performed_of_serve (a := .count (s.shelves queue).ready.length) rfl rfl
  rw [onStore, hstore, h.ready, List.length_reverse]
  exact ⟨rfl, h⟩

/-- **Call by call**, one outcome; the lists agree afterwards but for a recovery that finds them
    in two orders. -/
theorem match_call (h : Agree queue name b s) (now : Instant) (c : Call) :
    (inMemory b now c).2 = (onStore (.ofNames queue name) wait s now c).2 ∧
      ((c = .recover → Aligned queue name b s) →
        Agree queue name (inMemory b now c).1 (onStore (.ofNames queue name) wait s now c).1) := by
  cases c with
  | publish jobId imageUrl =>
    obtain ⟨houtcome, hagree⟩ := match_publish wait h jobId imageUrl now
    exact ⟨houtcome, fun _ => hagree⟩
  | receive =>
    obtain ⟨houtcome, hagree⟩ := match_receive wait h now
    exact ⟨houtcome, fun _ => hagree⟩
  | settle raw settlement =>
    obtain ⟨houtcome, hagree⟩ := match_settle wait h raw now settlement
    exact ⟨houtcome, fun _ => hagree⟩
  | recover =>
    obtain ⟨houtcome, hagree⟩ := match_recover wait h now
    exact ⟨houtcome, fun haligned => hagree (haligned rfl)⟩
  | depth =>
    obtain ⟨houtcome, hagree⟩ := match_depth wait h now
    exact ⟨houtcome, fun _ => hagree⟩

/-! ### Sequences of calls -/

/-- No recovery finds the held entries in two orders. -/
def Orderly (queue name wait : String) : Broker → ListStore → List (Call × Instant) → Prop
  | _, _, [] => True
  | b, s, (c, now) :: rest =>
    (c = .recover → Aligned queue name b s) ∧
      Orderly queue name wait (inMemory b now c).1
        (onStore (.ofNames queue name) wait s now c).1 rest

def decideOrderly (queue name wait : String) :
    (b : Broker) → (s : ListStore) → (calls : List (Call × Instant)) →
      Decidable (Orderly queue name wait b s calls)
  | _, _, [] => .isTrue trivial
  | b, s, (c, now) :: rest =>
    have := decideOrderly queue name wait (inMemory b now c).1
      (onStore (.ofNames queue name) wait s now c).1 rest
    inferInstanceAs (Decidable (_ ∧ _))

instance (queue name wait : String) (b : Broker) (s : ListStore) (calls : List (Call × Instant)) :
    Decidable (Orderly queue name wait b s calls) := decideOrderly queue name wait b s calls

theorem match_run {calls : List (Call × Instant)} (h : Agree queue name b s)
    (horderly : Orderly queue name wait b s calls) :
    (runInMemory b calls).2 = (runOnStore (.ofNames queue name) wait s calls).2 ∧
      Agree queue name (runInMemory b calls).1
        (runOnStore (.ofNames queue name) wait s calls).1 := by
  induction calls generalizing b s with
  | nil => exact ⟨rfl, h⟩
  | cons call rest ih =>
    obtain ⟨c, now⟩ := call
    obtain ⟨haligned, hrest⟩ := horderly
    obtain ⟨houtcome, hagree⟩ := match_call wait h now c
    obtain ⟨houtcomes, hend⟩ := ih (hagree haligned) hrest
    exact ⟨congrArg₂ List.cons houtcome houtcomes, hend⟩

theorem outcomes_append (k : Keys) (b : Broker) (s : ListStore)
    (calls rest : List (Call × Instant)) :
    (runInMemory b (calls ++ rest)).2 =
        (runInMemory b calls).2 ++ (runInMemory (runInMemory b calls).1 rest).2 ∧
      (runOnStore k wait s (calls ++ rest)).2 =
        (runOnStore k wait s calls).2 ++
          (runOnStore k wait (runOnStore k wait s calls).1 rest).2 := by
  induction calls generalizing b s with
  | nil => exact ⟨rfl, rfl⟩
  | cons call calls ih =>
    obtain ⟨c, now⟩ := call
    obtain ⟨hmemory, hstore⟩ := ih (inMemory b now c).1 (onStore k wait s now c).1
    exact ⟨congrArg (List.cons _) hmemory, congrArg (List.cons _) hstore⟩

/-! ### Where the two part -/

theorem outcomes_inMemory_cons (b : Broker) (c : Call) (now : Instant)
    (rest : List (Call × Instant)) :
    (runInMemory b ((c, now) :: rest)).2 =
      (inMemory b now c).2 :: (runInMemory (inMemory b now c).1 rest).2 := rfl

theorem outcomes_onStore_cons (k : Keys) (wait : String) (s : ListStore) (c : Call)
    (now : Instant) (rest : List (Call × Instant)) :
    (runOnStore k wait s ((c, now) :: rest)).2 =
      (onStore k wait s now c).2 :: (runOnStore k wait (onStore k wait s now c).1 rest).2 := rfl

def delivered (entries : List String) : List Outcome :=
  entries.map fun raw => .delivery (some (.ofRaw raw))

theorem delivered_injective : Function.Injective delivered := by
  apply List.map_injective_iff.mpr
  intro raw raw' h
  simp only [Outcome.delivery.injEq, Option.some.injEq] at h
  rw [← ofRaw_raw raw, h, ofRaw_raw]

/-- As many deliveries as there are calls. -/
theorem runInMemory_receive {entries rest : List String} (now : Instant) (hup : b.isDown = false)
    (hready : b.ready = entries ++ rest) :
    (runInMemory b (List.replicate entries.length (.receive, now))).2 =
      delivered entries := by
  induction entries generalizing b with
  | nil => rfl
  | cons raw entries ih =>
    rw [List.cons_append] at hready
    have hrest := ih (b := { b with
      ready := entries ++ rest, inFlight := b.inFlight ++ [raw] }) hup rfl
    rw [List.length_cons, List.replicate_succ, outcomes_inMemory_cons,
      inMemory_receive_cons now hup hready, hrest]
    rfl

theorem runOnStore_receive {entries rest : List String} (now : Instant)
    (hready : (s.shelves queue).ready = rest ++ entries.reverse) :
    (runOnStore (.ofNames queue name) wait s (List.replicate entries.length (.receive, now))).2 =
      delivered entries := by
  induction entries generalizing s with
  | nil => rfl
  | cons raw entries ih =>
    rw [List.reverse_cons, ← List.append_assoc] at hready
    obtain ⟨s', hserve, hshelves⟩ := s.serve_receive_concat queue name wait hready
    have hone : onStore (.ofNames queue name) wait s now .receive =
        (s', .delivery (some (.ofRaw raw))) := performed_of_serve hserve rfl
    have hrest := ih (s := s') (by rw [hshelves])
    rw [List.length_cons, List.replicate_succ, outcomes_onStore_cons, hone, hrest]
    rfl

/-- **The order of what is held decides about the next deliveries**: they are the same just if
    both hold their entries in one order. -/
theorem deliveries_after_recovery (h : Agree queue name b s) (now : Instant) :
    (runInMemory b ((.recover, now) :: List.replicate b.inFlight.length (.receive, now))).2 =
        (runOnStore (.ofNames queue name) wait s
          ((.recover, now) :: List.replicate b.inFlight.length (.receive, now))).2 ↔
      Aligned queue name b s := by
  obtain ⟨s', hperformed, hshelves⟩ := performed_recover s queue name
  obtain ⟨bell, hrecover⟩ := recover_eq b
  have hmemory : (runInMemory (inMemory b now .recover).1
      (List.replicate b.inFlight.length (.receive, now))).2 = delivered b.inFlight.reverse := by
    rw [inMemory, hrecover, ← List.length_reverse]
    exact runInMemory_receive now h.isUp rfl
  have hstore : (runOnStore (.ofNames queue name) wait s'
      (List.replicate b.inFlight.length (.receive, now))).2 =
        delivered ((s.shelves queue).held name) := by
    rw [← h.held.length_eq]
    exact runOnStore_receive wait now (by rw [hshelves])
  have hone : onStore (.ofNames queue name) wait s now .recover = (s', _) := hperformed
  rw [outcomes_inMemory_cons, outcomes_onStore_cons, (match_recover wait h now).1, hmemory,
    hone, hstore, List.cons_inj_right]
  constructor
  · intro heq
    exact (delivered_injective heq).symm
  · intro haligned
    rw [haligned]

/-! ### The two queues -/

theorem envelopes_reverse (entries : List String) :
    Broker.envelopes entries.reverse = (Broker.envelopes entries).reverse :=
  List.filterMap_reverse

/-- **The two queues agree** as long as no recovery finds the held entries in two orders: they
    give the same deliveries in one order, the same numbers and the same refusals, and hold the
    same dead envelopes.  The next recovery gives the same number even then; the deliveries after
    it are the same just if it finds the held entries in one order. -/
theorem queues_agree {calls : List (Call × Instant)}
    (h : Orderly queue name wait .empty .empty calls) :
    let k := Keys.ofNames queue name
    let memory := runInMemory .empty calls
    let store := runOnStore k wait .empty calls
    memory.2 = store.2 ∧
      Broker.envelopes (store.1.shelves queue).dead = (Broker.envelopes memory.1.dead).reverse ∧
      ∀ now,
        (inMemory memory.1 now .recover).2 = (onStore k wait store.1 now .recover).2 ∧
        ((runInMemory memory.1
              ((.recover, now) :: List.replicate memory.1.inFlight.length (.receive, now))).2 =
            (runOnStore k wait store.1
              ((.recover, now) :: List.replicate memory.1.inFlight.length (.receive, now))).2 ↔
          Aligned queue name memory.1 store.1) := by
  intro k memory store
  obtain ⟨houtcomes, hagree⟩ := match_run wait (agree_empty queue name) h
  refine ⟨houtcomes, ?_, ?_⟩
  · rw [hagree.dead, envelopes_reverse]
  · intro now
    exact ⟨(match_recover wait hagree now).1, deliveries_after_recovery wait hagree now⟩

def noon : Instant := ⟨⟨2024, 6, 1⟩, 43200, 0⟩

def first : String := (Envelope.wrap ⟨"job-1", "https://x/a.png"⟩ noon).raw

def holding : List (Call × Instant) :=
  [(.publish "job-1" "https://x/a.png", noon), (.publish "job-2" "https://x/b.png", noon),
    (.publish "job-3" "https://x/c.png", noon), (.receive, noon), (.receive, noon),
    (.receive, noon)]

theorem queues_agree_after_holding :
    Orderly "jobs" "w1" "5" .empty .empty
        (holding ++ [(.recover, noon), (.receive, noon), (.settle first .ack, noon)]) ∧
      (runInMemory .empty
          (holding ++ [(.recover, noon), (.receive, noon), (.settle first .ack, noon)])).2 =
        (runOnStore (.ofNames "jobs" "w1") "5" .empty
          (holding ++ [(.recover, noon), (.receive, noon), (.settle first .ack, noon)])).2 := by
  have horderly : Orderly "jobs" "w1" "5" .empty .empty
      (holding ++ [(.recover, noon), (.receive, noon), (.settle first .ack, noon)]) := by
    decide +kernel
  exact ⟨horderly, (queues_agree "5" horderly).1⟩

def settling : List (Call × Instant) := holding ++ [(.settle first .ack, noon)]

/-- Once the first of three deliveries is acknowledged, memory holds the third entry before the
    second one, and delivers the second one first after a recovery. -/
theorem deliveries_part_after_settling :
    (runInMemory .empty
        (settling ++ (.recover, noon) :: List.replicate 2 (.receive, noon))).2 ≠
      (runOnStore (.ofNames "jobs" "w1") "5" .empty
        (settling ++ (.recover, noon) :: List.replicate 2 (.receive, noon))).2 := by
  have horderly : Orderly "jobs" "w1" "5" .empty .empty settling := by decide +kernel
  obtain ⟨houtcomes, hagree⟩ := match_run "5" (agree_empty "jobs" "w1") horderly
  have hheld : (runInMemory .empty settling).1.inFlight.length = 2 ∧
      ¬ Aligned "jobs" "w1" (runInMemory .empty settling).1
        (runOnStore (.ofNames "jobs" "w1") "5" .empty settling).1 := by
    decide +kernel
  have hpart := mt (deliveries_after_recovery "5" hagree noon).mp hheld.2
  obtain ⟨hmemory, hstore⟩ := outcomes_append "5" (.ofNames "jobs" "w1") .empty .empty settling
    ((.recover, noon) :: List.replicate 2 (.receive, noon))
  rw [hheld.1] at hpart
  rw [hmemory, hstore, houtcomes]
  exact fun heq => hpart (List.append_cancel_left heq)

end DetectionJobs.Queue.Twins
