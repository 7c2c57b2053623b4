/-
  DetectionJobs/Proofs/Workshop/Statistics.lean
  =============================================
  **What a worker counted agrees with its queue.**

  A task counts its outcome with the answer to its last settlement, so that every count has an
  event in the trace.  The lists of the queue change with the same settlements; that an
  acknowledgement finds its entry rests on every task of the only worker holding its own.
  Once no task is left, each delivery that was handed out is counted or lost with its task.
-/
import DetectionJobs.Proofs.Workshop.Basic

namespace DetectionJobs

namespace Tally

def total (t : Tally) : Nat :=
  t.completed + t.failed + t.dropped + t.requeued + t.deadLettered + t.unsettled

theorem total_add (t : Tally) (o : Outcome) : (t.add o).total = t.total + 1 := by
  cases o <;> simp only [add, total] <;> omega

end Tally

namespace Workshop

open Worker
open Fleet (Holding Follows)
open Queue.Broker (Settlement)

/-! ### What the trace tells -/

namespace Event

def handed? : Event → Option Nat
  | .handed n => some n
  | _ => none

def lost? : Event → Option Nat
  | .lost n => some n
  | _ => none

def ended? : Event → Option Nat
  | .settled n _ => some n
  | .gaveUp n _ => some n
  | _ => none

def isRequeue : Event → Bool
  | .settled _ (.requeue _) => true
  | _ => false

def isUnacknowledged : Event → Bool
  | .gaveUp _ .ack => true
  | _ => false

def isUnsettled : Event → Bool
  | .gaveUp _ (.requeue _) => true
  | .gaveUp _ (.deadLetter _) => true
  | _ => false

theorem uncounted {e : Event} (h : e.ended? = none) :
    e.isRequeue = false ∧ e.isUnacknowledged = false ∧ e.isUnsettled = false := by
  cases e with
  | handed n => exact ⟨rfl, rfl, rfl⟩
  | lost n => exact ⟨rfl, rfl, rfl⟩
  | settled n s => cases h
  | gaveUp n s => cases h

end Event

def handed (trace : List Event) : List Nat := trace.filterMap Event.handed?

def lost (trace : List Event) : List Nat := trace.filterMap Event.lost?

def ended (trace : List Event) : List Nat := trace.filterMap Event.ended?

theorem handed_append (trace es : List Event) : handed (trace ++ es) = handed trace ++ handed es :=
  List.filterMap_append

theorem lost_append (trace es : List Event) : lost (trace ++ es) = lost trace ++ lost es :=
  List.filterMap_append

theorem ended_append (trace es : List Event) : ended (trace ++ es) = ended trace ++ ended es :=
  List.filterMap_append

/-- The delivery of an entry that was held is settled, as the lists of the queue show it: a
    requeue adds the next envelope to the entries that wait, and a dead letter to the dead. -/
structure TookEffect (b b' : Queue.Broker) (raw : String) (now : Instant) (s : Settlement) :
    Prop where
  held : raw ∈ b.inFlight
  inFlight : b'.inFlight.Perm (b.inFlight.erase raw)
  ready : b'.ready = b.ready ++ s.back raw now
  dead : b'.dead = b.dead ++ s.buried raw now
  acked : b'.acked = b.acked + if s = .ack then 1 else 0

theorem tookEffect_of_held {b b' : Queue.Broker} {raw : String} {now : Instant} {s : Settlement}
    (hheld : raw ∈ b.inFlight) (hbroker : b' = b.settle (.ofRaw raw) now s) :
    TookEffect b b' raw now s := by
  obtain ⟨hready, hdead⟩ := b.lists_settle raw now s
  rw [hbroker]
  exact ⟨hheld, b.inFlight_settle raw now s, hready, hdead, b.acked_settle hheld now s⟩

structure Counts (stats : Tally) (b : Queue.Broker) (trace : List Event) : Prop where
  deadLettered : stats.deadLettered = b.dead.length
  requeued : stats.requeued = trace.countP Event.isRequeue
  processed : stats.completed + stats.failed + stats.dropped =
    b.acked + trace.countP Event.isUnacknowledged
  unsettled : stats.unsettled = trace.countP Event.isUnsettled
  total : stats.total = (ended trace).length

section Counts

variable {stats : Tally} {b b' : Queue.Broker} {trace es : List Event} {x : Settling}

theorem countP_of_unended {p : Event → Bool} (hp : ∀ e : Event, e.ended? = none → p e = false)
    (hes : ∀ e ∈ es, e.ended? = none) : es.countP p = 0 := by
  rw [List.countP_eq_zero]
  intro e he
  exact Bool.eq_false_iff.mp (hp e (hes e he))

/-- Nothing is counted while no task comes to its end. -/
theorem Counts.of_unended (h : Counts stats b trace)
    (hkept : b'.dead = b.dead ∧ b'.acked = b.acked) (hes : ∀ e ∈ es, e.ended? = none) :
    Counts stats b' (trace ++ es) := by
  have hrequeue := countP_of_unended (fun _ he => (Event.uncounted he).1) hes
  have hunacknowledged := countP_of_unended (fun _ he => (Event.uncounted he).2.1) hes
  have hunsettled := countP_of_unended (fun _ he => (Event.uncounted he).2.2) hes
  have hended : ended es = [] := List.filterMap_eq_nil_iff.mpr hes
  obtain ⟨hdead, hacked⟩ := hkept
  constructor
  · rw [hdead]
    exact h.deadLettered
  · rw [List.countP_append, hrequeue]
    exact h.requeued
  · rw [List.countP_append, hunacknowledged, hacked]
    exact h.processed
  · rw [List.countP_append, hunsettled]
    exact h.unsettled
  · rw [ended_append, hended, List.append_nil]
    exact h.total

/-- The end of a task that counts as `o`. -/
structure Counted (o : Outcome) (b b' : Queue.Broker) (e : Event) : Prop where
  ended : e.ended?.isSome = true
  deadLettered : b'.dead.length = b.dead.length + if o = .deadLettered then 1 else 0
  requeued : e.isRequeue = decide (o = .requeued)
  processed : (b'.acked + if e.isUnacknowledged then 1 else 0) =
    b.acked + if o ∈ [Outcome.completed, .failed, .dropped] then 1 else 0
  unsettled : e.isUnsettled = decide (o = .unsettled)

theorem Counts.of_counted (h : Counts stats b trace) {o : Outcome} {e : Event}
    (hcounted : Counted o b b' e) : Counts (stats.add o) b' (trace ++ [e]) := by
  obtain ⟨n, hn⟩ := Option.isSome_iff_exists.mp hcounted.ended
  have hprocessed := hcounted.processed
  constructor
  · rw [hcounted.deadLettered, ← h.deadLettered]
    cases o <;> rfl
  · rw [List.countP_append, List.countP_singleton, hcounted.requeued, ← h.requeued]
    cases o <;> rfl
  · rw [List.countP_append, List.countP_singleton]
    have hbefore := h.processed
    cases o <;> simp [Tally.add] at hprocessed ⊢ <;> omega
  · rw [List.countP_append, List.countP_singleton, hcounted.unsettled, ← h.unsettled]
    cases o <;> rfl
  · rw [Tally.total_add, h.total]
    simp [ended, hn]

theorem counted_of_settled {raw : String} {now : Instant}
    (heffect : TookEffect b b' raw now x.settlement) (hsound : x.Sound) (n : Nat) :
    Counted x.settled b b' (.settled n x.settlement) := by
  have hdead := congrArg List.length heffect.dead
  have hacked := heffect.acked
  rw [List.length_append] at hdead
  unfold Settling.Sound at hsound
  cases hsettlement : x.settlement with
  | ack =>
    rw [hsettlement] at hsound hdead hacked
    obtain ⟨_, hprocessed⟩ := hsound
    simp only [List.mem_cons, List.not_mem_nil, or_false] at hprocessed
    rcases hprocessed with ho | ho | ho <;> rw [ho] <;> exact ⟨rfl, hdead, rfl, hacked, rfl⟩
  | requeue reason =>
    rw [hsettlement] at hsound hdead hacked
    rw [hsound.1]
    exact ⟨rfl, hdead, rfl, hacked, rfl⟩
  | deadLetter reason =>
    rw [hsettlement] at hsound hdead hacked
    rw [hsound.1]
    exact ⟨rfl, hdead, rfl, hacked, rfl⟩

/-- A settlement that is given up is counted as an outcome of its own, but for an
    acknowledgement. -/
theorem counted_of_gaveUp (hkept : b'.dead = b.dead ∧ b'.acked = b.acked) (hsound : x.Sound)
    (n : Nat) :
    Counted x.held b b' (.gaveUp n x.settlement) := by
  obtain ⟨hdead, hacked⟩ := hkept
  unfold Settling.Sound at hsound
  cases hsettlement : x.settlement with
  | ack =>
    rw [hsettlement] at hsound
    obtain ⟨hheld, hprocessed⟩ := hsound
    rw [hheld]
    simp only [List.mem_cons, List.not_mem_nil, or_false] at hprocessed
    rcases hprocessed with ho | ho | ho <;> rw [ho] <;>
      exact ⟨rfl, congrArg _ hdead, rfl, congrArg (· + 1) hacked, rfl⟩
  | requeue reason =>
    rw [hsettlement] at hsound
    rw [hsound.2]
    exact ⟨rfl, congrArg _ hdead, rfl, hacked, rfl⟩
  | deadLetter reason =>
    rw [hsettlement] at hsound
    rw [hsound.2]
    exact ⟨rfl, congrArg _ hdead, rfl, hacked, rfl⟩

end Counts

/-! ### The books -/

/-- What holds of a workshop at any time. -/
structure Books (trace : List Event) (w : Workshop) : Prop where
  holding : Holding w.backend.broker.inFlight w.shift
  deliveries : ∀ e ∈ w.shift.tasks, ∃ raw, e.2.delivery = .ofRaw raw
  sound : ∀ e ∈ w.shift.tasks, e.2.phase.Sound
  counts : Counts w.shift.ledger.stats w.backend.broker trace
  handed : handed trace = List.range w.shift.started
  numbers : (Workshop.handed trace).Perm (ended trace ++ lost trace ++ w.shift.tasks.map (·.1))

variable {c : Config} {w w' : Workshop} {trace es : List Event}

theorem books_opening (c : Config) (number : Nat) (isStopped : Bool) (r : Repository)
    (metrics : Metrics) : Books [] (opening c number isStopped r metrics) where
  holding := .of_idle rfl
  deliveries := nofun
  sound := nofun
  counts := ⟨rfl, rfl, rfl, rfl, rfl⟩
  handed := rfl
  numbers := .refl _

/-- Tasks may go, and then they are lost. -/
theorem Books.of_lost (h : Books trace w) (ns : List Nat)
    (hholding : Holding w'.backend.broker.inFlight w'.shift)
    (hkept : w'.backend.broker.dead = w.backend.broker.dead ∧
      w'.backend.broker.acked = w.backend.broker.acked)
    (hstats : w'.shift.ledger.stats = w.shift.ledger.stats)
    (htasks : ∀ e ∈ w'.shift.tasks, e ∈ w.shift.tasks)
    (hnumbers : (w.shift.tasks.map (·.1)).Perm (ns ++ w'.shift.tasks.map (·.1)))
    (hstarted : w'.shift.started = w.shift.started) :
    Books (trace ++ ns.map .lost) w' := by
  have hunended : ∀ e ∈ ns.map Event.lost, e.ended? = none := by
    intro e he
    obtain ⟨n, _, rfl⟩ := List.mem_map.mp he
    rfl
  have hhanded : Workshop.handed (ns.map .lost) = [] := by
    rw [Workshop.handed, List.filterMap_map, List.filterMap_eq_nil_iff]
    exact fun _ _ => rfl
  have hlost : lost (ns.map .lost) = ns := by
    rw [lost, List.filterMap_map]
    exact List.filterMap_some
  have hended : ended (ns.map .lost) = [] := List.filterMap_eq_nil_iff.mpr hunended
  refine ⟨hholding, fun e he => h.deliveries e (htasks e he), fun e he => h.sound e (htasks e he),
    ?_, ?_, ?_⟩
  · rw [hstats]
    exact h.counts.of_unended hkept hunended
  · rw [handed_append, hhanded, List.append_nil, hstarted]
    exact h.handed
  · rw [handed_append, lost_append, ended_append, hhanded, hlost, hended, List.append_nil,
      List.append_nil, ← List.append_assoc, List.append_assoc]
    exact h.numbers.trans (hnumbers.append_left _)

theorem Books.of_handed (h : Books trace w) (raw : String)
    (hholding : Holding w'.backend.broker.inFlight w'.shift)
    (hkept : w'.backend.broker.dead = w.backend.broker.dead ∧
      w'.backend.broker.acked = w.backend.broker.acked)
    (hstats : w'.shift.ledger.stats = w.shift.ledger.stats)
    (htasks : w'.shift.tasks = w.shift.tasks ++ [(w.shift.started, .start (.ofRaw raw))])
    (hstarted : w'.shift.started = w.shift.started + 1) :
    Books (trace ++ [.handed w.shift.started]) w' := by
  have hunended : ∀ e ∈ [Event.handed w.shift.started], e.ended? = none := by
    intro e he
    rw [List.mem_singleton.mp he]
    rfl
  refine ⟨hholding, ?_, ?_, ?_, ?_, ?_⟩
  · rw [htasks]
    intro e he
    rcases List.mem_append.mp he with hold | hnew
    · exact h.deliveries e hold
    · rw [List.mem_singleton.mp hnew]
      exact ⟨raw, rfl⟩
  · rw [htasks]
    intro e he
    rcases List.mem_append.mp he with hold | hnew
    · exact h.sound e hold
    · rw [List.mem_singleton.mp hnew]
      trivial
  · rw [hstats]
    exact h.counts.of_unended hkept hunended
  · rw [handed_append, hstarted, List.range_succ, h.handed]
    rfl
  · rw [handed_append, lost_append, ended_append, htasks, List.map_append]
    show (Workshop.handed trace ++ [_]).Perm (ended trace ++ [] ++ (lost trace ++ []) ++ (_ ++ [_]))
    rw [List.append_nil, List.append_nil, ← List.append_assoc]
    exact h.numbers.append_right [w.shift.started]

theorem Books.of_going (h : Books trace w) {n : Nat} {t : Task} {phase : Phase}
    (ht : (n, t) ∈ w.shift.tasks) (hfollows : Follows w.shift w'.shift n t (some phase))
    (hlists : w.backend.broker.Same w'.backend.broker)
    (hstats : w'.shift.ledger.stats = w.shift.ledger.stats) (hsound : phase.Sound) :
    Books trace w' := by
  have hcounts : Counts w.shift.ledger.stats w'.backend.broker (trace ++ []) :=
    h.counts.of_unended ⟨hlists.dead, hlists.acked⟩ nofun
  rw [List.append_nil] at hcounts
  refine ⟨h.holding.of_follows ht hfollows (Or.inl hlists.inFlight), ?_, ?_, ?_, ?_, ?_⟩
  · rw [hfollows.tasks]
    intro e he
    rcases Fleet.mem_advance he with hold | ⟨_, _, rfl⟩
    · exact h.deliveries e hold
    · exact h.deliveries (n, t) ht
  · rw [hfollows.tasks]
    intro e he
    rcases Fleet.mem_advance he with hold | ⟨_, hphase, rfl⟩
    · exact h.sound e hold
    · cases hphase
      exact hsound
  · rw [hstats]
    exact hcounts
  · rw [hfollows.started]
    exact h.handed
  · rw [(Fleet.entries_advance h.holding.nodup ht hfollows).2]
    exact h.numbers

theorem Books.of_ended (h : Books trace w) {n : Nat} {t : Task} {o : Outcome} {e : Event}
    (ht : (n, t) ∈ w.shift.tasks) (hfollows : Follows w.shift w'.shift n t none)
    (hheld : w'.backend.broker.inFlight = w.backend.broker.inFlight ∨
      w'.backend.broker.inFlight.Perm (w.backend.broker.inFlight.erase t.delivery.raw))
    (hstats : w'.shift.ledger.stats = w.shift.ledger.stats.add o) (hended : e.ended? = some n)
    (hcounted : Counted o w.backend.broker w'.backend.broker e) : Books (trace ++ [e]) w' := by
  have hsub : ∀ e ∈ w'.shift.tasks, e ∈ w.shift.tasks := by
    rw [hfollows.tasks]
    exact fun e he => (List.mem_filter.mp he).1
  have hsingle : Workshop.handed [e] = [] ∧ lost [e] = [] ∧ ended [e] = [n] := by
    cases e <;> cases hended <;> exact ⟨rfl, rfl, rfl⟩
  obtain ⟨hhanded, hlost, hended⟩ := hsingle
  refine ⟨h.holding.of_follows ht hfollows (hheld.imp_right fun hperm => ⟨rfl, hperm⟩),
    fun e he => h.deliveries e (hsub e he), fun e he => h.sound e (hsub e he), ?_, ?_, ?_⟩
  · rw [hstats]
    exact h.counts.of_counted hcounted
  · rw [handed_append, hhanded, List.append_nil, hfollows.started]
    exact h.handed
  · -- the number of the task moves over to those that ended
    have hnumbers := (Fleet.perm_filter_number h.holding.nodup ht).map (·.1)
    rw [List.map_cons, ← Fleet.advance, ← hfollows.tasks] at hnumbers
    rw [handed_append, lost_append, ended_append, hhanded, hlost, hended, List.append_nil,
      List.append_nil]
    calc Workshop.handed trace
      _ |>.Perm (ended trace ++ lost trace ++ w.shift.tasks.map (·.1)) := h.numbers
      _ |>.Perm (ended trace ++ lost trace ++ n :: w'.shift.tasks.map (·.1)) :=
        hnumbers.append_left _
      _ |>.Perm (ended trace ++ [n] ++ lost trace ++ w'.shift.tasks.map (·.1)) := by
        simp only [List.append_assoc, List.singleton_append]
        exact List.perm_middle.append_left _

theorem Books.of_gone (h : Books trace w) {n : Nat} {t : Task} (ht : (n, t) ∈ w.shift.tasks)
    (hfollows : Follows w.shift w'.shift n t none)
    (hlists : w.backend.broker.Same w'.backend.broker)
    (hstats : w'.shift.ledger.stats = w.shift.ledger.stats) : Books (trace ++ [.lost n]) w' := by
  refine h.of_lost [n] (h.holding.of_follows ht hfollows (Or.inl hlists.inFlight))
    ⟨hlists.dead, hlists.acked⟩ hstats ?_ ?_ hfollows.started
  · rw [hfollows.tasks]
    exact fun e he => (List.mem_filter.mp he).1
  · rw [hfollows.tasks]
    exact (Fleet.perm_filter_number h.holding.nodup ht).map (·.1)

theorem kept_of_turn {b b' : Queue.Broker} {s s' : Shift} (h : Shift.Turn b s b' s') :
    b'.dead = b.dead ∧ b'.acked = b.acked := by
  cases h with
  | quiet hlists => exact ⟨hlists.dead, hlists.acked⟩
  | recovered => exact ⟨b.same_recover.dead, b.same_recover.acked⟩
  | handed => exact ⟨rfl, rfl⟩
  | abandoned => exact ⟨rfl, rfl⟩

/-- A task holds the entry that it settles. -/
theorem Books.tookEffect (h : Books trace w) {n : Nat} {t : Task} {b' : Queue.Broker}
    {now : Instant} {s : Settlement} (ht : (n, t) ∈ w.shift.tasks)
    (hbroker : b' = w.backend.broker.settle t.delivery now s) :
    ∃ raw, t.delivery = .ofRaw raw ∧ TookEffect w.backend.broker b' raw now s := by
  obtain ⟨raw, hraw⟩ := h.deliveries _ ht
  have hheld := h.holding.held.subset (List.mem_map_of_mem (f := fun e => e.2.delivery.raw) ht)
  rw [hraw] at hheld hbroker
  rw [Queue.ofRaw_raw] at hheld
  exact ⟨raw, hraw, tookEffect_of_held hheld hbroker⟩

theorem Books.of_loop (h : Books trace w) {move : Shift.Move} {b : Queue.Broker} {s : Shift}
    (hmove : w.shift.move? w.backend.broker move = some (b, s)) :
    Books (trace ++ loopReport w.backend.broker w.shift move)
      ⟨{ w.backend with broker := b }, s⟩ := by
  obtain ⟨_, hturn⟩ := Shift.turn_of_move hmove
  obtain ⟨hstats, hfeat⟩ := loopFeat_of_move hmove
  have hholding := h.holding.of_turn hturn
  have hkept := kept_of_turn hturn
  generalize loopReport w.backend.broker w.shift move = es at hfeat ⊢
  cases hfeat with
  | quiet htasks hstarted =>
    refine h.of_lost [] hholding hkept hstats ?_ ?_ hstarted
    · show ∀ e ∈ s.tasks, _
      rw [htasks]
      exact fun e he => he
    · show List.Perm _ ([] ++ s.tasks.map _)
      rw [htasks]
      exact .refl _
  | handed raw htasks hstarted => exact h.of_handed raw hholding hkept hstats htasks hstarted
  | abandoned htasks hstarted =>
    have hevents : w.shift.tasks.map (fun e => Event.lost e.1) =
        (w.shift.tasks.map (·.1)).map .lost := (List.map_map ..).symm
    rw [hevents]
    refine h.of_lost _ hholding hkept hstats ?_ ?_ hstarted
    · show ∀ e ∈ s.tasks, _
      rw [htasks]
      exact nofun
    · show List.Perm _ (_ ++ s.tasks.map _)
      rw [htasks, List.map_nil, List.append_nil]

theorem Books.of_task (h : Books trace w) {n : Nat} {supply : Supply} {move : Shift.TaskMove}
    {t : Task} {b : Backend} {s : Shift} (ht : w.shift.task? n = some t)
    (hmove : w.shift.taskMove? c supply w.backend n move = some (b, s)) :
    Books (trace ++ taskReport w.backend.broker supply.now n t move) ⟨b, s⟩ := by
  have hmem := Fleet.mem_of_task? ht
  have hsound := h.sound _ hmem
  obtain ⟨next, hfollows, hfeat⟩ := taskFeat_of_move ht hmove hsound
  generalize taskReport w.backend.broker supply.now n t move = es at hfeat ⊢
  cases hfeat with
  | going hlists hstats hnext =>
    rw [List.append_nil]
    exact h.of_going hmem hfollows hlists hstats hnext
  | @settled x hphase hbroker hstats =>
    -- the entry is still held, so that an acknowledgement finds it
    obtain ⟨raw, hraw, heffect⟩ := h.tookEffect hmem hbroker
    rw [hphase] at hsound
    refine h.of_ended hmem hfollows (Or.inr ?_) hstats rfl (counted_of_settled heffect hsound n)
    rw [hraw, Queue.ofRaw_raw]
    exact heffect.inFlight
  | @gaveUp x hphase hlists hstats =>
    rw [hphase] at hsound
    exact h.of_ended hmem hfollows (Or.inl hlists.inFlight) hstats rfl
      (counted_of_gaveUp ⟨hlists.dead, hlists.acked⟩ hsound n)
  | lost hlists hstats => exact h.of_gone hmem hfollows hlists hstats

/-- Steps of others settle nothing, nor does the loop. -/
theorem settled_not_mem_loopReport (b : Queue.Broker) (s : Shift) (move : Shift.Move) (n : Nat)
    (settlement : Settlement) : Event.settled n settlement ∉ loopReport b s move := by
  unfold loopReport
  split
  · split
    · exact List.not_mem_nil
    · simp
  · simp
  · exact List.not_mem_nil

/-- A settlement that a step tells of took effect. -/
theorem Books.tookEffect_of_step (h : Books trace w) {a : Action} {n : Nat} {s : Settlement}
    (hstep : w.step? c a = some (w', es)) (hevent : .settled n s ∈ es) :
    ∃ t raw now, (n, t) ∈ w.shift.tasks ∧ t.delivery = .ofRaw raw ∧
      TookEffect w.backend.broker w'.backend.broker raw now s := by
  cases a with
  | elsewhere b =>
    rw [step?, Option.ite_none_right_eq_some] at hstep
    obtain ⟨_, hstep⟩ := hstep
    cases hstep
    cases hevent
  | loop move =>
    obtain ⟨⟨b, s⟩, _, hstep⟩ := Option.bind_eq_some_iff.mp hstep
    cases hstep
    exact (settled_not_mem_loopReport _ _ _ _ _ hevent).elim
  | task k supply move =>
    obtain ⟨t, ht, hstep⟩ := Option.bind_eq_some_iff.mp hstep
    obtain ⟨⟨b, s⟩, hmove, hstep⟩ := Option.bind_eq_some_iff.mp hstep
    cases hstep
    have hmem := Fleet.mem_of_task? ht
    obtain ⟨next, _, hfeat⟩ := taskFeat_of_move ht hmove (h.sound _ hmem)
    generalize taskReport w.backend.broker supply.now k t move = es at hfeat hevent
    cases hfeat with
    | going => cases hevent
    | settled _ hbroker =>
      cases List.mem_singleton.mp hevent
      obtain ⟨raw, hraw, heffect⟩ := h.tookEffect hmem hbroker
      exact ⟨t, raw, supply.now, hmem, hraw, heffect⟩
    | gaveUp => cases List.mem_singleton.mp hevent
    | lost => cases List.mem_singleton.mp hevent
  | stop =>
    cases hstep
    cases hevent
  | retire =>
    rw [step?, Option.ite_none_right_eq_some] at hstep
    obtain ⟨_, hstep⟩ := hstep
    cases hstep
    cases hevent
  | drop k =>
    obtain ⟨t, _, hstep⟩ := Option.bind_eq_some_iff.mp hstep
    cases hstep
    cases List.mem_singleton.mp hevent

/-- A step of a task that tells of no settlement leaves the lists of the queue as they are. -/
theorem Books.same_of_step (h : Books trace w) {n : Nat} {supply : Supply}
    {move : Shift.TaskMove} (hstep : w.step? c (.task n supply move) = some (w', es))
    (hnone : ∀ s, .settled n s ∉ es) : w.backend.broker.Same w'.backend.broker := by
  obtain ⟨t, ht, hstep⟩ := Option.bind_eq_some_iff.mp hstep
  obtain ⟨⟨b, s⟩, hmove, hstep⟩ := Option.bind_eq_some_iff.mp hstep
  cases hstep
  obtain ⟨next, _, hfeat⟩ := taskFeat_of_move ht hmove (h.sound _ (Fleet.mem_of_task? ht))
  generalize taskReport w.backend.broker supply.now n t move = es at hfeat hnone
  cases hfeat with
  | going hlists => exact hlists
  | settled => exact absurd (List.mem_singleton_self _) (hnone _)
  | gaveUp _ hlists => exact hlists
  | lost hlists => exact hlists

theorem Books.of_step (h : Books trace w) {a : Action} (hstep : w.step? c a = some (w', es)) :
    Books (trace ++ es) w' := by
  cases a with
  | elsewhere b =>
    rw [step?, Option.ite_none_right_eq_some] at hstep
    obtain ⟨⟨hheld, hkept⟩, hstep⟩ := hstep
    cases hstep
    refine h.of_lost [] ?_ hkept rfl (fun e he => he) (.refl _) rfl
    rw [hheld]
    exact h.holding
  | loop move =>
    obtain ⟨⟨b, s⟩, hmove, hstep⟩ := Option.bind_eq_some_iff.mp hstep
    cases hstep
    exact h.of_loop hmove
  | task n supply move =>
    obtain ⟨t, ht, hstep⟩ := Option.bind_eq_some_iff.mp hstep
    obtain ⟨⟨b, s⟩, hmove, hstep⟩ := Option.bind_eq_some_iff.mp hstep
    cases hstep
    exact h.of_task ht hmove
  | stop =>
    cases hstep
    refine h.of_lost [] ?_ ⟨rfl, rfl⟩ rfl (fun e he => he) (.refl _) rfl
    exact h.holding.of_sublist (.refl _) rfl h.holding.idle
  | retire =>
    rw [step?, Option.ite_none_right_eq_some] at hstep
    obtain ⟨_, hstep⟩ := hstep
    cases hstep
    refine h.of_lost [] ?_ ⟨rfl, rfl⟩ rfl (fun e he => he) (.refl _) rfl
    refine h.holding.of_sublist (.refl _) rfl ?_
    rintro (hstage | hstage)
    · cases hstage
    · cases hstage
  | drop n =>
    obtain ⟨t, ht, hstep⟩ := Option.bind_eq_some_iff.mp hstep
    cases hstep
    exact h.of_gone (Fleet.mem_of_task? ht) ⟨rfl, rfl, rfl⟩ (.refl _) rfl

theorem Books.of_run (h : Books [] w) (hrun : Run c w trace w') : Books trace w' :=
  hrun.invariant (P := Books) h fun _ _ _ _ _ _ hbooks _ hstep => hbooks.of_step hstep

/-- **A settlement is told of just if it took effect**, so that the requeues which the worker
    counts are those that added the next envelope to the entries that wait. -/
theorem settlements_take_effect {number : Nat} {isStopped : Bool} {r : Repository}
    {metrics : Metrics} (hrun : Run c (opening c number isStopped r metrics) trace w) :
    (∀ {a w' es n s}, w.step? c a = some (w', es) → .settled n s ∈ es →
      ∃ t raw now, (n, t) ∈ w.shift.tasks ∧ t.delivery = .ofRaw raw ∧
        TookEffect w.backend.broker w'.backend.broker raw now s) ∧
    ∀ {n supply move w' es}, w.step? c (.task n supply move) = some (w', es) →
      (∀ s, .settled n s ∉ es) → w.backend.broker.Same w'.backend.broker :=
  have hbooks := (books_opening c number isStopped r metrics).of_run hrun
  ⟨hbooks.tookEffect_of_step, hbooks.same_of_step⟩

/-! ### At rest -/

/-- The statistics agree with the queue and with what became of the deliveries. -/
structure Balanced (trace : List Event) (w : Workshop) : Prop where
  deadLettered : w.shift.ledger.stats.deadLettered = w.backend.broker.dead.length
  requeued : w.shift.ledger.stats.requeued = trace.countP Event.isRequeue
  processed : w.shift.ledger.stats.completed + w.shift.ledger.stats.failed +
    w.shift.ledger.stats.dropped =
      w.backend.broker.acked + trace.countP Event.isUnacknowledged
  unsettled : w.shift.ledger.stats.unsettled = trace.countP Event.isUnsettled
  total : w.shift.ledger.stats.total = ((handed trace).filter (· ∉ lost trace)).length

/-- Without those that are in the second part of a list, its first part is left. -/
theorem length_filter_not_mem {all xs ys : List Nat} (hnodup : all.Nodup)
    (hperm : all.Perm (xs ++ ys)) : (all.filter (· ∉ ys)).length = xs.length := by
  have hparts := List.nodup_append.mp (hperm.nodup hnodup)
  have hxs : xs.filter (· ∉ ys) = xs := by
    rw [List.filter_eq_self]
    intro n hn
    exact decide_eq_true fun hmem => hparts.2.2 n hn n hmem rfl
  have hys : ys.filter (· ∉ ys) = [] := by simp
  rw [(hperm.filter _).length_eq, List.filter_append, hxs, hys, List.append_nil]

/-- **Statistics agree with the queue.**  Whatever a worker goes through, once none of its tasks
    is left its counts say how many entries are dead, how often an entry was put back, how many
    were acknowledged or have an acknowledgement given up, and how many were left unsettled.
    Together they count the deliveries that were handed out and not lost. -/
theorem statistics_agree {number : Nat} {isStopped : Bool} {r : Repository} {metrics : Metrics}
    (hrun : Run c (opening c number isStopped r metrics) trace w) (hidle : w.shift.tasks = []) :
    Balanced trace w := by
  have hbooks := (books_opening c number isStopped r metrics).of_run hrun
  have hnumbers := hbooks.numbers
  rw [hidle, List.map_nil, List.append_nil] at hnumbers
  have hnodup : (handed trace).Nodup := by
    rw [hbooks.handed]
    exact List.nodup_range
  refine ⟨hbooks.counts.deadLettered, hbooks.counts.requeued, hbooks.counts.processed,
    hbooks.counts.unsettled, ?_⟩
  rw [length_filter_not_mem hnodup hnumbers]
  exact hbooks.counts.total

/-- Two entries are handed out.  The first one cannot be read and cannot be acknowledged either;
    the task of the second one vanishes. -/
def strugglingActions : List Action :=
  .elsewhere ⟨{ (Queue.Broker.empty.push "x").push "y" with settleFaults := 3 }, .empty, {}⟩ ::
    [Shift.Move.recover false, .begin, .acquire, .ask, .look, .begin, .acquire, .ask, .look].map
      .loop ++
    [Shift.TaskMove.work, .work, .wake, .work, .wake, .work].map (.task 0 Fleet.noon.toSupply) ++
    [.drop 1]

def shop : Workshop := opening .standard 0 false .empty {}

theorem statistics_agree_after_struggling :
    ∃ w trace, shop.replay? .standard strugglingActions = some (w, trace) ∧
      w.shift.tasks = [] ∧ w.shift.ledger.stats.dropped = 1 ∧ w.backend.broker.acked = 0 ∧
      lost trace = [1] ∧ Balanced trace w :=
  ⟨_, _, rfl, rfl, rfl, rfl, rfl, statistics_agree
    (Machine.run_of_replay (rfl : shop.replay? .standard strugglingActions = some (_, _))) rfl⟩

end Workshop

end DetectionJobs
