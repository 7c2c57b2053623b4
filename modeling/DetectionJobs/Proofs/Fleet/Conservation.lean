/-
  DetectionJobs/Proofs/Fleet/Conservation.lean
  ============================================
  **Under one worker, the queue neither loses nor doubles a message.**

  A requeue writes an entry again even if it is not held, so that the entries would grow in
  number if a delivery were settled that had been put back before.  While workers follow one
  another that does not happen, and the bodies of all entries, wherever they are, are those
  that were pushed.
-/
import DetectionJobs.Proofs.Fleet.Solo

namespace DetectionJobs.Fleet

open Worker

/-! ### What a trace tells of entries -/

def pushedEntries (trace : List Event) : List String :=
  trace.filterMap fun
    | .pushed entry => some entry
    | _ => none

/-- The entries that an acknowledgement removed. -/
def ackedEntries (trace : List Event) : List String :=
  trace.filterMap fun
    | .acked _ entry true => some entry
    | _ => none

theorem pushedEntries_append (trace trace' : List Event) :
    pushedEntries (trace ++ trace') = pushedEntries trace ++ pushedEntries trace' :=
  List.filterMap_append

theorem ackedEntries_append (trace trace' : List Event) :
    ackedEntries (trace ++ trace') = ackedEntries trace ++ ackedEntries trace' :=
  List.filterMap_append

/-! ### The balance -/

/-- The entries of the queue and those that were acknowledged. -/
def allEntries (trace : List Event) (b : Queue.Broker) : List String :=
  b.ready ++ b.inFlight ++ b.dead ++ ackedEntries trace

/-- Every body that was pushed is somewhere, as often as it was pushed. -/
structure Balanced (trace : List Event) (b : Queue.Broker) : Prop where
  bodies : ((allEntries trace b).map Queue.bodyOf).Perm ((pushedEntries trace).map Queue.bodyOf)
  acked : b.acked = (ackedEntries trace).length

variable {b b' : Queue.Broker} {trace es : List Event} {f f' : Fleet}

theorem balanced_empty : Balanced [] .empty := ⟨.refl _, rfl⟩

/-- Moving entries about keeps the balance. -/
theorem Balanced.of_perm (h : Balanced trace b) (hes : pushedEntries es = [] ∧ ackedEntries es = [])
    (hlists : (b'.ready ++ b'.inFlight ++ b'.dead).Perm (b.ready ++ b.inFlight ++ b.dead))
    (hacked : b'.acked = b.acked) : Balanced (trace ++ es) b' := by
  obtain ⟨hpushed, hnone⟩ := hes
  constructor
  · rw [allEntries, ackedEntries_append, pushedEntries_append, hpushed, hnone, List.append_nil,
      List.append_nil]
    exact ((hlists.append_right _).map _).trans h.bodies
  · rw [ackedEntries_append, hnone, List.append_nil, hacked]
    exact h.acked

theorem Balanced.of_same (h : Balanced trace b) (hes : pushedEntries es = [] ∧ ackedEntries es = [])
    (hlists : b.Same b') : Balanced (trace ++ es) b' := by
  refine h.of_perm hes ?_ hlists.acked
  rw [hlists.ready, hlists.inFlight, hlists.dead]

theorem Balanced.of_push (h : Balanced trace b) {raw : String}
    (hes : pushedEntries es = [raw] ∧ ackedEntries es = []) (hlists : (b.push raw).Same b') :
    Balanced (trace ++ es) b' := by
  obtain ⟨hpushed, hnone⟩ := hes
  constructor
  · rw [allEntries, ackedEntries_append, pushedEntries_append, hpushed, hnone, List.append_nil,
      hlists.ready, hlists.inFlight, hlists.dead]
    refine List.perm_iff_count.mpr fun body => ?_
    have hcount := h.bodies.count_eq body
    simp only [allEntries, Queue.Broker.push, List.map_append, List.count_append] at hcount ⊢
    omega
  · rw [ackedEntries_append, hnone, List.append_nil, hlists.acked]
    exact h.acked

/-- Releasing a held entry takes its body out of those that are held. -/
theorem bodies_released {raw : String} {inFlight held : List String} (hheld : raw ∈ inFlight)
    (hperm : held.Perm (inFlight.erase raw)) :
    (inFlight.map Queue.bodyOf).Perm (Queue.bodyOf raw :: held.map Queue.bodyOf) :=
  ((List.perm_cons_erase hheld).trans (hperm.symm.cons raw)).map Queue.bodyOf

/-- A held entry that goes keeps the balance if one with the same body comes in its place. -/
theorem Balanced.of_moved (h : Balanced trace b) {raw entry : String} {held : List String}
    (hheld : raw ∈ b.inFlight) (hperm : held.Perm (b.inFlight.erase raw))
    (hbody : Queue.bodyOf entry = Queue.bodyOf raw) (hpushed : pushedEntries es = [])
    (hlists : (allEntries es b').Perm (entry :: (b.ready ++ held ++ b.dead)))
    (hacked : b'.acked = b.acked + (ackedEntries es).length) : Balanced (trace ++ es) b' := by
  constructor
  · -- of each body: as many copies as before, since `entry` replaces `raw`
    refine List.perm_iff_count.mpr fun body => ?_
    have hbefore := h.bodies.count_eq body
    have hreleased := (bodies_released hheld hperm).count_eq body
    have hafter := (hlists.map Queue.bodyOf).count_eq body
    simp only [allEntries, ackedEntries_append, pushedEntries_append, hpushed, hbody,
      List.map_append, List.count_append, List.map_cons, List.count_cons,
      List.append_nil] at hbefore hreleased hafter ⊢
    omega
  · rw [ackedEntries_append, List.length_append, ← h.acked, hacked]

/-- **A settlement of a held entry keeps the balance.** -/
theorem Balanced.of_settle (h : Balanced trace b) {raw : String} {who : Badge} {now : Instant}
    (s : Queue.Broker.Settlement) (hraw : Queue.Countable raw) (hnow : now.IsClock)
    (hheld : raw ∈ b.inFlight) :
    Balanced (trace ++ settleReport b who (.ofRaw raw) now s) (b.settle (.ofRaw raw) now s) := by
  cases s with
  | ack =>
    obtain ⟨held, hperm, heq⟩ := b.settle_ack raw now
    have hreport : settleReport b who (.ofRaw raw) now .ack = [.acked who raw true] := by
      simp [settleReport, Queue.ofRaw_raw, hheld]
    rw [heq, hreport, if_pos hheld]
    refine h.of_moved hheld hperm rfl rfl ?_ rfl
    exact List.perm_append_singleton raw (b.ready ++ held ++ b.dead)
  | requeue reason =>
    obtain ⟨held, hperm, heq⟩ := b.settle_requeue raw reason now
    have hbody := (Queue.ofRaw_retriedRaw reason hraw hnow).2
    rw [heq]
    refine h.of_moved hheld hperm hbody rfl ?_ rfl
    simp [allEntries, ackedEntries, settleReport, Queue.Broker.push, List.perm_middle]
  | deadLetter reason =>
    obtain ⟨held, hperm, heq⟩ := b.settle_deadLetter raw reason now
    have hbody := (Queue.ofRaw_retriedRaw reason hraw hnow).2
    rw [heq]
    refine h.of_moved hheld hperm hbody rfl ?_ rfl
    have hnone : ackedEntries (settleReport b who (.ofRaw raw) now (.deadLetter reason)) = [] :=
      rfl
    rw [allEntries, hnone, List.append_nil, ← List.append_assoc]
    exact List.perm_append_singleton _ (b.ready ++ held ++ b.dead)

/-! ### Runs of one worker after the other -/

/-- A task whose entry is held keeps the balance. -/
theorem Balanced.of_deed {c : Config} {supply : Supply} {who : Badge} {b b' : Backend} {t : Task}
    {next : Option Phase} (h : Balanced trace b.broker) (horderly : OrderlyTask t)
    (hnow : supply.now.IsClock) (hheld : t.delivery.raw ∈ b.broker.inFlight)
    (hdeed : Deed c supply who b t b' next es) : Balanced (trace ++ es) b'.broker := by
  cases hdeed with
  | @settled s =>
    obtain ⟨raw, hdelivery, hraw⟩ := horderly.delivery
    rw [hdelivery, Queue.ofRaw_raw] at hheld
    rw [hdelivery]
    exact h.of_settle s.settlement hraw hnow hheld
  | unsettled => exact h.of_same ⟨rfl, rfl⟩ ⟨rfl, rfl, rfl, rfl⟩
  | _ => exact h.of_same ⟨rfl, rfl⟩ (.refl _)

theorem Balanced.of_change (h : Balanced trace f.broker) (horderly : Orderly f)
    (hholds : ∀ who t, f.Live who t → t.delivery.raw ∈ f.broker.inFlight)
    (hchange : Change f f' es) : Balanced (trace ++ es) f'.broker := by
  cases hchange with
  | quiet hlists => exact h.of_same ⟨rfl, rfl⟩ hlists
  | noted hlists => exact h.of_same ⟨rfl, rfl⟩ hlists
  | dismissed hlists => exact h.of_same ⟨rfl, rfl⟩ hlists
  | published _ _ hlists => exact h.of_push ⟨rfl, rfl⟩ hlists
  | pushed _ hlists => exact h.of_push ⟨rfl, rfl⟩ hlists
  | recovered hlists =>
    have hback := f.broker.same_recover
    refine h.of_perm ⟨rfl, rfl⟩ ?_ (hlists.acked.trans hback.acked)
    rw [hlists.ready, hlists.inFlight, hlists.dead, hback.ready, hback.inFlight, hback.dead,
      List.append_nil]
    refine List.Perm.append_right _ ?_
    exact List.perm_append_comm.trans ((List.reverse_perm _).append_left _)
  | @handed who raw rest hready hlists =>
    refine h.of_perm ⟨rfl, rfl⟩ ?_ hlists.acked
    rw [hlists.ready, hlists.inFlight, hlists.dead, hready]
    refine List.Perm.append_right _ ?_
    show (rest ++ (f.broker.inFlight ++ [raw])).Perm (raw :: (rest ++ f.broker.inFlight))
    rw [← List.append_assoc]
    exact List.perm_append_singleton raw _
  | @worked who t post draw next es hlive hdeed =>
    exact h.of_deed (horderly.task who t hlive) draw.isClock (hholds who t hlive) hdeed

theorem balanced_of_run {r : Repository} {metrics : Metrics}
    (h : Run Exclusive (opening r metrics) trace f) : Balanced trace f.broker := by
  refine h.invariant (P := fun trace f => Balanced trace f.broker) balanced_empty
    fun _ _ _ _ _ hrun hbalanced _ hstep => ?_
  -- a settled entry is held, because the task that settles it belongs to the only worker
  have hsolo := solo_of_run hrun
  exact hbalanced.of_change ((orderly_opening r metrics).of_run hrun) (fun _ _ => hsolo.holds)
    (change_of_step hstep)

/-- **Messages are conserved.**  While workers follow one another, and whatever fails, the bodies
    of the entries that wait, are held or are dead, together with those of the entries that an
    acknowledgement removed, are the bodies that were pushed; and so their numbers agree. -/
theorem bodies_conserved {r : Repository} {metrics : Metrics}
    (h : Run Exclusive (opening r metrics) trace f) :
    ((f.broker.ready ++ f.broker.inFlight ++ f.broker.dead ++ ackedEntries trace).map
        Queue.bodyOf).Perm ((pushedEntries trace).map Queue.bodyOf) ∧
      f.broker.ready.length + f.broker.inFlight.length + f.broker.dead.length + f.broker.acked =
        (pushedEntries trace).length := by
  have hbalanced := balanced_of_run h
  refine ⟨hbalanced.bodies, ?_⟩
  have hlength := hbalanced.bodies.length_eq
  rw [List.length_map, List.length_map] at hlength
  rw [← hlength, allEntries, List.length_append, List.length_append, List.length_append,
    hbalanced.acked]

/-- The attempt at a job fails and its delivery is requeued; an entry that was pushed behind it
    cannot be read and is acknowledged. -/
def requeueing : List Action :=
  submitting ++ .push "y" :: beginning ++
    [Shift.TaskMove.work, .hear (.error (.transport "reset")), .wake, .work].map
      (.task ⟨0, 0⟩ noon) ++
    taking [.begin] ++ [Shift.TaskMove.work, .work].map (.task ⟨0, 1⟩ noon)

theorem bodies_conserved_after_requeueing :
    ∃ f trace, start.replay? Exclusive requeueing = some (f, trace) ∧
      f.broker.ready.length = 1 ∧ f.broker.inFlight.length = 0 ∧ (ackedEntries trace).length = 1 ∧
      (pushedEntries trace).length = 2 ∧
      ((f.broker.ready ++ f.broker.inFlight ++ f.broker.dead ++ ackedEntries trace).map
          Queue.bodyOf).Perm ((pushedEntries trace).map Queue.bodyOf) ∧
        f.broker.ready.length + f.broker.inFlight.length + f.broker.dead.length +
          f.broker.acked = (pushedEntries trace).length := by
  have hstates : (do
      let last ← start.replay? Exclusive requeueing
      some (last.1.broker.ready.length, last.1.broker.inFlight.length,
        (ackedEntries last.2).length, (pushedEntries last.2).length)) = some (1, 0, 1, 2) := by
    decide +kernel
  obtain ⟨⟨f, trace⟩, hreplay, hstates⟩ := Option.bind_eq_some_iff.mp hstates
  simp only [Option.some.injEq, Prod.mk.injEq] at hstates
  obtain ⟨hready, hheld, hacked, hpushed⟩ := hstates
  exact ⟨f, trace, hreplay, hready, hheld, hacked, hpushed,
    bodies_conserved (Machine.run_of_replay hreplay)⟩

end DetectionJobs.Fleet
