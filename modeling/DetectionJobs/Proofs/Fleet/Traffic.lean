/-
  DetectionJobs/Proofs/Fleet/Traffic.lean
  =======================================
  **What an action does to the lists of the queue.**

  An action adds an entry, hands one out, puts back what is held, or settles the delivery of
  the task that acts; any other action leaves the lists alone.  An entry is written when it
  is pushed, and when a delivery is settled other than by an acknowledgement.
-/
import DetectionJobs.Proofs.Fleet.Upshots
import DetectionJobs.Proofs.Fleet.History

namespace DetectionJobs

/-- What is written down when a delivery is settled. -/
def Queue.Broker.Settlement.reason? : Queue.Broker.Settlement → Option String
  | .ack => none
  | .requeue reason | .deadLetter reason => some reason

namespace Fleet

open Worker

/-- A settlement that takes place. -/
structure Settled where
  delivery : Delivery
  settlement : Queue.Broker.Settlement
  now : Instant

/-- The settlement that an action makes. -/
def settlement? (f : Fleet) : Action → Option Settled
  | .task who draw .work =>
    (f.task? who).bind fun t =>
      match t.phase with
      | .settling s =>
        if f.broker.settleFaults = 0 then some ⟨t.delivery, s.settlement, draw.now⟩ else none
      | _ => none
  | _ => none

/-- The entry that an action replaces, and the one that it writes for it. -/
def rewritten? (f : Fleet) (a : Action) : Option (String × String) := do
  let s ← f.settlement? a
  let reason ← s.settlement.reason?
  some (s.delivery.raw, ((s.delivery.envelope s.now).retried reason s.now).raw)

variable {f f' : Fleet} {a : Action} {es : List Event} {m : Member} {t : Task} {w : Nat}

/-- The settlement is that of a task at work that is about to settle its delivery. -/
theorem live_of_settlement? {s : Settled} (h : f.settlement? a = some s) :
    ∃ who t settling, f.Live who t ∧ t.phase = .settling settling ∧ s.delivery = t.delivery ∧
      s.settlement = settling.settlement ∧ s.now.IsClock := by
  unfold settlement? at h
  split at h
  · next who draw =>
    obtain ⟨t, ht, h⟩ := Option.bind_eq_some_iff.mp h
    split at h
    · next settling hphase =>
      rw [Option.ite_none_right_eq_some] at h
      obtain ⟨_, h⟩ := h
      cases h
      exact ⟨who, t, settling, member_of_task? ht, hphase, rfl, rfl, draw.isClock⟩
    · cases h
  · cases h

/-- What an action does to the lists of the queue. -/
inductive Traffic (f : Fleet) (a : Action) (b : Queue.Broker) (es : List Event) : Prop where
  | still (hlists : f.broker.Same b)
  | pushed {raw : String} (hpushed : Event.pushed raw ∈ es) (hlists : (f.broker.push raw).Same b)
  | recovered (hlists : f.broker.recover.2.Same b)
  | handed {raw : String} {rest : List String} (hready : f.broker.ready = raw :: rest)
      (hlists : Queue.Broker.Same
        { f.broker with ready := rest, inFlight := f.broker.inFlight ++ [raw] } b)
  | settled {s : Settled} (hsettles : f.settlement? a = some s)
      (hlists : b = f.broker.settle s.delivery s.now s.settlement)

theorem traffic_of_call {i : Nat} {draw : Draw} (f : Fleet) (c : Submission.Call) :
    Traffic f (.call i draw) (c.step f.backend draw.now).1.broker
      (callReport f.backend draw.now c) := by
  rcases lists_of_call f.backend draw.now c with ⟨hlists, _⟩ | ⟨hlists, hreport⟩
  · exact .still hlists
  · rw [hreport]
    exact .pushed List.mem_cons_self hlists

theorem traffic_of_loop {b : Queue.Broker} {s : Shift} {move : Shift.Move}
    (h : m.shift.move? f.backend.broker move = some (b, s)) : Traffic f (.loop w move) b es := by
  cases (Shift.turn_of_move h).2 with
  | quiet hlists => exact .still hlists
  | recovered => exact .recovered (.refl _)
  | handed hready => exact .handed hready (.refl _)
  | abandoned => exact .still (.refl _)

theorem traffic_of_task {who : Badge} {draw : Draw} {b : Backend} {s : Shift}
    {move : Shift.TaskMove} (hunfinished : Unfinished f)
    (hm : f.members[who.worker]? = some m) (ht : m.shift.task? who.number = some t)
    (h : m.shift.taskMove? m.post.config draw.toSupply f.backend who.number move = some (b, s)) :
    Traffic f (.task who draw move) b.broker es := by
  have hlive : f.Live who t := ⟨m, hm, mem_of_task? ht⟩
  cases upshot_of_move ht (hunfinished who t hlive) h with
  | kept hlists => exact .still hlists
  | settled hphase hfaults hlists =>
    refine .settled (s := ⟨t.delivery, _, draw.now⟩) ?_ hlists
    rw [settlement?, task?_of_member hm ht, Option.bind_some, hphase]
    exact if_pos hfaults
  | gaveUp hlists => exact .still hlists
  | died hlists => exact .still hlists

/-- **Every step is such traffic.** -/
theorem traffic_of_step (hunfinished : Unfinished f) (hstep : f.step? a = some (f', es)) :
    Traffic f a f'.broker es := by
  cases step_of_step? hstep with
  | submit => exact .still (.refl _)
  | call c => exact traffic_of_call f c
  | push => exact .pushed (List.mem_singleton_self _) (.refl _)
  | hire => exact .still (.refl _)
  | loop _ hmove => exact traffic_of_loop hmove
  | task hm ht hmove => exact traffic_of_task hunfinished hm ht hmove
  | stop => exact .still (.refl _)
  | @halt _ m _ => exact .still (Shift.quit_same f.backend.broker m.shift).1
  | drop => exact .still (.refl _)
  | recover => exact .recovered (.refl _)
  | disturb => exact .still ⟨rfl, rfl, rfl, rfl⟩

end Fleet

end DetectionJobs
