/-
  DetectionJobs/Proofs/Fleet/Places.lean
  ======================================
  **Every place of a worker is with a task, with its loop, or free.**

  The loop takes a place before it asks for an entry and hands it on to the task that works
  on the entry.  It gives the place back when it gets no entry, be it that none came or that
  the call failed, and when it leaves its rounds; a task frees its place when it is done, and
  also when it dies, vanishes or is abandoned.  So at any moment the places that are taken
  and those that are free make up what the worker was set up with.
-/
import DetectionJobs.Proofs.Fleet.Watch

namespace DetectionJobs

namespace Worker

/-- The loop has a place of its own at this stage. -/
def Stage.hasPlace : Stage → Bool
  | .asking | .receiving _ | .resting => true
  | _ => false

namespace Shift

/-- The places that the loop has. -/
def ownPlaces (s : Shift) : Nat := s.stage.hasPlace.toNat

/-- The places that are taken and those that are free. -/
def allPlaces (s : Shift) : Nat := s.tasks.length + s.ownPlaces + s.places

variable {b b' : Queue.Broker} {s s' : Shift} {move : Move} {stage : Stage} {n : Nat}

/-! ### Moves of the loop -/

theorem ownPlaces_of_stage (hstage : s.stage = stage) : s.ownPlaces = stage.hasPlace.toNat := by
  rw [ownPlaces, hstage]

/-- The loop keeps what it has. -/
theorem allPlaces_goto (h : s.stage.hasPlace = stage.hasPlace) :
    (s.goto stage).allPlaces = s.allPlaces := by
  rw [allPlaces, ownPlaces, goto, ← h]
  rfl

/-- The loop gives its place back. -/
theorem allPlaces_freePlace (h : s.stage.hasPlace = true) (h' : stage.hasPlace = false) :
    (s.freePlace.goto stage).allPlaces = s.allPlaces := by
  rw [allPlaces, ownPlaces, goto, freePlace, h', allPlaces, ownPlaces, h]
  show s.tasks.length + 0 + (s.places + 1) = s.tasks.length + 1 + s.places
  omega

theorem allPlaces_quit (b : Queue.Broker) (s : Shift) : (s.quit b).2.allPlaces = s.allPlaces := by
  unfold quit
  split
  · next hstage => exact allPlaces_freePlace (by rw [hstage]; rfl) rfl
  · next hstage => exact allPlaces_freePlace (by rw [hstage]; rfl) rfl
  · next hstage => exact allPlaces_freePlace (by rw [hstage]; rfl) rfl
  · next hreceiving hasking hresting =>
    refine allPlaces_goto ?_
    cases hstage : s.stage with
    | receiving r => exact absurd hstage (hreceiving r)
    | asking => exact absurd hstage hasking
    | resting => exact absurd hstage hresting
    | _ => rfl

/-- The loop hands its place to a new task. -/
theorem allPlaces_spawn (raw : String) (h : s.stage.hasPlace = true) :
    (s.spawn raw).allPlaces = s.allPlaces := by
  rw [allPlaces, ownPlaces, spawn, List.length_append, allPlaces, ownPlaces, h]
  show s.tasks.length + 1 + 0 + s.places = s.tasks.length + 1 + s.places
  omega

/-- **A move of the loop neither makes a place nor loses one.** -/
theorem allPlaces_of_move (h : s.move? b move = some (b', s')) : s'.allPlaces = s.allPlaces := by
  have hnotice (needs : Bool) : (s.needRecovery needs).allPlaces = s.allPlaces := rfl
  cases moved_of_move h with
  | startFailed hstage | recoveryFailed hstage =>
    rw [allPlaces_goto (by rw [needRecovery, hstage]; rfl), hnotice]
  | noticed hstage => rw [allPlaces_goto (by rw [needRecovery, hstage]; rfl), hnotice]
  | left => exact allPlaces_quit b s
  | acquired hstage hfree =>
    rw [allPlaces, ownPlaces, allPlaces, ownPlaces_of_stage hstage]
    show s.tasks.length + 1 + (s.places - 1) = s.tasks.length + 0 + s.places
    omega
  | handed hstage => exact allPlaces_spawn _ (by rw [hstage]; rfl)
  | rested hstage | expired hstage => exact allPlaces_freePlace (by rw [hstage]; rfl) rfl
  | abandoned hstage =>
    rw [allPlaces, ownPlaces, allPlaces, ownPlaces_of_stage hstage]
    show 0 + 0 + (s.places + s.tasks.length) = s.tasks.length + 0 + s.places
    omega
  | started hstage | recovered hstage | began hstage | joined hstage | paused hstage
  | asked hstage | refused hstage | foundNothing hstage | listened hstage | resumed hstage
  | finished hstage => exact allPlaces_goto (by rw [hstage]; rfl)

end Shift

end Worker

namespace Fleet

open Worker

variable {f f' f₀ : Fleet} {es : List Event} {a : Action} {past : Past} {w n k : Nat} {m : Member}
  {s s' : Shift} {t t' : Task}

/-! ### Moves of the tasks -/

section Task

variable (hnodup : (s.tasks.map (·.1)).Nodup) (ht : (n, t) ∈ s.tasks)

include hnodup ht

/-- A task that is gone has freed its place. -/
theorem allPlaces_drop :
    ({ s with tasks := s.tasks.filter (·.1 ≠ n), places := s.places + 1 } : Shift).allPlaces =
      s.allPlaces := by
  have hlength := (perm_filter_number hnodup ht).length_eq
  rw [List.length_cons] at hlength
  rw [Shift.allPlaces, Shift.allPlaces, hlength]
  show (s.tasks.filter _).length + s.ownPlaces + (s.places + 1) = _
  omega

theorem allPlaces_putTask (t' : Task) : (s.putTask n t').allPlaces = s.allPlaces := by
  unfold Shift.putTask
  split
  · exact allPlaces_drop hnodup ht
  · rw [Shift.allPlaces, List.length_map]
    rfl

end Task

/-- **Neither does a move of a task.** -/
theorem allPlaces_of_taskMove {c : Config} {supply : Supply} {b b' : Backend}
    {move : Shift.TaskMove} (hnodup : (s.tasks.map (·.1)).Nodup)
    (h : s.taskMove? c supply b n move = some (b', s')) : s'.allPlaces = s.allPlaces := by
  obtain ⟨t, ht, hmoved⟩ := Shift.taskMoved_of_move h
  cases hmoved with
  | @went _ _ l => exact allPlaces_putTask (s := { s with ledger := l }) hnodup (mem_of_task? ht) _
  | died => exact allPlaces_drop hnodup (mem_of_task? ht)

/-! ### Steps of the fleet -/

/-- Every worker has the places that it was set up with. -/
def PlacesKept (f : Fleet) : Prop :=
  ∀ (w : Nat) (m : Member), f.members[w]? = some m →
    m.shift.allPlaces = m.post.config.concurrency

theorem PlacesKept.of_set (h : PlacesKept f) (hm : f.members[w]? = some m)
    (hmembers : f'.members = f.members.set w { m with shift := s })
    (hsame : s.allPlaces = m.shift.allPlaces) : PlacesKept f' := by
  intro v x hx
  rw [hmembers] at hx
  by_cases hv : w = v
  · subst hv
    rw [List.getElem?_set_self (List.getElem?_eq_some_iff.mp hm).1] at hx
    cases hx
    exact hsame.trans (h w m hm)
  · rw [List.getElem?_set_ne hv] at hx
    exact h v x hx

theorem PlacesKept.of_step (h : PlacesKept f) (hsolo : Solo f)
    (hstep : f.step? a = some (f', es)) : PlacesKept f' := by
  cases step_of_step? hstep with
  | submit | call | push | recover | disturb => exact h
  | @hire post number ledger isStopped =>
    intro v x hx
    rw [List.getElem?_append] at hx
    split at hx
    · exact h v x hx
    · obtain rfl := List.mem_singleton.mp (List.mem_of_getElem? hx)
      show 0 + 0 + post.config.concurrency = post.config.concurrency
      omega
  | loop hm hmove => exact h.of_set hm rfl (Shift.allPlaces_of_move hmove)
  | task hm _ hmove =>
    exact h.of_set hm rfl (allPlaces_of_taskMove (hsolo.member _ _ hm).nodup hmove)
  | stop hm => exact h.of_set hm rfl rfl
  | @halt _ m hm =>
    refine h.of_set hm rfl ?_
    rw [Shift.allPlaces_goto (by rw [(Shift.quit_same _ _).2.2.2]; rfl)]
    exact Shift.allPlaces_quit _ m.shift
  | drop hm ht =>
    exact h.of_set hm rfl (allPlaces_drop (hsolo.member _ _ hm).nodup (mem_of_task? ht))

/-- **No place is lost**, whatever fails. -/
theorem placesKept_of_history (hnobody : f₀.members = []) (horderly : Orderly f₀)
    (h : History Exclusive f₀ past f) : PlacesKept f := by
  refine h.invariant (P := fun _ f => PlacesKept f) ?_ fun _ _ _ _ _ hhistory hkept _ hstep => ?_
  · intro w m hm
    rw [hnobody] at hm
    cases hm
  · exact hkept.of_step (guarded_of_history hnobody horderly hhistory).solo hstep

/-- A loop that waits for a place gets one just if fewer tasks are at work than there are
    places. -/
theorem acquires_iff {b : Queue.Broker} (hall : s.allPlaces = k) (hstage : s.stage = .acquiring) :
    (s.move? b .acquire).isSome ↔ s.tasks.length < k := by
  have hfree : s.tasks.length + s.places = k := by
    rwa [Shift.allPlaces, Shift.ownPlaces_of_stage hstage] at hall
  rw [Shift.move?, Option.isSome_ite, hstage]
  constructor
  · rintro ⟨_, hplace⟩
    omega
  · intro hroom
    exact ⟨rfl, by omega⟩

end Fleet

end DetectionJobs
