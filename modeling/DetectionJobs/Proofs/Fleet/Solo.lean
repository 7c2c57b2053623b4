/-
  DetectionJobs/Proofs/Fleet/Solo.lean
  ====================================
  **One worker at a time.**

  Workers follow one another: a worker begins after the one before it is over, and nobody
  else has held entries put back.  Then every task holds its entry, one copy of the text for
  each task, since entries are put back only when no task runs.
-/
import Mathlib.Data.List.Nodup
import Mathlib.Data.List.Perm.Subperm
import DetectionJobs.Proofs.Fleet.Entries

namespace DetectionJobs

namespace Worker.Shift

/-- The worker has ended, and so have its tasks. -/
def IsOver (s : Shift) : Prop := s.stage = .done ∧ s.tasks = []

instance (s : Shift) : Decidable s.IsOver := by unfold IsOver; infer_instance

/-- The entries that the tasks of a worker hold. -/
def entries (s : Shift) : List String := s.tasks.map (·.2.delivery.raw)

end Worker.Shift

namespace Fleet

open Worker

/-- No two workers are at work, none ends before its tasks, and nobody else recovers. -/
def Exclusive (f : Fleet) : Action → Prop
  | .hire .. => ∀ m ∈ f.members, m.shift.IsOver
  | .halt _ => False
  | .recover => False
  | _ => True

instance (f : Fleet) (a : Action) : Decidable (Exclusive f a) := by
  unfold Exclusive
  split <;> infer_instance

/-! ### A worker on its own -/

/-- The tasks of a worker have numbers of their own and hold their entries, and none runs
    when the worker puts back what is held. -/
structure Holding (inFlight : List String) (s : Shift) : Prop where
  idle : s.stage = .starting ∨ s.stage = .recovering → s.tasks = []
  nodup : (s.tasks.map (·.1)).Nodup
  fresh : ∀ e ∈ s.tasks, e.1 < s.started
  held : s.entries.Subperm inFlight

variable {inFlight : List String} {s s' : Shift}

theorem Holding.of_idle (h : s.tasks = []) : Holding inFlight s where
  idle := fun _ => h
  nodup := by rw [h]; exact List.nodup_nil
  fresh := by rw [h]; rintro e ⟨⟩
  held := by rw [Shift.entries, h]; exact List.nil_subperm

/-- Tasks may go at any time. -/
theorem Holding.of_sublist (h : Holding inFlight s) (htasks : s'.tasks.Sublist s.tasks)
    (hstarted : s'.started = s.started)
    (hidle : s'.stage = .starting ∨ s'.stage = .recovering → s.tasks = []) :
    Holding inFlight s' where
  idle := fun hstage => by
    have hnil := hidle hstage
    rw [hnil] at htasks
    exact List.sublist_nil.mp htasks
  nodup := h.nodup.sublist (htasks.map _)
  fresh := fun e he => by
    rw [hstarted]
    exact h.fresh e (htasks.subset he)
  held := (htasks.map _).subperm.trans h.held

theorem Holding.of_turn {b b' : Queue.Broker} (h : Holding b.inFlight s)
    (hturn : Shift.Turn b s b' s') : Holding b'.inFlight s' := by
  cases hturn with
  | quiet hlists htasks hstarted hstarting hrecovering =>
    rw [hlists.inFlight]
    refine h.of_sublist (by rw [htasks]) hstarted fun hstage => ?_
    rcases hstage with hstage | hstage
    · exact absurd hstage hstarting
    · exact hrecovering hstage
  | recovered hstage htasks => exact .of_idle (htasks.trans (h.idle hstage))
  | @handed raw rest hready =>
    refine ⟨?_, ?_, ?_, ?_⟩
    · rintro (hstage | hstage)
      · cases hstage
      · cases hstage
    · rw [Shift.spawn, List.map_append, List.nodup_append]
      refine ⟨h.nodup, List.nodup_singleton _, ?_⟩
      intro n hn n' hn'
      obtain ⟨e, he, rfl⟩ := List.mem_map.mp hn
      obtain rfl := List.mem_singleton.mp hn'
      exact Nat.ne_of_lt (h.fresh e he)
    · intro e he
      show e.1 < s.started + 1
      rcases List.mem_append.mp he with hold | hnew
      · exact Nat.lt_succ_of_lt (h.fresh e hold)
      · rw [List.mem_singleton.mp hnew]
        exact Nat.lt_succ_self _
    · show ((s.tasks ++ [_]).map _).Subperm (b.inFlight ++ [raw])
      rw [List.map_append, List.map_singleton, Task.start, Queue.ofRaw_raw]
      exact (List.subperm_append_right [raw]).mpr h.held
  | abandoned => exact .of_idle rfl

/-! ### Deeds of its tasks -/

/-- A number stands for one task. -/
theorem eq_of_number {tasks : List (Nat × Task)} (hnodup : (tasks.map (·.1)).Nodup) {n : Nat}
    {t : Task} (ht : (n, t) ∈ tasks) {e : Nat × Task} (he : e ∈ tasks) (hn : e.1 = n) :
    e = (n, t) :=
  List.inj_on_of_nodup_map hnodup he ht hn

/-- A task that goes on works on the same entry. -/
theorem entries_advance {n : Nat} {t : Task} {phase : Phase}
    (hnodup : (s.tasks.map (·.1)).Nodup) (ht : (n, t) ∈ s.tasks)
    (hfollows : Follows s s' n t (some phase)) :
    s'.entries = s.entries ∧ s'.tasks.map (·.1) = s.tasks.map (·.1) := by
  rw [Shift.entries, hfollows.tasks, advance, List.map_map, List.map_map]
  constructor
  · refine List.map_congr_left fun e he => ?_
    by_cases hn : e.1 = n
    · rw [eq_of_number hnodup ht he hn, Function.comp_apply, if_pos rfl]
    · rw [Function.comp_apply, if_neg hn]
  · refine List.map_congr_left fun e he => ?_
    by_cases hn : e.1 = n
    · rw [Function.comp_apply, if_pos hn, hn]
    · rw [Function.comp_apply, if_neg hn]

/-- Without one of the tasks, its entry is no longer among those that are worked on. -/
theorem perm_filter_number {tasks : List (Nat × Task)} (hnodup : (tasks.map (·.1)).Nodup)
    {n : Nat} {t : Task} (ht : (n, t) ∈ tasks) :
    tasks.Perm ((n, t) :: tasks.filter (·.1 ≠ n)) := by
  induction tasks with
  | nil => cases ht
  | cons e rest ih =>
    rw [List.map_cons, List.nodup_cons] at hnodup
    obtain ⟨hnotin, hrest⟩ := hnodup
    rcases List.mem_cons.mp ht with rfl | ht
    · have hfilter : ((n, t) :: rest).filter (·.1 ≠ n) = rest := by
        rw [List.filter_cons_of_neg (by simp), List.filter_eq_self]
        intro e he
        have hne : e.1 ≠ n := fun hn => hnotin (List.mem_map.mpr ⟨e, he, hn⟩)
        simpa using hne
      rw [hfilter]
    · have hne : e.1 ≠ n := fun hn => hnotin (List.mem_map.mpr ⟨(n, t), ht, hn.symm⟩)
      rw [List.filter_cons_of_pos (by simpa using hne)]
      exact ((ih hrest ht).cons e).trans (List.Perm.swap _ _ _)

/-- A task goes on, and what is held stays, or it is gone and so may be one copy of its
    entry. -/
theorem Holding.of_follows {inFlight' : List String} {n : Nat} {t : Task} {next : Option Phase}
    (h : Holding inFlight s) (ht : (n, t) ∈ s.tasks) (hfollows : Follows s s' n t next)
    (hheld : inFlight' = inFlight ∨
      next = none ∧ inFlight'.Perm (inFlight.erase t.delivery.raw)) : Holding inFlight' s' := by
  have hbusy : ¬ (s'.stage = .starting ∨ s'.stage = .recovering) := by
    rw [hfollows.stage]
    intro hstage
    rw [h.idle hstage] at ht
    cases ht
  cases next with
  | some phase =>
    obtain ⟨hentries, hnumbers⟩ := entries_advance h.nodup ht hfollows
    rcases hheld with rfl | ⟨hnext, _⟩
    · refine ⟨fun hstage => absurd hstage hbusy, hnumbers ▸ h.nodup, fun e he => ?_, ?_⟩
      · have hmem : e.1 ∈ s.tasks.map (·.1) := hnumbers ▸ List.mem_map_of_mem he
        obtain ⟨e', he', heq⟩ := List.mem_map.mp hmem
        rw [hfollows.started, ← heq]
        exact h.fresh e' he'
      · rw [hentries]
        exact h.held
    · cases hnext
  | none =>
    have hsublist : s'.tasks.Sublist s.tasks := by
      rw [hfollows.tasks]
      exact List.filter_sublist
    have hrest := h.of_sublist hsublist hfollows.started fun hstage => absurd hstage hbusy
    rcases hheld with rfl | ⟨_, hperm⟩
    · exact hrest
    · -- one copy of the entry goes, and so does one task that holds it
      have hentries : s.entries.Perm (t.delivery.raw :: s'.entries) := by
        have hperm := (perm_filter_number h.nodup ht).map fun e => e.2.delivery.raw
        rwa [List.map_cons, ← Shift.entries, ← advance, ← hfollows.tasks, ← Shift.entries] at hperm
      refine ⟨hrest.idle, hrest.nodup, hrest.fresh, ?_⟩
      rw [hperm.subperm_left]
      have herase := (hentries.subperm_right.mp h.held).erase t.delivery.raw
      rwa [List.erase_cons_head] at herase

theorem Holding.of_deed {c : Config} {supply : Supply} {who : Badge} {b b' : Backend} {n : Nat}
    {t : Task} {next : Option Phase} {es : List Event} (h : Holding b.broker.inFlight s)
    (ht : (n, t) ∈ s.tasks) (horderly : OrderlyTask t) (hfollows : Follows s s' n t next)
    (hdeed : Deed c supply who b t b' next es) : Holding b'.broker.inFlight s' := by
  apply h.of_follows ht hfollows
  rcases hdeed.queue with hlists | ⟨settling, _, hnext, _, hlists, _⟩
  · exact Or.inl hlists.inFlight
  · obtain ⟨raw, hdelivery, _⟩ := horderly.delivery
    refine Or.inr ⟨hnext, ?_⟩
    rw [hlists, hdelivery, Queue.ofRaw_raw]
    exact b.broker.inFlight_settle raw _ _

/-! ### One worker after the other -/

/-- Every worker holds what its tasks work on, and no two are at work. -/
structure Solo (f : Fleet) : Prop where
  member : ∀ (w : Nat) (m : Member), f.members[w]? = some m → Holding f.broker.inFlight m.shift
  alone : ∀ (w : Nat) (m : Member) (w' : Nat) (m' : Member), w ≠ w' →
    f.members[w]? = some m → f.members[w']? = some m' → m.shift.IsOver ∨ m'.shift.IsOver

variable {f f' : Fleet} {es trace : List Event}

theorem solo_opening (r : Repository) (metrics : Metrics) : Solo (opening r metrics) where
  member := by rintro w m ⟨⟩
  alone := by rintro w m w' m' _ ⟨⟩

theorem Solo.of_members (h : Solo f) (hmembers : f'.members = f.members)
    (hheld : f'.broker.inFlight = f.broker.inFlight) : Solo f' where
  member := by rw [hmembers, hheld]; exact h.member
  alone := by rw [hmembers]; exact h.alone

/-- What one worker does leaves the others alone, since they are over. -/
theorem Solo.of_set (h : Solo f) {w : Nat} {m m' : Member} (hm : f.members[w]? = some m)
    (hmembers : f'.members = f.members.set w m')
    (hover : m.shift.IsOver → m'.shift.IsOver ∧ f'.broker.inFlight = f.broker.inFlight)
    (hholding : Holding f'.broker.inFlight m'.shift) : Solo f' := by
  have hlt : w < f.members.length := (List.getElem?_eq_some_iff.mp hm).1
  have hother : ∀ (v : Nat) (x : Member), v ≠ w → f'.members[v]? = some x →
      f.members[v]? = some x := by
    intro v x hne hx
    rwa [hmembers, List.getElem?_set_ne hne.symm] at hx
  have hself : ∀ x, f'.members[w]? = some x → x = m' := by
    intro x hx
    rw [hmembers, List.getElem?_set_self hlt] at hx
    exact (Option.some.inj hx).symm
  constructor
  · intro v x hx
    by_cases hv : v = w
    · subst hv
      rw [hself x hx]
      exact hholding
    · -- of two workers one is over: if it is `x`, it has no tasks, and otherwise `m` did nothing
      rcases h.alone v x w m hv (hother v x hv hx) hm with hidle | hdone
      · exact .of_idle hidle.2
      · rw [(hover hdone).2]
        exact h.member v x (hother v x hv hx)
  · intro v x v' x' hne hx hx'
    by_cases hv : v = w
    · subst hv
      obtain rfl := hself x hx
      rcases h.alone v m v' x' hne hm (hother v' x' hne.symm hx') with hdone | hdone
      · exact Or.inl (hover hdone).1
      · exact Or.inr hdone
    · by_cases hv' : v' = w
      · subst hv'
        obtain rfl := hself x' hx'
        rcases h.alone v x v' m hne (hother v x hv hx) hm with hdone | hdone
        · exact Or.inl hdone
        · exact Or.inr (hover hdone).1
      · exact h.alone v x v' x' hne (hother v x hv hx) (hother v' x' hv' hx')

/-- A worker begins when all others are over. -/
theorem Solo.of_hired (h : Solo f) {m : Member} (hover : ∀ m ∈ f.members, m.shift.IsOver)
    (hidle : m.shift.tasks = []) (hmembers : f'.members = f.members ++ [m])
    (hheld : f'.broker.inFlight = f.broker.inFlight) : Solo f' := by
  have hcases : ∀ (v : Nat) (x : Member), f'.members[v]? = some x →
      f.members[v]? = some x ∨ v = f.members.length ∧ x = m := by
    intro v x hx
    rw [hmembers, List.getElem?_append] at hx
    split at hx
    · exact Or.inl hx
    · next hge =>
      have hindex := (List.getElem?_eq_some_iff.mp hx).1
      rw [List.length_singleton] at hindex
      exact Or.inr ⟨by omega, List.mem_singleton.mp (List.mem_of_getElem? hx)⟩
  constructor
  · intro v x hx
    rcases hcases v x hx with hold | ⟨_, rfl⟩
    · rw [hheld]
      exact h.member v x hold
    · exact .of_idle hidle
  · intro v x v' x' hne hx hx'
    rcases hcases v x hx with hold | ⟨hv, _⟩
    · exact Or.inl (hover x (List.mem_of_getElem? hold))
    · rcases hcases v' x' hx' with hold' | ⟨hv', _⟩
      · exact Or.inr (hover x' (List.mem_of_getElem? hold'))
      · exact absurd (hv.trans hv'.symm) hne

theorem Solo.of_loop (h : Solo f) {w : Nat} {m : Member} {b : Queue.Broker} {s : Shift}
    {move : Shift.Move} (hm : f.members[w]? = some m)
    (hmove : m.shift.move? f.backend.broker move = some (b, s)) :
    Solo ((f.withBroker b).withShift w m s) := by
  obtain ⟨hactive, hturn⟩ := Shift.turn_of_move hmove
  exact h.of_set hm rfl (fun hover => absurd hover.1 hactive) ((h.member w m hm).of_turn hturn)

theorem Solo.of_task (h : Solo f) (horderly : Orderly f) {who : Badge} {m : Member} {draw : Draw}
    {b : Backend} {s : Shift} {move : Shift.TaskMove} (hm : f.members[who.worker]? = some m)
    (hmove : m.shift.taskMove? m.post.config draw.toSupply f.backend who.number move =
      some (b, s)) :
    Solo (({ f with backend := b } : Fleet).withShift who.worker m s) := by
  obtain ⟨t, next, ht, hfollows, hdeed⟩ := deed_of_move who hmove
  have hmem := mem_of_task? ht
  refine h.of_set hm rfl (fun hover => ?_) ?_
  · rw [hover.2] at hmem
    cases hmem
  · exact (h.member _ m hm).of_deed hmem (horderly.task who t ⟨m, hm, hmem⟩) hfollows hdeed

/-- What happens outside the workers does not touch what is held. -/
theorem inFlight_call (b : Backend) (now : Instant) (c : Submission.Call) :
    (c.step b now).1.broker.inFlight = b.broker.inFlight := by
  rcases lists_of_call b now c with ⟨hlists, _⟩ | ⟨hlists, _⟩
  · exact hlists.inFlight
  · exact hlists.inFlight

theorem Solo.of_step (h : Solo f) (horderly : Orderly f) {a : Action}
    (hallowed : Exclusive f a) (hstep : f.step? a = some (f', es)) : Solo f' := by
  cases step_of_step? hstep with
  | submit => exact h.of_members rfl rfl
  | call c => exact h.of_members rfl (inFlight_call f.backend _ c)
  | push => exact h.of_members rfl rfl
  | hire => exact h.of_hired hallowed rfl rfl rfl
  | loop hm hmove => exact h.of_loop hm hmove
  | task hm _ hmove => exact h.of_task horderly hm hmove
  | @stop w m hm =>
    have hholding := h.member w m hm
    exact h.of_set hm rfl (fun hover => ⟨hover, rfl⟩)
      (hholding.of_sublist (List.Sublist.refl _) rfl hholding.idle)
  | halt => exact absurd hallowed id
  | @drop who m _ hm _ =>
    have hholding := h.member who.worker m hm
    refine h.of_set hm rfl (fun hover => ⟨⟨hover.1, ?_⟩, rfl⟩)
      (hholding.of_sublist List.filter_sublist rfl hholding.idle)
    show m.shift.tasks.filter _ = []
    rw [hover.2]
    rfl
  | recover => exact absurd hallowed id
  | disturb => exact h.of_members rfl rfl

theorem solo_of_run {r : Repository} {metrics : Metrics}
    (h : Run Exclusive (opening r metrics) trace f) : Solo f :=
  h.invariant (P := fun _ f => Solo f) (solo_opening r metrics)
    fun _ _ _ _ _ hrun hsolo hallowed hstep =>
      hsolo.of_step ((orderly_opening r metrics).of_run hrun) hallowed hstep

/-- **A task of the only worker holds its entry.** -/
theorem Solo.holds (h : Solo f) {who : Badge} {t : Task} (hlive : f.Live who t) :
    t.delivery.raw ∈ f.broker.inFlight := by
  obtain ⟨m, hm, hmem⟩ := hlive
  exact (h.member _ m hm).held.subset (List.mem_map.mpr ⟨_, hmem, rfl⟩)

end Fleet

end DetectionJobs
