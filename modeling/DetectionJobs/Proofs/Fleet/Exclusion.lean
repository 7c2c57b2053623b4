/-
  DetectionJobs/Proofs/Fleet/Exclusion.lean
  =========================================
  **What a task works on is not handed out again.**

  The loop has held entries put back only when none of its tasks runs.  So while a task is at
  work, nothing that is held goes back to those that wait: whatever is handed out was waiting
  before, or was published, pushed or requeued since.  Every task at work holds a copy of its
  entry of its own.
-/
import DetectionJobs.Proofs.Fleet.Conservation
import DetectionJobs.Proofs.Fleet.Places
import DetectionJobs.Proofs.Fleet.Traffic

namespace DetectionJobs.Fleet

open Worker

variable {f f' f₀ g : Fleet} {es : List Event} {a : Action} {past later : Past} {w : Nat}
  {m : Member} {b b' : Queue.Broker} {s s' : Shift} {who : Badge} {t : Task} {draw : Draw}

/-! ### What the tasks hold -/

/-- The entries that tasks work on. -/
def workedOn (f : Fleet) : List String := f.members.flatMap (·.shift.entries)

/-- Workers that are over work on nothing. -/
theorem flatMap_entries_of_over {members : List Member} (h : ∀ m ∈ members, m.shift.IsOver) :
    members.flatMap (·.shift.entries) = [] := by
  refine List.flatMap_eq_nil_iff.mpr fun m hm => ?_
  rw [Shift.entries, (h m hm).2]
  rfl

/-- Tasks at work have copies of their entries of their own. -/
theorem Solo.workedOn_held (h : Solo f) : f.workedOn.Subperm f.broker.inFlight := by
  by_cases hall : ∀ m ∈ f.members, m.shift.IsOver
  · rw [workedOn, flatMap_entries_of_over hall]
    exact List.nil_subperm
  · -- one worker is at work, and those before and after it have no tasks
    push Not at hall
    obtain ⟨m, hmem, hactive⟩ := hall
    obtain ⟨before, after, hmembers⟩ := List.append_of_mem hmem
    have hself : f.members[before.length]? = some m := by
      rw [hmembers]
      exact List.getElem?_append_right (Nat.le_refl _) |>.trans (by rw [Nat.sub_self]; rfl)
    have hothers (v : Nat) (x : Member) (hv : v ≠ before.length) (hx : f.members[v]? = some x) :
        x.shift.IsOver := (h.alone v x _ m hv hx hself).resolve_right hactive
    have hbefore : ∀ x ∈ before, x.shift.IsOver := by
      intro x hx
      obtain ⟨v, hv, rfl⟩ := List.getElem_of_mem hx
      refine hothers v _ (Nat.ne_of_lt hv) ?_
      rw [hmembers, List.getElem?_append_left hv, List.getElem?_eq_getElem hv]
    have hafter : ∀ x ∈ after, x.shift.IsOver := by
      intro x hx
      obtain ⟨v, hv, rfl⟩ := List.getElem_of_mem hx
      refine hothers (before.length + (v + 1)) _ (by omega) ?_
      rw [hmembers, List.getElem?_append_right (Nat.le_add_right _ _), Nat.add_sub_cancel_left,
        List.getElem?_cons_succ, List.getElem?_eq_getElem hv]
    rw [workedOn, hmembers, List.flatMap_append, List.flatMap_cons,
      flatMap_entries_of_over hbefore, flatMap_entries_of_over hafter, List.append_nil,
      List.nil_append]
    exact (h.member _ m hself).held

/-! ### Entries that come and go -/

/-- The entry that a move of the loop hands to a new task. -/
def handedBy (b : Queue.Broker) : Shift.Move → List String
  | .look => b.ready.head?.toList
  | _ => []

/-- The entry that an action hands to a new task. -/
def handedOut (f : Fleet) : Action → List String
  | .loop _ move => handedBy f.broker move
  | _ => []

/-- What is told of an action. -/
def report (f : Fleet) (a : Action) : List Event := ((f.step? a).map (·.2)).getD []

/-- The entry that a settlement puts back, if the action makes one that does. -/
def requeued (f : Fleet) (a : Action) : List String :=
  (f.settlement? a).toList.flatMap fun s => s.settlement.back s.delivery.raw s.now

/-- The entry that an action publishes, pushes or requeues. -/
def added (f : Fleet) (a : Action) : List String := pushedEntries (f.report a) ++ f.requeued a

theorem added_of_step (hstep : f.step? a = some (f', es)) :
    f.added a = pushedEntries es ++ f.requeued a := by
  rw [added, report, hstep]
  rfl

/-- The loop hands out the entry that waits first; nothing else takes entries away from those
    that wait, or adds to them, but to put back what is held. -/
theorem ready_of_move {move : Shift.Move} (h : s.move? b move = some (b', s'))
    (hmove : move ≠ .recover false) : b.ready = handedBy b move ++ b'.ready := by
  cases Shift.moved_of_move h with
  | started | recovered => exact absurd rfl hmove
  | handed _ hready =>
    rw [handedBy, hready]
    rfl
  | foundNothing _ hready =>
    rw [handedBy, hready]
    rfl
  | left => exact (Shift.quit_same b s).1.ready.symm
  | _ => rfl

/-- A submission adds what it publishes. -/
theorem ready_of_call (b : Backend) (now : Instant) (c : Submission.Call) :
    (c.step b now).1.broker.ready = b.broker.ready ++ pushedEntries (callReport b now c) := by
  rcases lists_of_call b now c with ⟨hlists, hreport⟩ | ⟨hlists, hreport⟩
  · rw [hreport]
    exact hlists.ready.trans (List.append_nil _).symm
  · rw [hreport]
    exact hlists.ready

/-- A task pushes nothing. -/
theorem pushedEntries_taskReport (supply : Supply) (b : Backend) (who : Badge) (t : Task)
    (move : Shift.TaskMove) : pushedEntries (taskReport supply b who t move) = [] := by
  unfold taskReport
  cases move with
  | work =>
    dsimp only
    split
    · split <;> rfl
    · rfl
    · next st _ =>
      split
      · cases st.settlement <;> rfl
      · rfl
    · rfl
  | hear answer =>
    dsimp only
    split <;> rfl
  | _ => rfl

/-- A settlement that no fault stands against takes place. -/
theorem broker_of_settlement? {c : Config} {backend : Backend} {move : Shift.TaskMove}
    {x : Settled} (hm : f.members[who.worker]? = some m) (ht : m.shift.task? who.number = some t)
    (hmove : m.shift.taskMove? c draw.toSupply f.backend who.number move = some (backend, s))
    (hsettles : f.settlement? (.task who draw move) = some x) :
    backend.broker = f.broker.settle x.delivery x.now x.settlement := by
  cases move with
  | work =>
    rw [settlement?, task?_of_member hm ht, Option.bind_some] at hsettles
    split at hsettles
    · next st hphase =>
      rw [Option.ite_none_right_eq_some] at hsettles
      obtain ⟨hfaults, hsettles⟩ := hsettles
      cases hsettles
      have hcall : f.backend.broker.trySettle t.delivery draw.now st.settlement = _ :=
        Queue.Broker.trySettle_of_noFault hfaults t.delivery draw.now st.settlement
      have hwaiting : ¬ t.isWaiting = true := by
        simp [Task.isWaiting, hphase]
      rw [Shift.taskMove?, ht, Option.bind_eq_bind, Option.bind_some] at hmove
      simp only [if_neg hwaiting, Task.step, hphase, hcall, Task.finish] at hmove
      cases hmove
      rfl
    · cases hsettles
  | _ => cases hsettles

/-- A task adds what it requeues. -/
theorem ready_of_task {backend : Backend} {move : Shift.TaskMove} (hunfinished : Unfinished f)
    (horderly : Orderly f) (hm : f.members[who.worker]? = some m)
    (ht : m.shift.task? who.number = some t)
    (hmove : m.shift.taskMove? m.post.config draw.toSupply f.backend who.number move =
      some (backend, s)) :
    backend.broker.ready = f.broker.ready ++ f.requeued (.task who draw move) := by
  have hlive : f.Live who t := ⟨m, hm, mem_of_task? ht⟩
  rw [requeued]
  cases hsettles : f.settlement? (.task who draw move) with
  | some x =>
    obtain ⟨_, t', _, hlive', _, hdelivery, _⟩ := live_of_settlement? hsettles
    obtain ⟨raw, hraw, _⟩ := (horderly.task _ t' hlive').delivery
    rw [broker_of_settlement? hm ht hmove hsettles, Option.toList_some, List.flatMap_singleton,
      hdelivery, hraw, Queue.ofRaw_raw]
    exact (f.broker.lists_settle raw x.now x.settlement).1
  | none =>
    have hsame : f.broker.ready = backend.broker.ready := by
      cases upshot_of_move ht (hunfinished who t hlive) hmove with
      | kept hlists => exact hlists.ready.symm
      | settled hphase hfaults =>
        rw [settlement?, task?_of_member hm ht, Option.bind_some, hphase] at hsettles
        have hsome := (if_pos hfaults).symm.trans hsettles
        cases hsome
      | gaveUp hlists => exact hlists.ready.symm
      | died hlists => exact hlists.ready.symm
    exact hsame.symm.trans (List.append_nil _).symm

/-- **Only what is put back comes to those that wait without having been added.** -/
theorem ready_of_step (hunfinished : Unfinished f) (horderly : Orderly f)
    (hback : a.putsBack = false) (hstep : f.step? a = some (f', es)) :
    f.broker.ready ++ f.added a = f.handedOut a ++ f'.broker.ready := by
  rw [added_of_step hstep]
  cases step_of_step? hstep with
  | submit | hire | stop | drop | disturb => exact List.append_nil _
  | call c =>
    exact (congrArg _ (List.append_nil _)).trans (ready_of_call f.backend _ c).symm
  | push => rfl
  | @loop w m move b s hm hmove =>
    have hkeeps : move ≠ .recover false := by
      rintro rfl
      cases hback
    exact (List.append_nil _).trans (ready_of_move hmove hkeeps)
  | task hm ht hmove =>
    rw [pushedEntries_taskReport, List.nil_append]
    exact (ready_of_task hunfinished horderly hm ht hmove).symm
  | @halt _ m hm =>
    exact (List.append_nil _).trans (Shift.quit_same f.backend.broker m.shift).1.ready.symm
  | recover => cases hback

/-! ### Histories -/

theorem stage_of_recover {fails : Bool} (h : s.move? b (.recover fails) = some (b', s')) :
    s.stage = .starting ∨ s.stage = .recovering := by
  cases Shift.moved_of_move h with
  | started hstage | startFailed hstage => exact Or.inl hstage
  | recovered hstage | recoveryFailed hstage => exact Or.inr hstage

/-- **Nobody is at work when what is held is to be put back.** -/
theorem no_task_at_recovery (hnobody : f₀.members = []) (horderly : Orderly f₀)
    (h : History Exclusive f₀ past f) {fails : Bool}
    (hmem : (g, .loop w (.recover fails)) ∈ past) (who : Badge) (t : Task) : ¬ g.Live who t := by
  obtain ⟨earlier, hearlier, _, g', es, hstep⟩ := h.before hmem
  have hsolo := (guarded_of_history hnobody horderly hearlier).solo
  rintro ⟨x, hx, hwork⟩
  cases step_of_step? hstep with
  | @loop _ m _ _ _ hm hmove =>
    have hstage := stage_of_recover hmove
    have hidle : x.shift.tasks = [] := by
      by_cases hw : who.worker = w
      · rw [hw, hm] at hx
        obtain rfl : m = x := Option.some.inj hx
        exact (hsolo.member w m hm).idle hstage
      · rcases hsolo.alone _ x w m hw hx hm with hover | ⟨hdone, _⟩
        · exact hover.2
        · rw [hdone] at hstage
          rcases hstage with hstage | hstage <;> cases hstage
    rw [hidle] at hwork
    cases hwork

/-- **While a task is at work, nothing that is held is put back**: what is handed out was waiting
    before or was added since. -/
theorem ready_of_history (hnobody : f₀.members = []) (horderly : Orderly f₀)
    (h : History Exclusive f₀ past f) (hlater : History Exclusive f later f')
    (hbusy : ∀ p ∈ later, ∃ who t, p.1.Live who t) :
    f.broker.ready ++ later.flatMap (fun p => p.1.added p.2) =
      later.flatMap (fun p => p.1.handedOut p.2) ++ f'.broker.ready := by
  refine hlater.invariant (P := fun later f' => (∀ p ∈ later, ∃ who t, p.1.Live who t) →
    f.broker.ready ++ later.flatMap (fun p => p.1.added p.2) =
      later.flatMap (fun p => p.1.handedOut p.2) ++ f'.broker.ready)
    (fun _ => List.append_nil _) (fun later g a g' es hhistory ih hallowed hstep hbusy => ?_) hbusy
  have hwhole : History Exclusive f₀ (past ++ later) g := h.trans hhistory
  have hguarded := guarded_of_history hnobody horderly hwhole
  have hback : a.putsBack = false := by
    unfold Action.putsBack
    split
    · next w =>
      obtain ⟨who, t, hlive⟩ := hbusy _ (List.mem_append_right _ (List.mem_singleton_self _))
      exact absurd hlive (no_task_at_recovery hnobody horderly (hwhole.step hallowed hstep)
        (List.mem_append_right _ (List.mem_singleton_self _)) who t)
    · exact absurd hallowed id
    · rfl
  have hnow := ready_of_step hguarded.unfinished hguarded.orderly hback hstep
  have hbefore := ih fun p hp => hbusy p (List.mem_append_left _ hp)
  rw [List.flatMap_append, List.flatMap_append, List.flatMap_singleton, List.flatMap_singleton,
    ← List.append_assoc, hbefore, List.append_assoc, hnow, List.append_assoc]

/-- **The work of one worker at a time is bounded and exclusive.**  Its loop and its tasks take
    turns in any order, whatever fails and whoever dies.  The tasks at work and the place that
    the loop has never exceed the places that the worker was set up with, all other places are
    free, and a loop that waits for a place gets one just if fewer tasks are at work.  Every text
    is held at least as often as tasks work on it.  What is held is put back only when no task is
    at work; so as long as one is, whatever is handed out was waiting before, or was published,
    pushed or requeued since. -/
theorem work_is_exclusive (hnobody : f₀.members = []) (horderly : Orderly f₀)
    (h : History Exclusive f₀ past f) :
    (∀ (w : Nat) (m : Member), f.members[w]? = some m →
      m.shift.tasks.length + m.shift.ownPlaces + m.shift.places = m.post.config.concurrency ∧
      (m.shift.stage = .acquiring →
        ((m.shift.move? f.broker .acquire).isSome ↔
          m.shift.tasks.length < m.post.config.concurrency))) ∧
    (∀ entry, f.workedOn.count entry ≤ f.broker.inFlight.count entry) ∧
    (∀ g w fails, (g, .loop w (.recover fails)) ∈ past → ∀ who t, ¬ g.Live who t) ∧
    ∀ later f', History Exclusive f later f' → (∀ p ∈ later, ∃ who t, p.1.Live who t) →
      f.broker.ready ++ later.flatMap (fun p => p.1.added p.2) =
        later.flatMap (fun p => p.1.handedOut p.2) ++ f'.broker.ready := by
  refine ⟨fun w m hm => ?_, ?_, ?_, ?_⟩
  · have hplaces := placesKept_of_history hnobody horderly h w m hm
    exact ⟨hplaces, acquires_iff hplaces⟩
  · exact (guarded_of_history hnobody horderly h).solo.workedOn_held.count_le
  · exact fun g w fails => no_task_at_recovery hnobody horderly h
  · exact fun later f' => ready_of_history hnobody horderly h

/-- A task is at work, and another entry waits. -/
def sharing : List Action := submitting ++ beginning ++ [.push "odd"]

theorem work_is_exclusive_after_sharing :
    ∃ f past f' later, History Exclusive start past f ∧ History Exclusive f later f' ∧
      (∀ p ∈ later, ∃ who t, p.1.Live who t) ∧
      later.flatMap (fun p => p.1.handedOut p.2) = ["odd"] ∧
      f.broker.ready ++ later.flatMap (fun p => p.1.added p.2) = ["odd"] ++ f'.broker.ready := by
  have hstates : (do
      let first ← start.replay? Exclusive sharing
      let last ← first.1.replay? Exclusive (taking [.begin])
      let past := pastOf first.1 (taking [.begin])
      some (past.all fun p => (p.1.task? ⟨0, 0⟩).isSome,
        past.flatMap fun p => p.1.handedOut p.2)) = some (true, ["odd"]) := by
    decide +kernel
  obtain ⟨⟨f, trace⟩, hreplay, hstates⟩ := Option.bind_eq_some_iff.mp hstates
  obtain ⟨⟨f', trace'⟩, hreplay', hstates⟩ := Option.bind_eq_some_iff.mp hstates
  obtain ⟨hbusy, hhanded⟩ := Prod.mk.inj (Option.some.inj hstates)
  have hlive : ∀ p ∈ pastOf f (taking [.begin]), ∃ who t, p.1.Live who t := by
    intro p hp
    obtain ⟨t, ht⟩ := Option.isSome_iff_exists.mp (List.all_eq_true.mp hbusy p hp)
    exact ⟨_, t, member_of_task? ht⟩
  have hlater := history_of_replay hreplay'
  have hexclusive := work_is_exclusive rfl (orderly_opening _ _) (history_of_replay hreplay)
  have hready := hexclusive.2.2.2 _ _ hlater hlive
  rw [hhanded] at hready
  exact ⟨f, _, f', _, history_of_replay hreplay, hlater, hlive, hhanded, hready⟩

end DetectionJobs.Fleet
