/-
  DetectionJobs/Proofs/Fleet/Watch.lean
  =====================================
  **No held entry is forgotten.**

  One worker is at work on the queue, after others perhaps that are over.  As long as its loop
  has not left its rounds, a held entry belongs to a task that is at work, or was left behind
  by a task that vanished or died, or the loop is alert; an entry that the loop takes belongs
  to its new task from that step on.  So whenever the loop looks for the notice and does not
  find it, everything that a task gave up on has been put back.
-/
import DetectionJobs.Proofs.Fleet.Alert

namespace DetectionJobs.Fleet

open Worker

variable {l : Leftovers} {s : Shift} {n : Nat} {t : Task} {m : Member} {f f' f₀ g : Fleet}
  {es : List Event} {a : Action} {past : Past} {w : Nat} {raw : String}

/-! ### Steps of the fleet -/

/-- What is left behind is held, and every worker knows of all entries that are held. -/
structure Watched (l : Leftovers) (f : Fleet) : Prop where
  left : l.all.Subperm f.broker.inFlight
  member : ∀ (w : Nat) (m : Member), f.members[w]? = some m →
    Accounted f.broker.inFlight l m.shift

theorem watched_of_nobody (h : f.members = []) : Watched .nothing f where
  left := List.nil_subperm
  member := by
    intro w m hm
    rw [h] at hm
    cases hm

theorem accounted_of_over {inFlight : List String} (hleft : l.all.Subperm inFlight)
    (h : s.IsOver) : Accounted inFlight l s := by
  refine ⟨?_, Or.inl (Or.inr h.1)⟩
  rw [Shift.entries, h.2]
  exact hleft

theorem Watched.of_members (h : Watched l f) (hmembers : f'.members = f.members)
    (hheld : f'.broker.inFlight = f.broker.inFlight) : Watched l f' where
  left := by rw [hheld]; exact h.left
  member := by rw [hmembers, hheld]; exact h.member

/-- What a worker that is at work does needs to be checked for that worker only, since all
    others are over. -/
theorem Watched.of_set {m' : Member} (hsolo : Solo f) (hm : f.members[w]? = some m)
    (hmembers : f'.members = f.members.set w m') (hactive : ¬ m.shift.IsOver)
    (hself : Accounted f'.broker.inFlight l m'.shift) : Watched l f' := by
  have hleft : l.all.Subperm f'.broker.inFlight :=
    (List.sublist_append_right m'.shift.entries l.all).subperm.trans hself.held
  refine ⟨hleft, fun v x hx => ?_⟩
  rw [hmembers] at hx
  by_cases hv : w = v
  · subst hv
    rw [List.getElem?_set_self (List.getElem?_eq_some_iff.mp hm).1] at hx
    cases hx
    exact hself
  · rw [List.getElem?_set_ne hv] at hx
    rcases hsolo.alone w m v x hv hm hx with hover | hover
    · exact absurd hover hactive
    · exact accounted_of_over hleft hover

theorem Watched.of_loop (h : Watched l f) (hsolo : Solo f) {b : Queue.Broker}
    {move : Shift.Move} (hm : f.members[w]? = some m)
    (hmove : m.shift.move? f.backend.broker move = some (b, s)) :
    Watched (l.after f (.loop w move)) ((f.withBroker b).withShift w m s) := by
  have hactive : ¬ m.shift.IsOver := fun hover => (Shift.turn_of_move hmove).1 hover.1
  by_cases hrecovery : move = .recover false
  · subst hrecovery
    exact .of_set hsolo hm rfl hactive (accounted_of_recovery (hsolo.member w m hm) hmove)
  · have hsame : l.after f (.loop w move) = l := by
      cases move with
      | recover fails =>
        cases fails with
        | false => exact absurd rfl hrecovery
        | true => rfl
      | _ => rfl
    rw [hsame]
    exact .of_set hsolo hm rfl hactive ((h.member w m hm).of_move hrecovery hmove)

theorem not_over_of_task (ht : s.task? n = some t) : ¬ s.IsOver := by
  intro hover
  have hmem := mem_of_task? ht
  rw [hover.2] at hmem
  cases hmem

theorem Watched.of_task (h : Watched l f) (hsolo : Solo f) (horderly : Orderly f)
    (hunfinished : Unfinished f) {who : Badge} {draw : Draw} {b : Backend}
    {move : Shift.TaskMove} (hm : f.members[who.worker]? = some m)
    (ht : m.shift.task? who.number = some t)
    (hmove : m.shift.taskMove? m.post.config draw.toSupply f.backend who.number move =
      some (b, s)) :
    Watched (l.after f (.task who draw move))
      (({ f with backend := b } : Fleet).withShift who.worker m s) := by
  have hmem := mem_of_task? ht
  have hlive : f.Live who t := ⟨m, hm, hmem⟩
  have hupshot := upshot_of_move ht (hunfinished who t hlive) hmove
  obtain ⟨raw, hdelivery, _⟩ := (horderly.task who t hlive).delivery
  have hleft : l.after f (.task who draw move) = l.afterMove f.broker t move := by
    rw [Leftovers.after, if_neg nofun, task?_of_member hm ht]
  rw [hleft]
  exact .of_set hsolo hm rfl (not_over_of_task ht)
    ((h.member _ m hm).of_upshot (hsolo.member _ m hm).nodup hmem hdelivery hupshot)

theorem Watched.of_drop (h : Watched l f) (hsolo : Solo f) {who : Badge}
    (hm : f.members[who.worker]? = some m) (ht : m.shift.task? who.number = some t) :
    Watched (l.after f (.drop who)) (f.withShift who.worker m
      { m.shift with
        tasks := m.shift.tasks.filter (·.1 ≠ who.number)
        places := m.shift.places + 1 }) := by
  have hleft : l.after f (.drop who) = l.orphan t := by
    rw [Leftovers.after, if_neg nofun, task?_of_member hm ht]
  rw [hleft]
  exact .of_set hsolo hm rfl (not_over_of_task ht)
    ((h.member _ m hm).of_orphan (hsolo.member _ m hm).nodup (mem_of_task? ht) ⟨rfl, rfl, rfl⟩ rfl)

/-- A worker begins with a pass. -/
theorem Watched.of_hired (h : Watched l f) {post : Post} {number : Nat} {ledger : Ledger}
    {isStopped : Bool} (hheld : f'.broker.inFlight = f.broker.inFlight)
    (hmembers : f'.members =
      f.members ++ [⟨post, .start number post.config ledger isStopped⟩]) : Watched l f' := by
  have hleft : l.all.Subperm f'.broker.inFlight := by
    rw [hheld]
    exact h.left
  refine ⟨hleft, fun v x hx => ?_⟩
  rw [hmembers, List.getElem?_append] at hx
  split at hx
  · rw [hheld]
    exact h.member v x hx
  · obtain rfl := List.mem_singleton.mp (List.mem_of_getElem? hx)
    exact ⟨hleft, Or.inr (Or.inl (Or.inr rfl))⟩

theorem Watched.of_stop (h : Watched l f) (hm : f.members[w]? = some m) :
    Watched l (f.withShift w m m.shift.stop) := by
  refine ⟨h.left, fun v x hx => ?_⟩
  have hself := h.member w m hm
  simp only [withShift] at hx
  by_cases hv : w = v
  · subst hv
    rw [List.getElem?_set_self (List.getElem?_eq_some_iff.mp hm).1] at hx
    cases hx
    exact ⟨hself.held, hself.watch⟩
  · rw [List.getElem?_set_ne hv] at hx
    exact h.member v x hx

theorem Watched.of_step (h : Watched l f) (hsolo : Solo f) (horderly : Orderly f)
    (hunfinished : Unfinished f) (hallowed : Exclusive f a) (hstep : f.step? a = some (f', es)) :
    Watched (l.after f a) f' := by
  cases step_of_step? hstep with
  | submit => exact h.of_members rfl rfl
  | call c => exact h.of_members rfl (inFlight_call f.backend _ c)
  | push => exact h.of_members rfl rfl
  | hire => exact h.of_hired rfl rfl
  | loop hm hmove => exact h.of_loop hsolo hm hmove
  | task hm ht hmove => exact h.of_task hsolo horderly hunfinished hm ht hmove
  | stop hm => exact h.of_stop hm
  | halt => exact absurd hallowed id
  | drop hm ht => exact h.of_drop hsolo hm ht
  | recover => exact absurd hallowed id
  | disturb => exact h.of_members rfl rfl

/-! ### Histories -/

theorem solo_of_nobody (h : f.members = []) : Solo f := by
  constructor
  · intro w m hm
    rw [h] at hm
    cases hm
  · intro w m w' m' _ hm
    rw [h] at hm
    cases hm

/-- What holds of a fleet with one worker at a time. -/
structure Guarded (past : Past) (f : Fleet) : Prop where
  orderly : Orderly f
  solo : Solo f
  unfinished : Unfinished f
  watched : Watched (leftovers past) f

theorem guarded_of_history (hnobody : f₀.members = []) (horderly : Orderly f₀)
    (h : History Exclusive f₀ past f) : Guarded past f := by
  refine h.invariant ?_ fun past f a f' es _ hguarded hallowed hstep => ?_
  · exact ⟨horderly, solo_of_nobody hnobody, unfinished_of_nobody hnobody,
      watched_of_nobody hnobody⟩
  · obtain ⟨horderly, hsolo, hunfinished, hwatched⟩ := hguarded
    have hchange := change_of_step hstep
    refine ⟨horderly.of_change hchange, hsolo.of_step horderly hallowed hstep,
      hunfinished.of_change hchange, ?_⟩
    rw [leftovers_concat]
    exact hwatched.of_step hsolo horderly hunfinished hallowed hstep

/-! ### What was given up goes back -/

theorem mem_unsettled_after (h : raw ∈ l.unsettled) (ha : a.putsBack = false) :
    raw ∈ (l.after f a).unsettled := by
  unfold Leftovers.after
  rw [if_neg (by rw [ha]; nofun)]
  cases a with
  | drop who =>
    dsimp only
    split
    · exact h
    · exact h
  | task who draw move =>
    dsimp only
    split
    · next t _ =>
      cases move with
      | work =>
        rw [Leftovers.afterMove]
        split
        · exact List.mem_append_left _ h
        · exact h
      | _ => exact h
    · exact h
  | _ => exact h

theorem exists_putsBack {earlier later : Past} (hraw : raw ∈ (leftovers earlier).unsettled)
    (hnone : (leftovers (earlier ++ later)).unsettled = []) :
    ∃ before g a after, later = before ++ (g, a) :: after ∧ a.putsBack = true ∧
      raw ∈ (leftovers (earlier ++ before)).unsettled := by
  induction later generalizing earlier with
  | nil =>
    rw [List.append_nil] at hnone
    rw [hnone] at hraw
    cases hraw
  | cons p rest ih =>
    obtain ⟨g, a⟩ := p
    cases ha : a.putsBack with
    | true =>
      refine ⟨[], g, a, rest, rfl, ha, ?_⟩
      rw [List.append_nil]
      exact hraw
    | false =>
      have hstays : raw ∈ (leftovers (earlier ++ [(g, a)])).unsettled := by
        rw [leftovers_concat]
        exact mem_unsettled_after hraw ha
      rw [List.append_cons] at hnone
      obtain ⟨before, g', a', after, rfl, ha', hmem⟩ := ih hstays hnone
      refine ⟨(g, a) :: before, g', a', after, rfl, ha', ?_⟩
      rw [List.append_cons]
      exact hmem

/-- An action of this past had the entry put back: it was held, and then it was ready. -/
def PutBack (past : Past) (raw : String) : Prop :=
  ∃ g w g' es, (g, Action.loop w (.recover false)) ∈ past ∧
    g.step? (.loop w (.recover false)) = some (g', es) ∧
    raw ∈ g.broker.inFlight ∧ raw ∈ g'.broker.ready

theorem ready_of_recovery {g' : Fleet} (hstep : g.step? (.loop w (.recover false)) = some (g', es))
    (hraw : raw ∈ g.broker.inFlight) : raw ∈ g'.broker.ready := by
  cases step_of_step? hstep with
  | @loop _ _ _ b _ _ hmove =>
    obtain ⟨hb, _⟩ := Shift.recovered_of_move hmove
    show raw ∈ b.ready
    rw [hb, g.backend.broker.same_recover.ready]
    exact List.mem_append_left _ (List.mem_reverse.mpr hraw)

theorem unsettled_of_givesUp {who : Badge} {draw : Draw} (htask : g.task? who = some t)
    (hgives : givesUp g.broker t = true) (earlier : Past) :
    t.delivery.raw ∈ (leftovers (earlier ++ [(g, .task who draw .work)])).unsettled := by
  have hafter : (leftovers earlier).after g (.task who draw .work) =
      (leftovers earlier).giveUp t := by
    rw [Leftovers.after, if_neg nofun, htask]
    exact if_pos hgives
  rw [leftovers_concat, hafter]
  exact List.mem_append_right _ (List.mem_singleton_self _)

theorem put_back_of_settled (hnobody : f₀.members = []) (horderly : Orderly f₀) {who : Badge}
    {draw : Draw} {earlier later : Past}
    (h : History Exclusive f₀ (earlier ++ (g, .task who draw .work) :: later) f)
    (htask : g.task? who = some t) (hgives : givesUp g.broker t = true)
    (hnone : (leftovers (earlier ++ (g, .task who draw .work) :: later)).unsettled = []) :
    PutBack later t.delivery.raw := by
  rw [List.append_cons] at h hnone
  obtain ⟨before, g', a, after, rfl, ha, hraw⟩ :=
    exists_putsBack (unsettled_of_givesUp htask hgives earlier) hnone
  rw [← List.append_assoc] at h
  obtain ⟨hbefore, hallowed, g'', es, hstep⟩ := h.split
  have hheld : t.delivery.raw ∈ g'.broker.inFlight :=
    (guarded_of_history hnobody horderly hbefore).watched.left.subset
      (List.mem_append_right _ hraw)
  cases a with
  | loop w move =>
    obtain rfl : move = .recover false := by
      unfold Action.putsBack at ha
      split at ha
      · next heq => cases heq; rfl
      · next heq => cases heq
      · cases ha
    exact ⟨g', w, g'', es, List.mem_append_right _ List.mem_cons_self, hstep, hheld,
      ready_of_recovery hstep hheld⟩
  | recover => exact absurd hallowed id
  | _ => cases ha

/-- **No held entry is forgotten.**  One worker is at work on any queue, and its loop and its
    tasks take turns in any order, whatever faults occur.  As long as the loop has not left its
    rounds, it is alert if more copies of an entry are held than its tasks work on and vanished
    ones left behind.  When it looks for the notice and finds none, there are no more, and
    everything that a task gave up on was put back after that. -/
theorem held_entries_watched (hnobody : f₀.members = []) (horderly : Orderly f₀)
    (h : History Exclusive f₀ past f) (hm : f.members[w]? = some m)
    (hrounds : ¬ m.shift.HasLeft) :
    (∀ entry, (m.shift.entries ++ (leftovers past).orphans).count entry <
      f.broker.inFlight.count entry → m.shift.IsAlert) ∧
    (m.shift.stage = .round → m.shift.ledger.needsRecovery = false →
      f.broker.inFlight.Perm (m.shift.entries ++ (leftovers past).orphans) ∧
      ∀ earlier g who draw later t, past = earlier ++ (g, .task who draw .work) :: later →
        g.task? who = some t → givesUp g.broker t = true → PutBack later t.delivery.raw) := by
  have haccounted := (guarded_of_history hnobody horderly h).watched.member w m hm
  constructor
  · intro entry hmore
    by_contra hcalm
    have hexact := (haccounted.all_settled hrounds hcalm).2
    rw [hexact.count_eq] at hmore
    exact Nat.lt_irrefl _ hmore
  · intro hround hflag
    have hcalm : ¬ m.shift.IsAlert := by
      rintro (hnotice | hpass)
      · rw [hflag] at hnotice
        cases hnotice
      · rw [hround] at hpass
        cases hpass
    obtain ⟨hnone, hexact⟩ := haccounted.all_settled hrounds hcalm
    refine ⟨hexact, ?_⟩
    rintro earlier g who draw later t rfl htask hgives
    exact put_back_of_settled hnobody horderly h htask hgives hnone

/-- A task completes its job and gives up on its delivery, and the loop puts the entry back
    and takes it again. -/
def struggling : List Action :=
  submitting ++ beginning ++ handling 0 (.ok []) ++
    .disturb false 3 0 ::
    [Shift.TaskMove.work, .wake, .work, .wake, .work].map (.task ⟨0, 0⟩ noon) ++
    taking [.begin, .join, .recover false]

theorem held_entries_watched_after_struggling :
    ∃ f past m, History Exclusive start past f ∧ f.members[0]? = some m ∧
      ¬ m.shift.HasLeft ∧ m.shift.stage = .round ∧ m.shift.ledger.needsRecovery = false ∧
      f.broker.inFlight.Perm (m.shift.entries ++ (leftovers past).orphans) := by
  have hstates : (do
      let last ← start.replay? Exclusive struggling
      let m ← last.1.members[0]?
      some (m.shift.stage, m.shift.ledger.needsRecovery)) = some (.round, false) := by
    decide +kernel
  obtain ⟨⟨f, trace⟩, hreplay, hstates⟩ := Option.bind_eq_some_iff.mp hstates
  obtain ⟨m, hm, hstates⟩ := Option.bind_eq_some_iff.mp hstates
  obtain ⟨hround, hflag⟩ := Prod.mk.inj (Option.some.inj hstates)
  have hhistory := history_of_replay hreplay
  have hrounds : ¬ m.shift.HasLeft := by
    rw [Shift.HasLeft, hround]
    decide
  have hwatched := held_entries_watched rfl (orderly_opening _ _) hhistory hm hrounds
  exact ⟨f, _, m, hhistory, hm, hrounds, hround, hflag, (hwatched.2 hround hflag).1⟩

end DetectionJobs.Fleet
