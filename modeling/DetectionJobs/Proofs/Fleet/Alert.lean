/-
  DetectionJobs/Proofs/Fleet/Alert.lean
  =====================================
  **Held entries, and whether the loop knows of them.**

  A task that cannot settle its delivery gives up on it, and its entry stays held.  The task
  leaves a notice in the ledger of its worker.  The loop clears the notice before it waits
  for its tasks and puts back what is held, and tasks may give up at any moment in between;
  the recovery may fail as well, any number of times.

  A loop is alert if the notice is there or a pass is under way that has not put anything
  back yet.  Only a recovery that succeeds ends the alert, and when it does, nothing is held.
-/
import DetectionJobs.Proofs.Fleet.Solo
import DetectionJobs.Proofs.Fleet.Upshots
import DetectionJobs.Proofs.Fleet.History

namespace DetectionJobs

namespace Worker

/-! ### Alertness -/

/-- The loop is about to put back what is held. -/
def Stage.isPass : Stage → Bool
  | .starting | .joining | .recovering => true
  | _ => false

namespace Shift

/-- There is notice of a held entry, or a pass has not put anything back yet. -/
def IsAlert (s : Shift) : Prop := s.ledger.needsRecovery = true ∨ s.stage.isPass = true

/-- The loop has left its rounds. -/
def HasLeft (s : Shift) : Prop := s.stage = .draining ∨ s.stage = .done

instance (s : Shift) : Decidable s.IsAlert := by unfold IsAlert; infer_instance

instance (s : Shift) : Decidable s.HasLeft := by unfold HasLeft; infer_instance

variable {b b' : Queue.Broker} {s s' : Shift} {move : Move}

theorem quit_hasLeft (b : Queue.Broker) (s : Shift) : (s.quit b).2.HasLeft :=
  Or.inl (quit_same b s).2.2.2

theorem IsAlert.notice {stage : Stage} (h : s.IsAlert) (hstage : s.stage = stage)
    (hpass : stage.isPass = false) : s.ledger.needsRecovery = true := by
  rcases h with hnotice | hstage'
  · exact hnotice
  · rw [hstage, hpass] at hstage'
    cases hstage'

/-- **Only a recovery that succeeds ends the alert.** -/
theorem alert_of_move (h : s.move? b move = some (b', s')) (hmove : move ≠ .recover false)
    (halert : s.IsAlert) : s'.IsAlert ∨ s'.HasLeft := by
  cases moved_of_move h with
  | started | recovered => exact absurd rfl hmove
  | startFailed | recoveryFailed => exact Or.inl (Or.inl rfl)
  -- the notice is cleared, and a pass begins
  | noticed => exact Or.inl (Or.inr rfl)
  | began hstage hcalm =>
    rw [halert.notice hstage rfl] at hcalm
    cases hcalm
  | joined => exact Or.inl (Or.inr rfl)
  | left => exact Or.inr (quit_hasLeft b s)
  | finished | abandoned => exact Or.inr (Or.inr rfl)
  | paused hstage | rested hstage | acquired hstage | asked hstage | refused hstage
  | handed hstage | foundNothing hstage | listened hstage | resumed hstage | expired hstage =>
    exact Or.inl (Or.inl (halert.notice hstage rfl))

/-- A loop that has left its rounds can only end. -/
theorem done_of_move (h : s.move? b move = some (b', s')) (hleft : s.HasLeft) :
    s'.stage = .done ∧ s'.isStopped = s.isStopped ∧ s'.started = s.started := by
  have hmoved := moved_of_move h
  rcases hleft with hstage | hdone
  · cases hmoved with
    | finished | abandoned => exact ⟨rfl, rfl, rfl⟩
    | left _ hnotices =>
      rw [hstage] at hnotices
      cases hnotices
    | _ => simp_all
  · exact absurd hdone hmoved.stage_ne_done

theorem recovered_of_move (h : s.move? b (.recover false) = some (b', s')) :
    b' = b.recover.2 ∧ (s.stage = .starting ∨ s.stage = .recovering) ∧ s'.tasks = s.tasks := by
  cases moved_of_move h with
  | started hstage => exact ⟨rfl, Or.inl hstage, rfl⟩
  | recovered hstage => exact ⟨rfl, Or.inr hstage, rfl⟩

theorem failed_of_move (h : s.move? b (.recover true) = some (b', s')) :
    b' = b ∧ s'.tasks = s.tasks ∧ s'.ledger.needsRecovery = true := by
  cases moved_of_move h with
  | startFailed => exact ⟨rfl, rfl, rfl⟩
  | recoveryFailed => exact ⟨rfl, rfl, rfl⟩

/-- A loop that is to put back what is held does nothing else. -/
theorem recover_of_stage (hstage : s.stage = .starting ∨ s.stage = .recovering)
    (h : s.move? b move = some (b', s')) : ∃ fails, move = .recover fails := by
  cases moved_of_move h with
  | started | recovered => exact ⟨false, rfl⟩
  | startFailed | recoveryFailed => exact ⟨true, rfl⟩
  | left _ hnotices =>
    rcases hstage with hstage | hstage
    · rw [hstage] at hnotices
      cases hnotices
    · rw [hstage] at hnotices
      cases hnotices
  | _ => simp_all

end Shift

end Worker

/-! ### What is left behind -/

namespace Fleet

open Worker

/-- Whether the action puts back everything that is held. -/
def Action.putsBack : Action → Bool
  | .loop _ (.recover false) | .recover => true
  | _ => false

/-- Entries that are still held, though no task works on them any more. -/
structure Leftovers where
  /-- Those of tasks that vanished or died. -/
  orphans : List String
  /-- Those of tasks that gave up on them. -/
  unsettled : List String

namespace Leftovers

def nothing : Leftovers := ⟨[], []⟩

def all (l : Leftovers) : List String := l.orphans ++ l.unsettled

def orphan (l : Leftovers) (t : Task) : Leftovers :=
  { l with orphans := l.orphans ++ [t.delivery.raw] }

def giveUp (l : Leftovers) (t : Task) : Leftovers :=
  { l with unsettled := l.unsettled ++ [t.delivery.raw] }

/-- What is left behind after a move of a task. -/
def afterMove (l : Leftovers) (b : Queue.Broker) (t : Task) : Shift.TaskMove → Leftovers
  | .die => l.orphan t
  | .work => if givesUp b t then l.giveUp t else l
  | _ => l

theorem all_orphan (l : Leftovers) (t : Task) :
    (l.orphan t).all.Perm (l.all ++ [t.delivery.raw]) := by
  rw [all, all, orphan, List.append_assoc, List.append_assoc]
  exact List.perm_append_comm.append_left l.orphans

theorem all_giveUp (l : Leftovers) (t : Task) :
    (l.giveUp t).all = l.all ++ [t.delivery.raw] :=
  (List.append_assoc ..).symm

end Leftovers

/-- What is left behind after an action.  Nothing is once all held entries were put back. -/
def Leftovers.after (l : Leftovers) (f : Fleet) (a : Action) : Leftovers :=
  if a.putsBack then .nothing
  else match a with
    | .drop who =>
      match f.task? who with
      | some t => l.orphan t
      | none => l
    | .task who _ move =>
      match f.task? who with
      | some t => l.afterMove f.broker t move
      | none => l
    | _ => l

def leftovers (past : Past) : Leftovers := past.foldl (fun l p => l.after p.1 p.2) .nothing

theorem leftovers_concat (past : Past) (f : Fleet) (a : Action) :
    leftovers (past ++ [(f, a)]) = (leftovers past).after f a := List.foldl_concat ..

/-- What a worker knows of the entries that are held: its tasks hold theirs, what was left
    behind is held as well, and in its rounds it is alert if there is anything else. -/
structure Accounted (inFlight : List String) (l : Leftovers) (s : Shift) : Prop where
  held : (s.entries ++ l.all).Subperm inFlight
  watch : s.HasLeft ∨ s.IsAlert ∨ inFlight.Perm (s.entries ++ l.orphans)

variable {b b' : Backend} {l l' : Leftovers} {s s' : Shift} {n : Nat} {t : Task} {m : Member}
  {f f' f₀ g : Fleet} {es : List Event} {a : Action} {past : Past} {w : Nat} {raw : String}

/-- Whoever is not alert in its rounds left nothing unsettled. -/
theorem Accounted.all_settled {inFlight : List String} (h : Accounted inFlight l s)
    (hrounds : ¬ s.HasLeft) (hcalm : ¬ s.IsAlert) :
    l.unsettled = [] ∧ inFlight.Perm (s.entries ++ l.orphans) := by
  rcases h.watch with hleft | halert | hperm
  · exact absurd hleft hrounds
  · exact absurd halert hcalm
  · refine ⟨List.eq_nil_of_length_eq_zero ?_, hperm⟩
    have hlength := h.held.length_le
    rw [hperm.length_eq, Leftovers.all, ← List.append_assoc, List.length_append] at hlength
    omega

/-! ### Moves of the loop -/

theorem accounted_of_recovery {b b' : Queue.Broker} (hholding : Holding b.inFlight s)
    (h : s.move? b (.recover false) = some (b', s')) : Accounted b'.inFlight .nothing s' := by
  obtain ⟨rfl, hstage, htasks⟩ := Shift.recovered_of_move h
  have hentries : s'.entries = [] := by
    rw [Shift.entries, htasks, hholding.idle hstage]
    rfl
  rw [b.same_recover.inFlight]
  constructor
  · rw [hentries]
    exact List.Subperm.refl []
  · rw [hentries]
    exact Or.inr (Or.inr (List.Perm.refl []))

theorem Accounted.watch_of_move {b b' : Queue.Broker} {move : Shift.Move}
    {inFlight inFlight' : List String} (h : Accounted inFlight l s)
    (hmove : move ≠ .recover false) (hstep : s.move? b move = some (b', s'))
    (hperm : inFlight.Perm (s.entries ++ l.orphans) → inFlight'.Perm (s'.entries ++ l.orphans)) :
    s'.HasLeft ∨ s'.IsAlert ∨ inFlight'.Perm (s'.entries ++ l.orphans) := by
  rcases h.watch with hleft | halert | hexact
  · exact Or.inl (Or.inr (Shift.done_of_move hstep hleft).1)
  · rcases Shift.alert_of_move hstep hmove halert with halert' | hleft
    · exact Or.inr (Or.inl halert')
    · exact Or.inl hleft
  · exact Or.inr (Or.inr (hperm hexact))

theorem entries_spawn (s : Shift) (raw : String) : (s.spawn raw).entries = s.entries ++ [raw] := by
  rw [Shift.entries, Shift.spawn, List.map_append, List.map_singleton, Task.start,
    Queue.ofRaw_raw]
  rfl

theorem Accounted.of_move {b b' : Queue.Broker} {move : Shift.Move}
    (h : Accounted b.inFlight l s) (hmove : move ≠ .recover false)
    (hstep : s.move? b move = some (b', s')) : Accounted b'.inFlight l s' := by
  by_cases hfails : move = .recover true
  · subst hfails
    obtain ⟨rfl, htasks, hnotice⟩ := Shift.failed_of_move hstep
    refine ⟨?_, Or.inr (Or.inl (Or.inl hnotice))⟩
    rw [Shift.entries, htasks]
    exact h.held
  cases (Shift.turn_of_move hstep).2 with
  | quiet hlists htasks =>
    have hentries : s'.entries = s.entries := by rw [Shift.entries, Shift.entries, htasks]
    rw [hlists.inFlight]
    refine ⟨?_, h.watch_of_move hmove hstep fun hexact => ?_⟩
    · rw [hentries]
      exact h.held
    · rw [hentries]
      exact hexact
  | recovered hstage =>
    obtain ⟨fails, rfl⟩ := Shift.recover_of_stage hstage hstep
    cases fails with
    | false => exact absurd rfl hmove
    | true => exact absurd rfl hfails
  | @handed raw rest hready =>
    have hmoved (left : List String) : (s.entries ++ left ++ [raw]).Perm
        ((s.spawn raw).entries ++ left) := by
      rw [entries_spawn, List.append_assoc, List.append_assoc]
      exact List.perm_append_comm.append_left s.entries
    refine ⟨?_, h.watch_of_move hmove hstep fun hexact => ?_⟩
    · exact (hmoved l.all).symm.subperm.trans ((List.subperm_append_right [raw]).mpr h.held)
    · exact (hexact.append_right [raw]).trans (hmoved l.orphans)
  | abandoned =>
    have hleft : l.all.Subperm b.inFlight :=
      (List.sublist_append_right s.entries l.all).subperm.trans h.held
    exact ⟨hleft, Or.inl (Or.inr rfl)⟩

/-! ### Moves of the tasks -/

section Follows

variable (hnodup : (s.tasks.map (·.1)).Nodup) (ht : (n, t) ∈ s.tasks)
  (hfollows : Follows s s' n t none)

include hnodup ht hfollows

theorem entries_of_follows : s.entries.Perm (t.delivery.raw :: s'.entries) := by
  have hperm := (perm_filter_number hnodup ht).map fun e => e.2.delivery.raw
  rw [Shift.entries, Shift.entries, hfollows.tasks]
  rwa [List.map_cons] at hperm

theorem entries_left (left : List String) :
    (s.entries ++ left).Perm (s'.entries ++ (left ++ [t.delivery.raw])) := by
  have hentries := entries_of_follows hnodup ht hfollows
  have hmoved : (t.delivery.raw :: (s'.entries ++ left)).Perm
      (s'.entries ++ (left ++ [t.delivery.raw])) := by
    rw [← List.append_assoc]
    exact (List.perm_append_singleton _ _).symm
  exact (hentries.append_right left).trans hmoved

end Follows

/-- A deed of a task changes neither the stage of the loop nor takes a notice back. -/
theorem Accounted.of_follows {inFlight inFlight' : List String} {next : Option Phase}
    (h : Accounted inFlight l s) (hfollows : Follows s s' n t next)
    (hflag : s.ledger.needsRecovery = true → s'.ledger.needsRecovery = true)
    (hheld : (s'.entries ++ l'.all).Subperm inFlight')
    (hperm : inFlight.Perm (s.entries ++ l.orphans) → inFlight'.Perm (s'.entries ++ l'.orphans)) :
    Accounted inFlight' l' s' := by
  refine ⟨hheld, ?_⟩
  rcases h.watch with hleft | halert | hexact
  · refine Or.inl ?_
    rw [Shift.HasLeft, hfollows.stage]
    exact hleft
  · refine Or.inr (Or.inl ?_)
    rw [Shift.IsAlert, hfollows.stage]
    exact halert.imp_left hflag
  · exact Or.inr (Or.inr (hperm hexact))

theorem Accounted.of_orphan {inFlight : List String} (h : Accounted inFlight l s)
    (hnodup : (s.tasks.map (·.1)).Nodup) (ht : (n, t) ∈ s.tasks)
    (hfollows : Follows s s' n t none)
    (hflag : s'.ledger.needsRecovery = s.ledger.needsRecovery) :
    Accounted inFlight (l.orphan t) s' := by
  refine h.of_follows hfollows (fun hnotice => hflag.trans hnotice) ?_ fun hexact => ?_
  · have hmoved : (s.entries ++ l.all).Perm (s'.entries ++ (l.orphan t).all) :=
      (entries_left hnodup ht hfollows l.all).trans ((l.all_orphan t).symm.append_left _)
    exact hmoved.symm.subperm.trans h.held
  · exact hexact.trans (entries_left hnodup ht hfollows l.orphans)

theorem Accounted.of_settled {now : Instant} {settlement : Queue.Broker.Settlement}
    (h : Accounted b.broker.inFlight l s) (hnodup : (s.tasks.map (·.1)).Nodup)
    (ht : (n, t) ∈ s.tasks) (hdelivery : t.delivery = .ofRaw raw)
    (hfollows : Follows s s' n t none)
    (hflag : s'.ledger.needsRecovery = s.ledger.needsRecovery) :
    Accounted (b.broker.settle t.delivery now settlement).inFlight l s' := by
  -- one copy of the entry goes, and so does the task that held it
  have hentries := entries_of_follows hnodup ht hfollows
  rw [hdelivery, Queue.ofRaw_raw] at hentries
  have herased := b.broker.inFlight_settle raw now settlement
  rw [hdelivery]
  refine h.of_follows hfollows (fun hnotice => hflag.trans hnotice) ?_ fun hexact => ?_
  · have hcons : (raw :: (s'.entries ++ l.all)).Subperm b.broker.inFlight :=
      (hentries.append_right l.all).symm.subperm.trans h.held
    have herase := hcons.erase raw
    rw [List.erase_cons_head] at herase
    exact herase.trans herased.symm.subperm
  · have herase := (hexact.trans (hentries.append_right l.orphans)).erase raw
    rw [List.cons_append, List.erase_cons_head] at herase
    exact herased.trans herase

/-- **A task that gives up alerts the loop**, and what any other move of a task leaves held is
    accounted for. -/
theorem Accounted.of_upshot {now : Instant} {move : Shift.TaskMove}
    (h : Accounted b.broker.inFlight l s) (hnodup : (s.tasks.map (·.1)).Nodup)
    (ht : (n, t) ∈ s.tasks) (hdelivery : t.delivery = .ofRaw raw)
    (hupshot : Upshot b now s n t b' s' move) :
    Accounted b'.broker.inFlight (l.afterMove b.broker t move) s' := by
  cases hupshot with
  | kept hlists hfollows hflag hmove hgoes =>
    have hsame : l.afterMove b.broker t move = l := by
      cases move with
      | work => exact if_neg (by rw [hgoes rfl]; nofun)
      | hear answer => rfl
      | wake => rfl
      | die => exact absurd rfl hmove
    have hentries := (entries_advance hnodup ht hfollows).1
    rw [hsame, hlists.inFlight]
    refine h.of_follows hfollows (fun hnotice => hflag.trans hnotice) ?_ fun hexact => ?_
    · rw [hentries]
      exact h.held
    · rw [hentries]
      exact hexact
  | settled hphase hfaults hlists hfollows hflag =>
    have hsame : l.afterMove b.broker t .work = l := by
      refine if_neg ?_
      simp [givesUp, hphase, hfaults]
    rw [hsame, hlists]
    exact h.of_settled hnodup ht hdelivery hfollows hflag
  | gaveUp hlists hfollows hflag hgives =>
    have hleft : l.afterMove b.broker t .work = l.giveUp t := if_pos hgives
    rw [hleft, hlists.inFlight]
    refine ⟨?_, Or.inr (Or.inl (Or.inl hflag))⟩
    rw [Leftovers.all_giveUp]
    exact (entries_left hnodup ht hfollows l.all).symm.subperm.trans h.held
  | died hlists hfollows hflag =>
    rw [hlists.inFlight]
    exact h.of_orphan hnodup ht hfollows hflag

end Fleet

end DetectionJobs
