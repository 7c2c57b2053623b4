/-
  DetectionJobs/Proofs/Queue/Stores.lean
  ======================================
  **What each request does to the lists of a store.**

  The store is looked at through the lists that its keys name.  A request of the queue
  changes one or two of them and leaves every other list alone.  The lists of a queue never
  coincide: whatever the names are, those that wait, those that are dead and those that one
  consumer holds have keys of their own, and two consumers share no list but by having the
  same name.
-/
import DetectionJobs.Queue.Remote
import Mathlib.Data.List.Induction
import Mathlib.Logic.Function.Basic

namespace DetectionJobs.Queue

/-! ### Keys -/

namespace Keys

variable (queue consumer other : String)

theorem processing_ne_ready :
    (ofNames queue consumer).processing ≠ (ofNames queue consumer).ready := by
  intro h
  have hlength := congrArg (fun s : String => s.toList.length) h
  simp [ofNames] at hlength

theorem dead_ne_ready : (ofNames queue consumer).dead ≠ (ofNames queue consumer).ready := by
  intro h
  have hlength := congrArg (fun s : String => s.toList.length) h
  simp [ofNames] at hlength

/-- The keys part in the second letter after the name of the queue. -/
theorem processing_ne_dead :
    (ofNames queue consumer).processing ≠ (ofNames queue consumer).dead := by
  intro h
  have hchars := congrArg String.toList h
  simp [ofNames, String.toList_append] at hchars

variable {queue consumer other}

theorem processing_inj
    (h : (ofNames queue consumer).processing = (ofNames queue other).processing) :
    consumer = other := by
  have hchars := congrArg String.toList h
  simp only [ofNames, String.toList_append, List.append_cancel_left_eq] at hchars
  exact String.toList_injective hchars

end Keys

/-! ### Lists of a store -/

namespace ListStore

theorem lookup_filter_ne (lists : List (String × List String)) {key other : String}
    (h : other ≠ key) : (lists.filter (·.1 ≠ key)).lookup other = lists.lookup other := by
  induction lists with
  | nil => rfl
  | cons e lists ih =>
    obtain ⟨name, items⟩ := e
    by_cases hname : name = key
    · have hne : (other == name) = false := by simpa [hname] using h
      rw [List.filter_cons_of_neg (by simpa using hname), List.lookup_cons, hne, ih]
    · rw [List.filter_cons_of_pos (by simpa using hname), List.lookup_cons, List.lookup_cons, ih]

theorem lookup_filter_self (lists : List (String × List String)) (key : String) :
    (lists.filter (·.1 ≠ key)).lookup key = none := by
  rw [List.lookup_eq_none_iff]
  intro e he
  have hne : e.1 ≠ key := by simpa using (List.mem_filter.mp he).2
  simpa using fun h : key = e.1 => hne h.symm

/-- Putting a list changes what its key names and nothing else. -/
theorem get_put (s : ListStore) (key other : String) (items : List String) :
    (s.put key items).get other = if other = key then items else s.get other := by
  cases items with
  | nil =>
    show ((s.lists.filter (·.1 ≠ key)).lookup other).getD [] = _
    by_cases h : other = key
    · rw [if_pos h, h, lookup_filter_self, Option.getD_none]
    · rw [if_neg h, lookup_filter_ne _ h, get]
  | cons v rest =>
    show (((key, v :: rest) :: s.lists.filter (·.1 ≠ key)).lookup other).getD [] = _
    by_cases h : other = key
    · rw [if_pos h, h, List.lookup_cons_self, Option.getD_some]
    · have hne : (other == key) = false := by simpa using h
      rw [if_neg h, List.lookup_cons, hne, lookup_filter_ne _ h, get]

@[simp] theorem get_put_self (s : ListStore) (key : String) (items : List String) :
    (s.put key items).get key = items := by rw [get_put, if_pos rfl]

theorem get_put_of_ne (s : ListStore) {key other : String} (h : other ≠ key)
    (items : List String) : (s.put key items).get other = s.get other := by
  rw [get_put, if_neg h]

theorem moveItem_empty {s : ListStore} {source : String} (h : s.get source = [])
    (target : String) (toEnd : End) :
    s.moveItem source target .tail toEnd = (s, .item none) := by
  rw [moveItem, h]
  rfl

/-- The last item of a list is moved to another list. -/
theorem moveItem_concat {s : ListStore} {source target v : String} {items : List String}
    (h : s.get source = items ++ [v]) (hne : target ≠ source) (toEnd : End) :
    s.moveItem source target .tail toEnd =
      ((s.put source items).put target (add v (s.get target) toEnd), .item (some v)) := by
  have htake : take? (items ++ [v]) .tail = some (v, items) := by simp [take?]
  rw [moveItem, h, htake]
  simp only [get_put_of_ne s hne]

end ListStore

/-! ### The lists of a queue -/

/-- What a store holds of one queue.  Items are given from the head on, so that the next
    entry to be delivered is the last one. -/
@[ext]
structure Shelves where
  ready : List String
  dead : List String
  /-- The entries that each consumer holds, the one received last first. -/
  held : String → List String

namespace ListStore

variable (s : ListStore) (queue name : String)

def shelves : Shelves :=
  ⟨s.get (Keys.ofNames queue "").ready, s.get (Keys.ofNames queue "").dead,
    fun name => s.get (Keys.ofNames queue name).processing⟩

theorem shelves_put_ready (items : List String) :
    (s.put (Keys.ofNames queue name).ready items).shelves queue =
      { s.shelves queue with ready := items } := by
  have hdead := s.get_put_of_ne (Keys.dead_ne_ready queue name) items
  have hheld : ∀ other, _ := fun other =>
    s.get_put_of_ne (Keys.processing_ne_ready queue other) items
  exact Shelves.ext (s.get_put_self queue items) hdead (funext hheld)

theorem shelves_put_dead (items : List String) :
    (s.put (Keys.ofNames queue name).dead items).shelves queue =
      { s.shelves queue with dead := items } := by
  have hready := s.get_put_of_ne (Keys.dead_ne_ready queue name).symm items
  have hheld : ∀ other, _ := fun other =>
    s.get_put_of_ne (Keys.processing_ne_dead queue other) items
  exact Shelves.ext hready (s.get_put_self _ items) (funext hheld)

theorem shelves_put_processing (items : List String) :
    (s.put (Keys.ofNames queue name).processing items).shelves queue =
      { s.shelves queue with held := Function.update (s.shelves queue).held name items } := by
  have hready := s.get_put_of_ne (Keys.processing_ne_ready queue name).symm items
  have hdead := s.get_put_of_ne (Keys.processing_ne_dead queue name).symm items
  refine Shelves.ext hready hdead (funext fun other => ?_)
  by_cases h : other = name
  · subst h
    simp only [shelves, get_put_self, Function.update_self]
  · have hkey : (Keys.ofNames queue other).processing ≠ (Keys.ofNames queue name).processing :=
      fun heq => h (Keys.processing_inj heq)
    simp only [shelves, s.get_put_of_ne hkey, Function.update_of_ne h]

/-! ### The requests of the queue -/

theorem shelves_publish (raw : String) :
    (s.serve ((Remote.publish raw).request (.ofNames queue name))).1.shelves queue =
      { s.shelves queue with ready := raw :: (s.shelves queue).ready } :=
  s.shelves_put_ready queue name _

theorem serve_receive_nil (seconds : String) (h : (s.shelves queue).ready = []) :
    s.serve ((Remote.receive seconds).request (.ofNames queue name)) = (s, .item none) :=
  moveItem_empty h _ _

/-- The entry that has waited longest is received. -/
theorem serve_receive_concat (seconds : String) {raw : String} {items : List String}
    (h : (s.shelves queue).ready = items ++ [raw]) :
    ∃ s', s.serve ((Remote.receive seconds).request (.ofNames queue name)) =
        (s', .item (some raw)) ∧
      s'.shelves queue = ⟨items, (s.shelves queue).dead,
        Function.update (s.shelves queue).held name (raw :: (s.shelves queue).held name)⟩ := by
  refine ⟨_, moveItem_concat h (Keys.processing_ne_ready queue name) .head, ?_⟩
  rw [shelves_put_processing, shelves_put_ready]
  rfl

/-- An acknowledgement takes one copy of the entry out of the list of its consumer. -/
theorem serve_acknowledge (raw : String) :
    ∃ s', s.serve ((Remote.acknowledge raw).request (.ofNames queue name)) =
        (s', .count (if raw ∈ (s.shelves queue).held name then 1 else 0)) ∧
      s'.shelves queue = { s.shelves queue with
        held := Function.update (s.shelves queue).held name
          (((s.shelves queue).held name).erase raw) } := by
  refine ⟨_, ?_, s.shelves_put_processing queue name _⟩
  show (_, Reply.count (if (s.get _).contains raw = true then 1 else 0)) = _
  simp only [List.contains_iff_mem]
  rfl

/-- An entry is replaced by another one, which goes to the head of its list. -/
theorem shelves_replace (raw next : String) (isDead : Bool) :
    (s.serve ((Remote.replace raw next isDead).request (.ofNames queue name))).1.shelves queue =
      ⟨if isDead then (s.shelves queue).ready else next :: (s.shelves queue).ready,
        if isDead then next :: (s.shelves queue).dead else (s.shelves queue).dead,
        Function.update (s.shelves queue).held name (((s.shelves queue).held name).erase raw)⟩ := by
  -- the first command of the transaction
  let released := s.put (Keys.ofNames queue name).processing
    ((s.get (Keys.ofNames queue name).processing).erase raw)
  have hreleased : released.shelves queue = _ := s.shelves_put_processing queue name _
  cases isDead with
  | false =>
    show (released.put (Keys.ofNames queue name).ready
      (next :: (released.shelves queue).ready)).shelves queue = _
    rw [shelves_put_ready, hreleased]
    rfl
  | true =>
    show (released.put (Keys.ofNames queue name).dead
      (next :: (released.shelves queue).dead)).shelves queue = _
    rw [shelves_put_dead, hreleased]
    rfl

/-- A recovery ends when its consumer holds nothing. -/
theorem serve_recover_nil (count : Nat) (h : (s.shelves queue).held name = []) :
    s.serve ((Remote.recover count).request (.ofNames queue name)) = (s, .item none) :=
  moveItem_empty h _ _

/-- A recovery puts the entry that was received first back, to be delivered next. -/
theorem serve_recover_concat (count : Nat) {raw : String} {items : List String}
    (h : (s.shelves queue).held name = items ++ [raw]) :
    ∃ s', s.serve ((Remote.recover count).request (.ofNames queue name)) = (s', .item (some raw)) ∧
      s'.shelves queue = ⟨(s.shelves queue).ready ++ [raw], (s.shelves queue).dead,
        Function.update (s.shelves queue).held name items⟩ := by
  refine ⟨_, moveItem_concat h (Keys.processing_ne_ready queue name).symm .tail, ?_⟩
  rw [shelves_put_ready, shelves_put_processing]
  rfl

/-- **A recovery puts back everything its consumer holds.**  With nobody else at work it ends,
    with the number of the entries; the one that was received last is delivered next. -/
theorem run_recover (count fuel : Nat)
    (hfuel : ((s.shelves queue).held name).length < fuel) :
    ∃ s', (Remote.recover count).run (.ofNames queue name) fuel s =
        (s', some (.count (count + ((s.shelves queue).held name).length))) ∧
      s'.shelves queue = ⟨(s.shelves queue).ready ++ ((s.shelves queue).held name).reverse,
        (s.shelves queue).dead, Function.update (s.shelves queue).held name []⟩ := by
  generalize hitems : (s.shelves queue).held name = items at hfuel ⊢
  induction items using List.reverseRecOn generalizing s count fuel with
  | nil =>
    obtain ⟨fuel, rfl⟩ := Nat.exists_eq_add_of_lt hfuel
    refine ⟨s, ?_, ?_⟩
    · rw [Remote.run, s.serve_recover_nil queue name count hitems]
      rfl
    · rw [← hitems, Function.update_eq_self, hitems, List.reverse_nil, List.append_nil]
  | append_singleton items raw ih =>
    obtain ⟨fuel, rfl⟩ := Nat.exists_eq_add_of_lt (Nat.zero_lt_of_lt hfuel)
    obtain ⟨next, hserve, hnext⟩ := s.serve_recover_concat queue name count hitems
    have hheld : (next.shelves queue).held name = items := by
      simp only [hnext, Function.update_self]
    have hless : items.length < 0 + fuel := by
      rw [List.length_append, List.length_singleton] at hfuel
      omega
    obtain ⟨s', hrun, hshelves⟩ := ih next (count + 1) (0 + fuel) hheld hless
    refine ⟨s', ?_, ?_⟩
    · rw [Remote.run, hserve]
      show (Remote.recover (count + 1)).run _ _ next = _
      rw [hrun, List.length_append, List.length_singleton, Nat.add_right_comm, Nat.add_assoc]
    · rw [hshelves, hnext, List.reverse_append, List.reverse_singleton, List.singleton_append,
        List.append_assoc, List.singleton_append, Function.update_idem]

theorem perform_recover :
    ∃ s', (Remote.recover 0).perform (.ofNames queue name) (.ok s) =
        .ok (s', .count ((s.shelves queue).held name).length) ∧
      s'.shelves queue = ⟨(s.shelves queue).ready ++ ((s.shelves queue).held name).reverse,
        (s.shelves queue).dead, Function.update (s.shelves queue).held name []⟩ := by
  obtain ⟨s', hrun, hshelves⟩ := s.run_recover queue name 0
    (Remote.requests (.ofNames queue name) s) (Nat.lt_succ_self _)
  rw [Nat.zero_add] at hrun
  refine ⟨s', ?_, hshelves⟩
  rw [Remote.perform, hrun]

end ListStore

end DetectionJobs.Queue
