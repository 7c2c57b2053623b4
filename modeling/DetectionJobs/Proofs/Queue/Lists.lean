/-
  DetectionJobs/Proofs/Queue/Lists.lean
  =====================================
  **What each call does to the lists of the queue.**

  Releasing an entry takes one copy of its text out of those that are held, if there is
  one, and may change the order of the others.  So the held entries after a settlement are
  a permutation of those before it with one copy erased, and the settlement says nothing
  else about them.
-/
import DetectionJobs.Proofs.Queue.Carriage
import DetectionJobs.Queue.Receiver

namespace DetectionJobs.Queue.Broker

/-! ### Calls that leave the lists alone -/

/-- The lists of two brokers agree. -/
structure Same (b b' : Broker) : Prop where
  ready : b'.ready = b.ready
  inFlight : b'.inFlight = b.inFlight
  dead : b'.dead = b.dead
  acked : b'.acked = b.acked

theorem Same.refl (b : Broker) : b.Same b := ⟨rfl, rfl, rfl, rfl⟩

theorem Same.bell (b : Broker) (bell : Bell) : b.Same { b with bell := bell } :=
  ⟨rfl, rfl, rfl, rfl⟩

theorem Same.trans {b b' b'' : Broker} (h : b.Same b') (h' : b'.Same b'') : b.Same b'' :=
  ⟨h'.ready.trans h.ready, h'.inFlight.trans h.inFlight, h'.dead.trans h.dead,
    h'.acked.trans h.acked⟩

theorem Same.push {b b' : Broker} (h : b.Same b') (raw : String) :
    (b.push raw).Same (b'.push raw) :=
  ⟨congrArg (· ++ [raw]) h.ready, h.inFlight, h.dead, h.acked⟩

/-! ### Calls that change the lists -/

theorem same_recover (b : Broker) :
    Same { b with ready := b.inFlight.reverse ++ b.ready, inFlight := [] } b.recover.2 := by
  unfold recover
  split
  · exact ⟨rfl, rfl, rfl, rfl⟩
  · exact ⟨rfl, rfl, rfl, rfl⟩

theorem swapRemove_eq_none {raw : String} {entries : List String}
    (h : swapRemove raw entries = none) : raw ∉ entries := by
  induction entries with
  | nil => exact List.not_mem_nil
  | cons entry rest ih =>
    rw [swapRemove] at h
    split at h
    · split at h <;> cases h
    · next hne =>
      rw [List.mem_cons, not_or]
      exact ⟨fun heq => hne heq.symm, ih (Option.map_eq_none_iff.mp h)⟩

theorem swapRemove_perm {raw : String} {entries held : List String}
    (h : swapRemove raw entries = some held) :
    raw ∈ entries ∧ held.Perm (entries.erase raw) := by
  induction entries generalizing held with
  | nil => cases h
  | cons entry rest ih =>
    rw [swapRemove] at h
    split at h
    · next heq =>
      subst heq
      refine ⟨List.mem_cons_self, ?_⟩
      rw [List.erase_cons_head]
      split at h
      · next hnone =>
        cases h
        rw [List.getLast?_eq_none_iff.mp hnone]
      · next last hlast =>
        cases h
        -- the last entry takes the place of the one that was removed
        obtain ⟨front, rfl⟩ := List.getLast?_eq_some_iff.mp hlast
        rw [List.dropLast_concat]
        exact (List.perm_append_singleton last front).symm
    · next hne =>
      obtain ⟨held', hheld, rfl⟩ := Option.map_eq_some_iff.mp h
      obtain ⟨hmem, hperm⟩ := ih hheld
      refine ⟨List.mem_cons_of_mem entry hmem, ?_⟩
      rw [List.erase_cons_tail (by simpa using hne)]
      exact hperm.cons entry

/-- Releasing an entry erases one copy of it from those that are held. -/
theorem release_eq (b : Broker) (raw : String) :
    ∃ held, held.Perm (b.inFlight.erase raw) ∧ b.release raw = { b with inFlight := held } := by
  unfold release
  cases h : swapRemove raw b.inFlight with
  | none =>
    refine ⟨b.inFlight, ?_, rfl⟩
    rw [List.erase_of_not_mem (swapRemove_eq_none h)]
  | some held => exact ⟨held, (swapRemove_perm h).2, rfl⟩

/-- An acknowledgement counts only if the entry was held. -/
theorem settle_ack (b : Broker) (raw : String) (now : Instant) :
    ∃ held, held.Perm (b.inFlight.erase raw) ∧
      b.settle (.ofRaw raw) now .ack =
        { b with inFlight := held, acked := b.acked + if raw ∈ b.inFlight then 1 else 0 } := by
  unfold settle
  rw [ofRaw_raw]
  cases h : swapRemove raw b.inFlight with
  | none =>
    have hnot := swapRemove_eq_none h
    refine ⟨b.inFlight, ?_, ?_⟩
    · rw [List.erase_of_not_mem hnot]
    · simp [hnot]
  | some held =>
    obtain ⟨hmem, hperm⟩ := swapRemove_perm h
    refine ⟨held, hperm, ?_⟩
    simp [hmem]

/-- A requeued entry is written again, held or not. -/
theorem settle_requeue (b : Broker) (raw reason : String) (now : Instant) :
    ∃ held, held.Perm (b.inFlight.erase raw) ∧
      b.settle (.ofRaw raw) now (.requeue reason) =
        ({ b with inFlight := held }).push (retriedRaw raw reason now) := by
  obtain ⟨held, hperm, heq⟩ := b.release_eq raw
  refine ⟨held, hperm, ?_⟩
  rw [settle, ofRaw_raw, heq, retriedRaw]

theorem settle_deadLetter (b : Broker) (raw reason : String) (now : Instant) :
    ∃ held, held.Perm (b.inFlight.erase raw) ∧
      b.settle (.ofRaw raw) now (.deadLetter reason) =
        { b with inFlight := held, dead := b.dead ++ [retriedRaw raw reason now] } := by
  obtain ⟨held, hperm, heq⟩ := b.release_eq raw
  refine ⟨held, hperm, ?_⟩
  rw [settle, ofRaw_raw, heq, retriedRaw]

theorem mem_ready_settle {b : Broker} {raw : String} {now : Instant} {s : Settlement}
    {entry : String} (h : entry ∈ (b.settle (.ofRaw raw) now s).ready) :
    entry ∈ b.ready ∨ ∃ reason, s = .requeue reason ∧ entry = retriedRaw raw reason now := by
  cases s with
  | ack =>
    obtain ⟨held, _, heq⟩ := b.settle_ack raw now
    rw [heq] at h
    exact Or.inl h
  | requeue reason =>
    obtain ⟨held, _, heq⟩ := b.settle_requeue raw reason now
    rw [heq] at h
    rcases List.mem_append.mp h with hold | hnew
    · exact Or.inl hold
    · exact Or.inr ⟨reason, rfl, List.mem_singleton.mp hnew⟩
  | deadLetter reason =>
    obtain ⟨held, _, heq⟩ := b.settle_deadLetter raw reason now
    rw [heq] at h
    exact Or.inl h

theorem inFlight_settle (b : Broker) (raw : String) (now : Instant) (s : Settlement) :
    (b.settle (.ofRaw raw) now s).inFlight.Perm (b.inFlight.erase raw) := by
  cases s with
  | ack =>
    obtain ⟨held, hperm, heq⟩ := b.settle_ack raw now
    rw [heq]
    exact hperm
  | requeue reason =>
    obtain ⟨held, hperm, heq⟩ := b.settle_requeue raw reason now
    rw [heq]
    exact hperm
  | deadLetter reason =>
    obtain ⟨held, hperm, heq⟩ := b.settle_deadLetter raw reason now
    rw [heq]
    exact hperm

/-- The entry that a settlement puts back to those that wait, if it does. -/
def Settlement.back (raw : String) (now : Instant) : Settlement → List String
  | .requeue reason => [retriedRaw raw reason now]
  | _ => []

/-- The entry that a settlement adds to the dead ones, if it does. -/
def Settlement.buried (raw : String) (now : Instant) : Settlement → List String
  | .deadLetter reason => [retriedRaw raw reason now]
  | _ => []

theorem lists_settle (b : Broker) (raw : String) (now : Instant) (s : Settlement) :
    (b.settle (.ofRaw raw) now s).ready = b.ready ++ s.back raw now ∧
      (b.settle (.ofRaw raw) now s).dead = b.dead ++ s.buried raw now := by
  cases s with
  | ack =>
    obtain ⟨held, _, heq⟩ := b.settle_ack raw now
    rw [heq]
    exact ⟨(List.append_nil _).symm, (List.append_nil _).symm⟩
  | requeue reason =>
    obtain ⟨held, _, heq⟩ := b.settle_requeue raw reason now
    rw [heq]
    exact ⟨rfl, (List.append_nil _).symm⟩
  | deadLetter reason =>
    obtain ⟨held, _, heq⟩ := b.settle_deadLetter raw reason now
    rw [heq]
    exact ⟨(List.append_nil _).symm, rfl⟩

/-- An acknowledgement of a held entry counts, and no other settlement does. -/
theorem acked_settle (b : Broker) {raw : String} (hheld : raw ∈ b.inFlight) (now : Instant)
    (s : Settlement) :
    (b.settle (.ofRaw raw) now s).acked = b.acked + if s = .ack then 1 else 0 := by
  cases s with
  | ack =>
    obtain ⟨held, _, heq⟩ := b.settle_ack raw now
    rw [heq, if_pos hheld, if_pos rfl]
  | requeue reason =>
    obtain ⟨held, _, heq⟩ := b.settle_requeue raw reason now
    rw [heq]
    rfl
  | deadLetter reason =>
    obtain ⟨held, _, heq⟩ := b.settle_deadLetter raw reason now
    rw [heq]
    rfl

/-- A settlement sets up no faults. -/
theorem faults_settle (b : Broker) (raw : String) (now : Instant) (s : Settlement) :
    (b.settle (.ofRaw raw) now s).isDown = b.isDown ∧
      (b.settle (.ofRaw raw) now s).settleFaults = b.settleFaults := by
  cases s with
  | ack =>
    obtain ⟨held, _, heq⟩ := b.settle_ack raw now
    rw [heq]
    exact ⟨rfl, rfl⟩
  | requeue reason =>
    obtain ⟨held, _, heq⟩ := b.settle_requeue raw reason now
    rw [heq]
    exact ⟨rfl, rfl⟩
  | deadLetter reason =>
    obtain ⟨held, _, heq⟩ := b.settle_deadLetter raw reason now
    rw [heq]
    exact ⟨rfl, rfl⟩

/-- A settlement either fails without effect or takes place. -/
theorem trySettle_cases (b : Broker) (d : Delivery) (now : Instant) (s : Settlement) :
    (∃ n, b.trySettle d now s = ({ b with settleFaults := n }, .error .closed)) ∨
      b.trySettle d now s = (b.settle d now s, .ok ()) := by
  unfold trySettle
  split
  · exact Or.inl ⟨_, rfl⟩
  · exact Or.inr rfl

/-- A settlement without a fault takes place. -/
theorem trySettle_of_noFault {b : Broker} (h : b.settleFaults = 0) (d : Delivery)
    (now : Instant) (s : Settlement) : b.trySettle d now s = (b.settle d now s, .ok ()) := by
  rw [trySettle, h]

theorem trySettle_of_fault {b : Broker} {n : Nat} (h : b.settleFaults = n + 1) (d : Delivery)
    (now : Instant) (s : Settlement) :
    b.trySettle d now s = ({ b with settleFaults := n }, .error .closed) := by
  rw [trySettle, h]

/-- A message is published as the entry of its envelope, or nothing changes. -/
theorem publish_ok {b b' : Broker} {jobId imageUrl : String} {now : Instant}
    (h : b.publish jobId imageUrl now = .ok b') :
    (⟨jobId, imageUrl⟩ : Message).check = .ok ⟨jobId, imageUrl⟩ ∧
      b' = b.push (Envelope.wrap ⟨jobId, imageUrl⟩ now).raw := by
  unfold publish check at h
  split at h
  · cases h
  · cases hmake : Message.make jobId imageUrl with
    | error f => rw [hmake] at h; cases h
    | ok m =>
      rw [hmake] at h
      obtain ⟨rfl, hcheck⟩ := Message.eq_of_make hmake
      exact ⟨hcheck, (Except.ok.inj h).symm⟩

end DetectionJobs.Queue.Broker
