/-
  DetectionJobs/Proofs/Lobby/Waking.lean
  ======================================
  **Which entries are left to a call that is blocked.**

  With no more than one call at a time none are: the only call that could be blocked looks
  again after every ring.  With several calls there are no more than those on their way to the
  entries and the shortfall of the run.  The shortfall is not always zero: a recovery that puts
  back several entries rings once, and of two rings that nobody hears one is lost.
-/
import DetectionJobs.Proofs.Lobby.Rings

namespace DetectionJobs.Queue.Lobby

variable {l l' : Lobby} {a : Action} {missed n : Nat} {c : Receiver} {step : Broker × Receiver}

/-! ### One call at a time -/

/-- No more than one call has no answer yet, and if it waits or is about to, there is no entry or
    a ring that tells of it. -/
structure Single (l : Lobby) : Prop where
  placed : l.Placed
  alone : ∀ {i j : Nat} {c d : Receiver}, l.calls[i]? = some c → l.calls[j]? = some d →
    ¬ c.HasEnded → ¬ d.HasEnded → i = j
  listening : ∀ {n : Nat}, l.calls[n]? = some .listening →
    l.broker.ready = [] ∨ l.broker.bell.kept = true
  blocked : ∀ {n : Nat}, l.Blocked n → l.broker.ready = []

theorem single_opening {b : Broker} (h : b.bell = .silent) : (opening b).Single where
  placed := placed_opening h
  alone := nofun
  listening := nofun
  blocked := fun hblocked => nomatch hblocked.1

/-- The only call without an answer takes a step. -/
theorem Single.put (h : l.Single) (hcall : l.calls[n]? = some c) (hc : ¬ c.HasEnded)
    (hplaced : (l.put n step).Placed)
    (hlistening : step.2 = .listening → step.1.ready = [])
    (hblocked : step.2 = .waiting → step.1.ready = []) : (l.put n step).Single := by
  have hothers {m : Nat} {d : Receiver} (hd : (l.put n step).calls[m]? = some d)
      (hends : ¬ d.HasEnded) : m = n ∧ step.2 = d := by
    rw [call_put hcall] at hd
    split at hd
    · next hm => exact ⟨hm, Option.some_inj.mp hd⟩
    · exact ⟨h.alone hd hcall hends hc, absurd (h.alone hd hcall hends hc) ‹_›⟩
  refine ⟨hplaced, fun hi hj hci hcj => ?_, fun hm => ?_, fun hm => ?_⟩
  · exact (hothers hi hci).1.trans (hothers hj hcj).1.symm
  · exact Or.inl (hlistening (hothers hm id).2)
  · exact hblocked (hothers hm.1 id).2

/-- After a ring the only call is woken, or the ring is kept. -/
theorem Single.rang (h : l.Single) (hbell : l'.broker.bell = l.broker.bell.ring)
    (hcalls : l'.calls = l.calls) (hplaced : l'.Placed) : l'.Single := by
  have hfirst {m : Nat} (hm : m ∈ l.broker.bell.waiting) : l.calls[m]? = some .waiting :=
    (h.placed.mem_iff m).mp (List.mem_append_left _ hm)
  refine ⟨hplaced, ?_, fun {m} hm => Or.inr ?_, fun {m} hm => ?_⟩
  · rw [hcalls]
    exact h.alone
  · rw [hcalls] at hm
    cases hwaiting : l.broker.bell.waiting with
    | nil => rw [hbell, Bell.ring_of_nil hwaiting]
    | cons r rest =>
      have hr := hfirst (hwaiting ▸ List.mem_cons_self)
      obtain rfl := h.alone hm hr id id
      cases hm.symm.trans hr
  · have hwaits := hplaced.waiting_of_blocked hm
    have hnodup := hplaced.nodup
    rw [hbell] at hwaits hnodup
    cases hwaiting : l.broker.bell.waiting with
    | nil =>
      rw [Bell.ring_of_nil hwaiting] at hwaits
      rw [hwaiting] at hwaits
      cases hwaits
    | cons r rest =>
      have hr := hfirst (hwaiting ▸ List.mem_cons_self)
      rw [Bell.ring_of_cons hwaiting] at hwaits hnodup
      obtain rfl := h.alone (hfirst (hwaiting ▸ List.mem_cons_of_mem r hwaits)) hr id id
      have hwoken : m ∈ l.broker.bell.woken ++ [m] :=
        List.mem_append_right _ List.mem_cons_self
      exact absurd rfl ((List.nodup_append.mp hnodup).2.2 m hwaits m hwoken)

theorem Single.of_change (h : l.Single) (hone : l.OneAtATime a)
    (hchange : Change l a l') : l'.Single := by
  have hplaced := h.placed.of_change hchange
  cases hchange with
  | still hready hbell hcalls =>
    refine ⟨hplaced, ?_, ?_, ?_⟩
    · rw [hcalls]
      exact h.alone
    · rw [hcalls, hready, hbell]
      exact h.listening
    · unfold Blocked
      rw [hcalls, hready, hbell]
      exact h.blocked
  | rang _ _ hbell hcalls => exact h.rang hbell hcalls hplaced
  | arrived =>
    have hnew {m : Nat} {d : Receiver} (hd : (l.calls ++ [.looking])[m]? = some d)
        (hends : ¬ d.HasEnded) : m = l.calls.length ∧ d = .looking := by
      rcases Nat.lt_trichotomy m l.calls.length with hlt | rfl | hgt
      · rw [List.getElem?_append_left hlt] at hd
        exact absurd (hone rfl d (List.mem_of_getElem? hd)) hends
      · rw [List.getElem?_concat_length] at hd
        exact ⟨rfl, (Option.some_inj.mp hd).symm⟩
      · rw [List.getElem?_append_right (Nat.le_of_lt hgt),
          List.getElem?_eq_none (Nat.sub_pos_of_lt hgt)] at hd
        cases hd
    refine ⟨hplaced, fun hi hj hci hcj => ?_, fun hm => ?_, fun hm => ?_⟩
    · exact (hnew hi hci).1.trans (hnew hj hcj).1.symm
    · cases (hnew hm id).2
    · cases (hnew hm.1 id).2
  | took hcall => exact h.put hcall id hplaced nofun nofun
  | foundNothing hcall hready => exact h.put hcall id hplaced (fun _ => hready) nofun
  | heard hcall => exact h.put hcall id hplaced nofun nofun
  | waits hcall hkept =>
    refine h.put hcall id hplaced nofun fun _ => ?_
    rcases h.listening hcall with hready | hrung
    · exact hready
    · rw [hkept] at hrung
      cases hrung
  | resumed hcall => exact h.put hcall id hplaced nofun nofun
  | left hcall => exact h.put hcall id hplaced nofun nofun
  | passedOn hcall => exact h.put hcall id hplaced nofun nofun

theorem single_of_run {b : Broker} (hbell : b.bell = .silent)
    (h : Run OneAtATime (opening b) missed l) : l.Single :=
  h.invariant (P := fun _ l => l.Single) (single_opening hbell)
    fun _ _ _ _ _ _ hsingle hone hstep =>
      hsingle.of_change hone (change_of_step (counting_eq_some.mp hstep).1)

/-! ### What is left to a blocked call -/

/-- The time of a call can run out exactly if it is blocked. -/
theorem expires_iff : (l.step? (.expire n)).isSome = true ↔ l.Blocked n := by
  rw [step?, Blocked, ← isWoken_iff]
  split <;> simp_all

/-- **A call is blocked despite entries only if others are on their way to them, or the rings
    fell short of the entries.**  With one call at a time it never is. -/
theorem blocked_calls_told {b : Broker} (hbell : b.bell = .silent) (hblocked : l.Blocked n) :
    (Run Anything (opening b) missed l → l.broker.ready.length ≤ l.onTheWay + missed) ∧
    (Run OneAtATime (opening b) missed l → l.broker.ready = []) := by
  refine ⟨fun h => ?_, fun h => (single_of_run hbell h).blocked hblocked⟩
  obtain ⟨hplaced, hquiet, hcovered⟩ := covered_of_run hbell h
  have hwaiting := List.ne_nil_of_mem (hplaced.waiting_of_blocked hblocked)
  have hle := hcovered (Or.inl hwaiting)
  rwa [rings, hquiet hwaiting, Bool.toNat_false, Nat.add_zero] at hle

/-- Two calls take an entry each, two others wait, and the entries are put back. -/
def recovery : List Action :=
  [.push "a", .push "b", .arrive, .look 0, .arrive, .look 1, .arrive, .arrive,
    .look 2, .listen 2, .look 2, .listen 2, .look 3, .listen 3, .recover, .resume 2, .look 2]

/-- Only one of the two that waited was woken. -/
def recovered : Lobby where
  broker := { Broker.empty with
    ready := ["a"], inFlight := ["b"], bell := { Bell.silent with waiting := [3] } }
  calls := [.received "a", .received "b", .received "b", .waiting]

theorem run_of_recovery : Run Anything (opening .empty) 1 recovered :=
  Machine.run_of_replay (show (opening .empty).replay? Anything recovery = _ from rfl)

theorem blocked_calls_told_after_recovery :
    recovered.Blocked 3 ∧ recovered.broker.ready.length ≤ recovered.onTheWay + 1 :=
  ⟨by decide, (blocked_calls_told (b := .empty) (n := 3) rfl (by decide)).1
    run_of_recovery⟩

/-- Two calls find nothing, two entries are added before they wait, and one call takes the
    ring that was kept and an entry. -/
def collision : List Action :=
  [.arrive, .arrive, .look 0, .look 1, .push "a", .push "b", .listen 0, .listen 1, .look 0]

/-- The other call waits for a ring that was lost. -/
def collided : Lobby where
  broker := { Broker.empty with
    ready := ["b"], inFlight := ["a"], bell := { Bell.silent with waiting := [1] } }
  calls := [.received "a", .waiting]

theorem run_of_collision : Run (fun _ a => a ≠ .recover) (opening .empty) 1 collided :=
  Machine.run_of_replay
    (show (opening .empty).replay? (fun _ a => a ≠ .recover) collision = _ from rfl)

/-- **An entry may be left to a blocked call, whose time then runs out, although nobody is on
    the way to the entry:** after a recovery, and also without one. -/
theorem entries_left_to_blocked :
    (∃ missed l, Run Anything (opening .empty) missed l ∧ l.onTheWay = 0 ∧
      .listening ∉ l.calls ∧ l.broker.ready ≠ [] ∧ (l.step? (.expire 3)).isSome = true) ∧
    (∃ missed l, Run (fun _ a => a ≠ .recover) (opening .empty) missed l ∧ l.onTheWay = 0 ∧
      .listening ∉ l.calls ∧ l.broker.ready ≠ [] ∧ (l.step? (.expire 1)).isSome = true) := by
  refine ⟨⟨1, recovered, run_of_recovery, ?_⟩,
    ⟨1, collided, run_of_collision, ?_⟩⟩
  · rw [expires_iff]
    decide
  · rw [expires_iff]
    decide

end DetectionJobs.Queue.Lobby
