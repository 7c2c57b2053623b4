/-
  DetectionJobs/Proofs/Lobby/Basic.lean
  =====================================
  **Calls that wait for an entry of the queue.**

  Any number of calls receive from one queue, while others publish, push, settle and put
  back what is held.  One step of a call is one look at the entries, or one dealing with the
  bell; between its look and its place at the bell anything may happen.

  A call blocks if it waits and no ring was meant for it.  What a ring is to do is to let
  somebody look at the entry that it tells of.  The shortfall of an action is how many of the
  entries that it adds no ring tells of, as long as somebody waits or is about to.
-/
import DetectionJobs.Proofs.Queue.Lists
import DetectionJobs.Proofs.Machine

namespace DetectionJobs.Queue

/-- The call has its answer. -/
def Receiver.HasEnded : Receiver → Prop
  | .received _ | .expired => True
  | _ => False

instance (r : Receiver) : Decidable r.HasEnded := by
  unfold Receiver.HasEnded
  split <;> infer_instance

/-- A queue and the calls that receive from it, which wait at its bell under their places in
    the list. -/
structure Lobby where
  broker : Broker
  calls : List Receiver
deriving DecidableEq

namespace Lobby

/-- A queue from which nobody has received yet. -/
def opening (b : Broker) : Lobby := ⟨b, []⟩

/-! ### Steps -/

/-- What may happen next. -/
inductive Action where
  /-- A call begins. -/
  | arrive
  | look (n : Nat)
  | listen (n : Nat)
  /-- A call that was woken goes on. -/
  | resume (n : Nat)
  /-- A call finds that its time is up, and that it was not woken.  It ends with nothing. -/
  | expire (n : Nat)
  /-- A call is given up while it waits, woken or not.  So ends also one that is woken after
      its time was up and before it has left. -/
  | drop (n : Nat)
  | publish (jobId imageUrl : String) (now : Instant)
  | push (raw : String)
  | settle (d : Delivery) (now : Instant) (s : Broker.Settlement)
  | recover
  /-- Faults are set up. -/
  | disturb (isDown : Bool) (settleFaults : Nat)
deriving DecidableEq

def withBroker (l : Lobby) (b : Broker) : Lobby := { l with broker := b }

/-- What a step of a call made of it and of the queue. -/
def put (l : Lobby) (n : Nat) (step : Broker × Receiver) : Lobby :=
  ⟨step.1, l.calls.set n step.2⟩

/-- Takes an action, if it is possible. -/
def step? (l : Lobby) : Action → Option Lobby
  | .arrive =>
    match Receiver.begin l.broker with
    | .ok r => some { l with calls := l.calls ++ [r] }
    | .error _ => some l
  | .look n =>
    if l.calls[n]? = some .looking then some (l.put n (Receiver.look l.broker)) else none
  | .listen n =>
    if l.calls[n]? = some .listening then some (l.put n (Receiver.listen n l.broker)) else none
  | .resume n =>
    if l.calls[n]? = some .waiting ∧ Receiver.isWoken n l.broker then
      some (l.put n (Receiver.resume n l.broker))
    else none
  | .expire n =>
    if l.calls[n]? = some .waiting ∧ ¬ Receiver.isWoken n l.broker then
      some (l.put n (Receiver.leave n l.broker, .expired))
    else none
  | .drop n =>
    if l.calls[n]? = some .waiting then some (l.put n (Receiver.leave n l.broker, .expired))
    else none
  | .publish jobId imageUrl now =>
    match l.broker.publish jobId imageUrl now with
    | .ok b => some (l.withBroker b)
    | .error _ => some l
  | .push raw => some (l.withBroker (l.broker.push raw))
  | .settle d now s => some (l.withBroker (l.broker.trySettle d now s).1)
  | .recover => some (l.withBroker l.broker.recover.2)
  | .disturb isDown settleFaults =>
    some (l.withBroker { l.broker with isDown := isDown, settleFaults := settleFaults })

/-! ### Who waits -/

/-- The call waits, and no ring was meant for it. -/
def Blocked (l : Lobby) (n : Nat) : Prop :=
  l.calls[n]? = some .waiting ∧ n ∉ l.broker.bell.woken

instance (l : Lobby) (n : Nat) : Decidable (l.Blocked n) := by unfold Blocked; infer_instance

/-- How many calls were woken, or look for an entry. -/
def onTheWay (l : Lobby) : Nat := l.broker.bell.woken.length + l.calls.count .looking

/-- Somebody waits unwoken, or is about to wait. -/
def IsAwaited (l : Lobby) : Prop := l.broker.bell.waiting ≠ [] ∨ .listening ∈ l.calls

instance (l : Lobby) : Decidable l.IsAwaited := by unfold IsAwaited; infer_instance

/-- An action passes on the ring that was meant for a call. -/
def passesOn (l : Lobby) : Action → Bool
  | .drop n => l.broker.bell.woken.contains n
  | _ => false

/-- How many of the entries that an action adds no ring tells of.  It rings once, however many
    they are, and a ring is lost while another one is kept; neither matters as long as nobody
    waits or is about to. -/
def shortfall (l : Lobby) (a : Action) (l' : Lobby) : Nat :=
  let added := l'.broker.ready.length - l.broker.ready.length
  let rings := 0 < added ∨ l.passesOn a
  if l'.IsAwaited then added - 1 + (if rings ∧ l.broker.bell.kept then 1 else 0) else 0

/-! ### Runs -/

/-- The steps of a lobby, with their shortfall for a report. -/
def counting (l : Lobby) (a : Action) : Option (Lobby × Nat) :=
  (l.step? a).map fun l' => (l', l.shortfall a l')

/-- A run of allowed actions, with its shortfall in all. -/
abbrev Run (allowed : Lobby → Action → Prop) (l : Lobby) (missed : Nat) (l' : Lobby) : Prop :=
  Machine.Run counting allowed l missed l'

abbrev replay? (allowed : Lobby → Action → Prop) [∀ l a, Decidable (allowed l a)] (l : Lobby)
    (actions : List Action) : Option (Lobby × Nat) :=
  Machine.replay? counting allowed l actions

/-- No call begins before every other one has ended. -/
def OneAtATime (l : Lobby) (a : Action) : Prop := a = .arrive → ∀ r ∈ l.calls, r.HasEnded

instance (l : Lobby) (a : Action) : Decidable (OneAtATime l a) := by
  unfold OneAtATime
  infer_instance

variable {l l' : Lobby} {n : Nat} {a : Action}

theorem counting_eq_some :
    l.counting a = some (l', n) ↔ l.step? a = some l' ∧ l.shortfall a l' = n := by
  rw [counting, Option.map_eq_some_iff]
  constructor
  · rintro ⟨l'', hstep, heq⟩
    cases heq
    exact ⟨hstep, rfl⟩
  · rintro ⟨hstep, rfl⟩
    exact ⟨l', hstep, rfl⟩

/-! ### What a step can do -/

/-- What an action does to the calls, to the bell, and to the number of entries. -/
inductive Change (l : Lobby) : Action → Lobby → Prop where
  | still {a : Action} {l' : Lobby} (hready : l'.broker.ready = l.broker.ready)
      (hbell : l'.broker.bell = l.broker.bell) (hcalls : l'.calls = l.calls)
      (harrive : a ≠ .arrive ∨ l' = l) (hpasses : l.passesOn a = false) : Change l a l'
  /-- Entries are added, and the bell is rung. -/
  | rang {a : Action} {l' : Lobby} {k : Nat} (hk : 0 < k)
      (hready : l'.broker.ready.length = l.broker.ready.length + k)
      (hbell : l'.broker.bell = l.broker.bell.ring) (hcalls : l'.calls = l.calls)
      (harrive : a ≠ .arrive) : Change l a l'
  | arrived : Change l .arrive { l with calls := l.calls ++ [.looking] }
  | took {n : Nat} {raw : String} {rest : List String} (hcall : l.calls[n]? = some .looking)
      (hready : l.broker.ready = raw :: rest) :
      Change l (.look n) (l.put n ({ l.broker with
        ready := rest, inFlight := l.broker.inFlight ++ [raw] }, .received raw))
  | foundNothing {n : Nat} (hcall : l.calls[n]? = some .looking) (hready : l.broker.ready = []) :
      Change l (.look n) (l.put n (l.broker, .listening))
  | heard {n : Nat} (hcall : l.calls[n]? = some .listening) (hkept : l.broker.bell.kept = true) :
      Change l (.listen n) (l.put n ({ l.broker with
        bell := { l.broker.bell with kept := false } }, .looking))
  | waits {n : Nat} (hcall : l.calls[n]? = some .listening) (hkept : l.broker.bell.kept = false) :
      Change l (.listen n) (l.put n ({ l.broker with
        bell := { l.broker.bell with waiting := l.broker.bell.waiting ++ [n] } }, .waiting))
  | resumed {n : Nat} (hcall : l.calls[n]? = some .waiting) (hwoken : n ∈ l.broker.bell.woken) :
      Change l (.resume n) (l.put n ({ l.broker with bell := l.broker.bell.resume n }, .looking))
  | left {n : Nat} {a : Action} (hcall : l.calls[n]? = some .waiting)
      (hblocked : n ∉ l.broker.bell.woken) (harrive : a ≠ .arrive)
      (hpasses : l.passesOn a = false) :
      Change l a (l.put n ({ l.broker with
        bell := { l.broker.bell with waiting := l.broker.bell.waiting.erase n } }, .expired))
  | passedOn {n : Nat} (hcall : l.calls[n]? = some .waiting)
      (hwoken : n ∈ l.broker.bell.woken) :
      Change l (.drop n) (l.put n ({ l.broker with
        bell := (l.broker.bell.resume n).ring }, .expired))

theorem isWoken_iff {b : Broker} : Receiver.isWoken n b = true ↔ n ∈ b.bell.woken := by
  rw [Receiver.isWoken, List.contains_iff_mem]

/-- A call that leaves unwoken gives up its place. -/
theorem leave_of_blocked {b : Broker} (h : n ∉ b.bell.woken) :
    Receiver.leave n b =
      { b with bell := { b.bell with waiting := b.bell.waiting.erase n } } := by
  have hcontains : ¬ b.bell.woken.contains n := by rwa [List.contains_iff_mem]
  rw [Receiver.leave, Bell.leave, if_neg hcontains]

/-- A call that leaves after it was woken passes the ring on. -/
theorem leave_of_woken {b : Broker} (h : n ∈ b.bell.woken) :
    Receiver.leave n b = { b with bell := (b.bell.resume n).ring } := by
  have hcontains : b.bell.woken.contains n := by rwa [List.contains_iff_mem]
  rw [Receiver.leave, Bell.leave, if_pos hcontains]

theorem change_of_look (h : l.calls[n]? = some .looking) :
    Change l (.look n) (l.put n (Receiver.look l.broker)) := by
  cases hready : l.broker.ready with
  | nil =>
    rw [Receiver.look, Broker.takeNext, hready]
    exact .foundNothing h hready
  | cons raw rest =>
    rw [Receiver.look, Broker.takeNext, hready]
    exact .took h hready

theorem change_of_listen (h : l.calls[n]? = some .listening) :
    Change l (.listen n) (l.put n (Receiver.listen n l.broker)) := by
  cases hkept : l.broker.bell.kept with
  | true =>
    rw [Receiver.listen, Bell.listen, hkept]
    exact .heard h hkept
  | false =>
    have hwaits : ¬ l.broker.bell.kept = true := by rw [hkept]; nofun
    rw [Receiver.listen, Bell.listen, if_neg hwaits]
    exact .waits h hkept

theorem change_of_settle (l : Lobby) (d : Delivery) (now : Instant) (s : Broker.Settlement) :
    Change l (.settle d now s) (l.withBroker (l.broker.trySettle d now s).1) := by
  have harrive : Action.settle d now s ≠ .arrive := Action.noConfusion
  have hstill {b : Broker} (hready : b.ready = l.broker.ready) (hbell : b.bell = l.broker.bell) :
      Change l (.settle d now s) (l.withBroker b) :=
    .still hready hbell rfl (Or.inl harrive) rfl
  rcases l.broker.trySettle_cases d now s with ⟨n, htry⟩ | htry
  · rw [htry]
    exact hstill rfl rfl
  rw [htry]
  obtain ⟨held, _, hrelease⟩ := l.broker.release_eq d.raw
  cases s with
  | ack =>
    cases hremoved : Broker.swapRemove d.raw l.broker.inFlight with
    | none =>
      refine hstill ?_ ?_
      · simp [Broker.settle, hremoved]
      · simp [Broker.settle, hremoved]
    | some rest =>
      refine hstill ?_ ?_
      · simp [Broker.settle, hremoved]
      · simp [Broker.settle, hremoved]
  | requeue reason =>
    refine .rang Nat.zero_lt_one ?_ ?_ rfl harrive
    · simp [Broker.settle, withBroker, Broker.push, hrelease]
    · simp [Broker.settle, withBroker, Broker.push, hrelease]
  | deadLetter reason =>
    refine hstill ?_ ?_
    · simp [Broker.settle, hrelease]
    · simp [Broker.settle, hrelease]

theorem change_of_recover (l : Lobby) :
    Change l .recover (l.withBroker l.broker.recover.2) := by
  cases hheld : l.broker.inFlight with
  | nil =>
    refine .still ?_ ?_ rfl (Or.inl nofun) rfl
    · simp [withBroker, Broker.recover, hheld]
    · simp [withBroker, Broker.recover, hheld]
  | cons raw rest =>
    refine .rang (k := (raw :: rest).length) (Nat.succ_pos _) ?_ ?_ rfl nofun
    · simp [withBroker, Broker.recover, hheld]
      omega
    · simp [withBroker, Broker.recover, hheld]

/-- **What a step can do.** -/
theorem change_of_step (h : l.step? a = some l') : Change l a l' := by
  cases a with
  | arrive =>
    rw [step?, Receiver.begin, Broker.check] at h
    cases hdown : l.broker.isDown with
    | true =>
      rw [hdown] at h
      cases h
      exact .still rfl rfl rfl (Or.inr rfl) rfl
    | false =>
      rw [hdown] at h
      cases h
      exact .arrived
  | look n =>
    rw [step?, Option.ite_none_right_eq_some] at h
    obtain ⟨hcall, h⟩ := h
    cases h
    exact change_of_look hcall
  | listen n =>
    rw [step?, Option.ite_none_right_eq_some] at h
    obtain ⟨hcall, h⟩ := h
    cases h
    exact change_of_listen hcall
  | resume n =>
    rw [step?, Option.ite_none_right_eq_some] at h
    obtain ⟨⟨hcall, hwoken⟩, h⟩ := h
    cases h
    exact .resumed hcall (isWoken_iff.mp hwoken)
  | expire n =>
    rw [step?, Option.ite_none_right_eq_some] at h
    obtain ⟨⟨hcall, hblocked⟩, h⟩ := h
    rw [isWoken_iff] at hblocked
    rw [leave_of_blocked hblocked] at h
    cases h
    exact .left hcall hblocked nofun rfl
  | drop n =>
    rw [step?, Option.ite_none_right_eq_some] at h
    obtain ⟨hcall, h⟩ := h
    by_cases hwoken : n ∈ l.broker.bell.woken
    · rw [leave_of_woken hwoken] at h
      cases h
      exact .passedOn hcall hwoken
    · rw [leave_of_blocked hwoken] at h
      cases h
      refine .left hcall hwoken nofun ?_
      rwa [passesOn, ← Bool.not_eq_true, List.contains_iff_mem]
  | publish jobId imageUrl now =>
    rw [step?] at h
    cases hpublish : l.broker.publish jobId imageUrl now with
    | error f =>
      rw [hpublish] at h
      cases h
      exact .still rfl rfl rfl (Or.inl nofun) rfl
    | ok b =>
      rw [hpublish] at h
      cases h
      obtain ⟨_, rfl⟩ := Broker.publish_ok hpublish
      refine .rang Nat.zero_lt_one ?_ rfl rfl nofun
      simp [withBroker, Broker.push]
  | push raw =>
    cases h
    refine .rang Nat.zero_lt_one ?_ rfl rfl nofun
    simp [withBroker, Broker.push]
  | settle d now s =>
    cases h
    exact change_of_settle l d now s
  | recover =>
    cases h
    exact change_of_recover l
  | disturb isDown settleFaults =>
    cases h
    exact .still rfl rfl rfl (Or.inl nofun) rfl

end Lobby

end DetectionJobs.Queue
