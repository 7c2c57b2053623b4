/-
  DetectionJobs/Proofs/Lobby/Rings.lean
  =====================================
  **When a call waits although an entry is ready.**

  While somebody waits or is about to, each entry that is ready has a call that was woken or
  looks, or a ring that is kept, but for the shortfall of the run.  So entries are left to a
  blocked call by nothing but a shortfall: a recovery that puts back several entries and rings
  once, or a ring that was lost.  With no more than one call at a time a shortfall does no harm,
  since the call finds the other entries when it looks again.
-/
import DetectionJobs.Proofs.Lobby.Basic

namespace DetectionJobs.Queue

variable {b : Bell} {n : Nat}

/-! ### Who is known to the bell -/

/-- The calls that wait, woken or not. -/
def Bell.places (b : Bell) : List Nat := b.waiting ++ b.woken

theorem Bell.ring_of_nil (h : b.waiting = []) : b.ring = { b with kept := true } := by
  rw [ring, h]

theorem Bell.ring_of_cons {r : Nat} {rest : List Nat} (h : b.waiting = r :: rest) :
    b.ring = { b with waiting := rest, woken := b.woken ++ [r] } := by
  rw [ring, h]

/-- A ring moves a call from those that wait to those that are woken. -/
theorem Bell.places_ring (b : Bell) : b.ring.places.Perm b.places := by
  cases h : b.waiting with
  | nil =>
    rw [ring_of_nil h]
    exact .refl _
  | cons r rest =>
    rw [ring_of_cons h, places, places, h, ← List.append_assoc]
    exact (List.perm_append_singleton r _)

/-- One if the call looks, else none. -/
def Receiver.looks (r : Receiver) : Nat := if r = .looking then 1 else 0

namespace Lobby

variable {l l' : Lobby} {a : Action} {missed : Nat} {r c : Receiver} {step : Broker × Receiver}

theorem calls_put (l : Lobby) (n : Nat) (step : Broker × Receiver) :
    (l.put n step).calls = l.calls.set n step.2 := rfl

theorem lt_of_call (h : l.calls[n]? = some c) : n < l.calls.length :=
  (List.getElem?_eq_some_iff.mp h).1

theorem call_put (h : l.calls[n]? = some c) (m : Nat) :
    (l.put n step).calls[m]? = if m = n then some step.2 else l.calls[m]? := by
  rw [calls_put, List.getElem?_set]
  by_cases hm : m = n
  · rw [if_pos hm, if_pos hm.symm, if_pos (lt_of_call h)]
  · rw [if_neg hm, if_neg (Ne.symm hm)]

/-- How many calls look after one of them took a step. -/
theorem looking_put (h : l.calls[n]? = some c) :
    (l.put n step).calls.count .looking + c.looks =
      l.calls.count .looking + step.2.looks := by
  obtain ⟨hlt, hget⟩ := List.getElem?_eq_some_iff.mp h
  have hcount : c = .looking → 0 < l.calls.count .looking := by
    rintro rfl
    exact List.count_pos_iff.mpr (hget ▸ List.getElem_mem hlt)
  rw [calls_put, List.count_set hlt, hget]
  simp only [beq_iff_eq, Receiver.looks]
  split
  · next hc =>
    have := hcount hc
    omega
  · omega

/-- The bell knows exactly the calls that wait, and each of them once. -/
structure Placed (l : Lobby) : Prop where
  nodup : l.broker.bell.places.Nodup
  mem_iff : ∀ n, n ∈ l.broker.bell.places ↔ l.calls[n]? = some .waiting

theorem placed_opening {b : Broker} (h : b.bell = .silent) : (opening b).Placed := by
  constructor
  · rw [opening, h]
    exact List.nodup_nil
  · intro n
    rw [opening, h]
    simp [Bell.places, Bell.silent]

/-- After a step of a call the bell knows the others as before. -/
theorem Placed.put (h : l.Placed) (hcall : l.calls[n]? = some c)
    (hnodup : step.1.bell.places.Nodup)
    (hmem : ∀ m, m ∈ step.1.bell.places ↔
      if m = n then step.2 = .waiting else m ∈ l.broker.bell.places) :
    (l.put n step).Placed := by
  refine ⟨hnodup, fun m => ?_⟩
  rw [call_put hcall]
  refine (hmem m).trans ?_
  split
  · rw [Option.some_inj]
  · exact h.mem_iff m

theorem Placed.not_mem (h : l.Placed) (hcall : l.calls[n]? = some c) (hc : c ≠ .waiting) :
    n ∉ l.broker.bell.places := by
  rw [h.mem_iff, hcall, Option.some_inj]
  exact hc

/-- A call that neither waits before nor after its step has no place at the bell. -/
theorem Placed.keep (h : l.Placed) (hcall : l.calls[n]? = some c) (hc : c ≠ .waiting)
    (hbell : step.1.bell.places = l.broker.bell.places) (hr : step.2 ≠ .waiting) :
    (l.put n step).Placed := by
  refine h.put hcall (hbell ▸ h.nodup) fun m => ?_
  rw [hbell]
  split
  · next hm =>
    rw [hm]
    exact ⟨fun hmem => absurd hmem (h.not_mem hcall hc), fun hwaits => absurd hwaits hr⟩
  · exact Iff.rfl

/-- A call that goes on or gives up has no place any more. -/
theorem Placed.erase (h : l.Placed) (hcall : l.calls[n]? = some .waiting)
    (hbell : step.1.bell.places.Perm (l.broker.bell.places.erase n)) (hr : step.2 ≠ .waiting) :
    (l.put n step).Placed := by
  refine h.put hcall (hbell.nodup_iff.mpr (h.nodup.erase n)) fun m => ?_
  rw [hbell.mem_iff, h.nodup.mem_erase_iff]
  split
  · next hm => exact ⟨fun hne => absurd hm hne.1, fun hwaits => absurd hwaits hr⟩
  · next hm => exact and_iff_right hm

theorem places_resume {b : Bell} (h : b.places.Nodup) (hwoken : n ∈ b.woken) :
    (b.resume n).places = b.places.erase n := by
  have hwaiting : n ∉ b.waiting := fun hmem =>
    (List.nodup_append.mp h).2.2 n hmem n hwoken rfl
  rw [Bell.places, Bell.places, List.erase_append, if_neg hwaiting]
  rfl

theorem Placed.of_change (h : l.Placed) (hchange : Change l a l') : l'.Placed := by
  cases hchange with
  | still _ hbell hcalls => exact ⟨hbell ▸ h.nodup, fun n => by rw [hbell, hcalls, h.mem_iff]⟩
  | rang _ _ hbell hcalls =>
    have hperm := l.broker.bell.places_ring
    refine ⟨?_, fun n => ?_⟩
    · rw [hbell, hperm.nodup_iff]
      exact h.nodup
    · rw [hbell, hcalls, hperm.mem_iff, h.mem_iff]
  | arrived =>
    refine ⟨h.nodup, fun n => (h.mem_iff n).trans ?_⟩
    simp only [List.getElem?_append]
    split
    · exact Iff.rfl
    · next hle =>
      rw [List.getElem?_eq_none (Nat.le_of_not_lt hle)]
      cases n - l.calls.length <;> simp
  | took hcall => exact h.keep hcall nofun rfl nofun
  | foundNothing hcall => exact h.keep hcall nofun rfl nofun
  | heard hcall => exact h.keep hcall nofun rfl nofun
  | @waits n hcall =>
    have hnot : n ∉ l.broker.bell.places := h.not_mem hcall nofun
    have hperm : ({ l.broker.bell with waiting := l.broker.bell.waiting ++ [n] } : Bell).places.Perm
        (n :: l.broker.bell.places) := by
      simp only [Bell.places, List.append_assoc]
      exact List.perm_middle
    refine h.put hcall (hperm.nodup_iff.mpr (List.nodup_cons.mpr ⟨hnot, h.nodup⟩)) fun m => ?_
    rw [hperm.mem_iff, List.mem_cons]
    split
    · next hm => exact ⟨fun _ => rfl, fun _ => Or.inl hm⟩
    · next hm => exact or_iff_right hm
  | resumed hcall hwoken =>
    exact h.erase hcall (.of_eq (places_resume h.nodup hwoken)) nofun
  | @left n _ hcall hblocked =>
    refine h.erase hcall (.of_eq ?_) nofun
    have hwaiting : n ∈ l.broker.bell.waiting := by
      rcases List.mem_append.mp ((h.mem_iff n).mpr hcall) with hwaiting | hwoken
      · exact hwaiting
      · exact absurd hwoken hblocked
    rw [Bell.places, Bell.places, List.erase_append, if_pos hwaiting]
  | @passedOn n hcall hwoken =>
    refine h.erase hcall ?_ nofun
    exact (Bell.places_ring _).trans (.of_eq (places_resume h.nodup hwoken))

/-- A blocked call waits at the bell. -/
theorem Placed.waiting_of_blocked (h : l.Placed) (hblocked : l.Blocked n) :
    n ∈ l.broker.bell.waiting := by
  rcases List.mem_append.mp ((h.mem_iff n).mpr hblocked.1) with hwaiting | hwoken
  · exact hwaiting
  · exact absurd hwoken hblocked.2

/-! ### Entries and those on their way to them -/

/-- A ring is kept only while nobody waits. -/
def Quiet (l : Lobby) : Prop := l.broker.bell.waiting ≠ [] → l.broker.bell.kept = false

theorem quiet_ring {b : Bell} (h : b.waiting ≠ [] → b.kept = false) :
    b.ring.waiting ≠ [] → b.ring.kept = false := by
  cases hwaiting : b.waiting with
  | nil =>
    rw [Bell.ring_of_nil hwaiting]
    exact fun hnot => absurd hwaiting hnot
  | cons r rest =>
    rw [Bell.ring_of_cons hwaiting]
    exact fun _ => h (by rw [hwaiting]; exact List.cons_ne_nil r rest)

theorem Quiet.of_change (h : l.Quiet) (hchange : Change l a l') : l'.Quiet := by
  cases hchange with
  | still _ hbell => rwa [Quiet, hbell]
  | rang _ _ hbell =>
    rw [Quiet, hbell]
    exact quiet_ring h
  | arrived => exact h
  | took => exact h
  | foundNothing => exact h
  | heard => exact fun _ => rfl
  | waits _ hkept => exact fun _ => hkept
  | resumed => exact h
  | left =>
    refine fun hwaiting => h fun hnil => hwaiting ?_
    show l.broker.bell.waiting.erase _ = []
    rw [hnil, List.erase_nil]
  | passedOn => exact quiet_ring h

/-- The rings that are kept: none, or one. -/
def rings (l : Lobby) : Nat := l.broker.bell.kept.toNat

/-- As long as somebody waits or is about to, every entry but those of the shortfall has a call
    on its way to it, or a ring that is kept. -/
def Covered (missed : Nat) (l : Lobby) : Prop :=
  l.IsAwaited → l.broker.ready.length ≤ l.onTheWay + l.rings + missed

theorem Covered.mono {missed' : Nat} (h : l.Covered missed) (hle : missed ≤ missed') :
    l.Covered missed' :=
  fun hawaited => Nat.le_trans (h hawaited) (Nat.add_le_add_left hle _)

/-- A call takes a step.  What it takes from those on their way, it takes from the entries, or
    the shortfall makes up for it. -/
theorem Covered.put (h : l.Covered missed) (hcall : l.calls[n]? = some c)
    (hbefore : (l.put n step).IsAwaited → l.IsAwaited) {short : Nat}
    (hless : step.1.ready.length + l.broker.bell.woken.length + l.rings + c.looks ≤
      l.broker.ready.length + step.1.bell.woken.length + step.1.bell.kept.toNat + step.2.looks +
        short) :
    (l.put n step).Covered (missed + short) := by
  intro hawaited
  have hle := h (hbefore hawaited)
  have hlooking : (l.put n step).calls.count .looking + c.looks =
      l.calls.count .looking + step.2.looks := looking_put hcall
  simp only [onTheWay, rings] at hle hless ⊢
  simp only [Lobby.put] at hlooking ⊢
  omega

theorem awaited_of_put (hwaiting : step.1.bell.waiting ≠ [] → l.broker.bell.waiting ≠ [])
    (hr : step.2 ≠ .listening) (h : (l.put n step).IsAwaited) : l.IsAwaited := by
  refine h.imp hwaiting fun hmem => ?_
  rcases List.mem_or_eq_of_mem_set hmem with hmem | heq
  · exact hmem
  · exact absurd heq.symm hr

/-- Somebody is awaited while a call is about to wait. -/
theorem awaited_of_listening (hcall : l.calls[n]? = some .listening) : l.IsAwaited :=
  Or.inr (List.mem_of_getElem? hcall)

/-- A ring makes up for one entry, unless it is lost. -/
theorem ring_covers {b : Bell} (h : b.waiting ≠ [] → b.kept = false) :
    b.ring.woken.length + b.ring.kept.toNat + b.kept.toNat =
      b.woken.length + b.kept.toNat + 1 := by
  cases hwaiting : b.waiting with
  | nil =>
    simp only [Bell.ring_of_nil hwaiting, Bool.toNat_true]
    omega
  | cons r rest =>
    have hkept := h (by rw [hwaiting]; exact List.cons_ne_nil r rest)
    simp [Bell.ring_of_cons hwaiting, hkept]

theorem waiting_of_ring {b : Bell} (h : b.ring.waiting ≠ []) : b.waiting ≠ [] := by
  intro hnil
  rw [Bell.ring_of_nil hnil] at h
  exact h hnil

theorem shortfall_of_rang {k : Nat} (hk : 0 < k)
    (hready : l'.broker.ready.length = l.broker.ready.length + k) (hawaited : l'.IsAwaited) :
    l.shortfall a l' = k - 1 + l.rings := by
  have hadded : l.broker.ready.length + k - l.broker.ready.length = k := by omega
  rw [shortfall, if_pos hawaited, hready, hadded, rings]
  cases l.broker.bell.kept <;> simp [hk]

theorem shortfall_of_passedOn (hwoken : n ∈ l.broker.bell.woken) (hawaited : l'.IsAwaited) :
    l.rings ≤ l.shortfall (.drop n) l' := by
  have hpasses : l.passesOn (.drop n) = true := by rwa [passesOn, List.contains_iff_mem]
  rw [shortfall, if_pos hawaited, rings]
  cases l.broker.bell.kept <;> simp [hpasses]

theorem Covered.of_change (h : l.Covered missed) (hquiet : l.Quiet) (hchange : Change l a l') :
    l'.Covered (missed + l.shortfall a l') := by
  have hmore : missed + 0 ≤ missed + l.shortfall a l' := Nat.add_le_add_left (Nat.zero_le _) _
  cases hchange with
  | still hready hbell hcalls =>
    refine Covered.mono ?_ hmore
    rwa [Covered, IsAwaited, onTheWay, rings, hready, hbell, hcalls]
  | rang hk hready hbell hcalls =>
    intro hawaited
    have hbefore : l.IsAwaited := by
      rw [IsAwaited, hbell, hcalls] at hawaited
      exact hawaited.imp_left waiting_of_ring
    have hle := h hbefore
    have hring := ring_covers hquiet
    rw [shortfall_of_rang hk hready hawaited, hready]
    simp only [onTheWay, rings, hbell, hcalls] at hle ⊢
    omega
  | arrived =>
    refine Covered.mono (fun hawaited => ?_) hmore
    have hbefore : l.IsAwaited := by
      refine hawaited.imp_right fun hmem => ?_
      rcases List.mem_append.mp hmem with hmem | hmem
      · exact hmem
      · cases List.mem_singleton.mp hmem
    have hle := h hbefore
    simp only [onTheWay, rings, List.count_append, List.count_singleton_self] at hle ⊢
    omega
  | took hcall hready =>
    refine (h.put hcall (awaited_of_put id Receiver.noConfusion) ?_).mono hmore
    rw [hready, List.length_cons, rings]
    simp only [Receiver.looks, if_true, reduceCtorEq, if_false]
    omega
  | foundNothing _ hready =>
    refine Covered.mono (fun _ => ?_) hmore
    simp [Lobby.put, hready]
  | heard hcall hkept =>
    refine (h.put hcall (fun _ => awaited_of_listening hcall) ?_).mono hmore
    simp [Receiver.looks, rings, hkept]
  | waits hcall hkept =>
    refine (h.put hcall (fun _ => awaited_of_listening hcall) ?_).mono hmore
    simp [Receiver.looks, rings]
  | resumed hcall hwoken =>
    refine (h.put hcall (awaited_of_put id Receiver.noConfusion) ?_).mono hmore
    have hlength := List.length_erase_of_mem hwoken
    have hpos := List.length_pos_of_mem hwoken
    simp only [Receiver.looks, rings, Bell.resume, hlength, if_true, reduceCtorEq, if_false]
    omega
  | left hcall =>
    refine (h.put hcall (awaited_of_put (fun hne hnil => hne ?_) Receiver.noConfusion) ?_).mono
      hmore
    · simp only [hnil, List.erase_nil]
    · simp [Receiver.looks, rings]
  | @passedOn n hcall hwoken =>
    intro hawaited
    have hring := ring_covers (b := l.broker.bell.resume n) hquiet
    have hlength : (l.broker.bell.resume n).woken.length = l.broker.bell.woken.length - 1 :=
      List.length_erase_of_mem hwoken
    have hkept : (l.broker.bell.resume n).kept = l.broker.bell.kept := rfl
    have hpos := List.length_pos_of_mem hwoken
    rw [hlength, hkept] at hring
    refine (h.put hcall (awaited_of_put waiting_of_ring Receiver.noConfusion) ?_).mono
      (Nat.add_le_add_left (shortfall_of_passedOn hwoken hawaited) missed) hawaited
    simp only [Receiver.looks, rings, reduceCtorEq, if_false]
    omega

/-- **Entries are left to a blocked call by nothing but the shortfall.** -/
theorem covered_of_run {b : Broker} (hbell : b.bell = .silent)
    (h : Run Anything (opening b) missed l) : l.Placed ∧ l.Quiet ∧ l.Covered missed := by
  refine h.invariant (P := fun missed l => l.Placed ∧ l.Quiet ∧ l.Covered missed) ?_
    fun missed l₁ a l₂ more _ hinv _ hstep => ?_
  · refine ⟨placed_opening hbell, fun hwaiting => ?_, fun hawaited => ?_⟩
    · rw [opening, hbell] at hwaiting
      exact absurd rfl hwaiting
    · rw [IsAwaited, opening, hbell] at hawaited
      rcases hawaited with hwaiting | hlistening
      · exact absurd rfl hwaiting
      · cases hlistening
  · obtain ⟨hplaced, hquiet, hcovered⟩ := hinv
    obtain ⟨htaken, rfl⟩ := counting_eq_some.mp hstep
    have hchange := change_of_step htaken
    exact ⟨hplaced.of_change hchange, hquiet.of_change hchange,
      hcovered.of_change hquiet hchange⟩

end Lobby

end DetectionJobs.Queue
