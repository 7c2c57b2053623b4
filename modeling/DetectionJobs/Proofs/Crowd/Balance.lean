/-
  DetectionJobs/Proofs/Crowd/Balance.lean
  =======================================
  **However many consumers compete, no message is lost.**

  A request either leaves the entries of the queue where they are, or it moves one from list
  to list, adds one that is published, removes one that is acknowledged, or writes one in
  place of another with the same body.  Only where the other one was not held any more is
  there a copy too many, so that the entries with a body are never fewer than they should be,
  and not more either as long as only open deliveries are requeued or dead-lettered.
-/
import DetectionJobs.Proofs.Crowd.Changes
import Mathlib.Data.List.Basic

namespace DetectionJobs.Queue

/-! ### Counting bodies -/

namespace Shelves

variable {v : Shelves} {names : List String} {name : String}

def bodies (items : List String) (body : String) : Nat := (items.map bodyOf).count body

theorem bodies_cons (raw : String) (items : List String) (body : String) :
    bodies (raw :: items) body = bodies items body + bodies [raw] body := by
  simp only [bodies, List.map_cons, List.map_nil, List.count_cons, List.count_nil, Nat.zero_add]

theorem bodies_append (items others : List String) (body : String) :
    bodies (items ++ others) body = bodies items body + bodies others body := by
  rw [bodies, List.map_append, List.count_append, bodies, bodies]

theorem bodies_perm {items others : List String} (h : items.Perm others) (body : String) :
    bodies items body = bodies others body := (h.map bodyOf).count_eq body

theorem bodies_erase {raw : String} {items : List String} (h : raw ∈ items) (body : String) :
    bodies items body = bodies (items.erase raw) body + bodies [raw] body := by
  rw [bodies_perm (List.perm_cons_erase h), bodies_cons]

theorem copies_eq (v : Shelves) (names : List String) (body : String) :
    v.copies names body =
      bodies v.ready body + bodies v.dead body + bodies (names.flatMap v.held) body := by
  rw [copies, ← bodies, entries, bodies_append, bodies_append]

/-- A consumer's list counts once among those of all consumers. -/
theorem copies_update (hnames : names.Nodup) (hname : name ∈ names) (ready dead : List String)
    (held : String → List String) (items : List String) (body : String) :
    copies ⟨ready, dead, Function.update held name items⟩ names body =
      bodies ready body + bodies dead body + bodies items body +
        bodies ((names.erase name).flatMap held) body := by
  have hperm := (List.perm_cons_erase hname).flatMap_right (Function.update held name items)
  have hothers : (names.erase name).flatMap (Function.update held name items) =
      (names.erase name).flatMap held := by
    apply List.flatMap_congr
    intro other hother
    exact Function.update_of_ne (hnames.mem_erase_iff.mp hother).1 ..
  rw [List.flatMap_cons, Function.update_self, hothers] at hperm
  rw [copies_eq, bodies_perm hperm, bodies_append, ← Nat.add_assoc]

theorem copies_split (hnames : names.Nodup) (hname : name ∈ names) (v : Shelves)
    (body : String) :
    v.copies names body =
      bodies v.ready body + bodies v.dead body + bodies (v.held name) body +
        bodies ((names.erase name).flatMap v.held) body := by
  have h := copies_update hnames hname v.ready v.dead v.held (v.held name) body
  rwa [Function.update_eq_self] at h

end Shelves

section Balance

variable {v v' : Shelves} {names : List String} {name : String} {op : Remote} {reply : Reply}

open Shelves

/-- **A request keeps the balance of every body**, but for a copy too many where an entry is
    replaced that its consumer does not hold. -/
theorem Effect.balance (h : Effect v name op reply v') (hnames : names.Nodup)
    (hname : op.isConsuming = true → name ∈ names) (hkeeps : op.KeepsBody) (body : String) :
    ∃ spare, v.copies names body + Crowd.published (Crowd.report name op reply) body + spare =
        v'.copies names body + Crowd.removed (Crowd.report name op reply) body ∧
      ((∀ raw ∈ op.replaced?, raw ∈ v.held name) → spare = 0) := by
  cases h with
  -- what is published comes on top
  | @published raw n =>
    have hpublished : Crowd.published (Crowd.report name (.publish raw) (.count n)) body =
        bodies [raw] body := rfl
    have hcons := bodies_cons raw v.ready body
    have hcopies := copies_eq v names body
    refine ⟨0, ?_, fun _ => rfl⟩
    rw [hpublished, copies_eq { v with ready := raw :: v.ready }]
    show _ = bodies (raw :: v.ready) body + bodies v.dead body +
      bodies (names.flatMap v.held) body + 0
    omega
  -- from one list to the other
  | @received _ raw _ hready =>
    have hsplit := copies_split hnames (hname rfl) v body
    have hcons := bodies_cons raw (v.held name) body
    rw [hready, bodies_append] at hsplit
    refine ⟨0, ?_, fun _ => rfl⟩
    show _ + 0 + 0 = _ + 0
    rw [hsplit, copies_update hnames (hname rfl)]
    omega
  | missed => exact ⟨0, rfl, fun _ => rfl⟩
  | @acknowledged raw =>
    have hsplit := copies_split hnames (hname rfl) v body
    refine ⟨0, ?_, fun _ => rfl⟩
    rw [copies_update hnames (hname rfl)]
    -- only an entry that was held counts as removed
    by_cases hmem : raw ∈ v.held name
    · have hremoved : Crowd.removed (Crowd.report name (.acknowledge raw) (.count 1)) body =
          bodies [raw] body := rfl
      rw [if_pos hmem, hremoved, hsplit, bodies_erase hmem]
      show _ + 0 + 0 = _
      omega
    · rw [if_neg hmem, hsplit, List.erase_of_not_mem hmem]
      rfl
  | @replaced raw next isDead _ =>
    have hsplit := copies_split hnames (hname rfl) v body
    have hnext : bodies [next] body = bodies [raw] body := congrArg (fun b => [b].count body) hkeeps
    have hready := bodies_cons next v.ready body
    have hdead := bodies_cons next v.dead body
    have hentry : bodies (if isDead then v.ready else next :: v.ready) body +
        bodies (if isDead then next :: v.dead else v.dead) body =
          bodies v.ready body + bodies v.dead body + bodies [raw] body := by
      cases isDead <;> simp only [if_true, if_false, Bool.false_eq_true] <;> omega
    rw [copies_update hnames (hname rfl), hsplit]
    -- an entry that its consumer does not hold is written, but none is taken away for it
    by_cases hmem : raw ∈ v.held name
    · have herase := bodies_erase hmem body
      refine ⟨0, ?_, fun _ => rfl⟩
      show _ + 0 + 0 = _ + 0
      omega
    · refine ⟨bodies [raw] body, ?_, fun hheld => absurd (hheld raw rfl) hmem⟩
      rw [List.erase_of_not_mem hmem]
      show _ + 0 + _ = _ + 0
      omega
  | returned hheld =>
    have hsplit := copies_split hnames (hname rfl) v body
    rw [hheld, bodies_append] at hsplit
    refine ⟨0, ?_, fun _ => rfl⟩
    show _ + 0 + 0 = _ + 0
    rw [hsplit, copies_update hnames (hname rfl), bodies_append]
    omega
  | emptied => exact ⟨0, rfl, fun _ => rfl⟩
  | looked hop =>
    refine ⟨0, ?_, fun _ => rfl⟩
    rcases hop with rfl | rfl | rfl <;> rfl

end Balance

/-! ### The balance of a run -/

namespace Crowd

variable {f f' : Crowd} {a : Action} {es : List Event} {actions : List Action}
  {trace : List Event} {allowed : Crowd → Action → Prop}

theorem published_append (es es' : List Event) (body : String) :
    published (es ++ es') body = published es body + published es' body := List.countP_append

theorem removed_append (es es' : List Event) (body : String) :
    removed (es ++ es') body = removed es body + removed es' body := List.countP_append

/-- The entries that a call at a place is about to replace are held by its consumer. -/
def Holds (f : Crowd) : Action → Prop
  | .call .. => True
  | .send i fate => fate ≠ .refused → ∀ name op, f.calls[i]? = some ⟨name, .running op⟩ →
    ∀ raw ∈ op.replaced?, raw ∈ f.shelves.held name

/-- A step never loses a copy, and adds none where it replaces only what is held. -/
theorem Change.balance (h : Change f a es f') (hnames : f.names.Nodup) (hsound : f.Sound)
    (body : String) :
    ∃ spare, f.copies body + published es body + spare = f'.copies body + removed es body ∧
      (f.Holds a → spare = 0) := by
  cases h with
  | called => exact ⟨0, rfl, fun _ => rfl⟩
  | refused => exact ⟨0, rfl, fun _ => rfl⟩
  | served hfate hcall heffect =>
    obtain ⟨hkeeps, hname⟩ := hsound _ _ (List.mem_of_getElem? hcall)
    obtain ⟨spare, hbalance, hspare⟩ := heffect.balance hnames hname hkeeps body
    exact ⟨spare, hbalance, fun hholds => hspare (hholds hfate _ _ hcall)⟩

theorem Run.sound (h : Run allowed f actions trace f') (hsound : f.Sound) : f'.Sound :=
  h.invariant (P := fun _ _ f => f.Sound) hsound
    fun _ _ _ _ _ _ _ hkept _ hstep => hkept.change (change_of_step hstep)

theorem Run.names_eq (h : Run allowed f actions trace f') : f'.names = f.names :=
  h.invariant (P := fun _ _ f' => f'.names = f.names) rfl
    fun _ _ _ _ _ _ _ hnames _ hstep => (change_of_step hstep).names_eq.trans hnames

theorem Run.copies_le (h : Run allowed f actions trace f') (hnames : f.names.Nodup)
    (hsound : f.Sound) (body : String) :
    f.copies body + published trace body ≤ f'.copies body + removed trace body := by
  refine h.invariant
    (P := fun _ trace f' => f.copies body + published trace body ≤
      f'.copies body + removed trace body)
    (Nat.le_refl _) fun _ _ _ _ _ _ hrun ih _ hstep => ?_
  obtain ⟨spare, hbalance, -⟩ :=
    (change_of_step hstep).balance (hrun.names_eq ▸ hnames) (hrun.sound hsound) body
  rw [published_append, removed_append]
  omega

/-! ### Open deliveries -/

/-- Consumers hold just the entries of their open deliveries. -/
def Tracked (f : Crowd) : Prop :=
  ∀ name ∈ f.names, ∀ raw, (f.shelves.held name).count raw = f.opened.count (name, raw)

theorem pair_beq (name raw raw' : String) : ((name, raw) == (name, raw')) = (raw == raw') := by
  rw [Bool.eq_iff_iff, beq_iff_eq, beq_iff_eq, Prod.mk.injEq, and_iff_right rfl]

theorem pair_ne {name other : String} (h : other ≠ name) (raw raw' : String) :
    (name, raw) ≠ (other, raw') := fun heq => h (congrArg Prod.fst heq).symm

theorem Careful.answered {i : Nat} {fate : Fate} (h : Careful f (.send i fate))
    (hfate : fate ≠ .refused) : fate = .answered := by
  cases fate with
  | answered => rfl
  | lost => exact absurd rfl h.1
  | refused => exact absurd rfl hfate

/-- The lists of the other consumers stay what they are. -/
theorem tracked_update {names : List String} {held : String → List String}
    {opened opened' : List (String × String)} {name : String} {items : List String}
    (h : ∀ other ∈ names, ∀ raw, (held other).count raw = opened.count (other, raw))
    (hitems : ∀ raw, items.count raw = opened'.count (name, raw))
    (hothers : ∀ other ≠ name, ∀ raw, opened'.count (other, raw) = opened.count (other, raw)) :
    ∀ other ∈ names, ∀ raw,
      (Function.update held name items other).count raw = opened'.count (other, raw) := by
  intro other hother raw
  by_cases hname : other = name
  · subst hname
    rw [Function.update_self, hitems]
  · rw [Function.update_of_ne hname, h other hother, hothers other hname]

/-- An open delivery is closed when its entry leaves the list of its consumer. -/
theorem tracked_erase {names : List String} {held : String → List String}
    {opened : List (String × String)} {name raw : String} {items : List String}
    (h : ∀ other ∈ names, ∀ raw, (held other).count raw = opened.count (other, raw))
    (hname : name ∈ names)
    (hitems : ∀ raw', items.count raw' = ((held name).erase raw).count raw') :
    ∀ other ∈ names, ∀ raw',
      (Function.update held name items other).count raw' =
        (opened.erase (name, raw)).count (other, raw') := by
  apply tracked_update h
  · intro raw'
    rw [hitems, List.count_erase, List.count_erase, h name hname, pair_beq]
  · intro other hne raw'
    exact List.count_erase_of_ne (pair_ne hne raw raw').symm

theorem Tracked.change (h : f.Tracked) (hsound : f.Sound) (hchange : Change f a es f')
    (hcareful : Careful f a) : f'.Tracked := by
  cases hchange with
  | called => exact h
  | refused => exact h
  | @served i fate name op store reply hfate hcall heffect =>
    obtain ⟨-, hname⟩ := hsound _ _ (List.mem_of_getElem? hcall)
    obtain rfl := hcareful.answered hfate
    show ∀ other ∈ f.names, ∀ raw', ((store.shelves f.queue).held other).count raw' = _
    generalize store.shelves f.queue = v' at heffect
    cases heffect with
    | published => exact h
    | @received _ raw _ hready =>
      apply tracked_update h
      · intro raw'
        show _ = (f.opened ++ [(name, raw)]).count (name, raw')
        rw [List.count_cons, List.count_append, List.count_singleton, h name (hname rfl), pair_beq]
      · intro other hne raw'
        show (f.opened ++ [(name, raw)]).count (other, raw') = _
        rw [List.count_append, List.count_singleton, beq_false_of_ne (pair_ne hne raw raw')]
        rfl
    | missed => exact h
    | acknowledged => exact tracked_erase h (hname rfl) fun _ => rfl
    | replaced => exact tracked_erase h (hname rfl) fun _ => rfl
    | returned hheld =>
      apply tracked_erase h (hname rfl)
      intro raw'
      rw [hheld, List.count_erase, List.count_append, List.count_singleton]
      omega
    | emptied => exact h
    | looked hop => rcases hop with rfl | rfl | rfl <;> exact h

theorem Run.tracked (h : Run Careful f actions trace f') (hsound : f.Sound)
    (htracked : f.Tracked) : f'.Tracked :=
  h.invariant (P := fun _ _ f => f.Tracked) htracked
    fun _ _ _ _ _ _ hrun hkept hcareful hstep =>
      hkept.change (hrun.sound hsound) (change_of_step hstep) hcareful

theorem Tracked.holds (h : f.Tracked) (hsound : f.Sound) (hcareful : Careful f a) :
    f.Holds a := by
  cases a with
  | call => trivial
  | send i fate =>
    intro hfate name op hcall raw hraw
    have hopened := hcareful.2 (hcareful.answered hfate) _ hcall op rfl raw hraw
    have hconsuming : op.isConsuming = true := by
      cases op <;> first | rfl | cases hraw
    have hname := (hsound _ _ (List.mem_of_getElem? hcall)).2 hconsuming
    rw [← List.count_pos_iff, h name hname]
    exact List.count_pos_iff.mpr hopened

theorem Run.copies_eq (h : Run Careful f actions trace f') (hnames : f.names.Nodup)
    (hsound : f.Sound) (htracked : f.Tracked) (body : String) :
    f.copies body + published trace body = f'.copies body + removed trace body := by
  refine h.invariant
    (P := fun _ trace f' => f.copies body + published trace body =
      f'.copies body + removed trace body)
    rfl fun _ _ _ _ _ _ hrun ih hcareful hstep => ?_
  have hsound' := hrun.sound hsound
  obtain ⟨spare, hbalance, hspare⟩ :=
    (change_of_step hstep).balance (hrun.names_eq ▸ hnames) hsound' body
  have hzero := hspare ((hrun.tracked hsound htracked).holds hsound' hcareful)
  rw [published_append, removed_append]
  omega

end Crowd

end DetectionJobs.Queue
