/-
  DetectionJobs/Proofs/Crowd/Changes.lean
  =======================================
  **What a step of a crowd can do.**

  A request has one of eight effects on the lists of the queue.  A step is a call that
  begins, a request that is refused, or one that is carried out; whichever it is, the calls
  under way stay sound: what they write in place of an entry has the body of the entry, and
  only consumers change what they hold.
-/
import DetectionJobs.Proofs.Crowd.Basic

namespace DetectionJobs.Queue

/-! ### The effect of a request -/

/-- What the request of a consumer did to the lists, and what was replied. -/
inductive Effect (v : Shelves) (name : String) : Remote → Reply → Shelves → Prop where
  | published {raw : String} {n : Nat} :
      Effect v name (.publish raw) (.count n) { v with ready := raw :: v.ready }
  | received {seconds raw : String} {items : List String} (hready : v.ready = items ++ [raw]) :
      Effect v name (.receive seconds) (.item (some raw))
        ⟨items, v.dead, Function.update v.held name (raw :: v.held name)⟩
  | missed {seconds : String} (hready : v.ready = []) :
      Effect v name (.receive seconds) (.item none) v
  | acknowledged {raw : String} :
      Effect v name (.acknowledge raw) (.count (if raw ∈ v.held name then 1 else 0))
        { v with held := Function.update v.held name ((v.held name).erase raw) }
  | replaced {raw next : String} {isDead : Bool} {reply : Reply} :
      Effect v name (.replace raw next isDead) reply
        ⟨if isDead then v.ready else next :: v.ready, if isDead then next :: v.dead else v.dead,
          Function.update v.held name ((v.held name).erase raw)⟩
  | returned {count : Nat} {raw : String} {items : List String}
      (hheld : v.held name = items ++ [raw]) :
      Effect v name (.recover count) (.item (some raw))
        ⟨v.ready ++ [raw], v.dead, Function.update v.held name items⟩
  | emptied {count : Nat} (hheld : v.held name = []) :
      Effect v name (.recover count) (.item none) v
  | looked {op : Remote} {reply : Reply} (hop : op = .depth ∨ op = .deadDepth ∨ op = .ping) :
      Effect v name op reply v

theorem effect_of_serve {s s' : ListStore} {queue name : String} {op : Remote} {reply : Reply}
    (h : s.serve (op.request (.ofNames queue name)) = (s', reply)) :
    Effect (s.shelves queue) name op reply (s'.shelves queue) := by
  cases op with
  | publish raw =>
    have hshelves := s.shelves_publish queue name raw
    rw [h] at hshelves
    rw [hshelves]
    cases h
    exact .published
  | receive seconds =>
    rcases (s.shelves queue).ready.eq_nil_or_concat with hnil | ⟨items, raw, hconcat⟩
    · rw [s.serve_receive_nil queue name seconds hnil] at h
      cases h
      exact .missed hnil
    · rw [List.concat_eq_append] at hconcat
      obtain ⟨s'', hserve, hshelves⟩ := s.serve_receive_concat queue name seconds hconcat
      rw [hserve] at h
      cases h
      rw [hshelves]
      exact .received hconcat
  | acknowledge raw =>
    obtain ⟨s'', hserve, hshelves⟩ := s.serve_acknowledge queue name raw
    rw [hserve] at h
    cases h
    rw [hshelves]
    exact .acknowledged
  | replace raw next isDead =>
    have hshelves := s.shelves_replace queue name raw next isDead
    rw [h] at hshelves
    rw [hshelves]
    exact .replaced
  | recover count =>
    rcases ((s.shelves queue).held name).eq_nil_or_concat with hnil | ⟨items, raw, hconcat⟩
    · rw [s.serve_recover_nil queue name count hnil] at h
      cases h
      exact .emptied hnil
    · rw [List.concat_eq_append] at hconcat
      obtain ⟨s'', hserve, hshelves⟩ := s.serve_recover_concat queue name count hconcat
      rw [hserve] at h
      cases h
      rw [hshelves]
      exact .returned hconcat
  | depth => cases h; exact .looked (.inl rfl)
  | deadDepth => cases h; exact .looked (.inr (.inl rfl))
  | ping => cases h; exact .looked (.inr (.inr rfl))

/-! ### Changes -/

namespace Remote

/-- Only a recovery has more than one request. -/
theorem recover_of_next {op op' : Remote} {reply : Reply} (h : op.next reply = .inr op') :
    ∃ n raw, op = .recover n ∧ reply = .item (some raw) ∧ op' = .recover (n + 1) := by
  cases op with
  | recover n =>
    cases reply with
    | item v =>
      cases v with
      | none => simp [next] at h
      | some raw => exact ⟨n, raw, rfl, rfl, (Sum.inr.inj h).symm⟩
    | _ => simp [next] at h
  | _ => cases reply <;> simp [next] at h

end Remote

theorem Order.isConsuming_of_start {o : Order} {now : Instant} {op : Remote}
    (h : o.start now = .ok op) : op.isConsuming = o.isConsuming := by
  cases o with
  | publish jobId imageUrl =>
    obtain ⟨raw, rfl⟩ := publish_of_start h
    rfl
  | settle raw s =>
    cases h
    cases s <;> rfl
  | _ => cases h; rfl

namespace Crowd

variable {f f' : Crowd} {a : Action} {es : List Event}

inductive Change (f : Crowd) : Action → List Event → Crowd → Prop where
  | called {name : String} {order : Order} {now : Instant} {stage : Stage} (hnow : now.IsClock)
      (hname : order.isConsuming = true → name ∈ f.names)
      (hstage : ∀ op, stage = .running op → order.start now = .ok op) :
      Change f (.call name order now) [] { f with calls := f.calls ++ [⟨name, stage⟩] }
  | refused {i : Nat} {name : String} {op : Remote}
      (hcall : f.calls[i]? = some ⟨name, .running op⟩) :
      Change f (.send i .refused) [] { f with calls := f.calls.set i ⟨name, .failed⟩ }
  | served {i : Nat} {fate : Fate} {name : String} {op : Remote} {store : ListStore} {reply : Reply}
      (hfate : fate ≠ .refused) (hcall : f.calls[i]? = some ⟨name, .running op⟩)
      (heffect : Effect f.shelves name op reply (store.shelves f.queue)) :
      Change f (.send i fate) (report name op reply)
        { f with
          store := store
          calls := f.calls.set i ⟨name, .after fate (op.next reply)⟩
          opened := openAfter fate name f.opened op reply }

theorem Call.eq_of_op? {c : Call} {op : Remote} (h : c.op? = some op) :
    c = ⟨c.name, .running op⟩ := by
  obtain ⟨name, stage⟩ := c
  cases stage <;> simp only [Call.op?, Option.some.injEq, reduceCtorEq] at h
  rw [h]

theorem change_of_step (h : f.step? a = some (f', es)) : Change f a es f' := by
  cases a with
  | call name order now =>
    rw [step?, Option.ite_none_right_eq_some] at h
    obtain ⟨⟨hnow, hname⟩, h⟩ := h
    cases h
    refine .called hnow hname ?_
    intro op hop
    cases hstart : order.start now with
    | error _ => simp [hstart] at hop
    | ok op' =>
      rw [hstart] at hop
      cases hop
      rfl
  | send i fate =>
    obtain ⟨c, hcall, h⟩ := Option.bind_eq_some_iff.mp h
    obtain ⟨op, hop, h⟩ := Option.bind_eq_some_iff.mp h
    have hc := hcall.trans (congrArg some (Call.eq_of_op? hop))
    by_cases hfate : fate = .refused
    · rw [if_pos hfate] at h
      cases h
      rw [hfate]
      exact .refused hc
    · rw [if_neg hfate] at h
      cases h
      exact .served hfate hc (effect_of_serve rfl)

theorem Change.names_eq (h : Change f a es f') : f'.names = f.names := by cases h <;> rfl

/-! ### Calls stay sound -/

/-- What the calls under way may do. -/
def Sound (f : Crowd) : Prop :=
  ∀ name op, ⟨name, .running op⟩ ∈ f.calls →
    op.KeepsBody ∧ (op.isConsuming = true → name ∈ f.names)

theorem Sound.change (h : f.Sound) (hchange : Change f a es f') : f'.Sound := by
  intro name op hmem
  cases hchange with
  | called hnow hname hstage =>
    rcases List.mem_append.mp hmem with hmem | hmem
    · exact h name op hmem
    · cases List.mem_singleton.mp hmem
      have hstart := hstage op rfl
      refine ⟨Order.keepsBody_of_start hnow hstart, ?_⟩
      rw [Order.isConsuming_of_start hstart]
      exact hname
  | refused hcall =>
    rcases List.mem_or_eq_of_mem_set hmem with hmem | heq
    · exact h name op hmem
    · cases heq
  | @served i fate who op' store reply hfate hcall heffect =>
    rcases List.mem_or_eq_of_mem_set hmem with hmem | heq
    · exact h name op hmem
    -- the call goes on only as a recovery
    · simp only [Call.mk.injEq] at heq
      obtain ⟨rfl, hstage⟩ := heq
      cases hnext : op'.next reply with
      | inl a => rw [hnext, Stage.after] at hstage; split at hstage <;> cases hstage
      | inr next =>
        obtain ⟨n, raw, rfl, rfl, rfl⟩ := Remote.recover_of_next hnext
        rw [hnext, Stage.after] at hstage
        split at hstage <;> cases hstage
        exact ⟨trivial, (h name _ (List.mem_of_getElem? hcall)).2⟩

theorem sound_opening (queue : String) (names : List String) (store : ListStore) :
    (opening queue names store).Sound := by
  intro name op hmem
  cases hmem

end Crowd

end DetectionJobs.Queue
