/-
  DetectionJobs/Proofs/Crowd/Recovery.lean
  ========================================
  **A recovery puts back what its consumer holds, and the queue is safe.**

  A recovery sends one request for every entry that its consumer holds and one that finds
  none.  Whatever others do in between, it puts back these entries and no other, the one
  received first before the others, and answers their number.
-/
import DetectionJobs.Proofs.Crowd.Balance

namespace DetectionJobs.Queue

section Effects

variable {v v' : Shelves} {name who : String} {op : Remote} {reply : Reply}

/-- What a consumer holds is changed by its own operations only. -/
theorem Effect.held_eq (h : Effect v name op reply v')
    (hne : op.isConsuming = true → name ≠ who) : v'.held who = v.held who := by
  cases h with
  | received => exact Function.update_of_ne (hne rfl).symm ..
  | acknowledged => exact Function.update_of_ne (hne rfl).symm ..
  | replaced => exact Function.update_of_ne (hne rfl).symm ..
  | returned => exact Function.update_of_ne (hne rfl).symm ..
  | _ => rfl

theorem putBack_report (h : Effect v name op reply v')
    (hne : op.isConsuming = true → name ≠ who) :
    Crowd.putBack who (Crowd.report name op reply) = [] := by
  cases h with
  | returned => exact congrArg Option.toList (if_neg (hne rfl))
  | @acknowledged raw => by_cases hmem : raw ∈ v.held name <;> simp only [hmem] <;> rfl
  | looked hop => rcases hop with rfl | rfl | rfl <;> rfl
  | _ => rfl

end Effects

namespace Crowd

variable {f f' : Crowd} {a : Action} {es : List Event} {actions : List Action}
  {trace : List Event} {i : Nat} {name : String} {items : List String}

theorem putBack_append (who : String) (es es' : List Event) :
    putBack who (es ++ es') = putBack who es ++ putBack who es' := List.filterMap_append

theorem turns_append (i : Nat) (actions actions' : List Action) :
    turns i (actions ++ actions') = turns i actions + turns i actions' := List.countP_append

theorem turns_send (i j : Nat) (fate : Fate) :
    turns i [.send j fate] = if j = i then 1 else 0 := by
  simp only [turns, List.countP_singleton, decide_eq_true_eq]

/-- What is told to be put back left the list of its consumer for the tail of those that
    wait, and no other list changed. -/
theorem Change.returned {entry : String} (h : Change f a es f')
    (hmem : .returned name entry ∈ es) :
    ∃ items, f.shelves.held name = items ++ [entry] ∧
      f'.shelves = ⟨f.shelves.ready ++ [entry], f.shelves.dead,
        Function.update f.shelves.held name items⟩ := by
  cases h with
  | called => cases hmem
  | refused => cases hmem
  | @served _ _ who op store reply _ _ heffect =>
    show ∃ items, _ ∧ store.shelves f.queue = _
    generalize store.shelves f.queue = v' at heffect
    cases heffect with
    | returned hheld =>
      cases List.mem_singleton.mp hmem
      exact ⟨_, hheld, rfl⟩
    | published => cases List.mem_singleton.mp hmem
    | @acknowledged raw =>
      by_cases hraw : raw ∈ f.shelves.held who
      · rw [if_pos hraw] at hmem
        cases List.mem_singleton.mp hmem
      · rw [if_neg hraw] at hmem
        cases hmem
    | looked hop => rcases hop with rfl | rfl | rfl <;> cases hmem
    | _ => cases hmem

/-! ### The course of a recovery -/

/-- How far a recovery of some entries has come: the requests that it sent, its stage, what its
    consumer still holds, and what was put back. -/
inductive Progress (items : List String) : Nat → Stage → List String → List String → Prop where
  | underway {left taken : List String} (hitems : items = left ++ taken) :
      Progress items taken.length (.running (.recover taken.length)) left taken.reverse
  | ended : Progress items (items.length + 1) (.answered (.count items.length)) [] items.reverse

/-- The next request puts one more entry back, or finds that there is none. -/
theorem Progress.served {v v' : Shelves} {sent : Nat} {op : Remote} {reply : Reply}
    {back : List String} (h : Progress items sent (.running op) (v.held name) back)
    (heffect : Effect v name op reply v') :
    Progress items (sent + 1) (.after .answered (op.next reply)) (v'.held name)
      (back ++ putBack name (report name op reply)) := by
  generalize hheld : v.held name = held at h
  cases h with
  | @underway _ taken hitems =>
    cases heffect with
    | @returned _ raw left hleft =>
      have hback : putBack name (report name (.recover taken.length) (.item (some raw))) = [raw] :=
        congrArg Option.toList (if_pos rfl)
      show Progress items (raw :: taken).length _ (Function.update v.held name left name) _
      rw [hback, Function.update_self, ← List.reverse_cons]
      apply Progress.underway
      rw [hitems, ← hheld, hleft, List.append_assoc, List.singleton_append]
    | emptied hempty =>
      rw [← hheld, hempty, List.nil_append] at hitems
      rw [← hitems, hempty]
      show Progress items _ _ _ (items.reverse ++ [])
      rw [List.append_nil]
      exact .ended
    | looked hop => rcases hop with h | h | h <;> cases h

/-- A recovery that sent no more requests than there were entries goes on; with one more it
    has ended. -/
theorem Progress.course {sent : Nat} {stage : Stage} {held back : List String}
    (h : Progress items sent stage held back) :
    (sent ≤ items.length →
      stage = .running (.recover sent) ∧ back.length = sent ∧ items = held ++ back.reverse) ∧
    (items.length < sent → sent = items.length + 1 ∧ stage = .answered (.count items.length) ∧
      back = items.reverse ∧ held = []) := by
  cases h with
  | underway hitems =>
    constructor
    · intro _
      rw [List.length_reverse, List.reverse_reverse]
      exact ⟨rfl, rfl, hitems⟩
    · intro hlt
      rw [hitems, List.length_append] at hlt
      omega
  | ended =>
    constructor
    · intro hle
      omega
    · intro _
      exact ⟨rfl, rfl, rfl, rfl⟩

/-- The course of the recovery at a place, after a run. -/
def Recovers (i : Nat) (name : String) (items : List String) (actions : List Action)
    (trace : List Event) (f : Crowd) : Prop :=
  ∃ stage, f.calls[i]? = some ⟨name, stage⟩ ∧
    Progress items (turns i actions) stage (f.shelves.held name) (putBack name trace)

/-- Whatever else is done leaves the recovery where it is. -/
theorem Recovers.of_same (h : Recovers i name items actions trace f)
    (hcall : f'.calls[i]? = f.calls[i]?) (hheld : f'.shelves.held name = f.shelves.held name)
    (hturns : turns i [a] = 0) (hback : putBack name es = []) :
    Recovers i name items (actions ++ [a]) (trace ++ es) f' := by
  obtain ⟨stage, hstage, hprogress⟩ := h
  refine ⟨stage, hcall.trans hstage, ?_⟩
  rw [turns_append, hturns, hheld, putBack_append, hback, List.append_nil]
  exact hprogress

theorem Recovers.change (h : Recovers i name items actions trace f) (hchange : Change f a es f')
    (hallowed : Undisturbed i name f a) :
    Recovers i name items (actions ++ [a]) (trace ++ es) f' := by
  cases hchange with
  | called =>
    obtain ⟨stage, hstage, hprogress⟩ := h
    have hplace := (List.getElem?_eq_some_iff.mp hstage).1
    exact Recovers.of_same ⟨stage, hstage, hprogress⟩ (List.getElem?_append_left hplace) rfl rfl rfl
  | @refused j who op hcall =>
    have hne : j ≠ i := by
      rintro rfl
      rw [Undisturbed, if_pos rfl] at hallowed
      cases hallowed
    refine h.of_same (List.getElem?_set_ne hne) rfl ?_ rfl
    rw [turns_send, if_neg hne]
  | @served j fate who op store reply hfate hcall heffect =>
    by_cases hne : j = i
    · subst hne
      rw [Undisturbed, if_pos rfl] at hallowed
      subst hallowed
      obtain ⟨stage, hstage, hprogress⟩ := h
      rw [hcall] at hstage
      cases hstage
      refine ⟨_, List.getElem?_set_self (List.getElem?_eq_some_iff.mp hcall).1, ?_⟩
      rw [turns_append, turns_send, if_pos rfl, putBack_append]
      exact hprogress.served heffect
    · rw [Undisturbed, if_neg hne] at hallowed
      have hother := hallowed _ hcall op rfl
      refine h.of_same (List.getElem?_set_ne hne) (heffect.held_eq hother) ?_
        (putBack_report heffect hother)
      rw [turns_send, if_neg hne]

/-- Whatever is done in between, the recovery takes its course. -/
theorem Run.recovers (h : Run (Undisturbed i name) f actions trace f')
    (hcall : f.calls[i]? = some ⟨name, .running (.recover 0)⟩) :
    Recovers i name (f.shelves.held name) actions trace f' := by
  have hstart : Progress (f.shelves.held name) ([] : List String).length _
      (f.shelves.held name) [].reverse := .underway (List.append_nil _).symm
  exact h.invariant (P := Recovers i name (f.shelves.held name)) ⟨_, hcall, hstart⟩
    fun _ _ _ _ _ _ _ ih hallowed hstep => ih.change (change_of_step hstep) hallowed

theorem step?_send_isSome {op : Remote} (h : f.calls[i]? = some ⟨name, .running op⟩) :
    (f.step? (.send i .answered)).isSome := by
  rw [step?, h]
  rfl

/-! ### The queue is safe -/

theorem copies_of_empty {v : Shelves} {names : List String} (h : v.entries names = [])
    (body : String) : v.copies names body = 0 := by
  rw [Shelves.copies, h]
  rfl

theorem tracked_opening {queue : String} {names : List String} {store : ListStore}
    (h : (store.shelves queue).entries names = []) : (opening queue names store).Tracked := by
  intro who hwho raw
  have hheld : (store.shelves queue).held who = [] := by
    rw [Shelves.entries, List.append_eq_nil_iff, List.flatMap_eq_nil_iff] at h
    exact h.2 who hwho
  show ((store.shelves queue).held who).count raw = 0
  rw [hheld, List.count_nil]

/-- **The queue is safe with competing consumers.**  From an empty queue on, and whatever
    fails, the entries with a body are never fewer than those that were published less those
    that acknowledgements removed.  They are just as many as long as no reply is lost and only
    open deliveries are requeued or dead-lettered.  A recovery ends, and puts back just what its
    consumer holds; the others lose nothing by it. -/
theorem competing_consumers_safe {queue : String} {names : List String} {store : ListStore}
    (hnames : names.Nodup) (hempty : (store.shelves queue).entries names = []) :
    (∀ {actions trace f}, Run Anything (opening queue names store) actions trace f →
      ∀ body, published trace body ≤ f.copies body + removed trace body) ∧
    (∀ {actions trace f}, Run Careful (opening queue names store) actions trace f →
      ∀ body, published trace body = f.copies body + removed trace body) ∧
    (∀ {f f' : Crowd} {i name actions trace},
      f.calls[i]? = some ⟨name, .running (.recover 0)⟩ →
      Run (Undisturbed i name) f actions trace f' →
      let items := f.shelves.held name
      let sent := turns i actions
      (sent ≤ items.length →
        f'.calls[i]? = some ⟨name, .running (.recover sent)⟩ ∧
        (f'.step? (.send i .answered)).isSome ∧
        (putBack name trace).length = sent ∧
        items = f'.shelves.held name ++ (putBack name trace).reverse) ∧
      (items.length < sent →
        sent = items.length + 1 ∧
        f'.calls[i]? = some ⟨name, .answered (.count items.length)⟩ ∧
        putBack name trace = items.reverse ∧ f'.shelves.held name = [])) ∧
    (∀ {f f' : Crowd} {a es name entry}, f.step? a = some (f', es) →
      .returned name entry ∈ es →
      ∃ items, f.shelves.held name = items ++ [entry] ∧
        f'.shelves = ⟨f.shelves.ready ++ [entry], f.shelves.dead,
          Function.update f.shelves.held name items⟩) ∧
    (∀ (s : ListStore) (name : String), ∃ s',
      (Remote.recover 0).perform (.ofNames queue name) (.ok s) =
        .ok (s', .count ((s.shelves queue).held name).length) ∧
      s'.shelves queue = ⟨(s.shelves queue).ready ++ ((s.shelves queue).held name).reverse,
        (s.shelves queue).dead, Function.update (s.shelves queue).held name []⟩) := by
  have hsound := sound_opening queue names store
  have hzero := copies_of_empty hempty
  refine ⟨?_, ?_, ?_, ?_, fun s name => s.perform_recover queue name⟩
  · intro actions trace f hrun body
    have hbalance := hrun.copies_le hnames hsound body
    rwa [copies, opening, shelves, hzero, Nat.zero_add] at hbalance
  · intro actions trace f hrun body
    have hbalance := hrun.copies_eq hnames hsound (tracked_opening hempty) body
    rwa [copies, opening, shelves, hzero, Nat.zero_add] at hbalance
  · intro f f' i name actions trace hcall hrun items sent
    obtain ⟨stage, hstage, hprogress⟩ := hrun.recovers hcall
    obtain ⟨hunderway, hended⟩ := hprogress.course
    constructor
    · intro hle
      obtain ⟨rfl, hlength, hitems⟩ := hunderway hle
      exact ⟨hstage, step?_send_isSome hstage, hlength, hitems⟩
    · intro hlt
      obtain ⟨hsent, rfl, hback⟩ := hended hlt
      exact ⟨hsent, hstage, hback⟩
  · intro f f' a es name entry hstep hmem
    exact (change_of_step hstep).returned hmem

/-! ### Two consumers -/

def noon : Instant := ⟨⟨2024, 6, 1⟩, 43200, 0⟩

def entry : String := (Envelope.wrap ⟨"job-1", "https://x/a.png"⟩ noon).raw

def pair : Crowd := opening "jobs" ["w1", "w2"] .empty

/-- One of them receives an entry, but never learns of it, and is about to recover. -/
def losing : List Action :=
  [.call "api" (.publish "job-1" "https://x/a.png") noon, .send 0 .answered,
    .call "w1" (.receive "5") noon, .send 1 .lost, .call "w1" .recover noon]

/-- It recovers while the other one receives the entry and settles it. -/
def recovering : List Action :=
  [.send 2 .answered, .call "w2" (.receive "5") noon, .send 3 .answered, .send 2 .answered]

/-- An entry is received, requeued and received again. -/
def retrying : List Action :=
  [.call "api" (.publish "job-1" "https://x/a.png") noon, .send 0 .answered,
    .call "w1" (.receive "5") noon, .send 1 .answered,
    .call "w1" (.settle entry (.requeue "timeout")) noon, .send 2 .answered,
    .call "w2" (.receive "5") noon, .send 3 .answered]

theorem competing_consumers_safe_for_two :
    ∃ f trace f' trace' f'' trace'', pair.replay? Anything losing = some (f, losing, trace) ∧
      f.replay? (Undisturbed 2 "w1") recovering = some (f', recovering, trace') ∧
      pair.replay? Careful retrying = some (f'', retrying, trace'') ∧
      (published trace (bodyOf entry) = 1 ∧
        published trace (bodyOf entry) ≤
          f.copies (bodyOf entry) + removed trace (bodyOf entry)) ∧
      (published trace'' (bodyOf entry) = 1 ∧
        published trace'' (bodyOf entry) =
          f''.copies (bodyOf entry) + removed trace'' (bodyOf entry)) ∧
      f'.calls[2]? = some ⟨"w1", .answered (.count 1)⟩ ∧ putBack "w1" trace' = [entry] ∧
      f'.shelves.held "w2" = [entry] := by
  have hstates : (do
      let first ← pair.replay? Anything losing
      let second ← first.1.replay? (Undisturbed 2 "w1") recovering
      let third ← pair.replay? Careful retrying
      some ((published first.2.2 (bodyOf entry), published third.2.2 (bodyOf entry)),
        first.1.calls[2]?, first.1.shelves.held "w1", second.1.shelves.held "w2")) =
      some ((1, 1), some ⟨"w1", .running (.recover 0)⟩, [entry], [entry]) := by decide +kernel
  obtain ⟨⟨f, sent, trace⟩, hfirst, hstates⟩ := Option.bind_eq_some_iff.mp hstates
  obtain ⟨⟨f', sent', trace'⟩, hsecond, hstates⟩ := Option.bind_eq_some_iff.mp hstates
  obtain ⟨⟨f'', sent'', trace''⟩, hthird, hstates⟩ := Option.bind_eq_some_iff.mp hstates
  obtain rfl : sent = losing := actions_of_replay hfirst
  obtain rfl : sent' = recovering := actions_of_replay hsecond
  obtain rfl : sent'' = retrying := actions_of_replay hthird
  simp only [Option.some.injEq, Prod.mk.injEq] at hstates
  obtain ⟨⟨hpublished, hpublished''⟩, hcall, hheld, hheld'⟩ := hstates
  have hnames : ["w1", "w2"].Nodup := by decide
  have hempty : (ListStore.empty.shelves "jobs").entries ["w1", "w2"] = [] := rfl
  obtain ⟨hnever, hcareful, hcourse, -⟩ := competing_consumers_safe hnames hempty
  -- two requests, where one entry was held
  obtain ⟨-, hanswered, hback, -⟩ := (hcourse hcall (Machine.run_of_replay hsecond)).2 (by
    rw [hheld]
    decide)
  rw [hheld] at hanswered hback
  exact ⟨f, trace, f', trace', f'', trace'', hfirst, hsecond, hthird,
    ⟨hpublished, hnever (Machine.run_of_replay hfirst) _⟩,
    ⟨hpublished'', hcareful (Machine.run_of_replay hthird) _⟩, hanswered, hback, hheld'⟩

end Crowd

end DetectionJobs.Queue
