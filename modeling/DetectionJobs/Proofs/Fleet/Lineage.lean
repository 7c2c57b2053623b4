/-
  DetectionJobs/Proofs/Fleet/Lineage.lean
  =======================================
  **What becomes of the entry of a published message.**

  A settlement other than an acknowledgement writes a new entry for the one that it takes
  away.  All entries stem in this way from entries that were pushed.  Those that stem from a
  published message are still its envelope: they name its job, carry it unchanged, and count
  the settlements on the way from the first one.
-/
import DetectionJobs.Proofs.Fleet.Attempts

namespace DetectionJobs

namespace Queue.Broker

def Holds (b : Broker) (entry : String) : Prop :=
  entry ∈ b.ready ∨ entry ∈ b.inFlight ∨ entry ∈ b.dead

theorem Same.holds {b b' : Broker} (h : b.Same b') (entry : String) :
    b'.Holds entry ↔ b.Holds entry := by
  rw [Holds, Holds, h.ready, h.inFlight, h.dead]

theorem holds_settle {b : Broker} {raw entry : String} {now : Instant} {s : Settlement}
    (h : (b.settle (.ofRaw raw) now s).Holds entry) :
    b.Holds entry ∨ ∃ reason, s.reason? = some reason ∧ entry = retriedRaw raw reason now := by
  rcases h with hready | hheld | hdead
  · rcases mem_ready_settle hready with hold | ⟨reason, rfl, rfl⟩
    · exact Or.inl (Or.inl hold)
    · exact Or.inr ⟨reason, rfl, rfl⟩
  · have hmem := (b.inFlight_settle raw now s).mem_iff.mp hheld
    exact Or.inl (Or.inr (Or.inl (List.mem_of_mem_erase hmem)))
  · cases s with
    | ack =>
      obtain ⟨held, _, heq⟩ := b.settle_ack raw now
      rw [heq] at hdead
      exact Or.inl (Or.inr (Or.inr hdead))
    | requeue reason =>
      obtain ⟨held, _, heq⟩ := b.settle_requeue raw reason now
      rw [heq] at hdead
      exact Or.inl (Or.inr (Or.inr hdead))
    | deadLetter reason =>
      obtain ⟨held, _, heq⟩ := b.settle_deadLetter raw reason now
      rw [heq] at hdead
      rcases List.mem_append.mp hdead with hold | hnew
      · exact Or.inl (Or.inr (Or.inr hold))
      · exact Or.inr ⟨reason, rfl, List.mem_singleton.mp hnew⟩

end Queue.Broker

namespace Fleet

open Worker

variable {allowed : Fleet → Action → Prop} {f f' g g' : Fleet} {a : Action} {es : List Event}
  {past past' : Past} {original old new entry jobId imageUrl : String} {k limit : Nat}
  {r : Repository} {metrics : Metrics}

/-! ### Descent -/

/-- The entry stands in place of the original one, after so many settlements. -/
inductive Descends (past : Past) (original : String) : Nat → String → Prop where
  | original : Descends past original 0 original
  | rewritten {k : Nat} {old new : String} {g : Fleet} {a : Action} :
      Descends past original k old → (g, a) ∈ past → g.rewritten? a = some (old, new) →
      Descends past original (k + 1) new

theorem Descends.mono (h : Descends past original k entry) (hpast : past ⊆ past') :
    Descends past' original k entry := by
  induction h with
  | original => exact .original
  | rewritten _ hmem hrewritten ih => exact ih.rewritten (hpast hmem) hrewritten

/-- The entry stems from one that was pushed. -/
def Stems (past : Past) (entry : String) : Prop :=
  ∃ g a g' es original k, (g, a) ∈ past ∧ g.step? a = some (g', es) ∧
    Event.pushed original ∈ es ∧ Descends past original k entry

theorem Stems.mono (h : Stems past entry) (hpast : past ⊆ past') : Stems past' entry := by
  obtain ⟨g, a, g', es, original, k, hmem, hstep, hpushed, hdescends⟩ := h
  exact ⟨g, a, g', es, original, k, hpast hmem, hstep, hpushed, hdescends.mono hpast⟩

/-- All entries stem from such, in the queue as well as in the hands of the tasks. -/
structure Stemming (past : Past) (f : Fleet) : Prop where
  orderly : Orderly f
  unfinished : Unfinished f
  queue : ∀ entry, f.broker.Holds entry → Stems past entry
  task : ∀ who t, f.Live who t → Stems past t.delivery.raw

theorem rewritten_of_settlement? {s : Settled} {reason : String}
    (hsettles : f.settlement? a = some s) (hreason : s.settlement.reason? = some reason) :
    f.rewritten? a =
      some (s.delivery.raw, ((s.delivery.envelope s.now).retried reason s.now).raw) := by
  rw [rewritten?, hsettles, Option.bind_eq_bind, Option.bind_some, hreason]
  rfl

theorem Stemming.queue_of_step (h : Stemming past f) (hstep : f.step? a = some (f', es))
    (hentry : f'.broker.Holds entry) : Stems (past ++ [(f, a)]) entry := by
  have hold : ∀ e, f.broker.Holds e → Stems (past ++ [(f, a)]) e := fun e he =>
    (h.queue e he).mono (List.subset_append_left past _)
  have hlast : (f, a) ∈ past ++ [(f, a)] := List.mem_append_right past (List.mem_singleton_self _)
  cases traffic_of_step h.unfinished hstep with
  | still hlists => exact hold entry ((hlists.holds entry).mp hentry)
  | @pushed raw hpushed hlists =>
    rcases (hlists.holds entry).mp hentry with hready | hheld | hdead
    · rcases List.mem_append.mp hready with hready | hnew
      · exact hold entry (Or.inl hready)
      · obtain rfl := List.mem_singleton.mp hnew
        exact ⟨f, a, f', es, entry, 0, hlast, hstep, hpushed, .original⟩
    · exact hold entry (Or.inr (Or.inl hheld))
    · exact hold entry (Or.inr (Or.inr hdead))
  | recovered hlists =>
    have hback := (f.broker.same_recover.holds entry).mp ((hlists.holds entry).mp hentry)
    rcases hback with hready | hheld | hdead
    · rcases List.mem_append.mp hready with hheld | hready
      · exact hold entry (Or.inr (Or.inl (List.mem_reverse.mp hheld)))
      · exact hold entry (Or.inl hready)
    · cases hheld
    · exact hold entry (Or.inr (Or.inr hdead))
  | @handed raw rest hready hlists =>
    rcases (hlists.holds entry).mp hentry with hrest | hheld | hdead
    · exact hold entry (Or.inl (by rw [hready]; exact List.mem_cons_of_mem raw hrest))
    · rcases List.mem_append.mp hheld with hheld | hnew
      · exact hold entry (Or.inr (Or.inl hheld))
      · rw [List.mem_singleton.mp hnew]
        exact hold raw (Or.inl (by rw [hready]; exact List.mem_cons_self))
    · exact hold entry (Or.inr (Or.inr hdead))
  | @settled s hsettles hlists =>
    obtain ⟨who, t, settling, hlive, _, hdelivery, _, _⟩ := live_of_settlement? hsettles
    obtain ⟨raw, hraw, _⟩ := (h.orderly.task who t hlive).delivery
    rw [hlists, hdelivery, hraw] at hentry
    rcases Queue.Broker.holds_settle hentry with hkept | ⟨reason, hreason, rfl⟩
    · exact hold entry hkept
    · -- the entry that is written descends from whatever the one of the task descends from
      obtain ⟨g, a', g', es', original, k, hmem, hstep', hpushed, hdescends⟩ :=
        (h.task who t hlive).mono (List.subset_append_left past [(f, a)])
      have hrewritten := rewritten_of_settlement? hsettles hreason
      rw [hdelivery] at hrewritten
      refine ⟨g, a', g', es', original, k + 1, hmem, hstep', hpushed, ?_⟩
      have hnew := hdescends.rewritten hlast hrewritten
      rwa [hraw] at hnew

theorem Stemming.of_step (h : Stemming past f) (hstep : f.step? a = some (f', es)) :
    Stemming (past ++ [(f, a)]) f' := by
  have hchange := change_of_step hstep
  refine ⟨h.orderly.of_change hchange, h.unfinished.of_change hchange,
    fun entry hentry => h.queue_of_step hstep hentry, fun who t hlive => ?_⟩
  have hold : ∀ {who t}, f.Live who t → Stems (past ++ [(f, a)]) t.delivery.raw := fun hlive =>
    (h.task _ _ hlive).mono (List.subset_append_left past _)
  cases hchange with
  | quiet _ _ htasks => exact hold (htasks who t hlive)
  | noted _ _ _ htasks => exact hold (htasks who t hlive)
  | dismissed _ _ _ htasks => exact hold (htasks who t hlive)
  | published _ _ _ _ htasks => exact hold (htasks who t hlive)
  | pushed _ _ _ htasks => exact hold (htasks who t hlive)
  | recovered _ _ htasks => exact hold (htasks who t hlive)
  | @handed _ raw rest hready _ _ htasks =>
    rcases htasks who t hlive with hlive' | ⟨_, rfl⟩
    · exact hold hlive'
    · rw [Task.start, Queue.ofRaw_raw]
      exact (h.queue raw (Or.inl (by rw [hready]; exact List.mem_cons_self))).mono
        (List.subset_append_left past _)
  | worked hlive' _ htasks _ =>
    rcases htasks who t hlive with hlive'' | ⟨phase, _, _, rfl⟩
    · exact hold hlive''
    · exact (h.task _ _ hlive').mono (List.subset_append_left past _)

/-- **Every entry of the queue stems from one that was pushed.** -/
theorem stems_of_history (h : History allowed (opening r metrics) past f)
    (hentry : f.broker.Holds entry) : Stems past entry := by
  have hstemming : Stemming past f := by
    refine h.invariant ?_ fun past f a f' es _ hstemming _ hstep =>
      hstemming.of_step hstep
    refine ⟨orderly_opening r metrics, unfinished_of_nobody rfl, ?_, ?_⟩
    · rintro entry (⟨⟨⟩⟩ | ⟨⟨⟩⟩ | ⟨⟨⟩⟩)
    · rintro who t ⟨m, hm, _⟩
      cases hm
  exact hstemming.queue entry hentry

/-! ### Dropping -/

/-- The task would end with its delivery dropped. -/
def Drops : Phase → Prop
  | .settling s | .backingOff s _ => s.settled = .dropped ∨ s.held = .dropped
  | .finished o => o = .dropped
  | _ => False

theorem not_drops_afterSetback (c : Config) (t : Task) (m : Message) (s : Setback) :
    ¬ Drops (Task.afterSetback c t m s) := by
  unfold Task.afterSetback
  split
  · exact id
  · exact id

theorem not_drops_afterDetection (c : Config) (t : Task) (m : Message) (now : Instant)
    (answer : Except Detection.Fault (List Prediction)) :
    ¬ Drops (Task.afterDetection c t m now answer) := by
  unfold Task.afterDetection
  split
  · exact id
  · split
    · exact not_drops_afterSetback c t m _
    · exact id

theorem recorded_ne_dropped (result : JobResult) : Task.recorded result ≠ .dropped := by
  unfold Task.recorded
  split
  · nofun
  · nofun

theorem Deed.drops {c : Config} {supply : Supply} {who : Badge} {b b' : Backend} {t : Task}
    {next : Option Phase} (h : Deed c supply who b t b' next es) {phase : Phase}
    (hnext : next = some phase) (hdrops : Drops phase) :
    Drops t.phase ∨ ∃ fault, Message.decode t.delivery.body = .error fault := by
  cases h with
  | unreadable _ hbody => exact Or.inr ⟨_, hbody⟩
  | readable =>
    cases hnext
    exact absurd hdrops id
  | heard =>
    cases hnext
    exact absurd hdrops (not_drops_afterDetection c t _ _ _)
  | @recorded m result =>
    cases hnext
    rcases hdrops with hdropped | hdropped
    · exact absurd hdropped (recorded_ne_dropped result)
    · exact absurd hdropped (recorded_ne_dropped result)
  | unrecorded =>
    cases hnext
    exact absurd hdrops (not_drops_afterSetback c t _ _)
  | closed =>
    cases hnext
    rcases hdrops with hdropped | hdropped
    · cases hdropped
    · cases hdropped
  | unsettled _ _ hphase hgoing =>
    rcases hgoing with rfl | rfl
    · cases hnext
    · cases hnext
      rw [hphase]
      exact Or.inl hdrops
  | paused =>
    cases hnext
    rcases hdrops with hdropped | hdropped
    · cases hdropped
    · cases hdropped
  | backedOff hphase =>
    cases hnext
    rw [hphase]
    exact Or.inl hdrops
  | died => cases hnext
  | settled => cases hnext
  | ended => cases hnext

/-- Tasks drop only what they cannot read. -/
def DropsUnreadable (f : Fleet) : Prop :=
  ∀ who t, f.Live who t → Drops t.phase → ∃ fault, Message.decode t.delivery.body = .error fault

theorem DropsUnreadable.of_change (h : DropsUnreadable f) (hchange : Change f f' es) :
    DropsUnreadable f' := by
  intro who t hlive hdrops
  cases hchange with
  | quiet _ _ htasks => exact h who t (htasks who t hlive) hdrops
  | noted _ _ _ htasks => exact h who t (htasks who t hlive) hdrops
  | dismissed _ _ _ htasks => exact h who t (htasks who t hlive) hdrops
  | published _ _ _ _ htasks => exact h who t (htasks who t hlive) hdrops
  | pushed _ _ _ htasks => exact h who t (htasks who t hlive) hdrops
  | recovered _ _ htasks => exact h who t (htasks who t hlive) hdrops
  | handed _ _ _ htasks =>
    rcases htasks who t hlive with hold | ⟨_, rfl⟩
    · exact h who t hold hdrops
    · exact absurd hdrops id
  | @worked who₀ t₀ _ _ _ _ hlive' hdeed htasks _ =>
    rcases htasks who t hlive with hold | ⟨phase, hnext, _, rfl⟩
    · exact h who t hold hdrops
    · rcases hdeed.drops hnext hdrops with hdrops' | hunreadable
      · exact h _ t₀ hlive' hdrops'
      · exact hunreadable

/-! ### Lineage -/

/-- What holds of a fleet whose workers allow the same number of attempts. -/
structure Tidy (limit : Nat) (f : Fleet) : Prop where
  orderly : Orderly f
  unfinished : Unfinished f
  bounded : Bounded limit f
  drops : DropsUnreadable f

theorem tidy_of_history (h : History (Tended limit) (opening r metrics) past f) :
    Tidy limit f := by
  refine h.invariant (P := fun _ f => Tidy limit f) ?_ fun _ f a f' es _ htidy hallowed hstep => ?_
  · refine ⟨orderly_opening r metrics, unfinished_of_nobody rfl,
      bounded_opening limit r metrics, ?_⟩
    rintro who t ⟨m, hm, _⟩
    cases hm
  · obtain ⟨horderly, hunfinished, hbounded, hdrops⟩ := htidy
    have hchange := change_of_step hstep
    exact ⟨horderly.of_change hchange, hunfinished.of_change hchange,
      hbounded.of_step horderly hunfinished hallowed hstep, hdrops.of_change hchange⟩

/-- The entry is the envelope of the message after so many failed attempts. -/
def Conveys (jobId imageUrl : String) (k : Nat) (entry : String) : Prop :=
  ∃ e, Envelope.ofRaw? entry = some e ∧ e.correlationId = jobId ∧
    Message.decode e.body = .ok ⟨jobId, imageUrl⟩ ∧ e.attempts = k

theorem conveys_wrap {m : Message} {now : Instant} (hcheck : m.check = .ok m)
    (hnow : now.IsClock) : Conveys m.jobId m.imageUrl 0 (Envelope.wrap m now).raw :=
  ⟨Envelope.wrap m now, Envelope.ofRaw?_raw (Nat.two_pow_pos 32) hnow, rfl,
    (Message.decode_body m).trans hcheck, rfl⟩

theorem Conveys.retried {now : Instant} {reason : String} (h : Conveys jobId imageUrl k old)
    (hk : k + 1 < 2 ^ 32) (hnow : now.IsClock) :
    Conveys jobId imageUrl (k + 1) (Queue.retriedRaw old reason now) := by
  obtain ⟨e, hread, hjob, hbody, rfl⟩ := h
  have henvelope : (Delivery.ofRaw old).envelope now = e := by
    rw [Delivery.envelope, Queue.ofRaw_raw, hread]
  refine ⟨e.retried reason now, ?_, hjob, hbody, rfl⟩
  rw [Queue.retriedRaw, henvelope]
  exact Envelope.ofRaw?_raw hk hnow

theorem Conveys.attemptsOf (h : Conveys jobId imageUrl k entry) : Queue.attemptsOf entry = k := by
  obtain ⟨e, hread, _, _, rfl⟩ := h
  rw [Queue.attemptsOf, Delivery.ofRaw, hread]

/-- The entry is the one that was pushed when the message was published. -/
def Published (past : Past) (jobId imageUrl original : String) : Prop :=
  ∃ g a g', (g, a) ∈ past ∧
    g.step? a = some (g', [.pushed original, .accepted jobId imageUrl])

theorem conveys_of_published (h : Published past jobId imageUrl original) :
    Conveys jobId imageUrl 0 original := by
  obtain ⟨g, a, g', _, hstep⟩ := h
  have hchange := change_of_step hstep
  generalize hes : [Event.pushed original, .accepted jobId imageUrl] = es at hchange
  cases hchange with
  | published hcheck hnow =>
    cases hes
    exact conveys_wrap hcheck hnow
  | worked _ hdeed =>
    rw [← hes] at hdeed
    exact absurd List.mem_cons_self (pushed_not_mem_of_deed hdeed original)
  | quiet | noted | dismissed | pushed | recovered | handed => cases hes

theorem retried_of_rewritten? (h : Tidy limit f) (hrewritten : f.rewritten? a = some (old, new)) :
    ∃ reason now, new = Queue.retriedRaw old reason now ∧ now.IsClock ∧
      Queue.attemptsOf old + 1 ≤ max 1 limit ∧ limit < 2 ^ 32 := by
  obtain ⟨s, hsettles, hrewritten⟩ := Option.bind_eq_some_iff.mp hrewritten
  obtain ⟨reason, _, hrewritten⟩ := Option.bind_eq_some_iff.mp hrewritten
  obtain ⟨who, t, settling, hlive, _, hdelivery, _, hnow⟩ := live_of_settlement? hsettles
  obtain ⟨raw, hraw, _⟩ := (h.orderly.task who t hlive).delivery
  have hattempts := (h.bounded.task who t hlive).1
  obtain ⟨m, hm, _⟩ := hlive
  have hpost := h.bounded.post m (List.mem_of_getElem? hm)
  rw [hdelivery, hraw, Queue.ofRaw_raw] at hrewritten
  cases hrewritten
  rw [hraw] at hattempts
  refine ⟨reason, s.now, rfl, hnow, hattempts, ?_⟩
  rw [← hpost]
  exact m.post.fits

/-- **An entry that descends from a published message conveys it**, and counts the settlements
    on its way. -/
theorem conveys_of_descends (h : History (Tended limit) (opening r metrics) past f)
    (hpublished : Published past jobId imageUrl original)
    (hdescends : Descends past original k entry) :
    Conveys jobId imageUrl k entry ∧ k ≤ max 1 limit ∧ k < 2 ^ 32 := by
  induction hdescends with
  | original => exact ⟨conveys_of_published hpublished, Nat.zero_le _, Nat.two_pow_pos 32⟩
  | @rewritten k old new g a _ hmem hrewritten ih =>
    obtain ⟨hconveys, _, _⟩ := ih
    obtain ⟨earlier, hearlier, _⟩ := h.before hmem
    obtain ⟨reason, now, rfl, hnow, hattempts, hlimit⟩ :=
      retried_of_rewritten? (tidy_of_history hearlier) hrewritten
    rw [hconveys.attemptsOf] at hattempts
    have hcount : k + 1 < 2 ^ 32 := by omega
    exact ⟨hconveys.retried hcount hnow, hattempts, hcount⟩

/-- **A published message keeps its identity.**  Workers that allow the same number of attempts
    share the queue, and whatever they do and whatever fails: every entry that waits, is held or
    is dead descends from one that was pushed; and each entry that descends from a publication is
    the envelope of that message, has counted the settlements since then, which are no more than
    are allowed and fit into thirty-two bits, and no task drops it. -/
theorem published_message_kept (h : History (Tended limit) (opening r metrics) past f) :
    (∀ entry, f.broker.Holds entry → Stems past entry) ∧
    ∀ {jobId imageUrl original : String} {k : Nat} {entry : String},
      Published past jobId imageUrl original → Descends past original k entry →
      (∃ e, Envelope.ofRaw? entry = some e ∧ e.correlationId = jobId ∧
        Message.decode e.body = .ok ⟨jobId, imageUrl⟩ ∧ e.attempts = k) ∧
      k ≤ max 1 limit ∧ k < 2 ^ 32 ∧
      ∀ who t, f.Live who t → t.delivery.raw = entry → ¬ Drops t.phase := by
  refine ⟨fun entry hentry => stems_of_history h hentry, ?_⟩
  intro jobId imageUrl original k entry hpublished hdescends
  obtain ⟨hconveys, hlimit, hfits⟩ := conveys_of_descends h hpublished hdescends
  refine ⟨hconveys, hlimit, hfits, fun who t hlive hraw hdrops => ?_⟩
  have htidy := tidy_of_history h
  obtain ⟨fault, hfault⟩ := htidy.drops who t hlive hdrops
  obtain ⟨raw, hdelivery, _⟩ := (htidy.orderly.task who t hlive).delivery
  obtain ⟨e, hread, _, hbody, _⟩ := hconveys
  rw [hdelivery, Queue.ofRaw_raw] at hraw
  rw [hdelivery, hraw, Delivery.ofRaw, hread, hbody] at hfault
  cases hfault

/-- A worker takes the only entry, its detection call fails, and the pause is over. -/
def failing : List Action :=
  beginning ++ [Shift.TaskMove.work, .hear (.error (.transport "reset")), .wake].map
    (.task ⟨0, 0⟩ noon)

/-- The entry that this report tells of, if it is that of a publication. -/
def publication? (jobId imageUrl : String) : List Event → Option String
  | [.pushed original, .accepted jobId' imageUrl'] =>
    if jobId' = jobId ∧ imageUrl' = imageUrl then some original else none
  | _ => none

theorem eq_of_publication? (h : publication? jobId imageUrl es = some original) :
    es = [.pushed original, .accepted jobId imageUrl] := by
  unfold publication? at h
  split at h
  · rw [Option.ite_none_right_eq_some] at h
    obtain ⟨⟨rfl, rfl⟩, h⟩ := h
    rw [Option.some.inj h]
  · cases h

theorem published_message_kept_after_failing :
    ∃ past f original entry, History (Tended 5) start past f ∧
      Published past "job-1" "https://x/a.png" original ∧ Descends past original 1 entry ∧
      f.broker.ready.length = 1 ∧ (∀ entry ∈ f.broker.ready, Stems past entry) ∧
      ∃ e, Envelope.ofRaw? entry = some e ∧ e.correlationId = "job-1" ∧ e.attempts = 1 := by
  have hstates : (do
      let noted ← start.replay? (Tended 5) (submitting.take 2)
      let published ← noted.1.step? (.call 0 noon)
      let original ← publication? "job-1" "https://x/a.png" published.2
      let failed ← published.1.replay? (Tended 5) failing
      let written ← failed.1.rewritten? (.task ⟨0, 0⟩ noon .work)
      let last ← failed.1.step? (.task ⟨0, 0⟩ noon .work)
      some (decide (written.1 = original), last.1.broker.ready.length)) = some (true, 1) := by
    decide +kernel
  obtain ⟨⟨noted, _⟩, hnoted, hstates⟩ := Option.bind_eq_some_iff.mp hstates
  obtain ⟨⟨published, es⟩, hstep, hstates⟩ := Option.bind_eq_some_iff.mp hstates
  obtain ⟨original, horiginal, hstates⟩ := Option.bind_eq_some_iff.mp hstates
  obtain ⟨⟨failed, _⟩, hfailed, hstates⟩ := Option.bind_eq_some_iff.mp hstates
  obtain ⟨⟨old, new⟩, hrewritten, hstates⟩ := Option.bind_eq_some_iff.mp hstates
  obtain ⟨⟨f, _⟩, hsettled, hstates⟩ := Option.bind_eq_some_iff.mp hstates
  obtain ⟨hsame, hready⟩ := Prod.mk.inj (Option.some.inj hstates)
  have hsame : old = original := of_decide_eq_true hsame
  have hreport : es = _ := eq_of_publication? horiginal
  rw [hsame] at hrewritten
  rw [hreport] at hstep
  have hpublication := History.step (a := .call 0 noon) (history_of_replay hnoted) trivial hstep
  have hfailure : History (Tended 5) start _ failed :=
    hpublication.trans (history_of_replay hfailed)
  have hsettlement := History.step (a := .task ⟨0, 0⟩ noon .work) hfailure trivial hsettled
  obtain ⟨past, hhistory, hpast⟩ : ∃ past, History (Tended 5) start past f ∧
      (noted, .call 0 noon) ∈ past ∧ (failed, .task ⟨0, 0⟩ noon .work) ∈ past := by
    refine ⟨_, hsettlement, ?_, List.mem_append_right _ (List.mem_singleton_self _)⟩
    exact List.mem_append_left _ (List.mem_append_left _
      (List.mem_append_right _ (List.mem_singleton_self _)))
  have hpublished : Published past "job-1" "https://x/a.png" original :=
    ⟨noted, .call 0 noon, published, hpast.1, hstep⟩
  have hdescends := Descends.original.rewritten hpast.2 hrewritten
  obtain ⟨hstems, hkept⟩ := published_message_kept hhistory
  obtain ⟨⟨e, hread, hjob, _, hattempts⟩, _⟩ := hkept hpublished hdescends
  exact ⟨past, f, original, new, hhistory, hpublished, hdescends, hready,
    fun entry hentry => hstems entry (Or.inl hentry), e, hread, hjob, hattempts⟩

end Fleet

end DetectionJobs
