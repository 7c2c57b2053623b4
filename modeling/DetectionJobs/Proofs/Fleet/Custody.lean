/-
  DetectionJobs/Proofs/Fleet/Custody.lean
  =======================================
  **No accepted job is lost.**

  The queue and the stored jobs share no transaction.  What keeps a job from getting lost
  between the two is the order of the calls: an entry is acknowledged after the end of its
  job was recorded, and it is given up after the attempt to close its job.  The invariant
  says so of the tasks: whoever is about to take an entry out of the queue for good has a
  reason that holds from then on.  It is not about who holds the entry, so it does not matter
  that an entry may be put back and handed out again while a task still works on it.
-/
import DetectionJobs.Proofs.Fleet.Rows

namespace DetectionJobs.Fleet

open Worker

/-! ### Where a job can be -/

/-- The job has come to its end. -/
def Over (f : Fleet) (jobId : String) : Prop :=
  ∃ row, f.row? jobId = some row ∧ row.status.isTerminal = true

/-- An entry that carries the message waits or is held. -/
def InTransit (f : Fleet) (m : Message) : Prop :=
  ∃ entry, (entry ∈ f.broker.ready ∨ entry ∈ f.broker.inFlight) ∧ Queue.Carries entry m

/-- The closing of the job failed, as the call of this task was answered. -/
def Unclosed (trace : List Event) (who : Badge) (jobId : String) : Prop :=
  ∃ fault, Event.closed who jobId (.error fault) ∈ trace

/-- A dead entry carries the message, and before it was added to the dead ones the task that
    did so was told that the job could not be closed. -/
def GivenUp (trace : List Event) (f : Fleet) (m : Message) : Prop :=
  ∃ entry ∈ f.broker.dead, Queue.Carries entry m ∧
    ∃ who fault, [Event.closed who m.jobId (.error fault), .buried who entry].Sublist trace

/-- The job is not lost. -/
def Kept (trace : List Event) (f : Fleet) (m : Message) : Prop :=
  InTransit f m ∨ Over f m.jobId ∨ GivenUp trace f m

/-- A settlement that takes the entry of a message out of the queue is justified. -/
def Justified (trace : List Event) (f : Fleet) (who : Badge) (m : Message) :
    Queue.Broker.Settlement → Prop
  | .ack => Over f m.jobId
  | .requeue _ => True
  | .deadLetter _ => Over f m.jobId ∨ Unclosed trace who m.jobId

def settling? : Phase → Option Queue.Broker.Settlement
  | .settling s => some s.settlement
  | .backingOff s _ => some s.settlement
  | _ => none

/-- What a task tries with its delivery is justified. -/
def JustifiedTask (trace : List Event) (f : Fleet) (who : Badge) (t : Task) : Prop :=
  ∀ s, settling? t.phase = some s → ∀ m, Message.decode t.delivery.body = .ok m →
    Justified trace f who m s

variable {f f' : Fleet} {trace trace' es : List Event} {m : Message} {who : Badge}

/-! ### What stays -/

theorem Over.of_change {jobId : String} (h : Over f jobId) (horderly : Orderly f)
    (hchange : Change f f' es) : Over f' jobId := by
  obtain ⟨row, hrow, hend⟩ := h
  have hrewrite := rewrite_of_change hchange jobId
  rw [hrow] at hrewrite
  obtain ⟨row', hrow', hkeeps⟩ := hrewrite.keeps horderly
  exact ⟨row', hrow', hkeeps hend⟩

theorem Justified.of_change {s : Queue.Broker.Settlement} (h : Justified trace f who m s)
    (horderly : Orderly f) (hchange : Change f f' es) : Justified (trace ++ es) f' who m s := by
  cases s with
  | ack => exact Over.of_change h horderly hchange
  | requeue => trivial
  | deadLetter =>
    rcases h with hover | ⟨fault, hclosed⟩
    · exact Or.inl (hover.of_change horderly hchange)
    · exact Or.inr ⟨fault, List.mem_append_left es hclosed⟩

theorem GivenUp.mono (h : GivenUp trace f m) (hdead : f.broker.dead ⊆ f'.broker.dead) :
    GivenUp (trace ++ es) f' m := by
  obtain ⟨entry, hentry, hcarries, who, fault, hsublist⟩ := h
  exact ⟨entry, hdead hentry, hcarries, who, fault, hsublist.trans (List.sublist_append_left _ _)⟩

/-- A job is kept by a step that leaves all entries in the queue. -/
theorem Kept.mono (h : Kept trace f m) (horderly : Orderly f) (hchange : Change f f' es)
    (hentries : ∀ entry, entry ∈ f.broker.ready ∨ entry ∈ f.broker.inFlight →
      entry ∈ f'.broker.ready ∨ entry ∈ f'.broker.inFlight)
    (hdead : f.broker.dead ⊆ f'.broker.dead) : Kept (trace ++ es) f' m := by
  rcases h with ⟨entry, hentry, hcarries⟩ | hover | hgiven
  · exact Or.inl ⟨entry, hentries entry hentry, hcarries⟩
  · exact Or.inr (Or.inl (hover.of_change horderly hchange))
  · exact Or.inr (Or.inr (hgiven.mono hdead))

theorem Kept.of_same (h : Kept trace f m) (horderly : Orderly f) (hchange : Change f f' es)
    (hlists : f.broker.Same f'.broker) : Kept (trace ++ es) f' m := by
  refine h.mono horderly hchange (fun entry hentry => ?_) ?_
  · rwa [hlists.ready, hlists.inFlight]
  · rw [hlists.dead]
    exact List.Subset.refl _

theorem Kept.of_push (h : Kept trace f m) (horderly : Orderly f) (hchange : Change f f' es)
    {raw : String} (hlists : (f.broker.push raw).Same f'.broker) : Kept (trace ++ es) f' m := by
  refine h.mono horderly hchange (fun entry hentry => ?_) ?_
  · rw [hlists.ready, hlists.inFlight]
    exact hentry.imp_left (List.mem_append_left [raw])
  · rw [hlists.dead]
    exact List.Subset.refl _

/-! ### Settlements -/

/-- A settlement takes no entry out of the queue but its own. -/
theorem mem_of_settle {b : Queue.Broker} {raw entry : String} {now : Instant}
    (s : Queue.Broker.Settlement) (hne : entry ≠ raw)
    (h : entry ∈ b.ready ∨ entry ∈ b.inFlight) :
    entry ∈ (b.settle (.ofRaw raw) now s).ready ∨
      entry ∈ (b.settle (.ofRaw raw) now s).inFlight := by
  rcases h with hready | hheld
  · left
    cases s with
    | ack =>
      obtain ⟨held, _, heq⟩ := b.settle_ack raw now
      rw [heq]
      exact hready
    | requeue reason =>
      obtain ⟨held, _, heq⟩ := b.settle_requeue raw reason now
      rw [heq]
      exact List.mem_append_left _ hready
    | deadLetter reason =>
      obtain ⟨held, _, heq⟩ := b.settle_deadLetter raw reason now
      rw [heq]
      exact hready
  · right
    rw [(b.inFlight_settle raw now s).mem_iff]
    exact (List.mem_erase_of_ne hne).mpr hheld

theorem dead_subset_settle (b : Queue.Broker) (raw : String) (now : Instant)
    (s : Queue.Broker.Settlement) : b.dead ⊆ (b.settle (.ofRaw raw) now s).dead := by
  cases s with
  | ack =>
    obtain ⟨held, _, heq⟩ := b.settle_ack raw now
    rw [heq]
    exact List.Subset.refl _
  | requeue reason =>
    obtain ⟨held, _, heq⟩ := b.settle_requeue raw reason now
    rw [heq]
    exact List.Subset.refl _
  | deadLetter reason =>
    obtain ⟨held, _, heq⟩ := b.settle_deadLetter raw reason now
    rw [heq]
    exact List.subset_append_left _ _

/-- **A justified settlement loses no job.** -/
theorem Kept.of_settle (h : Kept trace f m) (horderly : Orderly f) (hchange : Change f f' es)
    {raw : String} {now : Instant} {s : Queue.Broker.Settlement} (hraw : Queue.Countable raw)
    (hnow : now.IsClock) (hlists : f'.broker = f.broker.settle (.ofRaw raw) now s)
    (hes : es = settleReport f.broker who (.ofRaw raw) now s)
    (hjustified : Queue.Carries raw m → Justified trace f who m s) :
    Kept (trace ++ es) f' m := by
  rcases h with ⟨entry, hentry, hcarries⟩ | hover | hgiven
  · by_cases hentry' : entry = raw
    · -- the entry of the job is the one that is settled
      subst hentry'
      have hreason := hjustified hcarries
      cases s with
      | ack => exact Or.inr (Or.inl (Over.of_change hreason horderly hchange))
      | requeue reason =>
        obtain ⟨held, _, heq⟩ := f.broker.settle_requeue entry reason now
        refine Or.inl ⟨Queue.retriedRaw entry reason now, Or.inl ?_, ?_⟩
        · rw [hlists, heq]
          exact List.mem_append_right _ (List.mem_singleton_self _)
        · exact (Queue.carries_retriedRaw hraw hnow).mpr hcarries
      | deadLetter reason =>
        rcases hreason with hover | ⟨fault, hclosed⟩
        · exact Or.inr (Or.inl (hover.of_change horderly hchange))
        · obtain ⟨held, _, heq⟩ := f.broker.settle_deadLetter entry reason now
          refine Or.inr (Or.inr ⟨Queue.retriedRaw entry reason now, ?_, ?_, who, fault, ?_⟩)
          · rw [hlists, heq]
            exact List.mem_append_right _ (List.mem_singleton_self _)
          · exact (Queue.carries_retriedRaw hraw hnow).mpr hcarries
          · rw [hes]
            exact (List.singleton_sublist.mpr hclosed).append (.refl _)
    · refine Or.inl ⟨entry, ?_, hcarries⟩
      rw [hlists]
      exact mem_of_settle s hentry' hentry
  · exact Or.inr (Or.inl (hover.of_change horderly hchange))
  · refine Or.inr (Or.inr (hgiven.mono ?_))
    rw [hlists]
    exact dead_subset_settle f.broker raw now s

/-! ### Reasons for settlements -/

theorem settling?_afterSetback (c : Config) (t : Task) (m : Message) (s : Setback) :
    settling? (Task.afterSetback c t m s) = none := by
  unfold Task.afterSetback
  split
  · rfl
  · rfl

theorem settling?_afterDetection (c : Config) (t : Task) (m : Message) (now : Instant)
    (answer : Except Detection.Fault (List Prediction)) :
    settling? (Task.afterDetection c t m now answer) = none := by
  unfold Task.afterDetection
  split
  · rfl
  · split
    · exact settling?_afterSetback ..
    · rfl

/-- What a task goes on to try with its delivery is justified by what it just did. -/
theorem justifiedTask_of_deed {c : Config} {supply : Supply} {t : Task} {b : Backend}
    {next : Option Phase} {phase : Phase} (horderly : Orderly f) (hchange : Change f f' es)
    (hlive : f.Live who t) (h : JustifiedTask trace f who t)
    (hdeed : Deed c supply who f.backend t b next es) (hback : f'.backend = b)
    (hnext : next = some phase) :
    JustifiedTask (trace ++ es) f' who { t with phase := phase } := by
  intro s hs m hm
  have hrow : ∀ j, f'.row? j = b.repository.find? j := fun j => by rw [row?, hback]
  have hfits := (horderly.task who t hlive).phase
  subst hnext
  cases hdeed with
  | unreadable _ hbody =>
    -- a body that does not decode carries no message
    rw [hbody] at hm
    cases hm
  | readable => cases hs
  | heard =>
    rw [settling?_afterDetection] at hs
    cases hs
  | @recorded m' result r hphase hcall =>
    cases hs
    rw [hphase] at hfits
    obtain ⟨hbody, hjob, hend⟩ := hfits
    obtain rfl : m' = m := Except.ok.inj (hbody.symm.trans hm)
    rcases Repository.find?_upsert hcall with ⟨_, hfault, _⟩ | ⟨_, hrows⟩
    · cases hfault
    · exact ⟨_, (hrow m'.jobId).trans ((hrows m'.jobId).trans (if_pos hjob.symm)), hend⟩
  | unrecorded =>
    rw [settling?_afterSetback] at hs
    cases hs
  | @closed m' reason r answer hphase hcall =>
    cases hs
    rw [hphase] at hfits
    obtain rfl : m' = m := Except.ok.inj (hfits.symm.trans hm)
    rcases Repository.find?_markFailed hcall with
      ⟨fault, rfl, _⟩ | ⟨_, ⟨row, hold, hend⟩, hrows⟩ | ⟨_, _, hrows⟩
    · exact Or.inr ⟨fault, List.mem_append_right _ (List.mem_singleton_self _)⟩
    · exact Or.inl ⟨row, (hrow m'.jobId).trans ((hrows m'.jobId).trans hold), hend⟩
    · exact Or.inl ⟨_, (hrow m'.jobId).trans ((hrows m'.jobId).trans (if_pos rfl)), rfl⟩
  | unsettled _ _ hphase hgoing =>
    rcases hgoing with hgoing | hgoing
    · cases hgoing
    · cases hgoing
      exact (h s (by rw [hphase]; exact hs) m hm).of_change horderly hchange
  | paused =>
    cases hs
    trivial
  | backedOff hphase => exact (h s (by rw [hphase]; exact hs) m hm).of_change horderly hchange

/-! ### The invariant -/

/-- Tasks have reasons for what they try, and every accepted job is kept. -/
structure Custody (trace : List Event) (f : Fleet) : Prop where
  task : ∀ who t, f.Live who t → JustifiedTask trace f who t
  job : ∀ m, Event.accepted m.jobId m.imageUrl ∈ trace → Kept trace f m

theorem custody_start : Custody [] start where
  task := by rintro who t ⟨member, hmember, _⟩; cases hmember
  job := by rintro m ⟨⟩

theorem Custody.task_of_change (h : Custody trace f) (horderly : Orderly f)
    (hchange : Change f f' es) {t : Task} (hlive : f'.Live who t) :
    JustifiedTask (trace ++ es) f' who t := by
  have hold : f.Live who t → JustifiedTask (trace ++ es) f' who t :=
    fun hlive s hs m hm => (h.task who t hlive s hs m hm).of_change horderly hchange
  cases hchange with
  | quiet _ _ htasks | noted _ _ _ htasks | dismissed _ _ _ htasks | published _ _ _ _ htasks
  | pushed _ _ _ htasks | recovered _ _ htasks => exact hold (htasks who t hlive)
  | handed _ _ _ htasks =>
    rcases htasks who t hlive with hlive | ⟨_, rfl⟩
    · exact hold hlive
    · rintro s ⟨⟩
  | worked hlive' hdeed htasks hpost =>
    rcases htasks who t hlive with hlive | ⟨phase, hnext, rfl, rfl⟩
    · exact hold hlive
    · exact justifiedTask_of_deed horderly (.worked hlive' hdeed htasks hpost) hlive'
        (h.task who _ hlive') hdeed rfl hnext

/-- Handing out an entry moves it from those that wait to those that are held. -/
theorem Kept.of_handed (h : Kept trace f m) (horderly : Orderly f) (hchange : Change f f' es)
    {raw : String} {rest : List String} (hready : f.broker.ready = raw :: rest)
    (hlists : Queue.Broker.Same
      { f.broker with ready := rest, inFlight := f.broker.inFlight ++ [raw] } f'.broker) :
    Kept (trace ++ es) f' m := by
  refine h.mono horderly hchange (fun entry hentry => ?_) ?_
  · rw [hlists.ready, hlists.inFlight]
    rw [hready] at hentry
    rcases hentry with hwaits | hheld
    · rcases List.mem_cons.mp hwaits with rfl | hrest
      · exact Or.inr (List.mem_append_right _ (List.mem_singleton_self _))
      · exact Or.inl hrest
    · exact Or.inr (List.mem_append_left _ hheld)
  · rw [hlists.dead]
    exact List.Subset.refl _

theorem Kept.of_recovered (h : Kept trace f m) (horderly : Orderly f) (hchange : Change f f' es)
    (hlists : f.broker.recover.2.Same f'.broker) : Kept (trace ++ es) f' m := by
  have hback := f.broker.same_recover
  refine h.mono horderly hchange (fun entry hentry => ?_) ?_
  · rw [hlists.ready, hback.ready]
    rcases hentry with hwaits | hheld
    · exact Or.inl (List.mem_append_right _ hwaits)
    · exact Or.inl (List.mem_append_left _ (List.mem_reverse.mpr hheld))
  · rw [hlists.dead, hback.dead]
    exact List.Subset.refl _

theorem Custody.job_of_change (h : Custody trace f) (horderly : Orderly f)
    (hchange : Change f f' es) (hkept : Kept trace f m) : Kept (trace ++ es) f' m := by
  cases hchange with
  | quiet hlists hrows htasks => exact hkept.of_same horderly (.quiet hlists hrows htasks) hlists
  | noted hlists hnone hrows htasks =>
    exact hkept.of_same horderly (.noted hlists hnone hrows htasks) hlists
  | dismissed hlists hopen hrows htasks =>
    exact hkept.of_same horderly (.dismissed hlists hopen hrows htasks) hlists
  | published hcheck hnow hlists hrows htasks =>
    exact hkept.of_push horderly (.published hcheck hnow hlists hrows htasks) hlists
  | pushed hcount hlists hrows htasks =>
    exact hkept.of_push horderly (.pushed hcount hlists hrows htasks) hlists
  | recovered hlists hrows htasks =>
    exact hkept.of_recovered horderly (.recovered hlists hrows htasks) hlists
  | handed hready hlists hrows htasks =>
    exact hkept.of_handed horderly (.handed hready hlists hrows htasks) hready hlists
  | @worked who t post draw next es hlive hdeed htasks hpost =>
    have hchange : Change f f' es := .worked hlive hdeed htasks hpost
    rcases hdeed.queue with hlists | ⟨s, hphase, _, _, hlists, hes⟩
    · exact hkept.of_same horderly hchange hlists
    · obtain ⟨raw, hdelivery, hraw⟩ := (horderly.task who t hlive).delivery
      rw [hdelivery] at hlists hes
      refine hkept.of_settle horderly hchange hraw draw.isClock hlists hes fun hcarries => ?_
      refine h.task who t hlive s.settlement (by rw [hphase]; rfl) m ?_
      rw [hdelivery]
      exact hcarries

theorem accepted_not_mem_of_deed {c : Config} {supply : Supply} {t : Task} {b b' : Backend}
    {next : Option Phase} (h : Deed c supply who b t b' next es) (jobId imageUrl : String) :
    Event.accepted jobId imageUrl ∉ es := by
  cases h with
  | @settled s => cases s.settlement <;> simp [settleReport]
  | _ => simp

/-- The message of a job that is accepted is in the queue from that step on. -/
theorem kept_of_accepted (hchange : Change f f' es)
    (haccepted : Event.accepted m.jobId m.imageUrl ∈ es) : Kept (trace ++ es) f' m := by
  cases hchange with
  | @published m' now hcheck hnow hlists =>
    simp only [List.mem_cons, List.not_mem_nil, or_false, reduceCtorEq, false_or] at haccepted
    obtain rfl : m = m' := by
      cases m
      cases m'
      cases haccepted
      rfl
    refine Or.inl ⟨(Envelope.wrap m now).raw, Or.inl ?_, Queue.carries_wrap hcheck hnow⟩
    rw [hlists.ready]
    exact List.mem_append_right _ (List.mem_singleton_self _)
  | worked _ hdeed => exact absurd haccepted (accepted_not_mem_of_deed hdeed _ _)
  | _ => simp at haccepted

theorem Custody.of_change (h : Custody trace f) (horderly : Orderly f)
    (hchange : Change f f' es) : Custody (trace ++ es) f' where
  task := fun _ _ hlive => h.task_of_change horderly hchange hlive
  job := by
    intro m haccepted
    rcases List.mem_append.mp haccepted with hold | hnew
    · exact h.job_of_change horderly hchange (h.job m hold)
    · exact kept_of_accepted hchange hnew

theorem custody_of_run {allowed : Fleet → Action → Prop} (h : Run allowed start trace f) :
    Custody trace f :=
  h.invariant (P := Custody) custody_start fun _ _ _ _ _ hrun hcustody _ hstep =>
    hcustody.of_change ((orderly_opening _ _).of_run hrun) (change_of_step hstep)

/-- **No accepted job is lost.**  In every run, whatever fails and whoever vanishes, a job
    whose submission was answered with success is in the queue, or it has come to its end, or it
    was given up after the attempt to close it had failed. -/
theorem accepted_job_kept (h : Run Anything start trace f) {jobId imageUrl : String}
    (haccepted : Event.accepted jobId imageUrl ∈ trace) : Kept trace f ⟨jobId, imageUrl⟩ :=
  (custody_of_run h).job ⟨jobId, imageUrl⟩ haccepted

/-- The attempt at a job fails and its delivery cannot be requeued either, so that the task gives
    up on it; the loop of the worker puts the entry back and takes it again. -/
def suffering : List Action :=
  beginning ++ [Shift.TaskMove.work, .hear (.error (.transport "reset")), .wake].map
    (.task ⟨0, 0⟩ noon) ++ .disturb false 3 0 ::
    [Shift.TaskMove.work, .wake, .work, .wake, .work].map (.task ⟨0, 0⟩ noon) ++
    taking [.begin, .join, .recover false]

theorem accepted_job_kept_after_recovery :
    ∃ f trace f' trace', start.replay? Anything submitting = some (f, trace) ∧
      f.replay? Anything suffering = some (f', trace') ∧
      Event.accepted "job-1" "https://x/a.png" ∈ trace ++ trace' ∧
      f'.members.map (·.shift.ledger.stats.unsettled) = [1] ∧ (f'.row? "job-1").isNone = true ∧
      f'.broker.inFlight.length = 1 ∧ Kept (trace ++ trace') f' ⟨"job-1", "https://x/a.png"⟩ := by
  obtain ⟨f, trace, hsubmitting, haccepted⟩ : ∃ f trace,
      start.replay? Anything submitting = some (f, trace) ∧
        Event.accepted "job-1" "https://x/a.png" ∈ trace := ⟨_, _, rfl, .tail _ (.head _)⟩
  have hstates : (do
      let first ← start.replay? Anything submitting
      let last ← first.1.replay? Anything suffering
      some (last.1.members.map (·.shift.ledger.stats.unsettled), (last.1.row? "job-1").isNone,
        last.1.broker.inFlight.length)) = some ([1], true, 1) := by
    decide +kernel
  rw [hsubmitting, Option.bind_eq_bind, Option.bind_some] at hstates
  obtain ⟨⟨f', trace'⟩, hsuffering, hstates⟩ := Option.bind_eq_some_iff.mp hstates
  simp only [Option.some.injEq, Prod.mk.injEq] at hstates
  have hrun : Run Anything start (trace ++ trace') f' :=
    (Machine.run_of_replay hsubmitting).trans (Machine.run_of_replay hsuffering)
  have hmem := List.mem_append_left trace' haccepted
  exact ⟨f, trace, f', trace', hsubmitting, hsuffering, hmem, hstates.1, hstates.2.1, hstates.2.2,
    accepted_job_kept hrun hmem⟩

end DetectionJobs.Fleet
