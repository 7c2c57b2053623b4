/-
  DetectionJobs/Proofs/Worker/Findings.lean
  =========================================
  **What is recorded of a job, from what happened on the wire.**

  A worker records a result only if its call to the detection service had a complete answer, of
  success or of a client's error, and had it in time.  Whatever else happens on the wire, the
  job is left for another attempt.
-/
import DetectionJobs.Proofs.Detection.Wire
import DetectionJobs.Proofs.Worker.Effects

namespace DetectionJobs.Worker

namespace Bench

open Detection (Client Carrier Story Judged IsConclusive)

variable {c : Config} {x : Outside} {b : Backend} {l : Ledger} {d : Bench} {m : Message}
  {raw : String} {errands : List Errand} {r r' : Repository} {result : JobResult}
  {settlement : Queue.Broker.Settlement} {settled held : Outcome}
  {answer : Except Repository.Fault Unit}

/-! ### Results that are recorded -/

theorem SetBack.record_iff {setback : Setback} (h : SetBack x c r m setback errands r') :
    (∃ result answer, Errand.record result answer ∈ errands) ↔
      ∀ f, x.heard c m = .error f → f.isRetryable = false := by
  cases h with
  | detection hheard hretryable =>
    refine ⟨fun ⟨_, _, hmem⟩ => by simp at hmem, fun hfinal => ?_⟩
    rw [hfinal _ hheard] at hretryable
    cases hretryable
  | repository hfinding =>
    exact ⟨fun _ => hfinding.final, fun _ => ⟨_, _, List.mem_cons_of_mem _ List.mem_cons_self⟩⟩

/-- A result is recorded, or it is tried to, just if the call need not be made again. -/
theorem Course.record_iff (h : Course x c r raw errands r' settlement settled held)
    (hbody : Message.decode (Queue.bodyOf raw) = .ok m) :
    (∃ result answer, Errand.record result answer ∈ errands) ↔
      ∀ f, x.heard c m = .error f → f.isRetryable = false := by
  cases h with
  | unreadable hfault =>
    rw [hfault] at hbody
    cases hbody
  | recorded hbody' hfinding =>
    obtain rfl := Except.ok.inj (hbody'.symm.trans hbody)
    exact ⟨fun _ => hfinding.final, fun _ => ⟨_, _, List.mem_cons_of_mem _ List.mem_cons_self⟩⟩
  | again hbody' hsetback =>
    obtain rfl := Except.ok.inj (hbody'.symm.trans hbody)
    exact hsetback.record_iff
  | noMore hbody' hsetback =>
    obtain rfl := Except.ok.inj (hbody'.symm.trans hbody)
    rw [← hsetback.record_iff]
    simp

/-- The call that records a result, with what it leaves. -/
theorem Course.of_record (h : Course x c r raw errands r' settlement settled held)
    (hbody : Message.decode (Queue.bodyOf raw) = .ok m)
    (hmem : Errand.record result answer ∈ errands) :
    Finding m (x.heard c m) result ∧ ∃ i r'', r.upsert result (x.draw i).ids (x.draw i).now =
      (r'', answer) ∧ (answer = .ok () → r' = r'') := by
  have hsetback {setback : Setback} {errands : List Errand} {r₁ : Repository} {m₁ : Message}
      (hsetback : SetBack x c r m₁ setback errands r₁)
      (hmem : Errand.record result answer ∈ errands) : Finding m₁ (x.heard c m₁) result ∧
        ∃ i, r.upsert result (x.draw i).ids (x.draw i).now = (r₁, answer) ∧ answer ≠ .ok () := by
    cases hsetback with
    | detection => simp at hmem
    | repository hfinding hcall =>
      simp only [List.mem_cons, reduceCtorEq, Errand.record.injEq, List.not_mem_nil, or_false,
        false_or] at hmem
      obtain ⟨rfl, rfl⟩ := hmem
      exact ⟨hfinding, _, hcall, nofun⟩
  cases h with
  | unreadable hfault =>
    rw [hfault] at hbody
    cases hbody
  | recorded hbody' hfinding hcall =>
    obtain rfl := Except.ok.inj (hbody'.symm.trans hbody)
    simp only [List.mem_cons, reduceCtorEq, Errand.record.injEq, List.not_mem_nil, or_false,
      false_or] at hmem
    obtain ⟨rfl, rfl⟩ := hmem
    exact ⟨hfinding, _, _, hcall, fun _ => rfl⟩
  | again hbody' hset =>
    obtain rfl := Except.ok.inj (hbody'.symm.trans hbody)
    obtain ⟨hfinding, i, hcall, hnot⟩ := hsetback hset hmem
    exact ⟨hfinding, i, _, hcall, fun hok => absurd hok hnot⟩
  | noMore hbody' hset =>
    obtain rfl := Except.ok.inj (hbody'.symm.trans hbody)
    simp only [List.mem_append, List.mem_singleton, reduceCtorEq, or_false] at hmem
    obtain ⟨hfinding, i, hcall, hnot⟩ := hsetback hset hmem
    exact ⟨hfinding, i, _, hcall, fun hok => absurd hok hnot⟩

/-- The calls of a delivery that is done: its course, and then only settlements. -/
theorem course_of_handle (c : Config) (x : Outside) (b : Backend) (l : Ledger) (raw : String) :
    ∃ errands r' settlement settled held,
      Course x c b.repository raw errands r' settlement settled held ∧
      (handle c x b l raw).backend.repository = r' ∧
      ∀ result answer, Errand.record result answer ∈ (handle c x b l raw).errands ↔
        Errand.record result answer ∈ errands := by
  obtain ⟨errands, r', settlement, settled, held, d₀, o, hcourse, hat, hsettled⟩ :=
    handled c x b l raw (Or.inl (tries_le c)) (Nat.le_of_eq (enough_eq c).symm)
  obtain ⟨tried, herrands, _, hall⟩ := hsettled.errands
  rw [hat.errands] at herrands
  refine ⟨errands, r', settlement, settled, held, hcourse,
    hsettled.repository.trans hat.repository, fun result answer => ?_⟩
  rw [handle, herrands, List.mem_append]
  refine or_iff_left fun hmem => ?_
  obtain ⟨_, heq⟩ := hall _ hmem
  cases heq

/-! ### Results and what happened on the wire -/

/-- The worker hears the answer of a call if it comes in time. -/
theorem heard_of_reply {delay : Option Nat} {a : Except Detection.Fault (List Prediction)}
    (h : x.reply m = delay.map fun n => (n, a)) :
    (∃ n ∈ delay, n ≤ c.patience) ∧ x.heard c m = a ∨
      ¬ (∃ n ∈ delay, n ≤ c.patience) ∧ x.heard c m = .error (.timeout c.detectionTimeout) := by
  cases delay with
  | none =>
    rw [Outside.heard, h]
    refine Or.inr ⟨?_, rfl⟩
    rintro ⟨_, hmem, _⟩
    cases hmem
  | some n =>
    rw [Outside.heard, h]
    by_cases hn : n ≤ c.patience
    · exact Or.inl ⟨⟨n, rfl, hn⟩, if_pos hn⟩
    · refine Or.inr ⟨?_, if_neg hn⟩
      rintro ⟨_, hmem, hn'⟩
      cases hmem
      exact hn hn'

/-- What becomes of a call that is heard after `delay` milliseconds, if it is heard at all, and of
    a message whose delivery is worked on. -/
structure Concluded (c : Config) (b : Backend) (d : Bench) (m : Message) (delay : Option Nat)
    (call : Except Detection.Fault (List Prediction)) (conclusive : Prop) : Prop where
  /-- A result is recorded, or it is tried to, just after a conclusive answer in time. -/
  recorded : (∃ result answer, Errand.record result answer ∈ d.errands) ↔
    (∃ n ∈ delay, n ≤ c.patience) ∧ conclusive
  /-- It is what was found, or why nothing can be. -/
  finding {result : JobResult} {answer : Except Repository.Fault Unit} :
    Errand.record result answer ∈ d.errands → Finding m call result ∧
      (answer = .ok () ↔ b.repository.faults = 0) ∧
      (answer = .ok () → ∃ ids now, d.row? m.jobId =
        some (Repository.recordedRow (b.repository.find? m.jobId) result ids now))

theorem concluded {delay : Option Nat} {call : Except Detection.Fault (List Prediction)}
    {conclusive : Prop} (hbody : Message.decode (Queue.bodyOf raw) = .ok m)
    (hreply : x.reply m = delay.map fun n => (n, call))
    (hcall : (∀ f, call = .error f → f.isRetryable = false) ↔ conclusive) :
    Concluded c b (handle c x b l raw) m delay call conclusive := by
  obtain ⟨errands, r', _, _, _, hcourse, hrepository, herrands⟩ := course_of_handle c x b l raw
  have hrecord : (∃ result answer, Errand.record result answer ∈ (handle c x b l raw).errands) ↔
      (∃ n ∈ delay, n ≤ c.patience) ∧ conclusive := by
    simp only [herrands]
    rw [hcourse.record_iff hbody]
    rcases heard_of_reply hreply with ⟨htime, hheard⟩ | ⟨hlate, hheard⟩
    · rw [hheard, hcall]
      exact (and_iff_right htime).symm
    · rw [hheard]
      exact ⟨fun hfinal => Bool.noConfusion (hfinal _ rfl), fun h => absurd h.1 hlate⟩
  refine ⟨hrecord, fun {result answer} hmem => ?_⟩
  have hheard : x.heard c m = call := by
    rcases heard_of_reply hreply with ⟨_, hheard⟩ | ⟨hlate, _⟩
    · exact hheard
    · exact absurd (hrecord.mp ⟨result, answer, hmem⟩).1 hlate
  obtain ⟨hfinding, i, r'', hupsert, hafter⟩ :=
    hcourse.of_record hbody ((herrands result answer).mp hmem)
  rw [hheard] at hfinding
  refine ⟨hfinding, faults_of_upsert hupsert, fun hok => ?_⟩
  rcases Repository.find?_upsert hupsert with ⟨_, hfault, _⟩ | ⟨_, hrows⟩
  · rw [hok] at hfault
    cases hfault
  · refine ⟨(x.draw i).ids, (x.draw i).now, ?_⟩
    rw [row?, hrepository, hafter hok, hrows, hfinding.jobId, if_pos rfl]

/-- **Calls are classified by what happened on the wire**, and a worker records a result only
    after a complete answer of success or of a client's error. -/
theorem calls_classified {carrier : Carrier Story} (hcarrier : carrier.IsDocumented)
    (client : Client) :
    (∀ imageUrl deadline s, Judged deadline ((client.request imageUrl deadline).outcome s)
        (client.detect carrier imageUrl deadline s) ∧
      ((∀ f, client.detect carrier imageUrl deadline s = .error f → f.isRetryable = false) ↔
        ∃ status text, (client.request imageUrl deadline).IsAnswered s status text ∧
          IsConclusive status)) ∧
    ∀ (c : Config) (x : Outside) (b : Backend) (l : Ledger) (raw : String) (m : Message)
        (s : Story) (delay : Option Nat), Message.decode (Queue.bodyOf raw) = .ok m →
      x.reply m = (delay.map fun n => (n, client.detect carrier m.imageUrl c.detectionTimeout s)) →
      Concluded c b (handle c x b l raw) m delay
        (client.detect carrier m.imageUrl c.detectionTimeout s)
        (∃ status text, (client.request m.imageUrl c.detectionTimeout).IsAnswered s status text ∧
          IsConclusive status) := by
  have hjudged (imageUrl : String) (deadline : Span) (s : Story) :
      Judged deadline ((client.request imageUrl deadline).outcome s)
        (client.detect carrier imageUrl deadline s) :=
    hcarrier.judged (client.request imageUrl deadline) s deadline
  have hfinal (imageUrl : String) (deadline : Span) (s : Story) :
      (∀ f, client.detect carrier imageUrl deadline s = .error f → f.isRetryable = false) ↔
        ∃ status text, (client.request imageUrl deadline).IsAnswered s status text ∧
          IsConclusive status := by
    simp only [(hjudged imageUrl deadline s).isFinal_iff, Detection.Request.outcome_ok_iff]
  refine ⟨fun imageUrl deadline s => ⟨hjudged imageUrl deadline s, hfinal imageUrl deadline s⟩, ?_⟩
  intro c x b l raw m s delay hbody hreply
  exact concluded hbody hreply (hfinal m.imageUrl c.detectionTimeout s)

/-- A client of a service that cannot find any image, as it says after one redirect. -/
def lostClient : Client := ⟨"http://[::1]", "key", "space", "flow"⟩

def lostStory : Story
  | 0 => ⟨.done (), .done ⟨307, some "http://[::2]/"⟩, .late⟩
  | _ => ⟨.done (), .done ⟨404, none⟩, .done "no such image"⟩

/-- It is noon, and its answer comes after five milliseconds. -/
def lostNoon : Outside where
  reply m := some (5, lostClient.detect Detection.messenger m.imageUrl
    Config.standard.detectionTimeout lostStory)
  draw _ := ⟨noon, .ofRandom⟩

def lostMessage : Message := ⟨"job-1", "https://x/a.png"⟩

def lostEntry : String := (Envelope.wrap lostMessage noon).raw

theorem calls_classified_of_lost :
    Detection.messenger.IsDocumented ∧ Message.decode (Queue.bodyOf lostEntry) = .ok lostMessage ∧
      lostClient.detect Detection.messenger lostMessage.imageUrl Config.standard.detectionTimeout
        lostStory = .error (.rejected 404 "no such image") ∧
      ∃ result answer, Errand.record result answer ∈
        (handle .standard lostNoon troubled .empty lostEntry).errands := by
  obtain ⟨hclassified, hconcluded⟩ := calls_classified Detection.messenger_isDocumented lostClient
  have hcheck : lostMessage.check = .ok lostMessage := by
    rw [Message.check, if_neg (by decide), if_neg (by decide)]
  have hbody : Message.decode (Queue.bodyOf lostEntry) = .ok lostMessage :=
    Queue.carries_wrap hcheck (by decide)
  have hanswered : (lostClient.request lostMessage.imageUrl
      Config.standard.detectionTimeout).IsAnswered lostStory 404 "no such image" := by
    refine ⟨by decide +kernel, 1, by decide, fun j hj => ?_, rfl, ⟨_, rfl, rfl, rfl⟩, rfl⟩
    obtain rfl := Nat.lt_one_iff.mp hj
    exact ⟨rfl, _, rfl, rfl⟩
  refine ⟨Detection.messenger_isDocumented, hbody, ?_, ?_⟩
  · have hjudged :=
      (hclassified lostMessage.imageUrl Config.standard.detectionTimeout lostStory).1
    rw [Detection.Request.outcome_ok_iff.mpr hanswered] at hjudged
    generalize lostClient.detect Detection.messenger lostMessage.imageUrl
      Config.standard.detectionTimeout lostStory = call at hjudged ⊢
    cases hjudged with
    | found hsuccess => cases hsuccess
    | malformed hsuccess => cases hsuccess
    | unavailable _ hclient => cases hclient
    | rejected => rfl
  · have hlost := hconcluded .standard lostNoon troubled .empty lostEntry lostMessage lostStory
      (some 5) hbody rfl
    exact hlost.recorded.mpr ⟨⟨5, rfl, by decide⟩, 404, _, hanswered, Or.inr rfl⟩

end Bench

end DetectionJobs.Worker
