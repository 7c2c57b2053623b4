/-
  DetectionJobs/Proofs/Detection/Wire.lean
  ========================================
  **What a call to the detection service comes to, from what happens on the wire.**

  A call connects, sends its request, waits for the head of an answer and reads the rest.  An
  answer that sends it elsewhere is followed by another request, up to ten times.  Every stage
  may break, and at every stage the time may run out.  Those who carry the call report how it
  went, and the call is judged by their reports; here it is judged by what happened.
-/
import DetectionJobs.Detection.Exchange

namespace DetectionJobs.Detection

/-! ### The wire -/

/-- How a stage of a call ends. -/
inductive Stage (α : Type) where
  | done (a : α)
  | breaks (reason : String)
  /-- The time for it, or for the whole call, was over before. -/
  | late

/-- Why no complete answer comes. -/
inductive Loss where
  | noRequest
  | late
  | broken (reason : String)
  | tooManyRedirects
deriving DecidableEq

def Stage.result : Stage α → Except Loss α
  | .done a => .ok a
  | .breaks reason => .error (.broken reason)
  | .late => .error .late

/-- The head of an answer: its status, and where it sends the call if it names a place. -/
structure Head where
  status : Nat
  location : Option String

/-- Whether the call goes on elsewhere. -/
def Head.isFollowed (h : Head) : Bool :=
  h.location.isSome && [301, 302, 303, 307, 308].contains h.status

/-- What happens to one request. -/
structure Hop where
  connecting : Stage Unit
  waiting : Stage Head
  reading : Stage String

/-- What would happen to each request of a call. -/
abbrev Story := Nat → Hop

def redirectLimit : Nat := 10

namespace Story

/-- The status of the final answer, and how the reading of it ends: that of the `i`-th request,
    or of the last one that follows it. -/
def head (s : Story) : (redirects i : Nat) → Except Loss (Nat × Stage String)
  | redirects, i => do
    (s i).connecting.result
    let h ← (s i).waiting.result
    if h.isFollowed then
      match redirects with
      | 0 => .error .tooManyRedirects
      | redirects + 1 => head s redirects (i + 1)
    else .ok (h.status, (s i).reading)

/-- The status and the text of the final answer, if all of it comes. -/
def outcome (s : Story) : Except Loss (Nat × String) := do
  let (status, reading) ← s.head redirectLimit 0
  let text ← reading.result
  .ok (status, text)

end Story

/-- What a request comes to. -/
def Request.outcome (r : Request) (s : Story) : Except Loss (Nat × String) :=
  if r.isSendable then s.outcome else .error .noRequest

/-! ### Complete answers -/

/-- The request has an answer with this status, the reading of which ends so. -/
def Hop.Heads (hop : Hop) (status : Nat) (reading : Stage String) : Prop :=
  hop.connecting = .done () ∧
    (∃ h, hop.waiting = .done h ∧ h.isFollowed = false ∧ h.status = status) ∧
    hop.reading = reading

/-- The answer sends the call elsewhere. -/
def Hop.Follows (hop : Hop) : Prop :=
  hop.connecting = .done () ∧ ∃ h, hop.waiting = .done h ∧ h.isFollowed = true

/-- After as many requests as may follow each other, one of which the answer was final, that
    answer came to its end. -/
def Request.IsAnswered (r : Request) (s : Story) (status : Nat) (text : String) : Prop :=
  r.isSendable = true ∧
    ∃ n ≤ redirectLimit, (∀ j < n, (s j).Follows) ∧ (s n).Heads status (.done text)

namespace Story

variable {s : Story} {status k i : Nat} {reading : Stage String} {text : String}

theorem follows_or_heads (hconnecting : (s i).connecting = .done ()) {h : Head}
    (hwaiting : (s i).waiting = .done h) :
    (s i).Follows ∨ (s i).Heads h.status (s i).reading := by
  cases hfollowed : h.isFollowed with
  | true => exact Or.inl ⟨hconnecting, h, hwaiting, hfollowed⟩
  | false => exact Or.inr ⟨hconnecting, ⟨h, hwaiting, hfollowed, rfl⟩, rfl⟩

theorem head_of_heads (h : (s i).Heads status reading) : s.head k i = .ok (status, reading) := by
  obtain ⟨hconnecting, ⟨h, hwaiting, hfollowed, rfl⟩, rfl⟩ := h
  rw [head.eq_def]
  simp only [hconnecting, hwaiting, Stage.result, bind, Except.bind, hfollowed]
  rfl

theorem head_of_follows (h : (s i).Follows) : s.head (k + 1) i = s.head k (i + 1) := by
  obtain ⟨hconnecting, h, hwaiting, hfollowed⟩ := h
  rw [head.eq_def]
  simp only [hconnecting, hwaiting, Stage.result, bind, Except.bind, hfollowed, if_true]

/-- One redirect too many. -/
theorem head_zero_of_follows (h : (s i).Follows) : s.head 0 i = .error .tooManyRedirects := by
  obtain ⟨hconnecting, h, hwaiting, hfollowed⟩ := h
  rw [head.eq_def]
  simp only [hconnecting, hwaiting, Stage.result, bind, Except.bind, hfollowed, if_true]

/-- Without a head of an answer there is nothing to follow. -/
theorem stages_of_head (h : s.head k i = .ok (status, reading)) :
    (s i).connecting = .done () ∧ ∃ h, (s i).waiting = .done h := by
  rw [head.eq_def] at h
  cases hconnecting : (s i).connecting with
  | breaks | late => simp [hconnecting, Stage.result, bind, Except.bind] at h
  | done =>
    cases hwaiting : (s i).waiting with
    | breaks | late => simp [hconnecting, hwaiting, Stage.result, bind, Except.bind] at h
    | done h => exact ⟨rfl, h, rfl⟩

/-- **The final answer is that of the first request which is not sent elsewhere.** -/
theorem head_ok_iff : s.head k i = .ok (status, reading) ↔
    ∃ n ≤ k, (∀ j < n, (s (i + j)).Follows) ∧ (s (i + n)).Heads status reading := by
  constructor
  · intro h
    induction k generalizing i with
    | zero =>
      obtain ⟨hconnecting, first, hwaiting⟩ := stages_of_head h
      rcases follows_or_heads hconnecting hwaiting with hfollows | hheads
      · rw [head_zero_of_follows hfollows] at h
        cases h
      · rw [head_of_heads hheads] at h
        cases h
        exact ⟨0, Nat.le_refl 0, nofun, hheads⟩
    | succ k ih =>
      obtain ⟨hconnecting, first, hwaiting⟩ := stages_of_head h
      rcases follows_or_heads hconnecting hwaiting with hfollows | hheads
      · rw [head_of_follows hfollows] at h
        obtain ⟨n, hn, hbefore, hheads⟩ := ih h
        refine ⟨n + 1, Nat.succ_le_succ hn, fun j hj => ?_, ?_⟩
        · cases j with
          | zero => exact hfollows
          | succ j =>
            rw [← Nat.add_assoc, Nat.add_right_comm]
            exact hbefore j (Nat.lt_of_succ_lt_succ hj)
        · rw [← Nat.add_assoc, Nat.add_right_comm]
          exact hheads
      · rw [head_of_heads hheads] at h
        cases h
        exact ⟨0, Nat.zero_le _, nofun, hheads⟩
  · rintro ⟨n, hn, hbefore, hheads⟩
    induction n generalizing k i with
    | zero => exact head_of_heads hheads
    | succ n ih =>
      cases k with
      | zero => cases hn
      | succ k =>
        have hfirst : (s i).Follows := hbefore 0 (Nat.succ_pos n)
        rw [head_of_follows hfirst]
        refine ih (Nat.le_of_succ_le_succ hn) (fun j hj => ?_) ?_
        · rw [Nat.add_right_comm, Nat.add_assoc]
          exact hbefore (j + 1) (Nat.succ_lt_succ hj)
        · rw [Nat.add_right_comm, Nat.add_assoc]
          exact hheads

end Story

theorem Request.outcome_ok_iff {r : Request} {s : Story} {status : Nat} {text : String} :
    r.outcome s = .ok (status, text) ↔ r.IsAnswered s status text := by
  have hhead : s.head redirectLimit 0 = .ok (status, .done text) ↔ _ := Story.head_ok_iff
  simp only [Nat.zero_add] at hhead
  rw [Request.outcome, Request.IsAnswered]
  cases r.isSendable with
  | false => simp
  | true =>
    rw [if_pos rfl, ← hhead, Story.outcome]
    refine ⟨fun h => ⟨rfl, ?_⟩, fun h => by rw [h.2]; rfl⟩
    cases hfinal : s.head redirectLimit 0 with
    | error l => simp [hfinal, bind, Except.bind] at h
    | ok final =>
      obtain ⟨status', reading⟩ := final
      cases reading with
      | breaks | late => simp [hfinal, Stage.result, bind, Except.bind] at h
      | done text' =>
        simp only [hfinal, Stage.result, bind, Except.bind, Except.ok.injEq, Prod.mk.injEq] at h
        rw [h.1, h.2]

/-! ### Reports of it -/

/-- The failure is a timeout just if the loss is one. -/
def Carrier.Tells {World : Type} (carrier : Carrier World) (f : carrier.Failure) (l : Loss) :
    Prop :=
  carrier.isTimeout f = true ↔ l = .late

/-- **What those who carry a call are documented to do.**  Sending gives the final answer once
    its head is there, and fails if it never comes or if there is nothing to send; reading gives
    the whole text, and fails if it is cut off.  Timeouts are told from other failures. -/
structure Carrier.IsDocumented (carrier : Carrier Story) : Prop where
  unsendable {r : Request} {s : Story} : r.isSendable = false →
    ∃ f, carrier.send r s = .error f ∧ carrier.Tells f .noRequest
  answered {r : Request} {s : Story} {status : Nat} {reading : Stage String} :
    r.isSendable = true → s.head redirectLimit 0 = .ok (status, reading) →
    ∃ a, carrier.send r s = .ok a ∧ carrier.status a = status
  unanswered {r : Request} {s : Story} {l : Loss} : r.isSendable = true →
    s.head redirectLimit 0 = .error l → ∃ f, carrier.send r s = .error f ∧ carrier.Tells f l
  whole {r : Request} {s : Story} {status : Nat} {text : String} {a : carrier.Answer} :
    s.head redirectLimit 0 = .ok (status, .done text) → carrier.send r s = .ok a →
    carrier.text a = .ok text
  cut {r : Request} {s : Story} {status : Nat} {reading : Stage String} {l : Loss}
    {a : carrier.Answer} : s.head redirectLimit 0 = .ok (status, reading) →
    reading.result = .error l → carrier.send r s = .ok a →
    ∃ f, carrier.text a = .error f ∧ carrier.Tells f l

/-! ### Judgements -/

/-- What a call says about the image, from what it came to. -/
inductive Judged (deadline : Span) :
    Except Loss (Nat × String) → Except Fault (List Prediction) → Prop where
  | found {status : Nat} {body : String} {ps : List Prediction}
      (hstatus : isSuccess status = true) (hbody : predictionsOf body = .ok ps) :
      Judged deadline (.ok (status, body)) (.ok ps)
  | malformed {status : Nat} {body reason : String} (hstatus : isSuccess status = true)
      (hbody : predictionsOf body = .error (.malformed reason)) :
      Judged deadline (.ok (status, body)) (.error (.malformed reason))
  | rejected {status : Nat} {body : String} (hstatus : isClientError status = true) :
      Judged deadline (.ok (status, body)) (.error (.rejected status body))
  | unavailable {status : Nat} {body : String} (hsuccess : isSuccess status = false)
      (hclient : isClientError status = false) :
      Judged deadline (.ok (status, body)) (.error (.unavailable status body))
  | late : Judged deadline (.error .late) (.error (.timeout deadline))
  | lost {l : Loss} (reason : String) (hl : l ≠ .late) :
      Judged deadline (.error l) (.error (.transport reason))

section

variable {World : Type} {carrier : Carrier World} {status : Nat} {body : String} {l : Loss}
  {deadline : Span} {f : carrier.Failure} {a : carrier.Answer}

/-- An answer that is not accepted is malformed. -/
theorem malformed_of_error {fault : Fault} (h : predictionsOf body = .error fault) :
    ∃ reason, fault = .malformed reason := by
  unfold predictionsOf at h
  split at h
  · cases h
    exact ⟨_, rfl⟩
  · simp only at h
    split at h
    · cases h
    · cases h
      exact ⟨_, rfl⟩

/-- A failure that tells of a loss is classified by it. -/
theorem Carrier.Tells.judged (h : carrier.Tells f l) :
    Judged deadline (.error l) (.error (carrier.classifyFailure deadline f)) := by
  by_cases hl : l = .late
  · rw [Carrier.classifyFailure, if_pos (h.mpr hl), hl]
    exact .late
  · rw [Carrier.classifyFailure, if_neg (mt h.mp hl)]
    exact .lost _ hl

theorem Carrier.judge_answer (deadline : Span) (a : carrier.Answer) :
    carrier.judge deadline (.ok a) =
      ((carrier.text a).mapError (carrier.classifyFailure deadline)).bind fun body =>
        if isSuccess (carrier.status a) then predictionsOf body
        else .error (classifyStatus (carrier.status a) body) := rfl

theorem Carrier.judge_of_cut (htext : carrier.text a = .error f) :
    carrier.judge deadline (.ok a) = .error (carrier.classifyFailure deadline f) := by
  rw [judge_answer, htext]
  rfl

theorem Carrier.judge_of_text (htext : carrier.text a = .ok body) :
    carrier.judge deadline (.ok a) =
      if isSuccess (carrier.status a) then predictionsOf body
      else .error (classifyStatus (carrier.status a) body) := by
  rw [judge_answer, htext]
  rfl

/-- A complete answer is judged by its status and its text. -/
theorem Carrier.judged_of_text (htext : carrier.text a = .ok body) :
    Judged deadline (.ok (carrier.status a, body)) (carrier.judge deadline (.ok a)) := by
  rw [judge_of_text htext]
  by_cases hsuccess : isSuccess (carrier.status a) = true
  · rw [if_pos hsuccess]
    cases hbody : predictionsOf body with
    | ok ps => exact .found hsuccess hbody
    | error fault =>
      obtain ⟨reason, rfl⟩ := malformed_of_error hbody
      exact .malformed hsuccess hbody
  · rw [if_neg hsuccess, classifyStatus]
    by_cases hclient : isClientError (carrier.status a) = true
    · rw [if_pos hclient]
      exact .rejected hclient
    · rw [if_neg hclient]
      exact .unavailable (Bool.eq_false_iff.mpr hsuccess) (Bool.eq_false_iff.mpr hclient)

/-- **A call is judged by what happened**, whoever carries it. -/
theorem Carrier.IsDocumented.judged {carrier : Carrier Story} (h : carrier.IsDocumented)
    (r : Request) (s : Story) (deadline : Span) :
    Judged deadline (r.outcome s) (carrier.judge deadline (carrier.send r s)) := by
  have hlost {f : carrier.Failure} {l : Loss} (hsend : carrier.send r s = .error f)
      (htells : carrier.Tells f l) :
      Judged deadline (.error l) (carrier.judge deadline (carrier.send r s)) := by
    rw [hsend]
    exact htells.judged
  cases hsendable : r.isSendable with
  | false =>
    obtain ⟨f, hsend, htells⟩ := h.unsendable (s := s) hsendable
    rw [Request.outcome, hsendable]
    exact hlost hsend htells
  | true =>
    rw [Request.outcome, hsendable, if_pos rfl, Story.outcome]
    cases hhead : s.head redirectLimit 0 with
    | error l =>
      obtain ⟨f, hsend, htells⟩ := h.unanswered hsendable hhead
      exact hlost hsend htells
    | ok final =>
      obtain ⟨status, reading⟩ := final
      obtain ⟨a, hsend, rfl⟩ := h.answered hsendable hhead
      cases hreading : reading.result with
      | error l =>
        obtain ⟨f, htext, htells⟩ := h.cut hhead hreading hsend
        rw [hsend, judge_of_cut htext]
        simp only [bind, Except.bind, hreading]
        exact htells.judged
      | ok body =>
        cases reading with
        | breaks | late => cases hreading
        | done =>
          cases hreading
          rw [hsend]
          exact judged_of_text (h.whole hhead hsend)

/-- The answer is the last word about the image. -/
def IsConclusive (status : Nat) : Prop := isSuccess status = true ∨ isClientError status = true

/-- Only what a complete answer of success or of a client's error says would be said again. -/
theorem Judged.isFinal_iff {o : Except Loss (Nat × String)}
    {answer : Except Fault (List Prediction)} (h : Judged deadline o answer) :
    (∀ f, answer = .error f → f.isRetryable = false) ↔
      ∃ status body, o = .ok (status, body) ∧ IsConclusive status := by
  cases h with
  | found hstatus => exact ⟨fun _ => ⟨_, _, rfl, Or.inl hstatus⟩, fun _ => nofun⟩
  | malformed hstatus =>
    refine ⟨fun _ => ⟨_, _, rfl, Or.inl hstatus⟩, fun _ f hf => ?_⟩
    cases hf
    rfl
  | rejected hstatus =>
    refine ⟨fun _ => ⟨_, _, rfl, Or.inr hstatus⟩, fun _ f hf => ?_⟩
    cases hf
    rfl
  | unavailable hsuccess hclient =>
    refine ⟨fun hfinal => Bool.noConfusion (hfinal _ rfl), ?_⟩
    rintro ⟨status, body, ho, hstatus⟩
    cases ho
    rcases hstatus with hstatus | hstatus
    · rw [hsuccess] at hstatus
      cases hstatus
    · rw [hclient] at hstatus
      cases hstatus
  | late => exact ⟨fun hfinal => Bool.noConfusion (hfinal _ rfl), fun ⟨_, _, ho, _⟩ => (nomatch ho)⟩
  | lost => exact ⟨fun hfinal => Bool.noConfusion (hfinal _ rfl), fun ⟨_, _, ho, _⟩ => (nomatch ho)⟩

end

/-! ### One way to carry a call -/

def Loss.describe : Loss → String
  | .noRequest => "builder error"
  | .late => "operation timed out"
  | .broken reason => reason
  | .tooManyRedirects => "too many redirects"

/-- Reports what happened, word for word. -/
def messenger : Carrier Story where
  Failure := Loss
  Answer := Nat × Stage String
  send r s := if r.isSendable then s.head redirectLimit 0 else .error .noRequest
  status := Prod.fst
  text a := a.2.result
  isTimeout l := l = .late
  describe := Loss.describe

theorem messenger_send {r : Request} (h : r.isSendable = true) (s : Story) :
    messenger.send r s = s.head redirectLimit 0 := if_pos h

theorem messenger_sent {r : Request} {s : Story} {a : messenger.Answer}
    (h : messenger.send r s = .ok a) : s.head redirectLimit 0 = .ok a := by
  cases hsendable : r.isSendable with
  | true => rwa [messenger_send hsendable] at h
  | false => simp [messenger, hsendable] at h

theorem messenger_tells (l : Loss) : messenger.Tells l l := decide_eq_true_iff

theorem messenger_isDocumented : messenger.IsDocumented where
  unsendable h := ⟨.noRequest, by simp [messenger, h], messenger_tells _⟩
  answered h hhead := ⟨_, (messenger_send h _).trans hhead, rfl⟩
  unanswered h hhead := ⟨_, (messenger_send h _).trans hhead, messenger_tells _⟩
  whole hhead hsend := by
    cases hhead.symm.trans (messenger_sent hsend)
    rfl
  cut hhead hreading hsend := by
    cases hhead.symm.trans (messenger_sent hsend)
    exact ⟨_, hreading, messenger_tells _⟩

/-! ### Calls to a service that always does the same -/

/-- What happens on the wire to a request that meets with a response, or does not arrive. -/
def storyOf : Option Response → Story
  | none, _ => ⟨.breaks "connection refused", .late, .late⟩
  | some .hangUp, _ => ⟨.done (), .breaks "connection closed", .late⟩
  | some .silence, _ => ⟨.done (), .late, .late⟩
  | some (.answer status body), _ => ⟨.done (), .done ⟨status, none⟩, .done body⟩

theorem Exchange.carrier_tells {e : Exchange} {l : Loss} (h : e = .late ↔ l = .late) :
    carrier.Tells e l :=
  decide_eq_true_iff.trans h

/-- **An exchange that is over is judged by what happened as well.** -/
theorem Client.call_judged (c : Client) (imageUrl : String) (deadline : Span)
    (response : Option Response) :
    Judged deadline ((c.request imageUrl deadline).outcome (storyOf response))
      ((c.call fun _ => response).result deadline) := by
  have hlost {e : Exchange} {l : Loss} (hsent : e.sent = .error e) (h : e = .late ↔ l = .late) :
      Judged deadline (.error l) (e.result deadline) := by
    rw [Exchange.result, hsent]
    exact (Exchange.carrier_tells h).judged
  rw [Request.outcome, Request.isSendable, Client.request, call]
  cases Url.read c.endpoint with
  | error _ => exact hlost rfl (iff_of_false nofun nofun)
  | ok u =>
    simp only
    by_cases hsend : canSend u.withoutCredentials = true
    · rw [if_pos hsend, if_neg fun hnot => hnot hsend]
      cases response with
      | none => exact hlost rfl (iff_of_false nofun nofun)
      | some response =>
        cases response with
        | silence => exact hlost rfl (iff_of_true rfl rfl)
        | hangUp => exact hlost rfl (iff_of_false nofun nofun)
        | answer status body =>
          have htext : Exchange.carrier.text (status, body) = .ok body := rfl
          exact Carrier.judged_of_text htext
    · rw [if_neg hsend, if_pos hsend]
      exact hlost rfl (iff_of_false nofun nofun)

end DetectionJobs.Detection
