/-
  DetectionJobs/Proofs/Transactions/Steps.lean
  ============================================
  **What every step of a workload keeps.**

  The committed tables are what the committed writes leave one after the other.  Nobody holds
  a lock together with somebody else, and so nobody but a call itself changes what the tables
  hold of a job that it has locked.
-/
import DetectionJobs.Proofs.Transactions.Sequels

namespace DetectionJobs.Repository

namespace Workload

/-! ### Steps -/

inductive Change (f : Workload) : Action → Workload → Prop where
  | called {c : Call} {now : Instant} {ids : Nat → Uuid} :
      Change f (.call c now ids) { f with
        sessions := f.sessions ++ [⟨c, now, ids, f.log.length, .running (c.script now), none⟩] }
  | failed {i : Nat} {fate : Fate} {c : Session} {s : Statement} {next : Reply → Script Answer}
      (hc : f.sessions[i]? = some c) (hstage : c.stage = .running (.send s next)) :
      Change f (.send i fate) (f.put i { c with stage := .failed s })
  | served {i : Nat} {fate : Fate} {c : Session} {s : Statement} {next : Reply → Script Answer}
      {committed : Tables} {transaction? : Option Transaction} {reply : Reply}
      (hc : f.sessions[i]? = some c) (hstage : c.stage = .running (.send s next))
      (hfree : f.waits i s = false)
      (hserved : c.carryOut f.tables s = .ok (committed, transaction?, reply)) :
      Change f (.send i fate) (f.served i c s fate next committed transaction? reply)
  | dropped {i : Nat} {c : Session} (hc : f.sessions[i]? = some c)
      (hstage : ∀ script, c.stage ≠ .running script) :
      Change f (.drop i) (f.put i { c with transaction? := none })

theorem change_of_step {f f' : Workload} {a : Action} (h : f.step? a = some f') :
    Change f a f' := by
  cases a with
  | call c now ids =>
    cases h
    exact .called
  | send i fate =>
    obtain ⟨c, hc, h⟩ := Option.bind_eq_some_iff.mp h
    split at h
    next s next hstage =>
      split at h
      · cases h
        exact .failed hc hstage
      split at h
      · cases h
      next hwaits =>
        split at h
        · cases h
          exact .failed hc hstage
        next hserved =>
          cases h
          exact .served hc hstage (Bool.eq_false_iff.mpr hwaits) hserved
    · cases h
  | drop i =>
    obtain ⟨c, hc, h⟩ := Option.bind_eq_some_iff.mp h
    split at h
    · cases h
    next hstage =>
      cases h
      exact .dropped hc hstage

/-! ### Locks -/

/-- Nobody but a session at a place holds the lock on a job. -/
def Free (f : Workload) (i : Nat) (jobId : String) : Prop :=
  ∀ k c, f.sessions[k]? = some c → jobId ∈ locksOf c.transaction? → k = i

variable {t₀ : Tables} {f f' : Workload} {i : Nat} {c : Session}

theorem holds_of_mem {k : Nat} {jobId : String} (hc : f.sessions[k]? = some c)
    (h : jobId ∈ locksOf c.transaction?) : f.holds k jobId = true := by
  rw [holds, hc, Option.bind_some]
  cases hx : c.transaction? with
  | none =>
    rw [hx] at h
    cases h
  | some x =>
    rw [hx] at h
    exact List.contains_iff_mem.mpr h

/-- A statement does not wait if nobody else holds the lock, or if it has nothing to do. -/
theorem free_of_waits {s : Statement} {jobId : String} (h : f.waits i s = false)
    (hlock : s.lock? = some jobId) (hsettled : s.isSettled f.tables = false) : f.Free i jobId := by
  intro k c hc hmem
  by_contra hne
  rw [waits, hsettled, hlock, Bool.not_false, Bool.true_and, Option.any_some,
    List.any_eq_false] at h
  have hk : k < f.sessions.length := (List.getElem?_eq_some_iff.mp hc).1
  apply h k (List.mem_range.mpr hk)
  rw [holds_of_mem hc hmem, decide_eq_true hne]
  rfl

/-! ### Sessions -/

/-- How a session stands to the writes that are committed. -/
inductive Standing (t₀ t : Tables) (log : List Entry) (i : Nat) (c : Session) : Prop where
  | running {script : Script Answer} (hstage : c.stage = .running script)
      (hnone : i ∉ log.map (·.session)) (h : InProgress t₀ t log c script c.transaction?)
  | failed {s : Statement} (hstage : c.stage = .failed s)
      (hnone : ∀ r, c.call = .upsert r → s ≠ .commit → i ∉ log.map (·.session))
  | read {jobId : String} {k : Nat} (hcall : c.call = .get jobId)
      (hstage : c.stage = .answered (.view ((after t₀ (log.take k)).viewOf jobId)))
      (hsince : c.since ≤ k) (hlog : k ≤ log.length)
  | wrote {a : Answer} (hcall : c.call.isWrite = true) (hstage : c.stage = .answered a)
      (hsome : i ∈ log.map (·.session))

def terms (c : Session) : Call × Instant × (Nat → Uuid) := (c.call, c.now, c.ids)

/-- What holds of a store that began with some tables, however it is used. -/
structure Sound (t₀ : Tables) (f : Workload) : Prop where
  tables : f.tables = after t₀ f.log
  unique : f.tables.Unique
  exclusive : ∀ i c jobId, f.sessions[i]? = some c → jobId ∈ locksOf c.transaction? →
    f.Free i jobId
  since : ∀ c ∈ f.sessions, c.since ≤ f.log.length
  standing : ∀ i c, f.sessions[i]? = some c → Standing t₀ f.tables f.log i c
  accepted : ∀ e ∈ f.log, e.call.Accepted e.now
  entries : ∀ e ∈ f.log, (f.sessions.map terms)[e.session]? = some (e.call, e.now, e.ids)
  once : (f.log.map (·.session)).Nodup

/-- What is left to a call does not hang on how it got there. -/
theorem InProgress.moved {t : Tables} {log : List Entry} {script : Script Answer}
    {x : Option Transaction} (h : InProgress t₀ t log c script x) (stage : Stage)
    (transaction? : Option Transaction) :
    InProgress t₀ t log { c with stage := stage, transaction? := transaction? } script x := by
  cases h with
  | fresh => exact .fresh
  | begun hcall => exact .begun hcall
  | placed hcall hjob hversion => exact .placed hcall hjob hversion
  | cleared hcall hjob hold hversion hrows => exact .cleared hcall hjob hold hversion hrows
  | filled hcall hstorable hversion hrows => exact .filled hcall hstorable hversion hrows
  | reading hcall => exact .reading hcall
  | asking hcall => exact .asking hcall
  | found hcall hsince hlog hjob hstatus => exact .found hcall hsince hlog hjob hstatus
  | closing hcall hsince hlog => exact .closing hcall hsince hlog

/-- Another session's write leaves a session as it stands. -/
theorem Standing.mono {t t' : Tables} {log : List Entry} (h : Standing t₀ t log i c) (e : Entry)
    (hother : e.session ≠ i) (hsame : ∀ jobId ∈ locksOf c.transaction?, t.SameJob jobId t') :
    Standing t₀ t' (log ++ [e]) i c := by
  have hmem : i ∈ (log ++ [e]).map (·.session) ↔ i ∈ log.map (·.session) := by
    rw [List.map_append, List.mem_append, List.map_singleton, List.mem_singleton,
      or_iff_left hother.symm]
  have hlength : log.length ≤ (log ++ [e]).length := by
    rw [List.length_append]
    omega
  cases h with
  | running hstage hnone hrunning =>
    exact .running hstage (fun h => hnone (hmem.mp h)) (hrunning.mono [e] hsame)
  | failed hstage hnone =>
    exact .failed hstage fun r hcall hs h => hnone r hcall hs (hmem.mp h)
  | @read jobId k hcall hstage hsince hlog =>
    have htake : (log ++ [e]).take k = log.take k := List.take_append_of_le_length hlog
    rw [← htake] at hstage
    exact .read hcall hstage hsince (Nat.le_trans hlog hlength)
  | wrote hcall hstage hsome => exact .wrote hcall hstage (hmem.mpr hsome)

theorem session_put {c' d : Session} {k : Nat} (h : (f.sessions.set i c')[k]? = some d) :
    k = i ∧ d = c' ∨ k ≠ i ∧ f.sessions[k]? = some d := by
  by_cases hk : k = i
  · subst hk
    rw [List.getElem?_set_self', Option.map_eq_map, Option.map_eq_some_iff] at h
    obtain ⟨_, -, rfl⟩ := h
    exact .inl ⟨rfl, rfl⟩
  · rw [List.getElem?_set_ne fun heq => hk heq.symm] at h
    exact .inr ⟨hk, h⟩

theorem session_append {c' d : Session} {k : Nat} (h : (f.sessions ++ [c'])[k]? = some d) :
    k = f.sessions.length ∧ d = c' ∨ f.sessions[k]? = some d := by
  rcases Nat.lt_or_ge k f.sessions.length with hk | hk
  · rw [List.getElem?_append_left hk] at h
    exact .inr h
  · rw [List.getElem?_append_right hk, List.getElem?_singleton] at h
    split at h
    · cases h
      exact .inl ⟨by omega, rfl⟩
    · cases h

theorem terms_set (hc : f.sessions[i]? = some c) (c' : Session) (hterms : terms c' = terms c) :
    (f.sessions.set i c').map terms = f.sessions.map terms := by
  obtain ⟨hi, rfl⟩ := List.getElem?_eq_some_iff.mp hc
  rw [List.map_set, hterms, ← List.getElem_map terms, List.set_getElem_self]
  rwa [List.length_map]

/-! ### What a step keeps -/

namespace Sound

theorem opening {t : Tables} (h : t.Unique) : (Workload.opening t).Sound t where
  tables := rfl
  unique := h
  exclusive := fun _ _ _ hc => by cases hc
  since := fun _ hc => by cases hc
  standing := fun _ _ hc => by cases hc
  accepted := fun _ he => by cases he
  entries := fun _ he => by cases he
  once := List.nodup_nil

/-- Locks stay exclusive if what a session holds then is held by nobody else. -/
theorem exclusive_of_set (h : Sound t₀ f) {c' : Session}
    (hfree : ∀ jobId ∈ locksOf c'.transaction?, f.Free i jobId)
    (hsessions : f'.sessions = f.sessions.set i c') (k : Nat) (d : Session) (jobId : String)
    (hd : f'.sessions[k]? = some d) (hmem : jobId ∈ locksOf d.transaction?) :
    f'.Free k jobId := by
  intro m e he hmem'
  rw [hsessions] at hd he
  obtain ⟨rfl, rfl⟩ | ⟨-, hd'⟩ := session_put hd
  · obtain ⟨rfl, -⟩ | ⟨-, he'⟩ := session_put he
    · rfl
    · exact hfree jobId hmem m e he' hmem'
  · obtain ⟨rfl, rfl⟩ | ⟨-, he'⟩ := session_put he
    · exact (hfree jobId hmem' k d hd' hmem).symm
    · exact h.exclusive k d jobId hd' hmem m e he' hmem'

theorem since_of_set (h : Sound t₀ f) (hc : f.sessions[i]? = some c) (c' : Session)
    (hsince : c'.since = c.since) : ∀ d ∈ f.sessions.set i c', d.since ≤ f.log.length := by
  intro d hd
  rcases List.mem_or_eq_of_mem_set hd with hd | rfl
  · exact h.since d hd
  · rw [hsince]
    exact h.since c (List.mem_of_getElem? hc)

/-- A session moves on, and nothing is committed. -/
theorem put (h : Sound t₀ f) (hc : f.sessions[i]? = some c) {stage : Stage}
    {transaction? : Option Transaction}
    (hlocks : ∀ jobId ∈ locksOf transaction?,
      jobId ∈ locksOf c.transaction? ∨ f.Free i jobId)
    (hstanding : Standing t₀ f.tables f.log i
      { c with stage := stage, transaction? := transaction? }) :
    (f.put i { c with stage := stage, transaction? := transaction? }).Sound t₀ where
  tables := h.tables
  unique := h.unique
  exclusive := by
    refine h.exclusive_of_set ?_ rfl
    intro jobId hmem
    exact (hlocks jobId hmem).elim (h.exclusive i c jobId hc) id
  since := h.since_of_set hc _ rfl
  standing := by
    intro k d hd
    obtain ⟨rfl, rfl⟩ | ⟨-, hd⟩ := session_put hd
    · exact hstanding
    · exact h.standing k d hd
  accepted := h.accepted
  entries := by
    intro e he
    have hterms := terms_set hc { c with stage := stage, transaction? := transaction? } rfl
    exact hterms ▸ h.entries e he
  once := h.once

/-- A session commits its write. -/
theorem commit (h : Sound t₀ f) (hc : f.sessions[i]? = some c) {stage : Stage}
    (hnone : i ∉ f.log.map (·.session)) (haccepted : c.call.Accepted c.now)
    (hfree : f.Free i c.call.jobId ∨ c.call.written c.now c.ids f.tables = f.tables)
    (hstanding : ∀ t log, i ∈ log.map (·.session) →
      Standing t₀ t log i { c with stage := stage, transaction? := none }) :
    Sound t₀ ⟨c.call.written c.now c.ids f.tables,
      f.sessions.set i { c with stage := stage, transaction? := none },
      f.log ++ [⟨i, c.call, c.now, c.ids⟩]⟩ where
  tables := by
    show _ = after t₀ (f.log ++ _)
    rw [after_append, ← h.tables]
    exact (Call.alone_of_accepted haccepted c.ids f.tables).symm
  unique := Call.unique_written h.unique c.call c.now c.ids
  exclusive := h.exclusive_of_set (fun _ hmem => by cases hmem) rfl
  since := by
    intro d hd
    show _ ≤ (f.log ++ _).length
    rw [List.length_append]
    have hle := h.since_of_set hc { c with stage := stage, transaction? := none } rfl d hd
    exact Nat.le_add_right_of_le hle
  standing := by
    intro k d hd
    obtain ⟨rfl, rfl⟩ | ⟨hk, hd⟩ := session_put hd
    · apply hstanding
      rw [List.map_append, List.map_singleton]
      exact List.mem_append_right _ (List.mem_singleton_self _)
    · refine (h.standing k d hd).mono _ hk.symm ?_
      -- what another session has locked is not what is written
      intro jobId hmem
      by_cases hjob : jobId = c.call.jobId
      · rcases hfree with hfree | hsame
        · exact absurd (hfree k d hd (hjob ▸ hmem)) hk
        · rw [hsame]
          exact ⟨rfl, rfl⟩
      · exact Call.sameJob_written c.call c.now c.ids f.tables hjob
  accepted := by
    intro e he
    rcases List.mem_append.mp he with he | he
    · exact h.accepted e he
    · rw [List.mem_singleton.mp he]
      exact haccepted
  entries := by
    intro e he
    show ((f.sessions.set i _).map terms)[e.session]? = _
    rw [terms_set hc { c with stage := stage, transaction? := none } rfl]
    rcases List.mem_append.mp he with he | he
    · exact h.entries e he
    · rw [List.mem_singleton.mp he, List.getElem?_map, hc]
      rfl
  once := by
    rw [List.map_append, List.map_singleton, List.nodup_append]
    refine ⟨h.once, List.nodup_singleton _, ?_⟩
    intro k hk m hm heq
    rw [heq, List.mem_singleton.mp hm] at hk
    exact hnone hk

theorem call (h : Sound t₀ f) (c : Call) (now : Instant) (ids : Nat → Uuid) :
    Sound t₀ { f with
      sessions := f.sessions ++ [⟨c, now, ids, f.log.length, .running (c.script now), none⟩] } where
  tables := h.tables
  unique := h.unique
  exclusive := by
    intro i d jobId hd hmem k e he hmem'
    rcases session_append hd with ⟨-, rfl⟩ | hd
    · cases hmem
    rcases session_append he with ⟨-, rfl⟩ | he
    · cases hmem'
    exact h.exclusive i d jobId hd hmem k e he hmem'
  since := by
    intro d hd
    rcases List.mem_append.mp hd with hd | hd
    · exact h.since d hd
    · exact Nat.le_of_eq (congrArg Session.since (List.mem_singleton.mp hd))
  standing := by
    intro i d hd
    rcases session_append hd with ⟨rfl, rfl⟩ | hd
    · refine .running rfl ?_ .fresh
      intro hmem
      obtain ⟨e, he, hi⟩ := List.mem_map.mp hmem
      have hentry := h.entries e he
      rw [hi, List.getElem?_map, List.getElem?_eq_none (Nat.le_refl _)] at hentry
      cases hentry
    · exact h.standing i d hd
  accepted := h.accepted
  entries := by
    intro e he
    show ((f.sessions ++ _).map terms)[e.session]? = _
    have hentry := h.entries e he
    have hlt := (List.getElem?_eq_some_iff.mp hentry).1
    rw [List.map_append, List.getElem?_append_left hlt]
    exact hentry
  once := h.once

theorem underway (h : Sound t₀ f) (hc : f.sessions[i]? = some c) {script : Script Answer}
    (hstage : c.stage = .running script) :
    i ∉ f.log.map (·.session) ∧ InProgress t₀ f.tables f.log c script c.transaction? := by
  cases h.standing i c hc with
  | running hstage' hnone hrunning =>
    rw [hstage] at hstage'
    cases hstage'
    exact ⟨hnone, hrunning⟩
  | failed hstage' | read _ hstage' | wrote _ hstage' =>
    rw [hstage] at hstage'
    cases hstage'

theorem served (h : Sound t₀ f) (hc : f.sessions[i]? = some c) {s : Statement}
    {next : Reply → Script Answer} (hstage : c.stage = .running (.send s next))
    (hfree : f.waits i s = false) {committed : Tables} {transaction? : Option Transaction}
    {reply : Reply} (hserved : c.carryOut f.tables s = .ok (committed, transaction?, reply))
    (fate : Fate) : (f.served i c s fate next committed transaction? reply).Sound t₀ := by
  obtain ⟨hnone, hrunning⟩ := h.underway hc hstage
  have hsequel := hrunning.sequel h.tables h.unique (h.since c (List.mem_of_getElem? hc)) hserved
  rw [Workload.served]
  generalize next reply = rest at hsequel
  cases hsequel with
  | goesOn hquiet hlocks hgoing =>
    rw [hquiet]
    refine h.put hc ?_ ?_
    · intro jobId hmem
      refine (hlocks jobId hmem).imp_right ?_
      rintro ⟨hlock, hsettled⟩
      exact free_of_waits hfree hlock hsettled
    · by_cases hlost : fate = .lost
      · rw [if_pos hlost]
        exact .failed rfl fun _ _ _ => hnone
      · rw [if_neg hlost]
        obtain ⟨s', next', rfl⟩ := hgoing.sends
        exact .running rfl hnone (hgoing.moved _ _)
  | reads hcall hlocks hsince hlog =>
    have hquiet : (c.call.isWrite && c.commits s) = false := by
      rw [hcall]
      rfl
    rw [hquiet]
    refine h.put hc ?_ ?_
    · intro jobId hmem
      rw [hlocks] at hmem
      cases hmem
    · by_cases hlost : fate = .lost
      · rw [if_pos hlost]
        exact .failed rfl fun _ _ _ => hnone
      · rw [if_neg hlost]
        exact .read hcall rfl hsince hlog
  | writes hcommits haccepted hlast hlock =>
    have hwrite := Call.isWrite_of_accepted haccepted
    rw [hcommits, hwrite]
    refine h.commit hc hnone haccepted ?_ ?_
    · -- the lock was held before, or the statement got it, or it had nothing to write
      rcases hlock with hmem | ⟨hlock, hsettled⟩
      · exact .inl (h.exclusive i c _ hc hmem)
      · cases hs : s.isSettled f.tables with
        | true => exact .inr (hsettled hs)
        | false => exact .inl (free_of_waits hfree hlock hs)
    · intro t log hmem
      by_cases hlost : fate = .lost
      · rw [if_pos hlost]
        exact .failed rfl fun r hcall hs => absurd (hlast r hcall) hs
      · rw [if_neg hlost]
        exact .wrote hwrite rfl hmem

/-- **Every step keeps all of this.** -/
theorem change {a : Action} (h : Sound t₀ f) (hchange : Change f a f') : f'.Sound t₀ := by
  cases hchange with
  | called => exact h.call ..
  | failed hc hstage =>
    obtain ⟨hnone, -⟩ := h.underway hc hstage
    exact h.put hc (fun _ hmem => .inl hmem) (.failed rfl fun _ _ _ => hnone)
  | served hc hstage hfree hserved => exact h.served hc hstage hfree hserved _
  | @dropped i c hc hstage =>
    refine h.put hc (fun _ hmem => by cases hmem) ?_
    cases h.standing i c hc with
    | running hstage' => exact absurd hstage' (hstage _)
    | failed hstage hnone => exact .failed hstage hnone
    | read hcall hstage hsince hlog => exact .read hcall hstage hsince hlog
    | wrote hcall hstage hsome => exact .wrote hcall hstage hsome

end Sound

end Workload

end DetectionJobs.Repository
