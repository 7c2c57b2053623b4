/-
  DetectionJobs/Proofs/Settings/Collecting.lean
  =============================================
  **Which environments settings can be read from.**

  The variables of a setting are those whose names are its name in any case.  They are
  collected one after the other, which goes wrong at the first one that is the second of its
  setting or stands for no value.  So settings can be read just if each of them has one
  variable at most, if every text stands for a value, and if the required ones are there; the
  order of the variables does not matter for that.
-/
import DetectionJobs.Proofs.Settings.Values

namespace DetectionJobs.Settings

/-- The variables of a setting: those whose names are its name in any case. -/
def variablesOf (name : String) (env : Environment) : Environment :=
  env.filter fun v => lowerName v.1 = name

/-- The texts for a setting: one that was taken before, and those of its variables. -/
def texts (taken : List (String × String)) (env : Environment) (name : String) : List String :=
  (taken.lookup name).toList ++ (variablesOf name env).map Prod.snd

/-- There is one text for each setting at most, and it stands for a value. -/
def Fits (taken : List (String × String)) (env : Environment) : Prop :=
  ∀ e ∈ kinds, (texts taken env e.1).length ≤ 1 ∧ ∀ t ∈ texts taken env e.1, ∃ x, e.2.Reads t x

variable {taken values : List (String × String)} {env : Environment} {name : String}
  {v : String × String} {k : Kind} {s : Settings}

/-! ### Variables -/

theorem mem_variablesOf : v ∈ variablesOf name env ↔ v ∈ env ∧ lowerName v.1 = name := by
  simp [variablesOf]

theorem variablesOf_append (name : String) (env defs : Environment) :
    variablesOf name (env ++ defs) = variablesOf name env ++ variablesOf name defs :=
  List.filter_append env defs

theorem variablesOf_cons_self (h : lowerName v.1 = name) (env : Environment) :
    variablesOf name (v :: env) = v :: variablesOf name env := by
  simp [variablesOf, h]

theorem variablesOf_cons_of_ne (h : lowerName v.1 ≠ name) (env : Environment) :
    variablesOf name (v :: env) = variablesOf name env := by
  simp [variablesOf, h]

theorem lookup_of_mem_kinds : ∀ e ∈ kinds, kinds.lookup e.1 = some e.2 := by decide +kernel

theorem mem_kinds_of_lookup (h : kinds.lookup name = some k) : (name, k) ∈ kinds := by
  obtain ⟨before, after, heq, _⟩ := List.lookup_eq_some_iff.mp h
  rw [heq]
  exact List.mem_append_right _ List.mem_cons_self

/-! ### Collecting -/

theorem texts_of_other (h : lowerName v.1 ≠ name) :
    texts taken (v :: env) name = texts taken env name := by
  rw [texts, variablesOf_cons_of_ne h, texts]

/-- A text that is taken next counts as taken before. -/
theorem texts_of_taken (h : taken.lookup (lowerName v.1) = none) (name : String) :
    texts ((lowerName v.1, v.2) :: taken) env name = texts taken (v :: env) name := by
  by_cases hname : lowerName v.1 = name
  · rw [texts, texts, variablesOf_cons_self hname, ← hname, h, List.lookup_cons_self]
    rfl
  · have hlookup : List.lookup name ((lowerName v.1, v.2) :: taken) = taken.lookup name := by
      rw [List.lookup_cons, beq_false_of_ne (Ne.symm hname)]
    rw [texts_of_other hname, texts, texts, hlookup]

/-- What becomes of the first of some variables. -/
inductive Collects (taken : List (String × String)) (v : String × String) (rest : Environment) :
    Except Fault (List (String × String)) → Prop where
  | other (hother : ∀ e ∈ kinds, lowerName v.1 ≠ e.1) : Collects taken v rest (collect taken rest)
  | again {k : Kind} {t : String} (hmem : (lowerName v.1, k) ∈ kinds)
      (htaken : taken.lookup (lowerName v.1) = some t) :
      Collects taken v rest (.error (.duplicate (lowerName v.1)))
  | unreadable {k : Kind} {problem : String} (hmem : (lowerName v.1, k) ∈ kinds)
      (hnone : ¬ ∃ x, k.Reads v.2 x) : Collects taken v rest (.error (.badValue problem v.2 v.1))
  | taken {k : Kind} {x : Value} (hmem : (lowerName v.1, k) ∈ kinds)
      (hnone : taken.lookup (lowerName v.1) = none) (hread : k.Reads v.2 x) :
      Collects taken v rest (collect ((lowerName v.1, v.2) :: taken) rest)

theorem collect_cons (taken : List (String × String)) (v : String × String) (rest : Environment) :
    Collects taken v rest (collect taken (v :: rest)) := by
  rw [collect]
  cases hkind : kinds.lookup (lowerName v.1) with
  | none =>
    refine .other fun e he heq => ?_
    rw [heq, lookup_of_mem_kinds e he] at hkind
    cases hkind
  | some k =>
    have hmem := mem_kinds_of_lookup hkind
    cases htaken : taken.lookup (lowerName v.1) with
    | some t => exact .again hmem htaken
    | none =>
      simp only [Option.isSome_none, Bool.false_eq_true, if_false]
      cases hproblem : k.problem? v.2 with
      | some problem =>
        refine .unreadable hmem fun hread => ?_
        rw [Kind.problem?_eq_none_iff.mpr hread] at hproblem
        cases hproblem
      | none =>
        obtain ⟨x, hread⟩ := Kind.problem?_eq_none_iff.mp hproblem
        exact .taken hmem htaken hread

/-- A text that stands for a value fits if it is the first one of its setting. -/
theorem Fits.take (h : Fits taken []) {x : Value} (hmem : (lowerName v.1, k) ∈ kinds)
    (hnone : taken.lookup (lowerName v.1) = none) (hread : k.Reads v.2 x) :
    Fits ((lowerName v.1, v.2) :: taken) [] := by
  intro e he
  rw [texts_of_taken hnone]
  by_cases hname : lowerName v.1 = e.1
  · have hkind : e.2 = k := by
      have hlookup := lookup_of_mem_kinds e he
      rw [← hname, lookup_of_mem_kinds _ hmem] at hlookup
      exact (Option.some.inj hlookup).symm
    rw [texts, variablesOf_cons_self hname, ← hname, hnone, hkind]
    exact ⟨Nat.le_refl 1, fun t ht => ⟨x, by rw [List.mem_singleton.mp ht]; exact hread⟩⟩
  · rw [texts_of_other hname]
    exact h e he

/-- Some variables fit and are all there, or they do not fit. -/
def Collected (taken : List (String × String)) (env : Environment)
    (result : Except Fault (List (String × String))) : Prop :=
  (∃ values, result = .ok values ∧ Fits taken env ∧
      ∀ e ∈ kinds, values.lookup e.1 = (texts taken env e.1).head?) ∨
    (∃ f, result = .error f) ∧ ¬ Fits taken env

/-- Only the texts for each setting matter. -/
theorem Collected.of_texts {taken' : List (String × String)} {env' : Environment}
    {result : Except Fault (List (String × String))} (h : Collected taken env result)
    (htexts : ∀ e ∈ kinds, texts taken env e.1 = texts taken' env' e.1) :
    Collected taken' env' result := by
  have hfits : Fits taken env ↔ Fits taken' env' := by
    refine forall₂_congr fun e he => ?_
    rw [htexts e he]
  refine h.imp (fun ⟨values, hok, hfit, hlookup⟩ => ?_) fun ⟨hfault, hnot⟩ => ?_
  · exact ⟨values, hok, hfits.mp hfit, fun e he => (hlookup e he).trans (by rw [htexts e he])⟩
  · exact ⟨hfault, fun hfit => hnot (hfits.mpr hfit)⟩

/-- **Variables are collected just if they fit**, and then they are all there. -/
theorem collected (hfits : Fits taken []) (env : Environment) :
    Collected taken env (collect taken env) := by
  induction env generalizing taken with
  | nil =>
    refine Or.inl ⟨taken, rfl, hfits, fun e _ => ?_⟩
    rw [texts, variablesOf, List.filter_nil, List.map_nil, List.append_nil, Option.head?_toList]
  | cons v rest ih =>
    have hmine : texts taken (v :: rest) (lowerName v.1) = (taken.lookup (lowerName v.1)).toList ++
        v.2 :: (variablesOf (lowerName v.1) rest).map Prod.snd := by
      rw [texts, variablesOf_cons_self rfl, List.map_cons]
    have hstep := collect_cons taken v rest
    generalize collect taken (v :: rest) = result at hstep ⊢
    cases hstep with
    | other hother =>
      exact (ih hfits).of_texts fun e he => (texts_of_other (hother e he)).symm
    | again hmem htaken =>
      refine Or.inr ⟨⟨_, rfl⟩, fun h => ?_⟩
      have hlength := (h _ hmem).1
      rw [hmine, htaken] at hlength
      simp at hlength
    | unreadable hmem hnone =>
      refine Or.inr ⟨⟨_, rfl⟩, fun h => hnone ?_⟩
      exact (h _ hmem).2 v.2 (by rw [hmine]; simp)
    | taken hmem hnone hread =>
      exact (ih (hfits.take hmem hnone hread)).of_texts fun e _ => texts_of_taken hnone e.1

/-! ### Settings of an environment -/

/-- Settings can be read from the environment. -/
structure Usable (env : Environment) : Prop where
  single : ∀ name k, (name, k) ∈ kinds → (variablesOf name env).length ≤ 1
  readable : ∀ name k, (name, k) ∈ kinds → ∀ v ∈ variablesOf name env, ∃ x, k.Reads v.2 x
  present : ∀ name ∈ requiredNames, variablesOf name env ≠ []

theorem Usable.eq_singleton (h : Usable env) (hk : (name, k) ∈ kinds)
    (hv : v ∈ variablesOf name env) : variablesOf name env = [v] := by
  have hlength := h.single name k hk
  match variablesOf name env, hlength, hv with
  | [w], _, hv => rw [List.mem_singleton.mp hv]
  | _ :: _ :: _, hlength, _ => simp at hlength

/-- The settings have the values of the environment, and their defaults elsewhere. -/
structure Reflects (env : Environment) (s : Settings) : Prop where
  given : ∀ name k, (name, k) ∈ kinds → ∀ v ∈ variablesOf name env,
    ∃ x, k.Reads v.2 x ∧ s.value? name = some x
  left : ∀ name k, (name, k) ∈ kinds → variablesOf name env = [] →
    name ∉ requiredNames ∧ s.value? name = defaults.lookup name

theorem texts_nil (env : Environment) (name : String) :
    texts [] env name = (variablesOf name env).map Prod.snd := rfl

theorem fits_nil : Fits [] [] := fun _ _ => ⟨Nat.zero_le 1, nofun⟩

theorem fits_iff : Fits [] env ↔ (∀ name k, (name, k) ∈ kinds → (variablesOf name env).length ≤ 1) ∧
    ∀ name k, (name, k) ∈ kinds → ∀ v ∈ variablesOf name env, ∃ x, k.Reads v.2 x := by
  simp only [Fits, texts_nil, List.length_map, List.forall_mem_map, Prod.forall]
  exact ⟨fun h => ⟨fun name k hk => (h name k hk).1, fun name k hk => (h name k hk).2⟩,
    fun h name k hk => ⟨h.1 name k hk, h.2 name k hk⟩⟩

theorem mem_kinds_of_required : ∀ name ∈ requiredNames, (name, Kind.text) ∈ kinds := by
  decide +kernel

/-- The settings made from the texts of an environment reflect it. -/
theorem reflects_ofValues (husable : Usable env)
    (hlookup : ∀ e ∈ kinds, values.lookup e.1 = (texts [] env e.1).head?) :
    Reflects env (ofValues values) := by
  refine ⟨fun name k hk v hv => ?_, fun name k hk hnone => ?_⟩
  · obtain ⟨x, hread⟩ := husable.readable name k hk v hv
    refine ⟨x, hread, (follows values _ hk).given v.2 x ?_ hread⟩
    rw [hlookup _ hk, texts_nil, husable.eq_singleton hk hv]
    rfl
  · have hnot : name ∉ requiredNames := fun hrequired => husable.present name hrequired hnone
    refine ⟨hnot, (follows values _ hk).left ?_ hnot⟩
    rw [hlookup _ hk, texts_nil, hnone]
    rfl

/-- Every value is of the kind of its setting. -/
theorem Reflects.allows (h : Reflects env s) (hk : (name, k) ∈ kinds) {x : Value}
    (hx : s.value? name = some x) : k.allows x = true := by
  cases hvariables : variablesOf name env with
  | nil =>
    have hdefault := allows_default _ hk
    rw [← (h.left name k hk hvariables).2, hx] at hdefault
    exact hdefault
  | cons v rest =>
    obtain ⟨y, hread, hy⟩ := h.given name k hk v (by rw [hvariables]; exact List.mem_cons_self)
    obtain rfl := Option.some.inj (hx.symm.trans hy)
    exact hread.allows

theorem ofEnvironment_of_missing (hok : collect [] env = .ok values)
    (hfind : requiredNames.find? (fun name => (values.lookup name).isNone) = some name) :
    ofEnvironment env = .error (.missing name) := by
  simp only [ofEnvironment, hok, bind, Except.bind, hfind]

theorem ofEnvironment_of_present (hok : collect [] env = .ok values)
    (hfind : requiredNames.find? (fun name => (values.lookup name).isNone) = none) :
    ofEnvironment env = .ok (ofValues values) := by
  simp only [ofEnvironment, hok, bind, Except.bind, hfind]

/-- **Settings are read just from a usable environment, and reflect it.** -/
theorem ofEnvironment_cases (env : Environment) :
    (∃ s, ofEnvironment env = .ok s ∧ Usable env ∧ Reflects env s) ∨
      (∃ f, ofEnvironment env = .error f) ∧ ¬ Usable env := by
  rcases collected fits_nil env with ⟨values, hok, hfits, hlookup⟩ | ⟨⟨f, herror⟩, hnot⟩
  · obtain ⟨hsingle, hreadable⟩ := fits_iff.mp hfits
    have habsent (name : String) (hrequired : name ∈ requiredNames) :
        values.lookup name = none ↔ variablesOf name env = [] := by
      rw [hlookup _ (mem_kinds_of_required name hrequired), List.head?_eq_none_iff, texts_nil,
        List.map_eq_nil_iff]
    cases hfind : requiredNames.find? fun name => (values.lookup name).isNone with
    | some name =>
      refine Or.inr ⟨⟨_, ofEnvironment_of_missing hok hfind⟩, fun husable => ?_⟩
      have hrequired := List.mem_of_find?_eq_some hfind
      have hnone := List.find?_some hfind
      exact husable.present name hrequired
        ((habsent name hrequired).mp (Option.isNone_iff_eq_none.mp hnone))
    | none =>
      have husable : Usable env := by
        refine ⟨hsingle, hreadable, fun name hrequired hnone => ?_⟩
        have hsome := List.find?_eq_none.mp hfind name hrequired
        rw [(habsent name hrequired).mpr hnone] at hsome
        exact hsome rfl
      exact Or.inl ⟨_, ofEnvironment_of_present hok hfind, husable,
        reflects_ofValues husable hlookup⟩
  · refine Or.inr ⟨⟨f, ?_⟩, fun husable => hnot ?_⟩
    · rw [ofEnvironment, herror]
      rfl
    · exact fits_iff.mpr ⟨husable.single, husable.readable⟩

end DetectionJobs.Settings
