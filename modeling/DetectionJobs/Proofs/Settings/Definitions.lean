/-
  DetectionJobs/Proofs/Settings/Definitions.lean
  ==============================================
  **What a settings file adds to an environment.**

  A file is a list of definitions, up to its first malformed line.  A line may mention the
  variables that are known before it; a name that is defined again keeps standing for what it
  stood for first.  What the file adds is the first definition of each name that the
  environment has no variable of, in the order of the file and behind the environment.
-/
import DetectionJobs.Settings.EnvFile

namespace DetectionJobs.Settings

namespace EnvFile

/-- The lines of definitions of a settings file. -/
def lines (file : String) : List (List Char) :=
  logicalLines [] .plain (physicalLines (match file.toList with
    | '\uFEFF' :: rest => rest
    | cs => cs))

/-- The definitions of some lines, up to the first malformed one.  In what is known before a
    line, the first variable of a name counts. -/
def definitions (known : Environment) : List (List Char) → Environment
  | [] => []
  | line :: more =>
    match Line.read ⟨known, []⟩ line with
    | .malformed => []
    | .nothing => definitions known more
    | .definition name value => (name, value) :: definitions (known ++ [(name, value)]) more

/-- The definitions that add a variable: the first one of each name without a variable. -/
def added (env : Environment) : Environment → Environment
  | [] => []
  | d :: more =>
    if (env.get? d.1).isSome then added env more else d :: added (env ++ [d]) more

variable {scope scope' : Scope} {env known : Environment} {name v : String}

/-! ### Reading a line -/

/-- Only the values of names matter for a value. -/
theorem value_congr (h : ∀ name, scope.value name = scope'.value name) (mode : Mode)
    (out cs : List Char) : value scope mode out cs = value scope' mode out cs := by
  induction cs generalizing mode out with
  | nil => simp only [value, h]
  | cons c rest ih => simp only [value, h, ih]

theorem read_congr (h : ∀ name, scope.value name = scope'.value name) (line : List Char) :
    Line.read scope line = Line.read scope' line := by
  simp only [Line.read, value_congr h]

/-! ### Adding definitions -/

theorem get?_append (env more : Environment) (name : String) :
    (env ++ more).get? name = (env.get? name).or (more.get? name) := List.lookup_append

theorem set_of_new (h : env.get? name = none) : env.set name v = env ++ [(name, v)] := by
  have hnot : env.any (fun e => e.1 = name) = false := by
    rw [List.any_eq_false]
    intro e he heq
    have hne := List.lookup_eq_none_iff.mp h e he
    simp only [bne_iff_ne, ne_eq] at hne
    exact hne (of_decide_eq_true heq).symm
  rw [Environment.set, hnot]
  rfl

/-- The environment after a definition, which is passed over if its name has a variable. -/
def define (env : Environment) (d : String × String) : Environment :=
  if (env.get? d.1).isSome then env else env ++ [d]

theorem get?_define (env : Environment) (d : String × String) (name : String) :
    (define env d).get? name = (env.get? name).or (Environment.get? [d] name) := by
  unfold define
  split
  · next hsome =>
    by_cases hname : name = d.1
    · obtain ⟨w, hw⟩ := Option.isSome_iff_exists.mp hsome
      rw [hname, hw, Option.some_or]
    · have hother : Environment.get? [d] name = none :=
        List.lookup_eq_none_iff.mpr (by simpa using hname)
      rw [hother, Option.or_none]
  · exact get?_append env [d] name

/-- While lines are read, the environment and what is known agree on every name. -/
structure Agrees (scope : Scope) (known : Environment) : Prop where
  get? : ∀ name, scope.environment.get? name = known.get? name
  defined : ∀ name, scope.environment.get? name = none → scope.defined.get? name = none

theorem Agrees.value (h : Agrees scope known) (name : List Char) :
    scope.value name = (⟨known, []⟩ : Scope).value name := by
  rw [Scope.value, Scope.value, ← h.get?]
  cases hget : scope.environment.get? (String.ofList name) with
  | none => rw [h.defined _ hget]; rfl
  | some v => rfl

theorem Agrees.define (h : Agrees scope known) (d : String × String) :
    Agrees ⟨EnvFile.define scope.environment d, d :: scope.defined⟩ (known ++ [d]) := by
  refine ⟨fun name => ?_, fun name hnone => ?_⟩
  · rw [get?_define, get?_append, h.get?]
  · rw [get?_define, Option.or_eq_none_iff] at hnone
    have hdefined := get?_append [d] scope.defined name
    rw [hnone.2, h.defined name hnone.1] at hdefined
    exact hdefined

theorem append_added (env : Environment) (d : String × String) (more : Environment) :
    env ++ added env (d :: more) = define env d ++ added (define env d) more := by
  rw [added, define]
  split
  · rfl
  · exact (List.append_assoc env [d] _).symm

theorem loadLines_eq (h : Agrees scope known) (ls : List (List Char)) :
    loadLines scope ls = scope.environment ++ added scope.environment (definitions known ls) := by
  induction ls generalizing scope known with
  | nil => exact (List.append_nil _).symm
  | cons line more ih =>
    rw [loadLines, definitions, read_congr h.value line]
    cases Line.read ⟨known, []⟩ line with
    | malformed => exact (List.append_nil _).symm
    | nothing => exact ih h
    | definition name v =>
      have hdefine : (if (scope.environment.get? name).isSome then scope.environment
          else scope.environment.set name v) = define scope.environment (name, v) := by
        unfold define
        split
        · rfl
        · next hnone => exact set_of_new (Option.not_isSome_iff_eq_none.mp hnone)
      rw [append_added, ← ih (h.define (name, v)), ← hdefine]

/-- **A settings file adds its first definitions of new names to the environment.** -/
theorem load_eq (env : Environment) (file : String) :
    load env file = env ++ added env (definitions env (lines file)) := by
  have hstart : Agrees ⟨env, []⟩ env := ⟨fun _ => rfl, fun _ _ => rfl⟩
  exact loadLines_eq hstart (lines file)

end EnvFile

end DetectionJobs.Settings
