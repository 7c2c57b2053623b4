/-
  DetectionJobs/Proofs/Json/Collecting.lean
  =========================================
  **What a record keeps of the entries it has read.**

  While a record is read, its state *holds* the entries that were read so far, those that
  the record does not know among them.  That its members keep to this is proved for a
  record of one member, and kept where two records are put together.
-/
import DetectionJobs.Proofs.Json.Recognition

namespace DetectionJobs.Json

/-! ### Entries of one name -/

theorem valuesOf_append (name : String) (es es' : List Entry) :
    valuesOf name (es ++ es') = valuesOf name es ++ valuesOf name es' := by
  simp [valuesOf]

theorem valuesOf_cons_self (name : String) (v : List Char) (es : List Entry) :
    valuesOf name ((name, v) :: es) = v :: valuesOf name es := by
  simp [valuesOf]

theorem valuesOf_cons_ne {name k : String} (h : k ≠ name) (v : List Char) (es : List Entry) :
    valuesOf name ((k, v) :: es) = valuesOf name es := by
  simp [valuesOf, h]

theorem valuesOf_eq_nil {name : String} {es : List Entry} :
    valuesOf name es = [] ↔ name ∉ es.map Prod.fst := by
  induction es with
  | nil => simp [valuesOf]
  | cons e es ih =>
    obtain ⟨k, v⟩ := e
    by_cases h : k = name
    · subst h
      simp [valuesOf_cons_self]
    · rw [valuesOf_cons_ne h, ih, List.map_cons, List.mem_cons]
      simp [Ne.symm h]

variable {G : List Char → α → Prop} {name : String} {es es' : List Entry} {v : List Char} {a : α}

theorem given_append (hfresh : name ∉ es.map Prod.fst) (hv : G v a) :
    Given name G (es ++ [(name, v)]) a := by
  refine ⟨v, ?_, hv⟩
  rw [valuesOf_append, valuesOf_eq_nil.mpr hfresh, valuesOf_cons_self]
  rfl

/-- A value that is given once is given nowhere else. -/
theorem Given.split (h : Given name G (es ++ (name, v) :: es') a) :
    name ∉ es.map Prod.fst ∧ G v a := by
  obtain ⟨w, hw, ha⟩ := h
  rw [valuesOf_append, valuesOf_cons_self, List.append_eq_singleton_iff] at hw
  rcases hw with ⟨hes, hrest⟩ | ⟨_, hnil⟩
  · obtain ⟨rfl, _⟩ := List.cons.inj hrest
    exact ⟨valuesOf_eq_nil.mp hes, ha⟩
  · exact absurd hnil (List.cons_ne_nil _ _)

namespace Fields

/-- The slots of a record. -/
def slots (f : Fields σ α) : Slots := f.members.map fun m => (m.name, m.trailing)

theorem names_slots (f : Fields σ α) : f.slots.names = f.members.map Member.name := by
  simp [slots, Slots.names]

/-- The state of a record holds entries, and with all of them the record is told. -/
structure Collects (f : Fields σ α) (depth : Nat) (tells : List Entry → α → Prop)
    (holds : List Entry → σ → Prop) : Prop where
  empty : holds [] f.empty
  other {es : List Entry} {s : σ} {k : String} (v : List Char) :
    holds es s → k ∉ f.slots.names → holds (es ++ [(k, v)]) s
  isSet {m : Member σ} {es : List Entry} {s : σ} :
    m ∈ f.members → holds es s → (m.isSet s = true ↔ m.name ∈ es.map Prod.fst)
  sound {m : Member σ} {es : List Entry} {s t : σ} {cs rest : List Char} :
    m ∈ f.members → holds es s → m.name ∉ es.map Prod.fst → m.read s depth cs = .ok (t, rest) →
      ∃ b v, Blank b ∧ holds (es ++ [(m.name, v)]) t ∧ cs = b ++ (v ++ rest)
  /-- What tells the record gives each member once, as a value that its format takes. -/
  complete {m : Member σ} {es es' : List Entry} {s : σ} {v : List Char} {a : α} :
    m ∈ f.members → holds es s → tells (es ++ (m.name, v) :: es') a →
      m.name ∉ es.map Prod.fst ∧ Opens v ∧ ∀ b rest, Blank b → Ends rest →
        ∃ t, m.read s depth (b ++ (v ++ rest)) = .ok (t, rest) ∧ holds (es ++ [(m.name, v)]) t
  build {es : List Entry} {s : σ} {a : α} : holds es s → (f.build s = .ok a ↔ tells es a)

/-! ### A single member -/

/-- What a single member holds: nothing, or the value that was given. -/
def Holding (name : String) (G : List Char → α → Prop) (es : List Entry) : Option α → Prop
  | none => valuesOf name es = []
  | some a => Given name G es a

theorem Holding.other {s : Option α} (h : Holding name G es s) {k : String} (hk : k ≠ name)
    (v : List Char) : Holding name G (es ++ [(k, v)]) s := by
  have hvalues : valuesOf name (es ++ [(k, v)]) = valuesOf name es := by
    rw [valuesOf_append, valuesOf_cons_ne hk]
    exact List.append_nil _
  cases s with
  | none => exact hvalues.trans h
  | some a =>
    obtain ⟨w, hw, ha⟩ := h
    exact ⟨w, hvalues.trans hw, ha⟩

theorem Holding.missing_iff {s : Option α} (h : Holding name G es s) :
    valuesOf name es = [] ↔ s = none := by
  cases s with
  | none => exact iff_of_true h rfl
  | some a =>
    obtain ⟨w, hw, _⟩ := h
    simp [hw]

/-- What is held is what is given, if a text stands for one value only. -/
theorem Holding.given_iff {s : Option α} (h : Holding name G es s)
    (hunique : ∀ {v a a'}, G v a → G v a' → a = a') : Given name G es a ↔ s = some a := by
  cases s with
  | none =>
    have hnot : ¬ Given name G es a := by
      rintro ⟨w, hw, _⟩
      rw [h] at hw
      cases hw
    simp [hnot]
  | some a' =>
    rw [Option.some.injEq]
    constructor
    · rintro ⟨w, hw, ha⟩
      obtain ⟨w', hw', ha'⟩ := h
      rw [hw] at hw'
      cases hw'
      exact hunique ha' ha
    · rintro rfl
      exact h

theorem collects_single {f : Format α} {depth : Nat} (h : Takes (f.read depth) G) (name : String)
    (trailing : Bool) (absent : Except DataProblem α) :
    (single name trailing f absent).Collects depth
      (fun es a => Given name G es a ∨ valuesOf name es = [] ∧ absent = .ok a)
      (Holding name G) where
  empty := rfl
  other := by
    intro es s k v hs hk
    refine hs.other ?_ v
    rintro rfl
    exact hk (by simp [names_slots, single])
  isSet := by
    intro m es s hm hs
    obtain rfl := List.mem_singleton.mp hm
    have hmissing := hs.missing_iff
    rw [valuesOf_eq_nil] at hmissing
    rw [← not_iff_not, hmissing]
    simp
  sound := by
    intro m es s t cs rest hm _ hfresh hread
    obtain rfl := List.mem_singleton.mp hm
    simp only at hread
    cases hvalue : f.read depth cs with
    | error e => rw [hvalue] at hread; cases hread
    | ok r =>
      obtain ⟨a, after⟩ := r
      rw [hvalue] at hread
      cases hread
      obtain ⟨b, v, hb, hv, rfl⟩ := h.sound hvalue
      exact ⟨b, v, hb, given_append hfresh hv, rfl⟩
  complete := by
    intro m es es' s v a hm _ htells
    obtain rfl := List.mem_singleton.mp hm
    obtain hgiven | ⟨hnil, _⟩ := htells
    · obtain ⟨hfresh, hv⟩ := hgiven.split
      refine ⟨hfresh, h.opens hv, fun b rest hb hrest => ⟨some a, ?_, given_append hfresh hv⟩⟩
      simp only [h.complete hb hv hrest, Except.map]
    · simp [valuesOf_append, valuesOf_cons_self] at hnil
  build := by
    intro es s a hs
    rw [hs.given_iff h.unique, hs.missing_iff]
    cases s <;> simp [single]

theorem Collects.congr {f : Fields σ α} {depth : Nat} {tells tells' : List Entry → α → Prop}
    {holds : List Entry → σ → Prop} (h : f.Collects depth tells holds)
    (htells : ∀ es a, tells es a ↔ tells' es a) : f.Collects depth tells' holds := by
  have heq : tells = tells' := funext fun es => funext fun a => propext (htells es a)
  exact heq ▸ h

theorem collects_required {f : Format α} {depth : Nat} {G : List Char → α → Prop}
    (h : Takes (f.read depth) G) (name : String) :
    (required name f).Collects depth (Given name G) (Holding name G) :=
  (collects_single h name false _).congr fun es a => by simp

theorem collects_withDefault {f : Format α} {depth : Nat} {G : List Char → α → Prop}
    (h : Takes (f.read depth) G) (name : String) (absent : α) :
    (withDefault name f absent).Collects depth (GivenOr name G absent) (Holding name G) :=
  (collects_single h name true _).congr fun es a => by
    simp only [GivenOr, Except.ok.injEq, eq_comm]

theorem collects_optionalWithDefault {f : Format α} {depth : Nat} {G : List Char → Option α → Prop}
    (h : Takes (f.nullable.read depth) G) (name : String) :
    (optionalWithDefault name f).Collects depth (GivenOr name G none) (Holding name G) :=
  (collects_single h name true _).congr fun es a => by
    simp only [GivenOr, Except.ok.injEq, eq_comm]

/-! ### Records put together -/

theorem slots_and (f : Fields σ α) (g : Fields τ β) : (f.and g).slots = f.slots ++ g.slots := by
  simp only [slots, Fields.and, List.map_append, List.map_map]
  rfl

theorem names_and (f : Fields σ α) (g : Fields τ β) :
    (f.and g).slots.names = f.slots.names ++ g.slots.names := by
  rw [slots_and, Slots.names, List.map_append]
  rfl

theorem mem_names {f : Fields σ α} {m : Member σ} (h : m ∈ f.members) : m.name ∈ f.slots.names := by
  rw [names_slots]
  exact List.mem_map_of_mem h

theorem Collects.and {f : Fields σ α} {g : Fields τ β} {depth : Nat}
    {tells : List Entry → α → Prop} {tells' : List Entry → β → Prop}
    {holds : List Entry → σ → Prop} {holds' : List Entry → τ → Prop}
    (h : f.Collects depth tells holds) (h' : g.Collects depth tells' holds')
    (hdisjoint : ∀ k ∈ f.slots.names, k ∉ g.slots.names) :
    (f.and g).Collects depth (fun es a => tells es a.1 ∧ tells' es a.2)
      (fun es s => holds es s.1 ∧ holds' es s.2) where
  empty := ⟨h.empty, h'.empty⟩
  other := by
    rintro es s k v ⟨hs, hs'⟩ hk
    rw [names_and, List.mem_append, not_or] at hk
    exact ⟨h.other v hs hk.1, h'.other v hs' hk.2⟩
  isSet := by
    rintro m es s hm ⟨hs, hs'⟩
    rcases List.mem_append.mp hm with hm | hm
    · obtain ⟨m, hmem, rfl⟩ := List.mem_map.mp hm
      exact h.isSet hmem hs
    · obtain ⟨m, hmem, rfl⟩ := List.mem_map.mp hm
      exact h'.isSet hmem hs'
  sound := by
    rintro m es s t cs rest hm ⟨hs, hs'⟩ hfresh hread
    rcases List.mem_append.mp hm with hm | hm
    · obtain ⟨m, hmem, rfl⟩ := List.mem_map.mp hm
      simp only [liftFirst] at hfresh hread ⊢
      cases hvalue : m.read s.1 depth cs with
      | error e => rw [hvalue] at hread; cases hread
      | ok r =>
        rw [hvalue] at hread
        cases hread
        obtain ⟨b, v, hb, ht, rfl⟩ := h.sound hmem hs hfresh hvalue
        exact ⟨b, v, hb, ⟨ht, h'.other v hs' (hdisjoint _ (mem_names hmem))⟩, rfl⟩
    · obtain ⟨m, hmem, rfl⟩ := List.mem_map.mp hm
      simp only [liftSecond] at hfresh hread ⊢
      cases hvalue : m.read s.2 depth cs with
      | error e => rw [hvalue] at hread; cases hread
      | ok r =>
        rw [hvalue] at hread
        cases hread
        obtain ⟨b, v, hb, ht, rfl⟩ := h'.sound hmem hs' hfresh hvalue
        exact ⟨b, v, hb, ⟨h.other v hs fun hk => hdisjoint _ hk (mem_names hmem), ht⟩, rfl⟩
  complete := by
    rintro m es es' s v a hm ⟨hs, hs'⟩ ⟨htells, htells'⟩
    rcases List.mem_append.mp hm with hm | hm
    · obtain ⟨m, hmem, rfl⟩ := List.mem_map.mp hm
      obtain ⟨hfresh, hopens, hread⟩ := h.complete hmem hs htells
      refine ⟨hfresh, hopens, fun b rest hb hrest => ?_⟩
      obtain ⟨t, ht, hholds⟩ := hread b rest hb hrest
      exact ⟨(t, s.2), by simp only [liftFirst, ht, Except.map],
        hholds, h'.other v hs' (hdisjoint _ (mem_names hmem))⟩
    · obtain ⟨m, hmem, rfl⟩ := List.mem_map.mp hm
      obtain ⟨hfresh, hopens, hread⟩ := h'.complete hmem hs' htells'
      refine ⟨hfresh, hopens, fun b rest hb hrest => ?_⟩
      obtain ⟨t, ht, hholds⟩ := hread b rest hb hrest
      exact ⟨(s.1, t), by simp only [liftSecond, ht, Except.map],
        h.other v hs fun hk => hdisjoint _ hk (mem_names hmem), hholds⟩
  build := by
    rintro es s a ⟨hs, hs'⟩
    rw [← h.build hs, ← h'.build hs']
    obtain ⟨a, b⟩ := a
    cases hf : f.build s.1 <;> cases hg : g.build s.2 <;>
      simp [Fields.and, hf, hg, bind, Except.bind, pure, Except.pure]

theorem Collects.as {f : Fields σ α} {depth : Nat} {tells : List Entry → α → Prop}
    {holds : List Entry → σ → Prop} (h : f.Collects depth tells holds) (make : α → β) :
    (f.as make).Collects depth (fun es b => ∃ a, tells es a ∧ make a = b) holds where
  empty := h.empty
  other := h.other
  isSet := h.isSet
  sound := h.sound
  complete := by
    rintro m es es' s v b hm hs ⟨a, ha, _⟩
    exact h.complete hm hs ha
  build := by
    intro es s b hs
    cases hf : f.build s with
    | error e =>
      have hnot : ∀ a, ¬ tells es a := fun a ha => by
        rw [← h.build hs, hf] at ha
        cases ha
      simp [Fields.as, hf, Except.map, hnot]
    | ok a =>
      have ha : ∀ a', tells es a' ↔ a = a' := fun a' => by
        rw [← h.build hs, hf, Except.ok.injEq]
      simp [Fields.as, hf, Except.map, ha]

end Fields

end DetectionJobs.Json
