import CallBindings.Proofs.FirstFault
import CallBindings.Proofs.Shape.Nodes
import CallBindings.Shape.References
import CallBindings.Shape.TypeText

set_option autoImplicit false

/-! # Nodes that a pass over a shape rejects

A shape that was not read from a descriptor may hold nodes without a type. Two passes go over a
shape from left to right, and each stops at the first node it rejects: the pass that writes the type
rejects foreign nodes and special kinds without a type, the pass that collects references rejects
foreign nodes only. `StopsAtFirst` matches a pass with the list of its faults, and is kept when one
computation follows another.
-/

namespace CallBindings

/-! ## Computations that stop at the first of some faults -/

section

variable {ε α β γ : Type} {faults later : List ε} {x : Except ε α} {y : Except ε β}

/-- Whether a computation stops at the first of some faults, and comes through if there is none. -/
def StopsAtFirst (faults : List ε) : Except ε α → Prop
  | .ok _ => faults = []
  | .error e => faults.head? = some e

theorem stopsAtFirst_ok (a : α) : StopsAtFirst ([] : List ε) (.ok a) := rfl

theorem stopsAtFirst_error (e : ε) (later : List ε) :
    StopsAtFirst (e :: later) (.error e : Except ε α) := rfl

namespace StopsAtFirst

/-- The faults of the second of two computations come up once the first has come through. -/
theorem bind {f : α → Except ε β} (h : StopsAtFirst faults x)
    (hf : ∀ a, x = .ok a → StopsAtFirst later (f a)) : StopsAtFirst (faults ++ later) (x >>= f) := by
  cases x with
  | error e =>
      -- the second computation is not reached, and what is wrong there stands behind `e`
      show (faults ++ later).head? = some e
      rw [List.head?_append, show faults.head? = some e from h, Option.some_or]
  | ok a =>
      rw [show faults = [] from h, List.nil_append]
      exact hf a rfl

theorem bind_ok (g : α → β) (h : StopsAtFirst faults x) :
    StopsAtFirst faults (x >>= fun a => .ok (g a)) := by
  rw [← List.append_nil faults]
  exact h.bind fun a _ => stopsAtFirst_ok (g a)

theorem bind_bind_ok (g : α → β → γ) (h : StopsAtFirst faults x) (hlater : StopsAtFirst later y) :
    StopsAtFirst (faults ++ later) (x >>= fun a => y >>= fun b => .ok (g a b)) :=
  h.bind fun a _ => hlater.bind_ok (g a)

theorem map (g : α → β) (h : StopsAtFirst faults x) : StopsAtFirst faults (x.map g) :=
  h.bind_ok g

theorem ok_iff (h : StopsAtFirst faults x) : (∃ a, x = .ok a) ↔ faults = [] := by
  cases x with
  | ok a => exact ⟨fun _ => h, fun _ => ⟨a, rfl⟩⟩
  | error e =>
      have hsome : faults.head? = some e := h
      constructor
      · rintro ⟨a, ha⟩
        cases ha
      · rintro rfl
        cases hsome

theorem error_iff (h : StopsAtFirst faults x) {e : ε} : x = .error e ↔ faults.head? = some e := by
  cases x with
  | ok a =>
      rw [show faults = [] from h]
      constructor <;> intro he <;> cases he
  | error e' =>
      have hsome : faults.head? = some e' := h
      rw [hsome, Option.some.injEq, Except.error.injEq]

end StopsAtFirst

end

namespace Shape

/-! ## The nodes that are rejected -/

/-- The name of the type of a foreign node. -/
def foreign? : Shape → Option Text
  | .foreign value => some value.kind.name
  | _ => none

/-- The tag of a node without a type: a foreign node, or a special one of a kind that has none. -/
def untyped? : Shape → Option Text
  | .special kind => if kind ∈ specialKinds then none else some ("special:" ++ kind)
  | s => s.foreign?

/-- The faults of a pass that rejects the nodes with a tag, in the order of the nodes. -/
def faults (tag? : Shape → Option Text) (s : Shape) : List GenerationError :=
  (s.nodes.filterMap tag?).map .unsupportedVariant

variable {tag? : Shape → Option Text} {s : Shape}

/-- Whether a pass has faults is a question about each node. -/
theorem faults_eq_nil_iff : s.faults tag? = [] ↔ ∀ n ∈ s.nodes, tag? n = none := by
  rw [faults, List.map_eq_nil_iff, List.filterMap_eq_nil_iff]

/-- The first fault of a pass is at the first node that has a tag. -/
theorem head?_faults_eq_some_iff {e : GenerationError} :
    (s.faults tag?).head? = some e ↔ ∃ before n after tag, s.nodes = before ++ n :: after ∧
      (∀ m ∈ before, tag? m = none) ∧ tag? n = some tag ∧ e = .unsupportedVariant tag := by
  rw [faults, List.head?_map, List.head?_filterMap, Option.map_eq_some_iff]
  constructor
  · rintro ⟨tag, htag, rfl⟩
    obtain ⟨before, n, after, hnodes, hn, hbefore⟩ := List.findSome?_eq_some_iff.mp htag
    exact ⟨before, n, after, tag, hnodes, hbefore, hn, rfl⟩
  · rintro ⟨before, n, after, tag, hnodes, hbefore, hn, rfl⟩
    exact ⟨tag, List.findSome?_eq_some_iff.mpr ⟨before, n, after, hnodes, hn, hbefore⟩, rfl⟩

/-- A node comes before those below it, and these come child by child. -/
theorem faults_eq (tag? : Shape → Option Text) (s : Shape) :
    s.faults tag? =
      (tag? s).toList.map .unsupportedVariant ++ s.children.flatMap (faults tag?) := by
  -- the tag of the node itself comes off the list, if it has one
  have htag : s.nodes.filterMap tag? =
      (tag? s).toList ++ s.children.flatMap fun c => c.nodes.filterMap tag? := by
    rw [nodes_eq, ← List.filterMap_flatMap]
    cases hs : tag? s <;> simp only [List.filterMap_cons, hs] <;> rfl
  rw [faults, htag, List.map_append, List.map_flatMap]
  rfl

theorem faults_of_none (h : tag? s = none) :
    s.faults tag? = s.children.flatMap (faults tag?) := by
  rw [faults_eq, h, Option.toList_none, List.map_nil, List.nil_append]

theorem faults_of_some {tag : Text} (h : tag? s = some tag) :
    s.faults tag? = .unsupportedVariant tag :: s.children.flatMap (faults tag?) := by
  rw [faults_eq, h]
  rfl

/-- A foreign node has no type, so a pass that rejects nodes without a type rejects it too. -/
theorem foreign?_of_untyped? (h : s.untyped? = none) : s.foreign? = none := by
  cases s with
  | foreign value => cases h
  | _ => rfl

theorem faults_foreign_of_untyped (h : s.faults untyped? = []) : s.faults foreign? = [] :=
  faults_eq_nil_iff.mpr fun n hn => foreign?_of_untyped? (faults_eq_nil_iff.mp h n hn)

/-! ## Both passes -/

/-- A special kind has a type if it is one of those that a descriptor may name. -/
theorem stopsAtFirst_special (kind : Text) :
    StopsAtFirst ((special kind).faults untyped?) (special kind).typeText := by
  by_cases hkind : kind ∈ specialKinds
  · have hnone : (special kind).untyped? = none := by rw [untyped?, if_pos hkind]
    have hall : ∀ k ∈ specialKinds, ∃ t, specialText? k = some t := by
      intro k hk
      fin_cases hk <;> exact ⟨_, rfl⟩
    obtain ⟨t, ht⟩ := hall kind hkind
    rw [faults_of_none hnone, typeText, ht]
    exact stopsAtFirst_ok t
  · have hsome : (special kind).untyped? = some ("special:" ++ kind) := by
      rw [untyped?, if_neg hkind]
    have hnone : specialText? kind = none := by
      simp only [specialKinds, List.mem_cons, List.not_mem_nil, or_false, not_or] at hkind
      obtain ⟨hany, hunknown, hundefined⟩ := hkind
      rw [specialText?, if_neg hany, if_neg hunknown, if_neg hundefined]
    rw [faults_of_some hsome, typeText, hnone]
    exact stopsAtFirst_error _ _

mutual

/-- **The type of a shape is written up to the first node without one.** -/
theorem stopsAtFirst_typeText : ∀ s : Shape, StopsAtFirst (s.faults untyped?) s.typeText
  | .boolean => by rw [faults_of_none rfl, typeText]; exact stopsAtFirst_ok _
  | .number _ => by rw [faults_of_none rfl, typeText]; exact stopsAtFirst_ok _
  | .string _ _ => by rw [faults_of_none rfl, typeText]; exact stopsAtFirst_ok _
  | .array element => by
      rw [faults_of_none rfl, typeText, children, List.flatMap_singleton]
      exact (stopsAtFirst_typeText element).bind_ok _
  | .tuple elements => by
      rw [faults_of_none rfl, typeText, children]
      exact (stopsAtFirst_typeTexts elements).bind_ok _
  | .dictionary fields => by
      rw [faults_of_none rfl, typeText, children]
      exact (stopsAtFirst_fieldTexts fields).bind_ok _
  | .map key value => by
      rw [faults_of_none rfl, typeText, children, List.flatMap_cons, List.flatMap_singleton]
      exact (stopsAtFirst_typeText key).bind_bind_ok _ (stopsAtFirst_typeText value)
  | .union variants => by
      rw [faults_of_none rfl, typeText, children]
      exact (stopsAtFirst_typeTexts variants).map unionText
  | .reference _ => by rw [faults_of_none rfl, typeText]; exact stopsAtFirst_ok _
  | .special kind => stopsAtFirst_special kind
  | .foreign _ => by rw [faults_of_some rfl, typeText]; exact stopsAtFirst_error _ _

theorem stopsAtFirst_typeTexts :
    ∀ ss : List Shape, StopsAtFirst (ss.flatMap (faults untyped?)) (typeTexts ss)
  | [] => by rw [typeTexts]; exact stopsAtFirst_ok []
  | s :: ss => by
      rw [typeTexts, List.flatMap_cons]
      exact (stopsAtFirst_typeText s).bind_bind_ok _ (stopsAtFirst_typeTexts ss)

theorem stopsAtFirst_fieldTexts : ∀ fields : List (Field Shape),
    StopsAtFirst ((fields.map (·.content)).flatMap (faults untyped?)) (fieldTexts fields)
  | [] => by rw [fieldTexts]; exact stopsAtFirst_ok []
  | ⟨_, s, _⟩ :: fields => by
      rw [fieldTexts, List.map_cons, List.flatMap_cons]
      exact (stopsAtFirst_typeText s).bind_bind_ok _ (stopsAtFirst_fieldTexts fields)

end

mutual

/-- **References are collected up to the first foreign node.** -/
theorem stopsAtFirst_allReferences :
    ∀ s : Shape, StopsAtFirst (s.faults foreign?) s.allReferences
  | .boolean => by rw [faults_of_none rfl, allReferences]; exact stopsAtFirst_ok _
  | .number _ => by rw [faults_of_none rfl, allReferences]; exact stopsAtFirst_ok _
  | .string _ _ => by rw [faults_of_none rfl, allReferences]; exact stopsAtFirst_ok _
  | .array element => by
      rw [faults_of_none rfl, allReferences, children, List.flatMap_singleton]
      exact stopsAtFirst_allReferences element
  | .tuple elements => by
      rw [faults_of_none rfl, allReferences, children]
      exact stopsAtFirst_allReferencesOf elements
  | .dictionary fields => by
      rw [faults_of_none rfl, allReferences, children]
      exact stopsAtFirst_allReferencesOfFields fields
  | .map key value => by
      rw [faults_of_none rfl, allReferences, children, List.flatMap_cons, List.flatMap_singleton]
      exact (stopsAtFirst_allReferences key).bind_bind_ok _ (stopsAtFirst_allReferences value)
  | .union variants => by
      rw [faults_of_none rfl, allReferences, children]
      exact stopsAtFirst_allReferencesOf variants
  | .reference _ => by rw [faults_of_none rfl, allReferences]; exact stopsAtFirst_ok _
  | .special _ => by rw [faults_of_none rfl, allReferences]; exact stopsAtFirst_ok _
  | .foreign _ => by rw [faults_of_some rfl, allReferences]; exact stopsAtFirst_error _ _

theorem stopsAtFirst_allReferencesOf :
    ∀ ss : List Shape, StopsAtFirst (ss.flatMap (faults foreign?)) (allReferencesOf ss)
  | [] => by rw [allReferencesOf]; exact stopsAtFirst_ok []
  | s :: ss => by
      rw [allReferencesOf, List.flatMap_cons]
      exact (stopsAtFirst_allReferences s).bind_bind_ok _ (stopsAtFirst_allReferencesOf ss)

theorem stopsAtFirst_allReferencesOfFields : ∀ fields : List (Field Shape),
    StopsAtFirst ((fields.map (·.content)).flatMap (faults foreign?)) (allReferencesOfFields fields)
  | [] => by rw [allReferencesOfFields]; exact stopsAtFirst_ok []
  | ⟨_, s, _⟩ :: fields => by
      rw [allReferencesOfFields, List.map_cons, List.flatMap_cons]
      exact (stopsAtFirst_allReferences s).bind_bind_ok _ (stopsAtFirst_allReferencesOfFields fields)

end

/-- How the two passes over a shape end. -/
structure PassesEnd (s : Shape) : Prop where
  typed : (∃ t, s.typeText = .ok t) ↔ ∀ n ∈ s.nodes, n.untyped? = none
  /-- Writing the type fails at the first node without one. -/
  untyped : ∀ e, s.typeText = .error e ↔
    ∃ before n after tag, s.nodes = before ++ n :: after ∧
      (∀ m ∈ before, m.untyped? = none) ∧ n.untyped? = some tag ∧ e = .unsupportedVariant tag
  native : (∃ ids, s.references = .ok ids) ↔ ∀ n ∈ s.nodes, n.foreign? = none
  /-- Collecting references fails at the first foreign node. -/
  foreign : ∀ e, s.references = .error e ↔
    ∃ before n after tag, s.nodes = before ++ n :: after ∧
      (∀ m ∈ before, m.foreign? = none) ∧ n.foreign? = some tag ∧ e = .unsupportedVariant tag
  native_of_typed : (∃ t, s.typeText = .ok t) → ∃ ids, s.references = .ok ids

theorem passesEnd (s : Shape) : s.PassesEnd := by
  have htype := stopsAtFirst_typeText s
  have hreferences : StopsAtFirst (s.faults foreign?) s.references :=
    (stopsAtFirst_allReferences s).map distinct
  exact
    { typed := htype.ok_iff.trans faults_eq_nil_iff
      untyped := fun _ => htype.error_iff.trans head?_faults_eq_some_iff
      native := hreferences.ok_iff.trans faults_eq_nil_iff
      foreign := fun _ => hreferences.error_iff.trans head?_faults_eq_some_iff
      native_of_typed := fun h =>
        hreferences.ok_iff.mpr (faults_foreign_of_untyped (htype.ok_iff.mp h)) }

end Shape

end CallBindings
