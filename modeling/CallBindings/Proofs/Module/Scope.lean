import CallBindings.Proofs.Module.Parameters
import CallBindings.Proofs.Shape.Words

set_option autoImplicit false

/-! # What the words of a type expression stand for

A word of a type expression is meant as a fixed word or as the name of a referenced type. Two
things get in the way. Numbers that are not finite are written as words, which nothing defines
unless a referenced type happens to have that name. And the words of the built-in types are not
reserved: a referenced type of that name keeps it, so its type parameter takes the place of the
built-in type in the whole module. Nothing else gets in the way.
-/

namespace CallBindings

open Text

/-! ## Fixed words as names -/

theorem isPlainTypeName_of_mem_builtinNames :
    ∀ id ∈ builtinNames, id.isPlainTypeName = true ∧ id ∈ fixedNames := by
  decide +kernel

/-- A referenced type is named like a fixed word only if it is named like a built-in type. -/
theorem typeName_mem_fixedNames_iff {id : Text} : id.typeName ∈ fixedNames ↔ id ∈ builtinNames := by
  constructor
  · intro hfixed
    by_contra hid
    exact typeName_not_mem_fixedNames hid hfixed
  · intro hid
    obtain ⟨hplain, hfixed⟩ := isPlainTypeName_of_mem_builtinNames id hid
    rwa [typeName_of_isPlain hplain]

/-- Composing names brings in no fixed word: an escaped name keeps the low line in front. -/
theorem normalize_typeName_eq_iff_of_mem_fixedNames {id w : Text} (hw : w ∈ fixedNames) :
    id.typeName.normalize = w ↔ id = w ∧ w ∈ builtinNames := by
  by_cases hplain : id.isPlainTypeName = true
  · rw [normalize_typeName_of_isPlain hplain]
    constructor
    · rintro rfl
      refine ⟨rfl, typeName_mem_fixedNames_iff.mp ?_⟩
      rwa [typeName_of_isPlain hplain]
    · exact fun h => h.1
  · rw [normalize_typeName_of_not_isPlain hplain]
    constructor
    · rintro rfl
      exact absurd rfl (head?_ne_lowLine_of_mem_fixedNames _ hw)
    · rintro ⟨rfl, hid⟩
      exact absurd (isPlainTypeName_of_mem_builtinNames id hid).1 hplain

/-! ## Words of numbers as names -/

namespace Shape

theorem mem_numberWords {s : Shape} {w : Text} (hw : w ∈ s.numberWords) :
    w = ofString "nan" ∨ w = ofString "inf" := by
  obtain ⟨n, -, hn⟩ := List.mem_flatMap.mp hw
  obtain ⟨j, -, hj⟩ := List.mem_filterMap.mp hn
  exact Json.eq_of_word? hj

theorem not_mem_fixedNames_of_mem_numberWords {s : Shape} {w : Text} (hw : w ∈ s.numberWords) :
    w ∉ fixedNames := by
  rcases mem_numberWords hw with rfl | rfl <;> decide

/-- The word of a number is the name of a type exactly if the type has that very id. -/
theorem mem_map_typeName_of_mem_numberWords {s : Shape} {w : Text} {ids : List Text}
    (hw : w ∈ s.numberWords) : w ∈ ids.map typeName ↔ w ∈ ids := by
  have hself : w.typeName = w := by
    rcases mem_numberWords hw with rfl | rfl <;> decide +kernel
  constructor
  · intro hmem
    obtain ⟨id, hid, hname⟩ := List.mem_map.mp hmem
    rw [← hself] at hname
    rwa [← typeName_injective hname]
  · intro hid
    exact List.mem_map.mpr ⟨w, hid, hself⟩

/-- The words of a type expression other than fixed ones. -/
theorem mem_freeWords_written {s : Shape} (hs : s.Sound) {w : Text} :
    w ∈ s.written.freeWords ↔
      w ∉ fixedNames ∧ (w ∈ s.referenced.map typeName ∨ w ∈ s.numberWords) := by
  rw [← mem_distinct, (bears_written s hs).words, mem_distinct, List.mem_filter, mem_nodeWords]
  simp [and_comm]

end Shape

/-! ## Parameters of a module -/

namespace GeneratedModule

/-- A fixed word is declared as a parameter exactly if it names a built-in type and a reference. -/
theorem mem_parameters_iff {m : GeneratedModule} {w : Text}
    (hparams : m.typeParameters = m.references.map typeName) (hw : w ∈ fixedNames) :
    w ∈ parameters m.lines ↔ w ∈ builtinNames ∧ w ∈ m.references := by
  rw [parameters_of_references hparams, List.mem_map]
  constructor
  · rintro ⟨id, hid, hname⟩
    obtain ⟨rfl, hbuiltin⟩ := (normalize_typeName_eq_iff_of_mem_fixedNames hw).mp hname
    exact ⟨hbuiltin, hid⟩
  · rintro ⟨hbuiltin, hid⟩
    exact ⟨w, hid, (normalize_typeName_eq_iff_of_mem_fixedNames hw).mpr ⟨rfl, hbuiltin⟩⟩

end GeneratedModule

namespace Shape

open GeneratedModule

/-- **When the words of type expressions stand for what is meant.** Besides fixed words the type
expression of a shape that was read has the names of its references and the words of its numbers
that are not finite. So all its words are fixed words or names of references exactly if every word
of a number happens to be the id of a reference. A reference is named like a fixed word exactly if
its id is the name of a built-in type, and in an assembled module such a word, if referred to,
and no other fixed word is read as a type parameter. -/
theorem words_bound_iff {source : Option Text} {j : Json} {s : Shape}
    (hj : ofJson source j = .ok s) :
    (∃ (t : Text) (references : List Text), s.typeText = .ok t ∧ s.references = .ok references ∧
      (∀ w, w ∈ t.freeWords ↔
        w ∉ fixedNames ∧ (w ∈ references.map typeName ∨ w ∈ s.numberWords)) ∧
      ((∀ w ∈ t.words, w ∈ fixedNames ∨ w ∈ references.map typeName) ↔
        ∀ w ∈ s.numberWords, w ∈ references)) ∧
    (∀ id : Text, id.typeName ∈ fixedNames ↔ id ∈ builtinNames) ∧
    ∀ (registry : Registry) (transport : Text) (generatedAt : Timestamp)
      (compiled : List Compiled) (m : GeneratedModule),
      assemble registry transport generatedAt compiled = .ok m →
        ∀ w ∈ fixedNames, w ∈ parameters m.lines ↔ w ∈ builtinNames ∧ w ∈ m.references := by
  have hs := sound_of_ofJson hj
  refine ⟨⟨s.written, distinct s.referenced, typeText_eq_written s hs, ?_, ?_, ?_⟩,
    fun _ => typeName_mem_fixedNames_iff,
    fun _ _ _ _ _ hm _ hw => mem_parameters_iff (assemble_ok hm).2 hw⟩
  · rw [Shape.references, allReferences_eq s hs]
    rfl
  · intro w
    rw [mem_freeWords_written hs, List.mem_map, List.mem_map]
    simp only [mem_distinct]
  · have hfree : ∀ w, w ∈ s.written.freeWords ↔ w ∈ s.written.words ∧ w ∉ fixedNames := by
      intro w
      rw [freeWords, List.mem_filter, decide_eq_true_eq]
    have hnames : ∀ w, w ∈ (distinct s.referenced).map typeName ↔
        w ∈ s.referenced.map typeName := by
      intro w
      simp only [List.mem_map, mem_distinct]
    constructor
    · intro hbound w hw
      have hfixed := not_mem_fixedNames_of_mem_numberWords hw
      have hword := (hfree w).mp ((mem_freeWords_written hs).mpr ⟨hfixed, Or.inr hw⟩)
      rcases hbound w hword.1 with h | h
      · exact absurd h hfixed
      · exact (mem_map_typeName_of_mem_numberWords hw).mp h
    · intro hnumbers w hw
      by_cases hfixed : w ∈ fixedNames
      · exact Or.inl hfixed
      · refine Or.inr ?_
        rcases ((mem_freeWords_written hs).mp ((hfree w).mpr ⟨hw, hfixed⟩)).2 with h | h
        · exact (hnames w).mpr h
        · exact (mem_map_typeName_of_mem_numberWords h).mpr (hnumbers w h)

/-- A descriptor of a pair of a type named like a built-in one and of that built-in one, with a
number that is infinite as the third part. -/
def captureDescriptor : Json :=
  .obj [(ofString "type", .str "tuple"), (ofString "elements", .arr [
    .obj [(ofString "type", .str "reference"), (ofString "id", .str "bool")],
    .obj [(ofString "type", .str "boolean")],
    .obj [(ofString "type", .str "number"), (ofString "enum", .arr [.float (.infinity false)])]])]

/-- The shape of that descriptor. -/
def captureShape : Shape :=
  .tuple [.reference "bool", .boolean, .number (some [.float (.infinity false)])]

theorem ofJson_capture : ofJson none captureDescriptor = .ok captureShape := rfl

theorem words_bound_iff_capture :
    ofJson none captureDescriptor = .ok captureShape ∧
    ∃ (t : Text) (references : List Text), captureShape.typeText = .ok t ∧
      captureShape.references = .ok references ∧
      (∀ w, w ∈ t.freeWords ↔
        w ∉ fixedNames ∧ (w ∈ references.map typeName ∨ w ∈ captureShape.numberWords)) ∧
      ((∀ w ∈ t.words, w ∈ fixedNames ∨ w ∈ references.map typeName) ↔
        ∀ w ∈ captureShape.numberWords, w ∈ references) :=
  ⟨ofJson_capture, (words_bound_iff ofJson_capture).1⟩

/-- A type expression with a word that nothing defines and with a reference that is named like a
fixed word, so that the built-in type next to it is read as the referenced one. -/
theorem typeText_capture :
    ofJson none captureDescriptor = .ok captureShape ∧
    captureShape.typeText = .ok (ofString "Tuple[bool, bool, Literal[inf]]") ∧
    captureShape.references = .ok [ofString "bool"] ∧
    (ofString "bool").typeName ∈ fixedNames ∧
    ∃ w ∈ words (ofString "Tuple[bool, bool, Literal[inf]]"),
      w ∉ fixedNames ∧ w ∉ [ofString "bool"].map typeName := by
  have htext : captureShape.written = ofString "Tuple[bool, bool, Literal[inf]]" := by
    decide +kernel
  refine ⟨ofJson_capture, ?_, rfl, by decide +kernel, ofString "inf", ?_, ?_, ?_⟩
  · rw [typeText_eq_written captureShape (sound_of_ofJson ofJson_capture), htext]
  · decide +kernel
  · decide
  · decide +kernel

end Shape

end CallBindings
