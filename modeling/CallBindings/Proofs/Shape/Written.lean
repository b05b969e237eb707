import CallBindings.Proofs.Shape.Descriptor
import CallBindings.Shape.TypeText

set_option autoImplicit false

/-! # Written shapes

Every sound shape has a type expression, `Shape.written`. It is put together from the type
expressions of the children of the shape, and `Shape.written_eq` says how, one line for each
kind of node. All that is shown of type expressions goes by induction from this equation.
-/

namespace CallBindings

/-- Texts between brackets, separated by commas. -/
def brackets (ts : List Text) : Text := "[" ++ Text.join ", " ts ++ "]"

/-- The entries of a record type between their brackets. -/
def braces (ts : List Text) : Text := "[\x7b" ++ Text.join ", " ts ++ "\x7d]"

namespace Shape

/-- The type expression of a shape that has one. -/
def written (s : Shape) : Text :=
  match s.typeText with
  | .ok t => t
  | .error _ => []

theorem written_of_typeText {s : Shape} {t : Text} (h : s.typeText = .ok t) : s.written = t := by
  rw [written, h]

/-- A field with the type expression of its content. -/
def writtenField (f : Field Shape) : Text := fieldText f.name f.optional f.content.written

/-- The type expression of a node, put together from those of its children. -/
def assembled : Shape → Text
  | .boolean => "bool"
  | .number choices => choicesText "float" choices
  | .string choices _ => choicesText "str" choices
  | .array element => "List" ++ brackets [element.written]
  | .tuple [] => "Tuple[()]"
  | .tuple (e :: es) => "Tuple" ++ brackets ((e :: es).map written)
  | .dictionary fields => "TypedDict" ++ braces (fields.map writtenField)
  | .map key value => "Dict" ++ brackets [key.written, value.written]
  | .union variants => unionText (variants.map written)
  | .reference id => id.typeName
  | .special kind => (specialText? kind).getD []
  | .foreign _ => []

theorem typeTexts_eq {ss : List Shape} (h : ∀ s ∈ ss, s.typeText = .ok s.written) :
    typeTexts ss = .ok (ss.map written) := by
  induction ss with
  | nil => rfl
  | cons s ss ih =>
      rw [typeTexts, h s List.mem_cons_self, ih fun t ht => h t (List.mem_cons_of_mem s ht)]
      rfl

theorem fieldTexts_eq {fields : List (Field Shape)}
    (h : ∀ s ∈ fields.map (·.content), s.typeText = .ok s.written) :
    fieldTexts fields = .ok (fields.map writtenField) := by
  induction fields with
  | nil => rfl
  | cons x fields ih =>
      obtain ⟨name, s, optional⟩ := x
      rw [List.map_cons, List.forall_mem_cons] at h
      rw [fieldTexts, h.1, ih h.2]
      rfl

/-- The type expression of a node whose children have one. -/
theorem typeText_eq_assembled {s : Shape} (hs : s.IsSound)
    (h : ∀ c ∈ s.children, c.typeText = .ok c.written) : s.typeText = .ok s.assembled := by
  cases s with
  | boolean => rfl
  | number choices => rfl
  | string choices format => rfl
  | array element =>
      rw [typeText, h element (by simp [children])]
      rfl
  | tuple elements =>
      have htexts : typeTexts elements = .ok (elements.map written) := typeTexts_eq h
      rw [typeText, htexts]
      cases elements <;> rfl
  | dictionary fields =>
      rw [typeText, fieldTexts_eq h]
      rfl
  | map key value =>
      rw [typeText, h key (by simp [children]), h value (by simp [children])]
      rfl
  | union variants =>
      have htexts : typeTexts variants = .ok (variants.map written) := typeTexts_eq h
      rw [typeText, htexts]
      rfl
  | reference id => rfl
  | special kind =>
      have hkinds : ∀ kind ∈ specialKinds, (specialText? kind).isSome = true := by decide
      obtain ⟨t, ht⟩ := Option.isSome_iff_exists.mp (hkinds kind hs)
      rw [typeText, assembled, ht]
      rfl
  | foreign value => exact hs.elim

/-- **A sound shape has a type expression.** -/
theorem typeText_eq_written (s : Shape) (hs : s.Sound) : s.typeText = .ok s.written := by
  induction s using Shape.induction with
  | node s ih =>
      obtain ⟨hsn, hsc⟩ := sound_iff.mp hs
      have h := typeText_eq_assembled hsn fun c hc => ih c hc (hsc c hc)
      rw [h, written_of_typeText h]

theorem written_eq {s : Shape} (hs : s.Sound) : s.written = s.assembled :=
  written_of_typeText (typeText_eq_assembled (sound_iff.mp hs).1 fun c hc =>
    typeText_eq_written c (hs.child hc))

end Shape

end CallBindings
