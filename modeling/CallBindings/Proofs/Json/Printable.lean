import CallBindings.Json.Printer
import CallBindings.Proofs.Number.Written
import CallBindings.Proofs.Text.Lines

set_option autoImplicit false

/-! # The compact form is printable

Numbers are written with digits, signs, a point and a few letters, texts between quotes as
printable ASCII, and nothing else of a value is not ASCII to begin with. So the compact form of
any value, whatever its texts hold, is printable ASCII.
-/

namespace CallBindings

open Text

/-! ## Numbers -/

theorem isPrintable_of_isNumberPart {c : CodePoint} (h : Json.isNumberPart c = true) :
    c.isPrintable = true := by
  by_cases hdigit : c.isAsciiDigit = true
  · exact isPrintable_of_isAsciiDigit hdigit
  · have hmark : c ∈ ofString ".e-+inf" := by
      simpa [Json.isNumberPart, NumberLayout.isDecimalPart, hdigit, ofString, or_assoc] using h
    have hmarks : ∀ d ∈ ofString ".e-+inf", d.isPrintable = true := by decide
    exact hmarks c hmark

theorem isPrintable_ofInt (n : ℤ) : IsPrintable (ofInt n) := fun c hc =>
  isPrintable_of_isNumberPart (Json.isNumberPart_of_mem_shown (j := .int n) rfl c hc)

section Float

open NumberLayout

variable {x : Binary64}

theorem render_of_isNaN (layout : NumberLayout) (h : x.isNaN = true) :
    layout.render x = layout.nan := by
  rw [render, h]
  rfl

theorem render_of_isInfinite (layout : NumberLayout) (hnan : x.isNaN = false)
    (hinf : x.isInfinite = true) : layout.render x = signText x ++ layout.infinity := by
  rw [render, hnan, hinf]
  rfl

/-- Only the words for what is no finite number tell the two layouts apart. -/
theorem render_json (hnan : x.isNaN = false) (hinf : x.isInfinite = false) :
    json.render x = shown.render x := by
  simp only [render, hnan, hinf]
  rfl

theorem isPrintable_shown_float (x : Binary64) : IsPrintable (shown.render x) := by
  cases hnan : x.isNaN with
  | true =>
      rw [render_of_isNaN shown hnan]
      decide
  | false => exact fun c hc => isPrintable_of_isNumberPart ((Json.float_parts hnan).1 c hc)

theorem isPrintable_json_float (x : Binary64) : IsPrintable (json.render x) := by
  cases hnan : x.isNaN with
  | true =>
      rw [render_of_isNaN json hnan]
      decide
  | false =>
      cases hinf : x.isInfinite with
      | true =>
          rw [render_of_isInfinite json hnan hinf, signText]
          split <;> decide
      | false =>
          rw [render_json hnan hinf]
          exact isPrintable_shown_float x

end Float

/-! ## Values -/

namespace Json

mutual

/-- **The compact form of a value is printable ASCII.** -/
theorem isPrintable_compact : ∀ j : Json, IsPrintable j.compact
  | .null => by decide
  | .bool b => by cases b <;> decide
  | .int n => isPrintable_ofInt n
  | .float x => isPrintable_json_float x
  | .str t => isPrintable_quote t
  | .arr items =>
      ((by decide : IsPrintable (ofString "[")).append (isPrintable_compactItems items)).append
        (by decide)
  | .obj members =>
      ((by decide : IsPrintable (ofString "\x7b")).append
        (isPrintable_compactMembers members)).append (by decide)

theorem isPrintable_compactItems : ∀ items : List Json, IsPrintable (compactItems items)
  | [] => by decide
  | [j] => isPrintable_compact j
  | j :: k :: rest =>
      ((isPrintable_compact j).append (by decide)).append (isPrintable_compactItems (k :: rest))

theorem isPrintable_compactMembers :
    ∀ members : List (Text × Json), IsPrintable (compactMembers members)
  | [] => by decide
  | [(k, v)] => ((isPrintable_quote k).append (by decide)).append (isPrintable_compact v)
  | (k, v) :: m :: rest =>
      ((((isPrintable_quote k).append (by decide)).append (isPrintable_compact v)).append
        (by decide)).append (isPrintable_compactMembers (m :: rest))

end

end Json

end CallBindings
