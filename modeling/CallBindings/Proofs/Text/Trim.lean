import CallBindings.Unicode.Blank
import Mathlib.Data.List.TakeWhile
import Mathlib.Tactic.Common

set_option autoImplicit false

/-! # Text without white space at its ends

What is left of a text neither begins nor ends with white space, and a text that does neither loses
nothing.
-/

namespace CallBindings.Text

variable {t before rest : Text} {c e : CodePoint}

/-- Whether a text neither begins nor ends with white space. -/
def IsTrimmed (t : Text) : Prop :=
  (∀ c ∈ t.head?, c.isBlank = false) ∧ ∀ c ∈ t.getLast?, c.isBlank = false

theorem isBlank_of_head?_dropWhile (hc : c ∈ (t.dropWhile CodePoint.isBlank).head?) :
    c.isBlank = false := by
  have hhead := List.head?_dropWhile_not CodePoint.isBlank t
  rw [Option.mem_def.mp hc] at hhead
  simpa using hhead

theorem dropWhile_of_head? (h : ∀ c ∈ t.head?, c.isBlank = false) :
    t.dropWhile CodePoint.isBlank = t := by
  cases t with
  | nil => rfl
  | cons c t => exact List.dropWhile_cons_of_neg (by simp [h c rfl])

/-- Removing white space at the end leaves the beginning as it is. -/
theorem trim_isPrefix (t : Text) : t.trim <+: t.dropWhile CodePoint.isBlank := by
  rw [trim, trimBy, ← List.reverse_suffix, List.reverse_reverse]
  exact List.dropWhile_suffix _

theorem isTrimmed_trim (t : Text) : t.trim.IsTrimmed := by
  constructor
  · intro c hc
    obtain ⟨rest, hrest⟩ := trim_isPrefix t
    refine isBlank_of_head?_dropWhile (t := t) ?_
    rw [← hrest, List.head?_append, Option.mem_def.mp hc]
    rfl
  · intro c hc
    rw [trim, trimBy, List.getLast?_reverse] at hc
    exact isBlank_of_head?_dropWhile hc

theorem trim_eq_self_iff : t.trim = t ↔ t.IsTrimmed := by
  refine ⟨fun h => h ▸ isTrimmed_trim t, fun ⟨hhead, hlast⟩ => ?_⟩
  have hreverse : t.reverse.dropWhile CodePoint.isBlank = t.reverse :=
    dropWhile_of_head? (by rwa [List.head?_reverse])
  rw [trim, trimBy, dropWhile_of_head? hhead, hreverse, List.reverse_reverse]

/-- A text that begins and ends with something other than white space is trimmed. -/
theorem trim_of_ends (hfirst : t = c :: rest) (hlast : t = before ++ [e]) (hc : c.isBlank = false)
    (he : e.isBlank = false) : t.trim = t := by
  refine trim_eq_self_iff.mpr ⟨fun d hd => ?_, fun d hd => ?_⟩
  · rw [hfirst] at hd
    cases hd
    exact hc
  · rw [hlast, List.getLast?_concat] at hd
    cases hd
    exact he

end CallBindings.Text
