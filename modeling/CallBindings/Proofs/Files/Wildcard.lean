import CallBindings.Files.Wildcard
import Mathlib.Data.List.Infix

set_option autoImplicit false

/-! # What a pattern of a name matches

A pattern matches a text that falls into stretches, one for each part: any text for `*`, and one
code point that it accepts for every other part. The table of a pattern says this of every tail of a
text at once, so the table of a part is made from that of the parts behind it.
-/

namespace CallBindings.Wildcard

/-- Whether a text falls into what the parts of a pattern stand for. -/
inductive Matches : List Wildcard → Text → Prop
  | nil : Matches [] []
  | one {w : Wildcard} {ws : List Wildcard} {c : CodePoint} {t : Text} :
      w.accepts c = true → Matches ws t → Matches (w :: ws) (c :: t)
  | anyText {ws : List Wildcard} {t : Text} (s : Text) :
      Matches ws t → Matches (.anyText :: ws) (s ++ t)

variable {w : Wildcard} {ws : List Wildcard} {c : CodePoint} {t : Text} {rest : List Bool}

theorem matches_nil_iff : Matches [] t ↔ t = [] := by
  constructor
  · rintro ⟨⟩
    rfl
  · rintro rfl
    exact .nil

theorem not_matches_nil (hw : w ≠ .anyText) : ¬ Matches (w :: ws) [] := by
  intro h
  generalize ht : ([] : Text) = t at h
  cases h with
  | one _ _ => cases ht
  | anyText s _ => exact hw rfl

theorem matches_cons_iff (hw : w ≠ .anyText) :
    Matches (w :: ws) (c :: t) ↔ w.accepts c = true ∧ Matches ws t := by
  constructor
  · intro h
    generalize hu : c :: t = u at h
    cases h with
    | one haccepts hrest =>
        cases hu
        exact ⟨haccepts, hrest⟩
    | anyText s _ => exact absurd rfl hw
  · rintro ⟨haccepts, hrest⟩
    exact .one haccepts hrest

theorem matches_anyText_iff : Matches (.anyText :: ws) t ↔ ∃ s u, t = s ++ u ∧ Matches ws u := by
  constructor
  · intro h
    cases h with
    | one haccepts _ => cases haccepts
    | anyText s hrest => exact ⟨s, _, rfl, hrest⟩
  · rintro ⟨s, u, rfl, hrest⟩
    exact .anyText s hrest

theorem matches_anyText_nil_iff : Matches (.anyText :: ws) [] ↔ Matches ws [] := by
  rw [matches_anyText_iff]
  constructor
  · rintro ⟨s, u, h, hrest⟩
    rw [(List.append_eq_nil_iff.mp h.symm).2] at hrest
    exact hrest
  · intro hrest
    exact ⟨[], [], rfl, hrest⟩

/-- What `*` stands for goes on at the first code point or is at its end. -/
theorem matches_anyText_cons_iff :
    Matches (.anyText :: ws) (c :: t) ↔ Matches ws (c :: t) ∨ Matches (.anyText :: ws) t := by
  constructor
  · intro h
    obtain ⟨s, u, hcut, hrest⟩ := matches_anyText_iff.mp h
    -- `*` stands for nothing, or for a text that begins with `c`
    cases s with
    | nil =>
        rw [hcut]
        exact Or.inl hrest
    | cons d s =>
        rw [(List.cons.inj hcut).2]
        exact Or.inr (.anyText s hrest)
  · rintro (hrest | h)
    · exact .anyText [] hrest
    · obtain ⟨s, u, rfl, hrest⟩ := matches_anyText_iff.mp h
      exact .anyText (c :: s) hrest

/-- Whether a table says of every tail of a text whether a pattern matches it. -/
def Tells (ws : List Wildcard) (t : Text) (table : List Bool) : Prop :=
  List.Forall₂ (fun tail b => b = true ↔ Matches ws tail) t.tails table

theorem Tells.headD_iff (h : Tells ws t rest) : rest.headD false = true ↔ Matches ws t := by
  cases t with
  | nil =>
      cases h with
      | cons hhead _ => exact hhead
  | cons c t =>
      rw [Tells, List.tails_cons] at h
      cases h with
      | cons hhead _ => exact hhead

theorem tells_nil (t : Text) : Tells [] t (t.map (fun _ => false) ++ [true]) := by
  induction t with
  | nil => exact .cons (by simp [matches_nil_iff]) .nil
  | cons c t ih =>
      rw [Tells, List.tails_cons]
      exact .cons (by simp [matches_nil_iff]) ih

theorem Tells.before (hw : w ≠ .anyText) (h : Tells ws t rest) :
    Tells (w :: ws) t (w.before t rest) := by
  -- on the text: the table of the parts behind is one entry ahead at every code point
  induction t generalizing rest with
  | nil => exact .cons (by simp [not_matches_nil hw]) .nil
  | cons c t ih =>
      rw [Tells, List.tails_cons] at h ⊢
      cases h with
      | cons _ htail =>
          refine .cons ?_ (ih htail)
          rw [Bool.and_eq_true, Tells.headD_iff htail, matches_cons_iff hw]

theorem Tells.someFrom (h : Tells ws t rest) :
    Tells (.anyText :: ws) t (someFrom rest) := by
  induction t generalizing rest with
  | nil =>
      cases h with
      | cons hhead hnone =>
          cases hnone
          refine .cons ?_ .nil
          rw [matches_anyText_nil_iff, ← hhead]
          simp [Wildcard.someFrom]
  | cons c t ih =>
      rw [Tells, List.tails_cons] at h ⊢
      cases h with
      | cons hhead htail =>
          have hlater := ih htail
          refine .cons ?_ hlater
          rw [Bool.or_eq_true, hhead, Tells.headD_iff hlater, matches_anyText_cons_iff]

theorem tells_matchTails (t : Text) (ws : List Wildcard) : Tells ws t (matchTails t ws) := by
  induction ws with
  | nil => exact tells_nil t
  | cons w ws ih =>
      cases w with
      | anyText => exact ih.someFrom
      | exactly d => exact ih.before nofun
      | anyOne => exact ih.before nofun
      | oneOf negated items => exact ih.before nofun

/-- A name is matched exactly if it falls into what the parts stand for. -/
theorem matchesAll_iff : matchesAll ws t = true ↔ Matches ws t :=
  (tells_matchTails t ws).headD_iff

end CallBindings.Wildcard
