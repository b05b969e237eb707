import CallBindings.Url.Template
import Mathlib.Data.List.Infix
import Mathlib.Tactic.Common

set_option autoImplicit false

/-! # The placeholders of a template

The scan for placeholders remembers what may become one. What it finds does not depend on that:
the placeholders are the places of the text where a name stands between `${` and `}`. As no such
place begins inside another one, a text without placeholders followed by one and by further text
is cut there, whatever the further text is, and every text can be taken apart in this way
(`induction_on`).
-/

namespace CallBindings.Template

/-- A placeholder as it is written. -/
def placeholder (name : Text) : Text := '$' :: '\x7b' :: (name ++ [CodePoint.ofChar '\x7d'])

/-- Whether a text can name a variable. -/
def IsName (name : Text) : Prop := name ≠ [] ∧ ∀ c ∈ name, c.isWord = true

/-- The text of a piece. -/
def Piece.text : Piece → Text
  | .literal c => [c]
  | .placeholder name => Template.placeholder name

/-- The name of a piece that is a placeholder. -/
def Piece.name? : Piece → Option Text
  | .literal _ => none
  | .placeholder name => some name

/-- What was scanned of an opening. -/
def Opening.text : Opening → Text
  | .none => []
  | .dollar => ['$']
  | .name reversed => '$' :: '\x7b' :: reversed.reverse

theorem names_eq (t : Text) : names t = (pieces t).filterMap Piece.name? := rfl

theorem isWord_dollar : (CodePoint.ofChar '$').isWord = false := by decide +kernel

theorem isWord_closing : (CodePoint.ofChar '\x7d').isWord = false := by decide +kernel

/-! ## What the scan finds -/

/-- A dollar sign ends whatever was open before it. -/
theorem scan_append_dollar (o : Opening) (a t : Text) :
    scan o (a ++ CodePoint.ofChar '$' :: t) = scan o a ++ scan .dollar t := by
  fun_induction scan o a with
  | case1 o =>
      cases o with
      | none => simp [scan, Opening.literals]
      | dollar =>
          have hne : CodePoint.ofChar '$' ≠ CodePoint.ofChar '\x7b' := by decide
          simp [scan, Opening.literals, hne]
      | name reversed =>
          have hne : CodePoint.ofChar '$' ≠ CodePoint.ofChar '\x7d' := by decide
          simp [scan, isWord_dollar, hne]
  | _ => simp_all [scan]

theorem scan_name_append {name : Text} (hname : ∀ c ∈ name, c.isWord = true)
    (reversed t : Text) :
    scan (.name reversed) (name ++ t) = scan (.name (name.reverse ++ reversed)) t := by
  induction name generalizing reversed with
  | nil => rfl
  | cons c name ih =>
      have hword : c.isWord = true := hname c List.mem_cons_self
      rw [List.cons_append, scan, if_pos hword, ih fun d hd => hname d (List.mem_cons_of_mem c hd)]
      simp

/-- A text that holds a placeholder is cut there. -/
theorem pieces_append_placeholder {name : Text} (hname : IsName name) (a b : Text) :
    pieces (a ++ placeholder name ++ b) = pieces a ++ .placeholder name :: pieces b := by
  have hopen : a ++ placeholder name ++ b
      = a ++ CodePoint.ofChar '$' :: ('\x7b' :: (name ++ CodePoint.ofChar '\x7d' :: b)) := by
    simp [placeholder]
  rw [pieces, hopen, scan_append_dollar, scan, if_pos rfl, scan_name_append hname.2, scan,
    if_neg (by simp [isWord_closing]), if_pos (by simp [hname.1])]
  simp [pieces]

theorem names_append_placeholder {name : Text} (hname : IsName name) (a b : Text) :
    names (a ++ placeholder name ++ b) = names a ++ name :: names b := by
  rw [names_eq, pieces_append_placeholder hname]
  simp [names_eq, Piece.name?]

theorem flatMap_text_map_literal (t : Text) :
    (t.map Piece.literal).flatMap Piece.text = t := by
  induction t with
  | nil => rfl
  | cons c t ih => rw [List.map_cons, List.flatMap_cons, ih]; rfl

theorem flatMap_text_literals (o : Opening) : o.literals.flatMap Piece.text = o.text := by
  cases o with
  | none => rfl
  | dollar => rfl
  | name reversed =>
      rw [Opening.literals, List.flatMap_cons, List.flatMap_cons, flatMap_text_map_literal]
      rfl

/-- Nothing of the text is lost or changed by the scan. -/
theorem flatMap_text_scan (o : Opening) (t : Text) :
    (scan o t).flatMap Piece.text = o.text ++ t := by
  fun_induction scan o t with
  | case1 o => rw [flatMap_text_literals, List.append_nil]
  | _ => simp_all [Opening.text, Piece.text, placeholder, flatMap_text_literals]

theorem flatMap_text_pieces (t : Text) : (pieces t).flatMap Piece.text = t :=
  flatMap_text_scan .none t

/-- An opening holds nothing but code points of a name. -/
def Opening.IsSound : Opening → Prop
  | .name reversed => ∀ c ∈ reversed, c.isWord = true
  | _ => True

theorem isName_of_mem_scan {o : Opening} (ho : o.IsSound) {name t : Text}
    (h : Piece.placeholder name ∈ scan o t) : IsName name := by
  fun_induction scan o t with
  | case1 o => cases o <;> simp [Opening.literals] at h
  | case8 reversed c t _ hclosing ih =>
      -- the only case with a placeholder of its own, the name that was open
      have hnonempty : reversed ≠ [] := by
        rintro rfl
        simp at hclosing
      rcases List.mem_cons.mp h with heq | hlater
      · rw [Piece.placeholder.inj heq]
        exact ⟨by simpa using hnonempty, fun c hc => ho c (List.mem_reverse.mp hc)⟩
      · exact ih trivial hlater
  | _ => simp_all [Opening.IsSound, Opening.literals]

theorem isName_of_mem_pieces {name t : Text} (h : Piece.placeholder name ∈ pieces t) :
    IsName name :=
  isName_of_mem_scan (o := .none) trivial h

/-! ## Taking a text apart -/

/-- Pieces without a name are the code points of their text. -/
theorem eq_map_literal_of_name? {ps : List Piece} (h : ∀ p ∈ ps, p.name? = none) :
    ps = (ps.flatMap Piece.text).map .literal := by
  induction ps with
  | nil => rfl
  | cons p ps ih =>
      have hps := ih fun q hq => h q (List.mem_cons_of_mem p hq)
      cases p with
      | literal c => rw [List.flatMap_cons, List.map_append, ← hps]; rfl
      | placeholder name => exact absurd (h _ List.mem_cons_self) (by simp [Piece.name?])

theorem pieces_of_names_eq_nil {t : Text} (h : names t = []) : pieces t = t.map .literal := by
  have hnone : ∀ p ∈ pieces t, p.name? = none := by
    rw [names_eq, List.filterMap_eq_nil_iff] at h
    exact h
  rw [eq_map_literal_of_name? hnone, flatMap_text_pieces]

theorem Piece.text_ne_nil (p : Piece) : p.text ≠ [] := by
  cases p <;> simp [Piece.text, Template.placeholder]

/-- The text in front of a placeholder before which only literals were found has none itself:
scanning it on its own finds no more than scanning it in its place. -/
theorem names_eq_nil_of_prefix {ps : List Piece} {a : Text} (hps : ∀ p ∈ ps, p.name? = none)
    (ha : ps.flatMap Piece.text = a) {l : List Piece} (hpieces : pieces a <+: l)
    (hfront : ps <+: l) : names a = [] := by
  rw [names_eq, List.filterMap_eq_nil_iff]
  rcases List.prefix_or_prefix_of_prefix hpieces hfront with h | ⟨more, hmore⟩
  · exact fun p hp => hps p (h.subset hp)
  · -- what else was found in it would be text behind its end
    have htext : more.flatMap Piece.text = [] := by
      have := flatMap_text_pieces a
      rw [← hmore, List.flatMap_append, ha] at this
      simpa using this
    cases more with
    | nil => rwa [← hmore, List.append_nil]
    | cons p more =>
        rw [List.flatMap_cons, List.append_eq_nil_iff] at htext
        exact absurd htext.1 p.text_ne_nil

/-- A text has no placeholders, or it is a text without placeholders, a placeholder and the
rest. -/
theorem cases_placeholder (t : Text) :
    names t = [] ∨ ∃ a name b : Text,
      names a = [] ∧ IsName name ∧ t = a ++ placeholder name ++ b := by
  cases hfirst : (pieces t).findSome? Piece.name? with
  | none =>
      left
      rw [names_eq, List.filterMap_eq_nil_iff]
      exact List.findSome?_eq_none_iff.mp hfirst
  | some name =>
      right
      -- the text is cut at its first placeholder, so there is none in front of it
      obtain ⟨ps, p, rest, hpieces, hp, hps⟩ := List.findSome?_eq_some_iff.mp hfirst
      have hplaceholder : p = .placeholder name := by
        cases p with
        | literal c => cases hp
        | placeholder n => rw [Option.some.inj hp]
      subst hplaceholder
      have hname : IsName name := isName_of_mem_pieces (t := t) (by rw [hpieces]; simp)
      have htext : t = ps.flatMap Piece.text ++ placeholder name ++ rest.flatMap Piece.text := by
        have := flatMap_text_pieces t
        rw [hpieces, List.flatMap_append, List.flatMap_cons, ← List.append_assoc] at this
        exact this.symm
      refine ⟨_, name, _, names_eq_nil_of_prefix hps rfl (l := pieces t) ?_ ?_, hname, htext⟩
      · conv_rhs => rw [htext, pieces_append_placeholder hname]
        exact List.prefix_append _ _
      · rw [hpieces]
        exact List.prefix_append _ _

/-- Induction over the placeholders of a text. -/
theorem induction_on {P : Text → Prop} (plain : ∀ t, names t = [] → P t)
    (step : ∀ a name b : Text, names a = [] → IsName name → P b →
      P (a ++ placeholder name ++ b)) (t : Text) : P t := by
  rcases cases_placeholder t with h | ⟨a, name, b, ha, hname, ht⟩
  · exact plain t h
  · rw [ht]
    exact step a name b ha hname (induction_on plain step b)
termination_by t.length
decreasing_by
  rw [ht]
  simp only [placeholder, List.length_append, List.length_cons]
  omega

/-- The placeholders of a text are the places where a name stands between `${` and `}`. -/
theorem mem_names_iff {name t : Text} :
    name ∈ names t ↔ IsName name ∧ ∃ a b : Text, t = a ++ placeholder name ++ b := by
  constructor
  · intro h
    induction t using induction_on with
    | plain t ht => rw [ht] at h; cases h
    | step a first b ha hfirst ih =>
        rw [names_append_placeholder hfirst, ha, List.nil_append] at h
        rcases List.mem_cons.mp h with rfl | hlater
        · exact ⟨hfirst, a, b, rfl⟩
        · obtain ⟨hname, c, d, rfl⟩ := ih hlater
          exact ⟨hname, a ++ placeholder first ++ c, d, by simp⟩
  · rintro ⟨hname, a, b, rfl⟩
    rw [names_append_placeholder hname]
    simp

end CallBindings.Template
