import CallBindings.Proofs.Number.Decimal
import CallBindings.Proofs.Shape.TypeName
import CallBindings.Proofs.Text.Listed
import CallBindings.Proofs.Text.Quoted

set_option autoImplicit false

/-! # Texts written as lines

A text that is written line by line is read back line by line if no line holds a line feed.
Quoted texts, identifiers and numbers hold none, and neither does what is put together from
such parts.
-/

namespace CallBindings.Text

/-- Whether a text can stand in a line. -/
def InLine (t : Text) : Prop := CodePoint.ofChar '\n' ∉ t

instance (t : Text) : Decidable t.InLine := inferInstanceAs (Decidable (_ ∉ t))

variable {s t : Text}

@[simp] theorem inLine_append : InLine (s ++ t) ↔ InLine s ∧ InLine t := by
  simp [InLine]

theorem InLine.append (hs : InLine s) (ht : InLine t) : InLine (s ++ t) := inLine_append.mpr ⟨hs, ht⟩

theorem inLine_of_isIdentifier (h : t.isIdentifier = true) : InLine t :=
  not_mem_of_isIdentifier h (CodePoint.inIdentifier_of_ascii (by decide))

/-! ## Printable text -/

/-- Whether a text is printable ASCII. -/
def IsPrintable (t : Text) : Prop := ∀ x ∈ t, x.isPrintable = true

instance (t : Text) : Decidable t.IsPrintable :=
  inferInstanceAs (Decidable (∀ x ∈ t, x.isPrintable = true))

theorem IsPrintable.append (hs : IsPrintable s) (ht : IsPrintable t) : IsPrintable (s ++ t) :=
  List.forall_mem_append.mpr ⟨hs, ht⟩

theorem IsPrintable.inLine (h : IsPrintable t) : InLine t := by
  intro hmem
  have := h _ hmem
  revert this
  decide

theorem isPrintable_quote (t : Text) : IsPrintable t.quote := fun _ hx => isPrintable_of_mem_quote hx

theorem isPrintable_ofNatPadded (width n : ℕ) : IsPrintable (ofNatPadded width n) := by
  intro x hx
  exact isPrintable_of_isAsciiDigit (isDigits_ofNatPadded width n x hx)

/-! ## Text woven from names

What a module is written with is printable text of its own and names that come from outside. -/

/-- A text put together from printable texts and some names. -/
inductive Woven (names : List Text) : Text → Prop
  | printable {t : Text} : IsPrintable t → Woven names t
  | name {t : Text} : t ∈ names → Woven names t
  | append {s t : Text} : Woven names s → Woven names t → Woven names (s ++ t)

variable {names names' : List Text}

/-- Names that are woven from other names may be replaced by these. -/
theorem Woven.trans (h : Woven names t) (hnames : ∀ n ∈ names, Woven names' n) :
    Woven names' t := by
  induction h with
  | printable h => exact .printable h
  | name h => exact hnames _ h
  | append _ _ hs ht => exact .append hs ht

theorem Woven.mono (h : Woven names t) (hnames : names ⊆ names') : Woven names' t :=
  h.trans fun _ hn => .name (hnames hn)

theorem Woven.inLine (h : Woven names t) (hnames : ∀ n ∈ names, InLine n) : InLine t := by
  induction h with
  | printable h => exact h.inLine
  | name h => exact hnames _ h
  | append _ _ hs ht => exact hs.append ht

/-- A code point that is not printable comes from a name. -/
theorem Woven.mem_name (h : Woven names t) {x : CodePoint} (hx : x ∈ t) :
    x.isPrintable = true ∨ ∃ n ∈ names, x ∈ n := by
  induction h with
  | printable h => exact Or.inl (h x hx)
  | name h => exact Or.inr ⟨_, h, hx⟩
  | append _ _ hs ht =>
      rcases List.mem_append.mp hx with hx | hx
      · exact hs hx
      · exact ht hx

theorem woven_join {sep : Text} {ts : List Text} (hsep : IsPrintable sep)
    (h : ∀ t ∈ ts, Woven names t) : Woven names (join sep ts) := by
  induction ts with
  | nil => exact .printable (List.forall_mem_nil _)
  | cons t ts ih =>
      have ht := h t List.mem_cons_self
      cases ts with
      | nil => exact ht
      | cons u us =>
          rw [join]
          · exact .append (.append ht (.printable hsep))
              (ih fun v hv => h v (List.mem_cons_of_mem t hv))
          · simp

/-! ## Splitting -/

/-- Written lines are read back, with an empty one at the end. -/
theorem splitAt_flatMap {lines : List Text} (h : ∀ line ∈ lines, InLine line) :
    splitAt (CodePoint.ofChar '\n') (lines.flatMap fun line => line ++ ofString "\n") =
      lines ++ [[]] := by
  induction lines with
  | nil => rfl
  | cons line lines ih =>
      have hshape : (line :: lines).flatMap (fun line => line ++ ofString "\n") =
          line ++ CodePoint.ofChar '\n' :: lines.flatMap fun line => line ++ ofString "\n" := by
        rw [List.flatMap_cons, List.append_assoc]
        rfl
      rw [hshape, splitAt_append_cons (h line List.mem_cons_self),
        ih fun l hl => h l (List.mem_cons_of_mem line hl)]
      rfl

/-- Each written line brings one line feed. -/
theorem countOf_flatMap {lines : List Text} (h : ∀ line ∈ lines, InLine line) :
    countOf (CodePoint.ofChar '\n') (lines.flatMap fun line => line ++ ofString "\n") =
      lines.length := by
  induction lines with
  | nil => rfl
  | cons line lines ih =>
      have hline : countOf (CodePoint.ofChar '\n') line = 0 := by
        refine List.countP_eq_zero.mpr fun c hc heq => h line List.mem_cons_self ?_
        rwa [← of_decide_eq_true heq]
      have hfeed : countOf (CodePoint.ofChar '\n') (ofString "\n") = 1 := by decide
      have ih := ih fun l hl => h l (List.mem_cons_of_mem line hl)
      rw [countOf] at ih hline hfeed ⊢
      rw [List.flatMap_cons, List.countP_append, List.countP_append, hline, hfeed, ih,
        List.length_cons]
      omega

end CallBindings.Text
