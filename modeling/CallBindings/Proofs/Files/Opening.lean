import CallBindings.Proofs.Files.Readings
import Mathlib.Data.List.DropRight

set_option autoImplicit false

/-! # Where a search starts

The text of a search is cut in front of its first segment with wildcards. What stands in front is
the path that the search starts from, and it is followed as it is written. A directory whose path
has no wildcards goes into this path whole: then the segments that the search reads are those of its
pattern.
-/

namespace CallBindings

open Text

/-- Whether a text has no wildcards. -/
def Path.IsPlain (t : Text) : Prop := ∀ c ∈ t, Wildcard.isSpecial c = false

instance (t : Text) : Decidable (Path.IsPlain t) := inferInstanceAs (Decidable (∀ c ∈ t, _))

namespace Search

variable {t front rest base pattern : Text}

/-! ## The cut -/

/-- Whether a text is cut in front of its first segment with wildcards. -/
structure IsCut (t front rest : Text) : Prop where
  eq : t = front ++ rest
  plain : Path.IsPlain front
  slash : front = [] ∨ ∃ before, front = before ++ [CodePoint.ofChar '/']
  special : ∃ (a : Text) (c : CodePoint) (b : Text), rest = a ++ c :: b ∧
    CodePoint.ofChar '/' ∉ a ∧ Path.IsPlain a ∧ Wildcard.isSpecial c = true

/-- The code points of a text before the last slash, that slash included. -/
def upToSlash (t : Text) : Text := t.rdropWhile (· ≠ CodePoint.ofChar '/')

theorem upToSlash_concat (t : Text) (c : CodePoint) : upToSlash (t ++ [c]) =
    if c = CodePoint.ofChar '/' then t ++ [c] else upToSlash t := by
  rw [upToSlash, List.rdropWhile_concat]
  by_cases hc : c = CodePoint.ofChar '/' <;> simp [hc, upToSlash]

theorem upToSlash_append {a : Text} (ha : CodePoint.ofChar '/' ∉ a) (t : Text) :
    upToSlash (t ++ a) = upToSlash t := by
  induction a using List.reverseRecOn with
  | nil => rw [List.append_nil]
  | append_singleton a c ih =>
      have hc : c ≠ CodePoint.ofChar '/' := by
        rintro rfl
        exact ha (by simp)
      rw [← List.append_assoc, upToSlash_concat, if_neg hc]
      exact ih fun h => ha (List.mem_append_left _ h)

theorem upToSlash_of_slash (h : t = [] ∨ ∃ before, t = before ++ [CodePoint.ofChar '/']) :
    upToSlash t = t := by
  rcases h with rfl | ⟨before, rfl⟩
  · rfl
  · rw [upToSlash_concat, if_pos rfl]

theorem slash_upToSlash (t : Text) :
    upToSlash t = [] ∨ ∃ before, upToSlash t = before ++ [CodePoint.ofChar '/'] := by
  induction t using List.reverseRecOn with
  | nil => exact Or.inl rfl
  | append_singleton t c ih =>
      rw [upToSlash_concat]
      split
      · next hc => exact Or.inr ⟨t, by rw [hc]⟩
      · exact ih

theorem cut?_eq (t : Text) : cut? t =
    if (t.takeWhile fun c => !Wildcard.isSpecial c).length = t.length then none
    else some (upToSlash (t.takeWhile fun c => !Wildcard.isSpecial c),
      t.drop (upToSlash (t.takeWhile fun c => !Wildcard.isSpecial c)).length) := rfl

theorem takeWhile_eq_self (h : Path.IsPlain t) :
    (t.takeWhile fun c => !Wildcard.isSpecial c) = t :=
  List.takeWhile_eq_self_iff.mpr fun c hc => by rw [h c hc]; rfl

theorem cut?_of_plain (h : Path.IsPlain t) : cut? t = none := by
  rw [cut?_eq, takeWhile_eq_self h, if_pos rfl]

theorem IsCut.cut?_eq_some (h : IsCut t front rest) : cut? t = some (front, rest) := by
  obtain ⟨a, c, b, rfl, hslash, hplain, hc⟩ := h.special
  have htake : (t.takeWhile fun c => !Wildcard.isSpecial c) = front ++ a := by
    have hall : Path.IsPlain (front ++ a) := List.forall_mem_append.mpr ⟨h.plain, hplain⟩
    rw [h.eq, ← List.append_assoc, List.takeWhile_append_of_pos fun d hd => by rw [hall d hd]; rfl,
      List.takeWhile_cons_of_neg (by simp [hc]), List.append_nil]
  have hlength : (front ++ a).length ≠ t.length := by
    rw [h.eq]
    simp
  rw [cut?_eq, htake, if_neg hlength, upToSlash_append hslash, upToSlash_of_slash h.slash]
  conv_lhs => rw [h.eq, List.drop_left]

/-- A text with wildcards is cut. -/
theorem exists_isCut (h : ¬ Path.IsPlain t) : ∃ front rest, IsCut t front rest := by
  let plain := t.takeWhile fun c => !Wildcard.isSpecial c
  have hplain : Path.IsPlain plain := fun c hc => by
    simpa using List.mem_takeWhile_imp hc
  have hcut : plain ++ t.dropWhile (fun c => !Wildcard.isSpecial c) = t :=
    List.takeWhile_append_dropWhile
  cases hdrop : t.dropWhile (fun c => !Wildcard.isSpecial c) with
  | nil =>
      rw [hdrop, List.append_nil] at hcut
      exact absurd (hcut ▸ hplain) h
  | cons c b =>
      have hc : Wildcard.isSpecial c = true := by
        have hne : t.dropWhile (fun c => !Wildcard.isSpecial c) ≠ [] := by simp [hdrop]
        have hhead := List.head_dropWhile_not (fun c => !Wildcard.isSpecial c) hne
        simpa [hdrop] using hhead
      have hparts : upToSlash plain ++ plain.rtakeWhile (· ≠ CodePoint.ofChar '/') = plain :=
        List.rdropWhile_append_rtakeWhile
      have hsub : ∀ d ∈ upToSlash plain ++ plain.rtakeWhile (· ≠ CodePoint.ofChar '/'),
          Wildcard.isSpecial d = false := hparts.symm ▸ hplain
      obtain ⟨hfront, hback⟩ := List.forall_mem_append.mp hsub
      -- the cut is at the last slash in front of the first special code point
      refine ⟨upToSlash plain, plain.rtakeWhile (· ≠ CodePoint.ofChar '/') ++ c :: b, ?_, hfront,
        slash_upToSlash plain, _, c, b, rfl, fun hmem => ?_, hback, hc⟩
      · rw [← List.append_assoc, hparts, ← hdrop, hcut]
      · simpa using List.mem_rtakeWhile_imp hmem

/-- What is cut behind a plain directory is cut in the same place. -/
theorem IsCut.behind (h : IsCut t front rest) {before : Text}
    (hbefore : Path.IsPlain (before ++ [CodePoint.ofChar '/'])) :
    IsCut (before ++ [CodePoint.ofChar '/'] ++ t) (before ++ [CodePoint.ofChar '/'] ++ front)
      rest where
  eq := by rw [h.eq, List.append_assoc _ front]
  plain := List.forall_mem_append.mpr ⟨hbefore, h.plain⟩
  slash := by
    rcases h.slash with rfl | ⟨last, rfl⟩
    · exact Or.inr ⟨before, List.append_nil _⟩
    · exact Or.inr ⟨before ++ [CodePoint.ofChar '/'] ++ last, (List.append_assoc _ _ _).symm⟩
  special := h.special

/-! ## The path in front -/

/-- A text without the slashes at its end. -/
def withoutSlashes (t : Text) : Text := t.rdropWhile (· = CodePoint.ofChar '/')

theorem parent_eq (h : t = [] ∨ ∃ before, t = before ++ [CodePoint.ofChar '/']) :
    Path.parent t = if t.all (· = CodePoint.ofChar '/') then t else withoutSlashes t := by
  have hunfold : Path.parent t = if (upToSlash t).all (· = CodePoint.ofChar '/') then upToSlash t
      else withoutSlashes (upToSlash t) := rfl
  rw [hunfold, upToSlash_of_slash h]

theorem withoutSlashes_append (h : withoutSlashes t ≠ []) (p : Text) :
    withoutSlashes (p ++ t) = p ++ withoutSlashes t := by
  have hempty : (t.reverse.dropWhile (· = CodePoint.ofChar '/')).isEmpty = false := by
    simpa [withoutSlashes, List.rdropWhile] using h
  rw [withoutSlashes, List.rdropWhile, List.reverse_append, List.dropWhile_append, hempty,
    if_neg Bool.false_ne_true, List.reverse_append, List.reverse_reverse]
  rfl

theorem withoutSlashes_ne_nil (h : t.all (· = CodePoint.ofChar '/') = false) :
    withoutSlashes t ≠ [] := by
  intro hnil
  rw [withoutSlashes, List.rdropWhile_eq_nil_iff, ← List.all_eq_true, h] at hnil
  cases hnil

theorem names_withoutSlashes (t : Text) : Path.names (withoutSlashes t) = Path.names t := by
  induction t using List.reverseRecOn with
  | nil => rfl
  | append_singleton t c ih =>
      rw [withoutSlashes, List.rdropWhile_concat]
      split
      · next hc =>
          have hnil : Path.names [] = [] := rfl
          rw [of_decide_eq_true hc, Path.names_append_slash, hnil, List.append_nil]
          exact ih
      · rfl

theorem names_parent (h : t = [] ∨ ∃ before, t = before ++ [CodePoint.ofChar '/']) :
    Path.names (Path.parent t) = Path.names t := by
  rw [parent_eq h]
  split
  · rfl
  · exact names_withoutSlashes t

theorem isAbsolute_of_beginning {p q : Text} (h : p <+: q) (hp : p ≠ []) :
    Path.isAbsolute q = Path.isAbsolute p := by
  obtain ⟨r, rfl⟩ := h
  exact Path.isAbsolute_append hp r

theorem isAbsolute_parent (h : t = [] ∨ ∃ before, t = before ++ [CodePoint.ofChar '/']) :
    Path.isAbsolute (Path.parent t) = Path.isAbsolute t := by
  rw [parent_eq h]
  split
  · rfl
  · next hall =>
      have hbegins : withoutSlashes t <+: t := List.rdropWhile_prefix _ _
      exact (isAbsolute_of_beginning hbegins (withoutSlashes_ne_nil (by simpa using hall))).symm

/-! ## The plan -/

theorem plan_of_plain (h : Path.IsPlain t) : plan t = (t, []) := by
  rw [plan, cut?_of_plain h]

theorem IsCut.plan_eq (h : IsCut t front rest) :
    plan t = (Path.parent front, (Path.steps rest).map Segment.ofText) := by
  rw [plan, h.cut?_eq_some]

theorem not_isSpecial_slash : Wildcard.isSpecial (CodePoint.ofChar '/') = false := by decide

theorem IsCut.names_ne_nil (h : IsCut t front rest) : Path.names rest ≠ [] := by
  obtain ⟨a, c, b, rfl, -, -, hc⟩ := h.special
  refine Path.names_ne_nil (c := c) (by simp) ?_
  rintro rfl
  rw [not_isSpecial_slash] at hc
  cases hc

theorem IsCut.rest_ne_nil (h : IsCut t front rest) : rest ≠ [] := by
  rintro rfl
  exact h.names_ne_nil rfl

theorem IsCut.names_eq (h : IsCut t front rest) :
    Path.names t = Path.names front ++ Path.names rest := by
  rcases h.slash with hfront | ⟨before, hfront⟩
  · rw [h.eq, hfront]
    rfl
  · have hnil : Path.names [] = [] := rfl
    rw [h.eq, hfront, List.append_assoc, List.singleton_append, Path.names_append_slash,
      Path.names_append_slash, hnil, List.append_nil]

/-- What is in front ends in a slash, so the steps behind it are steps of the text. -/
theorem IsCut.steps_eq (h : IsCut t front rest) :
    Path.steps t = Path.names front ++ Path.steps rest := by
  have hends : endsWith t "/" = endsWith rest "/" := by
    rw [h.eq, Path.endsWith_append h.rest_ne_nil]
  rw [Path.steps, Path.steps, hends, h.names_eq, List.append_assoc]

/-- There are segments to be read exactly if there are wildcards. -/
theorem plan_segments_eq_nil_iff : (plan t).2 = [] ↔ Path.IsPlain t := by
  constructor
  · intro h
    by_contra hspecial
    obtain ⟨front, rest, hcut⟩ := exists_isCut hspecial
    rw [hcut.plan_eq, List.map_eq_nil_iff] at h
    exact hcut.names_ne_nil (List.append_eq_nil_iff.mp h).1
  · intro h
    rw [plan_of_plain h]

theorem eq_of_name_eq_ofText {t u : Text} (h : Segment.name t = Segment.ofText u) : t = u := by
  rw [Segment.ofText] at h
  split at h
  · cases h
  · split at h
    · cases h
    · exact Segment.name.inj h

/-- The names that are read as such are steps of the text. -/
theorem mem_steps_of_mem_plan {u : Text} (h : Segment.name u ∈ (plan t).2) : u ∈ Path.steps t := by
  by_cases hplain : Path.IsPlain t
  · rw [plan_of_plain hplain] at h
    cases h
  · obtain ⟨front, rest, hcut⟩ := exists_isCut hplain
    rw [hcut.plan_eq] at h
    obtain ⟨v, hv, huv⟩ := List.mem_map.mp h
    rw [eq_of_name_eq_ofText huv.symm, hcut.steps_eq]
    exact List.mem_append_right _ hv

/-- What is read as a name can be written. -/
theorem writable_of_mem_plan {u : Text} (h : Segment.name u ∈ (plan t).2) :
    u ≠ [] ∧ CodePoint.ofChar '/' ∉ u := by
  rcases List.mem_append.mp (mem_steps_of_mem_plan h) with hname | hdot
  · exact Path.areWritable_names t u hname
  · split at hdot
    · rw [List.mem_singleton.mp hdot]
      decide
    · cases hdot

/-- What is read as segments begins with a wildcard or in a name. -/
theorem IsCut.isAbsolute_rest (h : IsCut t front rest) :
    Path.isAbsolute rest = false := by
  obtain ⟨a, c, b, rfl, hslash, -, hc⟩ := h.special
  cases a with
  | nil =>
      rw [List.nil_append, Path.isAbsolute_cons]
      refine decide_eq_false ?_
      rintro rfl
      rw [not_isSpecial_slash] at hc
      cases hc
  | cons d a =>
      rw [List.cons_append, Path.isAbsolute_cons]
      refine decide_eq_false ?_
      rintro rfl
      exact hslash List.mem_cons_self

theorem IsCut.isAbsolute_front (h : IsCut t front rest) :
    Path.isAbsolute front = Path.isAbsolute t := by
  by_cases hfront : front = []
  · rw [h.eq, hfront, List.nil_append, h.isAbsolute_rest]
    rfl
  · exact (isAbsolute_of_beginning ⟨rest, h.eq.symm⟩ hfront).symm

theorem isAbsolute_opening (t : Text) : Path.isAbsolute (plan t).1 = Path.isAbsolute t := by
  by_cases hplain : Path.IsPlain t
  · rw [plan_of_plain hplain]
  · obtain ⟨front, rest, hcut⟩ := exists_isCut hplain
    rw [hcut.plan_eq, isAbsolute_parent hcut.slash, hcut.isAbsolute_front]

/-! ## Plain directories -/

/-- A directory is what its path with a slash at the end lies in. -/
theorem parent_join_nil (hbase : Path.IsNormal base) : Path.parent (Path.join base []) = base := by
  by_cases hnames : Path.names base = []
  · rcases hbase.eq_slashes hnames with rfl | rfl <;> rfl
  · have hconcat : Path.join base [] = base ++ [CodePoint.ofChar '/'] := hbase.join_nil hnames
    -- the path ends with no slash of its own, so only the one that is added comes off
    obtain ⟨front, last, hlast⟩ := (List.eq_nil_or_concat' base).resolve_left hbase.ne_nil
    have hslash : last ≠ CodePoint.ofChar '/' := by
      rintro rfl
      have hends := hbase.endsWith_eq_false hnames
      rw [Bool.eq_false_iff, Ne, Path.endsWith_slash_iff, hlast] at hends
      exact hends List.getLast?_concat
    have hall : ¬ (base ++ [CodePoint.ofChar '/']).all (· = CodePoint.ofChar '/') = true := by
      intro hall
      have hmem : last ∈ base ++ [CodePoint.ofChar '/'] := by simp [hlast]
      exact hslash (of_decide_eq_true (List.all_eq_true.mp hall last hmem))
    rw [hconcat, parent_eq (Or.inr ⟨base, rfl⟩), if_neg hall, withoutSlashes,
      List.rdropWhile_concat, if_pos (decide_eq_true rfl), hlast, List.rdropWhile_concat,
      if_neg (by simpa using hslash)]

/-- Behind a plain directory, the segments of a pattern are read as they are without it, and what
stands in front of them is followed from the directory. -/
theorem plan_join (hbase : Path.IsNormal base) (hplain : Path.IsPlain base)
    (hpattern : Path.isAbsolute pattern = false) :
    (plan (Path.join base pattern)).2 = (plan pattern).2 ∧
      ((plan (Path.join base pattern)).1 = Path.join base [] ++ (plan pattern).1 ∨
        (plan (Path.join base pattern)).1 = base ∧ (plan pattern).1 = [] ∧
          (plan pattern).2 ≠ []) := by
  obtain ⟨before, hbefore⟩ := List.getLast?_eq_some_iff.mp
    (Path.endsWith_slash_iff.mp (Path.endsWith_join_nil hbase.ne_nil))
  have hslashed : Path.IsPlain (Path.join base []) := by
    have hslash : Path.IsPlain (ofString "/") := by decide
    rw [Path.join_nil]
    split
    · exact hplain
    · exact List.forall_mem_append.mpr ⟨hplain, hslash⟩
  rw [Path.join_eq hpattern]
  by_cases hspecial : Path.IsPlain pattern
  · rw [plan_of_plain (List.forall_mem_append.mpr ⟨hslashed, hspecial⟩), plan_of_plain hspecial]
    exact ⟨rfl, Or.inl rfl⟩
  · obtain ⟨front, rest, hcut⟩ := exists_isCut hspecial
    have hnone : (plan pattern).2 ≠ [] := fun hnil => hspecial (plan_segments_eq_nil_iff.mp hnil)
    have hbehind := hcut.behind (hbefore ▸ hslashed)
    rw [← hbefore] at hbehind
    rw [hcut.plan_eq] at hnone ⊢
    rw [hbehind.plan_eq]
    refine ⟨rfl, ?_⟩
    by_cases hfront : front = []
    · rw [hfront, List.append_nil]
      exact Or.inr ⟨parent_join_nil hbase, rfl, hnone⟩
    · -- the first code point in front is none of a slash, so both paths lose the same slashes
      have hrelative : Path.isAbsolute front = false := by rw [hcut.isAbsolute_front, hpattern]
      have hall : front.all (· = CodePoint.ofChar '/') = false := by
        obtain ⟨c, front, rfl⟩ := List.exists_cons_of_ne_nil hfront
        rw [Path.isAbsolute_cons] at hrelative
        rw [List.all_cons, hrelative, Bool.false_and]
      have hjoined : ¬ (Path.join base [] ++ front).all (· = CodePoint.ofChar '/') = true := by
        rw [List.all_append, hall, Bool.and_false]
        exact Bool.false_ne_true
      rw [parent_eq hbehind.slash, if_neg hjoined, parent_eq hcut.slash,
        if_neg (by simp [hall]), withoutSlashes_append (withoutSlashes_ne_nil hall)]
      exact Or.inl rfl

end Search

end CallBindings
