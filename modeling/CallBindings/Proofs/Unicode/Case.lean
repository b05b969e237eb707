import CallBindings.Proofs.Text.Quoted
import CallBindings.Proofs.Text.Trim
import CallBindings.Unicode.Case
import Mathlib.Data.List.Basic

set_option autoImplicit false

/-! # Upper case

What comes of upper case is upper case: the images in the tables have no other images, so that upper
case taken again changes nothing. None of them is white space, so that a text without white space at
its ends has none in upper case.
-/

namespace CallBindings

namespace Unicode

/-- The number that stands for the first code point of a run. -/
def Run.firstImage (r : Run) : Nat := (r.first + r.distance).toNat

/-- The number that stands for the last code point of a run. -/
def Run.lastImage (r : Run) : Nat := (r.last + r.distance).toNat

/-- Whether no image under `r` is held by `s`, as is seen from their ends, or because `s` holds every
other code point and they are between those. -/
def Run.avoids (r s : Run) : Bool :=
  Nat.blt r.lastImage s.first || Nat.blt s.last r.firstImage ||
    (Nat.beq s.step 2 && (Nat.beq r.step 2 || Nat.beq r.first r.last) &&
      Nat.beq ((r.firstImage + s.first) % 2) 1)

/-- A single code point as a run. -/
def Run.single (n : Nat) : Run := ⟨n, n, 1, 0⟩

/-- All that has another upper case than itself. -/
def upperSources : List Run := upperRuns ++ upperSequences.map fun e => Run.single e.1

/-- All that other code points have as upper case. -/
def upperImages : List Run :=
  upperRuns ++ (upperSequences.flatMap (·.2)).map Run.single

theorem upperImages_avoid :
    (upperImages.all fun r => upperSources.all fun s => r.avoids s) = true := by
  decide +kernel

theorem upperImages_bounds : ∀ r ∈ upperImages, 0 ≤ r.first + r.distance ∧ r.lastImage < 0x110000 ∧
    ∀ b ∈ blanks, r.lastImage < b.1 ∨ b.2 < r.firstImage := by
  decide +kernel

variable {r s : Run} {m n : Nat}

theorem Run.of_image (h : r.apply? m = some n) :
    r.first ≤ m ∧ m ≤ r.last ∧ (m - r.first) % r.step = 0 ∧ n = ((m : Int) + r.distance).toNat := by
  rw [ Run.apply?] at h
  split at h
  · next hheld =>
      cases h
      simp only [Bool.and_eq_true, decide_eq_true_eq, beq_iff_eq] at hheld
      exact ⟨hheld.1.1, hheld.1.2, hheld.2, rfl⟩
  · cases h

theorem Run.image_single (n : Nat) : Run.apply? (Run.single n) n = some n := by
  simp [Run.single, Run.apply?]

theorem Run.image_bounds (h : r.apply? m = some n) : r.firstImage ≤ n ∧ n ≤ r.lastImage := by
  obtain ⟨hfirst, hlast, -, rfl⟩ := Run.of_image h
  rw [Run.firstImage, Run.lastImage]
  omega

theorem Run.no_image_of_avoids (hpositive : 0 ≤ r.first + r.distance) (h : r.avoids s = true)
    (hr : r.apply? m = some n) : s.apply? n = none := by
  rw [Option.eq_none_iff_forall_ne_some]
  intro k hs
  obtain ⟨hlow, hhigh⟩ := Run.image_bounds hr
  obtain ⟨hrfirst, hrlast, hrstep, hn⟩ := Run.of_image hr
  obtain ⟨hsfirst, hslast, hsstep, -⟩ := Run.of_image hs
  simp only [Run.avoids, Run.firstImage, Run.lastImage, Bool.or_eq_true, Bool.and_eq_true,
    Nat.blt_eq, Nat.beq_eq] at h hlow hhigh
  -- the images lie before the run, behind it, or between the code points it holds
  rcases h with (h | h) | ⟨⟨hstep, hother⟩, hparity⟩
  · omega
  · omega
  · rw [hstep] at hsstep
    rcases hother with hother | hother
    · rw [hother] at hrstep
      omega
    · omega

/-- What comes of upper case is neither changed by it nor white space. -/
theorem stays_of_upperImages (hr : r ∈ upperImages) (h : r.apply? m = some n) :
    upperSequences.find? (·.1 == n) = none ∧ Run.applyFirst? upperRuns n = none ∧
      inRanges blanks n = false ∧ n < 0x110000 := by
  obtain ⟨hlow, hhigh⟩ := Run.image_bounds h
  obtain ⟨hpositive, hlimit, hblanks⟩ := upperImages_bounds r hr
  have havoids : ∀ s ∈ upperSources, s.apply? n = none := fun s hs =>
    Run.no_image_of_avoids hpositive
      (List.all_eq_true.mp (List.all_eq_true.mp upperImages_avoid r hr) s hs) h
  refine ⟨List.find?_eq_none.mpr fun e he hkey => ?_, List.findSome?_eq_none_iff.mpr fun s hs => ?_,
    List.any_eq_false.mpr fun b hb => ?_, by omega⟩
  · have hsource := havoids _ (List.mem_append_right _ (List.mem_map_of_mem he))
    rw [← beq_iff_eq.mp hkey, Run.image_single] at hsource
    cases hsource
  · exact havoids s (List.mem_append_left _ hs)
  · have := hblanks b hb
    simp only [Bool.and_eq_true, decide_eq_true_eq]
    omega

end Unicode

namespace CodePoint

variable {c d : CodePoint}

theorem upper_ne_nil (c : CodePoint) : c.upper ≠ [] := by
  have hsequences : ∀ e ∈ Unicode.upperSequences, e.2 ≠ [] := by decide +kernel
  rw [upper]
  split
  · next ns hfind => simpa using hsequences _ (List.mem_of_find?_eq_some hfind)
  · split <;> exact List.cons_ne_nil _ _

/-- In upper case a code point stays, or others come of it. -/
theorem mem_upper (hd : d ∈ c.upper) : d = c ∧ c.upper = [c] ∨
    ∃ r ∈ Unicode.upperImages, ∃ m n, r.apply? m = some n ∧ d = ofNat n := by
  rw [upper] at hd ⊢
  split at hd
  · next e ns hfind =>
      obtain ⟨n, hn, rfl⟩ := List.mem_map.mp hd
      have hmem : n ∈ Unicode.upperSequences.flatMap (·.2) :=
        List.mem_flatMap.mpr ⟨_, List.mem_of_find?_eq_some hfind, hn⟩
      exact Or.inr ⟨_, List.mem_append_right _ (List.mem_map_of_mem hmem), n, n,
        Unicode.Run.image_single n, rfl⟩
  · next hfind =>
      split at hd
      · next n happly =>
          obtain ⟨r, hr, hn⟩ := List.exists_of_findSome?_eq_some happly
          exact Or.inr ⟨r, List.mem_append_left _ hr, c.val, n, hn, List.mem_singleton.mp hd⟩
      · next happly => exact Or.inl ⟨List.mem_singleton.mp hd, rfl⟩

/-- What comes of upper case is its own upper case. -/
theorem upper_of_mem_upper (hd : d ∈ c.upper) : d.upper = [d] := by
  rcases mem_upper hd with ⟨rfl, hstays⟩ | ⟨r, hr, m, n, hn, rfl⟩
  · exact hstays
  · obtain ⟨hsequences, hruns, -, hlimit⟩ := Unicode.stays_of_upperImages hr hn
    rw [upper, val_ofNat hlimit, hsequences, hruns]

/-- No white space comes of other code points. -/
theorem isBlank_of_mem_upper (hc : c.isBlank = false) (hd : d ∈ c.upper) : d.isBlank = false := by
  rcases mem_upper hd with ⟨rfl, -⟩ | ⟨r, hr, m, n, hn, rfl⟩
  · exact hc
  · obtain ⟨-, -, hblank, hlimit⟩ := Unicode.stays_of_upperImages hr hn
    rw [isBlank, val_ofNat hlimit, hblank]

end CodePoint

namespace Text

variable {t : Text}

/-- **Upper case is taken once:** again it changes nothing. -/
theorem upper_upper (t : Text) : t.upper.upper = t.upper := by
  have hsingles : ∀ d ∈ t.upper, d.upper = [d] := by
    intro d hd
    obtain ⟨c, -, hd⟩ := List.mem_flatMap.mp hd
    exact CodePoint.upper_of_mem_upper hd
  calc t.upper.upper = t.upper.flatMap fun d => [d] := List.flatMap_congr hsingles
    _ = t.upper := List.flatMap_singleton' _

theorem upper_eq_nil_iff : t.upper = [] ↔ t = [] := by
  rw [upper, List.flatMap_eq_nil_iff]
  constructor
  · intro h
    cases t with
    | nil => rfl
    | cons c t => exact absurd (h c List.mem_cons_self) (CodePoint.upper_ne_nil c)
  · rintro rfl c hc
    cases hc

theorem IsTrimmed.upper (h : t.IsTrimmed) : t.upper.IsTrimmed := by
  constructor
  · intro d hd
    cases t with
    | nil => cases hd
    | cons c t =>
        rw [Text.upper, List.flatMap_cons,
          List.head?_append_of_ne_nil _ (CodePoint.upper_ne_nil c)] at hd
        exact CodePoint.isBlank_of_mem_upper (h.1 c rfl) (List.mem_of_mem_head? hd)
  · intro d hd
    rcases List.eq_nil_or_concat t with rfl | ⟨t, c, rfl⟩
    · cases hd
    · have hlast : c.isBlank = false := h.2 c (by simp)
      rw [Text.upper, List.concat_eq_append, List.flatMap_append, List.flatMap_singleton,
        List.getLast?_append_of_ne_nil _ (CodePoint.upper_ne_nil c)] at hd
      exact CodePoint.isBlank_of_mem_upper hlast (List.mem_of_getLast? hd)

end Text

end CallBindings
