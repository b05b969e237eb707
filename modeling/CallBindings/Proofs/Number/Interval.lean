import CallBindings.Number.Shortest
import Mathlib

set_option autoImplicit false

/-! # The interval of a number

A finite floating point number stands for all reals that are nearer to it than to its
neighbours. The ends of this interval are half a unit of the last place away, the lower end a
quarter where the units below are half as large; they belong to the interval if the
significand is even. The intervals of two numbers meet at most at an end, and there one of the
two significands is odd. So a decimal that lies in the interval of a number determines the
number, up to its sign.
-/

namespace CallBindings.Binary64

/-- Whether the value is finite and not zero. -/
def isProper (x : Binary64) : Bool := x.biased ≠ 2047 && !x.isZero

/-- The unit of the last place of a finite value. -/
def unit (x : Binary64) : ℚ := 2 ^ x.exponent

/-- The size of a finite value. -/
def size (x : Binary64) : ℚ := x.significand * x.unit

/-- Whether the units below the value are half as large. -/
def isNarrow (x : Binary64) : Bool := x.fraction.val = 0 && 1 < x.biased.val

/-- The lower end of the interval of a value. -/
def low (x : Binary64) : ℚ :=
  (x.significand - if x.isNarrow then 1 / 4 else 1 / 2) * x.unit

/-- The upper end of the interval of a value. -/
def high (x : Binary64) : ℚ := (x.significand + 1 / 2) * x.unit

/-- Whether a number rounds to the value. -/
def Within (x : Binary64) (q : ℚ) : Prop :=
  if x.significand % 2 = 0 then x.low ≤ q ∧ q ≤ x.high else x.low < q ∧ q < x.high

variable {x y : Binary64} {q : ℚ}

theorem unit_pos (x : Binary64) : 0 < x.unit := zpow_pos (by norm_num) _

theorem significand_pos (h : x.isProper = true) : 0 < x.significand := by
  simp only [isProper, isZero, Bool.and_eq_true, Bool.not_eq_true', Bool.and_eq_false_iff,
    decide_eq_false_iff_not] at h
  rw [significand]
  split
  · rename_i hb
    have hf : ¬ x.fraction = 0 := by
      rcases h.2 with h | h
      · exact absurd hb h
      · exact h
    exact Fin.pos_iff_ne_zero.mpr hf
  · omega

theorem Within.low_le (h : x.Within q) : x.low ≤ q := by
  rw [Within] at h
  split at h
  · exact h.1
  · exact h.1.le

theorem Within.le_high (h : x.Within q) : q ≤ x.high := by
  rw [Within] at h
  split at h
  · exact h.2
  · exact h.2.le

theorem Within.of_lt (hl : x.low < q) (hh : q < x.high) : x.Within q := by
  rw [Within]
  split
  · exact ⟨hl.le, hh.le⟩
  · exact ⟨hl, hh⟩

theorem low_pos (h : x.isProper = true) : 0 < x.low := by
  have hm : (1 : ℚ) ≤ x.significand := by exact_mod_cast significand_pos h
  refine mul_pos ?_ (unit_pos x)
  split <;> linarith

/-! ## The interval as it is computed -/

theorem ratio_eq (x : Binary64) :
    (x.ratio.1 : ℚ) = x.size * x.ratio.2 ∧ 0 < x.ratio.2 ∧
      (0 < x.significand → ((x.ratio.1 / x.significand : ℕ) : ℚ) = x.unit * x.ratio.2) := by
  rw [ratio, size, unit]
  -- a power of two with a negative exponent goes into the denominator
  split
  · rename_i he
    have hpow : (2 : ℚ) ^ x.exponent = 2 ^ x.exponent.toNat := by
      rw [← zpow_natCast, Int.toNat_of_nonneg he]
    refine ⟨?_, Nat.one_pos, fun hm => ?_⟩
    · simp [hpow]
    · simp [hpow, Nat.mul_div_cancel_left _ hm]
  · rename_i he
    have hpow : (2 : ℚ) ^ x.exponent * 2 ^ (-x.exponent).toNat = 1 := by
      rw [← zpow_natCast, Int.toNat_of_nonneg (by omega), ← zpow_add₀ (by norm_num)]
      simp
    refine ⟨?_, Nat.pow_pos (by decide), fun hm => ?_⟩
    · rw [Nat.pow_eq, Nat.cast_pow, Nat.cast_ofNat, mul_assoc, hpow, mul_one]
    · rw [Nat.div_self hm, Nat.cast_one, Nat.pow_eq, Nat.cast_pow, Nat.cast_ofNat, hpow]

theorem interval_def (x : Binary64) : x.interval =
    (4 * x.ratio.1 - (if x.isNarrow then 1 else 2) * (x.ratio.1 / x.significand),
      4 * x.ratio.1 + 2 * (x.ratio.1 / x.significand), 4 * x.ratio.2) := by
  have h : x.interval = if x.isNarrow then
      (4 * x.ratio.1 - x.ratio.1 / x.significand,
        4 * x.ratio.1 + 2 * (x.ratio.1 / x.significand), 4 * x.ratio.2)
      else (4 * x.ratio.1 - 2 * (x.ratio.1 / x.significand),
        4 * x.ratio.1 + 2 * (x.ratio.1 / x.significand), 4 * x.ratio.2) := rfl
  rw [h]
  split <;> simp

theorem interval_eq (hm : 0 < x.significand) :
    (x.interval.1 : ℚ) = x.low * x.interval.2.2 ∧
      (x.interval.2.1 : ℚ) = x.high * x.interval.2.2 ∧ 0 < x.interval.2.2 := by
  obtain ⟨hnum, hden, hunit⟩ := ratio_eq x
  have hunit := hunit hm
  have hle : x.ratio.1 / x.significand ≤ x.ratio.1 := Nat.div_le_self _ _
  rw [size] at hnum
  have hfactor : (if x.isNarrow then 1 else 2) ≤ 2 := by
    split <;> omega
  have hsub : (if x.isNarrow then 1 else 2) * (x.ratio.1 / x.significand) ≤ 4 * x.ratio.1 :=
    Nat.mul_le_mul (hfactor.trans (by decide)) hle
  rw [interval_def, low, high]
  refine ⟨?_, ?_, Nat.mul_pos (by decide) hden⟩
  · rw [Nat.cast_sub hsub]
    push_cast
    rw [hnum, hunit]
    split <;> ring
  · push_cast
    rw [hnum, hunit]
    ring

/-- A power of ten as a quotient of natural numbers. -/
theorem zpow_ten_of_neg {e : ℤ} (he : ¬ 0 ≤ e) : (10 : ℚ) ^ e * 10 ^ (-e).toNat = 1 := by
  rw [← zpow_natCast, Int.toNat_of_nonneg (by omega), ← zpow_add₀ (by norm_num)]
  simp

theorem zpow_ten_of_nonneg {e : ℤ} (he : 0 ≤ e) : (10 : ℚ) ^ e = 10 ^ e.toNat := by
  rw [← zpow_natCast, Int.toNat_of_nonneg he]

/-- The test compares a quotient `p / q` for the decimal, scaled by the denominator of the
interval. -/
theorem exists_scaled (x : Binary64) (d : ℕ) (e : ℤ) : ∃ p q : ℕ, 0 < q ∧
    (p : ℚ) = d * 10 ^ e * q * x.interval.2.2 ∧
    x.holds d e = (if x.significand % 2 = 0 then
      decide (x.interval.1 * q ≤ p) && decide (p ≤ x.interval.2.1 * q)
      else decide (x.interval.1 * q < p) && decide (p < x.interval.2.1 * q)) := by
  by_cases he : 0 ≤ e
  · refine ⟨d * Nat.pow 10 e.toNat * x.interval.2.2, 1, Nat.one_pos, ?_, ?_⟩
    · rw [zpow_ten_of_nonneg he, Nat.pow_eq]
      push_cast
      ring
    · rw [holds]
      simp only [he, if_true]
  · refine ⟨d * x.interval.2.2, Nat.pow 10 (-e).toNat, Nat.pow_pos (by decide), ?_, ?_⟩
    · rw [Nat.pow_eq, Nat.cast_pow, Nat.cast_ofNat, mul_assoc (d : ℚ), zpow_ten_of_neg he,
        mul_one, Nat.cast_mul]
    · rw [holds]
      simp only [he, if_false]

/-- The computed test is the test of the interval. -/
theorem holds_iff (hm : 0 < x.significand) (d : ℕ) (e : ℤ) :
    x.holds d e = true ↔ x.Within (d * 10 ^ e) := by
  obtain ⟨hlow, hhigh, hden⟩ := interval_eq hm
  obtain ⟨p, q, hq, hp, hholds⟩ := exists_scaled x d e
  -- all three numbers are scaled by the same denominator, so their order is that of the values
  have hpos : (0 : ℚ) < q * x.interval.2.2 := by
    have h1 : (0 : ℚ) < q := by exact_mod_cast hq
    have h2 : (0 : ℚ) < x.interval.2.2 := by exact_mod_cast hden
    exact mul_pos h1 h2
  have hl : ((x.interval.1 * q : ℕ) : ℚ) = x.low * (q * x.interval.2.2) := by
    push_cast
    rw [hlow]
    ring
  have hh : ((x.interval.2.1 * q : ℕ) : ℚ) = x.high * (q * x.interval.2.2) := by
    push_cast
    rw [hhigh]
    ring
  have hp : (p : ℚ) = d * 10 ^ e * (q * x.interval.2.2) := by
    rw [hp]
    ring
  rw [hholds, Within]
  split
  · rw [Bool.and_eq_true, decide_eq_true_eq, decide_eq_true_eq, ← Nat.cast_le (α := ℚ),
      ← Nat.cast_le (α := ℚ), hl, hh, hp, mul_le_mul_iff_left₀ hpos, mul_le_mul_iff_left₀ hpos]
  · rw [Bool.and_eq_true, decide_eq_true_eq, decide_eq_true_eq, ← Nat.cast_lt (α := ℚ),
      ← Nat.cast_lt (α := ℚ), hl, hh, hp, mul_lt_mul_iff_left₀ hpos, mul_lt_mul_iff_left₀ hpos]

/-! ## Numbers one after another -/

/-- The order of values of one sign. -/
def Precedes (x y : Binary64) : Prop :=
  x.biased < y.biased ∨ (x.biased = y.biased ∧ x.fraction < y.fraction)

theorem significand_lt (x : Binary64) : x.significand < 9007199254740992 := by
  have := x.fraction.isLt
  rw [significand]
  split <;> omega

/-- A later value has a greater significand over the same unit, or a unit at least twice as
large and a significand of full length. -/
theorem unit_of_precedes (h : x.Precedes y) :
    (y.unit = x.unit ∧ x.significand + 1 ≤ y.significand ∧ y.isNarrow = false) ∨
      (2 * x.unit ≤ y.unit ∧ 4503599627370496 ≤ y.significand ∧
        (y.isNarrow = false → 4503599627370497 ≤ y.significand)) := by
  have hx := x.fraction.isLt
  have hsame : y.exponent = x.exponent → y.unit = x.unit := fun he => by rw [unit, unit, he]
  have hmore : x.exponent + 1 ≤ y.exponent → 2 * x.unit ≤ y.unit := by
    intro he
    rw [unit, unit, ← zpow_one_add₀ (by norm_num)]
    exact zpow_le_zpow_right₀ (by norm_num) (by omega)
  simp only [Precedes, Fin.lt_def, Fin.ext_iff] at h
  have hzero : ∀ z : Binary64, z.biased = 0 ↔ z.biased.val = 0 := fun z => by
    rw [Fin.ext_iff]
    rfl
  simp only [isNarrow, significand, exponent, hzero, Bool.and_eq_false_iff,
    decide_eq_false_iff_not] at hsame hmore ⊢
  -- the unit stays within one exponent, and from the subnormal numbers to the least normal ones
  by_cases h0 : x.biased.val = 0 <;> by_cases h1 : y.biased.val = 0
  · left
    simp only [h0, h1, if_true] at hsame ⊢
    exact ⟨hsame trivial, by omega, by omega⟩
  · by_cases h2 : y.biased.val = 1
    · left
      simp only [h0, h2, if_true, one_ne_zero, if_false] at hsame ⊢
      exact ⟨hsame (by decide), by omega, by omega⟩
    · right
      simp only [h0, h1, if_true, if_false] at hmore ⊢
      exact ⟨hmore (by omega), by omega, by omega⟩
  · omega
  · by_cases h2 : x.biased.val = y.biased.val
    · left
      simp only [h1, h2, if_false] at hsame ⊢
      exact ⟨hsame trivial, by omega, by omega⟩
    · right
      simp only [h0, h1, if_false] at hmore ⊢
      exact ⟨hmore (by omega), by omega, by omega⟩

/-- Whether the interval of a value ends before that of another begins, or at the same point where
one of the two significands is odd. -/
def EndsBefore (x y : Binary64) : Prop :=
  x.high ≤ y.low ∧ (x.high = y.low → x.significand % 2 = 1 ∨ y.significand % 2 = 1)

/-- No interval goes on beyond that of the greatest significand. -/
theorem high_le (x : Binary64) : x.high ≤ (9007199254740992 - 1 / 2) * x.unit := by
  have hmax : (x.significand : ℚ) + 1 ≤ 9007199254740992 := by exact_mod_cast significand_lt x
  exact mul_le_mul_of_nonneg_right (by linarith) (unit_pos x).le

/-- Over one unit the intervals meet if the significands follow each other, and then one of these is
odd. -/
theorem endsBefore_of_same_unit (hunit : y.unit = x.unit)
    (hm : x.significand + 1 ≤ y.significand) (hn : y.isNarrow = false) : x.EndsBefore y := by
  have hu := unit_pos x
  have hm' : (x.significand : ℚ) + 1 ≤ y.significand := by exact_mod_cast hm
  have hdiff : y.low - x.high = (y.significand - x.significand - 1) * x.unit := by
    rw [low, high, hunit, hn]
    simp only [Bool.false_eq_true, if_false]
    ring
  constructor
  · have : 0 ≤ (y.significand - x.significand - 1) * x.unit := mul_nonneg (by linarith) hu.le
    linarith
  · intro heq
    rw [heq, sub_self, eq_comm, mul_eq_zero] at hdiff
    rcases hdiff with hd | hd
    · have hd : (y.significand : ℚ) = x.significand + 1 := by linarith
      have hd : y.significand = x.significand + 1 := by exact_mod_cast hd
      omega
    · exact absurd hd hu.ne'

/-- Before the first value of a greater unit, whose interval is narrow, only the greatest
significand gets to that interval. -/
theorem endsBefore_of_narrow (hunit : 2 * x.unit ≤ y.unit)
    (hm : 4503599627370496 ≤ y.significand) (hnarrow : y.isNarrow = true) : x.EndsBefore y := by
  have hu := unit_pos x
  have hm' : (4503599627370496 : ℚ) ≤ y.significand := by exact_mod_cast hm
  -- half a smaller unit below `2 ^ 53` of them separates the two intervals
  have hlow : (9007199254740992 - 1 / 2) * x.unit ≤ y.low := by
    rw [low, hnarrow, if_pos rfl]
    nlinarith
  refine ⟨(high_le x).trans hlow, fun heq => Or.inl ?_⟩
  have hmul : (x.significand + 1 / 2) * x.unit = (9007199254740992 - 1 / 2) * x.unit := by
    rw [← high]
    linarith [high_le x]
  have hsig : (x.significand : ℚ) = 9007199254740991 := by
    linarith [mul_right_cancel₀ hu.ne' hmul]
  have hsig : x.significand = 9007199254740991 := by exact_mod_cast hsig
  omega

/-- The other values of a greater unit begin later than that. -/
theorem endsBefore_of_wide (hunit : 2 * x.unit ≤ y.unit)
    (hm : 4503599627370497 ≤ y.significand) (hwide : y.isNarrow = false) : x.EndsBefore y := by
  have hu := unit_pos x
  have hm' : (4503599627370497 : ℚ) ≤ y.significand := by exact_mod_cast hm
  have hhigh := high_le x
  have hlow : 9007199254740993 * x.unit ≤ y.low := by
    rw [low, hwide, if_neg (by decide)]
    nlinarith
  have hlt : x.high < y.low := by linarith
  exact ⟨hlt.le, fun heq => absurd heq hlt.ne⟩

/-- The interval of a value ends before that of a later one begins. -/
theorem endsBefore_of_precedes (h : x.Precedes y) : x.EndsBefore y := by
  rcases unit_of_precedes h with ⟨hunit, hm, hn⟩ | ⟨hunit, hm, hn⟩
  · exact endsBefore_of_same_unit hunit hm hn
  · cases hnarrow : y.isNarrow with
    | true => exact endsBefore_of_narrow hunit hm hnarrow
    | false => exact endsBefore_of_wide hunit (hn hnarrow) hnarrow

theorem not_within_of_precedes (h : x.Precedes y) (hx : x.Within q) : ¬ y.Within q := by
  intro hy
  obtain ⟨hle, hodd⟩ := endsBefore_of_precedes h
  have heq : x.high = y.low := le_antisymm hle (hy.low_le.trans hx.le_high)
  have hq : q = x.high := le_antisymm hx.le_high (heq ▸ hy.low_le)
  rcases hodd heq with h1 | h1
  · rw [Within, if_neg (by omega)] at hx
    exact absurd hq hx.2.ne
  · rw [Within, if_neg (by omega)] at hy
    exact absurd (hq.trans heq) hy.1.ne'

/-- **A number rounds to at most one value of each sign.** -/
theorem eq_of_within (hsign : x.negative = y.negative) (hx : x.Within q) (hy : y.Within q) :
    x = y := by
  have hxy : ¬ x.Precedes y := fun h => not_within_of_precedes h hx hy
  have hyx : ¬ y.Precedes x := fun h => not_within_of_precedes h hy hx
  simp only [Precedes, not_or, not_and, not_lt] at hxy hyx
  have hb : x.biased = y.biased := le_antisymm hyx.1 hxy.1
  have hf : x.fraction = y.fraction := le_antisymm (hyx.2 hb.symm) (hxy.2 hb)
  cases x
  cases y
  simp only [mk.injEq]
  exact ⟨hsign, hb, hf⟩

end CallBindings.Binary64
