import CallBindings.Proofs.Number.Interval

set_option autoImplicit false

/-! # The shortest decimal rounds to its number

The search for the shortest decimal never comes back empty: on the grid of 17 significant
digits the grid point next to the number is less than half a grid step away, which is less than
the distance to either end of its interval. What is found lies in the interval, and moving
factors of ten to the exponent does not change its value. So numbers with the same shortest
decimal are equal, up to their sign.
-/

namespace CallBindings

/-- The number a decimal denotes. -/
def Decimal.value (d : Decimal) : ℚ := d.digits * 10 ^ d.exponent

namespace Binary64

variable {x y : Binary64}

/-! ## The leading place -/

theorem exponent_ge (x : Binary64) : -1074 ≤ x.exponent := by
  rw [exponent]
  split
  · exact le_refl _
  · rename_i h
    have h : 0 < x.biased := Fin.pos_iff_ne_zero.mpr h
    have h : 0 < x.biased.val := h
    omega

theorem pow_length_toDigits_le {n : ℕ} (hn : 0 < n) :
    10 ^ ((Nat.toDigits 10 n).length - 1) ≤ n := by
  by_contra hlt
  rw [not_le] at hlt
  by_cases hl : (Nat.toDigits 10 n).length - 1 = 0
  · rw [hl, pow_zero] at hlt
    omega
  · have := (Nat.length_toDigits_le_iff (by decide) (by omega)).mpr hlt
    omega

/-- A quotient scaled by a power of ten is at least as large as the power of ten of the first
digit of its integer part. -/
theorem zpow_length_toDigits_le {num den k t : ℕ} {s : ℚ} {m : ℤ} (hm : m = k + 1)
    (ht : t = 10 ^ k) (hden : 0 < den) (hnum : (num : ℚ) = s * den) (hone : 1 ≤ s * 10 ^ k) :
    (10 : ℚ) ^ (((Nat.toDigits 10 (num * t / den)).length : ℤ) - m) ≤ s := by
  subst ht
  have hden' : (0 : ℚ) < den := by exact_mod_cast hden
  have hpos : (0 : ℚ) < 10 ^ k := by positivity
  have hscaled : (num : ℚ) * 10 ^ k = s * 10 ^ k * den := by
    rw [hnum, mul_right_comm]
  have hle : den ≤ num * 10 ^ k := by
    have : (den : ℚ) ≤ num * 10 ^ k := hscaled ▸ le_mul_of_one_le_left hden'.le hone
    exact_mod_cast this
  -- the quotient has the digits that the scaled value has in front of its point
  generalize hN : num * 10 ^ k / den = N
  have hNpos : 0 < N := hN ▸ Nat.div_pos hle hden
  have hNle : (N : ℚ) ≤ s * 10 ^ k := by
    have hmul : N * den ≤ num * 10 ^ k := hN ▸ Nat.div_mul_le_self _ _
    have hmul : (N : ℚ) * den ≤ num * 10 ^ k := by exact_mod_cast hmul
    exact le_of_mul_le_mul_right (hscaled ▸ hmul) hden'
  have hlen : 0 < (Nat.toDigits 10 N).length := by
    rw [List.length_pos_iff]
    simp
  have hpow : (10 : ℚ) ^ ((Nat.toDigits 10 N).length - 1) ≤ N := by
    exact_mod_cast pow_length_toDigits_le hNpos
  have hsplit : (10 : ℚ) ^ (((Nat.toDigits 10 N).length : ℤ) - m) * 10 ^ k =
      10 ^ ((Nat.toDigits 10 N).length - 1) := by
    rw [← zpow_natCast (10 : ℚ) k, ← zpow_natCast (10 : ℚ) (_ - 1), ← zpow_add₀ (by norm_num)]
    congr 1
    omega
  exact le_of_mul_le_mul_right (hsplit ▸ hpow.trans hNle) hpos

/-- The smallest number, scaled as the search for the leading place scales it, is above one. -/
theorem two_pow_le_ten_pow : 2 ^ 1074 ≤ 10 ^ 340 := by decide +kernel

theorem one_le_size_mul (h : x.isProper = true) : 1 ≤ x.size * 10 ^ 340 := by
  have hm : (1 : ℚ) ≤ x.significand := by exact_mod_cast significand_pos h
  have hunit : (2 : ℚ) ^ (-1074 : ℤ) ≤ x.unit :=
    zpow_le_zpow_right₀ (by norm_num) (exponent_ge x)
  have hsize : x.unit ≤ x.size := le_mul_of_one_le_left (unit_pos x).le hm
  have hinv : (2 : ℚ) ^ (-1074 : ℤ) * 2 ^ 1074 = 1 := by
    rw [← zpow_natCast, ← zpow_add₀ (by norm_num)]
    norm_num
  have hpow : ((2 ^ 1074 : ℕ) : ℚ) ≤ ((10 ^ 340 : ℕ) : ℚ) := Nat.cast_le.mpr two_pow_le_ten_pow
  rw [Nat.cast_pow, Nat.cast_pow] at hpow
  have hpos : (0 : ℚ) ≤ 10 ^ 340 := pow_nonneg (by norm_num) _
  have hpos' : (0 : ℚ) ≤ 2 ^ (-1074 : ℤ) := zpow_nonneg (by norm_num) _
  -- no number is smaller than `2 ^ -1074`, and `2 ^ 1074` has no more than 340 digits
  rw [← hinv]
  exact (mul_le_mul_of_nonneg_left hpow hpos').trans
    (mul_le_mul_of_nonneg_right (hunit.trans hsize) hpos)

/-- The number is at least as large as the power of ten of its leading place. -/
theorem zpow_leadingPlace_le (h : x.isProper = true) : (10 : ℚ) ^ x.leadingPlace ≤ x.size := by
  obtain ⟨hnum, hden, -⟩ := ratio_eq x
  have hplace : x.leadingPlace =
      ((Nat.toDigits 10 (x.ratio.1 * Nat.pow 10 340 / x.ratio.2)).length : ℤ) - 341 := rfl
  rw [hplace]
  exact zpow_length_toDigits_le (by norm_num) (by decide +kernel) hden hnum (one_le_size_mul h)

/-! ## Grids -/

theorem abs_roundEven_sub_le {p q : ℕ} (hq : 0 < q) :
    |(roundEven p q : ℚ) * q - p| ≤ q / 2 := by
  have hdiv : (p : ℚ) = q * (p / q : ℕ) + (p % q : ℕ) := by exact_mod_cast (Nat.div_add_mod p q).symm
  have hlt : p % q < q := Nat.mod_lt p hq
  have hdown : 2 * (p % q) ≤ q → |((p / q : ℕ) : ℚ) * q - p| ≤ q / 2 := by
    intro h
    have h : (2 : ℚ) * (p % q : ℕ) ≤ q := by exact_mod_cast h
    have h0 : (0 : ℚ) ≤ (p % q : ℕ) := by positivity
    rw [hdiv, abs_le]
    constructor <;> linarith
  have hup : q ≤ 2 * (p % q) → |((p / q + 1 : ℕ) : ℚ) * q - p| ≤ q / 2 := by
    intro h
    have h : (q : ℚ) ≤ 2 * (p % q : ℕ) := by exact_mod_cast h
    have h0 : ((p % q : ℕ) : ℚ) < q := by exact_mod_cast hlt
    rw [hdiv, abs_le]
    push_cast
    constructor <;> linarith
  rw [roundEven]
  split_ifs
  · exact hdown (by omega)
  · exact hup (by omega)
  · exact hdown (by omega)
  · exact hup (by omega)

/-- The grid point next to the number. -/
def gridPoint (x : Binary64) (e : ℤ) : ℕ :=
  if 0 ≤ e then roundEven x.ratio.1 (x.ratio.2 * Nat.pow 10 e.toNat)
  else roundEven (x.ratio.1 * Nat.pow 10 (-e).toNat) x.ratio.2

theorem abs_gridPoint_sub_le (x : Binary64) (e : ℤ) :
    |(x.gridPoint e : ℚ) * 10 ^ e - x.size| ≤ 10 ^ e / 2 := by
  obtain ⟨hnum, hden, -⟩ := ratio_eq x
  have hden' : (0 : ℚ) < x.ratio.2 := by exact_mod_cast hden
  rw [gridPoint]
  -- the power of ten goes into the denominator, or with its sign changed into the numerator
  split
  · rename_i he
    have h := abs_roundEven_sub_le (p := x.ratio.1) (q := x.ratio.2 * 10 ^ e.toNat)
      (Nat.mul_pos hden (Nat.pow_pos (by decide)))
    rw [zpow_ten_of_nonneg he, Nat.pow_eq]
    push_cast at h
    rw [hnum] at h
    generalize ((roundEven x.ratio.1 (x.ratio.2 * 10 ^ e.toNat) : ℕ) : ℚ) = r at h ⊢
    rw [show r * (x.ratio.2 * 10 ^ e.toNat) - x.size * x.ratio.2 =
        (r * 10 ^ e.toNat - x.size) * x.ratio.2 by ring, abs_mul, abs_of_pos hden',
      show (x.ratio.2 : ℚ) * 10 ^ e.toNat / 2 = 10 ^ e.toNat / 2 * x.ratio.2 by ring] at h
    exact le_of_mul_le_mul_right h hden'
  · rename_i he
    have h := abs_roundEven_sub_le (p := x.ratio.1 * 10 ^ (-e).toNat) (q := x.ratio.2) hden
    have hpow := zpow_ten_of_neg he
    have hz : (0 : ℚ) < 10 ^ e := zpow_pos (by norm_num) _
    have ht : (0 : ℚ) < 10 ^ (-e).toNat := by positivity
    rw [Nat.pow_eq]
    push_cast at h
    rw [hnum] at h
    generalize ((roundEven (x.ratio.1 * 10 ^ (-e).toNat) x.ratio.2 : ℕ) : ℚ) = r at h ⊢
    generalize (10 : ℚ) ^ (-e).toNat = t at h hpow ht
    have hr : r - x.size * t = (r * 10 ^ e - x.size) * t := by
      rw [sub_mul, mul_assoc, hpow, mul_one]
    rw [show r * x.ratio.2 - x.size * x.ratio.2 * t = (r - x.size * t) * x.ratio.2 by ring, hr,
      abs_mul, abs_of_pos hden', abs_mul, abs_of_pos ht,
      show (x.ratio.2 : ℚ) / 2 = 1 / 2 * x.ratio.2 by ring] at h
    have h := le_of_mul_le_mul_right h hden'
    have hhalf : (10 : ℚ) ^ e / 2 * t = 1 / 2 := by
      rw [div_mul_eq_mul_div, hpow]
    exact le_of_mul_le_mul_right (hhalf ▸ h) ht

/-- On a grid of 17 significant digits the next grid point rounds to the number. -/
theorem within_gridPoint {e : ℤ} (he : (10 : ℚ) ^ (e + 16) ≤ x.size) :
    x.Within (x.gridPoint e * 10 ^ e) := by
  have hu := unit_pos x
  have habs := abs_le.mp (abs_gridPoint_sub_le x e)
  have hstep : (10 : ℚ) ^ e * 10 ^ 16 ≤ x.size := by
    rw [← zpow_natCast (10 : ℚ) 16, ← zpow_add₀ (by norm_num)]
    exact he
  have hmax : (x.significand : ℚ) ≤ 9007199254740992 := by
    exact_mod_cast (significand_lt x).le
  have hsize : x.size ≤ 9007199254740992 * x.unit := mul_le_mul_of_nonneg_right hmax hu.le
  refine Within.of_lt ?_ ?_
  · rw [low, sub_mul, ← size]
    cases hn : x.isNarrow with
    | true =>
        -- the distance to the lower end is only a quarter of a unit, but the significand is `2⁵²`
        have hsig : x.significand = 4503599627370496 := by
          simp only [isNarrow, Bool.and_eq_true, decide_eq_true_eq] at hn
          have hb : ¬ x.biased = 0 := by
            intro hb
            rw [hb] at hn
            exact absurd hn.2 (by decide)
          rw [significand, if_neg hb, hn.1]
        have hsize : x.size = 4503599627370496 * x.unit := by
          rw [size, hsig]
          norm_num
        rw [if_pos rfl]
        linarith
    | false =>
        rw [if_neg (by decide)]
        linarith
  · rw [high, add_mul, ← size]
    linarith

/-- The search on a grid tries the next grid point first and then one other. -/
theorem onGrid?_eq (x : Binary64) (e : ℤ) : ∃ other : ℕ, x.onGrid? e =
    if x.holds (x.gridPoint e) e then some ⟨x.gridPoint e, e⟩
    else if x.holds other e then some ⟨other, e⟩ else none := by
  rw [onGrid?, gridPoint]
  by_cases he : 0 ≤ e
  · simp only [he, if_true]
    exact ⟨_, rfl⟩
  · simp only [he, if_false]
    exact ⟨_, rfl⟩

theorem holds_of_onGrid? {e : ℤ} {d : Decimal} (h : x.onGrid? e = some d) :
    x.holds d.digits d.exponent = true := by
  obtain ⟨other, heq⟩ := onGrid?_eq x e
  rw [heq] at h
  split_ifs at h
  · cases h
    assumption
  · cases h
    assumption

theorem onGrid?_isSome {e : ℤ} (h : x.holds (x.gridPoint e) e = true) :
    (x.onGrid? e).isSome = true := by
  obtain ⟨other, heq⟩ := onGrid?_eq x e
  rw [heq, if_pos h]
  rfl

/-! ## The decimal that is found -/

theorem value_dropZeros (fuel : ℕ) (d : Decimal) : (dropZeros fuel d).value = d.value := by
  induction fuel generalizing d with
  | zero => rfl
  | succ fuel ih =>
      rw [dropZeros]
      split
      · rename_i h
        simp only [Bool.and_eq_true, decide_eq_true_eq] at h
        have hd : (d.digits : ℚ) = (d.digits / 10 : ℕ) * 10 := by
          have : d.digits = d.digits / 10 * 10 := by omega
          exact_mod_cast this
        rw [ih, Decimal.value, Decimal.value, hd, zpow_add₀ (by norm_num), zpow_one]
        ring
      · rfl

/-- One of the grids with 1, 2, … 17 digits has a point that rounds to the number. -/
theorem exists_onGrid? {place : ℤ} (h : x.isProper = true) (hplace : (10 : ℚ) ^ place ≤ x.size) :
    ∃ d : Decimal, (List.range 17).findSome? (fun i => x.onGrid? (place - Int.ofNat i)) = some d ∧
      x.Within d.value := by
  have hm := significand_pos h
  -- the last grid that is tried is fine enough to hit the interval
  have hlast : (x.onGrid? (place - Int.ofNat 16)).isSome = true := by
    refine onGrid?_isSome ((holds_iff hm _ _).mpr (within_gridPoint ?_))
    have he : place - Int.ofNat 16 + 16 = place := by
      rw [Int.ofNat_eq_natCast]
      omega
    rw [he]
    exact hplace
  cases hd : (List.range 17).findSome? (fun i => x.onGrid? (place - Int.ofNat i)) with
  | none =>
      rw [List.findSome?_eq_none_iff] at hd
      rw [hd 16 (by simp)] at hlast
      cases hlast
  | some d =>
      obtain ⟨i, -, hi⟩ := List.exists_of_findSome?_eq_some hd
      exact ⟨d, rfl, (holds_iff hm _ _).mp (holds_of_onGrid? hi)⟩

/-- The definition as an equation between functions. Applied to a number it would be compared
by computing the leading place, which takes too long. -/
theorem shortest_def : shortest = fun x =>
    let place := x.leadingPlace
    match (List.range 17).findSome? fun i => x.onGrid? (place - Int.ofNat i) with
    | some d => dropZeros 20 d
    | none => ⟨0, 0⟩ := rfl

/-- **The shortest decimal of a number rounds to it.** -/
theorem within_shortest (h : x.isProper = true) : x.Within x.shortest.value := by
  obtain ⟨d, hd, hwithin⟩ := exists_onGrid? h (zpow_leadingPlace_le h)
  rw [shortest_def]
  simp only [hd]
  rw [value_dropZeros]
  exact hwithin

theorem value_shortest_pos (h : x.isProper = true) : 0 < x.shortest.value :=
  (low_pos h).trans_le (within_shortest h).low_le

/-- Numbers of one sign with the same shortest decimal are equal. -/
theorem eq_of_shortest (hx : x.isProper = true) (hy : y.isProper = true)
    (hsign : x.negative = y.negative) (h : x.shortest.value = y.shortest.value) : x = y := by
  have hy := within_shortest hy
  rw [← h] at hy
  exact eq_of_within hsign (within_shortest hx) hy

end Binary64

end CallBindings
