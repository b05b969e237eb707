import CallBindings.Text.Basic
import Mathlib

set_option autoImplicit false

/-! # Numerals read back

Numbers are written with `Nat.toDigits`, in base 10 or 16. `Text.numeral` is the number that a
text of digits stands for. Since it undoes the writing, different numbers are written
differently, with or without zeros in front.
-/

namespace CallBindings

/-- The value of a hexadecimal digit; zero for anything else. -/
def CodePoint.digit (c : CodePoint) : Nat := c.hexValue?.getD 0

/-- A hexadecimal digit as it is written: a decimal digit or a small letter. -/
def CodePoint.isSmallHex (c : CodePoint) : Bool :=
  c.isAsciiDigit || (0x61 ≤ c.val && c.val ≤ 0x66)

theorem CodePoint.isSmallHex_iff {c : CodePoint} : c.isSmallHex = true ↔
    0x30 ≤ c.val ∧ c.val ≤ 0x39 ∨ 0x61 ≤ c.val ∧ c.val ≤ 0x66 := by
  simp only [isSmallHex, isAsciiDigit, Bool.or_eq_true, Bool.and_eq_true, decide_eq_true_eq]

theorem CodePoint.isSmallHex_of_isAsciiDigit {c : CodePoint} (h : c.isAsciiDigit = true) :
    c.isSmallHex = true := by
  rw [isSmallHex, h, Bool.true_or]

namespace Text

/-- The number that a text of digits stands for. -/
def numeral (base : Nat) (t : Text) : Nat := t.foldl (fun n c => base * n + c.digit) 0

theorem numeral_append_singleton (base : Nat) (t : Text) (c : CodePoint) :
    numeral base (t ++ [c]) = base * numeral base t + c.digit := by
  simp [numeral, List.foldl_append]

theorem foldl_digit (base : Nat) (t : Text) (n : Nat) :
    t.foldl (fun n c => base * n + c.digit) n = base ^ t.length * n + numeral base t := by
  induction t generalizing n with
  | nil => simp [numeral]
  | cons c t ih =>
      have hc : numeral base (c :: t) = base ^ t.length * (base * 0 + c.digit) + numeral base t :=
        ih (base * 0 + c.digit)
      rw [List.foldl_cons, ih, hc, List.length_cons, pow_succ]
      ring

theorem numeral_append (base : Nat) (s t : Text) :
    numeral base (s ++ t) = base ^ t.length * numeral base s + numeral base t := by
  rw [numeral, List.foldl_append]
  exact foldl_digit base t (numeral base s)

/-! ## Digits -/

theorem digit_digitChar : ∀ d < 16, (CodePoint.ofChar d.digitChar).digit = d := by decide

theorem isSmallHex_digitChar : ∀ d < 16, (CodePoint.ofChar d.digitChar).isSmallHex = true := by
  decide

theorem isAsciiDigit_digitChar : ∀ d < 10, (CodePoint.ofChar d.digitChar).isAsciiDigit = true := by
  decide

/-- What holds of the digits of a base holds of every code point of a number written in it. -/
theorem forall_mem_toDigits {base : Nat} (hb : 1 < base) {p : CodePoint → Prop}
    (hp : ∀ d < base, p (CodePoint.ofChar d.digitChar)) (n : Nat) :
    ∀ c ∈ (Nat.toDigits base n).map CodePoint.ofChar, p c := by
  induction n using Nat.base_induction base hb with
  | single d hd =>
      rw [Nat.toDigits_of_lt_base hd]
      simpa using hp d hd
  | digit m d hd hm ih =>
      rw [← Nat.toDigits_append_toDigits hb hm hd, List.map_append]
      intro c hc
      rcases List.mem_append.mp hc with hc | hc
      · exact ih c hc
      · rw [Nat.toDigits_of_lt_base hd] at hc
        have hc : c = CodePoint.ofChar d.digitChar := by simpa using hc
        exact hc ▸ hp d hd

/-- Reading undoes writing. -/
theorem numeral_toDigits {base : Nat} (hb : 1 < base) (hb' : base ≤ 16) (n : Nat) :
    numeral base ((Nat.toDigits base n).map CodePoint.ofChar) = n := by
  induction n using Nat.base_induction base hb with
  | single d hd =>
      rw [Nat.toDigits_of_lt_base hd]
      simp [numeral, digit_digitChar d (lt_of_lt_of_le hd hb')]
  | digit m d hd hm ih =>
      rw [← Nat.toDigits_append_toDigits hb hm hd, Nat.toDigits_of_lt_base hd, List.map_append,
        List.map_singleton, numeral_append_singleton, ih,
        digit_digitChar d (lt_of_lt_of_le hd hb')]

theorem numeral_replicate_zero (base k : Nat) (t : Text) :
    numeral base (List.replicate k (CodePoint.ofChar '0') ++ t) = numeral base t := by
  have hz : (CodePoint.ofChar '0').digit = 0 := by decide
  induction k with
  | zero => rfl
  | succ k ih =>
      rw [List.replicate_succ, List.cons_append, numeral, List.foldl_cons, hz, Nat.mul_zero]
      exact ih

/-! ## Decimal and hexadecimal numbers -/

theorem numeral_ofNat (n : Nat) : numeral 10 (ofNat n) = n :=
  numeral_toDigits (by decide) (by decide) n

theorem numeral_hex (n : Nat) : numeral 16 (hex n) = n :=
  numeral_toDigits (by decide) (by decide) n

theorem ofNat_injective {m n : Nat} (h : ofNat m = ofNat n) : m = n := by
  rw [← numeral_ofNat m, h, numeral_ofNat]

theorem hex_injective {m n : Nat} (h : hex m = hex n) : m = n := by
  rw [← numeral_hex m, h, numeral_hex]

theorem ofNat_ne_nil (n : Nat) : ofNat n ≠ [] := by
  simp [ofNat]

theorem isAsciiDigit_of_mem_ofNat {n : Nat} {c : CodePoint} (hc : c ∈ ofNat n) :
    c.isAsciiDigit = true :=
  forall_mem_toDigits (p := fun c => c.isAsciiDigit = true) (by decide) isAsciiDigit_digitChar n c hc

theorem isSmallHex_of_mem_hex {n : Nat} {c : CodePoint} (hc : c ∈ hex n) :
    c.isSmallHex = true :=
  forall_mem_toDigits (p := fun c => c.isSmallHex = true) (by decide) isSmallHex_digitChar n c hc

theorem numeral_hexPadded (width n : Nat) : numeral 16 (hexPadded width n) = n := by
  rw [hexPadded, numeral_replicate_zero, numeral_hex]

theorem length_hexPadded {width n : Nat} (hw : 0 < width) (hn : n < 16 ^ width) :
    (hexPadded width n).length = width := by
  have hle : (hex n).length ≤ width := by
    rw [hex, List.length_map]
    exact (Nat.length_toDigits_le_iff (by decide) hw).mpr hn
  rw [hexPadded, List.length_append, List.length_replicate]
  omega

theorem isSmallHex_of_mem_hexPadded {width n : Nat} {c : CodePoint}
    (hc : c ∈ hexPadded width n) : c.isSmallHex = true := by
  rcases List.mem_append.mp hc with hc | hc
  · rw [List.eq_of_mem_replicate hc]
    decide
  · exact isSmallHex_of_mem_hex hc

end Text

end CallBindings
