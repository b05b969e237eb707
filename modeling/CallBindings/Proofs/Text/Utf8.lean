import CallBindings.Proofs.FirstFault
import CallBindings.Proofs.Text.Lines
import CallBindings.Text.Utf8

set_option autoImplicit false

/-! # Text and its bytes

A text has bytes exactly if it holds no surrogate. `Sequence` says what the bytes of one code
point are, as numbers. Strict reading takes such sequences, and nothing else, so a text without
surrogates is read back from its bytes, and bytes are read only as the text whose bytes they are.
Printable ASCII is written with one byte for each code point, the number of the code point.
-/

namespace CallBindings

open Text

variable {t : Text}

/-! ## Text that has bytes -/

theorem firstSurrogates?_eq_none_iff : Utf8.firstSurrogates? t = none ↔ t.isScalar = true := by
  have hdrop : t.dropWhile (fun c => !c.isSurrogate) = [] ↔ t.isScalar = true := by
    rw [List.dropWhile_eq_nil_iff, isScalar, List.all_eq_true]
  rw [← hdrop, Utf8.firstSurrogates?]
  split
  · next hnil => simp [hnil]
  · next hcons => simp [hcons]

theorem toUtf8_of_isScalar (h : t.isScalar = true) : t.toUtf8 = .ok t.utf8 := by
  rw [Text.toUtf8, firstSurrogates?_eq_none_iff.mpr h]

theorem toUtf8_eq_ok_iff {bytes : Bytes} :
    t.toUtf8 = .ok bytes ↔ t.isScalar = true ∧ bytes = t.utf8 := by
  constructor
  · intro h
    rw [Text.toUtf8] at h
    split at h
    · cases h
    · next hnone =>
        cases h
        exact ⟨firstSurrogates?_eq_none_iff.mp hnone, rfl⟩
  · rintro ⟨ht, rfl⟩
    exact toUtf8_of_isScalar ht

theorem isSurrogate_of_isPrintable {c : CodePoint} (hc : c.isPrintable = true) :
    c.isSurrogate = false := by
  simp only [CodePoint.isPrintable, CodePoint.isSurrogate, Bool.and_eq_true, decide_eq_true_eq,
    Bool.and_eq_false_iff, decide_eq_false_iff_not] at hc ⊢
  omega

theorem Text.IsPrintable.isScalar (h : IsPrintable t) : t.isScalar = true := by
  rw [Text.isScalar, List.all_eq_true]
  intro c hc
  rw [isSurrogate_of_isPrintable (h c hc), Bool.not_false]

/-! ## Printable ASCII -/

/-- A byte of printable ASCII. -/
def IsPrintableByte (b : UInt8) : Prop := 0x20 ≤ b.toNat ∧ b.toNat ≤ 0x7E

instance (b : UInt8) : Decidable (IsPrintableByte b) := inferInstanceAs (Decidable (_ ∧ _))

theorem encodeCodePoint_of_isPrintable {c : CodePoint} (hc : c.isPrintable = true) :
    ∃ b : UInt8, Utf8.encodeCodePoint c = [b] ∧ b.toNat = c.val ∧ IsPrintableByte b := by
  have hval : 0x20 ≤ c.val ∧ c.val ≤ 0x7E := by simpa [CodePoint.isPrintable] using hc
  have hlow : c.val < 0x80 := by omega
  have hbyte : (UInt8.ofNat c.val).toNat = c.val := by
    rw [UInt8.toNat_ofNat']
    omega
  refine ⟨UInt8.ofNat c.val, ?_, hbyte, ?_⟩
  · rw [Utf8.encodeCodePoint]
    exact if_pos hlow
  · rw [IsPrintableByte, hbyte]
    exact hval

theorem isPrintableByte_of_mem_utf8 (ht : IsPrintable t) : ∀ b ∈ Text.utf8 t, IsPrintableByte b := by
  intro b hb
  obtain ⟨c, hc, hb⟩ := List.mem_flatMap.mp hb
  obtain ⟨b', henc, -, hprint⟩ := encodeCodePoint_of_isPrintable (ht c hc)
  rw [henc, List.mem_singleton] at hb
  exact hb ▸ hprint

/-! ## Sequences -/

namespace Utf8

/-- The bytes of the code point with number `n`. -/
inductive Sequence (n : ℕ) : Bytes → Prop
  | one {a : UInt8} : n < 0x80 → a.toNat = n → Sequence n [a]
  | two {a b : UInt8} : 0x80 ≤ n → n < 0x800 → a.toNat = 0xC0 + n / 0x40 →
      b.toNat = 0x80 + n % 0x40 → Sequence n [a, b]
  | three {a b c : UInt8} : 0x800 ≤ n → n < 0x10000 → a.toNat = 0xE0 + n / 0x1000 →
      b.toNat = 0x80 + n / 0x40 % 0x40 → c.toNat = 0x80 + n % 0x40 → Sequence n [a, b, c]
  | four {a b c d : UInt8} : 0x10000 ≤ n → n < 0x110000 → a.toNat = 0xF0 + n / 0x40000 →
      b.toNat = 0x80 + n / 0x1000 % 0x40 → c.toNat = 0x80 + n / 0x40 % 0x40 →
      d.toNat = 0x80 + n % 0x40 → Sequence n [a, b, c, d]

theorem sequence_encodeCodePoint (c : CodePoint) : Sequence c.val (encodeCodePoint c) := by
  have hc := c.isLt
  have hbyte : ∀ {n : ℕ}, n < 0x100 → (UInt8.ofNat n).toNat = n := UInt8.toNat_ofNat_of_lt'
  unfold encodeCodePoint
  simp only
  split_ifs
  · exact .one ‹_› (hbyte (by omega))
  · exact .two (by omega) (by omega) (hbyte (by omega)) (hbyte (by omega))
  · exact .three (by omega) (by omega) (hbyte (by omega)) (hbyte (by omega)) (hbyte (by omega))
  · exact .four (by omega) (by omega) (hbyte (by omega)) (hbyte (by omega)) (hbyte (by omega))
      (hbyte (by omega))

theorem Sequence.lt {n : ℕ} {s : Bytes} (h : Sequence n s) : n < 0x110000 := by
  cases h <;> omega

theorem Sequence.unique {n : ℕ} {s t : Bytes} (hs : Sequence n s) (ht : Sequence n t) :
    s = t := by
  -- sequences of different lengths are those of different numbers
  cases hs <;> cases ht <;>
    first
    | omega
    | simp only [List.cons.injEq, and_true, ← UInt8.toNat_inj]
      omega

theorem Sequence.eq_encodeCodePoint {n : ℕ} {s : Bytes} (h : Sequence n s) :
    s = encodeCodePoint (CodePoint.ofNat n) := by
  have hcode := sequence_encodeCodePoint (CodePoint.ofNat n)
  rw [CodePoint.val_ofNat h.lt] at hcode
  exact h.unique hcode

/-! ## Reading sequences -/

theorem isContinuation_iff {b : UInt8} :
    isContinuation b = true ↔ 0x80 ≤ b.toNat ∧ b.toNat < 0xC0 := by
  simp [isContinuation, UInt8.lt_iff_toNat_lt, UInt8.le_iff_toNat_le]

theorem secondFits_iff {a b : UInt8} :
    secondFits a b = true ↔ (0x80 ≤ b.toNat ∧ b.toNat < 0xC0) ∧
      (a.toNat = 0xE0 → 0xA0 ≤ b.toNat) ∧ (a.toNat = 0xED → b.toNat < 0xA0) ∧
      (a.toNat = 0xF0 → 0x90 ≤ b.toNat) ∧ (a.toNat = 0xF4 → b.toNat < 0x90) := by
  simp [secondFits, isContinuation, UInt8.lt_iff_toNat_lt, UInt8.le_iff_toNat_le,
    ← UInt8.toNat_inj]
  grind

/-- The number of a surrogate. -/
def IsSurrogateNumber (n : ℕ) : Prop := 0xD800 ≤ n ∧ n ≤ 0xDFFF

/-- A sequence in front of other bytes is read as its code point. -/
theorem decodeFrom_append {n : ℕ} {s : Bytes} (h : Sequence n s) (hn : ¬ IsSurrogateNumber n)
    (lenient : Bool) (rest : Bytes) :
    decodeFrom lenient (s ++ rest) = (decodeFrom lenient rest).map (CodePoint.ofNat n :: ·) := by
  unfold IsSurrogateNumber at hn
  -- the first byte tells how long the sequence is; the others fit, so no error comes up
  cases h with
  | one h ha =>
      rw [List.cons_append, decodeFrom.eq_def]
      simp [UInt8.lt_iff_toNat_lt, h, ha]
  | @two a b hlow hhigh ha hb =>
      have hsecond : isContinuation b = true := isContinuation_iff.mpr (by omega)
      have hvalue : a.toNat % 0x20 * 0x40 + low6 b = n := by
        unfold low6
        omega
      rw [List.cons_append, decodeFrom.eq_def]
      simp only [List.cons_append, List.nil_append, UInt8.lt_iff_toNat_lt, UInt8.le_iff_toNat_le,
        UInt8.reduceToNat, Bool.or_eq_true, decide_eq_true_eq, hsecond, hvalue]
      rw [if_neg (by omega), if_neg (by omega), if_pos (by omega), if_pos trivial]
  | @three a b c hlow hhigh ha hb hc =>
      have hsecond : secondFits a b = true := secondFits_iff.mpr (by omega)
      have hthird : isContinuation c = true := isContinuation_iff.mpr (by omega)
      have hvalue : (a.toNat % 0x10 * 0x40 + low6 b) * 0x40 + low6 c = n := by
        unfold low6
        omega
      rw [List.cons_append, decodeFrom.eq_def]
      simp only [List.cons_append, List.nil_append, UInt8.lt_iff_toNat_lt, UInt8.le_iff_toNat_le,
        UInt8.reduceToNat, Bool.or_eq_true, decide_eq_true_eq, hsecond, hthird, hvalue,
        Bool.true_or, Bool.and_true]
      rw [if_neg (by omega), if_neg (by omega), if_neg (by omega), if_pos (by omega), if_pos trivial]
  | @four a b c d hlow hhigh ha hb hc hd =>
      have hsecond : secondFits a b = true := secondFits_iff.mpr (by omega)
      have hthird : isContinuation c = true := isContinuation_iff.mpr (by omega)
      have hfourth : isContinuation d = true := isContinuation_iff.mpr (by omega)
      have hvalue :
          ((a.toNat % 8 * 0x40 + low6 b) * 0x40 + low6 c) * 0x40 + low6 d = n := by
        unfold low6
        omega
      rw [List.cons_append, decodeFrom.eq_def]
      simp only [List.cons_append, List.nil_append, UInt8.lt_iff_toNat_lt, UInt8.le_iff_toNat_le,
        UInt8.reduceToNat, Bool.or_eq_true, decide_eq_true_eq, hsecond, hthird, hfourth, hvalue]
      rw [if_neg (by omega), if_neg (by omega), if_neg (by omega), if_neg (by omega)]
      simp

theorem isSurrogate_eq_true_iff {c : CodePoint} :
    c.isSurrogate = true ↔ IsSurrogateNumber c.val := by
  simp [CodePoint.isSurrogate, IsSurrogateNumber]

/-- **Text is read back from its bytes.** -/
theorem decodeFrom_utf8 (ht : t.isScalar = true) (lenient : Bool) :
    decodeFrom lenient t.utf8 = .ok t := by
  induction t with
  | nil => rfl
  | cons c t ih =>
      simp only [isScalar, List.all_cons, Bool.and_eq_true, Bool.not_eq_true'] at ht
      have hc : ¬ IsSurrogateNumber c.val := by
        rw [← isSurrogate_eq_true_iff, ht.1]
        exact Bool.false_ne_true
      rw [Text.utf8, List.flatMap_cons, decodeFrom_append (sequence_encodeCodePoint c) hc,
        CodePoint.ofNat_val]
      show (decodeFrom lenient (Text.utf8 t)).map (c :: ·) = .ok (c :: t)
      rw [ih ht.2]
      rfl

/-- Bytes behind a sequence are those of a text together with it. -/
theorem Sequence.eq_utf8 {n : ℕ} {s bytes : Bytes} {u : Text} (hs : Sequence n s)
    (hn : ¬ IsSurrogateNumber n) (ht : bytes = t.utf8 ∧ t.isScalar = true)
    (hu : CodePoint.ofNat n :: t = u) : s ++ bytes = u.utf8 ∧ u.isScalar = true := by
  have hnot : (CodePoint.ofNat n).isSurrogate = false := by
    rw [← Bool.not_eq_true, isSurrogate_eq_true_iff, CodePoint.val_ofNat hs.lt]
    exact hn
  have hrest : (t.all fun c => !c.isSurrogate) = true := ht.2
  rw [← hu, Text.utf8, List.flatMap_cons, ← hs.eq_encodeCodePoint, ht.1, isScalar, List.all_cons,
    hnot, hrest]
  exact ⟨rfl, rfl⟩

/-- **Bytes that are read strictly are those of the text they are read as**, which has no
surrogates. -/
theorem eq_utf8_of_decodeFrom {bytes : Bytes} {u : Text} (h : decodeFrom false bytes = .ok u) :
    bytes = u.utf8 ∧ u.isScalar = true := by
  -- four branches of the decoder go on, one for each length; all others are errors
  fun_induction decodeFrom false bytes generalizing u with
  | case1 =>
      cases h
      exact ⟨rfl, rfl⟩
  | case2 a bytes ha ih =>
      obtain ⟨v, hv, hu⟩ := map_eq_ok.mp h
      have ha : a.toNat < 0x80 := UInt8.lt_iff_toNat_lt.mp ha
      exact Sequence.eq_utf8 (.one ha rfl) (by unfold IsSurrogateNumber; omega) (ih hv) hu
  | case5 a ha hstart b bytes hshort hb ih =>
      obtain ⟨v, hv, hu⟩ := map_eq_ok.mp h
      simp [UInt8.lt_iff_toNat_lt, UInt8.le_iff_toNat_le, isContinuation_iff]
        at ha hstart hshort hb
      refine Sequence.eq_utf8 (.two ?_ ?_ ?_ ?_) ?_ (ih hv) hu <;>
        simp only [low6, IsSurrogateNumber] <;> omega
  | case9 a ha hstart b hlong c bytes hshort hfits ih =>
      obtain ⟨v, hv, hu⟩ := map_eq_ok.mp h
      simp [UInt8.lt_iff_toNat_lt, UInt8.le_iff_toNat_le, isContinuation_iff, secondFits_iff]
        at ha hstart hlong hshort hfits
      refine Sequence.eq_utf8 (.three ?_ ?_ ?_ ?_ ?_) ?_ (ih hv) hu <;>
        simp only [low6, IsSurrogateNumber] <;> omega
  | case14 a ha hstart b hlong c hlonger hfits hc d bytes hd ih =>
      obtain ⟨v, hv, hu⟩ := map_eq_ok.mp h
      simp [UInt8.lt_iff_toNat_lt, UInt8.le_iff_toNat_le, isContinuation_iff, secondFits_iff]
        at ha hstart hlong hlonger hfits hc hd
      refine Sequence.eq_utf8 (.four ?_ ?_ ?_ ?_ ?_ ?_) ?_ (ih hv) hu <;>
        simp only [low6, IsSurrogateNumber] <;> omega
  | _ => cases h

theorem decode_utf8 (ht : t.isScalar = true) : decode t.utf8 = .ok t := by
  rw [decode, decodeFrom_utf8 ht]

theorem decode_eq_ok_iff {bytes : Bytes} :
    decode bytes = .ok t ↔ bytes = t.utf8 ∧ t.isScalar = true := by
  constructor
  · intro h
    rw [decode] at h
    split at h
    · next hread =>
        cases h
        exact eq_utf8_of_decodeFrom hread
    · cases h
  · rintro ⟨rfl, ht⟩
    exact decode_utf8 ht

end Utf8

end CallBindings
