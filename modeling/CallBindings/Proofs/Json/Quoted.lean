import CallBindings.Json.Reader
import CallBindings.Proofs.Text.Quoted

set_option autoImplicit false

/-! # Quoted text read as JSON

Quoted text is written by the rules of JSON, and reading it gives the text back, with one
exception: the halves of a surrogate pair that stand next to each other as two code points are
written as two escapes, like the one code point of the pair, and are read as that one. What is
read is hence the text with such halves joined, `Text.joined`.
-/

namespace CallBindings

open Text

/-! ## Joining halves -/

/-- The text in which the halves of a pair that stand next to each other are one code point. -/
def Text.joined : Text → Text
  | [] => []
  | [c] => [c]
  | c :: d :: t =>
    if c.isHighSurrogate && d.isLowSurrogate then
      CodePoint.ofNat (Json.joinPair c.val d.val) :: joined t
    else c :: joined (d :: t)

/-- Whether no halves of a pair stand next to each other. -/
def Text.IsJoined (t : Text) : Prop :=
  t.IsChain fun c d => ¬ (c.isHighSurrogate && d.isLowSurrogate) = true

theorem val_of_isHighSurrogate {c : CodePoint} (h : c.isHighSurrogate = true) :
    0xD800 ≤ c.val ∧ c.val ≤ 0xDBFF := by
  simpa [CodePoint.isHighSurrogate] using h

theorem val_of_isLowSurrogate {c : CodePoint} (h : c.isLowSurrogate = true) :
    0xDC00 ≤ c.val ∧ c.val ≤ 0xDFFF := by
  simpa [CodePoint.isLowSurrogate] using h

theorem isHighSurrogate_of_not {c : CodePoint} (h : c.isSurrogate = false) :
    c.isHighSurrogate = false := by
  simp only [CodePoint.isSurrogate, CodePoint.isHighSurrogate, Bool.and_eq_false_iff,
    decide_eq_false_iff_not] at h ⊢
  omega

theorem isLowSurrogate_of_not {c : CodePoint} (h : c.isSurrogate = false) :
    c.isLowSurrogate = false := by
  simp only [CodePoint.isSurrogate, CodePoint.isLowSurrogate, Bool.and_eq_false_iff,
    decide_eq_false_iff_not] at h ⊢
  omega

/-- The code point of a pair lies above both of its halves. -/
theorem joinPair_bounds {high low : ℕ} (hh : 0xD800 ≤ high ∧ high ≤ 0xDBFF)
    (hl : 0xDC00 ≤ low ∧ low ≤ 0xDFFF) :
    0x10000 ≤ Json.joinPair high low ∧ Json.joinPair high low < 0x110000 := by
  unfold Json.joinPair
  omega

/-- A text stays as it is exactly if there is nothing to join. -/
theorem joined_eq_self_iff {t : Text} : t.joined = t ↔ t.IsJoined := by
  fun_induction Text.joined t with
  | case1 => simp [Text.IsJoined]
  | case2 c => simp [Text.IsJoined]
  | case3 c d t hpair ih =>
      obtain ⟨hc, hd⟩ := Bool.and_eq_true_iff.mp hpair
      have hcv := val_of_isHighSurrogate hc
      have hbounds := joinPair_bounds hcv (val_of_isLowSurrogate hd)
      -- a pair that is joined is no half, so the text has changed
      have hne : CodePoint.ofNat (Json.joinPair c.val d.val) ≠ c := by
        intro heq
        have hval := congrArg CodePoint.val heq
        rw [CodePoint.val_ofNat hbounds.2] at hval
        omega
      constructor
      · intro h
        exact absurd (List.cons.inj h).1 hne
      · intro h
        exact absurd hpair (List.isChain_cons_cons.mp h).1
  | case4 c d t hpair ih =>
      rw [Text.IsJoined, List.isChain_cons_cons, and_iff_right hpair, List.cons.injEq,
        and_iff_right rfl, ih, Text.IsJoined]

namespace Json

variable {opening rest : Text}

/-! ## One code point -/

theorem readString_quoteMark : readString opening (CodePoint.ofChar '"' :: rest) = .ok ([], rest) := by
  rw [readString.eq_def]
  rfl

theorem readString_plain {c : CodePoint} (hq : c ≠ '"') (hc : 0x20 ≤ c.val) (hb : c ≠ '\\') :
    readString opening (c :: rest) =
      (readString opening rest).map fun r => (c :: r.1, r.2) := by
  rw [readString.eq_def]
  simp only [if_neg hq, if_neg (Nat.not_lt.mpr hc), if_neg hb]

theorem readString_backslashed {e : Char} {d : CodePoint} (hu : e ≠ 'u')
    (he : escaped? (CodePoint.ofChar e) = some d) :
    readString opening (backslashed e ++ rest) =
      (readString opening rest).map fun r => (d :: r.1, r.2) := by
  have hq : ¬ CodePoint.ofChar '\\' = CodePoint.ofChar '"' := by decide
  have hc : ¬ (CodePoint.ofChar '\\').val < 0x20 := by decide
  have hu' : ¬ CodePoint.ofChar e = CodePoint.ofChar 'u' :=
    fun h => hu (CodePoint.ofChar_eq_iff.mp h)
  rw [backslashed, List.cons_append, List.cons_append, List.nil_append, readString.eq_def]
  simp only [if_neg hq, if_neg hc, if_true, if_neg hu', he]

/-! ## Escapes by number -/

/-- Whether no escape of a second half stands at the beginning of a text. -/
def NoLowBehind (t : Text) : Prop :=
  ∀ e f g h x more,
    t = CodePoint.ofChar '\\' :: CodePoint.ofChar 'u' :: e :: f :: g :: h :: x :: more →
      ∃ m, hex4? e f g h = some m ∧ isLow m = false

theorem unicodeEscape_eq_single {v a b c d : CodePoint} {n : ℕ} (hn : hex4? a b c d = some n)
    (hrest : rest ≠ []) (hlow : isHigh n = true → NoLowBehind rest) :
    unicodeEscape (v :: a :: b :: c :: d :: rest) = .single n := by
  have hempty : rest.isEmpty = false := List.isEmpty_eq_false_iff.mpr hrest
  unfold unicodeEscape
  simp only [hn, hempty, Bool.false_eq_true, if_false]
  by_cases hhigh : isHigh n = true
  · simp only [hhigh, Bool.not_true, Bool.false_eq_true, if_false]
    split
    · split
      · rename_i hmark
        simp only [Bool.and_eq_true, decide_eq_true_eq] at hmark
        obtain ⟨rfl, rfl⟩ := hmark
        obtain ⟨m, hm, hnot⟩ := hlow hhigh _ _ _ _ _ _ rfl
        simp [hm, hnot]
      · rfl
    · rfl
  · simp [hhigh]

theorem unicodeEscape_eq_pair {v a b c d e f g h x : CodePoint} {more : Text} {n m : ℕ}
    (hn : hex4? a b c d = some n) (hm : hex4? e f g h = some m) (hhigh : isHigh n = true)
    (hlow : isLow m = true) :
    unicodeEscape (v :: a :: b :: c :: d :: CodePoint.ofChar '\\' :: CodePoint.ofChar 'u' ::
      e :: f :: g :: h :: x :: more) = .pair (joinPair n m) := by
  unfold unicodeEscape
  simp [hn, hm, hhigh, hlow]

/-- An escape as it is read: a backslash, a letter and four digits. -/
theorem unicodeEscape_append {n : ℕ} (hn : n < 0x10000) : ∃ w x y z, hex4? w x y z = some n ∧
    ∀ rest, Text.unicodeEscape n ++ rest =
      CodePoint.ofChar '\\' :: CodePoint.ofChar 'u' :: w :: x :: y :: z :: rest := by
  obtain ⟨w, x, y, z, hw, hnum⟩ := Literal.exists_hexPadded hn
  refine ⟨w, x, y, z, hnum, fun rest => ?_⟩
  show ofString "\\u" ++ hexPadded 4 n ++ rest = _
  rw [hw]
  rfl

theorem readString_single {n : ℕ} (hn : n < 0x10000) (hrest : rest ≠ [])
    (hlow : isHigh n = true → NoLowBehind rest) :
    readString opening (Text.unicodeEscape n ++ rest) =
      (readString opening rest).map fun r => (CodePoint.ofNat n :: r.1, r.2) := by
  obtain ⟨w, x, y, z, hnum, happend⟩ := unicodeEscape_append hn
  have hq : ¬ CodePoint.ofChar '\\' = CodePoint.ofChar '"' := by decide
  have hc : ¬ (CodePoint.ofChar '\\').val < 0x20 := by decide
  rw [happend, readString.eq_def]
  simp only [if_neg hq, if_neg hc, if_true, unicodeEscape_eq_single hnum hrest hlow]

theorem readString_two {n m : ℕ} (hn : 0xD800 ≤ n ∧ n ≤ 0xDBFF) (hm : 0xDC00 ≤ m ∧ m ≤ 0xDFFF)
    (hrest : rest ≠ []) :
    readString opening (Text.unicodeEscape n ++ (Text.unicodeEscape m ++ rest)) =
      (readString opening rest).map fun r => (CodePoint.ofNat (joinPair n m) :: r.1, r.2) := by
  obtain ⟨w, x, y, z, hnum, happend⟩ := unicodeEscape_append (n := n) (by omega)
  obtain ⟨w', x', y', z', hnum', happend'⟩ := unicodeEscape_append (n := m) (by omega)
  have hq : ¬ CodePoint.ofChar '\\' = CodePoint.ofChar '"' := by decide
  have hc : ¬ (CodePoint.ofChar '\\').val < 0x20 := by decide
  obtain ⟨r, more, rfl⟩ := List.exists_cons_of_ne_nil hrest
  have hpair : unicodeEscape (CodePoint.ofChar 'u' :: w :: x :: y :: z :: CodePoint.ofChar '\\' ::
      CodePoint.ofChar 'u' :: w' :: x' :: y' :: z' :: r :: more) = .pair (joinPair n m) :=
    unicodeEscape_eq_pair hnum hnum' (by simp [isHigh, hn]) (by simp [isLow, hm])
  rw [happend, happend', readString.eq_def]
  simp only [if_neg hq, if_neg hc, if_true, hpair]

/-! ## Quoted code points -/

theorem quoteCodePoint_of_surrogate {c : CodePoint} (h : 0xD800 ≤ c.val ∧ c.val ≤ 0xDFFF) :
    quoteCodePoint c = Text.unicodeEscape c.val := by
  have hquoted := isQuotedAs_quoteCodePoint c
  generalize quoteCodePoint c = e at hquoted ⊢
  cases hquoted with
  | short hletter =>
      have hascii : ∀ p ∈ escapeLetters, p.2.val < 0x80 := by decide
      have hlt : c.val < 0x80 := hascii _ hletter
      omega
  | itself _ hhigh _ _ => omega
  | number _ => rfl
  | pair hpair => omega

/-- A reader of JSON knows the letters of short escapes. -/
theorem escaped?_of_mem_escapeLetters :
    ∀ p ∈ escapeLetters, p.1 ≠ 'u' ∧ escaped? (CodePoint.ofChar p.1) = some p.2 := by
  decide

/-- One quoted code point is read back, unless a second half behind it takes it for a pair. -/
theorem readString_quoteCodePoint (c : CodePoint) (hrest : rest ≠ [])
    (hlow : c.isHighSurrogate = true → NoLowBehind rest) :
    readString opening (quoteCodePoint c ++ rest) =
      (readString opening rest).map fun r => (c :: r.1, r.2) := by
  have hlt := c.isLt
  have hquoted := isQuotedAs_quoteCodePoint c
  generalize quoteCodePoint c = e at hquoted ⊢
  cases hquoted with
  | short hletter =>
      obtain ⟨hu, hescaped⟩ := escaped?_of_mem_escapeLetters _ hletter
      exact readString_backslashed hu hescaped
  | itself h _ hquote hbackslash =>
      rw [List.singleton_append, readString_plain hquote h hbackslash]
  | number h =>
      have hsingle : isHigh c.val = true → NoLowBehind rest := hlow
      rw [readString_single h hrest hsingle, CodePoint.ofNat_val]
  | pair h =>
      have hpair : joinPair (0xD800 + (c.val - 0x10000) / 0x400)
          (0xDC00 + (c.val - 0x10000) % 0x400) = c.val := by
        unfold joinPair
        omega
      rw [pairEscape, List.append_assoc, readString_two (by omega) (by omega) hrest, hpair,
        CodePoint.ofNat_val]

theorem noLowBehind_quoteMark : NoLowBehind (CodePoint.ofChar '"' :: rest) := by
  intro e f g h x more heq
  exact absurd (List.cons.inj heq).1 (by decide)

theorem noLowBehind_unicodeEscape {n : ℕ} (hn : n < 0x10000) (hlow : isLow n = false) :
    NoLowBehind (Text.unicodeEscape n ++ rest) := by
  intro e f g h x more heq
  obtain ⟨w, y, z, v, hnum, happend⟩ := unicodeEscape_append hn
  rw [happend] at heq
  simp only [List.cons.injEq] at heq
  obtain ⟨-, -, rfl, rfl, rfl, rfl, -⟩ := heq
  exact ⟨n, hnum, hlow⟩

/-- A quoted code point begins with the escape of a second half only if it is one. -/
theorem noLowBehind_quoteCodePoint {d : CodePoint} (hd : d.isLowSurrogate = false) :
    NoLowBehind (quoteCodePoint d ++ rest) := by
  have hlt := d.isLt
  have hquoted := isQuotedAs_quoteCodePoint d
  generalize quoteCodePoint d = t at hquoted ⊢
  cases hquoted with
  | short hletter =>
      intro a b c h x more heq
      have hu := (List.cons.inj (List.cons.inj heq).2).1
      exact absurd (CodePoint.ofChar_eq_iff.mp hu) (escaped?_of_mem_escapeLetters _ hletter).1
  | itself _ _ _ hbackslash =>
      intro a b c h x more heq
      exact absurd (List.cons.inj heq).1 hbackslash
  | number h => exact noLowBehind_unicodeEscape h hd
  | pair h =>
      rw [pairEscape, List.append_assoc]
      have hhigh : ¬ 0xDC00 ≤ 0xD800 + (d.val - 0x10000) / 0x400 := by omega
      exact noLowBehind_unicodeEscape (by omega) (by simp [isLow, hhigh])

/-- **Quoted text is read back as JSON with halves of a pair joined,** whatever follows it. -/
theorem readString_quote (opening t rest : Text) :
    readString opening (t.flatMap quoteCodePoint ++ CodePoint.ofChar '"' :: rest) =
      .ok (t.joined, rest) := by
  have hne : ∀ s : Text, s ++ CodePoint.ofChar '"' :: rest ≠ [] := fun s => by simp
  fun_induction Text.joined t with
  | case1 => exact readString_quoteMark
  | case2 c =>
      rw [List.flatMap_singleton, readString_quoteCodePoint c (List.cons_ne_nil _ _)
        fun _ => noLowBehind_quoteMark, readString_quoteMark]
      rfl
  | case3 c d t hpair ih =>
      -- two escapes, read as one pair
      obtain ⟨hc, hd⟩ := Bool.and_eq_true_iff.mp hpair
      have hcv := val_of_isHighSurrogate hc
      have hdv := val_of_isLowSurrogate hd
      rw [List.flatMap_cons, List.flatMap_cons, List.append_assoc, List.append_assoc,
        quoteCodePoint_of_surrogate (by omega), quoteCodePoint_of_surrogate (by omega),
        readString_two hcv hdv (hne _), ih]
      rfl
  | case4 c d t hpair ih =>
      -- what stands behind `c` cannot make a pair of it
      have hlow : c.isHighSurrogate = true → NoLowBehind
          ((d :: t).flatMap quoteCodePoint ++ CodePoint.ofChar '"' :: rest) := by
        intro hc
        have hd : d.isLowSurrogate = false := by simpa [hc] using hpair
        rw [List.flatMap_cons, List.append_assoc]
        exact noLowBehind_quoteCodePoint hd
      rw [List.flatMap_cons, List.append_assoc, readString_quoteCodePoint c (hne _) hlow, ih]
      rfl

end Json

end CallBindings
