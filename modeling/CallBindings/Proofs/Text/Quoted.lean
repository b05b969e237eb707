import CallBindings.Module.Literal
import CallBindings.Proofs.Text.Numeral
import CallBindings.Text.Quoted

set_option autoImplicit false

/-! # Quoted text read as a literal

Quoted text is written by the rules of JSON and read, in a generated module, by the rules of
literals. The two agree on every code point but those above `0xFFFF`: these are written as a
pair of escapes, and a literal takes the two escapes for two code points. What is read is hence
the text with such code points taken apart, `Text.halves`. A text is read back unchanged
exactly if it has none, and two texts without surrogates are read alike only if they are equal.
-/

namespace CallBindings

theorem CodePoint.ext {a b : CodePoint} (h : a.val = b.val) : a = b := by
  cases a
  cases b
  simpa using h

theorem CodePoint.ofChar_eq_iff {a b : Char} : CodePoint.ofChar a = CodePoint.ofChar b ↔ a = b := by
  constructor
  · intro h
    exact Char.toNat_inj.mp (congrArg CodePoint.val h)
  · exact congrArg CodePoint.ofChar

theorem CodePoint.val_ofNat {n : Nat} (hn : n < 0x110000) : (CodePoint.ofNat n).val = n := by
  rw [CodePoint.ofNat, dif_pos hn]

theorem CodePoint.ofNat_val (c : CodePoint) : CodePoint.ofNat c.val = c :=
  CodePoint.ext (CodePoint.val_ofNat c.isLt)

/-! ## Taking code points apart -/

/-- A code point as a literal has it: above `0xFFFF` the two halves of its surrogate pair. -/
def CodePoint.halves (c : CodePoint) : Text :=
  if c.val < 0x10000 then [c]
  else [CodePoint.ofNat (0xD800 + (c.val - 0x10000) / 0x400),
    CodePoint.ofNat (0xDC00 + (c.val - 0x10000) % 0x400)]

namespace Text

/-- The text in which all code points above `0xFFFF` are taken apart. -/
def halves (t : Text) : Text := t.flatMap CodePoint.halves

/-- Whether no code point lies above `0xFFFF`. -/
def isBasic (t : Text) : Bool := t.all (·.val < 0x10000)

theorem halves_of_isBasic {t : Text} (h : t.isBasic = true) : t.halves = t := by
  induction t with
  | nil => rfl
  | cons c t ih =>
      have hc : c.val < 0x10000 ∧ isBasic t = true := by simpa [isBasic] using h
      rw [halves, List.flatMap_cons, CodePoint.halves, if_pos hc.1, List.singleton_append]
      exact congrArg (c :: ·) (ih hc.2)

theorem isBasic_halves (t : Text) : t.halves.isBasic = true := by
  simp only [isBasic, List.all_eq_true, decide_eq_true_eq]
  intro x hx
  obtain ⟨c, -, hc⟩ := List.mem_flatMap.mp hx
  have hlt := c.isLt
  rw [CodePoint.halves] at hc
  split at hc
  · rw [List.mem_singleton.mp hc]
    assumption
  · rcases List.mem_cons.mp hc with rfl | hc
    · rw [CodePoint.val_ofNat (by omega)]
      omega
    · rw [List.mem_singleton.mp hc, CodePoint.val_ofNat (by omega)]
      omega

/-- A text stays as it is exactly if there is nothing to take apart. -/
theorem halves_eq_self_iff {t : Text} : t.halves = t ↔ t.isBasic = true :=
  ⟨fun h => h ▸ isBasic_halves t, halves_of_isBasic⟩

/-- A code point that is no surrogate can be told from the text it is taken apart into. -/
theorem halves_cons_inj {a b : CodePoint} {s t : Text} (ha : a.isSurrogate = false)
    (hb : b.isSurrogate = false) (h : a.halves ++ s = b.halves ++ t) : a = b ∧ s = t := by
  have hal := a.isLt
  have hbl := b.isLt
  have hsur : ∀ n, 0x10000 ≤ n → n < 0x110000 →
      (CodePoint.ofNat (0xD800 + (n - 0x10000) / 0x400)).isSurrogate = true := by
    intro n h1 h2
    simp only [CodePoint.isSurrogate, CodePoint.val_ofNat (n := 0xD800 + (n - 0x10000) / 0x400)
      (by omega), Bool.and_eq_true, decide_eq_true_eq]
    omega
  rw [CodePoint.halves, CodePoint.halves] at h
  -- a half is a surrogate, so a pair never begins like a code point that is none
  split at h <;> split at h
  · simpa using h
  · rename_i h2
    have he : a = CodePoint.ofNat (0xD800 + (b.val - 0x10000) / 0x400) := (List.cons.inj h).1
    rw [he, hsur b.val (by omega) hbl] at ha
    cases ha
  · rename_i h1 _
    have he : CodePoint.ofNat (0xD800 + (a.val - 0x10000) / 0x400) = b := (List.cons.inj h).1
    rw [← he, hsur a.val (by omega) hal] at hb
    cases hb
  · have h1 := congrArg CodePoint.val (List.cons.inj h).1
    have h2 := congrArg CodePoint.val (List.cons.inj (List.cons.inj h).2).1
    rw [CodePoint.val_ofNat (by omega), CodePoint.val_ofNat (by omega)] at h1 h2
    exact ⟨CodePoint.ext (by omega), (List.cons.inj (List.cons.inj h).2).2⟩

/-- Texts without surrogates that are taken apart alike are equal. -/
theorem halves_injective {s t : Text} (hs : s.isScalar = true) (ht : t.isScalar = true)
    (h : s.halves = t.halves) : s = t := by
  have hne : ∀ c : CodePoint, c.halves ≠ [] := by
    intro c
    rw [CodePoint.halves]
    split <;> simp
  induction s generalizing t with
  | nil =>
      cases t with
      | nil => rfl
      | cons b t => simp [halves, hne b] at h
  | cons a s ih =>
      cases t with
      | nil => simp [halves, hne a] at h
      | cons b t =>
          have hs' : a.isSurrogate = false ∧ isScalar s = true := by simpa [isScalar] using hs
          have ht' : b.isSurrogate = false ∧ isScalar t = true := by simpa [isScalar] using ht
          obtain ⟨hab, hst⟩ := halves_cons_inj hs'.1 ht'.1 h
          rw [hab, ih hs'.2 ht'.2 hst]

/-! ## How a code point is quoted -/

/-- The letters behind the backslash of a short escape, and what each stands for. -/
def escapeLetters : List (Char × CodePoint) :=
  [('"', '"'), ('\\', '\\'), ('n', '\n'), ('r', '\r'), ('t', '\t'), ('b', CodePoint.ofNat 8),
    ('f', CodePoint.ofNat 12)]

theorem exists_letter_of_shortEscape? {c : CodePoint} {e : Text} (h : shortEscape? c = some e) :
    ∃ letter, (letter, c) ∈ escapeLetters ∧ e = backslashed letter := by
  rw [shortEscape?] at h
  split_ifs at h with hquote hbackslash hn hr ht hb hf
  · exact ⟨'"', by simp [escapeLetters, hquote], (Option.some.inj h).symm⟩
  · exact ⟨'\\', by simp [escapeLetters, hbackslash], (Option.some.inj h).symm⟩
  · exact ⟨'n', by simp [escapeLetters, hn], (Option.some.inj h).symm⟩
  · exact ⟨'r', by simp [escapeLetters, hr], (Option.some.inj h).symm⟩
  · exact ⟨'t', by simp [escapeLetters, ht], (Option.some.inj h).symm⟩
  · obtain rfl : c = CodePoint.ofNat 8 := CodePoint.ext hb
    exact ⟨'b', by simp [escapeLetters], (Option.some.inj h).symm⟩
  · obtain rfl : c = CodePoint.ofNat 12 := CodePoint.ext hf
    exact ⟨'f', by simp [escapeLetters], (Option.some.inj h).symm⟩

/-- The forms that a code point can have in quoted text. -/
inductive IsQuotedAs : CodePoint → Text → Prop
  | short {c : CodePoint} {letter : Char} : (letter, c) ∈ escapeLetters →
      IsQuotedAs c (backslashed letter)
  | itself {c : CodePoint} : 0x20 ≤ c.val → c.val ≤ 0x7E → c ≠ '"' → c ≠ '\\' → IsQuotedAs c [c]
  | number {c : CodePoint} : c.val < 0x10000 → IsQuotedAs c (unicodeEscape c.val)
  | pair {c : CodePoint} : 0x10000 ≤ c.val → IsQuotedAs c (pairEscape c.val)

theorem isQuotedAs_quoteCodePoint (c : CodePoint) : IsQuotedAs c (quoteCodePoint c) := by
  rw [quoteCodePoint]
  split
  · next e he =>
      obtain ⟨letter, hletter, rfl⟩ := exists_letter_of_shortEscape? he
      exact .short hletter
  · next hnone =>
      rw [shortEscape?] at hnone
      split_ifs at hnone with hquote hbackslash
      split_ifs with hprintable hbasic
      · simp only [Bool.and_eq_true, decide_eq_true_eq] at hprintable
        exact .itself hprintable.1 hprintable.2 hquote hbackslash
      · exact .number hbasic
      · exact .pair (Nat.le_of_not_lt hbasic)

end Text

/-! ## Reading -/

namespace Literal

open Text

theorem prepend_eq_map (c : CodePoint) (r : Option (Text × Text)) :
    prepend c r = r.map fun p => (c :: p.1, p.2) := by
  cases r <;> rfl

theorem readBody_quoteMark (rest : Text) :
    readBody (CodePoint.ofChar '"' :: rest) = some ([], rest) := by
  rw [readBody.eq_def]
  rfl

theorem readBody_plain {c : CodePoint} (hq : c ≠ '"') (hl : c ≠ '\n') (hb : c ≠ '\\')
    (rest : Text) : readBody (c :: rest) = prepend c (readBody rest) := by
  rw [readBody.eq_def]
  simp only [if_neg hq, if_neg hl, if_neg hb]

theorem readBody_backslashed {e : Char} {d : CodePoint} (hu : e ≠ 'u')
    (he : escaped? (CodePoint.ofChar e) = some d) (rest : Text) :
    readBody (backslashed e ++ rest) = prepend d (readBody rest) := by
  have hq : ¬ CodePoint.ofChar '\\' = CodePoint.ofChar '"' := by decide
  have hl : ¬ CodePoint.ofChar '\\' = CodePoint.ofChar '\n' := by decide
  have hu' : ¬ CodePoint.ofChar e = CodePoint.ofChar 'u' := fun h => hu (CodePoint.ofChar_eq_iff.mp h)
  rw [backslashed, List.cons_append, List.cons_append, List.nil_append, readBody.eq_def]
  simp only [if_neg hq, if_neg hl, if_true, if_neg hu', he]

/-- Four hexadecimal digits denote the number they are written for. -/
theorem number?_eq_numeral {a b c d : CodePoint}
    (h : ∀ x ∈ [a, b, c, d], x.hexValue?.isSome = true) :
    number? a b c d = some (numeral 16 [a, b, c, d]) := by
  obtain ⟨a', ha⟩ := Option.isSome_iff_exists.mp (h a (by simp))
  obtain ⟨b', hb⟩ := Option.isSome_iff_exists.mp (h b (by simp))
  obtain ⟨c', hc⟩ := Option.isSome_iff_exists.mp (h c (by simp))
  obtain ⟨d', hd⟩ := Option.isSome_iff_exists.mp (h d (by simp))
  simp only [number?, ha, hb, hc, hd, numeral, List.foldl_cons, List.foldl_nil, CodePoint.digit,
    Option.getD_some]
  congr 1
  ring

theorem isSome_hexValue?_of_isSmallHex {c : CodePoint} (h : c.isSmallHex = true) :
    c.hexValue?.isSome = true := by
  rw [CodePoint.isSmallHex_iff] at h
  rw [CodePoint.hexValue?]
  split
  · rfl
  · split
    · rfl
    · rename_i h1 h2
      simp only [Bool.and_eq_true, decide_eq_true_eq] at h1 h2
      rw [if_pos (by simp only [Bool.and_eq_true, decide_eq_true_eq]; omega)]
      rfl

/-- A number below `0x10000` is written with four digits, which denote it. -/
theorem exists_hexPadded {n : Nat} (hn : n < 0x10000) :
    ∃ w x y z, hexPadded 4 n = [w, x, y, z] ∧ number? w x y z = some n := by
  have hlen : (hexPadded 4 n).length = 4 := length_hexPadded (by decide) hn
  have hhex : ∀ x ∈ hexPadded 4 n, x.hexValue?.isSome = true := fun x hx =>
    isSome_hexValue?_of_isSmallHex (isSmallHex_of_mem_hexPadded hx)
  have hval : numeral 16 (hexPadded 4 n) = n := numeral_hexPadded 4 n
  obtain ⟨w, x, y, z, hw⟩ := List.length_eq_four.mp hlen
  rw [hw] at hhex hval
  exact ⟨w, x, y, z, hw, by rw [number?_eq_numeral hhex, hval]⟩

theorem readBody_unicodeEscape {n : Nat} (hn : n < 0x10000) (rest : Text) :
    readBody (unicodeEscape n ++ rest) = prepend (CodePoint.ofNat n) (readBody rest) := by
  obtain ⟨w, x, y, z, hw, hnum⟩ := exists_hexPadded hn
  have hq : ¬ CodePoint.ofChar '\\' = CodePoint.ofChar '"' := by decide
  have hl : ¬ CodePoint.ofChar '\\' = CodePoint.ofChar '\n' := by decide
  have he : unicodeEscape n ++ rest =
      CodePoint.ofChar '\\' :: CodePoint.ofChar 'u' :: w :: x :: y :: z :: rest := by
    show ofString "\\u" ++ hexPadded 4 n ++ rest = _
    rw [hw]
    rfl
  rw [he, readBody.eq_def]
  simp only [if_neg hq, if_neg hl, if_true, hnum]

/-- A reader of literals knows the letters of short escapes. -/
theorem escaped?_of_mem_escapeLetters :
    ∀ p ∈ escapeLetters, p.1 ≠ 'u' ∧ escaped? (CodePoint.ofChar p.1) = some p.2 := by
  decide

/-- One written code point is read as what it is taken apart into. -/
theorem readBody_quoteCodePoint (c : CodePoint) (rest : Text) :
    readBody (quoteCodePoint c ++ rest) =
      (readBody rest).map fun p => (c.halves ++ p.1, p.2) := by
  have hlt := c.isLt
  have hone : c.val < 0x10000 → prepend c (readBody rest) =
      (readBody rest).map fun p => (c.halves ++ p.1, p.2) := by
    intro h
    rw [CodePoint.halves, if_pos h, prepend_eq_map]
    rfl
  have hquoted := isQuotedAs_quoteCodePoint c
  generalize quoteCodePoint c = e at hquoted ⊢
  cases hquoted with
  | short hletter =>
      have hbasic : ∀ p ∈ escapeLetters, p.2.val < 0x10000 := by decide
      obtain ⟨hu, hescaped⟩ := escaped?_of_mem_escapeLetters _ hletter
      rw [readBody_backslashed hu hescaped, hone (hbasic _ hletter)]
  | itself hlow hhigh hquote hbackslash =>
      have hline : c ≠ '\n' := by
        rintro rfl
        exact absurd hlow (by decide)
      rw [List.singleton_append, readBody_plain hquote hline hbackslash, hone (by omega)]
  | number h => rw [readBody_unicodeEscape h, CodePoint.ofNat_val, hone h]
  | pair h =>
      rw [pairEscape, List.append_assoc, readBody_unicodeEscape (by omega),
        readBody_unicodeEscape (by omega), CodePoint.halves, if_neg (Nat.not_lt.mpr h),
        prepend_eq_map, prepend_eq_map, Option.map_map]
      rfl

/-- **A quoted text is read as the text taken apart,** whatever follows it. -/
theorem read?_quote (t rest : Text) : read? (t.quote ++ rest) = some (t.halves, rest) := by
  have hbody : ∀ t : Text,
      readBody (t.flatMap quoteCodePoint ++ CodePoint.ofChar '"' :: rest) = some (t.halves, rest) := by
    intro t
    induction t with
    | nil => exact readBody_quoteMark rest
    | cons c t ih =>
        rw [List.flatMap_cons, List.append_assoc, readBody_quoteCodePoint, ih]
        rfl
  have hshape : t.quote ++ rest =
      CodePoint.ofChar '"' :: (t.flatMap quoteCodePoint ++ CodePoint.ofChar '"' :: rest) := by
    show ofString "\"" ++ t.flatMap quoteCodePoint ++ ofString "\"" ++ rest = _
    rw [show ofString "\"" = [CodePoint.ofChar '"'] from rfl]
    simp
  rw [hshape, ← hbody t]
  rfl

end Literal

/-- A code point of printable ASCII. -/
def CodePoint.isPrintable (c : CodePoint) : Bool := 0x20 ≤ c.val && c.val ≤ 0x7E

/-- A code point that quotes or escapes are made of. -/
def CodePoint.isEscapeMark (c : CodePoint) : Bool :=
  c.isSmallHex || (Text.ofString "\"\\nrtu").contains c

namespace Text

/-- Quoted texts without surrogates end where they end: neither can go on inside the other. -/
theorem quote_append_inj {s t r r' : Text} (hs : s.isScalar = true) (ht : t.isScalar = true)
    (h : s.quote ++ r = t.quote ++ r') : s = t ∧ r = r' := by
  have hread := Literal.read?_quote s r
  rw [h, Literal.read?_quote, Option.some.injEq, Prod.mk.injEq] at hread
  exact ⟨(halves_injective ht hs hread.1).symm, hread.2.symm⟩

/-! ## What quoted text consists of -/

theorem isPrintable_of_isSmallHex {c : CodePoint} (h : c.isSmallHex = true) :
    c.isPrintable = true := by
  rw [CodePoint.isSmallHex_iff] at h
  simp only [CodePoint.isPrintable, Bool.and_eq_true, decide_eq_true_eq]
  omega

theorem isPrintable_of_isAsciiDigit {c : CodePoint} (h : c.isAsciiDigit = true) :
    c.isPrintable = true :=
  isPrintable_of_isSmallHex (CodePoint.isSmallHex_of_isAsciiDigit h)

theorem isPrintable_of_mem_unicodeEscape {n : Nat} {x : CodePoint} (hx : x ∈ unicodeEscape n) :
    x.isPrintable = true := by
  rcases List.mem_append.mp hx with hx | hx
  · have hall : ∀ y ∈ ofString "\\u", y.isPrintable = true := by decide
    exact hall x hx
  · exact isPrintable_of_isSmallHex (isSmallHex_of_mem_hexPadded hx)

theorem isPrintable_of_mem_quoteCodePoint {c x : CodePoint} (hx : x ∈ quoteCodePoint c) :
    x.isPrintable = true := by
  have hquoted := isQuotedAs_quoteCodePoint c
  generalize quoteCodePoint c = e at hquoted hx
  cases hquoted with
  | short hletter =>
      have hall : ∀ p ∈ escapeLetters, ∀ y ∈ backslashed p.1, y.isPrintable = true := by decide
      exact hall _ hletter x hx
  | itself hlow hhigh _ _ =>
      rw [List.mem_singleton.mp hx]
      simpa [CodePoint.isPrintable] using ⟨hlow, hhigh⟩
  | number _ => exact isPrintable_of_mem_unicodeEscape hx
  | pair _ =>
      rcases List.mem_append.mp hx with hx | hx
      · exact isPrintable_of_mem_unicodeEscape hx
      · exact isPrintable_of_mem_unicodeEscape hx

/-- Quoted text is printable ASCII, whatever it holds. -/
theorem isPrintable_of_mem_quote {t : Text} {x : CodePoint} (hx : x ∈ t.quote) :
    x.isPrintable = true := by
  have hmark : ∀ y ∈ ofString "\"", y.isPrintable = true := by decide
  rcases List.mem_append.mp hx with hx | hx
  · rcases List.mem_append.mp hx with hx | hx
    · exact hmark x hx
    · obtain ⟨c, -, hc⟩ := List.mem_flatMap.mp hx
      exact isPrintable_of_mem_quoteCodePoint hc
  · exact hmark x hx

/-- A code point that no escape is made of occurs in quoted text only where it is quoted. -/
theorem mem_of_mem_quote {t : Text} {x : CodePoint} (hx : x ∈ t.quote)
    (hmark : x.isEscapeMark = false) : x ∈ t := by
  -- all that quoting adds are marks of an escape
  have hout : ∀ {e : Text}, (∀ y ∈ e, y.isEscapeMark = true) → x ∉ e := by
    intro e he hmem
    rw [he x hmem] at hmark
    cases hmark
  have hquote : x ∉ ofString "\"" := hout (by decide)
  have hunicode : ∀ n, x ∉ unicodeEscape n := by
    intro n hmem
    rcases List.mem_append.mp hmem with h | h
    · exact hout (by decide) h
    · have hhex := isSmallHex_of_mem_hexPadded h
      simp [CodePoint.isEscapeMark, hhex] at hmark
  rcases List.mem_append.mp hx with hx | hx
  · rcases List.mem_append.mp hx with hx | hx
    · exact absurd hx hquote
    · obtain ⟨c, hc, hxc⟩ := List.mem_flatMap.mp hx
      have hquoted := isQuotedAs_quoteCodePoint c
      generalize quoteCodePoint c = e at hquoted hxc
      cases hquoted with
      | short hletter =>
          have hall : ∀ p ∈ escapeLetters, ∀ y ∈ backslashed p.1, y.isEscapeMark = true := by decide
          exact absurd hxc (hout (hall _ hletter))
      | itself _ _ _ _ => rwa [List.mem_singleton.mp hxc]
      | number _ => exact absurd hxc (hunicode _)
      | pair _ =>
          rcases List.mem_append.mp hxc with h | h
          · exact absurd h (hunicode _)
          · exact absurd h (hunicode _)
  · exact absurd hx hquote

end Text

end CallBindings
