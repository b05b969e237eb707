import CallBindings.Proofs.Number.Written
import CallBindings.Proofs.Shape.TypeName
import CallBindings.Proofs.Text.Listed
import CallBindings.Proofs.Text.Quoted

set_option autoImplicit false

/-! # Tokens of type expressions

A type expression is cut into tokens as readers of generated modules do: words, which are
identifiers, quoted strings, numbers and single marks; blanks only separate. The lexer goes
over the text once and keeps what it has read of the token at hand. Each kind of token is
followed through the lexer on its own, with anything behind it that cannot continue it.
-/

namespace CallBindings

/-- A token of a type expression. -/
inductive Token where
  | word (t : Text)
  | string (t : Text)
  | number (t : Text)
  | mark (c : CodePoint)
deriving DecidableEq

/-- The token that is being read, the latest code point first; of a string it is known whether
a backslash stands before this place. -/
inductive Lexeme where
  | none
  | word (read : Text)
  | number (read : Text)
  | string (read : Text)
  | escape (read : Text)
deriving DecidableEq

namespace Lexeme

/-- A code point between tokens: the tokens it completes, and what it begins. -/
def start (c : CodePoint) : List Token × Lexeme :=
  if c.startsIdentifier then ([], .word [c])
  else if c.isAsciiDigit then ([], .number [c])
  else if c = CodePoint.ofChar '"' then ([], .string [c])
  else if c = CodePoint.ofChar ' ' then ([], .none)
  else ([.mark c], .none)

/-- Whether a code point belongs to the number before it. A sign does only in an exponent. -/
def continuesNumber (read : Text) (c : CodePoint) : Bool :=
  c.isAsciiDigit || c = CodePoint.ofChar '.' || c = CodePoint.ofChar 'e' ||
    ((c = CodePoint.ofChar '-' || c = CodePoint.ofChar '+') &&
      read.head? = some (CodePoint.ofChar 'e'))

/-- One code point further: the tokens that are complete, and the one that is being read. -/
def step : Lexeme → CodePoint → List Token × Lexeme
  | .none, c => start c
  | .word read, c =>
    if c.inIdentifier then ([], .word (c :: read))
    else (.word read.reverse :: (start c).1, (start c).2)
  | .number read, c =>
    if continuesNumber read c then ([], .number (c :: read))
    else (.number read.reverse :: (start c).1, (start c).2)
  | .string read, c =>
    if c = CodePoint.ofChar '"' then ([.string (c :: read).reverse], .none)
    else if c = CodePoint.ofChar '\\' then ([], .escape (c :: read))
    else ([], .string (c :: read))
  | .escape read, c => ([], .string (c :: read))

/-- What the end of the text makes of the token that is being read. -/
def finish : Lexeme → List Token
  | .none => []
  | .word read => [.word read.reverse]
  | .number read => [.number read.reverse]
  | .string read | .escape read => [.string read.reverse]

/-- The tokens of a text that follows what has been read. -/
def scan : Lexeme → Text → List Token
  | l, [] => l.finish
  | l, c :: t => (l.step c).1 ++ scan (l.step c).2 t

end Lexeme

namespace Text

/-- The tokens of a text. -/
def tokens (t : Text) : List Token := Lexeme.none.scan t

end Text

namespace Lexeme

open Text

variable {read t rest : Text}

/-! ## Words -/

theorem scan_word (h : ∀ c ∈ t, c.inIdentifier = true) :
    scan (.word read) (t ++ rest) = scan (.word (t.reverse ++ read)) rest := by
  induction t generalizing read with
  | nil => rfl
  | cons c t ih =>
      rw [List.cons_append, scan, step, if_pos (h c List.mem_cons_self), List.nil_append,
        ih fun d hd => h d (List.mem_cons_of_mem c hd)]
      simp

theorem scan_word_of_ends (h : Ends CodePoint.inIdentifier rest) :
    scan (.word read) rest = .word read.reverse :: tokens rest := by
  cases rest with
  | nil => rfl
  | cons c rest =>
      have hc : ¬ c.inIdentifier = true := by simp [h c (by simp)]
      rw [scan, step, if_neg hc, tokens, scan]
      rfl

/-- An identifier is a word, and what follows it is read for itself. -/
theorem tokens_identifier (ht : t.isIdentifier = true)
    (hr : Ends CodePoint.inIdentifier rest) : tokens (t ++ rest) = .word t :: tokens rest := by
  cases t with
  | nil => cases ht
  | cons c t =>
      simp only [isIdentifier, Bool.and_eq_true, List.all_eq_true] at ht
      rw [List.cons_append, tokens, scan, step, start, if_pos ht.1, List.nil_append,
        scan_word ht.2, scan_word_of_ends hr]
      simp

/-! ## Numbers -/

theorem scan_number (h : ∀ c ∈ t, c.isAsciiDigit = true ∨ c = CodePoint.ofChar '.' ∨
    c = CodePoint.ofChar 'e') :
    scan (.number read) (t ++ rest) = scan (.number (t.reverse ++ read)) rest := by
  induction t generalizing read with
  | nil => rfl
  | cons c t ih =>
      have hc : continuesNumber read c = true := by
        rcases h c List.mem_cons_self with hc | rfl | rfl
        · simp [continuesNumber, hc]
        · simp [continuesNumber]
        · simp [continuesNumber]
      rw [List.cons_append, scan, step, if_pos hc, List.nil_append,
        ih fun d hd => h d (List.mem_cons_of_mem c hd)]
      simp

theorem scan_number_of_stops (h : Stops rest) :
    scan (.number read) rest = .number read.reverse :: tokens rest := by
  cases rest with
  | nil => rfl
  | cons c rest =>
      have hparts : c.isAsciiDigit = false ∧ c ≠ CodePoint.ofChar '.' ∧
          c ≠ CodePoint.ofChar 'e' ∧ c ≠ CodePoint.ofChar '-' ∧ c ≠ CodePoint.ofChar '+' := by
        rcases eq_of_isStop (h c rfl) with rfl | rfl | rfl <;> decide
      have hc : ¬ continuesNumber read c = true := by
        obtain ⟨h1, h2, h3, h4, h5⟩ := hparts
        simp [continuesNumber, h1, h2, h3, h4, h5]
      rw [scan, step, if_neg hc, tokens, scan]
      rfl

/-- A number without its sign is one token. -/
theorem tokens_unsigned (ht : NumberLayout.IsUnsigned t) (hr : Stops rest) :
    tokens (t ++ rest) = .number t :: tokens rest := by
  obtain ⟨mantissa, exponent, rfl, ⟨d, u, rfl, hd⟩, hm, he⟩ := ht
  -- the scanner keeps what it has read of a number in reverse
  have hmantissa : ∀ rest, tokens (d :: u ++ rest) = scan (.number (d :: u).reverse) rest := by
    intro rest
    have hu : ∀ c ∈ u, c.isAsciiDigit = true ∨ c = CodePoint.ofChar '.' ∨
        c = CodePoint.ofChar 'e' := fun c hc =>
      (hm c (List.mem_cons_of_mem d hc)).imp_right Or.inl
    rw [List.cons_append, tokens, scan, step, start,
      if_neg (by simp [CodePoint.not_startsIdentifier_of_isAsciiDigit hd]), if_pos hd, List.nil_append,
      scan_number hu]
    simp
  rw [List.append_assoc, hmantissa]
  rcases he with rfl | ⟨sign, hsign, power, rfl, hp⟩
  · rw [List.nil_append, scan_number_of_stops hr]
    simp
  · have hsign : continuesNumber (CodePoint.ofChar 'e' :: (d :: u).reverse) sign = true := by
      simp only [List.mem_cons, List.not_mem_nil, or_false] at hsign
      rcases hsign with rfl | rfl <;> simp [continuesNumber]
    rw [List.cons_append, List.cons_append, scan, step, if_pos (by simp [continuesNumber]),
      List.nil_append, scan, step, if_pos hsign, List.nil_append,
      scan_number fun c hc => Or.inl (hp c hc), scan_number_of_stops hr]
    simp

/-! ## Strings -/

theorem scan_string (h : ∀ c ∈ t, c ≠ CodePoint.ofChar '"' ∧ c ≠ CodePoint.ofChar '\\') :
    scan (.string read) (t ++ rest) = scan (.string (t.reverse ++ read)) rest := by
  induction t generalizing read with
  | nil => rfl
  | cons c t ih =>
      obtain ⟨hq, hb⟩ := h c List.mem_cons_self
      rw [List.cons_append, scan, step, if_neg hq, if_neg hb, List.nil_append,
        ih fun d hd => h d (List.mem_cons_of_mem c hd)]
      simp

theorem scan_backslash (e : CodePoint) :
    scan (.string read) (CodePoint.ofChar '\\' :: e :: rest) =
      scan (.string (e :: CodePoint.ofChar '\\' :: read)) rest := by
  rw [scan, step, if_neg (by decide), if_pos rfl, List.nil_append, scan, step, List.nil_append]

theorem scan_unicodeEscape (n : ℕ) :
    scan (.string read) (unicodeEscape n ++ rest) =
      scan (.string ((unicodeEscape n).reverse ++ read)) rest := by
  have hshape : unicodeEscape n =
      CodePoint.ofChar '\\' :: CodePoint.ofChar 'u' :: hexPadded 4 n := rfl
  have hhex : ∀ c ∈ hexPadded 4 n, c ≠ CodePoint.ofChar '"' ∧ c ≠ CodePoint.ofChar '\\' := by
    intro c hc
    have hsmall := isSmallHex_of_mem_hexPadded hc
    constructor <;> rintro rfl <;> exact absurd hsmall (by decide)
  rw [hshape, List.cons_append, List.cons_append, scan_backslash, scan_string hhex]
  simp

theorem scan_quoteCodePoint (c : CodePoint) :
    scan (.string read) (quoteCodePoint c ++ rest) =
      scan (.string ((quoteCodePoint c).reverse ++ read)) rest := by
  have hquoted := isQuotedAs_quoteCodePoint c
  generalize quoteCodePoint c = e at hquoted ⊢
  cases hquoted with
  | short _ => exact scan_backslash _
  | itself _ _ hquote hbackslash =>
      refine scan_string fun d hd => ?_
      rw [List.mem_singleton.mp hd]
      exact ⟨hquote, hbackslash⟩
  | number _ => exact scan_unicodeEscape _
  | pair _ =>
      rw [pairEscape, List.append_assoc, scan_unicodeEscape, scan_unicodeEscape]
      simp

/-- In ASCII it takes no table to tell what begins a word. -/
theorem start_of_ascii {c : CodePoint} (h : c.val < 0x80) :
    start c = if (c.val == 0x5F || c.isAsciiLetter) then ([], .word [c])
      else if c.isAsciiDigit then ([], .number [c])
      else if c = CodePoint.ofChar '"' then ([], .string [c])
      else if c = CodePoint.ofChar ' ' then ([], .none)
      else ([.mark c], .none) := by
  rw [start, CodePoint.startsIdentifier_of_ascii h]

theorem start_quoteMark : start (CodePoint.ofChar '"') = ([], .string [CodePoint.ofChar '"']) :=
  start_of_ascii (by decide)

/-- A quoted text is one token, whatever stands in it and behind it. -/
theorem tokens_quote (t rest : Text) : tokens (t.quote ++ rest) = .string t.quote :: tokens rest := by
  -- what is written for a code point never ends the string
  have hbody : ∀ (t read rest : Text), scan (.string read) (t.flatMap quoteCodePoint ++ rest) =
      scan (.string ((t.flatMap quoteCodePoint).reverse ++ read)) rest := by
    intro t
    induction t with
    | nil => intro read rest; rfl
    | cons c t ih =>
        intro read rest
        rw [List.flatMap_cons, List.append_assoc, scan_quoteCodePoint, ih]
        simp
  have hquote : t.quote = CodePoint.ofChar '"' ::
      (t.flatMap quoteCodePoint ++ [CodePoint.ofChar '"']) := rfl
  rw [hquote, List.cons_append, List.append_assoc, tokens, scan, step, start_quoteMark,
    List.nil_append, hbody, List.singleton_append, scan, step, if_pos rfl]
  simp [tokens]

end Lexeme

namespace Text

open Lexeme

/-! ## Words of a text -/

variable {t rest : Text}

/-- The words of a text. -/
def words (t : Text) : List Text :=
  t.tokens.filterMap fun token => match token with
    | .word w => some w
    | _ => none

theorem words_identifier (ht : t.isIdentifier = true) (hr : Ends CodePoint.inIdentifier rest) :
    words (t ++ rest) = t :: words rest := by
  rw [words, tokens_identifier ht hr]
  rfl

theorem words_quote (t rest : Text) : words (t.quote ++ rest) = words rest := by
  rw [words, tokens_quote]
  rfl

theorem words_unsigned (ht : NumberLayout.IsUnsigned t) (hr : Stops rest) :
    words (t ++ rest) = words rest := by
  rw [words, tokens_unsigned ht hr]
  rfl

/-- The marks and blanks that type expressions are written with. -/
def marks : Text := ofString "[](), :-\x7b\x7d"

theorem words_mark {c : CodePoint} (hc : c ∈ marks) (rest : Text) :
    words (c :: rest) = words rest := by
  have hascii : ∀ c ∈ marks, c.val < 0x80 ∧
      (c.val == 0x5F || c.isAsciiLetter) = false ∧ c.isAsciiDigit = false ∧
        c ≠ CodePoint.ofChar '"' := by decide
  obtain ⟨hlt, hword, hdigit, hquote⟩ := hascii c hc
  rw [words, tokens, scan, step, start_of_ascii hlt, hword, hdigit, if_neg hquote]
  by_cases hblank : c = CodePoint.ofChar ' '
  · rw [if_pos hblank]
    rfl
  · rw [if_neg hblank]
    rfl

theorem words_marks (ht : ∀ c ∈ t, c ∈ marks) (rest : Text) : words (t ++ rest) = words rest := by
  induction t with
  | nil => rfl
  | cons c t ih =>
      rw [List.cons_append, words_mark (ht c List.mem_cons_self),
        ih fun d hd => ht d (List.mem_cons_of_mem c hd)]

/-- A number has no words unless it is not finite. -/
theorem words_shown {j : Json} (hj : Shape.isNumberLiteral j = true) (hr : Stops rest) :
    words (j.shown ++ rest) = j.word?.toList ++ words rest := by
  cases hw : j.word? with
  | none =>
      obtain ⟨t, ht, h | h⟩ := Json.shown_of_isFinite hj (Json.word?_eq_none_iff.mp hw)
      · rw [h, words_unsigned ht hr]
        rfl
      · rw [h, List.cons_append, words_mark (by decide), words_unsigned ht hr]
        rfl
  | some w =>
      have hends : Ends CodePoint.inIdentifier rest := hr.ends fun _ => not_inIdentifier_of_isStop
      have hword : w.isIdentifier = true := by
        rcases Json.eq_of_word? hw with rfl | rfl <;> decide
      rcases Json.shown_of_word? hw with h | h
      · rw [h, words_identifier hword hends]
        rfl
      · rw [h, List.cons_append, words_mark (by decide), words_identifier hword hends]
        rfl

/-! ## Texts that stand for themselves -/

/-- Whether what follows a part of a type expression does not change the words of the part. -/
def Closed (t : Text) : Prop := ∀ rest, Stops rest → words (t ++ rest) = words t ++ words rest

theorem words_nil : words [] = [] := rfl

/-- A list of closed parts has the words of its parts. -/
theorem words_join {ts : List Text} {close : CodePoint} (hclose : isStop close = true)
    (h : ∀ t ∈ ts, Closed t) (rest : Text) :
    words (join comma ts ++ close :: rest) = ts.flatMap words ++ words rest := by
  have hmark : close ∈ marks := by
    rcases eq_of_isStop hclose with rfl | rfl | rfl <;> decide
  -- the induction is on the texts behind a comma; the first text has none
  have hfurther : ∀ ts : List Text, (∀ t ∈ ts, Closed t) →
      words (ts.flatMap (comma ++ ·) ++ close :: rest) = ts.flatMap words ++ words rest := by
    intro ts
    induction ts with
    | nil => exact fun _ => words_mark hmark rest
    | cons t ts ih =>
        intro h
        rw [List.flatMap_cons, List.append_assoc, List.append_assoc, words_marks (by decide),
          h t List.mem_cons_self _ (stops_further hclose ts rest),
          ih fun u hu => h u (List.mem_cons_of_mem t hu), List.flatMap_cons, List.append_assoc]
  cases ts with
  | nil => exact words_mark hmark rest
  | cons t ts =>
      rw [join_cons, List.append_assoc,
        h t List.mem_cons_self _ (stops_further hclose ts rest),
        hfurther ts fun u hu => h u (List.mem_cons_of_mem t hu), List.flatMap_cons,
        List.append_assoc]

end Text

end CallBindings
