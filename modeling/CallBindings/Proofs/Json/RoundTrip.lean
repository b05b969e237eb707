import CallBindings.Json.Printer
import CallBindings.Proofs.Json.Members
import CallBindings.Proofs.Json.Quoted
import CallBindings.Proofs.Text.Lines

set_option autoImplicit false

/-! # Written values read as JSON

The compact form of a value is read back as that value: members keep their order, and a truth
value is not taken for a number. What is excluded is what the form cannot keep: floating point
numbers, whose text is rounded; integers of more digits than are read; texts with surrogates, two
of which may be read as one code point; and members of one name.

A value is read from the beginning of a text, and what stands behind it matters only at its first
code point: there the value has to stop. A reader is given a bound on the depth of its calls and
room for nesting; `readValue_compact` says how much of both is enough.
-/

namespace CallBindings

open Text

namespace Json

/-! ## Plain values -/

/-- A value that its compact form keeps. -/
inductive IsPlain : Json → Prop
  | null : IsPlain .null
  | bool (b : Bool) : IsPlain (.bool b)
  | int {n : ℤ} : (Text.ofNat n.natAbs).length ≤ integerDigitLimit → IsPlain (.int n)
  | str {t : Text} : t.isScalar = true → IsPlain (.str t)
  | arr {items : List Json} : (∀ item ∈ items, IsPlain item) → IsPlain (.arr items)
  | obj {members : List (Text × Json)} : (∀ member ∈ members, member.1.isScalar = true) →
      (members.map Prod.fst).Nodup → (∀ member ∈ members, IsPlain member.2) →
      IsPlain (.obj members)

mutual

/-- How deeply lists and objects are nested in a value. -/
def nesting : Json → ℕ
  | .arr items => nestingOfItems items + 1
  | .obj members => nestingOfMembers members + 1
  | .null | .bool _ | .int _ | .float _ | .str _ => 0

/-- The greatest nesting of the items of a list. -/
def nestingOfItems : List Json → ℕ
  | [] => 0
  | item :: items => max item.nesting (nestingOfItems items)

/-- The greatest nesting of the values of an object. -/
def nestingOfMembers : List (Text × Json) → ℕ
  | [] => 0
  | (_, value) :: members => max value.nesting (nestingOfMembers members)

end

/-! ## Numbers -/

theorem isAsciiDigit_of_isStop {c : CodePoint} (hc : isStop c = true) : c.isAsciiDigit = false := by
  rcases eq_of_isStop hc with rfl | rfl | rfl <;> rfl

/-- A number that is not zero begins with another digit. -/
theorem head?_ofNat_ne {n : ℕ} (hn : n ≠ 0) : ∀ c ∈ (Text.ofNat n).head?, c ≠ CodePoint.ofChar '0' := by
  induction n using Nat.base_induction 10 (by decide) with
  | single d hd =>
      have hdigits : ∀ d < 10, d ≠ 0 → CodePoint.ofChar d.digitChar ≠ CodePoint.ofChar '0' := by
        decide
      intro c hc
      rw [Text.ofNat, Nat.toDigits_of_lt_base hd] at hc
      have hc : CodePoint.ofChar d.digitChar = c := by simpa using hc
      exact hc ▸ hdigits d hd hn
  | digit m d hd hm ih =>
      intro c hc
      -- a further digit is written behind, so the first one stays
      have hhead : (Text.ofNat (10 * m + d)).head? = (Text.ofNat m).head? := by
        rw [Text.ofNat, ← Nat.toDigits_append_toDigits (by decide) hm hd, List.map_append]
        exact List.head?_append_of_ne_nil _ (ofNat_ne_nil m)
      exact ih (by omega) c (hhead ▸ hc)

theorem natOfDigits_ofNat (n : ℕ) : natOfDigits ((Text.ofNat n).map (·.val - 0x30)) = n := by
  have hdigit : ∀ c : CodePoint, c.isAsciiDigit = true → c.val - 0x30 = c.digit := by
    intro c hc
    unfold CodePoint.digit CodePoint.hexValue?
    unfold CodePoint.isAsciiDigit at hc
    rw [if_pos hc, Option.getD_some]
  have hsame : (Text.ofNat n).map (·.val - 0x30) = (Text.ofNat n).map CodePoint.digit :=
    List.map_congr_left fun c hc => hdigit c (isAsciiDigit_of_mem_ofNat hc)
  rw [hsame, natOfDigits, List.foldl_map]
  exact numeral_ofNat n

theorem asciiDigits_append {s rest : Text} (hs : ∀ c ∈ s, c.isAsciiDigit = true)
    (hrest : Stops rest) : asciiDigits (s ++ rest) = (s.map (·.val - 0x30), rest) := by
  have hends : Ends CodePoint.isAsciiDigit rest := hrest.ends fun _ => isAsciiDigit_of_isStop
  have htake := takeWhile_append_of_ends hs hends
  have hdrop : (s ++ rest).dropWhile CodePoint.isAsciiDigit = rest := by
    have h := List.takeWhile_append_dropWhile (p := CodePoint.isAsciiDigit) (l := s ++ rest)
    rw [htake] at h
    exact List.append_cancel_left h
  rw [asciiDigits, htake, hdrop]

theorem integerPart?_ofNat (n : ℕ) {rest : Text} (hrest : Stops rest) :
    integerPart? (Text.ofNat n ++ rest) = some ((Text.ofNat n).map (·.val - 0x30), rest) := by
  obtain ⟨c, t, hct⟩ := List.exists_cons_of_ne_nil (ofNat_ne_nil n)
  have hdigits : ∀ d ∈ c :: t, d.isAsciiDigit = true := fun d hd =>
    isAsciiDigit_of_mem_ofNat (hct ▸ hd)
  by_cases hn : n = 0
  · subst hn
    rfl
  · have hc : c ≠ CodePoint.ofChar '0' := head?_ofNat_ne hn c (by rw [hct]; rfl)
    rw [hct, List.cons_append, integerPart?, if_neg hc, if_pos (hdigits c List.mem_cons_self),
      ← List.cons_append, asciiDigits_append hdigits hrest]

theorem fractionPart?_of_stops {rest : Text} (hrest : Stops rest) : fractionPart? rest = none := by
  match rest with
  | [] => rfl
  | [c] => rfl
  | c :: d :: t =>
      have hc : c ≠ CodePoint.ofChar '.' := by
        rintro rfl
        exact absurd (hrest _ rfl) (by decide)
      simp [fractionPart?, hc]

theorem exponentPart?_of_stops {rest : Text} (hrest : Stops rest) : exponentPart? rest = none := by
  cases rest with
  | nil => rfl
  | cons c t =>
      have hc : c ≠ CodePoint.ofChar 'e' ∧ c ≠ CodePoint.ofChar 'E' := by
        constructor <;> rintro rfl <;> exact absurd (hrest _ rfl) (by decide)
      simp [exponentPart?, hc.1, hc.2]

/-- An integer is read back, unless it has too many digits. -/
theorem readNumber_ofInt (n : ℤ) {rest : Text} (hrest : Stops rest) :
    readNumber (Text.ofInt n ++ rest) = if canWrite n then .ok (.int n, rest)
      else .error (.longInteger (Text.ofNat n.natAbs).length) := by
  have hlong : ∀ m : ℕ, integerDigitLimit < (Text.ofNat m).length ↔
      ¬ (Text.ofNat m).length ≤ integerDigitLimit := fun m => Nat.not_le.symm
  cases n with
  | ofNat m =>
      obtain ⟨c, t, hct⟩ := List.exists_cons_of_ne_nil (ofNat_ne_nil m)
      have hc : c ≠ CodePoint.ofChar '-' := by
        rintro rfl
        have := isAsciiDigit_of_mem_ofNat (hct ▸ List.mem_cons_self : _ ∈ Text.ofNat m)
        revert this
        decide
      have hbody : integerPart? (c :: (t ++ rest)) =
          some ((Text.ofNat m).map (·.val - 0x30), rest) := by
        rw [← List.cons_append, ← hct]
        exact integerPart?_ofNat m hrest
      rw [Text.ofInt, hct, List.cons_append, readNumber]
      simp only [if_neg hc, hbody, fractionPart?_of_stops hrest, Option.getD_none,
        exponentPart?_of_stops hrest, List.isEmpty_nil, if_true, List.length_map, hlong,
        natOfDigits_ofNat, canWrite, decide_eq_true_eq, Int.natAbs_ofNat']
      rw [ite_not]
      rfl
  | negSucc m =>
      have hbody := integerPart?_ofNat (m + 1) hrest
      rw [Text.ofInt, List.cons_append, readNumber]
      simp only [if_true, hbody, fractionPart?_of_stops hrest, Option.getD_none,
        exponentPart?_of_stops hrest, List.isEmpty_nil, List.length_map, hlong,
        natOfDigits_ofNat, canWrite, decide_eq_true_eq, Int.natAbs_negSucc]
      rw [ite_not]
      rfl

/-! ## What a value begins with -/

theorem compact_arr (items : List Json) :
    (Json.arr items).compact =
      CodePoint.ofChar '[' :: (compactItems items ++ [CodePoint.ofChar ']']) := rfl

theorem compact_obj (members : List (Text × Json)) :
    (Json.obj members).compact =
      CodePoint.ofChar '\x7b' :: (compactMembers members ++ [CodePoint.ofChar '\x7d']) := rfl

/-- Whether a text begins with a code point that is no white space and closes nothing. -/
def BeginsPart (t : Text) : Prop :=
  ∃ c u, t = c :: u ∧ isSpace c = false ∧ c ≠ CodePoint.ofChar ']' ∧ c ≠ CodePoint.ofChar '\x7d'

theorem BeginsPart.append {t : Text} (h : BeginsPart t) (rest : Text) : BeginsPart (t ++ rest) := by
  obtain ⟨c, u, rfl, hc⟩ := h
  exact ⟨c, u ++ rest, rfl, hc⟩

theorem skipSpace_of_beginsPart {t : Text} (h : BeginsPart t) : skipSpace t = t := by
  obtain ⟨c, u, rfl, hc, -⟩ := h
  rw [skipSpace, List.dropWhile_cons_of_neg (by simp [hc])]

/-- The blank that separates two parts is skipped. -/
theorem skipSpace_blank {t : Text} (h : BeginsPart t) :
    skipSpace (CodePoint.ofChar ' ' :: t) = t := skipSpace_of_beginsPart h

theorem ne_of_isAsciiDigit {c d : CodePoint} (hc : c.isAsciiDigit = true)
    (hd : d.isAsciiDigit = false) : c ≠ d := by
  rintro rfl
  rw [hd] at hc
  cases hc

theorem beginsPart_of_isAsciiDigit {c : CodePoint} (hc : c.isAsciiDigit = true) (t : Text) :
    BeginsPart (c :: t) := by
  have hne : ∀ d : Char, (CodePoint.ofChar d).isAsciiDigit = false → c ≠ CodePoint.ofChar d :=
    fun d => ne_of_isAsciiDigit hc
  refine ⟨c, t, rfl, ?_, hne _ (by decide), hne _ (by decide)⟩
  simp [isSpace, hne ' ' (by decide), hne '\t' (by decide), hne '\n' (by decide),
    hne '\r' (by decide)]

/-- An integer begins with a digit, or with a minus sign and a digit. -/
theorem ofInt_eq (n : ℤ) : ∃ c t, c.isAsciiDigit = true ∧
    (Text.ofInt n = c :: t ∨ Text.ofInt n = CodePoint.ofChar '-' :: c :: t) := by
  have hdigits : ∀ m : ℕ, ∃ c t, c.isAsciiDigit = true ∧ Text.ofNat m = c :: t := by
    intro m
    obtain ⟨c, t, hct⟩ := List.exists_cons_of_ne_nil (ofNat_ne_nil m)
    exact ⟨c, t, isAsciiDigit_of_mem_ofNat (hct ▸ List.mem_cons_self), hct⟩
  cases n with
  | ofNat m =>
      obtain ⟨c, t, hc, hct⟩ := hdigits m
      exact ⟨c, t, hc, Or.inl hct⟩
  | negSucc m =>
      obtain ⟨c, t, hc, hct⟩ := hdigits (m + 1)
      exact ⟨c, t, hc, Or.inr (congrArg _ hct)⟩

theorem beginsPart_ofInt (n : ℤ) : BeginsPart (Text.ofInt n) := by
  obtain ⟨c, t, hc, hct | hct⟩ := ofInt_eq n
  · rw [hct]
    exact beginsPart_of_isAsciiDigit hc t
  · rw [hct]
    exact ⟨_, _, rfl, by decide⟩

theorem IsPlain.beginsPart {j : Json} (h : IsPlain j) : BeginsPart j.compact := by
  cases h with
  | null => exact ⟨_, _, rfl, by decide⟩
  | bool b => cases b <;> exact ⟨_, _, rfl, by decide⟩
  | int => exact beginsPart_ofInt _
  | str | arr | obj => exact ⟨_, _, rfl, by decide⟩

/-! ## Values that are no lists or objects -/

variable {room depth : ℕ} {rest : Text}

theorem dropStart?_eq_none {c d : CodePoint} (h : d ≠ c) (t start : Text) :
    dropStart? (c :: t) (d :: start) = none := by
  rw [dropStart?, if_neg h]

theorem readWord?_null : readWord? (Json.null.compact ++ rest) = some (.null, rest) := by
  simp only [readWord?, words, compact, List.findSome?_cons, dropStart?_append]
  rfl

theorem readWord?_bool (b : Bool) : readWord? ((Json.bool b).compact ++ rest) = some (.bool b, rest) := by
  cases b with
  | false =>
      simp only [readWord?, words, compact, boolText, List.findSome?_cons, Bool.false_eq_true,
        if_false, dropStart?_append]
      rfl
  | true =>
      simp only [readWord?, words, compact, boolText, List.findSome?_cons, if_true,
        dropStart?_append]
      rfl

/-- An integer is taken for none of the words. -/
theorem readWord?_ofInt (n : ℤ) (rest : Text) : readWord? (Text.ofInt n ++ rest) = none := by
  obtain ⟨c, t, hc, hct⟩ := ofInt_eq n
  have hne : ∀ d : CodePoint, d.isAsciiDigit = false → d ≠ c :=
    fun d hd => (ne_of_isAsciiDigit hc hd).symm
  have hminus : ∀ d : CodePoint, d.isAsciiDigit = false → ∀ start u,
      dropStart? (CodePoint.ofChar '-' :: c :: u) (CodePoint.ofChar '-' :: d :: start) = none := by
    intro d hd start u
    rw [dropStart?, if_pos rfl, dropStart?_eq_none (hne d hd)]
  rw [readWord?, List.findSome?_eq_none_iff]
  intro w hw
  rw [Option.map_eq_none_iff]
  simp only [words, List.mem_cons, List.not_mem_nil, or_false] at hw
  rcases hct with hct | hct
  · -- no word begins with a digit
    rw [hct]
    rcases hw with rfl | rfl | rfl | rfl | rfl | rfl <;>
      exact dropStart?_eq_none (hne _ (by decide)) _ _
  · -- only the last word begins with a minus sign, and no digit follows
    rw [hct]
    rcases hw with rfl | rfl | rfl | rfl | rfl | rfl
    case inr.inr.inr.inr.inr => exact hminus _ (by decide) _ _
    all_goals exact dropStart?_eq_none (by decide) _ _

theorem readValue_word {t : Text} {j : Json} (h : readWord? t = some (j, rest))
    (hbegin : ∃ c u, t = c :: u ∧ c ≠ '"' ∧ c ≠ '[' ∧ c ≠ '\x7b') :
    readValue room (depth + 1) t = .ok (j, rest) := by
  obtain ⟨c, u, rfl, hquote, hbracket, hbrace⟩ := hbegin
  rw [readValue.eq_def]
  simp only [if_neg hquote, if_neg hbracket, if_neg hbrace, h]

theorem readValue_ofInt (n : ℤ) (hrest : Stops rest) :
    readValue room (depth + 1) (Text.ofInt n ++ rest) = if canWrite n then .ok (.int n, rest)
      else .error (.longInteger (Text.ofNat n.natAbs).length) := by
  obtain ⟨c, u, hcu, hquote, hbracket, hbrace⟩ : ∃ c u, Text.ofInt n = c :: u ∧
      c ≠ '"' ∧ c ≠ '[' ∧ c ≠ '\x7b' := by
    obtain ⟨c, t, hc, hct | hct⟩ := ofInt_eq n
    · exact ⟨c, t, hct, ne_of_isAsciiDigit hc (by decide), ne_of_isAsciiDigit hc (by decide),
        ne_of_isAsciiDigit hc (by decide)⟩
    · exact ⟨_, _, hct, by decide, by decide, by decide⟩
  have hword := readWord?_ofInt n rest
  have hnumber := readNumber_ofInt n hrest
  rw [hcu, List.cons_append] at hword hnumber ⊢
  rw [readValue.eq_def]
  simp only [if_neg hquote, if_neg hbracket, if_neg hbrace, hword, hnumber]

theorem joined_of_isScalar {t : Text} (ht : t.isScalar = true) : t.joined = t := by
  have hall : ∀ c ∈ t, c.isHighSurrogate = false := by
    intro c hc
    have hnot : (!c.isSurrogate) = true := List.all_eq_true.mp ht c hc
    exact isHighSurrogate_of_not (by simpa using hnot)
  rw [joined_eq_self_iff, Text.IsJoined, List.isChain_iff_getElem]
  intro i hi
  rw [hall _ (List.getElem_mem _), Bool.false_and]
  exact Bool.false_ne_true

/-- Quoted text without surrogates is read back from behind its opening quote. -/
theorem readString_of_isScalar {t : Text} (ht : t.isScalar = true) (opening rest : Text) :
    ∃ u, t.quote ++ rest = CodePoint.ofChar '"' :: u ∧ readString opening u = .ok (t, rest) := by
  refine ⟨t.flatMap quoteCodePoint ++ CodePoint.ofChar '"' :: rest, ?_, ?_⟩
  · rw [quote, List.append_assoc, List.append_assoc]
    rfl
  · rw [readString_quote, joined_of_isScalar ht]

theorem readValue_str {t : Text} (ht : t.isScalar = true) :
    readValue room (depth + 1) (t.quote ++ rest) = .ok (.str t, rest) := by
  obtain ⟨u, hu, hread⟩ := readString_of_isScalar ht (t.quote ++ rest) rest
  rw [hu] at hread ⊢
  rw [readValue.eq_def]
  simp only [if_true, hread]
  rfl

/-! ## Lists -/

theorem compactItems_cons_cons (item next : Json) (items : List Json) :
    compactItems (item :: next :: items) =
      item.compact ++ (comma ++ compactItems (next :: items)) := by
  rw [compactItems, List.append_assoc]
  · rfl
  · simp

theorem beginsPart_compactItems {item : Json} (h : BeginsPart item.compact) (items : List Json) :
    BeginsPart (compactItems (item :: items)) := by
  cases items with
  | nil => exact h
  | cons next items =>
      rw [compactItems_cons_cons]
      exact h.append _

theorem readItems_last {t : Text} {item : Json}
    (h : readValue room depth t = .ok (item, CodePoint.ofChar ']' :: rest)) :
    readItems room (depth + 1) t = .ok ([item], rest) := by
  rw [readItems, h]
  rfl

theorem readItems_more {t : Text} {item : Json} (hrest : BeginsPart rest)
    (h : readValue room depth t = .ok (item, comma ++ rest)) :
    readItems room (depth + 1) t = (readItems room depth rest).map fun r => (item :: r.1, r.2) := by
  rw [readItems, h]
  show (readItems room depth (skipSpace (CodePoint.ofChar ' ' :: rest))).map _ = _
  rw [skipSpace_blank hrest]

theorem readValue_arr_nil :
    readValue (room + 1) (depth + 1) ((Json.arr []).compact ++ rest) = .ok (.arr [], rest) := rfl

theorem readValue_arr {t : Text} (ht : BeginsPart t) :
    readValue (room + 1) (depth + 1) (CodePoint.ofChar '[' :: t) =
      (readItems room depth t).map fun r => (.arr r.1, r.2) := by
  have hskip := skipSpace_of_beginsPart ht
  obtain ⟨c, u, rfl, -, hc, -⟩ := ht
  have hquote : ¬ CodePoint.ofChar '[' = CodePoint.ofChar '"' := by decide
  rw [readValue.eq_def]
  simp only [if_neg hquote, if_true, hskip, if_neg hc]

/-! ## Objects -/

/-- A member as the compact form has it. -/
def memberText (member : Text × Json) : Text :=
  member.1.quote ++ (ofString ": " ++ member.2.compact)

theorem compactMembers_singleton (member : Text × Json) :
    compactMembers [member] = memberText member := by
  rw [compactMembers, memberText, List.append_assoc]

theorem compactMembers_cons_cons (member next : Text × Json) (members : List (Text × Json)) :
    compactMembers (member :: next :: members) =
      memberText member ++ (comma ++ compactMembers (next :: members)) := by
  have hcomma : ofString ", " = comma := rfl
  rw [compactMembers, memberText, hcomma]
  · simp only [List.append_assoc]
  · simp

theorem beginsPart_memberText (member : Text × Json) : BeginsPart (memberText member) :=
  ⟨_, _, rfl, by decide⟩

theorem beginsPart_compactMembers (member : Text × Json) (members : List (Text × Json)) :
    BeginsPart (compactMembers (member :: members)) := by
  cases members with
  | nil =>
      rw [compactMembers_singleton]
      exact beginsPart_memberText member
  | cons next members =>
      rw [compactMembers_cons_cons]
      exact (beginsPart_memberText member).append _

/-- What is read of a member after its name and the colon. -/
def behindName (room depth : ℕ) (name : Text) (before : List (Text × Json))
    (r : Json × Text) : Except Stop (List (Text × Json) × Text) :=
  match skipSpace r.2 with
  | [] => .error (.fault .comma [])
  | d :: rest =>
    if d = '\x7d' then .ok (assign name r.1 before, rest)
    else if d = ',' then readMembers room depth (assign name r.1 before) (skipSpace rest)
    else .error (.fault .comma (d :: rest))

theorem readMembers_name {name t : Text} (hname : name.isScalar = true) (ht : BeginsPart t)
    (before : List (Text × Json)) :
    readMembers room (depth + 1) before (name.quote ++ (ofString ": " ++ t)) =
      readValue room depth t >>= behindName room depth name before := by
  obtain ⟨u, hu, hread⟩ := readString_of_isScalar hname
    (name.quote ++ (ofString ": " ++ t)) (ofString ": " ++ t)
  have hquote : ¬ CodePoint.ofChar '"' ≠ CodePoint.ofChar '"' := by simp
  have hcolon : ¬ CodePoint.ofChar ':' ≠ CodePoint.ofChar ':' := by simp
  have hafter : skipSpace (ofString ": " ++ t) = CodePoint.ofChar ':' :: CodePoint.ofChar ' ' :: t :=
    rfl
  rw [hu] at hread ⊢
  rw [readMembers]
  simp only [if_neg hquote, hread, bind, Except.bind, hafter, if_neg hcolon, skipSpace_blank ht]
  rfl

variable {member : Text × Json} {before : List (Text × Json)}

theorem readMembers_last (hname : member.1.isScalar = true)
    (hbegin : BeginsPart member.2.compact)
    (h : readValue room depth (member.2.compact ++ CodePoint.ofChar '\x7d' :: rest) =
      .ok (member.2, CodePoint.ofChar '\x7d' :: rest)) :
    readMembers room (depth + 1) before (memberText member ++ CodePoint.ofChar '\x7d' :: rest) =
      .ok (assign member.1 member.2 before, rest) := by
  rw [memberText, List.append_assoc, List.append_assoc,
    readMembers_name hname (hbegin.append _), h]
  rfl

theorem readMembers_more (hname : member.1.isScalar = true) (hbegin : BeginsPart member.2.compact)
    (hrest : BeginsPart rest)
    (h : readValue room depth (member.2.compact ++ (comma ++ rest)) =
      .ok (member.2, comma ++ rest)) :
    readMembers room (depth + 1) before (memberText member ++ (comma ++ rest)) =
      readMembers room depth (assign member.1 member.2 before) rest := by
  rw [memberText, List.append_assoc, List.append_assoc,
    readMembers_name hname (hbegin.append _), h]
  show readMembers room depth _ (skipSpace (CodePoint.ofChar ' ' :: rest)) = _
  rw [skipSpace_blank hrest]

/-- A fault of a value is that of the object around it. -/
theorem readMembers_error {e : Stop} (hname : member.1.isScalar = true)
    (hbegin : BeginsPart member.2.compact)
    (h : readValue room depth (member.2.compact ++ rest) = .error e) :
    readMembers room (depth + 1) before (memberText member ++ rest) = .error e := by
  rw [memberText, List.append_assoc, List.append_assoc,
    readMembers_name hname (hbegin.append _), h]
  rfl

theorem readValue_obj_nil :
    readValue (room + 1) (depth + 1) ((Json.obj []).compact ++ rest) = .ok (.obj [], rest) := rfl

theorem readValue_obj {t : Text} (ht : BeginsPart t) :
    readValue (room + 1) (depth + 1) (CodePoint.ofChar '\x7b' :: t) =
      (readMembers room depth [] t).map fun r => (.obj r.1, r.2) := by
  have hskip := skipSpace_of_beginsPart ht
  obtain ⟨c, u, rfl, -, -, hc⟩ := ht
  have hquote : ¬ CodePoint.ofChar '\x7b' = CodePoint.ofChar '"' := by decide
  have hbracket : ¬ CodePoint.ofChar '\x7b' = CodePoint.ofChar '[' := by decide
  rw [readValue.eq_def]
  simp only [if_neg hquote, if_neg hbracket, if_true, hskip, if_neg hc]

/-! ## Reading back -/

/-- Whether a value is read back from the beginning of any text, given room for its nesting and
two calls for each code point of its compact form. -/
def ReadsBack (j : Json) : Prop :=
  ∀ (room depth : ℕ) (rest : Text), j.nesting ≤ room → 2 * j.compact.length ≤ depth + 1 →
    Stops rest → readValue room depth (j.compact ++ rest) = .ok (j, rest)

theorem IsPlain.length_pos {j : Json} (h : IsPlain j) : 0 < j.compact.length := by
  obtain ⟨c, u, hcu, -⟩ := h.beginsPart
  rw [hcu]
  exact Nat.succ_pos _

/-- No value is empty, so there is a call for it. -/
theorem IsPlain.exists_deeper {j : Json} (h : IsPlain j)
    (hdepth : 2 * j.compact.length ≤ depth + 1) : ∃ d, depth = d + 1 :=
  ⟨depth - 1, by have := h.length_pos; omega⟩

/-- The items of a list are read one after another, each by a call that goes one less deep. -/
theorem readItems_compact {item : Json} {items : List Json}
    (h : ∀ j ∈ item :: items, IsPlain j ∧ ReadsBack j)
    (hroom : nestingOfItems (item :: items) ≤ room)
    (hdepth : 2 * (compactItems (item :: items)).length ≤ depth) :
    readItems room depth (compactItems (item :: items) ++ CodePoint.ofChar ']' :: rest) =
      .ok (item :: items, rest) := by
  induction items generalizing item depth with
  | nil =>
      obtain ⟨hplain, hback⟩ := h item List.mem_cons_self
      have hpos := hplain.length_pos
      have hitem : item.nesting ≤ room := le_trans (le_max_left _ _) hroom
      rw [compactItems] at hdepth ⊢
      obtain ⟨depth, rfl⟩ : ∃ d, depth = d + 1 := ⟨depth - 1, by omega⟩
      exact readItems_last (hback room depth _ hitem hdepth (stops_cons (by decide) rest))
  | cons next items ih =>
      obtain ⟨hplain, hback⟩ := h item List.mem_cons_self
      have hpos := hplain.length_pos
      have hitem : item.nesting ≤ room := le_trans (le_max_left _ _) hroom
      have hitems : nestingOfItems (next :: items) ≤ room := le_trans (le_max_right _ _) hroom
      have hnext := beginsPart_compactItems (h next (by simp)).1.beginsPart items
      rw [compactItems_cons_cons] at hdepth ⊢
      simp only [List.length_append] at hdepth
      obtain ⟨depth, rfl⟩ : ∃ d, depth = d + 1 := ⟨depth - 1, by omega⟩
      -- two units of depth for each code point leave one for this item and enough for the others
      have hread := hback room depth
        (comma ++ (compactItems (next :: items) ++ CodePoint.ofChar ']' :: rest)) hitem (by omega)
        (stops_cons (by decide) _)
      rw [List.append_assoc, List.append_assoc, readItems_more (hnext.append _) hread,
        ih (fun j hj => h j (List.mem_cons_of_mem item hj)) hitems (by omega)]
      rfl

/-- A member with a new name is set behind the others. -/
theorem assign_of_nodup {members : List (Text × Json)}
    (h : ((before ++ member :: members).map Prod.fst).Nodup) :
    assign member.1 member.2 before = before ++ [member] := by
  refine assign_of_not_mem fun hmem => ?_
  rw [List.map_append, List.nodup_append] at h
  exact h.2.2 _ hmem _ List.mem_cons_self rfl

/-- The members of an object are read in their order, since each name is new when it is read. -/
theorem readMembers_compact {members : List (Text × Json)}
    (h : ∀ m ∈ member :: members, m.1.isScalar = true ∧ IsPlain m.2 ∧ ReadsBack m.2)
    (hnew : ((before ++ member :: members).map Prod.fst).Nodup)
    (hroom : nestingOfMembers (member :: members) ≤ room)
    (hdepth : 2 * (compactMembers (member :: members)).length ≤ depth) :
    readMembers room depth before
        (compactMembers (member :: members) ++ CodePoint.ofChar '\x7d' :: rest) =
      .ok (before ++ member :: members, rest) := by
  have hassign := assign_of_nodup hnew
  induction members generalizing member before depth with
  | nil =>
      obtain ⟨hname, hplain, hback⟩ := h member List.mem_cons_self
      have hvalue : member.2.nesting ≤ room := le_trans (le_max_left _ _) hroom
      rw [compactMembers_singleton] at hdepth ⊢
      simp only [memberText, List.length_append] at hdepth
      have hpos := hplain.length_pos
      obtain ⟨depth, rfl⟩ : ∃ d, depth = d + 1 := ⟨depth - 1, by omega⟩
      have hread := hback room depth (CodePoint.ofChar '\x7d' :: rest) hvalue (by omega)
        (stops_cons (by decide) rest)
      rw [readMembers_last hname hplain.beginsPart hread, hassign]
  | cons next members ih =>
      obtain ⟨hname, hplain, hback⟩ := h member List.mem_cons_self
      have hvalue : member.2.nesting ≤ room := le_trans (le_max_left _ _) hroom
      have hvalues : nestingOfMembers (next :: members) ≤ room := le_trans (le_max_right _ _) hroom
      have hnext := beginsPart_compactMembers next members
      rw [compactMembers_cons_cons] at hdepth ⊢
      simp only [memberText, List.length_append] at hdepth
      have hpos := hplain.length_pos
      obtain ⟨depth, rfl⟩ : ∃ d, depth = d + 1 := ⟨depth - 1, by omega⟩
      have hread := hback room depth
        (comma ++ (compactMembers (next :: members) ++ CodePoint.ofChar '\x7d' :: rest)) hvalue
        (by omega) (stops_cons (by decide) _)
      -- the member that was read joins the ones before it, for which the hypothesis is general
      have hshift : before ++ member :: next :: members =
          before ++ [member] ++ next :: members := by simp
      rw [hshift] at hnew ⊢
      rw [List.append_assoc, List.append_assoc,
        readMembers_more hname hplain.beginsPart (hnext.append _) hread, hassign]
      exact ih (fun m hm => h m (List.mem_cons_of_mem member hm)) hnew hvalues (by omega)
        (assign_of_nodup hnew)

theorem readsBack_arr {items : List Json} (hitems : ∀ item ∈ items, IsPlain item)
    (hback : ∀ item ∈ items, ReadsBack item) : ReadsBack (.arr items) := by
  intro room depth rest hroom hdepth _
  obtain ⟨depth, rfl⟩ := (IsPlain.arr hitems).exists_deeper hdepth
  obtain ⟨room, rfl⟩ : ∃ r, room = r + 1 := ⟨room - 1, by rw [nesting] at hroom; omega⟩
  cases items with
  | nil => exact readValue_arr_nil
  | cons item items =>
      have hbegin := beginsPart_compactItems (hitems item List.mem_cons_self).beginsPart items
      rw [nesting] at hroom
      rw [compact_arr] at hdepth ⊢
      simp only [List.length_cons, List.length_append] at hdepth
      have hread : readItems room depth
          (compactItems (item :: items) ++ CodePoint.ofChar ']' :: rest) =
            .ok (item :: items, rest) :=
        readItems_compact (fun j hj => ⟨hitems j hj, hback j hj⟩) (by omega) (by omega)
      rw [List.cons_append, List.append_assoc, List.singleton_append,
        readValue_arr (hbegin.append _), hread]
      rfl

theorem readsBack_obj {members : List (Text × Json)}
    (hnames : ∀ member ∈ members, member.1.isScalar = true) (hdistinct : (members.map Prod.fst).Nodup)
    (hvalues : ∀ member ∈ members, IsPlain member.2)
    (hback : ∀ member ∈ members, ReadsBack member.2) : ReadsBack (.obj members) := by
  intro room depth rest hroom hdepth _
  obtain ⟨depth, rfl⟩ := (IsPlain.obj hnames hdistinct hvalues).exists_deeper hdepth
  obtain ⟨room, rfl⟩ : ∃ r, room = r + 1 := ⟨room - 1, by rw [nesting] at hroom; omega⟩
  cases members with
  | nil => exact readValue_obj_nil
  | cons member members =>
      have hbegin := beginsPart_compactMembers member members
      rw [nesting] at hroom
      rw [compact_obj] at hdepth ⊢
      simp only [List.length_cons, List.length_append] at hdepth
      have hread : readMembers room depth []
          (compactMembers (member :: members) ++ CodePoint.ofChar '\x7d' :: rest) =
            .ok ([] ++ member :: members, rest) :=
        readMembers_compact (fun m hm => ⟨hnames m hm, hvalues m hm, hback m hm⟩) hdistinct
          (by omega) (by omega)
      rw [List.cons_append, List.append_assoc, List.singleton_append,
        readValue_obj (hbegin.append _), hread]
      rfl

/-- **A plain value is read back from the beginning of any text.** -/
theorem IsPlain.readsBack {j : Json} (h : IsPlain j) : ReadsBack j := by
  induction h with
  | null =>
      intro room depth rest _ hdepth _
      obtain ⟨depth, rfl⟩ := IsPlain.null.exists_deeper hdepth
      exact readValue_word readWord?_null ⟨_, _, rfl, by decide⟩
  | bool b =>
      intro room depth rest _ hdepth _
      obtain ⟨depth, rfl⟩ := (IsPlain.bool b).exists_deeper hdepth
      refine readValue_word (readWord?_bool b) ?_
      cases b <;> exact ⟨_, _, rfl, by decide⟩
  | int hn =>
      intro room depth rest _ hdepth hrest
      obtain ⟨depth, rfl⟩ := (IsPlain.int hn).exists_deeper hdepth
      exact (readValue_ofInt _ hrest).trans (if_pos (decide_eq_true hn))
  | str ht =>
      intro room depth rest _ hdepth _
      obtain ⟨depth, rfl⟩ := (IsPlain.str ht).exists_deeper hdepth
      exact readValue_str ht
  | arr hitems ih => exact readsBack_arr hitems ih
  | obj hnames hdistinct hvalues ih => exact readsBack_obj hnames hdistinct hvalues ih

/-- **A text that is a plain value in the compact form is read as that value.** -/
theorem IsPlain.readWithin_compact {j : Json} (h : IsPlain j) (hroom : j.nesting ≤ room) :
    readWithin room j.compact = .ok j := by
  have hread := h.readsBack room (2 * j.compact.length + 2) [] hroom (by omega) stops_nil
  rw [List.append_nil] at hread
  have hwhole : readWhole room j.compact = .ok j := by
    rw [readWhole, skipSpace_of_beginsPart h.beginsPart, hread]
    rfl
  rw [readWithin, hwhole]

/-! ## Integers that are too long -/

/-- A text is refused for an integer that a value it begins with is refused for. -/
theorem readWithin_eq_longInteger {t : Text} {digits : ℕ} (ht : BeginsPart t)
    (h : readValue room (2 * t.length + 2) t = .error (.longInteger digits)) :
    readWithin room t = .error (.longInteger digits) := by
  have hwhole : readWhole room t = .error (.longInteger digits) := by
    rw [readWhole, skipSpace_of_beginsPart ht, h]
    rfl
  rw [readWithin, hwhole]

variable {n : ℤ}

/-- What cannot be written is not read either. -/
theorem readWithin_ofInt (room : ℕ) (hn : canWrite n = false) :
    readWithin room (Text.ofInt n) = .error (.longInteger (Text.ofNat n.natAbs).length) := by
  refine readWithin_eq_longInteger (beginsPart_ofInt n) ?_
  have hread : readValue room (2 * (Text.ofInt n).length + 1 + 1) (Text.ofInt n ++ []) = _ :=
    readValue_ofInt n stops_nil
  rw [hn, if_neg Bool.false_ne_true, List.append_nil] at hread
  exact hread

/-- An object is not read if its last member is an integer that cannot be written. -/
theorem readWithin_obj_ofInt {name : Text} (hmember : member.1.isScalar = true)
    (hplain : IsPlain member.2) (hroom : member.2.nesting ≤ room) (hname : name.isScalar = true)
    (hn : canWrite n = false) : readWithin (room + 1) (Json.obj [member, (name, .int n)]).compact =
      .error (.longInteger (Text.ofNat n.natAbs).length) := by
  have hcompact : (Json.obj [member, (name, .int n)]).compact = CodePoint.ofChar '\x7b' ::
      (memberText member ++ (comma ++ (memberText (name, .int n) ++ [CodePoint.ofChar '\x7d']))) := by
    rw [compact_obj, compactMembers_cons_cons, compactMembers_singleton, List.append_assoc,
      List.append_assoc]
  -- two units of depth for each code point are more than four calls need
  obtain ⟨depth, hdepth, hvalue⟩ : ∃ depth,
      2 * (Json.obj [member, (name, .int n)]).compact.length + 2 = depth + 4 ∧
        2 * member.2.compact.length ≤ depth + 3 := by
    have hlength : member.2.compact.length + 1 ≤
        (Json.obj [member, (name, .int n)]).compact.length := by
      rw [hcompact]
      simp only [memberText, List.length_cons, List.length_append]
      omega
    exact ⟨2 * (Json.obj [member, (name, .int n)]).compact.length - 2, by omega, by omega⟩
  have hfirst := hplain.readsBack room (depth + 2)
    (comma ++ (memberText (name, .int n) ++ [CodePoint.ofChar '\x7d'])) hroom hvalue
    (stops_cons (by decide) _)
  have hint : readValue room (depth + 1) ((Json.int n).compact ++ [CodePoint.ofChar '\x7d']) =
      .error (.longInteger (Text.ofNat n.natAbs).length) := by
    refine (readValue_ofInt n (stops_cons (by decide) [])).trans ?_
    rw [hn, if_neg Bool.false_ne_true]
  have hlast : readMembers room (depth + 2) (assign member.1 member.2 [])
      (memberText (name, .int n) ++ [CodePoint.ofChar '\x7d']) = .error _ :=
    readMembers_error hname (beginsPart_ofInt n) hint
  refine readWithin_eq_longInteger ⟨_, _, rfl, by decide⟩ ?_
  rw [hdepth, hcompact, readValue_obj ((beginsPart_memberText member).append _),
    readMembers_more hmember hplain.beginsPart ((beginsPart_memberText _).append _) hfirst, hlast]
  rfl

end Json

end CallBindings
