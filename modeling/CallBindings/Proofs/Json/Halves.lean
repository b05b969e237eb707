import CallBindings.Proofs.Json.Members
import CallBindings.Proofs.Json.Quoted
import CallBindings.Proofs.Json.Reading
import CallBindings.Proofs.Json.Writable
import CallBindings.Proofs.Text.Split

set_option autoImplicit false

/-! # Texts in decoded JSON are joined

A JSON text without surrogates can write a surrogate only as an escape, and an escape of a first
half that is followed by one of a second half is read as the one code point of the pair. So no
halves of a pair stand next to each other in the texts of a value that was read. What is shown
of strings carries over to the members of an object because whatever is read goes on with the end
of the text that it began with.
-/

namespace CallBindings

open Text

theorem isJoined_cons {c : CodePoint} {t : Text} (ht : t.IsJoined)
    (hc : c.isHighSurrogate = true → ∀ d ∈ t.head?, d.isLowSurrogate = false) :
    Text.IsJoined (c :: t) := by
  cases t with
  | nil => simp [Text.IsJoined]
  | cons d t =>
      refine List.isChain_cons_cons.mpr ⟨fun hpair => ?_, ht⟩
      obtain ⟨hhigh, hlow⟩ := Bool.and_eq_true_iff.mp hpair
      rw [hc hhigh d (by simp)] at hlow
      cases hlow

namespace Json

/-! ## Escapes -/

/-- Whether the escape of a second half stands at the beginning of a text, with more behind it. -/
def BeginsLow (t : Text) : Prop :=
  ∃ e f g h x more m, t = CodePoint.ofChar '\\' :: CodePoint.ofChar 'u' ::
    e :: f :: g :: h :: x :: more ∧ hex4? e f g h = some m ∧ isLow m = true

theorem hexValue?_lt {c : CodePoint} {n : ℕ} (h : c.hexValue? = some n) : n < 16 := by
  rw [CodePoint.hexValue?] at h
  split_ifs at h with h1 h2 h3 <;> simp only [Bool.and_eq_true, decide_eq_true_eq] at * <;>
    cases h <;> omega

theorem hex4?_lt {a b c d : CodePoint} {n : ℕ} (h : hex4? a b c d = some n) : n < 0x10000 := by
  unfold hex4? at h
  split at h
  · rename_i a' b' c' d' ha hb hc hd
    cases h
    have := hexValue?_lt ha
    have := hexValue?_lt hb
    have := hexValue?_lt hc
    have := hexValue?_lt hd
    omega
  · cases h

/-- What is known of an escape by number that was read. -/
inductive EscapeRead : Text → UnicodeEscape → Prop
  | bad {t here : Text} : EscapeRead t (.bad here)
  | single {v a b c d : CodePoint} {rest : Text} {n : ℕ} : hex4? a b c d = some n → rest ≠ [] →
      EscapeRead (v :: a :: b :: c :: d :: rest) (.single n)
  | pair {t : Text} {high low n : ℕ} : isHigh high = true → isLow low = true →
      n = joinPair high low → EscapeRead t (.pair n)

theorem escapeRead_unicodeEscape (t : Text) : EscapeRead t (unicodeEscape t) := by
  fun_cases unicodeEscape t with
  | case1 => exact .bad
  | case2 => exact .bad
  | case3 => exact .single ‹_› (by simp_all)
  | case4 => exact .bad
  | case5 =>
      -- a first half, and the escape of a second half behind it
      exact .pair (by simp_all) ‹_› rfl
  | case6 => exact .single ‹_› (List.cons_ne_nil _ _)
  | case7 => exact .single ‹_› (List.cons_ne_nil _ _)
  | case8 => exact .single ‹_› (by simp_all)
  | case9 => exact .bad

/-- What is read as one code point is not followed by the second half of a pair. -/
theorem of_unicodeEscape_eq_single {v a b c d : CodePoint} {rest : Text} {n : ℕ}
    (h : unicodeEscape (v :: a :: b :: c :: d :: rest) = .single n) :
    hex4? a b c d = some n ∧ rest ≠ [] ∧ (isHigh n = true → ¬ BeginsLow rest) := by
  have hread := escapeRead_unicodeEscape (v :: a :: b :: c :: d :: rest)
  rw [h] at hread
  cases hread with
  | single hn hrest =>
      refine ⟨hn, hrest, ?_⟩
      rintro hhigh ⟨e, f, g, i, x, more, m, rfl, hm, hlow⟩
      rw [unicodeEscape_eq_pair hn hm hhigh hlow] at h
      cases h

/-- The code point of a pair is no half. -/
theorem of_unicodeEscape_eq_pair {t : Text} {n : ℕ} (h : unicodeEscape t = .pair n) :
    0x10000 ≤ n ∧ n < 0x110000 := by
  have hread := escapeRead_unicodeEscape t
  rw [h] at hread
  cases hread with
  | pair hhigh hlow hn =>
      rw [hn]
      exact joinPair_bounds (by simpa [isHigh] using hhigh) (by simpa [isLow] using hlow)

/-! ## Strings -/

/-- What reading a string leaves is the end of the text. If the text has no surrogates, then the
string has no halves next to each other, and it begins with a second half only if the text begins
with the escape of one. -/
structure ReadsJoined (t : Text) (r : Text × Text) : Prop where
  suffix : r.2 <:+ t
  joined : t.isScalar = true → r.1.IsJoined
  head : t.isScalar = true → ∀ d ∈ r.1.head?, d.isLowSurrogate = true → BeginsLow t

theorem isScalar_of_suffix {s t : Text} (ht : t.isScalar = true) (h : s <:+ t) :
    s.isScalar = true := by
  rw [isScalar, List.all_eq_true] at ht ⊢
  exact fun c hc => ht c (h.subset hc)

/-- A code point that is no half may stand in front. -/
theorem ReadsJoined.cons {x : CodePoint} {t t' : Text} {r : Text × Text} (h : ReadsJoined t' r)
    (hsuffix : t' <:+ t) (hx : t.isScalar = true → x.isSurrogate = false) :
    ReadsJoined t (x :: r.1, r.2) := by
  refine ⟨h.suffix.trans hsuffix, fun hs => ?_, fun hs d hd hlow => ?_⟩
  · refine isJoined_cons (h.joined (isScalar_of_suffix hs hsuffix)) fun hhigh => ?_
    rw [isHighSurrogate_of_not (hx hs)] at hhigh
    cases hhigh
  · obtain rfl : x = d := by simpa using hd
    rw [isLowSurrogate_of_not (hx hs)] at hlow
    cases hlow

/-- An escape by a letter denotes no half. -/
theorem isSurrogate_of_escaped? {e x : CodePoint} (h : escaped? e = some x) :
    x.isSurrogate = false := by
  unfold escaped? at h
  split_ifs at h with h1
  · cases h
    simp only [Bool.or_eq_true, decide_eq_true_eq] at h1
    rcases h1 with (rfl | rfl) | rfl <;> decide
  all_goals
    cases h
    decide

/-- An escape of four digits for one code point, read before the rest of a string. -/
theorem readsJoined_of_single {a b c d : CodePoint} {t : Text} {n : ℕ} {r : Text × Text}
    (hescape : unicodeEscape (CodePoint.ofChar 'u' :: a :: b :: c :: d :: t) = .single n)
    (hread : ReadsJoined t r) :
    ReadsJoined (CodePoint.ofChar '\\' :: CodePoint.ofChar 'u' :: a :: b :: c :: d :: t)
      (CodePoint.ofNat n :: r.1, r.2) := by
  obtain ⟨hn, hrest, hbehind⟩ := of_unicodeEscape_eq_single hescape
  have hval : (CodePoint.ofNat n).val = n := CodePoint.val_ofNat (by have := hex4?_lt hn; omega)
  have hsuffix : t <:+ CodePoint.ofChar '\\' :: CodePoint.ofChar 'u' :: a :: b :: c :: d :: t :=
    ⟨[CodePoint.ofChar '\\', CodePoint.ofChar 'u', a, b, c, d], rfl⟩
  refine ⟨hread.suffix.trans hsuffix, fun hs => ?_, fun hs x hx hlow => ?_⟩
  · have ht := isScalar_of_suffix hs hsuffix
    refine isJoined_cons (hread.joined ht) fun hhigh x hx => ?_
    -- a second half behind it would have been read together with it
    by_contra hlow
    have hhigh' : isHigh n = true := by
      rw [← hval]
      exact hhigh
    exact hbehind hhigh' (hread.head ht x hx (by simpa using hlow))
  · obtain rfl : CodePoint.ofNat n = x := by simpa using hx
    obtain ⟨y, more, rfl⟩ := List.exists_cons_of_ne_nil hrest
    have hlow' : isLow n = true := by
      rw [← hval]
      exact hlow
    exact ⟨a, b, c, d, y, more, n, rfl, hn, hlow'⟩

theorem readsJoined_of_readString {opening t : Text} {r : Text × Text}
    (h : readString opening t = .ok r) : ReadsJoined t r := by
  -- what follows a code point or an escape is shorter
  induction hlength : t.length using Nat.strong_induction_on generalizing t r with
  | _ length ih =>
      subst hlength
      cases stringRead_of_readString h with
      | quote => exact ⟨List.suffix_cons _ _, fun _ => by simp [Text.IsJoined], by simp⟩
      | single hescape hread =>
          exact readsJoined_of_single hescape (ih _ (by simp; omega) hread rfl)
      | @pair _ t front n r hescape hread =>
          have hn := of_unicodeEscape_eq_pair hescape
          refine (ih _ (by simp) hread rfl).cons (List.suffix_append _ _) fun _ => ?_
          simp only [CodePoint.isSurrogate, CodePoint.val_ofNat hn.2, Bool.and_eq_false_iff,
            decide_eq_false_iff_not]
          omega
      | @letter e _ _ _ hescaped hread =>
          exact (ih _ (by simp) hread rfl).cons ⟨[_, e], rfl⟩
            fun _ => isSurrogate_of_escaped? hescaped
      | @plain c t _ hread =>
          refine (ih _ (by simp) hread rfl).cons (List.suffix_cons c t) fun hs => ?_
          have hall := List.all_eq_true.mp hs c List.mem_cons_self
          simpa using hall

/-! ## Numbers and words -/

theorem suffix_skipSpace (t : Text) : skipSpace t <:+ t := List.dropWhile_suffix isSpace

theorem suffix_of_skipSpace {t rest : Text} {c : CodePoint} (h : skipSpace t = c :: rest) :
    rest <:+ t :=
  (List.suffix_cons c rest).trans (h ▸ suffix_skipSpace t)

theorem suffix_of_integerPart? {t rest : Text} {ds : List ℕ}
    (h : integerPart? t = some (ds, rest)) : rest <:+ t := by
  cases t with
  | nil => cases h
  | cons c t =>
      rw [integerPart?] at h
      split_ifs at h
      · cases h
        exact List.suffix_cons c _
      · cases h
        exact List.dropWhile_suffix _

theorem suffix_of_fractionPart? {t rest : Text} {ds : List ℕ}
    (h : fractionPart? t = some (ds, rest)) : rest <:+ t := by
  unfold fractionPart? at h
  split at h
  · split_ifs at h
    cases h
    exact (List.dropWhile_suffix _).trans (List.suffix_cons _ _)
  · cases h

theorem suffix_signOf (s : Text) : (signOf s).2 <:+ s := by
  unfold signOf
  split
  · exact List.suffix_refl _
  · split_ifs
    · exact List.suffix_cons _ _
    · exact List.suffix_cons _ _
    · exact List.suffix_refl _

theorem suffix_of_exponentPart? {t rest : Text} {e : ℤ} (h : exponentPart? t = some (e, rest)) :
    rest <:+ t := by
  cases t with
  | nil => cases h
  | cons c s =>
      have hsign := suffix_signOf s
      rw [exponentPart?] at h
      split_ifs at h
      generalize signOf s = signed at h hsign
      obtain ⟨negative, digits⟩ := signed
      have hafter : rest = (asciiDigits digits).2 := by
        dsimp only at h
        split at h
        · cases h
        · rename_i hdigits
          cases h
          rw [hdigits]
      rw [hafter]
      exact ((List.dropWhile_suffix _).trans hsign).trans (List.suffix_cons c s)

theorem lt_of_mem_asciiDigits {t : Text} {d : ℕ} (hd : d ∈ (asciiDigits t).1) : d < 10 := by
  obtain ⟨c, hc, rfl⟩ := List.mem_map.mp hd
  have hdigit := List.mem_takeWhile_imp hc
  simp only [CodePoint.isAsciiDigit, Bool.and_eq_true, decide_eq_true_eq] at hdigit
  omega

theorem lt_of_integerPart? {t rest : Text} {ds : List ℕ} (h : integerPart? t = some (ds, rest)) :
    ∀ d ∈ ds, d < 10 := by
  cases t with
  | nil => cases h
  | cons c t =>
      rw [integerPart?] at h
      split_ifs at h
      · cases h
        simp
      · cases h
        exact fun d => lt_of_mem_asciiDigits

/-- What is read of an integer is short enough to be written again. -/
theorem canWrite_of_digits {whole : List ℕ} (hdigits : ∀ d ∈ whole, d < 10)
    (hlength : whole.length ≤ integerDigitLimit) {n : ℤ} (hn : n.natAbs = natOfDigits whole) :
    canWrite n = true := by
  rw [canWrite_iff, hn]
  calc natOfDigits whole < 10 ^ whole.length := natOfDigits_lt hdigits
    _ ≤ 10 ^ integerDigitLimit := Nat.pow_le_pow_right (by decide) hlength

/-- A number is read as one of the two kinds of number, an integer only if it can be written. -/
theorem of_readNumber {t : Text} {r : Json × Text} (h : readNumber t = .ok r) :
    r.2 <:+ t ∧ ((∃ n, canWrite n = true ∧ r.1 = .int n) ∨ ∃ x, r.1 = .float x) := by
  unfold readNumber at h
  split at h
  rename_i negative body hsign
  have hsuffix : body <:+ t := by
    split at hsign
    · split_ifs at hsign
      · cases hsign
        exact List.suffix_cons _ _
      · cases hsign
        exact List.suffix_refl _
    · cases hsign
      exact List.suffix_refl _
  dsimp only at h
  split at h
  · cases h
  · -- whatever ends the number stands behind its integer part and the fraction, if there is one
    rename_i whole afterWhole hwhole
    have hfraction : ((fractionPart? afterWhole).getD ([], afterWhole)).2 <:+ afterWhole := by
      cases hpart : fractionPart? afterWhole with
      | none => exact List.suffix_refl _
      | some part => exact suffix_of_fractionPart? hpart
    have hrest := (hfraction.trans (suffix_of_integerPart? hwhole)).trans hsuffix
    split at h
    · rename_i e rest hexponent
      cases h
      exact ⟨(suffix_of_exponentPart? hexponent).trans hrest, Or.inr ⟨_, rfl⟩⟩
    · have hdigits := lt_of_integerPart? hwhole
      split_ifs at h with hinteger hlong hnegative
      · cases h
        exact ⟨hrest, Or.inl ⟨_, canWrite_of_digits hdigits (by omega) (Int.natAbs_neg _), rfl⟩⟩
      · cases h
        exact ⟨hrest, Or.inl ⟨_, canWrite_of_digits hdigits (by omega) rfl, rfl⟩⟩
      · cases h
        exact ⟨hrest, Or.inr ⟨_, rfl⟩⟩

theorem of_readWord? {t : Text} {r : Json × Text} (h : readWord? t = some r) :
    r.2 <:+ t ∧ ∃ w ∈ words, r.1 = w.2 := by
  obtain ⟨w, hw, hdrop⟩ := List.exists_of_findSome?_eq_some h
  obtain ⟨rest, hrest, rfl⟩ := Option.map_eq_some_iff.mp hdrop
  exact ⟨⟨w.1, (dropStart?_eq_some_iff.mp hrest).symm⟩, w, hw, rfl⟩

/-! ## Values -/

/-- Whether a value that is a text has no halves next to each other. -/
def IsJoinedText (j : Json) : Prop := ∀ t, j = .str t → t.IsJoined

/-- Whether the texts that are members of an object have no halves next to each other. -/
def HasJoinedMembers (members : List (Text × Json)) : Prop := ∀ m ∈ members, IsJoinedText m.2

theorem HasJoinedMembers.assign {k : Text} {v : Json} {members : List (Text × Json)}
    (hv : IsJoinedText v) (h : HasJoinedMembers members) :
    HasJoinedMembers (assign k v members) := by
  intro m hm
  rcases mem_assign hm with hm | hm
  · exact h m hm
  · rwa [hm]

/-- What reading a value leaves is the end of the text. If the text has no surrogates, then the
value, if it is a text, and the texts that are members of it, if it is an object, have no halves
next to each other. -/
structure ReadsValue (t : Text) (r : Json × Text) : Prop where
  suffix : r.2 <:+ t
  text : t.isScalar = true → IsJoinedText r.1
  members : t.isScalar = true → ∀ members, r.1 = .obj members → HasJoinedMembers members

/-- Words and numbers, which are neither texts nor objects. -/
theorem readsValue_of_simple {t : Text} {r : Json × Text} (h : r.2 <:+ t)
    (htext : ∀ s, r.1 ≠ .str s) (hobj : ∀ members, r.1 ≠ .obj members) : ReadsValue t r :=
  ⟨h, fun _ s hs => absurd hs (htext s), fun _ members hm => absurd hm (hobj members)⟩

theorem readsValue_of_members {t rest : Text} {members : List (Text × Json)} (h : rest <:+ t)
    (hm : t.isScalar = true → HasJoinedMembers members) : ReadsValue t (.obj members, rest) where
  suffix := h
  text _ _ htext := by cases htext
  members hs _ hobj := by
    cases hobj
    exact hm hs

/-- What holds of reading values, items and members with a bound on the depth of calls. -/
structure ReadsAt (room depth : ℕ) : Prop where
  value : ∀ t r, readValue room depth t = .ok r → ReadsValue t r
  items : ∀ t r, readItems room depth t = .ok r → r.2 <:+ t
  members : ∀ members t r, readMembers room depth members t = .ok r → r.2 <:+ t ∧
    (t.isScalar = true → HasJoinedMembers members → HasJoinedMembers r.1)

theorem readsAt_zero (room : ℕ) : ReadsAt room 0 where
  value t r h := by
    rw [readValue] at h
    cases h
  items t r h := by
    rw [readItems] at h
    cases h
  members members t r h := by
    rw [readMembers] at h
    cases h

/-- A word is neither a text nor an object. -/
theorem readsValue_of_readWord? {t : Text} {r : Json × Text} (h : readWord? t = some r) :
    ReadsValue t r := by
  obtain ⟨hsuffix, w, hw, hr⟩ := of_readWord? h
  have hwords : ∀ w ∈ words, (∀ s, w.2 ≠ .str s) ∧ ∀ members, w.2 ≠ .obj members := by
    simp [words]
  exact readsValue_of_simple hsuffix (hr ▸ (hwords w hw).1) (hr ▸ (hwords w hw).2)

theorem readsValue_of_readNumber {t : Text} {r : Json × Text} (h : readNumber t = .ok r) :
    ReadsValue t r := by
  obtain ⟨hsuffix, ⟨n, -, hr⟩ | ⟨x, hr⟩⟩ := of_readNumber h
  · exact readsValue_of_simple hsuffix (by simp [hr]) (by simp [hr])
  · exact readsValue_of_simple hsuffix (by simp [hr]) (by simp [hr])

theorem readsValue_of_readString {opening rest : Text} {c : CodePoint} {r : Text × Text}
    (h : readString opening rest = .ok r) : ReadsValue (c :: rest) (.str r.1, r.2) := by
  have hsuffix := List.suffix_cons c rest
  have hread := readsJoined_of_readString h
  refine ⟨hread.suffix.trans hsuffix, fun hs t ht => ?_, fun _ _ hobj => by cases hobj⟩
  cases ht
  exact hread.joined (isScalar_of_suffix hs hsuffix)

variable {room depth : ℕ} {r : Json × Text}

/-! ### One more level of calls

What was read of the text is taken off its front part by part, and the rest of the text has no
surrogates if the text has none. -/

theorem readsValue_succ (ih : ∀ room, ReadsAt room depth) {t : Text}
    (h : readValue room (depth + 1) t = .ok r) : ReadsValue t r := by
  cases valueRead_of_readValue h with
  | string hread => exact readsValue_of_readString hread
  | emptyList hskip =>
      refine readsValue_of_simple ?_ (by simp) (by simp)
      exact (suffix_of_skipSpace hskip).trans (List.suffix_cons _ _)
  | list hread =>
      refine readsValue_of_simple ?_ (by simp) (by simp)
      exact ((ih _).items _ _ hread).trans ((suffix_skipSpace _).trans (List.suffix_cons _ _))
  | emptyObject hskip =>
      refine readsValue_of_members ?_ fun _ => List.forall_mem_nil _
      exact (suffix_of_skipSpace hskip).trans (List.suffix_cons _ _)
  | @object _ rest _ hread =>
      obtain ⟨hsuffix, hmembers⟩ := (ih _).members _ _ _ hread
      have hbegin := (suffix_skipSpace rest).trans (List.suffix_cons (CodePoint.ofChar '\x7b') rest)
      exact readsValue_of_members (hsuffix.trans hbegin) fun hs =>
        hmembers (isScalar_of_suffix hs hbegin) (List.forall_mem_nil _)
  | word hword => exact readsValue_of_readWord? hword
  | number hread => exact readsValue_of_readNumber hread

theorem suffix_of_readItems_succ (ih : ∀ room, ReadsAt room depth) {t : Text}
    {r : List Json × Text} (h : readItems room (depth + 1) t = .ok r) : r.2 <:+ t := by
  cases itemsRead_of_readItems h with
  | last hitem hskip => exact (suffix_of_skipSpace hskip).trans ((ih room).value t _ hitem).suffix
  | next hitem hskip hread =>
      have hrest := (suffix_of_skipSpace hskip).trans ((ih room).value t _ hitem).suffix
      exact ((ih room).items _ _ hread).trans ((suffix_skipSpace _).trans hrest)

/-- The one member that is new has been read as a value. -/
theorem of_memberRead (ih : ∀ room, ReadsAt room depth) {t name rest : Text} {value : Json}
    (h : MemberRead room depth t name value rest) :
    rest <:+ t ∧ ∀ members, t.isScalar = true → HasJoinedMembers members →
      HasJoinedMembers (assign name value members) := by
  cases h with
  | @intro afterQuote _ _ _ _ _ hname hcolon hvalue =>
      have hread := (ih room).value _ _ hvalue
      have hafterName := (readsJoined_of_readString hname).suffix.trans
        (List.suffix_cons (CodePoint.ofChar '"') afterQuote)
      have hbegin := (suffix_skipSpace _).trans ((suffix_of_skipSpace hcolon).trans hafterName)
      exact ⟨hread.suffix.trans hbegin, fun members hs hm =>
        hm.assign (hread.text (isScalar_of_suffix hs hbegin))⟩

theorem of_readMembers_succ (ih : ∀ room, ReadsAt room depth) {members : List (Text × Json)}
    {t : Text} {r : List (Text × Json) × Text}
    (h : readMembers room (depth + 1) members t = .ok r) :
    r.2 <:+ t ∧ (t.isScalar = true → HasJoinedMembers members → HasJoinedMembers r.1) := by
  cases membersRead_of_readMembers h with
  | last hmember hskip =>
      obtain ⟨hsuffix, hassign⟩ := of_memberRead ih hmember
      exact ⟨(suffix_of_skipSpace hskip).trans hsuffix, hassign members⟩
  | next hmember hskip hread =>
      obtain ⟨hsuffix, hassign⟩ := of_memberRead ih hmember
      obtain ⟨hrest, hmembers⟩ := (ih room).members _ _ _ hread
      have hnext := (suffix_skipSpace _).trans ((suffix_of_skipSpace hskip).trans hsuffix)
      exact ⟨hrest.trans hnext,
        fun hs hm => hmembers (isScalar_of_suffix hs hnext) (hassign members hs hm)⟩

/-- By induction on the bound on the depth of calls, for all three readers at once. -/
theorem readsAt (depth : ℕ) : ∀ room, ReadsAt room depth := by
  induction depth with
  | zero => exact readsAt_zero
  | succ depth ih =>
      exact fun room => ⟨fun _ _ => readsValue_succ ih, fun _ _ => suffix_of_readItems_succ ih,
        fun _ _ _ => of_readMembers_succ ih⟩

/-- **The texts of an object that was read have no halves next to each other,** if the text that
it was read from has no surrogates. -/
theorem hasJoinedMembers_of_read {text : Text} {members : List (Text × Json)}
    (htext : text.isScalar = true) (h : read text = .ok (.obj members)) :
    HasJoinedMembers members := by
  rw [read] at h
  split_ifs at h
  have hwhole : readWhole nestingLimit text = .ok (.obj members) := by
    rw [readMarked, readWithin] at h
    split at h
    · cases h
      assumption
    all_goals cases h
  obtain ⟨⟨value, rest⟩, hvalue, hend⟩ := bind_eq_ok.mp hwhole
  have hread := (readsAt _ _).value _ _ hvalue
  have hobj : value = .obj members := by
    dsimp only at hend
    split at hend
    · exact Except.ok.inj hend
    · cases hend
  exact hread.members (isScalar_of_suffix htext (suffix_skipSpace text)) members hobj

end Json

end CallBindings
