import CallBindings.Proofs.Json.Printable
import CallBindings.Proofs.Json.Writable
import CallBindings.Proofs.Text.Utf8
import CallBindings.Url.Query

set_option autoImplicit false

/-! # Reading a query

A server takes a query apart at `&`, each part at its first `=`, and decodes both halves: a percent
sign with two hexadecimal digits is a byte, everything else stands for its own bytes, and the bytes
are read as UTF-8. What is written into a query is percent-encoded, so no separator is left in it,
and decoding undoes the encoding byte by byte.
-/

namespace CallBindings.Query

open Text

/-! ## The reader -/

/-- The byte that two hexadecimal digits denote. -/
def byte? (a b : CodePoint) : Option UInt8 :=
  match a.hexValue?, b.hexValue? with
  | some x, some y => some (UInt8.ofNat (16 * x + y))
  | _, _ => none

/-- The bytes that a percent-encoded text denotes. -/
def octets : Text → Bytes
  | [] => []
  | c :: a :: b :: t =>
    match if c = '%' then byte? a b else none with
    | some byte => byte :: octets t
    | none => Utf8.encodeCodePoint c ++ octets (a :: b :: t)
  | c :: t => Utf8.encodeCodePoint c ++ octets t

/-- The text that a percent-encoded text denotes, if its bytes are UTF-8. -/
def decode? (t : Text) : Option Text := (Utf8.decode (octets t)).toOption

/-- Name and value in a part of a query. -/
def pair (part : Text) : Option Text × Option Text :=
  (decode? (part.takeWhile (· ≠ CodePoint.ofChar '=')),
    decode? ((part.dropWhile (· ≠ CodePoint.ofChar '=')).drop 1))

/-- The pairs in a query. Between separators that follow each other there is none. -/
def pairs (query : Text) : List (Option Text × Option Text) :=
  ((splitAt '&' query).filter (· ≠ [])).map pair

/-! ## Percent signs -/

section Octets

variable {c : CodePoint}

theorem octets_cons (hc : c ≠ '%') (t : Text) :
    octets (c :: t) = Utf8.encodeCodePoint c ++ octets t := by
  match t with
  | [] => rfl
  | [a] => rfl
  | a :: b :: t => rw [octets, if_neg hc]

/-- The escape of a byte denotes it. -/
theorem octets_escape {a b : CodePoint} {byte : UInt8} (h : byte? a b = some byte) (t : Text) :
    octets ('%' :: a :: b :: t) = byte :: octets t := by
  rw [octets, if_pos rfl, h]

theorem hexValue?_upperHex : ∀ n < 16, (upperHex n).hexValue? = some n := by decide

theorem byte?_upperHex (b : UInt8) :
    byte? (upperHex (b.toNat / 16)) (upperHex (b.toNat % 16)) = some b := by
  have hb : b.toNat < 256 := b.toNat_lt
  rw [byte?, hexValue?_upperHex _ (by omega), hexValue?_upperHex _ (by omega)]
  simp only
  rw [Nat.div_add_mod, UInt8.ofNat_toNat]

theorem forall_byte {P : UInt8 → Prop} (h : ∀ n < 256, P (UInt8.ofNat n)) (b : UInt8) : P b := by
  have hb := h b.toNat b.toNat_lt
  rwa [UInt8.ofNat_toNat] at hb

/-- A harmless byte is the only one of its code point, which is no percent sign. -/
theorem of_isHarmless : ∀ b : UInt8, isHarmless b = true →
    CodePoint.ofNat b.toNat ≠ '%' ∧ Utf8.encodeCodePoint (CodePoint.ofNat b.toNat) = [b] := by
  apply forall_byte
  decide +kernel

theorem octets_encodeByte (b : UInt8) (t : Text) : octets (encodeByte b ++ t) = b :: octets t := by
  rw [encodeByte]
  split
  · next hb =>
      obtain ⟨hpercent, hbytes⟩ := of_isHarmless b hb
      rw [List.singleton_append, octets_cons hpercent, hbytes]
      rfl
  · exact octets_escape (byte?_upperHex b) t

theorem octets_flatMap_encodeByte (bytes : Bytes) (t : Text) :
    octets (bytes.flatMap encodeByte ++ t) = bytes ++ octets t := by
  induction bytes with
  | nil => rfl
  | cons b bytes ih =>
      rw [List.flatMap_cons, List.append_assoc, octets_encodeByte, ih, List.cons_append]

end Octets

/-! ## Encoded texts -/

section Encoded

variable {t : Text}

/-- What is written for a text that has bytes. -/
def encoded (t : Text) : Text := t.utf8.flatMap encodeByte

theorem encode_eq_ok_iff {e : Text} : encode t = .ok e ↔ t.isScalar = true ∧ e = encoded t := by
  constructor
  · intro h
    obtain ⟨bytes, hbytes, rfl⟩ := map_eq_ok.mp h
    obtain ⟨ht, rfl⟩ := toUtf8_eq_ok_iff.mp hbytes
    exact ⟨ht, rfl⟩
  · rintro ⟨ht, rfl⟩
    rw [encode, toUtf8_of_isScalar ht]
    rfl

theorem octets_encoded (t : Text) : octets (encoded t) = t.utf8 := by
  have h := octets_flatMap_encodeByte t.utf8 []
  rwa [List.append_nil, octets, List.append_nil] at h

theorem decode?_eq_some_iff {e : Text} :
    decode? e = some t ↔ octets e = t.utf8 ∧ t.isScalar = true := by
  rw [decode?, ← Utf8.decode_eq_ok_iff]
  cases Utf8.decode (octets e) <;> simp [Except.toOption]

/-- **Decoding undoes encoding.** -/
theorem decode?_encoded (ht : t.isScalar = true) : decode? (encoded t) = some t :=
  decode?_eq_some_iff.mpr ⟨octets_encoded t, ht⟩

/-- What encoded texts are written with: ASCII letters, digits, the marks that stay as they are, and
the percent sign. -/
def isCode (c : CodePoint) : Bool :=
  c.isAsciiLetter || c.isAsciiDigit || (ofString "_.-~!*'()%").contains c

theorem isCode_of_mem_encoded {c : CodePoint} (hc : c ∈ encoded t) : isCode c = true := by
  have hbyte : ∀ b : UInt8, ∀ c ∈ encodeByte b, isCode c = true := by
    apply forall_byte
    decide +kernel
  obtain ⟨b, -, hb⟩ := List.mem_flatMap.mp hc
  exact hbyte b c hb

theorem not_mem_encoded {c : CodePoint} (hc : isCode c = false) : c ∉ encoded t := by
  intro hmem
  rw [isCode_of_mem_encoded hmem] at hc
  cases hc

end Encoded

/-! ## Written pairs -/

section Written

variable {entries : List (Text × Text)} {m : Text × Json} {members : List (Text × Json)}

/-- A pair as it is written. -/
def part (entry : Text × Text) : Text := encoded entry.1 ++ CodePoint.ofChar '=' :: encoded entry.2

/-- What stands behind the question mark of a query string. -/
def written (entries : List (Text × Text)) : Text := join (ofString "&") (entries.map part)

/-- Whether names and values can be written as bytes. -/
def HaveBytes (entries : List (Text × Text)) : Prop :=
  ∀ e ∈ entries, e.1.isScalar = true ∧ e.2.isScalar = true

/-- The text of a value in a query, for a value that has one. -/
def textOf : Json → Text
  | .bool b => Json.boolText b
  | .null => "null"
  | .arr items => (Json.arr items).compact
  | .obj members => (Json.obj members).compact
  | j => j.plain

/-- Names with the texts of the values. -/
def entriesOf (members : List (Text × Json)) : List (Text × Text) :=
  members.map fun m => (m.1, textOf m.2)

/-- Whether a member can be written into a query: its name has bytes, its value has a text, and
if it is a text, that has bytes. -/
structure IsEncodable (m : Text × Json) : Prop where
  name : m.1.isScalar = true
  value : m.2.isWritable = true
  text : ∀ t, m.2 = .str t → t.isScalar = true

theorem valueText_eq (j : Json) :
    valueText j = if j.isWritable then .ok (textOf j) else .error .unwritable := by
  cases j <;> rfl

/-- Of all values only a text can have surrogates in a query. -/
theorem isScalar_textOf_iff {j : Json} :
    (textOf j).isScalar = true ↔ ∀ t, j = .str t → t.isScalar = true := by
  cases j with
  | str t =>
      show t.isScalar = true ↔ _
      simp
  | null => exact iff_of_true (by decide) (by simp)
  | bool b => exact iff_of_true (by cases b <;> decide) (by simp)
  | int n => exact iff_of_true (isPrintable_ofInt n).isScalar (by simp)
  | float x => exact iff_of_true (isPrintable_shown_float x).isScalar (by simp)
  | arr items => exact iff_of_true (Json.arr items).isPrintable_compact.isScalar (by simp)
  | obj members => exact iff_of_true (Json.obj members).isPrintable_compact.isScalar (by simp)

theorem encodePart_of_isScalar {t : Text} (ht : t.isScalar = true) :
    encodePart t = .ok (encoded t) := by
  rw [encodePart, encode_eq_ok_iff.mpr ⟨ht, rfl⟩]

theorem encodePart_of_not_isScalar {t : Text} (ht : t.isScalar = false) :
    ∃ fault, encodePart t = .error (.unencodable fault) := by
  cases h : encode t with
  | ok e =>
      rw [(encode_eq_ok_iff.mp h).1] at ht
      cases ht
  | error fault => exact ⟨fault, by rw [encodePart, h]⟩

theorem encodeMember_of_isEncodable (h : IsEncodable m) :
    encodeMember m = .ok (part (m.1, textOf m.2)) := by
  rw [encodeMember, encodePart_of_isScalar h.name, valueText_eq, if_pos h.value]
  simp [bind, Except.bind, encodePart_of_isScalar (isScalar_textOf_iff.mpr h.text), part, ofString]

/-- A member that cannot be written has a text without bytes, or a value without a text. -/
theorem encodeMember_of_not_isEncodable (h : ¬ IsEncodable m) :
    (∃ fault, encodeMember m = .error (.unencodable fault)) ∨
      m.2.isWritable = false ∧ encodeMember m = .error (.integer .unwritable) := by
  rw [encodeMember, valueText_eq]
  cases hname : m.1.isScalar with
  | false =>
      obtain ⟨fault, hfault⟩ := encodePart_of_not_isScalar hname
      exact Or.inl ⟨fault, by rw [hfault]; rfl⟩
  | true =>
      rw [encodePart_of_isScalar hname]
      cases hvalue : m.2.isWritable with
      | false => exact Or.inr ⟨rfl, rfl⟩
      | true =>
          have htext : (textOf m.2).isScalar = false := by
            rw [Bool.eq_false_iff, ne_eq, isScalar_textOf_iff]
            exact fun htext => h ⟨hname, hvalue, htext⟩
          obtain ⟨fault, hfault⟩ := encodePart_of_not_isScalar htext
          exact Or.inl ⟨fault, by simp [bind, Except.bind, hfault]⟩

theorem encodeMembers_of_isEncodable (h : ∀ m ∈ members, IsEncodable m) :
    encodeMembers members = .ok ((entriesOf members).map part) := by
  induction members with
  | nil => rfl
  | cons m members ih =>
      obtain ⟨hm, hrest⟩ := List.forall_mem_cons.mp h
      rw [encodeMembers, encodeMember_of_isEncodable hm, ih hrest]
      rfl

/-- The first member that cannot be written is the fault of all. -/
theorem encodeMembers_of_not_isEncodable (h : ¬ ∀ m ∈ members, IsEncodable m) :
    (∃ fault, encodeMembers members = .error (.unencodable fault)) ∨
      (∃ m ∈ members, m.2.isWritable = false) ∧
        encodeMembers members = .error (.integer .unwritable) := by
  induction members with
  | nil => exact absurd (List.forall_mem_nil _) h
  | cons m members ih =>
      rw [encodeMembers]
      by_cases hm : IsEncodable m
      · rw [encodeMember_of_isEncodable hm]
        rcases ih fun hrest => h (List.forall_mem_cons.mpr ⟨hm, hrest⟩) with
          ⟨fault, hfault⟩ | ⟨⟨m', hm', hvalue⟩, hinteger⟩
        · exact Or.inl ⟨fault, by rw [hfault]; rfl⟩
        · exact Or.inr ⟨⟨m', List.mem_cons_of_mem m hm', hvalue⟩, by rw [hinteger]; rfl⟩
      · rcases encodeMember_of_not_isEncodable hm with ⟨fault, hfault⟩ | ⟨hvalue, hinteger⟩
        · exact Or.inl ⟨fault, by rw [hfault]; rfl⟩
        · exact Or.inr ⟨⟨m, List.mem_cons_self, hvalue⟩, by rw [hinteger]; rfl⟩

theorem ofBody_obj (hne : members ≠ []) : ofBody (.obj members) =
    (encodeMembers members).map fun pairs => CodePoint.ofChar '?' :: join (ofString "&") pairs := by
  have htruthy : (Json.obj members).truthy = true := by simpa [Json.truthy] using hne
  rw [ofBody, htruthy, Bool.not_true, if_neg Bool.false_ne_true]
  rfl

theorem ofBody_eq_ok_iff (hne : members ≠ []) {q : Text} :
    ofBody (.obj members) = .ok q ↔
      (∀ m ∈ members, IsEncodable m) ∧ q = CodePoint.ofChar '?' :: written (entriesOf members) := by
  rw [ofBody_obj hne]
  by_cases hall : ∀ m ∈ members, IsEncodable m
  · rw [encodeMembers_of_isEncodable hall, and_iff_right hall]
    exact ⟨fun h => (Except.ok.inj h).symm, fun h => congrArg Except.ok h.symm⟩
  · refine iff_of_false ?_ fun h => hall h.1
    rcases encodeMembers_of_not_isEncodable hall with ⟨fault, hfault⟩ | ⟨-, hinteger⟩
    · rw [hfault]
      rintro ⟨⟩
    · rw [hinteger]
      rintro ⟨⟩

theorem exists_ofBody_eq_ok_iff (hne : members ≠ []) :
    (∃ q, ofBody (.obj members) = .ok q) ↔ ∀ m ∈ members, IsEncodable m := by
  simp only [ofBody_eq_ok_iff hne, exists_and_left, exists_eq, and_true]

theorem haveBytes_entriesOf (h : ∀ m ∈ members, IsEncodable m) : HaveBytes (entriesOf members) := by
  simp only [HaveBytes, entriesOf, List.forall_mem_map]
  exact fun m hm => ⟨(h m hm).name, isScalar_textOf_iff.mpr (h m hm).text⟩

/-! ## What the reader finds -/

theorem pair_part {entry : Text × Text} (hname : entry.1.isScalar = true)
    (hvalue : entry.2.isScalar = true) : pair (part entry) = (some entry.1, some entry.2) := by
  have hnot : CodePoint.ofChar '=' ∉ encoded entry.1 := not_mem_encoded (by decide)
  rw [pair, part, takeWhile_append_cons hnot, dropWhile_append_cons hnot, List.drop_one,
    List.tail_cons, decode?_encoded hname, decode?_encoded hvalue]

theorem ampersand_not_mem_part (entry : Text × Text) : CodePoint.ofChar '&' ∉ part entry := by
  have hnot : ∀ t : Text, CodePoint.ofChar '&' ∉ encoded t := fun t => not_mem_encoded (by decide)
  have hne : CodePoint.ofChar '&' ≠ CodePoint.ofChar '=' := by decide
  simp [part, hnot, hne]

theorem splitAt_written (hne : entries ≠ []) :
    splitAt (CodePoint.ofChar '&') (written entries) = entries.map part := by
  obtain ⟨entry, entries, rfl⟩ := List.exists_cons_of_ne_nil hne
  have hnot : ∀ p ∈ (entry :: entries).map part, CodePoint.ofChar '&' ∉ p := by
    rw [List.forall_mem_map]
    exact fun e _ => ampersand_not_mem_part e
  have hsplit := @splitAt_join (CodePoint.ofChar '&') [] _ _ List.not_mem_nil hnot
  exact hsplit.trans (by simp)

theorem part_ne_nil (entry : Text × Text) : part entry ≠ [] := by
  simp [part]

theorem map_pair_part (h : HaveBytes entries) :
    (entries.map part).map pair = entries.map fun e => (some e.1, some e.2) := by
  rw [List.map_map]
  apply List.map_congr_left
  intro e he
  exact pair_part (h e he).1 (h e he).2

theorem filter_map_part (entries : List (Text × Text)) :
    (entries.map part).filter (· ≠ []) = entries.map part := by
  rw [List.filter_eq_self, List.forall_mem_map]
  exact fun e _ => by simpa using part_ne_nil e

theorem pairs_written (hne : entries ≠ []) (h : HaveBytes entries) :
    pairs (written entries) = entries.map fun e => (some e.1, some e.2) := by
  rw [pairs, splitAt_written hne, filter_map_part, map_pair_part h]

/-- The code points of a query are those of encoded texts and the two separators. -/
theorem isCode_of_mem_written {c : CodePoint} (hc : c ∈ written entries) :
    isCode c = true ∨ c = CodePoint.ofChar '&' ∨ c = CodePoint.ofChar '=' := by
  have hpart : ∀ e ∈ entries, c ∈ part e → isCode c = true ∨ c = CodePoint.ofChar '=' := by
    intro e _ hmem
    rcases List.mem_append.mp hmem with hmem | hmem
    · exact Or.inl (isCode_of_mem_encoded hmem)
    · exact (List.mem_cons.mp hmem).elim Or.inr fun h => Or.inl (isCode_of_mem_encoded h)
  cases entries with
  | nil => cases hc
  | cons entry entries =>
      rw [written, List.map_cons, join_cons, List.mem_append, List.mem_flatMap] at hc
      rcases hc with hc | ⟨p, hp, hc⟩
      · exact (hpart entry List.mem_cons_self hc).imp id Or.inr
      · obtain ⟨e, he, rfl⟩ := List.mem_map.mp hp
        rcases List.mem_append.mp hc with hc | hc
        · exact Or.inr (Or.inl (List.mem_singleton.mp hc))
        · exact (hpart e (List.mem_cons_of_mem entry he) hc).imp id Or.inr

theorem not_mem_written {c : CodePoint} (hcode : isCode c = false)
    (hand : c ≠ CodePoint.ofChar '&') (his : c ≠ CodePoint.ofChar '=') : c ∉ written entries := by
  intro hc
  rcases isCode_of_mem_written hc with h | h | h
  · rw [hcode] at h
    cases h
  · exact hand h
  · exact his h

/-- What is to be said of the text behind the question mark of a query string with some pairs. -/
structure ReadsAs (query : Text) (entries : List (Text × Text)) : Prop where
  /-- It is written with ASCII letters, digits, some marks and the separators. -/
  marks : ∀ c ∈ query, isCode c = true ∨ c = CodePoint.ofChar '&' ∨ c = CodePoint.ofChar '='
  /-- There is no other question mark. -/
  opening : CodePoint.ofChar '?' ∉ query
  /-- Each part has one place where its name ends. -/
  separated : ∀ p ∈ splitAt (CodePoint.ofChar '&') query, p.count (CodePoint.ofChar '=') = 1
  /-- The parts are read as the pairs, in order and one for one. -/
  read : (splitAt (CodePoint.ofChar '&') query).map pair =
    entries.map fun e => (some e.1, some e.2)

theorem ReadsAs.unique {query : Text} {entries' : List (Text × Text)} (h : ReadsAs query entries)
    (h' : ReadsAs query entries') : entries' = entries := by
  have hinj : Function.Injective fun e : Text × Text => (some e.1, some e.2) := by
    rintro ⟨k, v⟩ ⟨k', v'⟩ heq
    simpa using heq
  exact List.map_injective_iff.mpr hinj (h'.read.symm.trans h.read)

end Written

end CallBindings.Query
