import CallBindings.Json.Bytes
import CallBindings.Proofs.Json.Printable
import CallBindings.Proofs.Json.RoundTrip
import CallBindings.Proofs.Json.Writable
import CallBindings.Proofs.Text.Utf8

set_option autoImplicit false

/-! # Compact forms as bytes

The compact form of a value is printable ASCII. Its bytes hold no zero and none above `0x7E`, so
they are no byte order mark, show the pattern of no wide encoding, and are read as UTF-8 one by
one. Nor are there line breaks to unify. Replies and files that hold a compact form are therefore
read as its text is read.
-/

namespace CallBindings.Json

open Text

/-! ## Bytes of printable texts -/

theorem ne_of_isPrintableByte {b d : UInt8} (hb : IsPrintableByte b) (hd : ¬ IsPrintableByte d) :
    b ≠ d := by
  rintro rfl
  exact hd hb

/-- Bytes of printable ASCII begin with no byte order mark. -/
theorem not_isPrefixOf_of_isPrintableByte {bytes : Bytes} (h : ∀ b ∈ bytes, IsPrintableByte b) :
    ∀ mark ∈ byteOrderMarks, ¬ mark.1.isPrefixOf bytes = true := by
  have hmarks : ∀ mark ∈ byteOrderMarks, ∃ b ∈ mark.1, ¬ IsPrintableByte b := by decide
  intro mark hmark hprefix
  obtain ⟨b, hb, hnot⟩ := hmarks mark hmark
  exact hnot (h b ((List.isPrefixOf_iff_prefix.mp hprefix).subset hb))

/-- Bytes of printable ASCII are taken for UTF-8 without a byte order mark. -/
theorem detectEncoding_of_isPrintableByte {bytes : Bytes} (h : ∀ b ∈ bytes, IsPrintableByte b) :
    detectEncoding bytes = (.utf8, 0) := by
  have hzero : ∀ b ∈ bytes, ¬ b = 0 := fun b hb => ne_of_isPrintableByte (h b hb) (by decide)
  have hzeros : encodingOfZeros bytes = .utf8 := by
    match bytes with
    | [] | [_] | [_, _, _] => rfl
    | [a, b] => rw [encodingOfZeros, if_neg (hzero a (by simp)), if_neg (hzero b (by simp))]
    | a :: b :: _ :: _ :: _ =>
        rw [encodingOfZeros, if_neg (hzero a (by simp)), if_neg (hzero b (by simp))]
  rw [detectEncoding, List.find?_eq_none.mpr (not_isPrefixOf_of_isPrintableByte h), hzeros]

/-- Printable ASCII is what the bytes of a reply are decoded to. -/
theorem decodeReply_utf8 {t : Text} (ht : IsPrintable t) : decodeReply t.utf8 = .ok t := by
  rw [decodeReply, detectEncoding_of_isPrintableByte (isPrintableByte_of_mem_utf8 ht)]
  simp only [List.drop_zero, Utf8.decodeFrom_utf8 (IsPrintable.isScalar ht)]

theorem unifyLines_of_isPrintable {t : Text} (ht : IsPrintable t) : unifyLines t = t := by
  induction t with
  | nil => rfl
  | cons c t ih =>
      obtain ⟨hc, ht⟩ := List.forall_mem_cons.mp ht
      have hne : ¬ c = CodePoint.ofChar '\r' := by
        rintro rfl
        revert hc
        decide
      rw [unifyLines.eq_def]
      simp only [if_neg hne, ih ht]

/-- Printable ASCII begins with no byte order mark. -/
theorem read_of_isPrintable {t : Text} (ht : IsPrintable t) : read t = readMarked t := by
  have hmark : startsWith t [CodePoint.ofNat 0xFEFF] = false := by
    cases t with
    | nil => rfl
    | cons c t =>
        have hne : ¬ CodePoint.ofNat 0xFEFF = c := by
          rintro rfl
          exact absurd (ht _ List.mem_cons_self) (by decide)
        rw [startsWith, dropStart?, if_neg hne]
        rfl
  rw [read, hmark, if_neg Bool.false_ne_true]

/-! ## Values that are read back, and some that are not -/

theorem IsPlain.isWritable {j : Json} (h : IsPlain j) : j.isWritable = true := by
  induction h with
  | null | bool | str => rfl
  | int hn => exact decide_eq_true hn
  | arr _ ih => exact itemsWritable_iff.mpr ih
  | obj _ _ _ ih => exact membersWritable_iff.mpr ih

theorem IsPlain.readReply_utf8 {j : Json} (h : IsPlain j) (hdeep : j.nesting ≤ nestingLimit) :
    readReply j.compact.utf8 = .ok j := by
  rw [readReply, decodeReply_utf8 j.isPrintable_compact]
  simp only [readMarked, h.readWithin_compact hdeep]

variable {n : ℤ}

/-- A reply with an integer that cannot be written is not read. -/
theorem readReply_utf8_ofInt (hn : canWrite n = false) : readReply (Text.ofInt n).utf8 =
    .error (.json (.longInteger (Text.ofNat n.natAbs).length)) := by
  rw [readReply, decodeReply_utf8 (isPrintable_ofInt n)]
  simp only [readMarked, readWithin_ofInt _ hn]

/-- A file with an object whose last member is such an integer is not read either. -/
theorem readUtf8_obj_ofInt {member : Text × Json} {name : Text} (hmember : member.1.isScalar = true)
    (hplain : IsPlain member.2) (hflat : member.2.nesting = 0) (hname : name.isScalar = true)
    (hn : canWrite n = false) : readUtf8 (Json.obj [member, (name, .int n)]).compact.utf8 =
      .error (.json (.longInteger (Text.ofNat n.natAbs).length)) := by
  have hprintable := (Json.obj [member, (name, .int n)]).isPrintable_compact
  have hread : readMarked (Json.obj [member, (name, .int n)]).compact =
      .error (.longInteger (Text.ofNat n.natAbs).length) :=
    readWithin_obj_ofInt hmember hplain (by omega) hname hn
  rw [readUtf8, Utf8.decode_utf8 (IsPrintable.isScalar hprintable)]
  simp only [unifyLines_of_isPrintable hprintable, read_of_isPrintable hprintable, hread]

end CallBindings.Json
