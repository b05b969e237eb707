import CallBindings.Contract.Descriptor
import CallBindings.Proofs.Json.Halves
import CallBindings.Proofs.Shape.TypeName
import CallBindings.Proofs.Unicode.Case

set_option autoImplicit false

/-! # Contracts that were read from a text

In a contract that was read from a JSON text without surrogates no halves of a pair stand next to
each other: not in its id, which is an identifier and so has no halves at all, not in its URL, which
is a text of the descriptor, and not in its method, because removing white space at the ends and
upper case bring no halves together.
-/

namespace CallBindings

open Text

/-! ## Upper case -/

theorem upperSequences_no_surrogates : ∀ e ∈ Unicode.upperSequences,
    ¬ (0xD800 ≤ e.1 ∧ e.1 ≤ 0xDFFF) ∧ ∀ n ∈ e.2, ¬ (0xD800 ≤ n ∧ n ≤ 0xDFFF) := by
  decide +kernel

theorem upperRuns_no_surrogates : ∀ r ∈ Unicode.upperRuns,
    (r.last < 0xD800 ∨ 0xDFFF < r.first) ∧
      ((r.last : ℤ) + r.distance < 0xD800 ∨ 0xDFFF < (r.first : ℤ) + r.distance) := by
  decide +kernel

theorem isSurrogate_iff {c : CodePoint} :
    c.isSurrogate = true ↔ 0xD800 ≤ c.val ∧ c.val ≤ 0xDFFF := by
  simp [CodePoint.isSurrogate]

theorem isSurrogate_ofNat {n : ℕ} (h : ¬ (0xD800 ≤ n ∧ n ≤ 0xDFFF)) :
    (CodePoint.ofNat n).isSurrogate = false := by
  rw [CodePoint.ofNat]
  split
  · simpa [CodePoint.isSurrogate] using h
  · decide

/-- A surrogate is its own upper case. -/
theorem upper_of_isSurrogate {c : CodePoint} (h : c.isSurrogate = true) : c.upper = [c] := by
  have hc := isSurrogate_iff.mp h
  have hsequences : Unicode.upperSequences.find? (·.1 == c.val) = none := by
    rw [List.find?_eq_none]
    intro e he heq
    have := (upperSequences_no_surrogates e he).1
    rw [beq_iff_eq.mp heq] at this
    exact this hc
  have hruns : Unicode.Run.applyFirst? Unicode.upperRuns c.val = none := by
    rw [Unicode.Run.applyFirst?, List.findSome?_eq_none_iff]
    intro r hr
    rw [Option.eq_none_iff_forall_ne_some]
    intro k hk
    have := Unicode.Run.of_image hk
    have := (upperRuns_no_surrogates r hr).1
    omega
  rw [CodePoint.upper, hsequences, hruns]

/-- The upper case of a code point that is no surrogate has none. -/
theorem isSurrogate_of_mem_upper {c d : CodePoint} (h : c.isSurrogate = false)
    (hd : d ∈ c.upper) : d.isSurrogate = false := by
  rw [CodePoint.upper] at hd
  split at hd
  · rename_i e ns hfind
    obtain ⟨n, hn, rfl⟩ := List.mem_map.mp hd
    exact isSurrogate_ofNat ((upperSequences_no_surrogates _ (List.mem_of_find?_eq_some hfind)).2 n hn)
  · split at hd
    · rename_i n hn
      rw [List.mem_singleton.mp hd]
      obtain ⟨r, hr, happly⟩ := List.exists_of_findSome?_eq_some hn
      have := Unicode.Run.of_image happly
      have := (upperRuns_no_surrogates r hr).2
      exact isSurrogate_ofNat (by omega)
    · rw [List.mem_singleton.mp hd]
      exact h

/-- Text without halves may stand in front. -/
theorem isJoined_append {s t : Text} (hs : ∀ c ∈ s, c.isSurrogate = false) (ht : t.IsJoined) :
    Text.IsJoined (s ++ t) := by
  induction s with
  | nil => exact ht
  | cons c s ih =>
      refine isJoined_cons (ih fun d hd => hs d (List.mem_cons_of_mem c hd)) fun hhigh => ?_
      rw [isHighSurrogate_of_not (hs c List.mem_cons_self)] at hhigh
      cases hhigh

/-- A text in upper case begins with a second half only if the text itself does. -/
theorem head_upper {t : Text} {d : CodePoint} (hd : d ∈ t.upper.head?)
    (hlow : d.isLowSurrogate = true) : d ∈ t.head? := by
  cases t with
  | nil => exact hd
  | cons c t =>
      have hhead : d ∈ c.upper.head? := by
        obtain ⟨x, xs, hx⟩ := List.exists_cons_of_ne_nil (CodePoint.upper_ne_nil c)
        rw [upper, List.flatMap_cons, hx] at hd
        rwa [hx]
      cases hc : c.isSurrogate with
      | true => rwa [upper_of_isSurrogate hc] at hhead
      | false =>
          have hno := isSurrogate_of_mem_upper hc (List.mem_of_mem_head? hhead)
          rw [isLowSurrogate_of_not hno] at hlow
          cases hlow

/-- Halves that stand next to each other in upper case did so before. -/
theorem isJoined_upper {t : Text} (h : t.IsJoined) : t.upper.IsJoined := by
  induction t with
  | nil => exact h
  | cons c t ih =>
      have ht := ih h.tail
      rw [upper, List.flatMap_cons]
      cases hc : c.isSurrogate with
      | false => exact isJoined_append (fun d hd => isSurrogate_of_mem_upper hc hd) ht
      | true =>
          -- it stays, and what follows it begins with a second half only if it did before
          rw [upper_of_isSurrogate hc]
          refine isJoined_cons ht fun hhigh d hd => ?_
          by_contra hlow
          have hlow : d.isLowSurrogate = true := by simpa using hlow
          have hmem := head_upper hd hlow
          have hpair := (List.isChain_cons.mp h).1 d hmem
          rw [hhigh, hlow] at hpair
          exact hpair rfl

/-- Halves that stand next to each other in a part of a text do so in the text. -/
theorem isJoined_trim {t : Text} (h : t.IsJoined) : t.trim.IsJoined :=
  h.infix ((trim_isPrefix t).isInfix.trans (List.dropWhile_suffix _).isInfix)

/-! ## Identifiers -/

theorem identifier_no_surrogates : ∀ r ∈ Unicode.identifierStart ++ Unicode.identifierExtend,
    r.2 < 0xD800 ∨ 0xDFFF < r.1 := by
  decide +kernel

theorem isSurrogate_of_inIdentifier {c : CodePoint} (h : c.inIdentifier = true) :
    c.isSurrogate = false := by
  have hrange : ∀ ranges, ranges ⊆ Unicode.identifierStart ++ Unicode.identifierExtend →
      Unicode.inRanges ranges c.val = true → c.isSurrogate = false := by
    intro ranges hsub hin
    obtain ⟨r, hr, hbounds⟩ := List.any_eq_true.mp hin
    have := identifier_no_surrogates r (hsub hr)
    simp only [Bool.and_eq_true, decide_eq_true_eq] at hbounds
    rw [← Bool.not_eq_true, isSurrogate_iff]
    omega
  simp only [CodePoint.inIdentifier, CodePoint.startsIdentifier, Bool.or_eq_true, beq_iff_eq] at h
  rcases h with (h | h) | h
  · rw [← Bool.not_eq_true, isSurrogate_iff]
    omega
  · exact hrange _ (List.subset_append_left _ _) h
  · exact hrange _ (List.subset_append_right _ _) h

/-- There are no halves in an identifier. -/
theorem isJoined_of_isIdentifier {t : Text} (h : t.isIdentifier = true) : t.IsJoined := by
  have hall : ∀ c ∈ t, c.isSurrogate = false := fun c hc =>
    isSurrogate_of_inIdentifier (inIdentifier_of_isIdentifier h c hc)
  have := isJoined_append hall (t := []) List.isChain_nil
  rwa [List.append_nil] at this

theorem isScalar_of_isIdentifier {t : Text} (h : t.isIdentifier = true) : t.isScalar = true := by
  rw [isScalar, List.all_eq_true]
  intro c hc
  rw [isSurrogate_of_inIdentifier (inIdentifier_of_isIdentifier h c hc)]
  rfl

/-! ## Contracts -/

namespace Contract

/-- Whether no halves of a pair stand next to each other in URL and method. -/
structure IsJoined (c : Contract) : Prop where
  url : c.url.IsJoined
  method : c.method.IsJoined

theorem isJoined_of_textPart {source : Option Text} {part t : Text} {members : List (Text × Json)}
    (hm : Json.HasJoinedMembers members) (h : textPart source part members = .ok t) :
    t.IsJoined := by
  rw [textPart] at h
  split at h
  · rename_i hpart
    cases h
    exact hm _ (mem_of_lookup? hpart) _ rfl
  · cases h

/-- **A contract that was read from a text without surrogates is joined.** -/
theorem isJoined_of_read {source : Option Text} {text : Text} {j : Json} {c : Contract}
    (htext : text.isScalar = true) (hread : Json.read text = .ok j) (h : ofJson source j = .ok c) :
    c.IsJoined := by
  cases j with
  | obj members =>
      have hm := Json.hasJoinedMembers_of_read htext hread
      obtain ⟨id, -, h⟩ := bind_eq_ok.mp h
      obtain ⟨url, hurl, h⟩ := bind_eq_ok.mp h
      obtain ⟨method, hmethod, h⟩ := bind_eq_ok.mp h
      obtain ⟨request, -, h⟩ := bind_eq_ok.mp h
      obtain ⟨responses, -, h⟩ := bind_eq_ok.mp h
      split at h
      · cases h
      · cases h
        exact ⟨isJoined_of_textPart hm hurl,
          isJoined_upper (isJoined_trim (isJoined_of_textPart hm hmethod))⟩
  | _ => cases h

end Contract

end CallBindings
