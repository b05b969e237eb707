import CallBindings.Proofs.Text.Quoted
import CallBindings.Unicode.Normal

set_option autoImplicit false

/-! # Composition and the low line

Composition joins neighbours, so the composed form of a text is not made up of the composed
forms of its parts. It is, where the parts meet at a low line: `_` is a starter that composes
with nothing before or after it, so neither marks nor starters get past it. A text of code
points below `U+00A0` is its own composed form.
-/

namespace CallBindings.Unicode

/-! ## What the tables say -/

theorem le_first_of_mem_combiningClasses :
    ∀ r ∈ combiningClasses, 0x300 ≤ r.1 := by decide +kernel

theorem compositions_bounds :
    ∀ r ∈ compositions, 0x300 ≤ r.2.1 ∧ r.1 ≠ 0x5F ∧ r.2.2 ≠ 0x5F := by decide +kernel

/-- Code points before the first mark are starters. -/
theorem combiningClass_of_lt {n : Nat} (hn : n < 0x300) : combiningClass n = 0 := by
  have hnone : (combiningClasses.find? fun r => r.1 ≤ n && n ≤ r.2.1) = none := by
    rw [List.find?_eq_none]
    intro r hr
    have := le_first_of_mem_combiningClasses r hr
    simp only [Bool.and_eq_true, decide_eq_true_eq, not_and]
    omega
  rw [combiningClass, hnone]

/-- Nothing before the first mark joins what stands in front of it. -/
theorem compose?_of_lt (a : Nat) {b : Nat} (hb : b < 0x300) : compose? a b = none := by
  have hnone : (compositions.find? fun r => r.1 == a && r.2.1 == b) = none := by
    rw [List.find?_eq_none]
    intro r hr
    have := (compositions_bounds r hr).1
    simp only [Bool.and_eq_true, beq_iff_eq, not_and]
    omega
  rw [compose?, hnone, if_neg (by simp; omega), if_neg (by simp; omega)]
  rfl

theorem compose?_lowLine (b : Nat) : compose? 0x5F b = none := by
  have hnone : (compositions.find? fun r => r.1 == 0x5F && r.2.1 == b) = none := by
    rw [List.find?_eq_none]
    intro r hr
    have := (compositions_bounds r hr).2.1
    simp only [Bool.and_eq_true, beq_iff_eq, not_and]
    intro h
    exact absurd h this
  rw [compose?, hnone, if_neg (by simp), if_neg (by simp)]
  rfl

theorem ne_lowLine_of_compose? {a b n : Nat} (h : compose? a b = some n) : n ≠ 0x5F := by
  rw [compose?] at h
  split_ifs at h with h1 h2
  · simp only [Bool.and_eq_true, decide_eq_true_eq] at h1
    rw [Option.some.injEq] at h
    omega
  · simp only [Bool.and_eq_true, decide_eq_true_eq] at h2
    rw [Option.some.injEq] at h
    omega
  · obtain ⟨r, hr, rfl⟩ := Option.map_eq_some_iff.mp h
    exact (compositions_bounds r (List.mem_of_find?_eq_some hr)).2.2

theorem decompose_of_lt {n : Nat} (hn : n < 0xA0) : decompose n = [n] := by
  rw [decompose, if_pos hn]

/-- Where nothing is taken apart, only order and composition are left. -/
theorem normalForm_of_decompose {ns : List Nat} (h : ∀ n ∈ ns, decompose n = [n]) :
    normalForm ns = composeAll (orderMarks (ns.map fun n => (combiningClass n, n))) := by
  have hdec : ns.flatMap decompose = ns := by
    induction ns with
    | nil => rfl
    | cons n ns ih =>
        rw [List.flatMap_cons, h n List.mem_cons_self,
          ih fun m hm => h m (List.mem_cons_of_mem n hm)]
        rfl
  rw [normalForm, hdec]

/-! ## Marks are put in order on either side of a starter -/

theorem insertMark_append {k : Nat} (n w : Nat) (xs ys : List (Nat × Nat)) :
    insertMark k n (xs ++ (0, w) :: ys) = insertMark k n xs ++ (0, w) :: ys := by
  induction xs with
  | nil => simp [insertMark]
  | cons x xs ih =>
      obtain ⟨k', n'⟩ := x
      rw [List.cons_append, insertMark, insertMark, ih]
      split <;> rfl

theorem orderMarks_append (xs ys : List (Nat × Nat)) (w : Nat) :
    orderMarks (xs ++ (0, w) :: ys) = orderMarks xs ++ (0, w) :: orderMarks ys := by
  induction xs with
  | nil => simp [orderMarks]
  | cons x xs ih =>
      obtain ⟨k, n⟩ := x
      rw [List.cons_append, orderMarks, orderMarks, ih]
      split
      · rfl
      · exact insertMark_append n w _ _

theorem mem_insertMark {k n : Nat} {p : Nat × Nat} {l : List (Nat × Nat)} :
    p ∈ insertMark k n l ↔ p = (k, n) ∨ p ∈ l := by
  induction l with
  | nil => simp [insertMark]
  | cons x l ih =>
      obtain ⟨k', n'⟩ := x
      rw [insertMark]
      split
      · rw [List.mem_cons, ih, List.mem_cons]
        exact or_left_comm
      · rw [List.mem_cons]

theorem mem_orderMarks {p : Nat × Nat} {l : List (Nat × Nat)} : p ∈ orderMarks l ↔ p ∈ l := by
  induction l with
  | nil => rfl
  | cons x l ih =>
      obtain ⟨k, n⟩ := x
      rw [orderMarks]
      split
      · rw [List.mem_cons, ih, List.mem_cons]
      · rw [mem_insertMark, ih, List.mem_cons]

/-! ## Composition stops at a low line -/

/-- Behind a low line composition starts anew. -/
theorem composeAfter_lowLine (ys : List (Nat × Nat)) (kept : List Nat) (high : Nat) :
    composeAfter 0x5F kept high ys = 0x5F :: kept.reverse ++ composeAll ys := by
  induction ys generalizing kept high with
  | nil => simp [composeAfter, composeAll]
  | cons y ys ih =>
      obtain ⟨k, n⟩ := y
      have hnone : (if kept.isEmpty || high < k then compose? 0x5F n else none) = none := by
        rw [compose?_lowLine]
        exact ite_self none
      rw [composeAfter, hnone, composeAll]
      by_cases hk : k = 0
      · simp only [if_pos hk]
      · simp only [if_neg hk, ih]
        simp

/-- In front of a low line composition goes as it does at the end of a text. -/
theorem composeAfter_append (xs ys : List (Nat × Nat)) (base : Nat) (kept : List Nat)
    (high : Nat) :
    composeAfter base kept high (xs ++ (0, 0x5F) :: ys) =
      composeAfter base kept high xs ++ 0x5F :: composeAll ys := by
  induction xs generalizing base kept high with
  | nil =>
      -- a low line composes with nothing in front of it
      have hnone : (if kept.isEmpty || high < 0 then compose? base 0x5F else none) = none := by
        rw [compose?_of_lt base (by decide)]
        exact ite_self none
      simp only [List.nil_append, composeAfter, hnone, if_true, composeAfter_lowLine]
      simp
  | cons x xs ih =>
      obtain ⟨k, n⟩ := x
      rw [List.cons_append, composeAfter, composeAfter]
      split
      · exact ih _ _ _
      · split
        · rw [ih]
          simp
        · exact ih _ _ _

theorem composeAll_append (xs ys : List (Nat × Nat)) :
    composeAll (xs ++ (0, 0x5F) :: ys) = composeAll xs ++ 0x5F :: composeAll ys := by
  induction xs with
  | nil =>
      rw [List.nil_append, composeAll.eq_def]
      simp only [if_true, composeAfter_lowLine, composeAll]
      rfl
  | cons x xs ih =>
      obtain ⟨k, n⟩ := x
      rw [List.cons_append, composeAll, composeAll]
      split
      · exact composeAfter_append xs ys n [] 0
      · rw [ih]
        rfl

/-- **The composed form splits at a low line.** -/
theorem normalForm_append (xs ys : List Nat) :
    normalForm (xs ++ 0x5F :: ys) = normalForm xs ++ 0x5F :: normalForm ys := by
  rw [normalForm, List.flatMap_append, List.flatMap_cons, decompose_of_lt (by decide),
    List.singleton_append, List.map_append, List.map_cons, combiningClass_of_lt (by decide),
    orderMarks_append, composeAll_append]
  rfl

/-! ## Where low lines come from -/

theorem lowLine_mem_composeAfter {l : List (Nat × Nat)} {base : Nat} {kept : List Nat}
    {high : Nat} :
    0x5F ∈ composeAfter base kept high l ↔ base = 0x5F ∨ 0x5F ∈ kept ∨ 0x5F ∈ l.map (·.2) := by
  induction l generalizing base kept high with
  | nil => simp [composeAfter, eq_comm]
  | cons x l ih =>
      obtain ⟨k, n⟩ := x
      rw [composeAfter, List.map_cons, List.mem_cons]
      split
      · rename_i joined hj
        -- neither the two that join nor what they join to is a low line
        have hc : compose? base n = some joined := by
          split at hj
          · exact hj
          · cases hj
        have hjoined : joined ≠ 0x5F := ne_lowLine_of_compose? hc
        have hbase : base ≠ 0x5F := by
          rintro rfl
          rw [compose?_lowLine] at hc
          cases hc
        have hn : 0x5F ≠ n := by
          rintro rfl
          rw [compose?_of_lt base (by decide)] at hc
          cases hc
        rw [ih]
        simp [hjoined, hbase, hn]
      · split
        · rw [List.mem_append, ih, List.mem_cons, List.mem_reverse]
          simp only [List.not_mem_nil, false_or, eq_comm (a := 0x5F), or_assoc]
        · rw [ih, List.mem_cons]
          simp only [or_assoc, or_left_comm]

theorem lowLine_mem_composeAll {l : List (Nat × Nat)} :
    0x5F ∈ composeAll l ↔ 0x5F ∈ l.map (·.2) := by
  induction l with
  | nil => rfl
  | cons x l ih =>
      obtain ⟨k, n⟩ := x
      rw [composeAll, List.map_cons, List.mem_cons]
      split
      · rw [lowLine_mem_composeAfter]
        simp [eq_comm]
      · rw [List.mem_cons, ih]

/-- The low lines of a composed form are those of the decompositions. -/
theorem lowLine_mem_normalForm {ns : List Nat} :
    0x5F ∈ normalForm ns ↔ ∃ n ∈ ns, 0x5F ∈ decompose n := by
  rw [normalForm, lowLine_mem_composeAll]
  constructor
  · intro h
    obtain ⟨p, hp, hp2⟩ := List.mem_map.mp h
    obtain ⟨m, hm, rfl⟩ := List.mem_map.mp (mem_orderMarks.mp hp)
    obtain ⟨n, hn, hmn⟩ := List.mem_flatMap.mp hm
    have hm5 : m = 0x5F := hp2
    exact ⟨n, hn, hm5 ▸ hmn⟩
  · rintro ⟨n, hn, h⟩
    have hmem : 0x5F ∈ ns.flatMap decompose := List.mem_flatMap.mpr ⟨n, hn, h⟩
    exact List.mem_map.mpr ⟨_, mem_orderMarks.mpr (List.mem_map.mpr ⟨_, hmem, rfl⟩), rfl⟩

/-! ## Code points that stay as they are -/

theorem orderMarks_of_starters (ns : List Nat) :
    orderMarks (ns.map fun n => (0, n)) = ns.map fun n => (0, n) := by
  induction ns with
  | nil => rfl
  | cons n ns ih => rw [List.map_cons, orderMarks, if_pos rfl, ih]

theorem composeAfter_of_lt {ns : List Nat} (h : ∀ n ∈ ns, n < 0x300) (base : Nat) :
    composeAfter base [] 0 (ns.map fun n => (0, n)) = base :: ns := by
  induction ns generalizing base with
  | nil => simp [composeAfter]
  | cons n ns ih =>
      have hn : n < 0x300 := h n List.mem_cons_self
      have hns : ∀ m ∈ ns, m < 0x300 := fun m hm => h m (List.mem_cons_of_mem n hm)
      simp [composeAfter, compose?_of_lt base hn, ih hns n]

theorem normalForm_of_lt {ns : List Nat} (h : ∀ n ∈ ns, n < 0xA0) : normalForm ns = ns := by
  have hclass : (ns.map fun n => (combiningClass n, n)) = ns.map fun n => (0, n) := by
    refine List.map_congr_left fun n hn => ?_
    rw [combiningClass_of_lt (lt_trans (h n hn) (by decide))]
  rw [normalForm_of_decompose fun n hn => decompose_of_lt (h n hn), hclass,
    orderMarks_of_starters]
  cases ns with
  | nil => rfl
  | cons n ns =>
      rw [List.map_cons, composeAll, if_pos rfl]
      exact composeAfter_of_lt
        (fun m hm => lt_trans (h m (List.mem_cons_of_mem n hm)) (by decide)) n

end CallBindings.Unicode

namespace CallBindings.Text

/-! ## Composed forms of texts -/

/-- The short way for small code points makes no difference. -/
theorem normalize_eq (t : Text) :
    t.normalize = (Unicode.normalForm (t.map (·.val))).map CodePoint.ofNat := by
  rw [normalize]
  split
  · rename_i h
    have hlt : ∀ n ∈ t.map (·.val), n < 0xA0 := by
      intro n hn
      obtain ⟨c, hc, rfl⟩ := List.mem_map.mp hn
      simpa using List.all_eq_true.mp h c hc
    rw [Unicode.normalForm_of_lt hlt, List.map_map]
    have hid : (CodePoint.ofNat ∘ fun c : CodePoint => c.val) = id := by
      funext c
      exact CodePoint.ofNat_val c
    rw [hid, List.map_id]
  · rfl

theorem normalize_of_lt {t : Text} (h : ∀ c ∈ t, c.val < 0xA0) : t.normalize = t := by
  rw [normalize, if_pos]
  simpa using h

theorem normalize_append_lowLine (s t : Text) :
    normalize (s ++ CodePoint.ofChar '_' :: t) =
      s.normalize ++ CodePoint.ofChar '_' :: t.normalize := by
  have hval : (CodePoint.ofChar '_').val = 0x5F := rfl
  simp only [normalize_eq, List.map_append, List.map_cons, hval, Unicode.normalForm_append]
  rfl

theorem normalize_lowLine_cons (t : Text) :
    normalize (CodePoint.ofChar '_' :: t) = CodePoint.ofChar '_' :: t.normalize :=
  normalize_append_lowLine [] t

/-- A composed form has a low line exactly if the decomposition of some code point has. -/
theorem lowLine_mem_normalize {t : Text} :
    CodePoint.ofChar '_' ∈ t.normalize ↔ ∃ c ∈ t, 0x5F ∈ Unicode.decompose c.val := by
  have hnum : ∀ n, CodePoint.ofNat n = CodePoint.ofChar '_' ↔ n = 0x5F := by
    intro n
    constructor
    · intro h
      have hv := congrArg CodePoint.val h
      rw [CodePoint.ofNat] at hv
      split at hv
      · exact hv
      · cases hv
    · rintro rfl
      rfl
  rw [normalize_eq]
  constructor
  · intro h
    obtain ⟨n, hn, he⟩ := List.mem_map.mp h
    rw [hnum] at he
    obtain ⟨m, hm, hd⟩ := Unicode.lowLine_mem_normalForm.mp (he ▸ hn)
    obtain ⟨c, hc, rfl⟩ := List.mem_map.mp hm
    exact ⟨c, hc, hd⟩
  · rintro ⟨c, hc, hd⟩
    have hmem : 0x5F ∈ Unicode.normalForm (t.map (·.val)) :=
      Unicode.lowLine_mem_normalForm.mpr ⟨c.val, List.mem_map.mpr ⟨c, hc, rfl⟩, hd⟩
    exact List.mem_map.mpr ⟨0x5F, hmem, rfl⟩

end CallBindings.Text
