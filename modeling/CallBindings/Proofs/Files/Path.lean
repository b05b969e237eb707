import CallBindings.Files.Store
import CallBindings.Proofs.Text.Listed

set_option autoImplicit false

/-! # Paths that the system takes

The system takes a path without null and without surrogates, those that stand for single bytes
aside. Paths that are made of others have no code points but theirs, slashes and dots, so the system
takes them as well.
-/

namespace CallBindings

open Text

namespace Files

variable {p q base : Text}

/-- Whether all code points can stand in a path that is given to the system. -/
def IsUsable (p : Text) : Prop := ∀ c ∈ p, c.val ≠ 0 ∧ (c.isSurrogate = true → isByte c = true)

instance (p : Text) : Decidable (IsUsable p) := inferInstanceAs (Decidable (∀ c ∈ p, _))

theorem unencodable?_eq_none_iff :
    unencodable? p = none ↔ ∀ c ∈ p, c.isSurrogate = true → isByte c = true := by
  have hdrop : p.dropWhile (fun c => !c.isSurrogate || isByte c) = [] ↔
      ∀ c ∈ p, c.isSurrogate = true → isByte c = true := by
    rw [List.dropWhile_eq_nil_iff]
    refine forall₂_congr fun c _ => ?_
    cases c.isSurrogate <;> simp
  rw [← hdrop, unencodable?]
  split
  · next hnil => simp [hnil]
  · next hcons => simp [hcons]

theorem check_eq_ok_iff : check p = .ok () ↔ IsUsable p := by
  have hnull : (p.any fun c => decide (c.val = 0)) = false ↔ ∀ c ∈ p, c.val ≠ 0 := by
    simp
  rw [check]
  cases hencode : unencodable? p with
  | some e =>
      have hnone : ¬ IsUsable p := by
        intro h
        rw [unencodable?_eq_none_iff.mpr fun c hc => (h c hc).2] at hencode
        cases hencode
      simp [hnone]
  | none =>
      have hsome := unencodable?_eq_none_iff.mp hencode
      have husable : IsUsable p ↔ ∀ c ∈ p, c.val ≠ 0 :=
        ⟨fun h c hc => (h c hc).1, fun h c hc => ⟨h c hc, hsome c hc⟩⟩
      rw [husable, ← hnull]
      cases p.any fun c => decide (c.val = 0) <;> simp

theorem IsUsable.of_subset (h : IsUsable p) (hsub : q ⊆ p) : IsUsable q :=
  fun c hc => h c (hsub hc)

theorem IsUsable.append (hp : IsUsable p) (hq : IsUsable q) : IsUsable (p ++ q) := by
  intro c hc
  rcases List.mem_append.mp hc with hc | hc
  · exact hp c hc
  · exact hq c hc

theorem isUsable_nil : IsUsable [] := fun _ hc => absurd hc List.not_mem_nil

theorem isUsable_slash : IsUsable (ofString "/") := by decide

theorem isUsable_join {names : List Text} (h : ∀ name ∈ names, IsUsable name) :
    IsUsable (Text.join (ofString "/") names) := by
  cases names with
  | nil => exact isUsable_nil
  | cons name names =>
      rw [join_cons]
      refine (h name List.mem_cons_self).append fun c hc => ?_
      obtain ⟨other, hother, hc⟩ := List.mem_flatMap.mp hc
      exact isUsable_slash.append (h other (List.mem_cons_of_mem name hother)) c hc

theorem IsUsable.names (h : IsUsable p) : ∀ name ∈ Path.names p, IsUsable name :=
  fun _ hname => h.of_subset (subset_of_mem_splitAt (List.mem_of_mem_filter hname))

theorem isUsable_root (p : Text) : IsUsable (Path.root p) := by
  rw [Path.root]
  split
  · decide
  · split
    · exact isUsable_slash
    · exact isUsable_nil

theorem isUsable_follow {absolute : Bool} {above : List Text} {name : Text}
    (habove : ∀ n ∈ above, IsUsable n) (hname : IsUsable name) :
    ∀ n ∈ Path.follow absolute above name, IsUsable n := by
  have hcons : ∀ n ∈ name :: above, IsUsable n := List.forall_mem_cons.mpr ⟨hname, habove⟩
  unfold Path.follow
  split
  · exact habove
  · split
    · cases above with
      | nil =>
          cases absolute
          · exact hcons
          · exact List.forall_mem_nil _
      | cons last rest =>
          simp only
          split
          · exact hcons
          · exact fun n hn => habove n (List.mem_cons_of_mem last hn)
    · exact hcons

theorem isUsable_foldl_follow (absolute : Bool) {names above : List Text}
    (hnames : ∀ n ∈ names, IsUsable n) (habove : ∀ n ∈ above, IsUsable n) :
    ∀ n ∈ names.foldl (Path.follow absolute) above, IsUsable n := by
  induction names generalizing above with
  | nil => exact habove
  | cons name names ih =>
      obtain ⟨hname, hnames⟩ := List.forall_mem_cons.mp hnames
      exact ih hnames (isUsable_follow habove hname)

theorem IsUsable.normalize (h : IsUsable p) : IsUsable (Path.normalize p) := by
  have hnames := isUsable_foldl_follow (Path.isAbsolute p) h.names (List.forall_mem_nil _)
  have hnormal := (isUsable_root p).append
    (isUsable_join fun n hn => hnames n (List.mem_reverse.mp hn))
  rw [Path.normalize]
  split
  · decide
  · exact hnormal

theorem IsUsable.pathJoin (hbase : IsUsable base) (hp : IsUsable p) :
    IsUsable (Path.join base p) := by
  rw [Path.join]
  split
  · exact hp
  · split
    · exact hbase.append hp
    · exact (hbase.append isUsable_slash).append hp

theorem IsUsable.parent (h : IsUsable p) : IsUsable (Path.parent p) := by
  have hdrop : ∀ (keep : CodePoint → Bool) {t : Text}, (t.reverse.dropWhile keep).reverse ⊆ t := by
    intro keep t c hc
    have hc := (List.dropWhile_sublist keep).mem (List.mem_reverse.mp hc)
    exact List.mem_reverse.mp hc
  refine h.of_subset ?_
  rw [Path.parent]
  split
  · exact hdrop _
  · exact List.Subset.trans (hdrop _) (hdrop _)

theorem IsUsable.ancestry (h : IsUsable p) : ∀ q ∈ Path.ancestry p, IsUsable q := by
  rw [Path.ancestry]
  refine List.forall_mem_map.mpr fun i _ => (isUsable_root p).append (isUsable_join fun n hn => ?_)
  exact h.names n (List.mem_of_mem_take hn)

variable {fs : Files}

theorem IsUsable.absolute (hcurrent : IsUsable fs.currentPath) (h : IsUsable p) :
    IsUsable (fs.absolute p) := (hcurrent.pathJoin h).normalize

theorem IsUsable.parentOf (hcurrent : IsUsable fs.currentPath) (h : IsUsable p) :
    IsUsable (fs.parentOf p) := (hcurrent.absolute h).parent

end Files

end CallBindings
