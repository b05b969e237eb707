import CallBindings.Files.Search
import CallBindings.Proofs.Files.Sound
import CallBindings.Proofs.Files.Store

set_option autoImplicit false

/-! # Paths that are put together

A path is put together by writing a relative one behind it, with a slash between them unless there
is one already. The names of both are then those of the whole, and the slashes at its front stay as
they are. The normal form of an absolute path has the names of the place that its names come to.
-/

namespace CallBindings

open Text

namespace Path

variable {p q base : Text}

/-! ## Slashes -/

theorem isAbsolute_iff : isAbsolute p = true ↔ ∃ q, p = CodePoint.ofChar '/' :: q := by
  rw [isAbsolute, startsWith, Option.isSome_iff_exists]
  exact exists_congr fun q => dropStart?_eq_some_iff

theorem isAbsolute_cons (c : CodePoint) (q : Text) :
    isAbsolute (c :: q) = decide (c = CodePoint.ofChar '/') := by
  rw [Bool.eq_iff_iff, isAbsolute_iff, decide_eq_true_eq]
  constructor
  · rintro ⟨q', h⟩
    exact (List.cons.inj h).1
  · rintro rfl
    exact ⟨q, rfl⟩

theorem ne_nil_of_isAbsolute (hp : isAbsolute p = true) : p ≠ [] := by
  rintro rfl
  cases hp

theorem endsWith_slash_iff : endsWith p "/" = true ↔ p.getLast? = some (CodePoint.ofChar '/') := by
  have hslash : (ofString "/").reverse = [CodePoint.ofChar '/'] := rfl
  rw [endsWith, startsWith, Option.isSome_iff_exists, hslash, List.getLast?_eq_head?_reverse,
    List.head?_eq_some_iff]
  exact exists_congr fun q => dropStart?_eq_some_iff

theorem endsWith_append (hq : q ≠ []) : endsWith (p ++ q) "/" = endsWith q "/" := by
  rw [Bool.eq_iff_iff, endsWith_slash_iff, endsWith_slash_iff, List.getLast?_append_of_ne_nil _ hq]

theorem endsWith_concat_slash (p : Text) : endsWith (p ++ ofString "/") "/" = true := by
  rw [endsWith_slash_iff]
  exact List.getLast?_concat

/-! ## Writing one path behind another -/

/-- With nothing behind it, a path gets a slash at its end. -/
theorem join_nil (p : Text) :
    join p [] = if p.isEmpty || endsWith p "/" then p else p ++ ofString "/" := by
  have hnil : isAbsolute [] = false := rfl
  rw [join, hnil, if_neg Bool.false_ne_true, List.append_nil, List.append_nil]

/-- A relative path is written behind the slash of the path in front of it. -/
theorem join_eq (hq : isAbsolute q = false) (base : Text) : join base q = join base [] ++ q := by
  rw [join, join_nil, hq, if_neg Bool.false_ne_true]
  split
  · rfl
  · rfl

theorem prefix_join_nil (p : Text) : p <+: join p [] := by
  rw [join_nil]
  split
  · exact List.prefix_rfl
  · exact List.prefix_append _ _

theorem endsWith_join_nil (hbase : base ≠ []) : endsWith (join base []) "/" = true := by
  rw [join_nil]
  split
  · next h =>
      rw [Bool.or_eq_true] at h
      exact h.resolve_left (by simpa using hbase)
  · exact endsWith_concat_slash base

theorem join_nil_ne_nil (hbase : base ≠ []) : join base [] ≠ [] := by
  intro h
  have hends := endsWith_join_nil hbase
  rw [h] at hends
  cases hends

theorem isAbsolute_append (hp : p ≠ []) (q : Text) : isAbsolute (p ++ q) = isAbsolute p := by
  obtain ⟨c, p, rfl⟩ := List.exists_cons_of_ne_nil hp
  rw [List.cons_append, isAbsolute_cons, isAbsolute_cons]

theorem isAbsolute_join (hbase : isAbsolute base = true) (q : Text) :
    isAbsolute (join base q) = true := by
  have hne := ne_nil_of_isAbsolute hbase
  rw [join]
  split
  · assumption
  · split
    · rw [isAbsolute_append hne, hbase]
    · rw [List.append_assoc, isAbsolute_append hne, hbase]

theorem names_append_slash (p q : Text) :
    names (p ++ CodePoint.ofChar '/' :: q) = names p ++ names q := by
  -- a slash ends the last piece of the text in front of it
  obtain ⟨front, last, hlast, hcut⟩ := exists_splitAt_append (CodePoint.ofChar '/') p
  have hp := hcut []
  rw [List.append_nil, List.append_nil, splitAt_of_not_mem hlast] at hp
  rw [names, names, names, hcut, splitAt_append_cons hlast, hp, ← List.filter_append,
    List.append_assoc, List.singleton_append]

theorem names_join_nil (base : Text) : names (join base []) = names base := by
  rw [join_nil]
  split
  · rfl
  · exact (names_append_slash base []).trans (List.append_nil _)

theorem names_join (hq : isAbsolute q = false) (base : Text) :
    names (join base q) = names base ++ names q := by
  by_cases hbase : base = []
  · subst hbase
    rw [join_eq hq]
    rfl
  · have hends := endsWith_slash_iff.mp (endsWith_join_nil hbase)
    obtain ⟨front, hfront⟩ := List.getLast?_eq_some_iff.mp hends
    have hnames := names_join_nil base
    rw [hfront] at hnames
    have hnil : names [] = [] := rfl
    rw [names_append_slash, hnil, List.append_nil] at hnames
    rw [join_eq hq, hfront, List.append_assoc, List.singleton_append, names_append_slash, hnames]

/-- Every code point but the slashes is in one of the names. -/
theorem exists_mem_names {c : CodePoint} (hc : c ∈ p) (hslash : c ≠ CodePoint.ofChar '/') :
    ∃ name ∈ names p, c ∈ name := by
  -- cutting at the slashes loses nothing but the slashes
  have hpiece : ∃ piece ∈ splitAt (CodePoint.ofChar '/') p, c ∈ piece := by
    induction p with
    | nil => cases hc
    | cons d p ih =>
        rw [splitAt]
        rcases List.mem_cons.mp hc with rfl | hc
        · rw [if_neg hslash]
          split
          · exact ⟨_, List.mem_cons_self, List.mem_cons_self⟩
          · exact ⟨_, List.mem_cons_self, List.mem_cons_self⟩
        · obtain ⟨piece, hpiece, hmem⟩ := ih hc
          split
          · exact ⟨piece, List.mem_cons_of_mem _ hpiece, hmem⟩
          · split
            · next hnone =>
                rw [hnone] at hpiece
                cases hpiece
            · next first rest hcut =>
                rw [hcut] at hpiece
                rcases List.mem_cons.mp hpiece with rfl | hpiece
                · exact ⟨_, List.mem_cons_self, List.mem_cons_of_mem d hmem⟩
                · exact ⟨piece, List.mem_cons_of_mem _ hpiece, hmem⟩
  obtain ⟨piece, hpiece, hmem⟩ := hpiece
  refine ⟨piece, List.mem_filter.mpr ⟨hpiece, ?_⟩, hmem⟩
  simpa using List.ne_nil_of_mem hmem

theorem names_ne_nil {c : CodePoint} (hc : c ∈ p) (hslash : c ≠ CodePoint.ofChar '/') :
    names p ≠ [] := by
  obtain ⟨name, hname, -⟩ := exists_mem_names hc hslash
  exact List.ne_nil_of_mem hname

theorem isUsable_of_names (h : ∀ name ∈ names p, Files.IsUsable name) : Files.IsUsable p := by
  intro c hc
  by_cases hslash : c = CodePoint.ofChar '/'
  · rw [hslash]
    decide
  · obtain ⟨name, hname, hmem⟩ := exists_mem_names hc hslash
    exact h name hname c hmem

theorem names_ne_nil_of_relative (hq : isAbsolute q = false) (hne : q ≠ []) : names q ≠ [] := by
  obtain ⟨c, q, rfl⟩ := List.exists_cons_of_ne_nil hne
  rw [isAbsolute_cons, decide_eq_false_iff_not] at hq
  exact names_ne_nil List.mem_cons_self hq

theorem steps_join (hq : isAbsolute q = false) (hne : q ≠ []) (base : Text) :
    steps (join base q) = names base ++ steps q := by
  have hends : endsWith (join base q) "/" = endsWith q "/" := by
    rw [join_eq hq, endsWith_append hne]
  rw [steps, names_join hq, hends, steps, List.append_assoc]

theorem steps_join_nil (hbase : base ≠ []) :
    steps (join base []) = names base ++ [ofString "."] := by
  rw [steps, names_join_nil, endsWith_join_nil hbase, if_pos rfl]

/-! ## Names that are written as a path -/

/-- Whether some names can be written with slashes between them. -/
def AreWritable (names : List Text) : Prop :=
  ∀ name ∈ names, name ≠ [] ∧ CodePoint.ofChar '/' ∉ name

theorem areWritable_of_isName {names : List Text} (h : ∀ name ∈ names, IsName name) :
    AreWritable names := fun name hname => ⟨(h name hname).ne_nil, (h name hname).slash⟩

theorem areWritable_names (p : Text) : AreWritable (names p) := by
  intro name hname
  obtain ⟨hpiece, hne⟩ := List.mem_filter.mp hname
  exact ⟨by simpa using hne, not_mem_of_mem_splitAt hpiece⟩

variable {written : List Text}

theorem join_ne_nil (h : AreWritable written) (hne : written ≠ []) :
    Text.join (ofString "/") written ≠ [] := by
  obtain ⟨name, rest, rfl⟩ := List.exists_cons_of_ne_nil hne
  rw [join_cons]
  exact fun hnil => (h name List.mem_cons_self).1 (List.append_eq_nil_iff.mp hnil).1

theorem isAbsolute_written (h : AreWritable written) :
    isAbsolute (Text.join (ofString "/") written) = false := by
  cases written with
  | nil => rfl
  | cons name rest =>
      obtain ⟨hne, hslash⟩ := h name List.mem_cons_self
      obtain ⟨c, name, rfl⟩ := List.exists_cons_of_ne_nil hne
      rw [join_cons, List.cons_append, isAbsolute_cons, decide_eq_false_iff_not]
      rintro rfl
      exact hslash List.mem_cons_self

theorem endsWith_written (h : AreWritable written) :
    endsWith (Text.join (ofString "/") written) "/" = false := by
  rw [Bool.eq_false_iff, Ne, endsWith_slash_iff]
  induction written with
  | nil => rintro ⟨⟩
  | cons name rest ih =>
      obtain ⟨hname, hrest⟩ := List.forall_mem_cons.mp h
      cases rest with
      | nil => exact fun hlast => hname.2 (List.mem_of_getLast? hlast)
      | cons next rest =>
          show (name ++ ofString "/" ++ Text.join (ofString "/") (next :: rest)).getLast? ≠ _
          rw [List.getLast?_append_of_ne_nil _ (join_ne_nil hrest (List.cons_ne_nil next rest))]
          exact ih hrest

theorem steps_written (h : AreWritable written) :
    steps (Text.join (ofString "/") written) = written := by
  rw [steps, endsWith_written h, Files.names_join h, if_neg Bool.false_ne_true, List.append_nil]

/-- What is put behind a path leaves the slashes at its front as they are, unless slashes meet. -/
theorem root_append (hp : isAbsolute p = true) (h : isAbsolute q = false ∨ endsWith p "/" = false) :
    root (p ++ q) = root p := by
  have htwo : ∀ r : Text, startsWith (CodePoint.ofChar '/' :: r) "//" = isAbsolute r := fun _ => rfl
  have hthree : ∀ r : Text, startsWith (CodePoint.ofChar '/' :: CodePoint.ofChar '/' :: r) "///" =
    isAbsolute r := fun _ => rfl
  -- what is left behind some slashes begins with one more or not, as it did before
  have hrest : ∀ front r : Text, p = front ++ CodePoint.ofChar '/' :: r →
      isAbsolute (r ++ q) = isAbsolute r := by
    intro front r hr
    by_cases hnil : r = []
    · have hends : endsWith p "/" = true := by
        rw [hr, hnil, endsWith_slash_iff, List.getLast?_concat]
      rcases h with h | h
      · rw [hnil, List.nil_append, h]
        rfl
      · rw [hends] at h
        cases h
    · exact isAbsolute_append hnil q
  obtain ⟨r, hr⟩ := isAbsolute_iff.mp hp
  have hfirst := hrest [] r hr
  rw [hr, List.cons_append, root, root, htwo, htwo, hfirst, isAbsolute_cons, isAbsolute_cons]
  by_cases hr' : isAbsolute r = true
  · obtain ⟨r', rfl⟩ := isAbsolute_iff.mp hr'
    rw [List.cons_append, hthree, hthree, hrest [CodePoint.ofChar '/'] r' hr]
  · rw [Bool.eq_false_iff.mpr hr', Bool.false_and, Bool.false_and]

theorem root_join (hbase : isAbsolute base = true) (hq : isAbsolute q = false) :
    root (join base q) = root base := by
  rw [join, hq, if_neg Bool.false_ne_true]
  split
  · exact root_append hbase (Or.inl hq)
  · next hends =>
      rw [Bool.or_eq_true, not_or, Bool.not_eq_true, Bool.not_eq_true] at hends
      rw [List.append_assoc, root_append hbase (Or.inr hends.2)]

theorem root_eq_slashes (hp : isAbsolute p = true) :
    root p = ofString "/" ∨ root p = ofString "//" := by
  rw [root, if_pos hp]
  split
  · exact Or.inr rfl
  · exact Or.inl rfl

theorem root_root (hp : isAbsolute p = true) : root (root p) = root p := by
  rcases root_eq_slashes hp with h | h <;> rw [h] <;> rfl

theorem isAbsolute_root (hp : isAbsolute p = true) : isAbsolute (root p) = true := by
  rcases root_eq_slashes hp with h | h <;> rw [h] <;> rfl

/-! ## Normal forms -/

/-- Normalizing follows the names of an absolute path as they lead from place to place. -/
theorem follow_arrive {place : Place} (h : ofString ".." ∉ place) (name : Text) :
    follow true place.reverse name = (Files.arrive place name).reverse ∧
      ofString ".." ∉ Files.arrive place name := by
  rw [follow.eq_def, Files.arrive]
  by_cases hdot : name = ofString "."
  · rw [if_pos hdot, if_pos hdot]
    exact ⟨rfl, h⟩
  · rw [if_neg hdot, if_neg hdot]
    by_cases hdots : name = ofString ".."
    · rw [if_pos hdots, if_pos hdots]
      refine ⟨?_, fun hmem => h (List.mem_of_mem_dropLast hmem)⟩
      -- `..` stays at the root; elsewhere it takes back the last name, which is no `..` itself
      rcases List.eq_nil_or_concat' place with rfl | ⟨front, last, rfl⟩
      · rfl
      · have hlast : last ≠ ofString ".." := by
          rintro rfl
          exact h (by simp)
        rw [List.reverse_concat, List.dropLast_concat]
        simp only [if_neg hlast]
    · rw [if_neg hdots, if_neg hdots, List.reverse_concat]
      refine ⟨rfl, fun hmem => ?_⟩
      rcases List.mem_append.mp hmem with hmem | hmem
      · exact h hmem
      · exact hdots (List.mem_singleton.mp hmem).symm

theorem foldl_follow {place : Place} (h : ofString ".." ∉ place) (written : List Text) :
    written.foldl (follow true) place.reverse = (written.foldl Files.arrive place).reverse := by
  induction written generalizing place with
  | nil => rfl
  | cons name written ih =>
      obtain ⟨hfollow, harrive⟩ := follow_arrive h name
      rw [List.foldl_cons, List.foldl_cons, hfollow, ih harrive]

theorem normalize_eq (hp : isAbsolute p = true) :
    normalize p = root p ++ Text.join (ofString "/") ((names p).foldl Files.arrive []) := by
  have hroot := ne_nil_of_isAbsolute (isAbsolute_root hp)
  have hfold := @foldl_follow [] List.not_mem_nil (names p)
  rw [List.reverse_nil] at hfold
  rw [normalize, hp, hfold, List.reverse_reverse, if_neg]
  simpa using fun h => absurd h hroot

/-- Whether a path is absolute and in normal form. -/
structure IsNormal (p : Text) : Prop where
  absolute : isAbsolute p = true
  undotted : ∀ name ∈ names p, name ≠ ofString "." ∧ name ≠ ofString ".."
  eq : p = root p ++ Text.join (ofString "/") (names p)

theorem foldl_arrive_undotted {written : List Text} (h : AreWritable written) {place : Place}
    (hplace : AreWritable place ∧ ∀ name ∈ place, name ≠ ofString "." ∧ name ≠ ofString "..") :
    AreWritable (written.foldl Files.arrive place) ∧
      ∀ name ∈ written.foldl Files.arrive place, name ≠ ofString "." ∧ name ≠ ofString ".." := by
  induction written generalizing place with
  | nil => exact hplace
  | cons name written ih =>
      obtain ⟨hname, hwritten⟩ := List.forall_mem_cons.mp h
      refine ih hwritten ?_
      -- a step leaves the place, takes a name back, or adds one that is no dots
      rw [Files.arrive]
      split
      · exact hplace
      · split
        · exact ⟨fun n hn => hplace.1 n (List.mem_of_mem_dropLast hn),
            fun n hn => hplace.2 n (List.mem_of_mem_dropLast hn)⟩
        · refine ⟨List.forall_mem_append.mpr ⟨hplace.1, by simpa using hname⟩,
            List.forall_mem_append.mpr ⟨hplace.2, ?_⟩⟩
          rw [List.forall_mem_singleton]
          exact ⟨‹_›, ‹_›⟩

theorem undotted_normalize (p : Text) : AreWritable ((names p).foldl Files.arrive []) ∧
    ∀ name ∈ (names p).foldl Files.arrive [], name ≠ ofString "." ∧ name ≠ ofString ".." :=
  foldl_arrive_undotted (areWritable_names p) ⟨nofun, nofun⟩

theorem names_normalize (hp : isAbsolute p = true) :
    names (normalize p) = (names p).foldl Files.arrive [] := by
  rw [normalize_eq hp, Files.names_root_append, Files.names_join (undotted_normalize p).1]

theorem isNormal_normalize (hp : isAbsolute p = true) : IsNormal (normalize p) := by
  obtain ⟨hwritable, hdots⟩ := undotted_normalize p
  have heq := normalize_eq hp
  have hnames := names_normalize hp
  have hroot : root (normalize p) = root p := by
    rw [heq, root_append (isAbsolute_root hp) (Or.inl (isAbsolute_written hwritable)), root_root hp]
  refine ⟨?_, hnames ▸ hdots, by rw [hnames, hroot, ← heq]⟩
  rw [heq, isAbsolute_append (ne_nil_of_isAbsolute (isAbsolute_root hp)), isAbsolute_root hp]

theorem IsNormal.ne_nil (h : IsNormal p) : p ≠ [] := ne_nil_of_isAbsolute h.absolute

/-- A normal path with names ends in the last of them. -/
theorem IsNormal.endsWith_eq_false (h : IsNormal p) (hnames : names p ≠ []) :
    endsWith p "/" = false := by
  rw [h.eq, endsWith_append (join_ne_nil (areWritable_names p) hnames),
    endsWith_written (areWritable_names p)]

theorem join_append {front back : List Text} (hfront : front ≠ []) (hback : back ≠ []) :
    Text.join (ofString "/") (front ++ back) =
      Text.join (ofString "/") front ++ ofString "/" ++ Text.join (ofString "/") back := by
  obtain ⟨t, ts, rfl⟩ := List.exists_cons_of_ne_nil hfront
  obtain ⟨u, us, rfl⟩ := List.exists_cons_of_ne_nil hback
  rw [List.cons_append, join_cons, join_cons, join_cons, List.flatMap_append, List.flatMap_cons]
  simp only [List.append_assoc]

/-- A normal path without names is the root. -/
theorem IsNormal.eq_slashes (h : IsNormal p) (hnames : names p = []) :
    p = ofString "/" ∨ p = ofString "//" := by
  have heq := h.eq
  rw [hnames, show Text.join (ofString "/") [] = [] from rfl, List.append_nil] at heq
  rw [heq]
  exact root_eq_slashes h.absolute

theorem IsNormal.join_nil (h : IsNormal base) (hnames : names base ≠ []) :
    join base [] = base ++ ofString "/" := by
  have hempty : base.isEmpty = false := by simpa using h.ne_nil
  rw [Path.join_nil, hempty, h.endsWith_eq_false hnames, Bool.or_false, if_neg Bool.false_ne_true]

/-- Names behind a normal path are written behind a slash, unless one is there already. -/
theorem IsNormal.join_written (h : IsNormal base) {written : List Text} (hw : AreWritable written)
    (hne : written ≠ []) : join base (Text.join (ofString "/") written) =
      root base ++ Text.join (ofString "/") (names base ++ written) := by
  rw [join_eq (isAbsolute_written hw)]
  by_cases hnames : names base = []
  · rw [hnames, List.nil_append]
    rcases h.eq_slashes hnames with rfl | rfl <;> rfl
  · rw [h.join_nil hnames, join_append hnames hne]
    conv_lhs => rw [h.eq]
    simp only [List.append_assoc]

end Path

end CallBindings
