import CallBindings.Proofs.Files.Length
import CallBindings.Proofs.Files.Roots

set_option autoImplicit false

/-! # Directories that are not taken literally

If the names on the path of a directory, read as segments, do not stand for themselves, a file in
the directory can be missed. If they stand for something else too, a file that is found there is not
in the directory. So the names of a directory that is taken literally stand for nothing but
themselves, as far as there is room for a file whose path is a little longer.
-/

namespace CallBindings

open Text

namespace FileTree

variable {t u : FileTree} {p q : Place} {name : Text}

/-! ## Trees with one or two places -/

/-- The tree in which nothing stands but `t`, at a place. -/
def chain : Place → FileTree → FileTree
  | [], t => t
  | name :: rest, t => .directory [(name, chain rest t)]

theorem get?_chain (p : Place) (t : FileTree) : (chain p t).get? p = some t := by
  induction p with
  | nil => rfl
  | cons name p ih =>
      rw [chain, FileTree.get?, lookup?, if_pos rfl]
      exact ih

theorem isSound_chain (hp : ∀ name ∈ p, Path.IsName name) (ht : t.IsSound) :
    (chain p t).IsSound := by
  induction p with
  | nil => exact ht
  | cons name p ih =>
      obtain ⟨hname, hp⟩ := List.forall_mem_cons.mp hp
      exact .directory (List.nodup_singleton _) (List.forall_mem_singleton.mpr hname)
        (List.forall_mem_singleton.mpr (ih hp))

/-- The tree in which nothing stands but `t` and `u`, at places that are not below each other. -/
def fork : Place → FileTree → Place → FileTree → FileTree
  | name :: p, t, other :: q, u =>
    if name = other then .directory [(name, fork p t q u)]
    else .directory [(name, chain p t), (other, chain q u)]
  | p, t, _, _ => chain p t

theorem fork_spec (hp : ∀ name ∈ p, Path.IsName name) (hq : ∀ name ∈ q, Path.IsName name)
    (ht : t.IsSound) (hu : u.IsSound) (hpq : ¬ p <+: q) (hqp : ¬ q <+: p) :
    (fork p t q u).IsSound ∧ (fork p t q u).get? p = some t ∧ (fork p t q u).get? q = some u := by
  induction p generalizing q with
  | nil => exact absurd List.nil_prefix hpq
  | cons name p ih =>
      cases q with
      | nil => exact absurd List.nil_prefix hqp
      | cons other q =>
          obtain ⟨hname, hrest⟩ := List.forall_mem_cons.mp hp
          obtain ⟨hother, hrest'⟩ := List.forall_mem_cons.mp hq
          rw [fork]
          -- the paths share a directory, or part here and go on in chains of their own
          by_cases hsame : name = other
          · subst hsame
            rw [List.cons_prefix_cons, and_iff_right rfl] at hpq
            rw [List.cons_prefix_cons, and_iff_right rfl] at hqp
            obtain ⟨hsound, hget, hget'⟩ := ih hrest hrest' hpq hqp
            rw [if_pos rfl, FileTree.get?, FileTree.get?, lookup?, if_pos rfl]
            exact ⟨.directory (List.nodup_singleton _) (List.forall_mem_singleton.mpr hname)
              (List.forall_mem_singleton.mpr hsound), hget, hget'⟩
          · have hfirst : lookup? name [(name, chain p t), (other, chain q u)] =
                some (chain p t) := by
              rw [lookup?, if_pos rfl]
            have hsecond : lookup? other [(name, chain p t), (other, chain q u)] =
                some (chain q u) := by
              rw [lookup?, if_neg hsame, lookup?, if_pos rfl]
            rw [if_neg hsame, FileTree.get?, FileTree.get?, hfirst, hsecond]
            refine ⟨.directory (by simpa using hsame) ?_ ?_, get?_chain p t, get?_chain q u⟩
            · exact List.forall_mem_cons.mpr ⟨hname, List.forall_mem_singleton.mpr hother⟩
            · exact List.forall_mem_cons.mpr
                ⟨isSound_chain hrest ht, List.forall_mem_singleton.mpr (isSound_chain hrest' hu)⟩

end FileTree

namespace Search

variable {fs : Files} {names : List Text} {reading : Reading} {t base : Text}

/-! ## Readings of names -/

/-- Whether a reading is one of names as segments. -/
def ReadsAs (names : List Text) (reading : Reading) : Prop :=
  List.Forall₂ Segment.StandsFor (names.map Segment.ofText) reading

theorem ofText_eq_anyDepth_iff {u : Text} : Segment.ofText u = .anyDepth ↔ u = ofString "**" := by
  rw [Segment.ofText]
  split
  · next h => exact iff_of_true rfl h
  · next h =>
      refine iff_of_false (fun hany => ?_) h
      split at hany <;> cases hany

theorem eq_singleton_of_standsFor {s : Segment} (hs : s ≠ .anyDepth) (h : s.StandsFor names) :
    ∃ name, names = [name] := by
  cases h with
  | name t => exact ⟨t, rfl⟩
  | anyDepth _ => exact absurd rfl hs
  | pattern _ _ _ => exact ⟨_, rfl⟩

theorem isName_of_readsAs (hnames : ∀ name ∈ names, Path.IsName name) (h : ReadsAs names reading) :
    ∀ name ∈ reading.flatten, Path.IsName name := by
  induction names generalizing reading with
  | nil =>
      cases h
      exact nofun
  | cons name names ih =>
      obtain ⟨hname, hnames⟩ := List.forall_mem_cons.mp hnames
      obtain ⟨first, rest, hfirst, hrest, rfl⟩ := List.forall₂_cons_left_iff.mp h
      rw [List.flatten_cons, List.forall_mem_append]
      refine ⟨?_, ih hnames hrest⟩
      -- the segment is generalized, so that the cases are those of what a segment stands for
      generalize hs : Segment.ofText name = s at hfirst
      cases hfirst with
      | name t =>
          rw [← eq_of_name_eq_ofText hs.symm] at hname
          exact List.forall_mem_singleton.mpr hname
      | anyDepth hall => exact fun n hn => (hall n hn).1
      | pattern hn _ _ => exact List.forall_mem_singleton.mpr hn

/-- If the segments for any number of names stand for none, a reading gets shorter. -/
theorem exists_shorter (h : ReadsAs names reading) : ∃ shorter, ReadsAs names shorter ∧
    shorter.flatten.Sublist reading.flatten ∧ shorter.flatten.length ≤ names.length ∧
      (ofString "**" ∈ names → shorter.flatten.length < names.length) := by
  induction names generalizing reading with
  | nil =>
      cases h
      exact ⟨[], .nil, List.Sublist.refl _, le_rfl, nofun⟩
  | cons name names ih =>
      obtain ⟨first, rest, hfirst, hrest, rfl⟩ := List.forall₂_cons_left_iff.mp h
      obtain ⟨shorter, hshorter, hsublist, hlength, hless⟩ := ih hrest
      by_cases hs : Segment.ofText name = .anyDepth
      · -- `**` may stand for nothing, which saves a name
        refine ⟨[] :: shorter, .cons (hs ▸ .anyDepth nofun) hshorter, ?_, ?_, fun _ => ?_⟩
        · rw [List.flatten_cons, List.flatten_cons, List.nil_append]
          exact hsublist.trans (List.sublist_append_right _ _)
        · rw [List.flatten_cons, List.nil_append, List.length_cons]
          omega
        · rw [List.flatten_cons, List.nil_append, List.length_cons]
          omega
      · -- any other segment stands for exactly one name
        obtain ⟨u, rfl⟩ := eq_singleton_of_standsFor hs hfirst
        refine ⟨[u] :: shorter, .cons hfirst hshorter, ?_, ?_, fun hmem => ?_⟩
        · rw [List.flatten_cons, List.flatten_cons]
          exact hsublist.append_left [u]
        · rw [List.flatten_cons, List.singleton_append, List.length_cons, List.length_cons]
          omega
        · rcases List.mem_cons.mp hmem with hname | hmem
          · exact absurd (ofText_eq_anyDepth_iff.mpr hname.symm) hs
          · have hless := hless hmem
            rw [List.flatten_cons, List.singleton_append, List.length_cons, List.length_cons]
            omega

/-- Without segments for any number of names, names are read as names, one for each. -/
theorem exists_eq_asWritten (hdepth : ofString "**" ∉ names) (h : ReadsAs names reading) :
    ∃ others, reading = asWritten others ∧ others.length = names.length := by
  induction names generalizing reading with
  | nil =>
      cases h
      exact ⟨[], rfl, rfl⟩
  | cons name names ih =>
      obtain ⟨hname, hdepth⟩ := List.ne_and_not_mem_of_not_mem_cons hdepth
      obtain ⟨first, rest, hfirst, hrest, rfl⟩ := List.forall₂_cons_left_iff.mp h
      obtain ⟨u, rfl⟩ := eq_singleton_of_standsFor
        (fun hs => hname (ofText_eq_anyDepth_iff.mp hs).symm) hfirst
      obtain ⟨others, rfl, hlength⟩ := ih hdepth hrest
      exact ⟨u :: others, rfl, by rw [List.length_cons, List.length_cons, hlength]⟩

/-- Names that stand for themselves and for something else can be exchanged one at a time. -/
theorem exists_exchanged {others : List Text} (hself : ReadsAs names (asWritten names))
    (h : ReadsAs names (asWritten others)) (hne : others ≠ names) :
    ∃ exchanged : List Text, ReadsAs names (asWritten exchanged) ∧
      exchanged.length = names.length ∧ exchanged ≠ names ∧
      weight exchanged ≤ weight names + Files.nameLimit := by
  induction names generalizing others with
  | nil =>
      cases others with
      | nil => exact absurd rfl hne
      | cons other others => cases h
  | cons name names ih =>
      cases others with
      | nil => cases h
      | cons other others =>
          obtain ⟨hname, hnames⟩ := List.forall₂_cons.mp hself
          obtain ⟨hother, hothers⟩ := List.forall₂_cons.mp h
          -- the first name that differs is exchanged, and those behind it stay as they are
          by_cases hsame : other = name
          · subst hsame
            obtain ⟨exchanged, hreads, hlength, hne, hweight⟩ :=
              ih hnames hothers fun hothers => hne (congrArg _ hothers)
            refine ⟨other :: exchanged, .cons hname hreads, by simpa using hlength,
              by simpa using hne, ?_⟩
            rw [weight_cons, weight_cons]
            omega
          · refine ⟨other :: names, .cons hother hnames, rfl, by simpa using hsame, ?_⟩
            have hsize : Files.size other ≤ Files.nameLimit := by
              generalize hs : Segment.ofText name = s at hother
              cases hother with
              | name t => exact absurd (eq_of_name_eq_ofText hs.symm) hsame
              | anyDepth hall => exact (hall other List.mem_cons_self).1.size
              | pattern hn _ _ => exact hn.size
            rw [weight_cons, weight_cons]
            omega

/-- Names that are read as written, and in another way, are read as other names that take up little
more room. -/
theorem exists_stray (hself : ReadsAs names reading) (hflatten : reading.flatten = names)
    (h : ¬ ∀ reading, ReadsAs names reading ↔ reading = asWritten names) :
    ∃ stray, ReadsAs names stray ∧ stray.flatten ≠ names ∧
      stray.flatten.length ≤ names.length ∧
      weight stray.flatten ≤ weight names + Files.nameLimit := by
  -- with `**` there is a shorter reading; without it a reading has one name for each segment
  by_cases hdepth : ofString "**" ∈ names
  · obtain ⟨shorter, hshorter, hsublist, hlength, hless⟩ := exists_shorter hself
    refine ⟨shorter, hshorter, fun heq => ?_, hlength, ?_⟩
    · have hless := hless hdepth
      rw [heq] at hless
      exact absurd hless (lt_irrefl _)
    · have hweight := weight_le_of_sublist hsublist
      rw [hflatten] at hweight
      omega
  · obtain ⟨others, rfl, -⟩ := exists_eq_asWritten hdepth hself
    rw [flatten_asWritten] at hflatten
    subst hflatten
    obtain ⟨other, hother⟩ := not_forall.mp h
    have hreads : ReadsAs others other ∧ other ≠ asWritten others := by
      by_contra hnot
      refine hother ⟨fun hreads => ?_, fun heq => heq ▸ hself⟩
      by_contra hne
      exact hnot ⟨hreads, hne⟩
    obtain ⟨hreads, hne⟩ := hreads
    obtain ⟨others', rfl, -⟩ := exists_eq_asWritten hdepth hreads
    obtain ⟨exchanged, hexchanged, hlength, hdiffers, hweight⟩ :=
      exists_exchanged hself hreads fun heq => hne (congrArg asWritten heq)
    refine ⟨asWritten exchanged, hexchanged, ?_, ?_, ?_⟩
    · rwa [flatten_asWritten]
    · rw [flatten_asWritten, hlength]
    · rwa [flatten_asWritten]

/-! ## Searches for the name of a file -/

section Name

variable {y directory pattern : Text} {root : FileTree} {entries : List (Text × FileTree)}

theorem areWritable_singleton (hy : Path.IsName y) : Path.AreWritable [y] :=
  Path.areWritable_of_isName (List.forall_mem_singleton.mpr hy)

theorem isAbsolute_of_isName (hy : Path.IsName y) : Path.isAbsolute y = false :=
  Path.isAbsolute_written (areWritable_singleton hy)

theorem steps_of_isName (hy : Path.IsName y) : Path.steps y = [y] :=
  Path.steps_written (areWritable_singleton hy)

theorem names_of_isName (hy : Path.IsName y) : Path.names y = [y] :=
  Files.names_join (areWritable_singleton hy)

theorem segmentsBehind_of_isName (hy : Path.IsName y) (hplain : Path.IsPlain y) :
    segmentsBehind y = [.name y] := by
  rw [segmentsBehind, steps_of_isName hy, Files.footsteps, if_neg (List.cons_ne_nil _ _),
    List.map_singleton, ofText_of_plain hplain]

/-- What a path is put together from does not matter for where it leads, if a name comes last. -/
theorem foldlM_footsteps_concat (root : FileTree) (place : Place) (reading : Reading) (y : Text) :
    ((reading ++ [[y]]).flatMap Files.footsteps).foldlM (Files.step root) place =
      (reading.flatten ++ [y]).foldlM (Files.step root) place := by
  induction reading generalizing place with
  | nil => rfl
  | cons names reading ih =>
      rw [List.cons_append, List.flatMap_cons, List.flatten_cons, List.append_assoc,
        Files.footsteps]
      split
      · next hnil =>
          have hne : (reading ++ [[y]]).flatMap Files.footsteps ≠ [] := by
            rw [List.flatMap_append]
            exact List.append_ne_nil_of_right_ne_nil _ (List.cons_ne_nil _ _)
          rw [hnil, List.singleton_append, foldlM_dot_append hne, ih, List.nil_append]
      · rw [List.foldlM_append, List.foldlM_append]
        exact congrArg _ (funext fun next => ih next)

theorem destination_concat (hreading : ∀ name ∈ reading.flatten, Path.IsName name)
    (hy : Path.IsName y) : destination (reading ++ [[y]]) = reading.flatten ++ [y] := by
  have hflatten : (reading ++ [[y]]).flatten = reading.flatten ++ [y] := by simp
  rw [destination, hflatten, Files.foldl_arrive_of_isName
    (List.forall_mem_append.mpr ⟨hreading, List.forall_mem_singleton.mpr hy⟩), List.nil_append]

/-- A reading of a text is that of the names in front of the cut, and one of what is behind it. -/
theorem IsCut.exists_back {front rest : Text} (h : IsCut t front rest)
    (hreading : List.Forall₂ Segment.StandsFor (allSegments t) reading ∨
      reading = asWritten (Path.steps t)) :
    ∃ back : Reading, reading = asWritten (Path.names front) ++ back ∧
      back.length = (Path.steps rest).length ∧ ∀ names ∈ back, Path.AreWritable names := by
  rcases hreading with hreading | hreading
  · rw [allSegments, h.steps_eq, List.map_append] at hreading
    obtain ⟨first, back, hfirst, hback, rfl⟩ := exists_append_of_forall₂ hreading
    rw [map_ofText_of_plain fun name => isPlain_of_mem_names h.plain] at hfirst
    have hplan := h.plan_eq
    exact ⟨back, by rw [forall₂_name_iff.mp hfirst], by rw [← hback.length_eq, List.length_map],
      areWritable_of_reading (t := t) (by rwa [hplan])⟩
  · refine ⟨asWritten (Path.steps rest), ?_, List.length_map _, ?_⟩
    · rw [hreading, h.steps_eq, asWritten, List.map_append]
      rfl
    · intro names hnames
      obtain ⟨name, hname, rfl⟩ := List.mem_map.mp hnames
      refine List.forall_mem_singleton.mpr ?_
      rcases List.mem_append.mp hname with hname | hdot
      · exact Path.areWritable_names rest name hname
      · split at hdot
        · rw [List.mem_singleton.mp hdot]
          decide
        · cases hdot

/-- A path along a reading that does not take up too much more room is followed. -/
theorem fits_of_weight (ht : Path.isAbsolute t = true) (hspecial : ¬ Path.IsPlain t)
    (hreading : List.Forall₂ Segment.StandsFor (allSegments t) reading ∨
      reading = asWritten (Path.steps t))
    (hroom : Files.size t + weight reading.flatten + 1 < Files.pathLimit + weight (Path.names t)) :
    Fits t reading := by
  obtain ⟨front, rest, hcut⟩ := exists_isCut hspecial
  obtain ⟨back, rfl, hlength, hback⟩ := hcut.exists_back hreading
  have hsize := size_pathAlong_le hcut ht hlength hback
  rw [Fits, fits_iff]
  exact ⟨Path.ne_nil_of_isAbsolute (isAbsolute_along ((isAbsolute_opening t).trans ht) _),
    by omega⟩

/-- Whether there is room for a file in a directory, also if a name on its path gets as long as
names can be. -/
structure HasRoom (base : Text) : Prop where
  normal : Path.IsNormal base
  isName : ∀ name ∈ Path.names base, Path.IsName name
  size : Files.size base + Files.nameLimit + 3 < Files.pathLimit
  depth : (Path.names base).length < segmentLimit

theorem HasRoom.absolute_eq (h : HasRoom base) (fs : Files) : fs.absolute base = base := by
  have hnormal := h.normal
  rw [Files.absolute, Path.absolute, Path.join, if_pos hnormal.absolute,
    Path.normalize_eq hnormal.absolute, Files.foldl_arrive_of_isName h.isName, List.nil_append,
    ← hnormal.eq]

/-- There is an answer to a search for a name. -/
theorem HasRoom.exists_find (h : HasRoom base) (hy : Path.IsName y) (hplain : Path.IsPlain y)
    (fs : Files) : ∃ found, find fs base y = .ok found := by
  have hrelative := isAbsolute_of_isName hy
  have hsegments := allSegments_join h.normal.ne_nil hrelative
  obtain ⟨front, hfront, -⟩ := exists_isFront (Path.join base y)
  rw [hfront, segmentsBehind_of_isName hy hplain] at hsegments
  have hlength := congrArg List.length hsegments
  rw [List.length_append, List.length_append, List.length_map, List.length_map,
    List.length_singleton] at hlength
  have hdepth := h.depth
  have husable : Files.IsUsable (Path.join base y) := by
    refine Path.isUsable_of_names fun name hname => ?_
    rw [Path.names_join hrelative] at hname
    rcases List.mem_append.mp hname with hname | hname
    · exact (h.isName name hname).usable
    · exact hy.usable.names name hname
  rw [find, written, h.absolute_eq fs]
  exact exists_findWritten_iff.mpr (Or.inr ⟨by omega, isUsable_plan husable⟩)

theorem HasRoom.fits (h : HasRoom base) (hspecial : ¬ Path.IsPlain base) (hy : Path.IsName y)
    (hplain : Path.IsPlain y) (hone : Files.size y = 1)
    (hreading : ReadsAs (Path.names base) reading ∨ reading = asWritten (Path.names base))
    (hweight : weight reading.flatten ≤ weight (Path.names base) + Files.nameLimit) :
    Fits (Path.join base y) (reading ++ [[y]]) := by
  have hrelative := isAbsolute_of_isName hy
  have hnames : Path.names (Path.join base y) = Path.names base ++ [y] := by
    rw [Path.names_join hrelative, names_of_isName hy]
  have hsteps : Path.steps (Path.join base y) = Path.names base ++ [y] := by
    rw [Path.steps_join hrelative hy.ne_nil, steps_of_isName hy]
  have hbehind : ¬ Path.IsPlain (Path.join base y) := by
    rw [Path.join_eq hrelative]
    exact fun hall => hspecial fun c hc => hall c
      (List.mem_append_left _ ((Path.prefix_join_nil base).subset hc))
  have hlonger : Files.size (Path.join base y) ≤ Files.size base + 2 := by
    rw [Path.join_eq hrelative, size_append, hone]
    exact Nat.add_le_add_right (size_join_nil_le base) 1
  have hreading : List.Forall₂ Segment.StandsFor (allSegments (Path.join base y))
      (reading ++ [[y]]) ∨ reading ++ [[y]] = asWritten (Path.steps (Path.join base y)) := by
    refine hreading.imp (fun hreads => ?_) fun hwritten => ?_
    · rw [allSegments_join h.normal.ne_nil hrelative, segmentsBehind_of_isName hy hplain]
      exact List.rel_append hreads (.cons (.name y) .nil)
    · rw [hwritten, hsteps, asWritten, asWritten, List.map_append, List.map_singleton]
  -- the last name and its slash weigh the same on both sides, and the rest has room
  refine fits_of_weight (Path.isAbsolute_join h.normal.absolute y) hbehind hreading ?_
  have hlast : weight [y] = 2 := by
    rw [weight_cons, hone]
    rfl
  have hflatten : (reading ++ [[y]]).flatten = reading.flatten ++ [y] := by simp
  have hroom := h.size
  rw [hnames, hflatten, weight_append, weight_append]
  omega

/-- A reading of the names of a directory, with a file at its end, is a route. -/
theorem HasRoom.isRoute_concat (h : HasRoom base) (hy : Path.IsName y) (hplain : Path.IsPlain y)
    (hroot : root.IsSound) (hreads : ReadsAs (Path.names base) reading) {content : Bytes}
    (hfile : root.get? (reading.flatten ++ [y]) = some (.file content)) :
    IsRoute root (allSegments (Path.join base y)) (reading ++ [[y]]) := by
  have hdestination := destination_concat (isName_of_readsAs h.isName hreads) hy
  refine ⟨?_, ?_, ?_⟩
  · rw [allSegments_join h.normal.ne_nil (isAbsolute_of_isName hy),
      segmentsBehind_of_isName hy hplain]
    exact List.rel_append hreads (.cons (.name y) .nil)
  · rw [foldlM_footsteps_concat, hdestination]
    exact (Files.foldlM_step_place hroot (Option.isSome_of_eq_some hfile)).1
  · rw [hdestination, FileTree.file?, hfile]
    rfl

theorem HasRoom.isRoot (h : HasRoom base) (hroot : root.IsSound)
    (hget : root.get? (Path.names base) = some (.directory entries)) :
    IsRoot ⟨root, []⟩ base base entries := ⟨hroot, h.absolute_eq _, hget⟩

theorem not_file?_empty (place : Place) :
    ¬ ((FileTree.directory []).file? place).isSome = true := by
  cases place <;> exact Bool.false_ne_true

/-- One of two names does not stand at an index. -/
theorem exists_other (names : List Text) (i : ℕ) : ∃ y, Path.IsName y ∧ Path.IsPlain y ∧
    Files.size y = 1 ∧ names[i]? ≠ some y := by
  by_cases hx : names[i]? = some (ofString "x")
  · exact ⟨ofString "y", by decide, by decide, by decide, by rw [hx]; decide⟩
  · exact ⟨ofString "x", by decide, by decide, by decide, hx⟩

/-- The names of a directory that is taken literally are not read as other names: a file there would
be found, though the directory is empty. -/
theorem HasRoom.not_stray (h : HasRoom base) (hspecial : ¬ Path.IsPlain base)
    (htaken : TakenLiterally base) {stray : Reading} (hreads : ReadsAs (Path.names base) stray)
    (hne : stray.flatten ≠ Path.names base)
    (hlength : stray.flatten.length ≤ (Path.names base).length)
    (hweight : weight stray.flatten ≤ weight (Path.names base) + Files.nameLimit) : False := by
  obtain ⟨y, hy, hplain, hone, hother⟩ := exists_other (Path.names base) stray.flatten.length
  have hnames := isName_of_readsAs h.isName hreads
  have hplace : ∀ name ∈ stray.flatten ++ [y], Path.IsName name :=
    List.forall_mem_append.mpr ⟨hnames, List.forall_mem_singleton.mpr hy⟩
  -- the file stands beside the directory
  have hbeside : ¬ Path.names base <+: stray.flatten ++ [y] := by
    intro hbegins
    rcases List.prefix_concat_iff.mp hbegins with heq | hbegins
    · exact hother (by rw [heq]; simp)
    · exact hne (hbegins.eq_of_length (le_antisymm hbegins.length_le hlength)).symm
  have hbeside' : ¬ stray.flatten ++ [y] <+: Path.names base := by
    rintro ⟨rest, heq⟩
    exact hother (by rw [← heq]; simp)
  obtain ⟨hsound, hdirectory, hfile⟩ := FileTree.fork_spec (t := .directory []) (u := .file [])
    h.isName hplace (.directory List.nodup_nil nofun nofun) (.file []) hbeside hbeside'
  have hroot := h.isRoot hsound hdirectory
  obtain ⟨found, hfind⟩ := h.exists_find hy hplain ⟨_, []⟩
  have hrelative := isAbsolute_of_isName hy
  have hroute := h.isRoute_concat hy hplain hsound hreads hfile
  have hfits := h.fits hspecial hy hplain hone (Or.inl hreads) hweight
  have hwritten := hfind
  rw [find, written, h.absolute_eq] at hwritten
  have hfound := (mem_findWritten_iff hsound (Path.isAbsolute_join h.normal.absolute y)
    hwritten).mpr ⟨_, hroute, hfits, rfl⟩
  have hdots : ofString ".." ∉ Path.names y := by
    rw [names_of_isName hy, List.mem_singleton]
    exact hy.dots.symm
  obtain ⟨names, -, hinside⟩ := htaken.below hroot hrelative hdots hfind _ hfound
  exact not_file?_empty names hinside

/-- What is in a directory with one file. -/
def single (name : Text) : List (Text × FileTree) := [(name, .file [])]

theorem isSound_single {name : Text} (hname : Path.IsName name) :
    (FileTree.directory (single name)).IsSound :=
  .directory (List.nodup_singleton _) (List.forall_mem_singleton.mpr hname)
    (List.forall_mem_singleton.mpr (.file []))

theorem eq_of_file?_single {name : Text} {place : Place}
    (h : ((FileTree.directory (single name)).file? place).isSome = true) : place = [name] := by
  cases place with
  | nil => cases h
  | cons first place =>
      rw [FileTree.file?, FileTree.get?, single, lookup?] at h
      by_cases hfirst : name = first
      · rw [if_pos hfirst] at h
        cases place with
        | nil => rw [hfirst]
        | cons other place => cases h
      · rw [if_neg hfirst] at h
        cases h

theorem find_single : find ⟨FileTree.chain [ofString "r"] (.directory (single "x")), []⟩ "/r" "x" =
    .ok [ofString "/r/x"] :=
  eq_ok_of_toOption (by decide +kernel)

/-- In a directory that is taken literally, the one file that is there is found. -/
theorem HasRoom.mem_of_takenLiterally (h : HasRoom base) (hspecial : ¬ Path.IsPlain base)
    (htaken : TakenLiterally base) {found : List Text}
    (hfind : find ⟨FileTree.chain (Path.names base) (.directory (single "x")), []⟩ base "x" =
      .ok found) : Path.join base "x" ∈ found := by
  have hx : Path.IsName (ofString "x") := by decide
  have hplain : Path.IsPlain (ofString "x") := by decide
  have hrelative := isAbsolute_of_isName hx
  have hdots : ofString ".." ∉ Path.names (ofString "x") := by decide
  have hsound := FileTree.isSound_chain h.isName (isSound_single hx)
  have hroot := h.isRoot hsound (FileTree.get?_chain _ _)
  have hroot' : IsRoot ⟨FileTree.chain [ofString "r"] (.directory (single "x")), []⟩ "/r" "/r"
      (single "x") := ⟨FileTree.isSound_chain (by decide) (isSound_single hx), by decide, rfl⟩
  have hsegments := segmentsBehind_of_isName hx hplain
  obtain ⟨relative, hfound, hfound'⟩ := htaken.same hroot hroot' (by decide) hrelative hdots hfind
    find_single fun reading hroute => by
      have hstands := hroute.stands
      rw [hsegments] at hstands
      have hreading : reading = asWritten [ofString "x"] := forall₂_name_iff.mp hstands
      rw [hreading]
      refine iff_of_true (h.fits hspecial hx hplain (by decide) (Or.inr rfl) ?_) ?_
      · rw [flatten_asWritten]
        exact Nat.le_add_right _ _
      · exact (by decide : (Files.fits (pathAlong (Path.join "/r" "x")
          (asWritten (Path.names "/r") ++ asWritten [ofString "x"]))).isOk = true)
  -- something is found, and there is nothing else to be found
  obtain ⟨t, ht⟩ : ∃ t, t ∈ relative := by
    cases relative with
    | nil => cases hfound'
    | cons t relative => exact ⟨t, List.mem_cons_self⟩
  have hp : Path.join base t ∈ found := hfound ▸ List.mem_map_of_mem ht
  obtain ⟨names, hpath, hinside⟩ := htaken.below hroot hrelative hdots hfind _ hp
  rw [eq_of_file?_single hinside] at hpath
  rwa [hpath] at hp

/-- The names of a directory that is taken literally are read as written: else the file in it would
be missed. -/
theorem HasRoom.exists_readsAs (h : HasRoom base) (hspecial : ¬ Path.IsPlain base)
    (htaken : TakenLiterally base) :
    ∃ reading, ReadsAs (Path.names base) reading ∧ reading.flatten = Path.names base := by
  have hx : Path.IsName (ofString "x") := by decide
  have hplain : Path.IsPlain (ofString "x") := by decide
  have hrelative := isAbsolute_of_isName hx
  have hsound := FileTree.isSound_chain h.isName (isSound_single hx)
  obtain ⟨found, hfind⟩ := h.exists_find hx hplain
    ⟨FileTree.chain (Path.names base) (.directory (single "x")), []⟩
  have hfound := h.mem_of_takenLiterally hspecial htaken hfind
  rw [find, written, h.absolute_eq] at hfind
  obtain ⟨whole, hroute, -, hpath⟩ := (mem_findWritten_iff hsound
    (Path.isAbsolute_join h.normal.absolute _) hfind).mp hfound
  -- the file is found along a reading of the names
  have hstands := hroute.stands
  rw [allSegments_join h.normal.ne_nil hrelative, segmentsBehind_of_isName hx hplain] at hstands
  obtain ⟨reading, last, hreads, hlast, rfl⟩ := exists_append_of_forall₂ hstands
  have hwhole : last = asWritten [ofString "x"] := forall₂_name_iff.mp hlast
  have hnames := isName_of_readsAs h.isName hreads
  have hend : destination (reading ++ asWritten [ofString "x"]) =
      reading.flatten ++ [ofString "x"] := destination_concat hnames hx
  have hplace := congrArg Path.names hpath
  rw [hwhole, hend, Files.names_root_append, Files.names_join, Path.names_join hrelative] at hplace
  · exact ⟨reading, hreads, (List.append_cancel_right hplace).symm⟩
  · exact Path.areWritable_of_isName
      (List.forall_mem_append.mpr ⟨hnames, List.forall_mem_singleton.mpr hx⟩)

/-- The names of a directory that is taken literally stand for nothing but themselves. -/
theorem HasRoom.standsAlone_of_takenLiterally (h : HasRoom base) (htaken : TakenLiterally base) :
    StandsAlone base := by
  by_cases hspecial : Path.IsPlain base
  · exact standsAlone_of_plain hspecial
  · by_contra hnot
    obtain ⟨reading, hreads, hflatten⟩ := h.exists_readsAs hspecial htaken
    obtain ⟨stray, hstray, hne, hlength, hweight⟩ := exists_stray hreads hflatten hnot
    exact h.not_stray hspecial htaken hstray hne hlength hweight

end Name

end Search

end CallBindings
