import CallBindings.Proofs.Files.Found

set_option autoImplicit false

/-! # Matches in a directory

A match of a pattern in a directory is a reading of its segments along which the path of a file is
put together. A search in a plain directory lists the files of the matches, each as often as it has
matches. A pattern with at most one segment for any number of names, none of which leads up, has at
most one match for each file.
-/

namespace CallBindings

open Text

namespace Search

open Files (onward onward_of_isName foldl_arrive_onward)

variable {fs : Files} {segments : List Segment} {reading reading' : Reading}
  {start t base pattern directory : Text} {found : List Text}

/-! ## Matches in a plain directory -/

/-- The relative path that is put together along a reading of a pattern. -/
def spelling (pattern : Text) (reading : Reading) : Text := along (plan pattern).1 reading

/-- Whether a reading of a pattern leads from a directory to a file. -/
structure Matches (fs : Files) (base pattern : Text) (reading : Reading) : Prop where
  stands : List.Forall₂ Segment.StandsFor (plan pattern).2 reading
  file : fs.hasFile (Path.join base (spelling pattern reading)) = true

theorem isAbsolute_along_eq_false (hstart : Path.isAbsolute start = false)
    (hreading : ∀ names ∈ reading, Path.AreWritable names) :
    Path.isAbsolute (along start reading) = false := by
  induction reading generalizing start with
  | nil => exact hstart
  | cons names reading ih =>
      obtain ⟨hnames, hreading⟩ := List.forall_mem_cons.mp hreading
      rw [along_cons]
      refine ih ?_ hreading
      rw [Path.join_eq (Path.isAbsolute_written hnames)]
      by_cases hnil : start = []
      · rw [hnil]
        exact Path.isAbsolute_written hnames
      · rw [Path.isAbsolute_append (Path.join_nil_ne_nil hnil),
          isAbsolute_of_beginning (Path.prefix_join_nil start) hnil, hstart]

theorem isAbsolute_spelling (hpattern : Path.isAbsolute pattern = false)
    (h : List.Forall₂ Segment.StandsFor (plan pattern).2 reading) :
    Path.isAbsolute (spelling pattern reading) = false :=
  isAbsolute_along_eq_false ((isAbsolute_opening pattern).trans hpattern) (areWritable_of_reading h)

/-- What is put together behind a slash does not depend on what is in front of it. -/
theorem along_append {before : Text} (hbefore : endsWith before "/" = true)
    (hreading : ∀ names ∈ reading, Path.AreWritable names) (start : Text) :
    along (before ++ start) reading = before ++ along start reading := by
  induction reading generalizing start with
  | nil => rfl
  | cons names reading ih =>
      obtain ⟨hnames, hreading⟩ := List.forall_mem_cons.mp hreading
      have hjoin : Path.join (before ++ start) (Text.join (ofString "/") names) =
          before ++ Path.join start (Text.join (ofString "/") names) := by
        have hends : ((before ++ start).isEmpty || endsWith (before ++ start) "/") =
            (start.isEmpty || endsWith start "/") := by
          by_cases hnil : start = []
          · rw [hnil, List.append_nil, hbefore, Bool.or_true]
            rfl
          · have hempty : (before ++ start).isEmpty = start.isEmpty :=
              (List.isEmpty_eq_false_iff.mpr (List.append_ne_nil_of_right_ne_nil _ hnil)).trans
                (List.isEmpty_eq_false_iff.mpr hnil).symm
            rw [Path.endsWith_append hnil, hempty]
        rw [Path.join, Path.join, Path.isAbsolute_written hnames, if_neg Bool.false_ne_true,
          if_neg Bool.false_ne_true, hends]
        split
        · exact List.append_assoc _ _ _
        · rw [List.append_assoc before, List.append_assoc before]
      rw [along_cons, along_cons, hjoin, ih hreading]

/-- In a plain directory the path along a reading is written behind that of the directory. -/
theorem along_plan_join (hbase : Path.IsNormal base) (hplain : Path.IsPlain base)
    (hpattern : Path.isAbsolute pattern = false)
    (h : List.Forall₂ Segment.StandsFor (plan pattern).2 reading) :
    along (plan (Path.join base pattern)).1 reading =
      Path.join base (spelling pattern reading) := by
  have hslash := Path.endsWith_join_nil hbase.ne_nil
  rw [Path.join_eq (isAbsolute_spelling hpattern h), spelling]
  rcases (plan_join hbase hplain hpattern).2 with hstart | ⟨hstart, hopening, hsegments⟩
  · rw [hstart, along_append hslash (areWritable_of_reading h)]
  · -- the first segment writes the slash, also if it stands for nothing
    cases reading with
    | nil =>
        rw [List.forall₂_nil_right_iff] at h
        exact absurd h hsegments
    | cons names reading =>
        obtain ⟨hnames, hreading⟩ := List.forall_mem_cons.mp (areWritable_of_reading h)
        have hopen : Path.join [] (Text.join (ofString "/") names) =
            Text.join (ofString "/") names := Path.join_eq (Path.isAbsolute_written hnames) []
        rw [hstart, hopening, along_cons, along_cons, Path.join_eq (Path.isAbsolute_written hnames),
          along_append hslash hreading, hopen]

/-- What a search in a plain directory finds are the files of the matches, one for each match. -/
theorem find_eq (hroot : fs.root.IsSound) (hbase : Path.IsNormal (fs.absolute directory))
    (hplain : Path.IsPlain (fs.absolute directory)) (hpattern : Path.isAbsolute pattern = false)
    (h : find fs directory pattern = .ok found) : ∃ readings : List Reading, readings.Nodup ∧
      (∀ reading, reading ∈ readings ↔ Matches fs (fs.absolute directory) pattern reading) ∧
      found = sort (readings.map fun reading =>
        Path.normalize (Path.join (fs.absolute directory) (spelling pattern reading))) := by
  have habsolute := Path.isAbsolute_join hbase.absolute pattern
  obtain ⟨readings, hnodup, hmem, heq⟩ := findWritten_eq hroot habsolute h
  have hsame := (plan_join hbase hplain hpattern).1
  have hspelling := fun (reading : Reading)
      (hstands : List.Forall₂ Segment.StandsFor (plan pattern).2 reading) =>
    along_plan_join hbase hplain hpattern hstands
  have hmatches : ∀ reading, reading ∈ readings ↔
      Matches fs (fs.absolute directory) pattern reading := by
    intro reading
    rw [hmem, hsame]
    constructor
    · rintro ⟨hstands, hfile⟩
      exact ⟨hstands, hspelling reading hstands ▸ hfile⟩
    · rintro ⟨hstands, hfile⟩
      exact ⟨hstands, (hspelling reading hstands).symm ▸ hfile⟩
  refine ⟨readings, hnodup, hmatches, ?_⟩
  rw [heq]
  refine congrArg sort (List.map_congr_left fun reading hreading => ?_)
  rw [← hspelling reading ((hmatches reading).mp hreading).stands]

/-! ## Where matches lead -/

theorem isNormal_absolute (fs : Files) (p : Text) : Path.IsNormal (fs.absolute p) :=
  Path.isNormal_normalize (Path.isAbsolute_join (Path.isAbsolute_iff.mpr ⟨_, rfl⟩) p)

/-- The path under which the file of a match is listed. -/
def listed (base pattern : Text) (reading : Reading) : Text :=
  Path.normalize (Path.join base (spelling pattern reading))

/-- The file of a match is at the place that its path names. -/
theorem Matches.exists_place (hbase : Path.IsNormal base)
    (hpattern : Path.isAbsolute pattern = false) (h : Matches fs base pattern reading) :
    ∃ place, listed base pattern reading = Path.root base ++ Text.join (ofString "/") place ∧
      (fs.root.file? place).isSome = true := by
  have hrelative := isAbsolute_spelling hpattern h.stands
  have habsolute := Path.isAbsolute_join hbase.absolute (spelling pattern reading)
  obtain ⟨-, -, place, hplace, hfile⟩ := (Files.hasFile_iff habsolute).mp h.file
  refine ⟨place, ?_, hfile⟩
  rw [listed, Files.normalize_of_steps habsolute hplace, Path.root_join hbase.absolute hrelative]

theorem names_along (hreading : ∀ names ∈ reading, Path.AreWritable names) (start : Text) :
    Path.names (along start reading) = Path.names start ++ reading.flatten := by
  induction reading generalizing start with
  | nil => exact (List.append_nil _).symm
  | cons names reading ih =>
      obtain ⟨hnames, hreading⟩ := List.forall_mem_cons.mp hreading
      rw [along_cons, ih hreading, Path.names_join (Path.isAbsolute_written hnames),
        Files.names_join hnames, List.flatten_cons, List.append_assoc]

theorem names_listed (hbase : Path.IsNormal base) (hpattern : Path.isAbsolute pattern = false)
    (h : List.Forall₂ Segment.StandsFor (plan pattern).2 reading) :
    Path.names (listed base pattern reading) = reading.flatten.foldl Files.arrive
      ((Path.names base ++ Path.names (plan pattern).1).foldl Files.arrive []) := by
  rw [listed, Path.names_normalize (Path.isAbsolute_join hbase.absolute _),
    Path.names_join (isAbsolute_spelling hpattern h), spelling,
    names_along (areWritable_of_reading h), ← List.append_assoc, List.foldl_append]

/-! ## Files with one match -/

/-- Whether no two readings of segments come to the same names: at most one of the segments stands
for any number of names, and none leads up. -/
structure IsUnambiguous (segments : List Segment) : Prop where
  anyDepth : segments.Pairwise fun s s' => s ≠ .anyDepth ∨ s' ≠ .anyDepth
  dots : Segment.name (ofString "..") ∉ segments

theorem onward_flatten_cons (names : List Text) (reading : Reading) :
    onward (names :: reading).flatten = onward names ++ onward reading.flatten :=
  List.filter_append _ _

/-- Any other segment than `**` stands for one name, and always leads on by it or never. -/
theorem length_onward_of_standsFor {s : Segment} {names names' : List Text} (hs : s ≠ .anyDepth)
    (h : s.StandsFor names) (h' : s.StandsFor names') :
    (onward names).length = (onward names').length ∧
      (onward names = onward names' → names = names') := by
  cases h with
  | name t =>
      cases h'
      exact ⟨rfl, fun _ => rfl⟩
  | anyDepth => exact absurd rfl hs
  | pattern hname =>
      cases h' with
      | pattern hname' =>
          rw [onward_of_isName (by simpa using hname), onward_of_isName (by simpa using hname')]
          exact ⟨rfl, id⟩

theorem length_onward_of_forall₂ (hsegments : ∀ s ∈ segments, s ≠ .anyDepth)
    (h : List.Forall₂ Segment.StandsFor segments reading)
    (h' : List.Forall₂ Segment.StandsFor segments reading') :
    (onward reading.flatten).length = (onward reading'.flatten).length := by
  induction h generalizing reading' with
  | nil =>
      cases h'
      rfl
  | cons hstands _ ih =>
      cases h' with
      | cons hstands' hrest' =>
          obtain ⟨hs, hsegments⟩ := List.forall_mem_cons.mp hsegments
          rw [onward_flatten_cons, onward_flatten_cons, List.length_append, List.length_append,
            (length_onward_of_standsFor hs hstands hstands').1, ih hsegments hrest']

/-- Readings of unambiguous segments are told apart by where they lead. -/
theorem IsUnambiguous.eq_of_onward_eq (hsegments : IsUnambiguous segments)
    (h : List.Forall₂ Segment.StandsFor segments reading)
    (h' : List.Forall₂ Segment.StandsFor segments reading')
    (hsame : onward reading.flatten = onward reading'.flatten) : reading = reading' := by
  induction h generalizing reading' with
  | nil =>
      cases h'
      rfl
  | @cons s names rest reading hstands hrest ih =>
      cases h' with
      | @cons _ names' _ reading' hstands' hrest' =>
          obtain ⟨hfirst, hpairwise⟩ := List.pairwise_cons.mp hsegments.anyDepth
          have hlater : IsUnambiguous rest :=
            ⟨hpairwise, fun hmem => hsegments.dots (List.mem_cons_of_mem _ hmem)⟩
          rw [onward_flatten_cons, onward_flatten_cons] at hsame
          by_cases hs : s = .anyDepth
          · -- the other segments say how many names are left for this one
            have hlength := length_onward_of_forall₂
              (fun s' hs' => (hfirst s' hs').resolve_left fun hne => hne hs) hrest hrest'
            obtain ⟨hnames, hreading⟩ := List.append_inj' hsame hlength
            rw [hs] at hstands hstands'
            cases hstands with
            | anyDepth hall =>
                cases hstands' with
                | anyDepth hall' =>
                    rw [onward_of_isName fun name hname => (hall name hname).1,
                      onward_of_isName fun name hname => (hall' name hname).1] at hnames
                    rw [hnames, ih hlater hrest' hreading]
          · obtain ⟨hlength, hinjective⟩ := length_onward_of_standsFor hs hstands hstands'
            obtain ⟨hnames, hreading⟩ := List.append_inj hsame hlength
            rw [hinjective hnames, ih hlater hrest' hreading]

theorem dots_not_mem_flatten (hsegments : Segment.name (ofString "..") ∉ segments)
    (h : List.Forall₂ Segment.StandsFor segments reading) : ofString ".." ∉ reading.flatten := by
  induction h with
  | nil => exact List.not_mem_nil
  | cons hstands _ ih =>
      obtain ⟨hs, hrest⟩ := List.ne_and_not_mem_of_not_mem_cons hsegments
      rw [List.flatten_cons, List.mem_append, not_or]
      refine ⟨fun hmem => ?_, ih hrest⟩
      cases hstands with
      | name t => exact hs (congrArg Segment.name (List.mem_singleton.mp hmem))
      | anyDepth hnames => exact (hnames _ hmem).1.dots rfl
      | pattern hname _ _ => exact hname.dots (List.mem_singleton.mp hmem).symm

/-- An unambiguous pattern lists each file for one match only. -/
theorem IsUnambiguous.eq_of_listed_eq (hbase : Path.IsNormal base)
    (hpattern : Path.isAbsolute pattern = false) (hsegments : IsUnambiguous (plan pattern).2)
    (h : List.Forall₂ Segment.StandsFor (plan pattern).2 reading)
    (h' : List.Forall₂ Segment.StandsFor (plan pattern).2 reading')
    (hsame : listed base pattern reading = listed base pattern reading') : reading = reading' := by
  have hnames := congrArg Path.names hsame
  rw [names_listed hbase hpattern h, names_listed hbase hpattern h',
    foldl_arrive_onward (dots_not_mem_flatten hsegments.dots h),
    foldl_arrive_onward (dots_not_mem_flatten hsegments.dots h')] at hnames
  exact hsegments.eq_of_onward_eq h h' (List.append_cancel_left hnames)

/-! ## Listings -/

/-- Whether the system searches a directory for a pattern. One without wildcards is looked up and
never refused. -/
def IsSearchable (base pattern : Text) : Prop :=
  (plan pattern).2 = [] ∨ (plan pattern).2.length ≤ segmentLimit ∧ Files.IsUsable base ∧
    Files.IsUsable (plan pattern).1

theorem isUsable_append_iff {p q : Text} :
    Files.IsUsable (p ++ q) ↔ Files.IsUsable p ∧ Files.IsUsable q :=
  List.forall_mem_append

theorem exists_find_iff (hbase : Path.IsNormal (fs.absolute directory))
    (hplain : Path.IsPlain (fs.absolute directory)) (hpattern : Path.isAbsolute pattern = false) :
    (∃ found, find fs directory pattern = .ok found) ↔
      IsSearchable (fs.absolute directory) pattern := by
  obtain ⟨hsegments, hstart⟩ := plan_join hbase hplain hpattern
  refine exists_findWritten_iff.trans ?_
  rw [written, hsegments, IsSearchable]
  refine or_congr_right (and_congr_right fun _ => ?_)
  rcases hstart with hstart | ⟨hstart, hopening, -⟩
  · have hslashed : Files.IsUsable (Path.join (fs.absolute directory) []) ↔
        Files.IsUsable (fs.absolute directory) := by
      refine ⟨fun h => ?_, fun h => h.pathJoin Files.isUsable_nil⟩
      have hparent := h.parent
      rwa [parent_join_nil hbase] at hparent
    rw [hstart, isUsable_append_iff, hslashed]
  · rw [hstart, hopening]
    exact ⟨fun h => ⟨h, Files.isUsable_nil⟩, And.left⟩

/-- Whether a list is what a search lists: the files of the matches of a pattern. -/
structure ListsMatches (fs : Files) (base pattern : Text) (found : List Text) : Prop where
  /-- Every path is absolute and normal, and names the place of a file. -/
  files : ∀ p ∈ found, Path.IsNormal p ∧
    ∃ place, p = Path.root base ++ Text.join (ofString "/") place ∧
      (fs.root.file? place).isSome = true
  sorted : found.Pairwise fun p q => Text.le p q = true
  mem_iff : ∀ p, p ∈ found ↔ ∃ reading, Matches fs base pattern reading ∧
    listed base pattern reading = p
  /-- A file is listed as often as it has matches; -/
  count : ∀ p, ∃ readings : List Reading, readings.Nodup ∧
    (∀ reading, reading ∈ readings ↔ Matches fs base pattern reading ∧
      listed base pattern reading = p) ∧ found.count p = readings.length
  /-- so the order is strict exactly if no file has two, -/
  strict_iff : (found.Pairwise fun p q => Text.le q p = false) ↔
    ∀ reading reading', Matches fs base pattern reading → Matches fs base pattern reading' →
      listed base pattern reading = listed base pattern reading' → reading = reading'
  /-- and it is if the pattern does not allow for two. -/
  strict : IsUnambiguous (plan pattern).2 → found.Pairwise fun p q => Text.le q p = false

/-- A search in a plain directory lists the files of the matches. -/
theorem listsMatches_of_find (hroot : fs.root.IsSound)
    (hplain : Path.IsPlain (fs.absolute directory)) (hpattern : Path.isAbsolute pattern = false)
    (h : find fs directory pattern = .ok found) :
    ListsMatches fs (fs.absolute directory) pattern found := by
  have hbase := isNormal_absolute fs directory
  obtain ⟨readings, hnodup, hmem, heq⟩ := find_eq hroot hbase hplain hpattern h
  -- sorting permutes, so what is listed and how often is seen from the readings
  have hperm : found.Perm (readings.map (listed (fs.absolute directory) pattern)) :=
    heq ▸ List.mergeSort_perm _ _
  have hsorted := pairwise_find h
  have hlists : ∀ p, p ∈ found ↔ ∃ reading, Matches fs (fs.absolute directory) pattern reading ∧
      listed (fs.absolute directory) pattern reading = p := by
    intro p
    rw [hperm.mem_iff, List.mem_map]
    exact exists_congr fun reading => and_congr_left' (hmem reading)
  have hstrict : (found.Pairwise fun p q => Text.le q p = false) ↔
      ∀ reading reading', Matches fs (fs.absolute directory) pattern reading →
        Matches fs (fs.absolute directory) pattern reading' →
        listed (fs.absolute directory) pattern reading =
          listed (fs.absolute directory) pattern reading' → reading = reading' := by
    rw [Text.pairwise_strict_iff hsorted, hperm.nodup_iff, List.nodup_map_iff_inj_on hnodup]
    constructor
    · intro hinjective reading reading' hmatches hmatches'
      exact hinjective _ ((hmem _).mpr hmatches) _ ((hmem _).mpr hmatches')
    · intro hinjective reading hreading reading' hreading'
      exact hinjective _ _ ((hmem _).mp hreading) ((hmem _).mp hreading')
  refine ⟨fun p hp => ?_, hsorted, hlists, fun p => ?_, hstrict, fun hsegments => hstrict.mpr ?_⟩
  · obtain ⟨reading, hmatches, rfl⟩ := (hlists p).mp hp
    exact ⟨Path.isNormal_normalize (Path.isAbsolute_join hbase.absolute _),
      hmatches.exists_place hbase hpattern⟩
  · refine ⟨readings.filter fun reading => listed (fs.absolute directory) pattern reading = p,
      hnodup.filter _, fun reading => ?_, ?_⟩
    · rw [List.mem_filter, hmem, decide_eq_true_eq]
    · rw [hperm.count_eq, List.count, List.countP_map, List.countP_eq_length_filter]
      exact congrArg List.length (List.filter_congr fun reading _ => Bool.beq_eq_decide_eq _ _)
  · intro reading reading' hmatches hmatches'
    exact hsegments.eq_of_listed_eq hbase hpattern hmatches.stands hmatches'.stands

end Search

end CallBindings
