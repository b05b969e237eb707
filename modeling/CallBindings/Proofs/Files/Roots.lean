import CallBindings.Proofs.Files.Matches
import CallBindings.Proofs.Files.Routes

set_option autoImplicit false

/-! # Directories that are taken literally

A search reads the names of its directory as segments, like those of its pattern. If these segments
stand for nothing but the names as they are written, a pattern that does not lead up finds what is
in the directory, by paths that do not depend on where the directory is. This is so for a plain
directory.
-/

namespace CallBindings

open Text

namespace Files

variable {root tree : FileTree} {place next : Place} {name : Text} {names : List Text}

/-! ## Below a place -/

/-- Below a place, a name that does not lead up is followed in what stands there. -/
theorem step_below (hget : root.get? place = some tree) (hname : name ≠ ofString "..")
    (next : Place) :
    step root (place ++ next) name = (step tree next name).map (place ++ ·) := by
  have hnext : root.get? (place ++ next) = tree.get? next := by
    rw [FileTree.get?_append, hget, Option.bind_some]
  rw [step, step, hnext]
  cases tree.get? next with
  | none => rfl
  | some u =>
      cases u with
      | file content => rfl
      | directory entries =>
          -- `..` alone would lead out of the part
          simp only [if_neg hname]
          split
          · rfl
          · split
            · rfl
            · split
              · rw [List.append_assoc]
                rfl
              · rfl

theorem foldlM_step_below (hget : root.get? place = some tree) (hnames : ofString ".." ∉ names)
    (next : Place) : names.foldlM (step root) (place ++ next) =
      (names.foldlM (step tree) next).map (place ++ ·) := by
  induction names generalizing next with
  | nil => rfl
  | cons name names ih =>
      obtain ⟨hname, hnames⟩ := List.ne_and_not_mem_of_not_mem_cons hnames
      rw [List.foldlM_cons, List.foldlM_cons, step_below hget (Ne.symm hname)]
      cases step tree next name with
      | error fault => rfl
      | ok next => exact ih hnames next

end Files

/-! ## The order of paths in a directory -/

theorem Text.le_append (p s t : Text) : le (p ++ s) (p ++ t) = le s t := by
  induction p with
  | nil => rfl
  | cons c p ih =>
      rw [List.cons_append, List.cons_append, le, if_neg (by omega), if_neg (by omega), ih]

/-- Texts that are in order are the texts sorted. -/
theorem Text.eq_sort {ts us : List Text} (hordered : ts.Pairwise fun s t => le s t = true)
    (h : ts.Perm us) : ts = sort us :=
  (h.trans (List.mergeSort_perm _ _).symm).eq_of_pairwise
    (fun _ _ _ _ => Text.le_antisymm) hordered (Text.pairwise_sort us)

/-- Texts with the same front are in the order of what is behind it. -/
theorem Text.sort_map_append (p : Text) (ts : List Text) :
    sort (ts.map (p ++ ·)) = (sort ts).map (p ++ ·) := by
  refine (Text.eq_sort ?_ ((List.mergeSort_perm _ _).map _)).symm
  rw [List.pairwise_map]
  exact (Text.pairwise_sort ts).imp fun hle => by rwa [Text.le_append]

namespace Search

open Files (onward)

variable {fs : Files} {root tree : FileTree} {segments : List Segment} {reading : Reading}
  {directory base pattern : Text} {found : List Text} {entries : List (Text × FileTree)}

/-! ## Patterns behind a directory -/

/-- The segments of a pattern that is written behind a directory. -/
def segmentsBehind (pattern : Text) : List Segment :=
  (Files.footsteps (Path.steps pattern)).map Segment.ofText

/-- The names of a directory are read as segments, and then the pattern. -/
theorem allSegments_join (hbase : base ≠ []) (hpattern : Path.isAbsolute pattern = false) :
    allSegments (Path.join base pattern) =
      (Path.names base).map Segment.ofText ++ segmentsBehind pattern := by
  rw [allSegments, segmentsBehind, ← List.map_append, Files.footsteps]
  by_cases hnil : pattern = []
  · rw [hnil, Path.steps_join_nil hbase]
    rfl
  · have hsteps : Path.steps pattern ≠ [] := fun h =>
      Path.names_ne_nil_of_relative hpattern hnil (List.append_eq_nil_iff.mp h).1
    rw [Path.steps_join hpattern hnil, if_neg hsteps]

theorem dots_not_mem_segmentsBehind (h : ofString ".." ∉ Path.names pattern) :
    Segment.name (ofString "..") ∉ segmentsBehind pattern := by
  intro hmem
  obtain ⟨u, hu, hname⟩ := List.mem_map.mp hmem
  have hdot : ofString ".." ≠ ofString "." := by decide
  rw [← eq_of_name_eq_ofText hname.symm, Files.footsteps] at hu
  split at hu
  · exact hdot (List.mem_singleton.mp hu)
  · rcases List.mem_append.mp hu with hu | hu
    · exact h hu
    · split at hu
      · exact hdot (List.mem_singleton.mp hu)
      · cases hu

theorem dots_not_mem_footsteps (h : ofString ".." ∉ reading.flatten) :
    ofString ".." ∉ reading.flatMap Files.footsteps := by
  intro hmem
  obtain ⟨names, hnames, hmem⟩ := List.mem_flatMap.mp hmem
  rw [Files.footsteps] at hmem
  split at hmem
  · exact absurd (List.mem_singleton.mp hmem) (by decide)
  · exact h (List.mem_flatten.mpr ⟨names, hnames, hmem⟩)

/-! ## Routes through a directory -/

theorem destination_behind {place : Place} (hplace : ∀ name ∈ place, Path.IsName name)
    (h : ofString ".." ∉ reading.flatten) :
    destination (asWritten place ++ reading) = place ++ destination reading := by
  rw [destination, destination, List.flatten_append, flatten_asWritten, List.foldl_append,
    Files.foldl_arrive_of_isName hplace, List.nil_append, Files.foldl_arrive_onward h,
    Files.foldl_arrive_onward h, List.nil_append]

/-- From a place on, names that do not lead up are followed as in what stands there. -/
theorem follow_behind {place : Place} (hroot : root.IsSound) (hget : root.get? place = some tree)
    (hdots : ofString ".." ∉ reading.flatten) :
    ((asWritten place ++ reading).flatMap Files.footsteps).foldlM (Files.step root) [] =
      ((reading.flatMap Files.footsteps).foldlM (Files.step tree) []).map (place ++ ·) := by
  have hreach : place.foldlM (Files.step root) [] = .ok place :=
    (Files.foldlM_step_place hroot (Option.isSome_of_eq_some hget)).1
  have hbelow := Files.foldlM_step_below hget (dots_not_mem_footsteps hdots) []
  rw [List.append_nil] at hbelow
  rw [List.flatMap_append, footsteps_asWritten, List.foldlM_append, hreach, ← hbelow]
  rfl

/-- Segments that do not lead up have the routes behind a place that they have in what stands
there. -/
theorem isRoute_behind_iff {place : Place} (hroot : root.IsSound)
    (hget : root.get? place = some tree)
    (hplace : List.Forall₂ Segment.StandsFor (place.map Segment.ofText) (asWritten place))
    (hsegments : Segment.name (ofString "..") ∉ segments) :
    IsRoute root (place.map Segment.ofText ++ segments) (asWritten place ++ reading) ↔
      IsRoute tree segments reading := by
  have hnames := Files.isName_of_get? hroot hget
  have hfile : root.file? (place ++ destination reading) = tree.file? (destination reading) := by
    rw [FileTree.file?, FileTree.file?, FileTree.get?_append, hget, Option.bind_some]
  constructor
  · intro h
    have hreading := List.forall₂_drop place.length h.stands
    rw [List.drop_left' (by rw [List.length_map]), drop_asWritten] at hreading
    have hdots := dots_not_mem_flatten hsegments hreading
    obtain ⟨last, hlast, -⟩ :=
      map_eq_ok.mp ((follow_behind hroot hget hdots).symm.trans h.arrives)
    refine ⟨hreading, destination_eq hlast ▸ hlast, ?_⟩
    rw [← hfile, ← destination_behind hnames hdots]
    exact h.file
  · intro h
    have hdots := dots_not_mem_flatten hsegments h.stands
    refine ⟨List.rel_append hplace h.stands, ?_, ?_⟩
    · rw [follow_behind hroot hget hdots, destination_behind hnames hdots, h.arrives]
      rfl
    · rw [destination_behind hnames hdots, hfile]
      exact h.file

/-! ## Names that stand for themselves -/

/-- Whether the names of a path, read as segments, stand for nothing but themselves. -/
def StandsAlone (base : Text) : Prop := ∀ reading,
  List.Forall₂ Segment.StandsFor ((Path.names base).map Segment.ofText) reading ↔
    reading = asWritten (Path.names base)

/-- The names of a plain path do. -/
theorem standsAlone_of_plain (h : Path.IsPlain base) : StandsAlone base := by
  intro reading
  rw [map_ofText_of_plain fun name => isPlain_of_mem_names h]
  exact forall₂_name_iff

/-- Then every route goes through these names. -/
theorem StandsAlone.exists_behind (h : StandsAlone base)
    (hroute : IsRoute root ((Path.names base).map Segment.ofText ++ segments) reading) :
    ∃ rest, reading = asWritten (Path.names base) ++ rest := by
  obtain ⟨first, rest, hfirst, -, rfl⟩ := exists_append_of_forall₂ hroute.stands
  exact ⟨rest, by rw [(h first).mp hfirst]⟩

/-- Whether `directory` has the normal path `base`, where there are `entries`. -/
structure IsRoot (fs : Files) (directory base : Text) (entries : List (Text × FileTree)) :
    Prop where
  sound : fs.root.IsSound
  path : fs.absolute directory = base
  tree : fs.root.get? (Path.names base) = some (.directory entries)

theorem IsRoot.isNormal (h : IsRoot fs directory base entries) : Path.IsNormal base :=
  h.path ▸ isNormal_absolute fs directory

/-- The path by which a file of a directory is found. -/
def pathBehind (base : Text) (reading : Reading) : Text :=
  Path.join base (Text.join (ofString "/") (destination reading))

theorem IsRoot.isName_destination (h : IsRoot fs directory base entries)
    (hroute : IsRoute (.directory entries) segments reading) :
    destination reading ≠ [] ∧ ∀ name ∈ destination reading, Path.IsName name := by
  have hsound := h.sound.get? h.tree
  have hfile := hroute.file
  rw [FileTree.file?] at hfile
  refine ⟨fun hnil => ?_, ?_⟩
  · rw [hnil] at hfile
    cases hfile
  · cases hget : (FileTree.directory entries).get? (destination reading) with
    | none =>
        rw [hget] at hfile
        cases hfile
    | some u => exact Files.isName_of_get? hsound hget

/-- The end of a route behind the directory has the path by which it is found there. -/
theorem IsRoot.path_eq_pathBehind (h : IsRoot fs directory base entries)
    (hpattern : Path.isAbsolute pattern = false)
    (hroute : IsRoute (.directory entries) segments reading)
    (hdots : ofString ".." ∉ reading.flatten) :
    Path.root (Path.join base pattern) ++ Text.join (ofString "/")
        (destination (asWritten (Path.names base) ++ reading)) = pathBehind base reading := by
  have hnormal := h.isNormal
  obtain ⟨hne, hnames⟩ := h.isName_destination hroute
  rw [pathBehind, hnormal.join_written (Path.areWritable_of_isName hnames) hne,
    Path.root_join hnormal.absolute hpattern,
    destination_behind (Files.isName_of_get? h.sound h.tree) hdots]

/-- In a directory whose names stand for themselves, a pattern that does not lead up finds the files
at the ends of its routes in the directory whose paths are not too long. -/
theorem IsRoot.exists_routes (h : IsRoot fs directory base entries) (hbase : StandsAlone base)
    (hpattern : Path.isAbsolute pattern = false) (hdots : ofString ".." ∉ Path.names pattern)
    (hfind : find fs directory pattern = .ok found) : ∃ routes : List Reading, routes.Nodup ∧
      (∀ reading, reading ∈ routes ↔
        IsRoute (.directory entries) (segmentsBehind pattern) reading ∧
          Fits (Path.join base pattern) (asWritten (Path.names base) ++ reading)) ∧
      found = sort (routes.map (pathBehind base)) := by
  have hnormal := h.isNormal
  have hself := (hbase _).mpr rfl
  rw [find, written, h.path] at hfind
  obtain ⟨routes, hnodup, hmem, rfl⟩ := findWritten_routes h.sound
    (Path.isAbsolute_join hnormal.absolute pattern) hfind
  rw [allSegments_join hnormal.ne_nil hpattern] at hmem
  have hbehind : ∀ {reading}, IsRoute fs.root ((Path.names base).map Segment.ofText ++
      segmentsBehind pattern) (asWritten (Path.names base) ++ reading) ↔ _ :=
    isRoute_behind_iff h.sound h.tree hself (dots_not_mem_segmentsBehind hdots)
  have hthrough : ∀ reading ∈ routes, ∃ rest, reading = asWritten (Path.names base) ++ rest :=
    fun reading hreading => hbase.exists_behind ((hmem reading).mp hreading).1
  -- the routes behind the directory are what is left of the routes without its names
  refine ⟨routes.map (List.drop (Path.names base).length), ?_, fun reading => ?_, congrArg sort ?_⟩
  · refine List.Nodup.map_on (fun reading hreading reading' hreading' hsame => ?_) hnodup
    obtain ⟨rest, rfl⟩ := hthrough reading hreading
    obtain ⟨rest', rfl⟩ := hthrough reading' hreading'
    rw [drop_asWritten, drop_asWritten] at hsame
    rw [hsame]
  · rw [List.mem_map]
    constructor
    · rintro ⟨whole, hwhole, rfl⟩
      obtain ⟨rest, rfl⟩ := hthrough whole hwhole
      rw [drop_asWritten]
      obtain ⟨hroute, hfits⟩ := (hmem _).mp hwhole
      exact ⟨hbehind.mp hroute, hfits⟩
    · rintro ⟨hroute, hfits⟩
      exact ⟨_, (hmem _).mpr ⟨hbehind.mpr hroute, hfits⟩, drop_asWritten _ _⟩
  · rw [List.map_map]
    refine List.map_congr_left fun whole hwhole => ?_
    obtain ⟨rest, rfl⟩ := hthrough whole hwhole
    have hroute := hbehind.mp ((hmem _).mp hwhole).1
    rw [Function.comp_apply, drop_asWritten]
    exact h.path_eq_pathBehind hpattern hroute
      (dots_not_mem_flatten (dots_not_mem_segmentsBehind hdots) hroute.stands)

/-! ## Directories that are taken literally -/

/-- Whether searches take a directory literally that has the normal path `base`. -/
structure TakenLiterally (base : Text) : Prop where
  /-- What a pattern finds that does not lead up are files in the directory. -/
  below : ∀ {fs : Files} {directory pattern : Text} {entries : List (Text × FileTree)}
    {found : List Text}, IsRoot fs directory base entries →
    Path.isAbsolute pattern = false → ofString ".." ∉ Path.names pattern →
    find fs directory pattern = .ok found → ∀ p ∈ found, ∃ names,
      p = Path.join base (Text.join (ofString "/") names) ∧
        ((FileTree.directory entries).file? names).isSome = true
  /-- It finds the same files, by the same relative paths, in a plain directory with the same
  content, if the limit for paths lets the same routes through. -/
  same : ∀ {fs fs' : Files} {directory directory' base' pattern : Text}
    {entries : List (Text × FileTree)} {found found' : List Text},
    IsRoot fs directory base entries → IsRoot fs' directory' base' entries → Path.IsPlain base' →
    Path.isAbsolute pattern = false → ofString ".." ∉ Path.names pattern →
    find fs directory pattern = .ok found → find fs' directory' pattern = .ok found' →
    (∀ reading, IsRoute (.directory entries) (segmentsBehind pattern) reading →
      (Fits (Path.join base pattern) (asWritten (Path.names base) ++ reading) ↔
        Fits (Path.join base' pattern) (asWritten (Path.names base') ++ reading))) →
    ∃ relative : List Text, found = relative.map (Path.join base) ∧
      found' = relative.map (Path.join base')

/-- The relative paths of routes, in order, give the paths behind a directory in order. -/
theorem sort_map_pathBehind (base : Text) (routes : List Reading)
    (h : ∀ reading ∈ routes, ∀ name ∈ destination reading, Path.IsName name) :
    sort (routes.map (pathBehind base)) = (sort (routes.map fun reading =>
      Text.join (ofString "/") (destination reading))).map (Path.join base) := by
  have hrelative : ∀ reading ∈ routes,
      Path.isAbsolute (Text.join (ofString "/") (destination reading)) = false :=
    fun reading hreading =>
      Path.isAbsolute_written (Path.areWritable_of_isName (h reading hreading))
  have hbehind : routes.map (pathBehind base) = (routes.map fun reading =>
      Text.join (ofString "/") (destination reading)).map (Path.join base [] ++ ·) := by
    rw [List.map_map]
    exact List.map_congr_left fun reading hreading =>
      Path.join_eq (hrelative reading hreading) base
  rw [hbehind, Text.sort_map_append]
  refine List.map_congr_left fun t ht => ?_
  obtain ⟨reading, hreading, rfl⟩ := List.mem_map.mp ((List.mergeSort_perm _ _).mem_iff.mp ht)
  exact (Path.join_eq (hrelative reading hreading) base).symm

/-- A directory whose names stand for nothing but themselves is taken literally. -/
theorem takenLiterally_of_standsAlone (hbase : StandsAlone base) : TakenLiterally base where
  below := by
    intro fs directory pattern entries found hroot hpattern hdots hfind p hp
    obtain ⟨routes, -, hmem, rfl⟩ := hroot.exists_routes hbase hpattern hdots hfind
    obtain ⟨reading, hreading, rfl⟩ :=
      List.mem_map.mp ((List.mergeSort_perm _ _).mem_iff.mp hp)
    exact ⟨destination reading, rfl, ((hmem reading).mp hreading).1.file⟩
  same := by
    intro fs fs' directory directory' base' pattern entries found found' hroot hroot' hplain
      hpattern hdots hfind hfind' hfits
    obtain ⟨routes, hnodup, hmem, rfl⟩ := hroot.exists_routes hbase hpattern hdots hfind
    obtain ⟨routes', hnodup', hmem', rfl⟩ :=
      hroot'.exists_routes (standsAlone_of_plain hplain) hpattern hdots hfind'
    -- the routes are those of the content, which is the same
    have hperm : routes.Perm routes' := by
      refine (List.perm_ext_iff_of_nodup hnodup hnodup').mpr fun reading => ?_
      rw [hmem, hmem']
      exact and_congr_right (hfits reading)
    have hnames : ∀ reading ∈ routes, ∀ name ∈ destination reading, Path.IsName name :=
      fun reading hreading => (hroot.isName_destination ((hmem reading).mp hreading).1).2
    have hnames' : ∀ reading ∈ routes', ∀ name ∈ destination reading, Path.IsName name :=
      fun reading hreading => (hroot'.isName_destination ((hmem' reading).mp hreading).1).2
    refine ⟨_, sort_map_pathBehind base routes hnames, ?_⟩
    rw [sort_map_pathBehind base' routes' hnames']
    exact congrArg (List.map _) (Text.eq_sort (Text.pairwise_sort _)
      ((List.mergeSort_perm _ _).trans (hperm.symm.map _)))

end Search

end CallBindings
