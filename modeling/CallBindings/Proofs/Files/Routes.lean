import CallBindings.Proofs.Files.Found

set_option autoImplicit false

/-! # Routes

A route reads all segments of a written text, those in front of the first wildcard included, and
leads from the root to a file. What a search finds are the files at the ends of the routes, one for
each route, but for those whose paths are too long.
-/

namespace CallBindings

open Text

namespace Search

variable {fs : Files} {root : FileTree} {place : Place} {segments : List Segment}
  {names : List Text} {reading : Reading} {start t u base pattern : Text} {found : List Text}

/-! ## Names that are read as written -/

/-- The reading of names as themselves. -/
def asWritten (names : List Text) : Reading := names.map fun name => [name]

theorem flatten_asWritten (names : List Text) : (asWritten names).flatten = names := by
  rw [asWritten, ← List.flatMap_def]
  exact List.flatMap_singleton' names

theorem footsteps_asWritten (names : List Text) :
    (asWritten names).flatMap Files.footsteps = names := by
  rw [asWritten, List.flatMap_map]
  exact List.flatMap_singleton' names

theorem drop_asWritten (names : List Text) (reading : Reading) :
    (asWritten names ++ reading).drop names.length = reading :=
  List.drop_left' (by rw [asWritten, List.length_map])

/-- Segments that are names are read as written. -/
theorem forall₂_name_iff :
    List.Forall₂ Segment.StandsFor (names.map .name) reading ↔ reading = asWritten names := by
  induction names generalizing reading with
  | nil => exact List.forall₂_nil_left_iff
  | cons name names ih =>
      rw [List.map_cons, List.forall₂_cons_left_iff]
      constructor
      · rintro ⟨first, rest, hstands, hrest, rfl⟩
        cases hstands
        rw [ih.mp hrest]
        rfl
      · rintro rfl
        exact ⟨_, _, .name name, ih.mpr rfl, rfl⟩

theorem ofText_of_plain (h : Path.IsPlain u) : Segment.ofText u = .name u := by
  have hdepth : u ≠ ofString "**" := by
    rintro rfl
    exact absurd (h (CodePoint.ofChar '*') (by decide)) (by decide)
  have hspecial : u.any Wildcard.isSpecial = false :=
    List.any_eq_false.mpr fun c hc => by simp [h c hc]
  rw [Segment.ofText, if_neg hdepth, if_neg (by simp [hspecial])]

theorem map_ofText_of_plain (h : ∀ name ∈ names, Path.IsPlain name) :
    names.map Segment.ofText = names.map .name :=
  List.map_congr_left fun name hname => ofText_of_plain (h name hname)

/-- The names of a path are plain if the path is. -/
theorem isPlain_of_mem_names {name : Text} (h : Path.IsPlain t) (hname : name ∈ Path.names t) :
    Path.IsPlain name := fun c hc =>
  h c (subset_of_mem_splitAt (List.mem_of_mem_filter hname) hc)

theorem isPlain_of_mem_steps {name : Text} (h : Path.IsPlain t) (hname : name ∈ Path.steps t) :
    Path.IsPlain name := by
  rcases List.mem_append.mp hname with hname | hdot
  · exact isPlain_of_mem_names h hname
  · split at hdot
    · rw [List.mem_singleton.mp hdot]
      decide
    · cases hdot

/-! ## All segments of a text -/

/-- All segments of a text. -/
def allSegments (t : Text) : List Segment := (Path.steps t).map Segment.ofText

/-- Where a reading leads from the root. -/
def destination (reading : Reading) : Place := reading.flatten.foldl Files.arrive []

/-- The path that is put together along a reading of all segments of a text. -/
def pathAlong (t : Text) (reading : Reading) : Text :=
  along (plan t).1 (reading.rtake (plan t).2.length)

theorem foldlM_dot_append {names : List Text} (hne : names ≠ []) (place : Place) :
    (ofString "." :: names).foldlM (Files.step root) place =
      names.foldlM (Files.step root) place := by
  obtain ⟨name, names, rfl⟩ := List.exists_cons_of_ne_nil hne
  exact Files.foldlM_step_dot root place name names

/-- The names in front of the segments that a search reads. -/
structure IsFront (t : Text) (front : List Text) : Prop where
  segments : allSegments t = front.map .name ++ (plan t).2
  /-- The path that the search starts from is followed as these names. -/
  follow : ∀ (root : FileTree) (reading : Reading),
    List.Forall₂ Segment.StandsFor (plan t).2 reading →
      ((Path.steps (plan t).1).foldlM (Files.step root) [] >>= fun next =>
          (reading.flatMap Files.footsteps).foldlM (Files.step root) next) =
        ((asWritten front ++ reading).flatMap Files.footsteps).foldlM (Files.step root) []

theorem exists_isFront (t : Text) : ∃ front, IsFront t front := by
  -- a plain path is all front; otherwise the front is what stands before the cut
  by_cases hplain : Path.IsPlain t
  · refine ⟨Path.steps t, ?_, fun root reading hreading => ?_⟩
    · rw [allSegments, plan_of_plain hplain, List.append_nil,
        map_ofText_of_plain fun name => isPlain_of_mem_steps hplain]
    · rw [plan_of_plain hplain] at hreading ⊢
      rw [List.forall₂_nil_left_iff.mp hreading, List.append_nil, footsteps_asWritten]
      exact bind_pure _
  · obtain ⟨front, rest, hcut⟩ := exists_isCut hplain
    refine ⟨Path.names front, ?_, fun root reading hreading => ?_⟩
    · rw [allSegments, hcut.steps_eq, List.map_append, hcut.plan_eq,
        map_ofText_of_plain fun name => isPlain_of_mem_names hcut.plain]
    · rw [List.flatMap_append, footsteps_asWritten, List.foldlM_append, Path.steps, hcut.plan_eq,
        names_parent hcut.slash, List.foldlM_append, bind_assoc]
      refine congrArg _ (funext fun next => ?_)
      split
      · -- the root as a path is a step to the root, and there is a step behind it
        have hne : reading.flatMap Files.footsteps ≠ [] := by
          cases reading with
          | nil =>
              rw [hcut.plan_eq, List.forall₂_nil_right_iff, List.map_eq_nil_iff] at hreading
              exact absurd (List.append_eq_nil_iff.mp hreading).1 hcut.names_ne_nil
          | cons names reading =>
              rw [List.flatMap_cons]
              exact List.append_ne_nil_of_left_ne_nil (Files.footsteps_ne_nil names) _
        rw [← List.foldlM_append, List.singleton_append, foldlM_dot_append hne]
      · rfl

/-! ## The front of the paths -/

theorem endsWith_withoutSlashes (h : withoutSlashes t ≠ []) :
    endsWith (withoutSlashes t) "/" = false := by
  rw [Bool.eq_false_iff, Ne, Path.endsWith_slash_iff, List.getLast?_eq_some_getLast h,
    Option.some.injEq]
  intro hlast
  exact List.rdropWhile_last_not _ _ h (decide_eq_true hlast)

theorem root_parent (ht : Path.isAbsolute t = true)
    (h : t = [] ∨ ∃ before, t = before ++ [CodePoint.ofChar '/']) :
    Path.root (Path.parent t) = Path.root t := by
  rw [parent_eq h]
  split
  · rfl
  · next hall =>
      have hne := withoutSlashes_ne_nil (by simpa using hall)
      have hbegins : withoutSlashes t <+: t := List.rdropWhile_prefix _ _
      have habsolute : Path.isAbsolute (withoutSlashes t) = true := by
        rw [← isAbsolute_of_beginning hbegins hne, ht]
      obtain ⟨slashes, hslashes⟩ := hbegins
      conv_rhs => rw [← hslashes]
      exact (Path.root_append habsolute (Or.inr (endsWith_withoutSlashes hne))).symm

/-- A search starts from a path with the same slashes at its front. -/
theorem root_opening (ht : Path.isAbsolute t = true) : Path.root (plan t).1 = Path.root t := by
  by_cases hplain : Path.IsPlain t
  · rw [plan_of_plain hplain]
  · obtain ⟨front, rest, hcut⟩ := exists_isCut hplain
    have hfront : Path.isAbsolute front = true := by rw [hcut.isAbsolute_front, ht]
    rw [hcut.plan_eq, root_parent hfront hcut.slash]
    conv_rhs => rw [hcut.eq, Path.root_append hfront (Or.inl hcut.isAbsolute_rest)]

theorem root_along (hstart : Path.isAbsolute start = true)
    (hreading : ∀ names ∈ reading, Path.AreWritable names) :
    Path.root (along start reading) = Path.root start := by
  induction reading generalizing start with
  | nil => rfl
  | cons names reading ih =>
      obtain ⟨hnames, hreading⟩ := List.forall_mem_cons.mp hreading
      have hrelative := Path.isAbsolute_written hnames
      rw [along_cons, ih (Path.isAbsolute_join hstart _) hreading, Path.root_join hstart hrelative]

/-! ## Searches along routes -/

/-- Whether a reading of segments leads from the root of a tree to a file. -/
structure IsRoute (root : FileTree) (segments : List Segment) (reading : Reading) : Prop where
  stands : List.Forall₂ Segment.StandsFor segments reading
  arrives : (reading.flatMap Files.footsteps).foldlM (Files.step root) [] =
    .ok (destination reading)
  file : (root.file? (destination reading)).isSome = true

theorem destination_eq {last : Place}
    (h : (reading.flatMap Files.footsteps).foldlM (Files.step root) [] = .ok last) :
    last = destination reading := by
  rw [Files.foldl_arrive_of_foldlM_step h, foldl_arrive_flatMap, destination]

/-- Whether the system follows the path that is put together along a reading. -/
def Fits (t : Text) (reading : Reading) : Prop := (Files.fits (pathAlong t reading)).isOk = true

theorem exists_append_of_forall₂ {later : List Segment}
    (h : List.Forall₂ Segment.StandsFor (segments ++ later) reading) :
    ∃ first rest, List.Forall₂ Segment.StandsFor segments first ∧
      List.Forall₂ Segment.StandsFor later rest ∧ reading = first ++ rest := by
  have hfirst := List.forall₂_take segments.length h
  have hrest := List.forall₂_drop segments.length h
  rw [List.take_left] at hfirst
  rw [List.drop_left] at hrest
  exact ⟨_, _, hfirst, hrest, (List.take_append_drop _ _).symm⟩

theorem pathAlong_append {front rest : Reading} (h : rest.length = (plan t).2.length) :
    pathAlong t (front ++ rest) = along (plan t).1 rest := by
  have hback : (front ++ rest).rtake rest.length = rest := by simp [List.rtake]
  rw [pathAlong, ← h, hback]

/-- A route reads the names in front as written. -/
theorem IsRoute.exists_behind {front : List Text} (h : IsRoute root (allSegments t) reading)
    (hfront : IsFront t front) :
    ∃ rest, List.Forall₂ Segment.StandsFor (plan t).2 rest ∧ reading = asWritten front ++ rest := by
  have hstands := h.stands
  rw [hfront.segments] at hstands
  obtain ⟨first, rest, hfirst, hrest, rfl⟩ := exists_append_of_forall₂ hstands
  exact ⟨rest, hrest, by rw [forall₂_name_iff.mp hfirst]⟩

section Behind

variable {front : List Text} {rest : Reading} (hfront : IsFront t front)
  (hrest : List.Forall₂ Segment.StandsFor (plan t).2 rest)
include hfront hrest

/-- There is a file at the path along a reading if that reading, with the names in front, is a
route whose path is not too long. -/
theorem hasFile_iff_isRoute (hroot : fs.root.IsSound) (ht : Path.isAbsolute t = true) :
    fs.hasFile (along (plan t).1 rest) = true ↔
      IsRoute fs.root (allSegments t) (asWritten front ++ rest) ∧
        Fits t (asWritten front ++ rest) := by
  have hopening : Path.isAbsolute (plan t).1 = true := (isAbsolute_opening t).trans ht
  have hfollow := hfront.follow fs.root rest hrest
  rw [hasFile_along_iff hroot hopening (areWritable_of_reading hrest), Fits,
    pathAlong_append hrest.length_eq.symm, and_comm]
  refine and_congr_left fun _ => ?_
  constructor
  · rintro ⟨place, hplace, last, hlast, hfile⟩
    rw [hplace] at hfollow
    have harrives := hfollow.symm.trans hlast
    have hend := destination_eq harrives
    rw [hend] at harrives hfile
    exact ⟨hfront.segments ▸ List.rel_append (forall₂_name_iff.mpr rfl) hrest, harrives, hfile⟩
  · rintro ⟨-, harrives, hfile⟩
    obtain ⟨place, hplace, hlast⟩ := bind_eq_ok.mp (hfollow.trans harrives)
    exact ⟨place, hplace, _, hlast, hfile⟩

/-- The path along a route is that of its end. -/
theorem normalize_along_of_isRoute (ht : Path.isAbsolute t = true)
    (h : IsRoute root (allSegments t) (asWritten front ++ rest)) :
    Path.normalize (along (plan t).1 rest) =
      Path.root t ++ Text.join (ofString "/") (destination (asWritten front ++ rest)) := by
  have hopening : Path.isAbsolute (plan t).1 = true := (isAbsolute_opening t).trans ht
  have hwritable := areWritable_of_reading hrest
  have harrives := h.arrives
  rw [← hfront.follow root rest hrest,
    ← foldlM_steps_along hwritable (Path.ne_nil_of_isAbsolute hopening)] at harrives
  rw [Files.normalize_of_steps (isAbsolute_along hopening rest) harrives,
    root_along hopening hwritable, root_opening ht]

end Behind

/-- A search finds the files at the ends of the routes whose paths are not too long. -/
theorem findWritten_routes (hroot : fs.root.IsSound) (ht : Path.isAbsolute t = true)
    (h : findWritten fs t = .ok found) : ∃ routes : List Reading, routes.Nodup ∧
      (∀ reading, reading ∈ routes ↔ IsRoute fs.root (allSegments t) reading ∧ Fits t reading) ∧
      found = sort (routes.map fun reading =>
        Path.root t ++ Text.join (ofString "/") (destination reading)) := by
  obtain ⟨readings, hnodup, hmem, rfl⟩ := findWritten_eq hroot ht h
  obtain ⟨front, hfront⟩ := exists_isFront t
  refine ⟨readings.map (asWritten front ++ ·), hnodup.map (List.append_right_injective _),
    fun reading => ?_, congrArg sort ?_⟩
  · rw [List.mem_map]
    constructor
    · rintro ⟨rest, hrest, rfl⟩
      obtain ⟨hstands, hfile⟩ := (hmem rest).mp hrest
      exact (hasFile_iff_isRoute hfront hstands hroot ht).mp hfile
    · rintro ⟨hroute, hfits⟩
      obtain ⟨rest, hrest, rfl⟩ := hroute.exists_behind hfront
      have hfile := (hasFile_iff_isRoute hfront hrest hroot ht).mpr ⟨hroute, hfits⟩
      exact ⟨rest, (hmem rest).mpr ⟨hrest, hfile⟩, rfl⟩
  · rw [List.map_map]
    refine List.map_congr_left fun rest hrest => ?_
    obtain ⟨hstands, hfile⟩ := (hmem rest).mp hrest
    have hroute := ((hasFile_iff_isRoute hfront hstands hroot ht).mp hfile).1
    exact normalize_along_of_isRoute hfront hstands ht hroute

theorem mem_findWritten_iff (hroot : fs.root.IsSound) (ht : Path.isAbsolute t = true)
    (h : findWritten fs t = .ok found) {p : Text} : p ∈ found ↔
      ∃ reading, IsRoute fs.root (allSegments t) reading ∧ Fits t reading ∧
        p = Path.root t ++ Text.join (ofString "/") (destination reading) := by
  obtain ⟨routes, -, hmem, rfl⟩ := findWritten_routes hroot ht h
  rw [sort, (List.mergeSort_perm _ _).mem_iff, List.mem_map]
  refine exists_congr fun reading => ?_
  rw [hmem, and_assoc, eq_comm (a := p)]

end Search

end CallBindings
