import CallBindings.Proofs.Files.Following
import CallBindings.Proofs.Files.Search
import CallBindings.Proofs.Files.Wildcard

set_option autoImplicit false

/-! # The readings of a search

A segment of a pattern stands for names: a name for itself, a pattern of a name for a name that it
matches, and `**` for any number of visible names. A reading of several segments says what each of
them stands for. A search follows every reading that leads somewhere, and each reading once; it
finds a file as often as there are readings that lead to it.
-/

namespace CallBindings

open Text

/-! ## Segments -/

/-- What a segment can stand for. -/
inductive Segment.StandsFor : Segment → List Text → Prop
  | name (t : Text) : StandsFor (.name t) [t]
  | anyDepth {names : List Text} :
      (∀ name ∈ names, Path.IsName name ∧ Path.isHidden name = false) → StandsFor .anyDepth names
  | pattern {hidden : Bool} {ws : List Wildcard} {name : Text} : Path.IsName name →
      (hidden = true ∨ Path.isHidden name = false) → Wildcard.Matches ws name →
      StandsFor (.pattern hidden ws) [name]

namespace Files

variable {root : FileTree} {place last : Place} {names : List Text}

theorem foldlM_step_of_isName (h : ∀ name ∈ names, Path.IsName name) (hne : names ≠ []) :
    names.foldlM (step root) place = .ok last ↔
      last = place ++ names ∧ (root.get? (place ++ names)).isSome = true := by
  induction names generalizing place with
  | nil => exact absurd rfl hne
  | cons name names ih =>
      obtain ⟨hname, hnames⟩ := List.forall_mem_cons.mp h
      have hsplit : place ++ name :: names = (place ++ [name]) ++ names := by simp
      rw [List.foldlM_cons, bind_eq_ok]
      simp only [step_of_isName hname]
      -- the induction hypothesis asks for a name, so the last step is taken by itself
      by_cases hnil : names = []
      · subst hnil
        constructor
        · rintro ⟨next, ⟨rfl, hstands⟩, hlast⟩
          cases hlast
          exact ⟨rfl, hstands⟩
        · rintro ⟨rfl, hstands⟩
          exact ⟨_, ⟨rfl, hstands⟩, rfl⟩
      · rw [hsplit]
        constructor
        · rintro ⟨next, ⟨rfl, -⟩, hlast⟩
          exact (ih hnames hnil).mp hlast
        · intro hlast
          exact ⟨_, ⟨rfl, FileTree.isSome_get?_of_append hlast.2⟩, (ih hnames hnil).mpr hlast⟩

/-- Whether a place is that of a directory is whether there is a step to the same place. -/
theorem foldlM_dot_iff : [ofString "."].foldlM (step root) place = .ok last ↔
    last = place ∧ ∃ entries, root.get? place = some (.directory entries) := by
  rw [List.foldlM_cons, step]
  cases root.get? place with
  | none => simp [bind, Except.bind]
  | some u => cases u <;> simp [bind, Except.bind, pure, Except.pure, eq_comm]

/-- To follow one name is to make one step. -/
theorem exists_follow_singleton_iff {name : Text} :
    (∃ last, (footsteps [name]).foldlM (step root) place = .ok last) ↔
      ∃ last, step root place name = .ok last := by
  rw [footsteps, if_neg (List.cons_ne_nil name []), List.foldlM_cons]
  simp [bind_eq_ok, pure, Except.pure]

/-- Names of entries can be followed from a directory to what stands there. -/
theorem exists_follow_iff (h : ∀ name ∈ names, Path.IsName name) :
    (∃ last, (footsteps names).foldlM (step root) place = .ok last) ↔
      ∃ entries, root.get? place = some (.directory entries) ∧
        ((FileTree.directory entries).get? names).isSome = true := by
  by_cases hne : names = []
  · simp only [hne, footsteps, if_true, foldlM_dot_iff, exists_eq_left, FileTree.get?,
      Option.isSome_some, and_true]
  · have hfollow : (∃ last, (footsteps names).foldlM (step root) place = .ok last) ↔
        (root.get? (place ++ names)).isSome = true := by
      simp only [footsteps, if_neg hne, foldlM_step_of_isName h hne, exists_eq_left]
    rw [hfollow]
    constructor
    · intro hstands
      obtain ⟨entries, hget⟩ := FileTree.exists_directory_of_below hne hstands
      rw [FileTree.get?_append, hget] at hstands
      exact ⟨entries, hget, hstands⟩
    · rintro ⟨entries, hget, hstands⟩
      rw [FileTree.get?_append, hget]
      exact hstands

end Files

namespace Segment

variable {root : FileTree} {place : Place} {names : List Text} {s : Segment}

/-- What a segment stands for at a place. -/
def readings (root : FileTree) (place : Place) : Segment → List (List Text)
  | .name t => if (Files.step root place t).isOk then [[t]] else []
  | .anyDepth =>
    match root.get? place with
    | some (.directory entries) => [] :: FileTree.visibleFromEntries [] entries
    | _ => []
  | .pattern hidden ws =>
    match root.get? place with
    | some (.directory entries) =>
      (entries.filter fun e => (hidden || !Path.isHidden e.1) && Wildcard.matchesAll ws e.1).map
        fun e => [e.1]
    | _ => []

/-- A segment leads on along what it stands for. -/
theorem reach_eq (hroot : root.IsSound) (w : Way) (s : Segment) :
    s.reach root w = (s.readings root w.place).map fun names =>
      w.onTo (Text.join (ofString "/") names) (names.foldl Files.arrive w.place) := by
  cases s with
  | name t =>
      rw [reach, readings]
      cases hstep : Files.step root w.place t with
      | error fault => rfl
      | ok next =>
          rw [Files.arrive_of_step hstep]
          rfl
  | anyDepth =>
      rw [reach, readings]
      cases hget : root.get? w.place with
      | none => rfl
      | some u =>
          cases u with
          | file content => rfl
          | directory entries =>
              refine congrArg (w.onTo [] w.place :: ·) (List.map_congr_left fun below hbelow => ?_)
              -- what is shown below are names of entries, so arriving at them adds them as they are
              have hsound := hroot.get? hget
              have hshows := (FileTree.mem_visibleFromEntries_iff hsound).mp hbelow
              have hnames := (Files.foldlM_step_place hsound hshows.stands).2
              rw [Files.foldl_arrive_of_isName hnames]
  | pattern hidden ws =>
      rw [reach, readings]
      cases hget : root.get? w.place with
      | none => rfl
      | some u =>
          cases u with
          | file content => rfl
          | directory entries =>
              simp only [List.map_map]
              refine List.map_congr_left fun e he => ?_
              have hname := (hroot.get? hget).isName e (List.mem_of_mem_filter he)
              show w.onTo e.1 (w.place ++ [e.1]) = w.onTo e.1 (Files.arrive w.place e.1)
              rw [Files.arrive_of_isName hname]

theorem mem_readings_name_iff {t : Text} : names ∈ (name t).readings root place ↔
    names = [t] ∧ ∃ last, Files.step root place t = .ok last := by
  rw [readings]
  cases Files.step root place t <;> simp [Except.isOk, Except.toBool]

theorem mem_readings_anyDepth_iff (hroot : root.IsSound) : names ∈ anyDepth.readings root place ↔
    ∃ entries, root.get? place = some (.directory entries) ∧
      (names = [] ∨ (FileTree.directory entries).Shows names) := by
  rw [readings]
  cases hget : root.get? place with
  | none => simp
  | some u =>
      cases u with
      | file content => simp
      | directory entries =>
          simp [FileTree.mem_visibleFromEntries_iff (hroot.get? hget)]

theorem mem_readings_pattern_iff {hidden : Bool} {ws : List Wildcard} :
    names ∈ (pattern hidden ws).readings root place ↔
      ∃ entries e, root.get? place = some (.directory entries) ∧ e ∈ entries ∧
        (hidden = true ∨ Path.isHidden e.1 = false) ∧ Wildcard.Matches ws e.1 ∧ names = [e.1] := by
  rw [readings]
  cases hget : root.get? place with
  | none => simp
  | some u =>
      cases u with
      | file content => simp
      | directory entries =>
          simp only [List.mem_map, List.mem_filter, Bool.and_eq_true, Bool.or_eq_true,
            Bool.not_eq_true', Wildcard.matchesAll_iff, Option.some.injEq,
            FileTree.directory.injEq, exists_and_left, exists_eq_left', and_assoc]
          exact exists_congr fun e => by rw [eq_comm (a := names)]

/-- What a segment stands for at a place is what it can stand for and what leads on from there. -/
theorem mem_readings_iff (hroot : root.IsSound) : names ∈ s.readings root place ↔
    s.StandsFor names ∧
      ∃ last, (Files.footsteps names).foldlM (Files.step root) place = .ok last := by
  cases s with
  | name t =>
      rw [mem_readings_name_iff]
      constructor
      · rintro ⟨rfl, hstep⟩
        exact ⟨.name t, Files.exists_follow_singleton_iff.mpr hstep⟩
      · rintro ⟨⟨⟩, hstep⟩
        exact ⟨rfl, Files.exists_follow_singleton_iff.mp hstep⟩
  | anyDepth =>
      rw [mem_readings_anyDepth_iff hroot]
      constructor
      · rintro ⟨entries, hget, rfl | hshows⟩
        · exact ⟨.anyDepth (List.forall_mem_nil _),
            (Files.exists_follow_iff (List.forall_mem_nil _)).mpr ⟨entries, hget, rfl⟩⟩
        · -- what a directory shows stands below it, so its names are those of entries
          have hnames := (Files.foldlM_step_place (hroot.get? hget) hshows.stands).2
          exact ⟨.anyDepth fun name hname => ⟨hnames name hname, hshows.visible name hname⟩,
            (Files.exists_follow_iff hnames).mpr ⟨entries, hget, hshows.stands⟩⟩
      · rintro ⟨hstands, hfollow⟩
        cases hstands with
        | anyDepth hnames =>
            obtain ⟨entries, hget, hstands⟩ :=
              (Files.exists_follow_iff fun name hname => (hnames name hname).1).mp hfollow
            refine ⟨entries, hget, or_iff_not_imp_left.mpr fun hne => ?_⟩
            exact ⟨hne, fun name hname => (hnames name hname).2, hstands⟩
  | pattern hidden ws =>
      rw [mem_readings_pattern_iff]
      constructor
      · rintro ⟨entries, e, hget, he, hhidden, hmatches, rfl⟩
        have hsound := hroot.get? hget
        have hname := hsound.isName e he
        refine ⟨.pattern hname hhidden hmatches,
          Files.exists_follow_singleton_iff.mpr ⟨place ++ [e.1], ?_⟩⟩
        rw [Files.step_of_isName hname, FileTree.get?_entry hget,
          hsound.lookup?_eq_some_iff.mpr he]
        exact ⟨rfl, rfl⟩
      · rintro ⟨hstands, hfollow⟩
        cases hstands with
        | @pattern _ _ name hname hhidden hmatches =>
            obtain ⟨last, hstep⟩ := Files.exists_follow_singleton_iff.mp hfollow
            rw [Files.step_of_isName hname] at hstep
            obtain ⟨entries, hget⟩ :=
              FileTree.exists_directory_of_below (List.cons_ne_nil name []) hstep.2
            rw [FileTree.get?_entry hget, Option.isSome_iff_exists] at hstep
            obtain ⟨-, u, hu⟩ := hstep
            exact ⟨entries, (name, u), hget, mem_of_lookup? hu, hhidden, hmatches, rfl⟩

theorem nodup_readings (hroot : root.IsSound) (place : Place) (s : Segment) :
    (s.readings root place).Nodup := by
  cases s with
  | name t =>
      rw [readings]
      split
      · exact List.nodup_singleton _
      · exact List.nodup_nil
  | anyDepth =>
      rw [readings]
      split
      · next entries hget =>
          have hsound := hroot.get? hget
          -- the empty reading is the directory itself, which is not among what it shows
          refine List.nodup_cons.mpr ⟨fun hmem => ?_, FileTree.nodup_visibleFrom hsound []⟩
          exact ((FileTree.mem_visibleFromEntries_iff hsound).mp hmem).ne_nil rfl
      · exact List.nodup_nil
  | pattern hidden ws =>
      rw [readings]
      split
      · next entries hget =>
          -- readings of one name each are told apart by the names, as the entries are
          have hnames := (hroot.get? hget).nodup
          refine List.Nodup.map_on (fun e he e' he' hsame => ?_)
            ((List.Nodup.of_map _ hnames).filter _)
          exact List.inj_on_of_nodup_map hnames (List.mem_of_mem_filter he)
            (List.mem_of_mem_filter he') (List.cons.inj hsame).1
      · exact List.nodup_nil

end Segment

/-! ## Searches -/

namespace Search

/-- What each of some segments stands for. -/
abbrev Reading := List (List Text)

variable {root : FileTree} {place last : Place} {segments : List Segment} {reading : Reading}

/-- The path that is put together along a reading. -/
def along (start : Text) (reading : Reading) : Text :=
  reading.foldl (fun p names => Path.join p (Text.join (ofString "/") names)) start

/-- The readings of segments that lead on from a place. -/
def readings (root : FileTree) : List Segment → Place → List Reading
  | [], _ => [[]]
  | s :: rest, place => (s.readings root place).flatMap fun names =>
      (readings root rest (names.foldl Files.arrive place)).map (names :: ·)

/-- The ways of a search are those along its readings. -/
theorem expand_eq (hroot : root.IsSound) (segments : List Segment) (w : Way) :
    expand root segments w = (readings root segments w.place).map fun reading =>
      ⟨along w.path reading, reading.flatten.foldl Files.arrive w.place⟩ := by
  induction segments generalizing w with
  | nil => rfl
  | cons s rest ih =>
      rw [expand, Segment.reach_eq hroot, List.flatMap_map, readings, List.map_flatMap]
      refine List.flatMap_congr fun names _ => ?_
      rw [ih, List.map_map]
      refine List.map_congr_left fun reading _ => ?_
      simp [Way.onTo, along]

/-- Being at a place once more changes nothing. -/
theorem foldl_arrive_footsteps (place : Place) (names : List Text) :
    (Files.footsteps names).foldl Files.arrive place = names.foldl Files.arrive place := by
  rw [Files.footsteps]
  split
  · next hnil =>
      rw [hnil, List.foldl_cons, Files.arrive, if_pos rfl]
  · rfl

theorem foldl_arrive_flatMap (place : Place) (reading : Reading) :
    (reading.flatMap Files.footsteps).foldl Files.arrive place =
      reading.flatten.foldl Files.arrive place := by
  induction reading generalizing place with
  | nil => rfl
  | cons names reading ih =>
      rw [List.flatMap_cons, List.foldl_append, foldl_arrive_footsteps, ih, List.flatten_cons,
        List.foldl_append]

/-- The readings that lead on are those by which the segments can be read and whose names lead
somewhere. -/
theorem mem_readings_iff (hroot : root.IsSound) : reading ∈ readings root segments place ↔
    List.Forall₂ Segment.StandsFor segments reading ∧
      ∃ last, (reading.flatMap Files.footsteps).foldlM (Files.step root) place = .ok last := by
  induction segments generalizing place reading with
  | nil =>
      rw [readings, List.mem_singleton, List.forall₂_nil_left_iff]
      constructor
      · rintro rfl
        exact ⟨rfl, place, rfl⟩
      · exact And.left
  | cons s rest ih =>
      rw [readings, List.mem_flatMap, List.forall₂_cons_left_iff]
      constructor
      · -- the rest is read from where the first segment arrives, and following it ends there
        rintro ⟨names, hnames, hmem⟩
        obtain ⟨later, hlater, rfl⟩ := List.mem_map.mp hmem
        obtain ⟨hstands, next, hnext⟩ := (Segment.mem_readings_iff hroot).mp hnames
        obtain ⟨hrest, last, hlast⟩ := ih.mp hlater
        refine ⟨⟨names, later, hstands, hrest, rfl⟩, last, ?_⟩
        rw [← foldl_arrive_footsteps, ← Files.foldl_arrive_of_foldlM_step hnext] at hlast
        rw [List.flatMap_cons, List.foldlM_append, hnext]
        exact hlast
      · rintro ⟨⟨names, later, hstands, hrest, rfl⟩, last, hlast⟩
        rw [List.flatMap_cons, List.foldlM_append] at hlast
        obtain ⟨next, hnext, hlast⟩ := bind_eq_ok.mp hlast
        refine ⟨names, (Segment.mem_readings_iff hroot).mpr ⟨hstands, next, hnext⟩,
          List.mem_map_of_mem (ih.mpr ⟨hrest, last, ?_⟩)⟩
        rw [← foldl_arrive_footsteps, ← Files.foldl_arrive_of_foldlM_step hnext]
        exact hlast

/-- Each reading is followed once. -/
theorem nodup_readings (hroot : root.IsSound) (segments : List Segment) (place : Place) :
    (readings root segments place).Nodup := by
  induction segments generalizing place with
  | nil => exact List.nodup_singleton _
  | cons s rest ih =>
      rw [readings, List.nodup_flatMap]
      refine ⟨fun names _ => (ih _).map (List.cons_injective), ?_⟩
      refine (Segment.nodup_readings hroot place s).imp fun hne reading hreading hreading' => hne ?_
      obtain ⟨later, -, rfl⟩ := List.mem_map.mp hreading
      obtain ⟨later', -, hsame⟩ := List.mem_map.mp hreading'
      exact (List.cons.inj hsame).1.symm

end Search

end CallBindings
