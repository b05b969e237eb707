import CallBindings.Proofs.Files.Opening

set_option autoImplicit false

/-! # What a search finds

The path of what a search finds is put together along a reading of its segments, and is followed as
the names of the reading. So a search for a written text finds the files along its readings, one for
each reading. It is refused only for a text with wildcards that has too many segments, or in front
of which stands no path that the system takes.
-/

namespace CallBindings

open Text

namespace Search

variable {fs : Files} {root : FileTree} {place : Place} {segments : List Segment}
  {reading reading' : Reading} {start t base pattern directory : Text} {found : List Text}

/-! ## Paths along a reading -/

theorem areWritable_of_standsFor {s : Segment} {names : List Text} (h : s.StandsFor names)
    (hs : ∀ u, s = .name u → u ≠ [] ∧ CodePoint.ofChar '/' ∉ u) : Path.AreWritable names := by
  cases h with
  | name u => exact fun name hname => List.mem_singleton.mp hname ▸ hs u rfl
  | anyDepth hnames => exact Path.areWritable_of_isName fun name hname => (hnames name hname).1
  | pattern hname _ _ =>
      exact Path.areWritable_of_isName fun name hmem => List.mem_singleton.mp hmem ▸ hname

theorem areWritable_of_forall₂ (h : List.Forall₂ Segment.StandsFor segments reading)
    (hsegments : ∀ u, Segment.name u ∈ segments → u ≠ [] ∧ CodePoint.ofChar '/' ∉ u) :
    ∀ names ∈ reading, Path.AreWritable names := by
  induction h with
  | nil => exact nofun
  | cons hstands _ ih =>
      refine List.forall_mem_cons.mpr ⟨areWritable_of_standsFor hstands ?_,
        ih fun u hu => hsegments u (List.mem_cons_of_mem _ hu)⟩
      rintro u rfl
      exact hsegments u List.mem_cons_self

/-- What the segments of a text stand for can be written. -/
theorem areWritable_of_reading (h : List.Forall₂ Segment.StandsFor (plan t).2 reading) :
    ∀ names ∈ reading, Path.AreWritable names :=
  areWritable_of_forall₂ h fun _ => writable_of_mem_plan

theorem along_cons (start : Text) (names : List Text) (reading : Reading) :
    along start (names :: reading) =
      along (Path.join start (Text.join (ofString "/") names)) reading := rfl

theorem join_ne_nil {p q : Text} (hp : p ≠ []) (hq : Path.isAbsolute q = false) :
    Path.join p q ≠ [] := by
  rw [Path.join_eq hq]
  exact fun hnil => Path.join_nil_ne_nil hp (List.append_eq_nil_iff.mp hnil).1

theorem isAbsolute_along (h : Path.isAbsolute start = true) (reading : Reading) :
    Path.isAbsolute (along start reading) = true := by
  induction reading generalizing start with
  | nil => exact h
  | cons names reading ih => exact ih (Path.isAbsolute_join h _)

/-- A path along a reading is followed as the names of the reading. -/
theorem foldlM_steps_along (hreading : ∀ names ∈ reading, Path.AreWritable names)
    (hstart : start ≠ []) : (Path.steps (along start reading)).foldlM (Files.step root) place =
      (Path.steps start).foldlM (Files.step root) place >>= fun next =>
        (reading.flatMap Files.footsteps).foldlM (Files.step root) next := by
  induction reading generalizing start with
  | nil => exact (bind_pure _).symm
  | cons names reading ih =>
      obtain ⟨hnames, hreading⟩ := List.forall_mem_cons.mp hreading
      rw [along_cons, ih hreading (join_ne_nil hstart (Path.isAbsolute_written hnames)),
        Files.foldlM_steps_onto hnames hstart, bind_assoc]
      refine congrArg _ (funext fun next => ?_)
      rw [List.flatMap_cons, List.foldlM_append]

/-- A name that leads somewhere in a sound tree is one that the system takes. -/
theorem isUsable_of_step {next : Place} {name : Text} (hroot : root.IsSound)
    (h : Files.step root place name = .ok next) : Files.IsUsable name := by
  obtain ⟨entries, hentries⟩ := FileTree.exists_directory
    (FileTree.hasDirectory_iff.mp (Files.hasDirectory_of_step h))
  rw [Files.step, hentries] at h
  simp only at h
  split at h
  · next hdot =>
      rw [hdot]
      decide
  · split at h
    · next hdots =>
        rw [hdots]
        decide
    · split at h
      · cases h
      · split at h
        · next hkey =>
            -- the name is that of an entry, and those of a sound tree are usable
            obtain ⟨u, hu⟩ := hasKey_eq_true_iff.mp hkey
            exact ((hroot.get? hentries).isName _ (mem_of_lookup? hu)).usable
        · cases h

theorem isUsable_of_foldlM_step {names : List Text} {last : Place} (hroot : root.IsSound)
    (h : names.foldlM (Files.step root) place = .ok last) :
    ∀ name ∈ names, Files.IsUsable name := by
  induction names generalizing place with
  | nil => exact nofun
  | cons name names ih =>
      rw [List.foldlM_cons] at h
      obtain ⟨next, hnext, hrest⟩ := bind_eq_ok.mp h
      exact List.forall_mem_cons.mpr ⟨isUsable_of_step hroot hnext, ih hrest⟩

/-- A reading that leads on from the start leads to a file exactly if there is one at its path. -/
theorem hasFile_along_iff (hroot : fs.root.IsSound) (habsolute : Path.isAbsolute start = true)
    (hreading : ∀ names ∈ reading, Path.AreWritable names) :
    fs.hasFile (along start reading) = true ↔
      (Files.fits (along start reading)).isOk = true ∧
        ∃ place, (Path.steps start).foldlM (Files.step fs.root) [] = .ok place ∧
          ∃ last, (reading.flatMap Files.footsteps).foldlM (Files.step fs.root) place = .ok last ∧
            (fs.root.file? last).isSome = true := by
  have hne := Path.ne_nil_of_isAbsolute habsolute
  have hsteps : (Path.steps (along start reading)).foldlM (Files.step fs.root) [] = _ :=
    foldlM_steps_along hreading hne
  rw [Files.hasFile_iff (isAbsolute_along habsolute reading)]
  constructor
  · rintro ⟨-, hfits, last, hlast, hfile⟩
    obtain ⟨place, hplace, hlast⟩ := bind_eq_ok.mp (hsteps.symm.trans hlast)
    exact ⟨hfits, place, hplace, last, hlast, hfile⟩
  · rintro ⟨hfits, place, hplace, last, hlast, hfile⟩
    have hlast := hsteps.trans (bind_eq_ok.mpr ⟨place, hplace, hlast⟩)
    have husable := Path.isUsable_of_names fun name hname =>
      isUsable_of_foldlM_step hroot hlast name (List.mem_append_left _ hname)
    exact ⟨husable, hfits, last, hlast, hfile⟩

theorem fits_iff {p : Text} :
    (Files.fits p).isOk = true ↔ p ≠ [] ∧ Files.size p < Files.pathLimit := by
  rw [Files.fits]
  split
  · next hempty => simp [List.isEmpty_iff.mp hempty, Except.isOk, Except.toBool]
  · next hempty =>
      have hne : p ≠ [] := fun hnil => hempty (by rw [hnil]; rfl)
      split
      · next hlimit => simp [hne, Nat.not_lt.mpr hlimit, Except.isOk, Except.toBool]
      · next hlimit => simp [hne, Nat.lt_of_not_le hlimit, Except.isOk, Except.toBool]

theorem size_append (p q : Text) : Files.size (p ++ q) = Files.size p + Files.size q := by
  rw [Files.size, Files.encode, List.flatMap_append, List.length_append]
  rfl

theorem prefix_along (hreading : ∀ names ∈ reading, Path.AreWritable names) (start : Text) :
    start <+: along start reading := by
  induction reading generalizing start with
  | nil => exact List.prefix_rfl
  | cons names reading ih =>
      obtain ⟨hnames, hreading⟩ := List.forall_mem_cons.mp hreading
      have hjoin : start <+: Path.join start (Text.join (ofString "/") names) := by
        rw [Path.join_eq (Path.isAbsolute_written hnames)]
        exact (Path.prefix_join_nil start).trans (List.prefix_append _ _)
      exact hjoin.trans (ih hreading _)

/-- A start is too long only if every path behind it is. -/
theorem fits_of_fits_along (hstart : start ≠ [])
    (hreading : ∀ names ∈ reading, Path.AreWritable names)
    (h : (Files.fits (along start reading)).isOk = true) : (Files.fits start).isOk = true := by
  obtain ⟨rest, hrest⟩ := prefix_along hreading start
  rw [fits_iff, ← hrest, size_append] at h
  exact fits_iff.mpr ⟨hstart, by omega⟩

/-! ## Searches for a written text -/

theorem findWritten_of_nil {u : Text} (h : plan t = (u, [])) : findWritten fs t =
    .ok (if fs.hasFile u then [Path.normalize u] else []) := by
  rw [findWritten, h]

theorem findWritten_of_cons {u : Text} {s : Segment} {rest : List Segment}
    (h : plan t = (u, s :: rest)) : findWritten fs t =
      if segmentLimit < (s :: rest).length then .error .tooManyParts
      else match Files.check u with
        | .error e => .error e
        | .ok _ => .ok (sort (((ways fs u (s :: rest)).filter (leadsToFile fs)).map fun w =>
            Path.normalize w.path)) := by
  cases hcheck : Files.check u with
  | error e => simp only [findWritten, h, hcheck]
  | ok _ => simp only [findWritten, h, hcheck]

/-- A text without wildcards is looked up, and any other is searched for from where it starts. -/
theorem exists_findWritten_iff : (∃ found, findWritten fs t = .ok found) ↔
    (plan t).2 = [] ∨ (plan t).2.length ≤ segmentLimit ∧ Files.IsUsable (plan t).1 := by
  cases hplan : plan t with
  | mk u segments =>
      cases segments with
      | nil => exact iff_of_true ⟨_, findWritten_of_nil hplan⟩ (Or.inl rfl)
      | cons s rest =>
          rw [findWritten_of_cons hplan, or_iff_right (List.cons_ne_nil s rest), ← Nat.not_lt,
            ← Files.check_eq_ok_iff]
          by_cases hlimit : segmentLimit < (s :: rest).length
          · rw [if_pos hlimit]
            exact iff_of_false (fun ⟨_, h⟩ => nomatch h) fun h => h.1 hlimit
          · rw [if_neg hlimit, and_iff_right hlimit]
            cases Files.check u <;> simp

/-- The ways to files from where a search starts are those along the readings to files. -/
theorem filter_ways_eq (hroot : fs.root.IsSound) (habsolute : Path.isAbsolute start = true)
    (hsegments : ∀ u, Segment.name u ∈ segments → u ≠ [] ∧ CodePoint.ofChar '/' ∉ u) :
    ∃ readings : List Reading, readings.Nodup ∧
      (∀ reading, reading ∈ readings ↔ List.Forall₂ Segment.StandsFor segments reading ∧
        fs.hasFile (along start reading) = true) ∧
      ((ways fs start segments).filter (leadsToFile fs)).map (fun w => Path.normalize w.path) =
        readings.map fun reading => Path.normalize (along start reading) := by
  have hne := Path.ne_nil_of_isAbsolute habsolute
  have hfile : ∀ reading, List.Forall₂ Segment.StandsFor segments reading →
      (fs.hasFile (along start reading) = true ↔ _) := fun reading hreading =>
    hasFile_along_iff hroot habsolute (areWritable_of_forall₂ hreading hsegments)
  cases hplace : fs.locate start with
  | error fault =>
      -- nothing is found, and a path behind the start would lead through it
      refine ⟨[], List.nodup_nil, fun reading => ?_, by rw [ways, hplace]; rfl⟩
      refine iff_of_false List.not_mem_nil ?_
      rintro ⟨hreading, hhas⟩
      obtain ⟨hfits, place, hsteps, -⟩ := (hfile reading hreading).mp hhas
      have hfits := fits_of_fits_along hne (areWritable_of_forall₂ hreading hsegments) hfits
      cases hplace.symm.trans ((Files.locate_eq_ok_iff habsolute).mpr ⟨hfits, hsteps⟩)
  | ok place =>
      have hsteps := ((Files.locate_eq_ok_iff habsolute).mp hplace).2
      refine ⟨(readings fs.root segments place).filter fun reading =>
        leadsToFile fs ⟨along start reading, reading.flatten.foldl Files.arrive place⟩,
        (nodup_readings hroot segments place).filter _, fun reading => ?_, ?_⟩
      · rw [List.mem_filter, mem_readings_iff hroot, and_assoc]
        refine and_congr_right fun hreading => ?_
        rw [hfile reading hreading, leadsToFile, Bool.and_eq_true]
        constructor
        · rintro ⟨⟨last, hlast⟩, hfits, hhas⟩
          refine ⟨hfits, place, hsteps, last, hlast, ?_⟩
          rwa [Files.foldl_arrive_of_foldlM_step hlast, foldl_arrive_flatMap]
        · rintro ⟨hfits, place', hsteps', last, hlast, hhas⟩
          rw [hsteps] at hsteps'
          cases hsteps'
          refine ⟨⟨last, hlast⟩, hfits, ?_⟩
          rwa [Files.foldl_arrive_of_foldlM_step hlast, foldl_arrive_flatMap] at hhas
      · rw [ways, hplace]
        simp only [expand_eq hroot, List.filter_map, List.map_map]
        rfl

/-- What a search for a written text finds are the files along the readings of its segments. -/
theorem findWritten_eq (hroot : fs.root.IsSound) (habsolute : Path.isAbsolute t = true)
    (h : findWritten fs t = .ok found) : ∃ readings : List Reading, readings.Nodup ∧
      (∀ reading, reading ∈ readings ↔ List.Forall₂ Segment.StandsFor (plan t).2 reading ∧
        fs.hasFile (along (plan t).1 reading) = true) ∧
      found = sort (readings.map fun reading => Path.normalize (along (plan t).1 reading)) := by
  cases hplan : plan t with
  | mk u segments =>
      cases segments with
      | nil =>
          rw [findWritten_of_nil hplan] at h
          cases h
          -- there are no segments to read, so all there can be is the text itself
          refine ⟨[[]].filter fun reading => fs.hasFile (along u reading),
            (List.nodup_singleton _).filter _, fun reading => ?_, ?_⟩
          · rw [List.mem_filter, List.mem_singleton, List.forall₂_nil_left_iff]
          · have hnil : along u [] = u := rfl
            cases hhas : fs.hasFile u with
            | true =>
                rw [List.filter_cons_of_pos (hnil ▸ hhas)]
                exact (List.mergeSort_singleton _).symm
            | false =>
                rw [List.filter_cons_of_neg (by simp [hnil, hhas])]
                exact List.mergeSort_nil.symm
      | cons s rest =>
          rw [findWritten_of_cons hplan] at h
          split at h
          · cases h
          · split at h
            · cases h
            · cases h
              have hstart := isAbsolute_opening t
              rw [hplan] at hstart
              have hsegments : ∀ v, Segment.name v ∈ s :: rest →
                  v ≠ [] ∧ CodePoint.ofChar '/' ∉ v := by
                intro v hv
                have hwritable := writable_of_mem_plan (t := t) (u := v)
                rw [hplan] at hwritable
                exact hwritable hv
              obtain ⟨readings, hnodup, hmem, heq⟩ :=
                filter_ways_eq hroot (hstart.trans habsolute) hsegments
              exact ⟨readings, hnodup, hmem, congrArg sort heq⟩

end Search

end CallBindings
