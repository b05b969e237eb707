import CallBindings.Files.AtomicWrite
import CallBindings.Proofs.Files.Store
import CallBindings.Proofs.Number.Decimal
import CallBindings.Proofs.Text.Utf8

set_option autoImplicit false

/-! # A write is all or nothing

A temporary file is made at a place where nothing stands, so that filling it and removing it again
leaves every place as it was. A write that comes through therefore changes one file, that at its
path, and a write that fails changes none, whichever step it fails at: all that it may leave are new
directories on the way to its target. For a text that has bytes and a path that the system takes,
what makes a write fail is the system or too many missing directories.
-/

namespace CallBindings

open Text

namespace AtomicWrite

variable {fs fs' : Files} {failures : DeviceFailures} {p text : Text} {source place q : Place}
  {content : Bytes} {entries : List (Text × FileTree)} {e : FileError}

/-! ## Unused names -/

theorem temporaryName_injective : Function.Injective temporaryName := by
  intro n k h
  have hpadded : ofNatPadded 8 n = ofNatPadded 8 k :=
    List.append_cancel_left (List.append_cancel_right h)
  rw [← numeral_ofNatPadded 8 n, hpadded, numeral_ofNatPadded]

/-- If the name that is chosen has an entry, so have all that were to choose from. -/
theorem hasKey_of_unusedName {fuel n : ℕ}
    (h : hasKey (unusedName entries fuel n) entries = true) :
    ∀ i ≤ fuel, hasKey (temporaryName (n + i)) entries = true := by
  induction fuel generalizing n with
  | zero =>
      intro i hi
      obtain rfl : i = 0 := by omega
      exact h
  | succ fuel ih =>
      rw [unusedName] at h
      split at h
      · next hfirst =>
          intro i hi
          -- the search only goes on past a name that is taken
          cases i with
          | zero => exact hfirst
          | succ i =>
              have hlater := ih h i (by omega)
              rwa [Nat.add_right_comm] at hlater
      · next hfirst => exact absurd h hfirst

/-- There are more names to choose from than entries, so the chosen name has none. -/
theorem hasKey_freshName (entries : List (Text × FileTree)) :
    hasKey (freshName entries) entries = false := by
  rw [← Bool.not_eq_true]
  intro h
  have hall := hasKey_of_unusedName h
  -- otherwise all the names would be among those of the entries, of which there are fewer
  let names := (List.range (entries.length + 2)).map temporaryName
  have hnodup : names.Nodup := List.nodup_range.map temporaryName_injective
  have hsub : names ⊆ entries.map Prod.fst := by
    intro name hname
    obtain ⟨i, hi, rfl⟩ := List.mem_map.mp hname
    have hkey := hall i (by have := List.mem_range.mp hi; omega)
    rw [Nat.zero_add] at hkey
    exact mem_map_fst_of_hasKey hkey
  have hlength : entries.length + 2 ≤ entries.length := by
    calc entries.length + 2 = names.length := by rw [List.length_map, List.length_range]
      _ ≤ (entries.map Prod.fst).length := (hnodup.subperm hsub).length_le
      _ = entries.length := List.length_map _
  omega

/-! ## The temporary file -/

/-- Whether a file can be made at a place where nothing stands. -/
structure IsFree (root : FileTree) (source : Place) : Prop where
  ne_nil : source ≠ []
  parent : root.hasDirectory source.dropLast = true
  nothing : root.kind? source = none

theorem isFree_of_temporaryPlace {directory : Text}
    (h : temporaryPlace fs directory = .ok source) : IsFree fs.root source := by
  rw [temporaryPlace] at h
  obtain ⟨_, -, h⟩ := bind_eq_ok.mp h
  simp only at h
  split at h
  · cases h
  · split at h
    · cases h
    · next place _ =>
        split at h
        · next entries hget =>
            cases h
            have hunused := hasKey_freshName entries
            rw [hasKey, Option.isSome_eq_false_iff, Option.isNone_iff_eq_none] at hunused
            refine ⟨by simp, ?_, ?_⟩
            · rw [List.dropLast_concat, FileTree.hasDirectory, hget]
            · rw [FileTree.kind?, FileTree.get?_entry hget, hunused]
              rfl
        · cases h

theorem isSystem_of_temporaryPlace {directory : Text} (hdirectory : Files.IsUsable directory)
    (h : temporaryPlace fs directory = .error e) : e.isSystem = true := by
  rw [temporaryPlace, Files.check_eq_ok_iff.mpr hdirectory] at h
  replace h : (if Files.pathLimit ≤ _ then _ else _ : Except FileError Place) = .error e := h
  split at h
  · cases h
    rfl
  · split at h
    · cases h
      rfl
    · split at h
      · cases h
      · cases h
        rfl

variable {root filled : FileTree}

/-- Whether a tree is another one with a file where nothing stood. -/
def HasFilled (root : FileTree) (source : Place) (content : Bytes) (filled : FileTree) : Prop :=
  ∀ q, filled.kind? q = if q = source then some (.file content) else root.kind? q

/-- The directories are those there were before, since the file is none. -/
theorem IsFree.hasDirectory_eq (h : IsFree root source)
    (hfilled : HasFilled root source content filled) (q : Place) :
    filled.hasDirectory q = root.hasDirectory q := by
  rw [Bool.eq_iff_iff, FileTree.hasDirectory_iff, FileTree.hasDirectory_iff, hfilled]
  split
  · next hq => simp [hq, h.nothing]
  · rfl

theorem IsFree.hasFilled_put (h : IsFree root source) (content : Bytes) :
    HasFilled root source content (root.put source (.file content)) :=
  FileTree.kind?_put_file content h.ne_nil h.parent (by simp [h.nothing])

/-- Filling a file that was made leads to the same as making it with its content. -/
theorem IsFree.hasFilled_put_put (h : IsFree root source) (old content : Bytes) :
    HasFilled root source content ((root.put source (.file old)).put source (.file content)) := by
  have hmade := h.hasFilled_put old
  have hparent : (root.put source (.file old)).hasDirectory source.dropLast = true := by
    rw [h.hasDirectory_eq hmade]
    exact h.parent
  have hself : (root.put source (.file old)).kind? source ≠ some .directory := by
    rw [hmade, if_pos rfl]
    simp
  intro q
  rw [FileTree.kind?_put_file content h.ne_nil hparent hself, hmade]
  split <;> rfl

/-- Removing a file from where nothing stood before leaves every place as it was. -/
theorem IsFree.kind?_erase (h : IsFree root source)
    (hfilled : HasFilled root source content filled) (q : Place) :
    (filled.erase source).kind? q = root.kind? q := by
  have hparent : filled.hasDirectory source.dropLast = true := by
    rw [h.hasDirectory_eq hfilled]
    exact h.parent
  have hplace : filled.kind? source ≠ some .directory := by
    rw [hfilled, if_pos rfl]
    simp
  rw [FileTree.kind?_erase h.ne_nil hparent hplace, hfilled]
  split
  · next hq => rw [hq, h.nothing]
  · rfl

/-! ## The target -/

/-- A file is moved to a place in a directory, where no directory stands. -/
theorem target_eq_ok (h : fs.target p = .ok place) : ∃ above name directory,
    Files.fits p = .ok () ∧ Path.steps p = above ++ [name] ∧
      above.foldlM (Files.step fs.root) (fs.start p) = .ok directory ∧
      fs.root.hasDirectory directory = true ∧
      (¬ name = ofString "." ∧ ¬ name = ofString ".." ∧ ¬ Files.nameLimit < Files.size name) ∧
      fs.root.hasDirectory place = false ∧ place = directory ++ [name] := by
  rw [Files.target] at h
  obtain ⟨⟨⟩, hfits, h⟩ := bind_eq_ok.mp h
  split at h
  · cases h
  rename_i name above hnames
  obtain ⟨directory, hdirectory, h⟩ := bind_eq_ok.mp h
  split at h
  · cases h
  rename_i hparent
  split at h
  · cases h
  rename_i hdots
  split at h
  · cases h
  rename_i hsize
  split at h
  · cases h
  rename_i hslash
  split at h
  · cases h
  rename_i hfree
  cases h
  -- the names were taken apart from the end, where the target stands
  have hsteps : Path.steps p = above.reverse ++ [name] := by
    have hreverse := congrArg List.reverse hnames
    rw [List.reverse_reverse, List.reverse_cons] at hreverse
    rw [Path.steps, hreverse, if_neg hslash, List.append_nil]
  have hname : ¬ name = ofString "." ∧ ¬ name = ofString ".." := by simpa using hdots
  exact ⟨above.reverse, name, directory, hfits, hsteps, hdirectory, by simpa using hparent,
    ⟨hname.1, hname.2, hsize⟩, by simpa using hfree, rfl⟩

/-- The path leads to the target in every tree that has the directories on the way and something at
the target itself. -/
theorem locate_of_target (h : fs.target p = .ok place) (hcurrent : fs'.current = fs.current)
    (hkeep : ∀ q, fs.root.hasDirectory q = true → fs'.root.hasDirectory q = true)
    (hplace : (fs'.root.kind? place).isSome = true) : fs'.locate p = .ok place := by
  obtain ⟨above, name, directory, hfits, hsteps, hway, hdirectory, ⟨hdot, hdots, hsize⟩, -, rfl⟩ :=
    target_eq_ok h
  -- all steps but the last go through directories that are kept, and the last finds its entry
  have hway' := Files.foldlM_step_of_directories hkeep hway hdirectory
  have hlast : Files.step fs'.root directory name = .ok (directory ++ [name]) := by
    obtain ⟨entries, hentries⟩ :=
      FileTree.exists_directory (FileTree.hasDirectory_iff.mp (hkeep directory hdirectory))
    rw [FileTree.isSome_kind?, FileTree.get?_entry hentries] at hplace
    have hkey : hasKey name entries = true := hplace
    rw [Files.step, hentries]
    simp only [if_neg hdot, if_neg hdots, if_neg hsize, if_pos hkey]
  have hstart : fs'.start p = fs.start p := by rw [Files.start, Files.start, hcurrent]
  rw [Files.locate, hfits, hsteps, hstart]
  show (above ++ [name]).foldlM (Files.step fs'.root) (fs.start p) = _
  rw [List.foldlM_append, hway']
  show [name].foldlM (Files.step fs'.root) directory = _
  rw [List.foldlM_cons, hlast]
  rfl

theorem replace_eq_ok (h : replace fs source p = .ok fs') : ∃ place content,
    Files.check p = .ok () ∧ fs.target p = .ok place ∧ fs.root.file? source = some content ∧
      fs' = { fs with root := (fs.root.erase source).put place (.file content) } := by
  rw [replace] at h
  obtain ⟨⟨⟩, hcheck, h⟩ := bind_eq_ok.mp h
  split at h
  · cases h
  rename_i place htarget
  split at h
  · rename_i content hcontent
    exact ⟨place, content, hcheck, htarget, hcontent, (Except.ok.inj h).symm⟩
  · cases h

theorem isSystem_of_replace (hp : Files.IsUsable p) (h : replace fs source p = .error e) :
    e.isSystem = true := by
  rcases bind_eq_error.mp h with h | ⟨_, -, h⟩
  · rw [Files.check_eq_ok_iff.mpr hp] at h
    cases h
  · split at h
    · cases h
      rfl
    · split at h
      · cases h
      · cases h
        rfl

/-! ## The write -/

/-- Whether a write has put `content` to the file at a path and has changed no other file. -/
structure Replaces (fs fs' : Files) (p : Text) (content : Bytes) : Prop where
  read : fs'.read p = .ok content
  others : ∃ place, fs'.locate p = .ok place ∧
    ∀ q, q ≠ place → fs'.root.file? q = fs.root.file? q

theorem complete_eq_ok (h : complete fs failures source p text = .ok fs') : ∃ content,
    text.toUtf8 = .ok content ∧
      replace { fs with root := fs.root.put source (.file content) } source p = .ok fs' := by
  rw [complete] at h
  split at h
  · cases h
  rename_i content hcontent
  obtain ⟨_, -, h⟩ := bind_eq_ok.mp h
  obtain ⟨_, -, h⟩ := bind_eq_ok.mp h
  exact ⟨content, hcontent, h⟩

/-- Moving a file from where nothing stood before changes the file at the path and no other. -/
theorem replaces_of_replace {made : Files} (hsource : IsFree fs.root source)
    (hmade : HasFilled fs.root source content made.root)
    (h : replace made source p = .ok fs') : Replaces fs fs' p content := by
  obtain ⟨place, bytes, hcheck, htarget, hbytes, rfl⟩ := replace_eq_ok h
  -- what is moved is what the source was filled with
  obtain rfl : content = bytes := by
    rw [FileTree.file?_eq_some_iff, hmade, if_pos rfl] at hbytes
    injection hbytes with hbytes
    injection hbytes
  have herased := hsource.kind?_erase hmade
  obtain ⟨above, name, directory, -, -, -, hparent, -, hfree, hplace⟩ := target_eq_ok htarget
  rw [hsource.hasDirectory_eq hmade] at hparent hfree
  -- the two steps together: the source is as before, and the target holds the content
  have hwritten : ∀ q, ((made.root.erase source).put place (.file content)).kind? q =
      if q = place then some (.file content) else fs.root.kind? q := by
    intro q
    rw [← herased]
    refine FileTree.kind?_put_file content (by simp [hplace]) ?_ ?_ q
    · rw [hplace, List.dropLast_concat, FileTree.hasDirectory_iff, herased]
      exact FileTree.hasDirectory_iff.mp hparent
    · rw [herased]
      exact FileTree.hasDirectory_eq_false_iff.mp hfree
  have hkeep : ∀ q, made.root.hasDirectory q = true →
      ((made.root.erase source).put place (.file content)).hasDirectory q = true := by
    intro q hq
    rw [hsource.hasDirectory_eq hmade] at hq
    rw [FileTree.hasDirectory_iff, hwritten, if_neg]
    · exact FileTree.hasDirectory_iff.mp hq
    · rintro rfl
      rw [hfree] at hq
      cases hq
  have hself : ((made.root.erase source).put place (.file content)).kind? place =
      some (.file content) := by rw [hwritten, if_pos rfl]
  have hlocate : Files.locate ⟨(made.root.erase source).put place (.file content), made.current⟩ p =
      .ok place := locate_of_target htarget rfl hkeep (by rw [hself]; rfl)
  refine ⟨Files.read_of_locate hcheck hlocate (FileTree.file?_eq_some_iff.mpr hself), place,
    hlocate, fun q hq => FileTree.file?_congr ?_⟩
  rw [hwritten, if_neg hq]

/-- A write has no place for its temporary file, fails behind that, or comes through. -/
theorem writeBeside_cases (fs : Files) (failures : DeviceFailures) (p text : Text) :
    (∃ e, (failing failures.temporary >>= fun _ => temporaryPlace fs (fs.parentOf p)) = .error e ∧
      writeBeside fs failures p text = (fs, .error e)) ∨
    ∃ source, temporaryPlace fs (fs.parentOf p) = .ok source ∧
      ((∃ e, complete ⟨fs.root.put source (.file []), fs.current⟩ failures source p text = .error e ∧
        writeBeside fs failures p text =
          (⟨(fs.root.put source (.file [])).erase source, fs.current⟩, .error e)) ∨
      ∃ written, complete ⟨fs.root.put source (.file []), fs.current⟩ failures source p text =
          .ok written ∧ writeBeside fs failures p text = (written, .ok ())) := by
  cases hplace : failing failures.temporary >>= fun _ => temporaryPlace fs (fs.parentOf p) with
  | error e => exact Or.inl ⟨e, rfl, by rw [writeBeside, hplace]⟩
  | ok source =>
      obtain ⟨_, -, htemporary⟩ := bind_eq_ok.mp hplace
      refine Or.inr ⟨source, htemporary, ?_⟩
      cases hcomplete : complete ⟨fs.root.put source (.file []), fs.current⟩ failures source p
          text with
      | error e => exact Or.inl ⟨e, rfl, by simp only [writeBeside, hplace, hcomplete]⟩
      | ok written => exact Or.inr ⟨written, rfl, by simp only [writeBeside, hplace, hcomplete]⟩

/-- A write that comes through changes the file at its path and no other. -/
theorem writeBeside_eq_ok (h : (writeBeside fs failures p text).2 = .ok ()) : ∃ content,
    text.toUtf8 = .ok content ∧
      Replaces fs (writeBeside fs failures p text).1 p content := by
  rcases writeBeside_cases fs failures p text with ⟨e, -, hwrite⟩ | ⟨source, hplace, hwrite⟩
  · rw [hwrite] at h
    cases h
  · rcases hwrite with ⟨e, -, hwrite⟩ | ⟨written, hcomplete, hwrite⟩
    · rw [hwrite] at h
      cases h
    · obtain ⟨content, hcontent, hreplace⟩ := complete_eq_ok hcomplete
      have hsource := isFree_of_temporaryPlace hplace
      rw [hwrite]
      exact ⟨content, hcontent,
        replaces_of_replace hsource (hsource.hasFilled_put_put [] content) hreplace⟩

/-- A write that fails leaves every place as it was, if no directory is missing. -/
theorem kind?_of_writeBeside_error (h : (writeBeside fs failures p text).2 = .error e) (q : Place) :
    (writeBeside fs failures p text).1.root.kind? q = fs.root.kind? q := by
  rcases writeBeside_cases fs failures p text with ⟨e, -, hwrite⟩ | ⟨source, hplace, hwrite⟩
  · rw [hwrite]
  · rcases hwrite with ⟨e, -, hwrite⟩ | ⟨written, -, hwrite⟩
    · have hsource := isFree_of_temporaryPlace hplace
      rw [hwrite]
      exact hsource.kind?_erase (hsource.hasFilled_put []) q
    · rw [hwrite] at h
      cases h

theorem current_of_writeBeside (fs : Files) (failures : DeviceFailures) (p text : Text) :
    (writeBeside fs failures p text).1.current = fs.current := by
  rcases writeBeside_cases fs failures p text with ⟨e, -, hwrite⟩ | ⟨source, -, hwrite⟩
  · rw [hwrite]
  · rcases hwrite with ⟨e, -, hwrite⟩ | ⟨written, hcomplete, hwrite⟩
    · rw [hwrite]
    · obtain ⟨content, -, hreplace⟩ := complete_eq_ok hcomplete
      obtain ⟨place, bytes, -, -, -, rfl⟩ := replace_eq_ok hreplace
      rw [hwrite]

theorem isSystem_of_failing {message : Option Text} (h : failing message = .error e) :
    e.isSystem = true := by
  cases message with
  | none => cases h
  | some m =>
      cases h
      rfl

theorem isSystem_of_complete (hp : Files.IsUsable p) (htext : text.isScalar = true)
    (h : complete fs failures source p text = .error e) : e.isSystem = true := by
  rw [complete, toUtf8_of_isScalar htext] at h
  rcases bind_eq_error.mp h with h | ⟨_, -, h⟩
  · exact isSystem_of_failing h
  · rcases bind_eq_error.mp h with h | ⟨_, -, h⟩
    · exact isSystem_of_failing h
    · exact isSystem_of_replace hp h

theorem isSystem_of_writeBeside (hp : Files.IsUsable p) (hparent : Files.IsUsable (fs.parentOf p))
    (htext : text.isScalar = true) (h : (writeBeside fs failures p text).2 = .error e) :
    e.isSystem = true := by
  rcases writeBeside_cases fs failures p text with ⟨e', he', hwrite⟩ | ⟨source, -, hwrite⟩
  · rw [hwrite] at h
    cases h
    rcases bind_eq_error.mp he' with h | ⟨_, -, h⟩
    · exact isSystem_of_failing h
    · exact isSystem_of_temporaryPlace hparent h
  · rcases hwrite with ⟨e', he', hwrite⟩ | ⟨written, -, hwrite⟩
    · rw [hwrite] at h
      cases h
      exact isSystem_of_complete hp htext he'
    · rw [hwrite] at h
      cases h

/-! ## With its directory -/

theorem write_eq (fs : Files) (failures : DeviceFailures) (p text : Text) :
    write fs failures p text = match (prepare fs failures p).2 with
      | .error e => ((prepare fs failures p).1, .error e)
      | .ok () => writeBeside (prepare fs failures p).1 failures p text := by
  rw [write]
  cases prepare fs failures p with
  | mk ready result => cases result <;> rfl

theorem makesWay_prepare (fs : Files) (failures : DeviceFailures) (p : Text) :
    Files.MakesWay fs (prepare fs failures p).1 (Path.names (fs.parentOf p)) := by
  rw [prepare]
  split
  · exact Files.makesWay_makeMissing fun q hq =>
      Files.names_of_mem_ancestry (List.mem_of_mem_take hq)
  · exact Files.makesWay_ensureParent fs p

theorem prepare_eq_error (hparent : Files.IsUsable (fs.parentOf p))
    (h : (prepare fs failures p).2 = .error e) :
    e.isSystem = true ∨ Files.chainLimit < fs.missing (fs.parentOf p) := by
  rw [prepare] at h
  split at h
  · cases h
    exact Or.inl rfl
  · exact Files.ensureParent_eq_error hparent h

/-- A write that comes through has put the bytes of its text to the file at its path and has
changed no other file. -/
theorem write_eq_ok (h : (write fs failures p text).2 = .ok ()) : ∃ content,
    text.toUtf8 = .ok content ∧ Replaces fs (write fs failures p text).1 p content := by
  rw [write_eq] at h ⊢
  cases hprepare : (prepare fs failures p).2 with
  | error e =>
      rw [hprepare] at h
      cases h
  | ok u =>
      rw [hprepare] at h
      obtain ⟨content, hcontent, hread, place, hlocate, hothers⟩ := writeBeside_eq_ok h
      refine ⟨content, hcontent, hread, place, hlocate, fun q hq => ?_⟩
      exact (hothers q hq).trans ((makesWay_prepare fs failures p).files q)

/-- A write that fails leaves new directories on the way to its target, if anything. -/
theorem makesWay_of_write_error (h : (write fs failures p text).2 = .error e) :
    Files.MakesWay fs (write fs failures p text).1 (Path.names (fs.parentOf p)) := by
  have hprepared := makesWay_prepare fs failures p
  rw [write_eq] at h ⊢
  cases hprepare : (prepare fs failures p).2 with
  | error e => exact hprepared
  | ok u =>
      rw [hprepare] at h
      exact hprepared.trans ⟨current_of_writeBeside _ _ _ _,
        fun q => Or.inl (kind?_of_writeBeside_error h q)⟩

/-- A write that fails leaves every file as it was. -/
theorem files_of_write_error (h : (write fs failures p text).2 = .error e) (q : Place) :
    (write fs failures p text).1.root.file? q = fs.root.file? q :=
  (makesWay_of_write_error h).files q

/-- What makes a write of a text that has bytes fail, at a path that the system takes. -/
theorem write_eq_error (hcurrent : Files.IsUsable fs.currentPath) (hp : Files.IsUsable p)
    (htext : text.isScalar = true) (h : (write fs failures p text).2 = .error e) :
    e.isSystem = true ∨ Files.chainLimit < fs.missing (fs.parentOf p) := by
  have hparent := hcurrent.parentOf hp
  rw [write_eq] at h
  cases hprepare : (prepare fs failures p).2 with
  | error e' =>
      rw [hprepare] at h
      cases h
      exact prepare_eq_error hparent hprepare
  | ok u =>
      rw [hprepare] at h
      -- the directories that were made do not change what the path is seen from
      have hsame : (prepare fs failures p).1.parentOf p = fs.parentOf p := by
        rw [Files.parentOf, Files.parentOf, Files.absolute, Files.absolute, Files.currentPath,
          Files.currentPath, (makesWay_prepare fs failures p).current]
      exact Or.inl (isSystem_of_writeBeside hp (hsame ▸ hparent) htext h)

/-! ## Atomicity -/

theorem current_of_write (fs : Files) (failures : DeviceFailures) (p text : Text) :
    (write fs failures p text).1.current = fs.current := by
  have hprepared := (makesWay_prepare fs failures p).current
  rw [write_eq]
  cases (prepare fs failures p).2 with
  | error e => exact hprepared
  | ok u => exact (current_of_writeBeside _ failures p text).trans hprepared

/-- **A write is atomic.** Whatever stands in the file tree, and whichever step a device fails at, a
write that comes through has put the bytes of its text to the file at its path, bytes that read back
as the text, and every other file is as before. A write that fails leaves every file as it was, so
that the temporary file is gone, and nothing new but directories on the way to the path. -/
theorem write_atomic (fs : Files) (failures : DeviceFailures) (p text : Text) :
    (write fs failures p text).1.current = fs.current ∧
    ((write fs failures p text).2 = .ok () →
      Utf8.decode text.utf8 = .ok text ∧ Replaces fs (write fs failures p text).1 p text.utf8) ∧
    ∀ e, (write fs failures p text).2 = .error e →
      (∀ place, (write fs failures p text).1.root.file? place = fs.root.file? place) ∧
      Files.MakesWay fs (write fs failures p text).1 (Path.names (fs.parentOf p)) := by
  refine ⟨current_of_write fs failures p text, fun h => ?_,
    fun e h => ⟨files_of_write_error h, makesWay_of_write_error h⟩⟩
  obtain ⟨content, hcontent, hreplaces⟩ := write_eq_ok h
  obtain ⟨hscalar, rfl⟩ := toUtf8_eq_ok_iff.mp hcontent
  exact ⟨Utf8.decode_utf8 hscalar, hreplaces⟩

/-- A current directory with what an earlier write has left, and a file beside it. -/
def releaseFiles : Files where
  root := .directory [(ofString "work", .directory
    [(ofString "api.py", .file (ofString "OLD\n").utf8), (ofString "notes", .file [])])]
  current := [ofString "work"]

theorem write_atomic_release :
    (write releaseFiles {} "api.py" "π\r\n").2 = .ok () ∧
      Replaces releaseFiles (write releaseFiles {} "api.py" "π\r\n").1 "api.py"
        [0xCF, 0x80, 0x0D, 0x0A] ∧
    (∃ e, (write releaseFiles {} "gen/api.py" [CodePoint.ofNat 0xD83D]).2 = .error e ∧
      Files.MakesWay releaseFiles
        (write releaseFiles {} "gen/api.py" [CodePoint.ofNat 0xD83D]).1 ["work", "gen"]) ∧
    ∃ e, (write releaseFiles { parent := some (2, "disk full") } "gen/v1/api.py" "π").2 = .error e ∧
      Files.MakesWay releaseFiles
        (write releaseFiles { parent := some (2, "disk full") } "gen/v1/api.py" "π").1
        ["work", "gen", "v1"] := by
  have hwritten : (write releaseFiles {} "api.py" "π\r\n").2 = .ok () :=
    eq_ok_of_toOption (by decide +kernel)
  refine ⟨hwritten, ((write_atomic _ _ _ _).2.1 hwritten).2, ⟨_, rfl, ?_⟩, _, rfl, ?_⟩
  · exact ((write_atomic _ _ _ _).2.2 _ rfl).2
  · exact ((write_atomic _ _ _ _).2.2 _ rfl).2

end AtomicWrite

end CallBindings
