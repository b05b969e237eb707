import CallBindings.Proofs.Files.Path
import CallBindings.Proofs.Files.Tree
import CallBindings.Proofs.FirstFault

set_option autoImplicit false

/-! # Making directories

Directories are made one below the other, and each of them where nothing stands. So whatever stands
somewhere stays as it is, and all that is new is on the way to the last one, also if it comes to an
error before that. What keeps a directory from being made, for a path that the system takes, is the
system or too many directories in one go.
-/

namespace CallBindings

open Text

namespace Files

variable {fs fs' fs'' : Files} {p : Text} {e : FileError}

/-- Whether all that has changed is that there are new directories on the way to a place. -/
structure MakesWay (fs fs' : Files) (way : Place) : Prop where
  current : fs'.current = fs.current
  kinds : ∀ q, fs'.root.kind? q = fs.root.kind? q ∨
    q <+: way ∧ fs.root.kind? q = none ∧ fs'.root.kind? q = some .directory

variable {way : Place}

theorem MakesWay.refl (fs : Files) (way : Place) : MakesWay fs fs way := ⟨rfl, fun _ => Or.inl rfl⟩

theorem MakesWay.trans (h : MakesWay fs fs' way) (h' : MakesWay fs' fs'' way) :
    MakesWay fs fs'' way where
  current := h'.current.trans h.current
  kinds q := by
    rcases h.kinds q with hsame | ⟨hway, hnone, hmade⟩
    · rw [← hsame]
      exact h'.kinds q
    · -- a directory that is made first is still there
      refine Or.inr ⟨hway, hnone, ?_⟩
      rcases h'.kinds q with hsame | ⟨-, hgone, -⟩
      · rw [hsame, hmade]
      · rw [hmade] at hgone
        cases hgone

/-- A new directory is no file. -/
theorem MakesWay.files (h : MakesWay fs fs' way) (q : Place) :
    fs'.root.file? q = fs.root.file? q := by
  rcases h.kinds q with hsame | ⟨-, hnone, hmade⟩
  · exact FileTree.file?_congr hsame
  · refine Option.ext fun content => ?_
    rw [FileTree.file?_eq_some_iff, FileTree.file?_eq_some_iff, hnone, hmade]
    simp

/-! ## Following names -/

theorem hasDirectory_of_step {root : FileTree} {place next : Place} {name : Text}
    (h : step root place name = .ok next) : root.hasDirectory place = true := by
  rw [step] at h
  rw [FileTree.hasDirectory]
  split at h
  · cases h
  · cases h
  · next hget => rw [hget]

/-- A name leads to the same directory in a tree that still has the directories on the way. -/
theorem step_of_directories {root root' : FileTree} {place next : Place} {name : Text}
    (hkeep : ∀ q, root.hasDirectory q = true → root'.hasDirectory q = true)
    (h : step root place name = .ok next) (hnext : root'.hasDirectory next = true) :
    step root' place name = .ok next := by
  have hplace := hkeep place (hasDirectory_of_step h)
  obtain ⟨entries, hentries⟩ := FileTree.exists_directory (FileTree.hasDirectory_iff.mp hplace)
  rw [step] at h ⊢
  rw [hentries]
  split at h
  · cases h
  · cases h
  · next entries' hget =>
      -- one dot stays and two dots go up, whatever the entries are; any other name needs its entry
      by_cases hdot : name = ofString "."
      · rw [if_pos hdot] at h ⊢
        exact h
      · by_cases hdots : name = ofString ".."
        · rw [if_neg hdot, if_pos hdots] at h ⊢
          exact h
        · rw [if_neg hdot, if_neg hdots] at h ⊢
          split at h
          · cases h
          · next hsize =>
              split at h
              · cases h
                obtain ⟨u, hu⟩ := FileTree.exists_directory (FileTree.hasDirectory_iff.mp hnext)
                rw [FileTree.get?_entry hentries] at hu
                rw [if_neg hsize, if_pos (hasKey_eq_true_iff.mpr ⟨_, hu⟩)]
              · cases h

theorem foldlM_step_of_directories {root root' : FileTree} {names : List Text}
    (hkeep : ∀ q, root.hasDirectory q = true → root'.hasDirectory q = true) {place last : Place}
    (h : names.foldlM (step root) place = .ok last) (hlast : root.hasDirectory last = true) :
    names.foldlM (step root') place = .ok last := by
  induction names generalizing place with
  | nil => exact h
  | cons name names ih =>
      rw [List.foldlM_cons] at h ⊢
      obtain ⟨next, hnext, hrest⟩ := bind_eq_ok.mp h
      -- the next place is a directory: a further step starts there, or it is the last one
      have hdirectory : root.hasDirectory next = true := by
        cases names with
        | nil =>
            cases hrest
            exact hlast
        | cons other names =>
            rw [List.foldlM_cons] at hrest
            obtain ⟨_, hother, -⟩ := bind_eq_ok.mp hrest
            exact hasDirectory_of_step hother
      rw [step_of_directories hkeep hnext (hkeep next hdirectory)]
      exact ih hrest

theorem read_of_locate {place : Place} {content : Bytes} (hcheck : check p = .ok ())
    (hlocate : fs.locate p = .ok place) (hfile : fs.root.file? place = some content) :
    fs.read p = .ok content := by
  refine bind_eq_ok.mpr ⟨(), hcheck, ?_⟩
  rw [FileTree.file?] at hfile
  split at hfile
  · next hget =>
      cases hfile
      simp only [hlocate, hget]
  · cases hfile

/-! ## One directory -/

/-- A directory is made in a directory, where nothing stands. -/
theorem makeDirectory_eq_ok (hp : Path.names p ≠ []) (h : fs.makeDirectory p = .ok fs') :
    fs.root.hasDirectory (Path.names p).dropLast = true ∧
      fs.root.kind? (Path.names p) = none ∧
      fs' = { fs with root := fs.root.put (Path.names p) (.directory []) } := by
  rw [makeDirectory] at h
  obtain ⟨_, -, h⟩ := bind_eq_ok.mp h
  simp only at h
  split at h
  · cases h
  · split at h
    · cases h
    · cases h
    · next entries hentries =>
        split at h
        · cases h
        · split at h
          · cases h
          · next hkey =>
              -- the place is an entry of the directory, under the name that has none there
              have hlast : Path.names p =
                  (Path.names p).dropLast ++ [(Path.names p).getLastD []] := by
                rw [List.getLastD_eq_getLast?, List.getLast?_eq_getLast_of_ne_nil hp]
                exact (List.dropLast_append_getLast hp).symm
              have hnone : fs.root.kind? (Path.names p) = none := by
                rw [hlast, FileTree.kind?, FileTree.get?_entry hentries]
                rw [hasKey, Bool.not_eq_true, Option.isSome_eq_false_iff,
                  Option.isNone_iff_eq_none] at hkey
                rw [hkey]
                rfl
              have hparent : fs.root.hasDirectory (Path.names p).dropLast = true := by
                rw [FileTree.hasDirectory, hentries]
              exact ⟨hparent, hnone, (Except.ok.inj h).symm⟩

theorem makesWay_of_makeDirectory (hp : Path.names p ≠ []) (hway : Path.names p <+: way)
    (h : fs.makeDirectory p = .ok fs') : MakesWay fs fs' way := by
  obtain ⟨hparent, hnone, rfl⟩ := makeDirectory_eq_ok hp h
  refine ⟨rfl, fun q => ?_⟩
  simp only [FileTree.kind?_put_directory hp hparent (by simp [hnone])]
  split
  · next hself => exact Or.inr ⟨hself ▸ hway, hself ▸ hnone, rfl⟩
  · exact Or.inl rfl

theorem isSystem_of_makeDirectory (hp : IsUsable p) (h : fs.makeDirectory p = .error e) :
    e.isSystem = true := by
  rw [makeDirectory, check_eq_ok_iff.mpr hp] at h
  replace h : (if pathLimit ≤ size p then _ else _ : Except FileError Files) = .error e := h
  -- the check of the path is passed, and every other refusal is one of the system
  split at h
  · cases h
    rfl
  · split at h
    · cases h
      rfl
    · cases h
      rfl
    · split at h
      · cases h
        rfl
      · split at h
        · cases h
          rfl
        · cases h

/-! ## Directories one below the other -/

/-- The first of some directories is there, cannot be made, or is made. -/
theorem makeMissing_cons (fs : Files) (p : Text) (rest : List Text) :
    fs.makeMissing (p :: rest) = fs.makeMissing rest ∨
      (∃ e, fs.makeDirectory p = .error e ∧ fs.makeMissing (p :: rest) = (fs, .error e)) ∨
      ∃ made, fs.makeDirectory p = .ok made ∧
        fs.makeMissing (p :: rest) = made.makeMissing rest := by
  rw [makeMissing]
  by_cases hstands : (if rest.isEmpty then fs.hasDirectory p else fs.hasNode p) = true
  · simp only [if_pos hstands, true_or]
  · simp only [if_neg hstands]
    cases hmade : fs.makeDirectory p with
    | error e => exact Or.inr (Or.inl ⟨e, rfl, rfl⟩)
    | ok made => exact Or.inr (Or.inr ⟨made, rfl, rfl⟩)

/-- Directories on the way are all that is made, also if it comes to an error. -/
theorem makesWay_makeMissing {paths : List Text}
    (hpaths : ∀ p ∈ paths, Path.names p ≠ [] ∧ Path.names p <+: way) :
    MakesWay fs (fs.makeMissing paths).1 way := by
  -- on the paths, for all files: the ones further down are made in what the first one leaves
  induction paths generalizing fs with
  | nil => exact MakesWay.refl fs way
  | cons p rest ih =>
      obtain ⟨⟨hp, hway⟩, hrest⟩ := List.forall_mem_cons.mp hpaths
      rcases makeMissing_cons fs p rest with h | ⟨e, -, h⟩ | ⟨made, hmade, h⟩
      · rw [h]
        exact ih hrest
      · rw [h]
        exact MakesWay.refl fs way
      · rw [h]
        exact (makesWay_of_makeDirectory hp hway hmade).trans (ih hrest)

theorem isSystem_of_makeMissing {paths : List Text} (hpaths : ∀ p ∈ paths, IsUsable p)
    (h : (fs.makeMissing paths).2 = .error e) : e.isSystem = true := by
  induction paths generalizing fs with
  | nil => cases h
  | cons p rest ih =>
      obtain ⟨hp, hrest⟩ := List.forall_mem_cons.mp hpaths
      rcases makeMissing_cons fs p rest with heq | ⟨e', he', heq⟩ | ⟨made, -, heq⟩
      · exact ih hrest (heq ▸ h)
      · rw [heq] at h
        cases h
        exact isSystem_of_makeDirectory hp he'
      · exact ih hrest (heq ▸ h)

/-- The names in a path that is put together from names. -/
theorem names_join {names : List Text} (h : ∀ name ∈ names, name ≠ [] ∧ CodePoint.ofChar '/' ∉ name) :
    Path.names (Text.join (ofString "/") names) = names := by
  cases names with
  | nil => rfl
  | cons name names =>
      have hsplit : splitAt (CodePoint.ofChar '/') (Text.join (ofString "/") (name :: names)) =
          name :: names.map ([] ++ ·) :=
        splitAt_join List.not_mem_nil fun u hu => (h u hu).2
      have hkept : ∀ u ∈ name :: names, (!u.isEmpty) = true := fun u hu => by
        simpa using (h u hu).1
      rw [Path.names, hsplit, List.map_congr_left (g := id) fun u _ => List.nil_append u,
        List.map_id]
      exact List.filter_eq_self.mpr hkept

/-- Slashes in front of a path add no names. -/
theorem names_root_append (p q : Text) : Path.names (Path.root p ++ q) = Path.names q := by
  have hslash (q : Text) : Path.names (CodePoint.ofChar '/' :: q) = Path.names q := by
    rw [Path.names, splitAt, if_pos rfl]
    rfl
  rw [Path.root]
  split
  · exact (hslash _).trans (hslash q)
  · split
    · exact hslash q
    · rfl

/-- The paths on the way to a path have its first names. -/
theorem names_of_mem_ancestry {q : Text} (hq : q ∈ Path.ancestry p) :
    Path.names q ≠ [] ∧ Path.names q <+: Path.names p := by
  obtain ⟨i, hi, rfl⟩ := List.mem_map.mp hq
  have hnames : ∀ name ∈ (Path.names p).take (i + 1), name ≠ [] ∧ CodePoint.ofChar '/' ∉ name := by
    intro name hname
    obtain ⟨hpiece, hne⟩ := List.mem_filter.mp (List.mem_of_mem_take hname)
    exact ⟨by simpa using hne, not_mem_of_mem_splitAt hpiece⟩
  rw [names_root_append, names_join hnames]
  refine ⟨fun hnil => ?_, List.take_prefix _ _⟩
  rw [List.take_eq_nil_iff] at hnil
  have hlength := List.mem_range.mp hi
  rcases hnil with h | h
  · cases h
  · rw [h] at hlength
    cases hlength

/-- The number of directories that are missing for a normal absolute path to be one. -/
def missing (fs : Files) (p : Text) : Nat :=
  (Path.names p).length - fs.root.known (Path.names p)

theorem makesWay_makeDirectories (fs : Files) (p : Text) :
    MakesWay fs (fs.makeDirectories p).1 (Path.names p) := by
  rw [makeDirectories]
  split
  · exact MakesWay.refl fs _
  · exact makesWay_makeMissing fun q hq => names_of_mem_ancestry hq

theorem makeDirectories_eq_error (hp : IsUsable p) (h : (fs.makeDirectories p).2 = .error e) :
    e.isSystem = true ∨ chainLimit < fs.missing p := by
  rw [makeDirectories] at h
  split at h
  · next hmany => exact Or.inr hmany
  · exact Or.inl (isSystem_of_makeMissing hp.ancestry h)

theorem makesWay_ensureParent (fs : Files) (p : Text) :
    MakesWay fs (fs.ensureParent p).1 (Path.names (fs.parentOf p)) := by
  rw [ensureParent]
  split
  · exact MakesWay.refl fs _
  · exact makesWay_makeDirectories fs _

theorem ensureParent_eq_error (hp : IsUsable (fs.parentOf p))
    (h : (fs.ensureParent p).2 = .error e) :
    e.isSystem = true ∨ chainLimit < fs.missing (fs.parentOf p) := by
  rw [ensureParent] at h
  split at h
  · cases h
  · exact makeDirectories_eq_error hp h

end Files

end CallBindings
