import CallBindings.Files.Store
import CallBindings.Proofs.Files.Path
import CallBindings.Proofs.Files.Tree
import CallBindings.Proofs.FirstFault

set_option autoImplicit false

/-! # Sound file trees

In a sound tree the entries of a directory have different names, and each name is one that the
system gives to an entry. Then what stands at a place is what following its names leads to, and the
visible places of a directory are listed once each.
-/

namespace CallBindings

open Text

/-- Whether a text can be the name of an entry. -/
structure Path.IsName (name : Text) : Prop where
  ne_nil : name ≠ []
  slash : CodePoint.ofChar '/' ∉ name
  dot : name ≠ ofString "."
  dots : name ≠ ofString ".."
  usable : Files.IsUsable name
  size : Files.size name ≤ Files.nameLimit

instance (name : Text) : Decidable (Path.IsName name) :=
  decidable_of_iff (name ≠ [] ∧ CodePoint.ofChar '/' ∉ name ∧ name ≠ ofString "." ∧
      name ≠ ofString ".." ∧ Files.IsUsable name ∧ Files.size name ≤ Files.nameLimit)
    ⟨fun ⟨ne_nil, slash, dot, dots, usable, size⟩ => ⟨ne_nil, slash, dot, dots, usable, size⟩,
      fun h => ⟨h.ne_nil, h.slash, h.dot, h.dots, h.usable, h.size⟩⟩

namespace FileTree

/-- Whether the entries of each directory have names, and different ones. -/
inductive IsSound : FileTree → Prop
  | file (content : Bytes) : IsSound (.file content)
  | directory {entries : List (Text × FileTree)} :
      (entries.map Prod.fst).Nodup → (∀ e ∈ entries, Path.IsName e.1) →
      (∀ e ∈ entries, e.2.IsSound) → IsSound (.directory entries)

variable {t u : FileTree} {place names : Place} {name : Text} {entries : List (Text × FileTree)}

theorem IsSound.nodup (h : (FileTree.directory entries).IsSound) :
    (entries.map Prod.fst).Nodup := by
  cases h with
  | directory hnodup _ _ => exact hnodup

theorem IsSound.isName (h : (FileTree.directory entries).IsSound) :
    ∀ e ∈ entries, Path.IsName e.1 := by
  cases h with
  | directory _ hnames _ => exact hnames

theorem IsSound.entry (h : (FileTree.directory entries).IsSound) : ∀ e ∈ entries, e.2.IsSound := by
  cases h with
  | directory _ _ hentries => exact hentries

/-- What is read off an entry is what is looked up under its name. -/
theorem IsSound.lookup?_eq_some_iff (h : (FileTree.directory entries).IsSound) :
    lookup? name entries = some t ↔ (name, t) ∈ entries := by
  refine ⟨mem_of_lookup?, fun hmem => ?_⟩
  obtain ⟨u, hu⟩ := mem_map_fst_iff.mp (List.mem_map_of_mem (f := Prod.fst) hmem)
  have hsame := List.inj_on_of_nodup_map h.nodup (mem_of_lookup? hu) hmem rfl
  rw [hu, (Prod.mk.inj hsame).2]

/-- What stands somewhere in a sound tree is sound. -/
theorem IsSound.get? (h : t.IsSound) (hget : t.get? place = some u) : u.IsSound := by
  induction place generalizing t with
  | nil =>
      cases hget
      exact h
  | cons name place ih =>
      cases t with
      | file content => cases hget
      | directory entries =>
          rw [FileTree.get?] at hget
          cases hlookup : lookup? name entries with
          | none =>
              rw [hlookup] at hget
              cases hget
          | some v =>
              rw [hlookup] at hget
              exact ih (h.entry _ (mem_of_lookup? hlookup)) hget

/-- What stands somewhere stands in something. -/
theorem isSome_get?_of_append (h : (t.get? (place ++ names)).isSome = true) :
    (t.get? place).isSome = true := by
  rw [FileTree.get?_append] at h
  cases hget : t.get? place with
  | none =>
      rw [hget] at h
      cases h
  | some u => rfl

/-- What stands in a directory of a sound tree has the name of an entry. -/
theorem IsSound.isName_last (h : t.IsSound) (hget : (t.get? (place ++ [name])).isSome = true) :
    Path.IsName name := by
  obtain ⟨entries, hplace⟩ := exists_directory_of_below (List.cons_ne_nil name []) hget
  rw [get?_entry hplace] at hget
  obtain ⟨v, hlookup⟩ := Option.isSome_iff_exists.mp hget
  exact (h.get? hplace).isName _ (mem_of_lookup? hlookup)

/-! ## Induction -/

mutual

/-- What holds of files, and of a directory if it holds of its entries, holds of every tree. -/
theorem induction {motive : FileTree → Prop} (file : ∀ content, motive (.file content))
    (directory : ∀ entries : List (Text × FileTree), (∀ e ∈ entries, motive e.2) →
      motive (.directory entries)) : ∀ t : FileTree, motive t
  | .file content => file content
  | .directory entries => directory entries (induction_entries file directory entries)

theorem induction_entries {motive : FileTree → Prop} (file : ∀ content, motive (.file content))
    (directory : ∀ entries : List (Text × FileTree), (∀ e ∈ entries, motive e.2) →
      motive (.directory entries)) : ∀ entries : List (Text × FileTree), ∀ e ∈ entries, motive e.2
  | [] => by simp
  | (_, t) :: rest =>
      List.forall_mem_cons.mpr ⟨induction file directory t, induction_entries file directory rest⟩

end

/-! ## Visible places -/

theorem visibleFromEntries_eq (place : Place) (entries : List (Text × FileTree)) :
    visibleFromEntries place entries = entries.flatMap fun e =>
      if Path.isHidden e.1 then [] else (place ++ [e.1]) :: visibleFrom (place ++ [e.1]) e.2 := by
  induction entries with
  | nil => rfl
  | cons e entries ih => rw [visibleFromEntries, ih, List.flatMap_cons]

/-- Whether some names lead from a tree to something, none of them hidden. -/
structure Shows (t : FileTree) (names : Place) : Prop where
  ne_nil : names ≠ []
  visible : ∀ name ∈ names, Path.isHidden name = false
  stands : (t.get? names).isSome = true

theorem not_shows_file (content : Bytes) : ¬ (file content).Shows names := by
  rintro ⟨hne, -, hstands⟩
  obtain ⟨name, rest, rfl⟩ := List.exists_cons_of_ne_nil hne
  cases hstands

/-- A directory shows its visible entries and what they show. -/
theorem shows_directory_iff (h : (FileTree.directory entries).IsSound) :
    (directory entries).Shows names ↔ ∃ e ∈ entries, Path.isHidden e.1 = false ∧
      (names = [e.1] ∨ ∃ rest, names = e.1 :: rest ∧ e.2.Shows rest) := by
  constructor
  · rintro ⟨hne, hvisible, hstands⟩
    obtain ⟨name, rest, rfl⟩ := List.exists_cons_of_ne_nil hne
    obtain ⟨hname, hrest⟩ := List.forall_mem_cons.mp hvisible
    rw [FileTree.get?] at hstands
    cases hlookup : lookup? name entries with
    | none =>
        rw [hlookup] at hstands
        cases hstands
    | some u =>
        rw [hlookup] at hstands
        refine ⟨(name, u), mem_of_lookup? hlookup, hname, ?_⟩
        cases rest with
        | nil => exact Or.inl rfl
        | cons next rest =>
            exact Or.inr ⟨next :: rest, rfl, List.cons_ne_nil next rest, hrest, hstands⟩
  · rintro ⟨⟨name, u⟩, hmem, hname, hnames⟩
    have hlookup := h.lookup?_eq_some_iff.mpr hmem
    rcases hnames with rfl | ⟨rest, rfl, hrest⟩
    · refine ⟨List.cons_ne_nil name [], by simpa using hname, ?_⟩
      rw [FileTree.get?, hlookup]
      rfl
    · refine ⟨List.cons_ne_nil name rest, List.forall_mem_cons.mpr ⟨hname, hrest.visible⟩, ?_⟩
      rw [FileTree.get?, hlookup]
      exact hrest.stands

/-- The visible places are those that the tree shows. -/
theorem mem_visibleFrom_iff (h : t.IsSound) {q : Place} :
    q ∈ visibleFrom place t ↔ ∃ names, q = place ++ names ∧ t.Shows names := by
  -- on the tree, for all places: an entry is listed from the place of its directory
  induction t using FileTree.induction generalizing place q with
  | file content =>
      simp [visibleFrom, not_shows_file]
  | directory entries ih =>
      rw [visibleFrom, visibleFromEntries_eq, List.mem_flatMap]
      constructor
      · rintro ⟨e, he, hq⟩
        by_cases hhidden : Path.isHidden e.1 = true
        · rw [if_pos hhidden] at hq
          cases hq
        · rw [if_neg hhidden] at hq
          rw [Bool.not_eq_true] at hhidden
          rcases List.mem_cons.mp hq with rfl | hq
          · exact ⟨[e.1], rfl, (shows_directory_iff h).mpr ⟨e, he, hhidden, Or.inl rfl⟩⟩
          · obtain ⟨rest, rfl, hrest⟩ := (ih e he (h.entry e he)).mp hq
            exact ⟨e.1 :: rest, by simp,
              (shows_directory_iff h).mpr ⟨e, he, hhidden, Or.inr ⟨rest, rfl, hrest⟩⟩⟩
      · rintro ⟨names, rfl, hshows⟩
        obtain ⟨e, he, hhidden, hnames⟩ := (shows_directory_iff h).mp hshows
        refine ⟨e, he, ?_⟩
        rw [if_neg (by simp [hhidden])]
        rcases hnames with rfl | ⟨rest, rfl, hrest⟩
        · exact List.mem_cons_self
        · refine List.mem_cons_of_mem _ ((ih e he (h.entry e he)).mpr ⟨rest, ?_, hrest⟩)
          rw [List.append_assoc, List.singleton_append]

theorem mem_visibleFromEntries_iff (h : (FileTree.directory entries).IsSound) :
    names ∈ visibleFromEntries [] entries ↔ (directory entries).Shows names := by
  rw [← visibleFrom, mem_visibleFrom_iff h]
  simp

/-- Each visible place is listed once. -/
theorem nodup_visibleFrom (h : t.IsSound) (place : Place) : (visibleFrom place t).Nodup := by
  induction t using FileTree.induction generalizing place with
  | file content => exact List.nodup_nil
  | directory entries ih =>
      rw [visibleFrom, visibleFromEntries_eq, List.nodup_flatMap]
      constructor
      · intro e he
        split
        · exact List.nodup_nil
        · refine List.nodup_cons.mpr ⟨fun hself => ?_, ih e he (h.entry e he) _⟩
          obtain ⟨names, hnames, hshows⟩ := (mem_visibleFrom_iff (h.entry e he)).mp hself
          exact hshows.ne_nil (List.self_eq_append_right.mp hnames)
      · -- what an entry lists goes on with its name behind the place, so two entries list nothing
        -- in common
        have hnext : ∀ e ∈ entries, ∀ q ∈ (if Path.isHidden e.1 then [] else
            (place ++ [e.1]) :: visibleFrom (place ++ [e.1]) e.2), place ++ [e.1] <+: q := by
          intro e he q hq
          split at hq
          · cases hq
          · rcases List.mem_cons.mp hq with rfl | hq
            · exact List.prefix_rfl
            · obtain ⟨names, rfl, -⟩ := (mem_visibleFrom_iff (h.entry e he)).mp hq
              exact List.prefix_append _ _
        have hpairwise := List.pairwise_map.mp h.nodup
        refine hpairwise.imp_of_mem fun {e e'} he he' hne q hq hq' => hne ?_
        have hfirst := (hnext e he q hq)
        have hsecond := (hnext e' he' q hq')
        have hsame := (List.prefix_of_prefix_length_le hfirst hsecond (by simp)).eq_of_length
          (by simp)
        simpa using hsame

end FileTree

namespace Files

variable {root tree : FileTree} {place next : Place} {name : Text} {names : List Text}

/-! ## Following names in a sound tree -/

/-- Where a name leads if it leads anywhere. -/
def arrive (place : Place) (name : Text) : Place :=
  if name = "." then place else if name = ".." then place.dropLast else place ++ [name]

theorem arrive_of_isName (h : Path.IsName name) (place : Place) :
    arrive place name = place ++ [name] := by
  rw [arrive, if_neg h.dot, if_neg h.dots]

theorem foldl_arrive_of_isName (h : ∀ name ∈ names, Path.IsName name) (place : Place) :
    names.foldl arrive place = place ++ names := by
  induction names generalizing place with
  | nil => exact (List.append_nil place).symm
  | cons name names ih =>
      obtain ⟨hname, hnames⟩ := List.forall_mem_cons.mp h
      rw [List.foldl_cons, arrive_of_isName hname, ih hnames, List.append_assoc,
        List.singleton_append]

/-- The names that lead on from a place. -/
def onward (names : List Text) : List Text := names.filter (· ≠ ofString ".")

theorem foldl_arrive_onward (h : ofString ".." ∉ names) (place : Place) :
    names.foldl arrive place = place ++ onward names := by
  induction names generalizing place with
  | nil => exact (List.append_nil place).symm
  | cons name names ih =>
      obtain ⟨hname, hnames⟩ := List.ne_and_not_mem_of_not_mem_cons h
      rw [List.foldl_cons, ih hnames, arrive, if_neg (Ne.symm hname), onward, onward,
        List.filter_cons]
      by_cases hdot : name = ofString "."
      · simp [hdot]
      · simp [hdot]

theorem onward_of_isName (h : ∀ name ∈ names, Path.IsName name) :
    onward names = names :=
  List.filter_eq_self.mpr fun name hname => decide_eq_true (h name hname).dot

theorem arrive_of_step (h : step root place name = .ok next) : next = arrive place name := by
  rw [step] at h
  split at h
  · cases h
  · cases h
  · rw [arrive]
    split at h
    · next hdot =>
        cases h
        rw [if_pos hdot]
    · next hdot =>
        rw [if_neg hdot]
        split at h
        · next hdots =>
            cases h
            rw [if_pos hdots]
        · next hdots =>
            rw [if_neg hdots]
            split at h
            · cases h
            · split at h
              · cases h
                rfl
              · cases h

theorem foldl_arrive_of_foldlM_step {last : Place}
    (h : names.foldlM (step root) place = .ok last) : last = names.foldl arrive place := by
  induction names generalizing place with
  | nil =>
      cases h
      rfl
  | cons name names ih =>
      rw [List.foldlM_cons] at h
      obtain ⟨next, hnext, hrest⟩ := bind_eq_ok.mp h
      rw [List.foldl_cons, ← arrive_of_step hnext]
      exact ih hrest

/-- A name of an entry leads to the entry, if it is there. -/
theorem step_of_isName (h : Path.IsName name) :
    step root place name = .ok next ↔
      next = place ++ [name] ∧ (root.get? (place ++ [name])).isSome = true := by
  rw [step]
  cases hget : root.get? place with
  | none => simp [FileTree.get?_append, hget]
  | some u =>
      cases u with
      | file content => simp [FileTree.get?_append, hget, FileTree.get?]
      | directory entries =>
          simp only
          rw [if_neg h.dot, if_neg h.dots, if_neg (Nat.not_lt.mpr h.size),
            FileTree.get?_entry hget, hasKey]
          cases lookup? name entries with
          | none => simp
          | some v => simp [eq_comm]

end Files

end CallBindings
