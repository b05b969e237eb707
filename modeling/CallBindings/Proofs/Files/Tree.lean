import CallBindings.Files.Tree
import CallBindings.Proofs.Json.Members

set_option autoImplicit false

/-! # What stands at a place

A tree is told apart from another by what stands at each place: a file with its bytes, a directory,
or nothing. Putting a file or an empty directory where no directory stands changes that for its own
place and no other, and so does removing a file.
-/

namespace CallBindings

namespace FileTree

/-- What can stand at a place, the entries of a directory left out. -/
inductive Kind where
  | file (content : Bytes)
  | directory

/-- What a tree is, its entries left out. -/
def kind : FileTree → Kind
  | .file content => .file content
  | .directory _ => .directory

/-- What stands at a place, if anything does. -/
def kind? (place : Place) (t : FileTree) : Option Kind := (t.get? place).map kind

variable {t new : FileTree} {place q r : Place} {content : Bytes}
  {entries : List (Text × FileTree)}

theorem kind?_cons_directory (name : Text) (rest : Place) (entries : List (Text × FileTree)) :
    (FileTree.directory entries).kind? (name :: rest) =
      (lookup? name entries).bind fun t => t.kind? rest := by
  rw [kind?, get?]
  cases lookup? name entries <;> rfl

theorem hasDirectory_iff : t.hasDirectory place = true ↔ t.kind? place = some .directory := by
  rw [hasDirectory, kind?]
  cases t.get? place with
  | none => simp
  | some t => cases t <;> simp [kind]

theorem hasDirectory_eq_false_iff :
    t.hasDirectory place = false ↔ t.kind? place ≠ some .directory := by
  rw [← Bool.not_eq_true, hasDirectory_iff]

theorem file?_eq_some_iff : t.file? place = some content ↔ t.kind? place = some (.file content) := by
  rw [file?, kind?]
  cases t.get? place with
  | none => simp
  | some t => cases t <;> simp [kind]

/-- What is no file is none by its kind. -/
theorem file?_congr {t' : FileTree} (h : t'.kind? place = t.kind? place) :
    t'.file? place = t.file? place := by
  refine Option.ext fun content => ?_
  rw [file?_eq_some_iff, file?_eq_some_iff, h]

theorem exists_directory (h : t.kind? place = some .directory) :
    ∃ entries, t.get? place = some (.directory entries) := by
  rw [kind?] at h
  cases hget : t.get? place with
  | none =>
      rw [hget] at h
      cases h
  | some u =>
      rw [hget] at h
      cases u with
      | file content => cases h
      | directory entries => exact ⟨entries, rfl⟩

theorem get?_append (t : FileTree) (place r : Place) :
    t.get? (place ++ r) = (t.get? place).bind fun u => u.get? r := by
  induction place generalizing t with
  | nil => rfl
  | cons name place ih =>
      cases t with
      | file content => rfl
      | directory entries =>
          rw [List.cons_append, get?, get?]
          cases lookup? name entries with
          | none => rfl
          | some u => exact ih u

/-- What stands in a directory is what its entries say. -/
theorem get?_entry (h : t.get? place = some (.directory entries)) (name : Text) :
    t.get? (place ++ [name]) = lookup? name entries := by
  rw [get?_append, h, Option.bind_some, get?]
  cases lookup? name entries <;> rfl

theorem isSome_kind? : (t.kind? place).isSome = (t.get? place).isSome := Option.isSome_map

/-- There is nothing below what is no directory. -/
theorem kind?_append_of_not_directory (h : t.kind? place ≠ some .directory) (hr : r ≠ []) :
    t.kind? (place ++ r) = none := by
  rw [kind?, get?_append]
  rw [kind?] at h
  cases hget : t.get? place with
  | none => rfl
  | some u =>
      rw [hget] at h
      cases u with
      | directory entries => exact absurd rfl h
      | file content =>
          cases r with
          | nil => exact absurd rfl hr
          | cons name r => rfl

/-- What has something below it is a directory. -/
theorem exists_directory_of_below (hr : r ≠ []) (h : (t.get? (place ++ r)).isSome = true) :
    ∃ entries, t.get? place = some (.directory entries) := by
  refine exists_directory (by_contra fun hplace => ?_)
  rw [← isSome_kind?, kind?_append_of_not_directory hplace hr] at h
  cases h

/-! ## Changes of an entry -/

/-- Changes the entries of the directory that a place is in, given the name of the place there. -/
def change (f : Text → List (Text × FileTree) → List (Text × FileTree)) :
    Place → FileTree → FileTree
  | [], t => t
  | _ :: _, .file content => .file content
  | [name], .directory entries => .directory (f name entries)
  | name :: rest, .directory entries =>
    match lookup? name entries with
    | some t => .directory (assign name (change f rest t) entries)
    | none => .directory entries

theorem put_eq_change (hne : place ≠ []) (t new : FileTree) :
    put place t new = change (fun name entries => assign name new entries) place t := by
  induction place generalizing t with
  | nil => exact absurd rfl hne
  | cons name rest ih =>
      cases t with
      | file content => cases rest <;> rfl
      | directory entries =>
          cases rest with
          | nil => rfl
          | cons next rest =>
              simp only [put, change]
              cases lookup? name entries with
              | none => rfl
              | some u => simp only [ih (List.cons_ne_nil next rest) u]

theorem erase_eq_change (place : Place) (t : FileTree) :
    erase place t = change (fun name entries => entries.filter fun e => e.1 ≠ name) place t := by
  induction place generalizing t with
  | nil => rfl
  | cons name rest ih =>
      cases t with
      | file content => cases rest <;> rfl
      | directory entries =>
          cases rest with
          | nil => rfl
          | cons next rest =>
              simp only [erase, change]
              cases lookup? name entries with
              | none => rfl
              | some u => simp only [ih u]

variable {f : Text → List (Text × FileTree) → List (Text × FileTree)} {new? : Option FileTree}

/-- A change is seen at its place if the directory is there. -/
theorem kind?_change_append (hf : ∀ name entries, lookup? name (f name entries) = new?)
    (hne : place ≠ []) (h : t.hasDirectory place.dropLast = true) (r : Place) :
    (change f place t).kind? (place ++ r) = new?.bind fun u => u.kind? r := by
  -- on the place; that a directory is above it leaves only the case in which the way goes on
  induction place generalizing t with
  | nil => exact absurd rfl hne
  | cons name rest ih =>
      rw [hasDirectory_iff] at h
      cases t with
      | file content => cases rest <;> cases h
      | directory entries =>
          cases rest with
          | nil =>
              rw [change, List.cons_append, kind?_cons_directory, hf]
              rfl
          | cons next rest =>
              rw [List.dropLast_cons_of_ne_nil (List.cons_ne_nil next rest),
                kind?_cons_directory] at h
              cases hlookup : lookup? name entries with
              | none =>
                  rw [hlookup] at h
                  cases h
              | some u =>
                  rw [hlookup] at h
                  simp only [change, hlookup]
                  rw [List.cons_append, kind?_cons_directory, lookup?_assign, if_pos rfl]
                  exact ih (List.cons_ne_nil next rest) (hasDirectory_iff.mpr h)

/-- A change that leaves the other entries as they are is seen nowhere else. -/
theorem kind?_change_of_not_prefix
    (hf : ∀ name other entries, other ≠ name → lookup? other (f name entries) = lookup? other entries)
    (h : ¬ place <+: q) : (change f place t).kind? q = t.kind? q := by
  induction place generalizing t q with
  | nil => exact absurd List.nil_prefix h
  | cons name rest ih =>
      cases t with
      | file content => cases rest <;> rfl
      | directory entries =>
          cases q with
          | nil =>
              cases rest with
              | nil => rfl
              | cons next rest =>
                  simp only [change]
                  cases lookup? name entries <;> rfl
          | cons other q =>
              -- `q` leaves the way at this name, or further down in the same entry
              have hother : other = name → ¬ rest <+: q := fun hname hrest =>
                h (List.cons_prefix_cons.mpr ⟨hname.symm, hrest⟩)
              cases rest with
              | nil =>
                  have hne : other ≠ name := fun hname => hother hname List.nil_prefix
                  rw [change, kind?_cons_directory, kind?_cons_directory, hf name other _ hne]
              | cons next rest =>
                  simp only [change]
                  cases hlookup : lookup? name entries with
                  | none => rfl
                  | some u =>
                      rw [kind?_cons_directory, kind?_cons_directory, lookup?_assign]
                      by_cases hname : other = name
                      · rw [if_pos hname, hname, hlookup]
                        exact ih (hother hname)
                      · rw [if_neg hname]

/-- A change of an entry for one without entries of its own, if for any, where no directory stands
is seen at one place. -/
theorem kind?_change (new? : Option FileTree)
    (hself : ∀ name entries, lookup? name (f name entries) = new?)
    (hothers : ∀ name other entries, other ≠ name →
      lookup? other (f name entries) = lookup? other entries)
    (hleaf : ∀ r, r ≠ [] → (new?.bind fun u => u.kind? r) = none) (hne : place ≠ [])
    (hparent : t.hasDirectory place.dropLast = true) (hplace : t.kind? place ≠ some .directory)
    (q : Place) : (change f place t).kind? q = if q = place then new?.map kind else t.kind? q := by
  by_cases hq : q = place
  · have h := kind?_change_append hself hne hparent []
    rw [List.append_nil] at h
    rw [if_pos hq, hq, h]
    cases new? <;> rfl
  · rw [if_neg hq]
    -- a place below the changed one has nothing before the change and nothing after it
    by_cases hprefix : place <+: q
    · obtain ⟨r, rfl⟩ := hprefix
      have hr : r ≠ [] := fun hnil => hq (by rw [hnil, List.append_nil])
      rw [kind?_change_append hself hne hparent, hleaf r hr,
        kind?_append_of_not_directory hplace hr]
    · exact kind?_change_of_not_prefix hothers hprefix

/-! ## Putting and removing -/

/-- Putting a tree with nothing in it where no directory stands changes one place. -/
theorem kind?_put (hleaf : ∀ r, r ≠ [] → new.kind? r = none) (hne : place ≠ [])
    (hparent : t.hasDirectory place.dropLast = true) (hplace : t.kind? place ≠ some .directory)
    (q : Place) : (put place t new).kind? q = if q = place then some new.kind else t.kind? q := by
  rw [put_eq_change hne]
  refine kind?_change (some new) (fun name entries => ?_) (fun name other entries h => ?_)
    hleaf hne hparent hplace q
  · rw [lookup?_assign, if_pos rfl]
  · rw [lookup?_assign, if_neg h]

theorem kind?_put_file (content : Bytes) (hne : place ≠ [])
    (hparent : t.hasDirectory place.dropLast = true) (hplace : t.kind? place ≠ some .directory)
    (q : Place) : (put place t (.file content)).kind? q =
      if q = place then some (.file content) else t.kind? q := by
  refine kind?_put (fun r hr => ?_) hne hparent hplace q
  obtain ⟨name, r, rfl⟩ := List.exists_cons_of_ne_nil hr
  rfl

theorem kind?_put_directory (hne : place ≠ []) (hparent : t.hasDirectory place.dropLast = true)
    (hplace : t.kind? place ≠ some .directory) (q : Place) :
    (put place t (.directory [])).kind? q = if q = place then some .directory else t.kind? q := by
  refine kind?_put (fun r hr => ?_) hne hparent hplace q
  obtain ⟨name, r, rfl⟩ := List.exists_cons_of_ne_nil hr
  rfl

/-- Removing what is no directory changes one place. -/
theorem kind?_erase (hne : place ≠ []) (hparent : t.hasDirectory place.dropLast = true)
    (hplace : t.kind? place ≠ some .directory) (q : Place) :
    (erase place t).kind? q = if q = place then none else t.kind? q := by
  rw [erase_eq_change]
  refine kind?_change none (fun name entries => ?_) (fun name other entries h => ?_)
    (fun r _ => rfl) hne hparent hplace q
  · rw [lookup?_filter_ne, if_pos rfl]
  · rw [lookup?_filter_ne, if_neg h]

end FileTree

end CallBindings
