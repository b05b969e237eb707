import CallBindings.Proofs.Files.Strays

set_option autoImplicit false

/-! # Searches in any directory

What a search lists is said for every directory, whatever its path holds: the files at the ends of
the routes through the names of the directory and the pattern. A directory is taken literally
exactly if its names stand for nothing but themselves. Where one of them is read as the name of
another directory, the search lists the files that are there.
-/

namespace CallBindings

open Text

namespace Search

variable {fs : Files} {base : Text}

/-- Whether a list is what a search lists in any directory: the files at the ends of the routes
through the names of the directory and the pattern. -/
structure ListsRoutes (fs : Files) (base pattern : Text) (found : List Text) : Prop where
  sorted : found.Pairwise fun p q => Text.le p q = true
  mem_iff : ∀ p, p ∈ found ↔ ∃ reading,
    IsRoute fs.root ((Path.names base).map Segment.ofText ++ segmentsBehind pattern) reading ∧
      Fits (Path.join base pattern) reading ∧
        p = Path.root base ++ Text.join (ofString "/") (destination reading)

theorem listsRoutes_of_find {directory pattern : Text} {found : List Text} (hroot : fs.root.IsSound)
    (hbase : fs.absolute directory = base) (hpattern : Path.isAbsolute pattern = false)
    (h : find fs directory pattern = .ok found) : ListsRoutes fs base pattern found := by
  have hnormal : Path.IsNormal base := hbase ▸ isNormal_absolute fs directory
  refine ⟨pairwise_find h, fun p => ?_⟩
  rw [find, written, hbase] at h
  rw [mem_findWritten_iff hroot (Path.isAbsolute_join hnormal.absolute pattern) h,
    allSegments_join hnormal.ne_nil hpattern, Path.root_join hnormal.absolute hpattern]

/-- **A directory is taken literally exactly if its names stand for nothing but themselves.** A
search reads the names on the path of its directory as segments, like those of the pattern, and
lists the files at the ends of the routes through both. If the names, read so, stand for nothing but
themselves, as those of a plain path do, what is found is in the directory, and the same files are
found wherever the directory is. Otherwise files in the directory are missed or others are found, if
there is room for a file there. -/
theorem takenLiterally_iff (base : Text) :
    (∀ (fs : Files) (directory pattern : Text), fs.root.IsSound → fs.absolute directory = base →
      Path.isAbsolute pattern = false →
      ((∃ found, find fs directory pattern = .ok found) ↔
        (plan (Path.join base pattern)).2 = [] ∨
          (plan (Path.join base pattern)).2.length ≤ segmentLimit ∧
            Files.IsUsable (plan (Path.join base pattern)).1) ∧
      ∀ found, find fs directory pattern = .ok found → ListsRoutes fs base pattern found) ∧
    (Path.IsPlain base → StandsAlone base) ∧ (StandsAlone base → TakenLiterally base) ∧
    (HasRoom base → (TakenLiterally base ↔ StandsAlone base)) := by
  refine ⟨?_, standsAlone_of_plain, takenLiterally_of_standsAlone, fun hroom =>
    ⟨hroom.standsAlone_of_takenLiterally, takenLiterally_of_standsAlone⟩⟩
  rintro fs directory pattern hroot rfl hpattern
  exact ⟨exists_findWritten_iff, fun found => listsRoutes_of_find hroot rfl hpattern⟩

/-- Two directories, the name of one of which stands for that of the other. -/
def siblingFiles : Files where
  root := .directory [(ofString "work", .directory [
    (ofString "a[b]", .directory (single "x.json")),
    (ofString "ab", .directory (single "y.json"))])]
  current := [ofString "work"]

theorem isSound_sibling : siblingFiles.root.IsSound := by
  refine .directory (by decide) (by decide) (List.forall_mem_singleton.mpr ?_)
  exact .directory (by decide) (by decide) (List.forall_mem_cons.mpr
    ⟨isSound_single (by decide), List.forall_mem_singleton.mpr (isSound_single (by decide))⟩)

/-- The plain one is taken literally, and what is listed in it is what its name and the pattern lead
to. -/
theorem takenLiterally_iff_plain :
    HasRoom "/work/ab" ∧ Path.IsPlain "/work/ab" ∧ StandsAlone "/work/ab" ∧
    TakenLiterally "/work/ab" ∧ siblingFiles.root.IsSound ∧
    siblingFiles.absolute "ab" = ofString "/work/ab" ∧ Path.isAbsolute "*.json" = false ∧
    ListsRoutes siblingFiles "/work/ab" "*.json" [ofString "/work/ab/y.json"] := by
  have hroom : HasRoom "/work/ab" :=
    ⟨⟨by decide, by decide, by decide⟩, by decide, by decide, by decide⟩
  have hplain : Path.IsPlain "/work/ab" := by decide
  have hbase : siblingFiles.absolute "ab" = ofString "/work/ab" := by decide
  have hpattern : Path.isAbsolute "*.json" = false := by decide
  have hfind : find siblingFiles "ab" "*.json" = .ok [ofString "/work/ab/y.json"] :=
    eq_ok_of_toOption (by decide +kernel)
  obtain ⟨hlists, halone, htaken, -⟩ := takenLiterally_iff "/work/ab"
  exact ⟨hroom, hplain, halone hplain, htaken (halone hplain), isSound_sibling, hbase, hpattern,
    (hlists siblingFiles "ab" "*.json" isSound_sibling hbase hpattern).2 _ hfind⟩

/-- In the other one, a search finds what is in the plain one, and misses the file that is there. -/
theorem find_in_sibling :
    IsRoot siblingFiles "a[b]" "/work/a[b]" (single "x.json") ∧
    Path.isAbsolute "*.json" = false ∧ ofString ".." ∉ Path.names "*.json" ∧
    find siblingFiles "a[b]" "*.json" = .ok [ofString "/work/ab/y.json"] ∧
    ¬ ofString "/work/a[b]/" <+: ofString "/work/ab/y.json" ∧
    ¬ TakenLiterally "/work/a[b]" := by
  have hroot : IsRoot siblingFiles "a[b]" "/work/a[b]" (single "x.json") :=
    ⟨isSound_sibling, by decide, rfl⟩
  have hpattern : Path.isAbsolute "*.json" = false := by decide
  have hdots : ofString ".." ∉ Path.names "*.json" := by decide
  have hfind : find siblingFiles "a[b]" "*.json" = .ok [ofString "/work/ab/y.json"] :=
    eq_ok_of_toOption (by decide +kernel)
  refine ⟨hroot, hpattern, hdots, hfind, by decide, fun htaken => ?_⟩
  obtain ⟨names, hpath, hfile⟩ := htaken.below hroot hpattern hdots hfind _ List.mem_cons_self
  rw [eq_of_file?_single hfile] at hpath
  exact absurd hpath (by decide)

end Search

end CallBindings
