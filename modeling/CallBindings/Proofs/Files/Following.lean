import CallBindings.Proofs.Files.Normal

set_option autoImplicit false

/-! # Where the text of a path leads

A path is followed name by name. What is written behind a path is followed from where the path
leads. If an absolute path leads to a place, then its normal form is the path of that place.
-/

namespace CallBindings

open Text

namespace Files

variable {fs : Files} {root tree : FileTree} {place next last : Place} {name p q base : Text}
  {names : List Text}

/-! ## Following what is written -/

/-- A step to the same place is made by the step behind it as well. -/
theorem foldlM_step_dot (root : FileTree) (place : Place) (name : Text) (names : List Text) :
    (ofString "." :: name :: names).foldlM (step root) place =
      (name :: names).foldlM (step root) place := by
  rw [List.foldlM_cons, List.foldlM_cons]
  have hdot : (step root place (ofString ".") >>= fun next => step root next name) =
      step root place name := by
    rw [step, step]
    -- `.` stays in place, and fails only where any next step fails as well
    cases hget : root.get? place with
    | none => rfl
    | some u =>
        cases u with
        | file content => rfl
        | directory entries =>
            simp only [if_pos]
            show step root place name = _
            rw [step, hget]
  rw [← hdot, bind_assoc]
  rfl

/-- The steps that names stand for which are written behind a path: without any, there is a slash
that needs a directory. -/
def footsteps (names : List Text) : List Text := if names = [] then [ofString "."] else names

theorem footsteps_ne_nil (names : List Text) : footsteps names ≠ [] := by
  rw [footsteps]
  split
  · exact List.cons_ne_nil _ _
  · assumption

/-- What is written behind a path is followed from where the path leads. -/
theorem foldlM_steps_join (hq : Path.isAbsolute q = false) (hne : q ≠ []) (base : Text) :
    (Path.steps (Path.join base q)).foldlM (step root) place =
      (Path.steps base).foldlM (step root) place >>= fun next =>
        (Path.steps q).foldlM (step root) next := by
  have hsteps : Path.steps q ≠ [] := fun hnil =>
    Path.names_ne_nil_of_relative hq hne (List.append_eq_nil_iff.mp hnil).1
  obtain ⟨name, rest, hrest⟩ := List.exists_cons_of_ne_nil hsteps
  rw [Path.steps_join hq hne, hrest, Path.steps, List.foldlM_append, List.foldlM_append, bind_assoc]
  refine congrArg _ (funext fun next => ?_)
  rw [← List.foldlM_append]
  split
  · -- the slash at the end of the path in front is followed by a name
    exact (foldlM_step_dot root next name rest).symm
  · rfl

theorem foldlM_steps_join_nil (hbase : base ≠ []) :
    (Path.steps (Path.join base [])).foldlM (step root) place =
      (Path.steps base).foldlM (step root) place >>= fun next =>
        [ofString "."].foldlM (step root) next := by
  rw [Path.steps_join_nil hbase, Path.steps, List.foldlM_append, List.foldlM_append, bind_assoc]
  refine congrArg _ (funext fun next => ?_)
  rw [← List.foldlM_append]
  split
  · exact (foldlM_step_dot root next (ofString ".") []).symm
  · rfl

/-- Names that are written behind a path are followed from where the path leads. -/
theorem foldlM_steps_onto (hnames : Path.AreWritable names) (hbase : base ≠ []) :
    (Path.steps (Path.join base (Text.join (ofString "/") names))).foldlM (step root) place =
      (Path.steps base).foldlM (step root) place >>= fun next =>
        (footsteps names).foldlM (step root) next := by
  rw [footsteps]
  by_cases hne : names = []
  · rw [if_pos hne, hne]
    exact foldlM_steps_join_nil hbase
  · rw [if_neg hne, foldlM_steps_join (Path.isAbsolute_written hnames)
      (Path.join_ne_nil hnames hne), Path.steps_written hnames]

/-! ## Places -/

/-- What a path leads to that begins at the root is at the place its normal form names. -/
theorem normalize_of_steps (hp : Path.isAbsolute p = true)
    (h : (Path.steps p).foldlM (step root) [] = .ok last) :
    Path.normalize p = Path.root p ++ Text.join (ofString "/") last := by
  have hdot : ∀ next : Place, arrive next (ofString ".") = next := fun _ => if_pos rfl
  rw [Path.normalize_eq hp, foldl_arrive_of_foldlM_step h, Path.steps, List.foldl_append]
  split
  · rw [List.foldl_cons, hdot, List.foldl_nil]
  · rfl

theorem locate_eq_ok_iff (hp : Path.isAbsolute p = true) : fs.locate p = .ok place ↔
    (fits p).isOk = true ∧ (Path.steps p).foldlM (step fs.root) [] = .ok place := by
  rw [locate, start, if_pos hp]
  cases fits p with
  | error fault =>
      refine iff_of_false (fun h => ?_) fun h => Bool.false_ne_true h.1
      cases h
  | ok _ => exact (and_iff_right rfl).symm

theorem hasFile_iff (hp : Path.isAbsolute p = true) : fs.hasFile p = true ↔
    IsUsable p ∧ (fits p).isOk = true ∧
      ∃ place, (Path.steps p).foldlM (step fs.root) [] = .ok place ∧
        (fs.root.file? place).isSome = true := by
  rw [hasFile, node?, ← check_eq_ok_iff]
  cases check p with
  | error e => simp
  | ok _ =>
      rw [and_iff_right rfl]
      cases hlocate : fs.locate p with
      | error fault =>
          refine iff_of_false Bool.false_ne_true ?_
          rintro ⟨hfits, place, hsteps, -⟩
          cases hlocate.symm.trans ((locate_eq_ok_iff hp).mpr ⟨hfits, hsteps⟩)
      | ok place =>
          obtain ⟨hfits, hsteps⟩ := (locate_eq_ok_iff hp).mp hlocate
          rw [hfits, hsteps, and_iff_right rfl]
          simp only [FileTree.file?]
          cases hget : fs.root.get? place with
          | none => simp [hget]
          | some u => cases u <;> simp [hget]

/-- In a sound tree, the names of a place lead to it. -/
theorem foldlM_step_of_get? (hroot : root.IsSound)
    (hget : (root.get? (place ++ names)).isSome = true) :
    names.foldlM (step root) place = .ok (place ++ names) ∧
      ∀ name ∈ names, Path.IsName name := by
  induction names generalizing place with
  | nil => exact ⟨by rw [List.append_nil]; rfl, nofun⟩
  | cons name names ih =>
      have hsplit : place ++ name :: names = (place ++ [name]) ++ names := by simp
      rw [hsplit] at hget ⊢
      obtain ⟨hrest, hnames⟩ := ih hget
      have hnext := FileTree.isSome_get?_of_append hget
      have hname := hroot.isName_last hnext
      refine ⟨?_, List.forall_mem_cons.mpr ⟨hname, hnames⟩⟩
      rw [List.foldlM_cons, (step_of_isName hname).mpr ⟨rfl, hnext⟩]
      exact hrest

/-- The names of a place where something stands lead there from the top of the tree. -/
theorem foldlM_step_place (hroot : root.IsSound) (hget : (root.get? place).isSome = true) :
    place.foldlM (step root) [] = .ok place ∧ ∀ name ∈ place, Path.IsName name := by
  rw [← List.nil_append place] at hget
  exact foldlM_step_of_get? hroot hget

theorem isName_of_get? (hroot : root.IsSound) (hget : root.get? place = some tree) :
    ∀ name ∈ place, Path.IsName name :=
  (foldlM_step_place hroot (Option.isSome_of_eq_some hget)).2

end Files

end CallBindings
