import CallBindings.Proofs.Files.Routes

set_option autoImplicit false

/-! # The length of paths

The path that is put together along a reading gets longer by the names of the reading and a slash
for each. So it is longer than the text that is read by no more than its names are than those of the
text, up to a slash.
-/

namespace CallBindings

open Text

namespace Search

variable {names : List Text} {reading : Reading} {start t : Text}

/-! ## Names in a path -/

/-- The number of bytes that names take up in a path, each with a slash. -/
def weight (names : List Text) : ℕ := (names.map fun name => Files.size name + 1).sum

theorem weight_cons (name : Text) (names : List Text) :
    weight (name :: names) = Files.size name + 1 + weight names := by
  rw [weight, List.map_cons, List.sum_cons]
  rfl

theorem weight_append (names later : List Text) :
    weight (names ++ later) = weight names + weight later := by
  rw [weight, List.map_append, List.sum_append]
  rfl

theorem weight_le_of_sublist {names later : List Text} (h : names.Sublist later) :
    weight names ≤ weight later :=
  (h.map _).sum_le_sum fun _ _ => Nat.zero_le _

theorem size_slash : Files.size (ofString "/") = 1 := by decide

theorem weight_eq_size (hne : names ≠ []) :
    weight names = Files.size (Text.join (ofString "/") names) + 1 := by
  obtain ⟨name, rest, rfl⟩ := List.exists_cons_of_ne_nil hne
  clear hne
  induction rest generalizing name with
  | nil => rfl
  | cons other rest ih =>
      have hjoin : Text.join (ofString "/") (name :: other :: rest) =
          name ++ ofString "/" ++ Text.join (ofString "/") (other :: rest) := rfl
      rw [weight_cons, ih, hjoin, size_append, size_append, size_slash]
      omega

/-- In a text, the names have no more than their code points and a slash each. -/
theorem weight_names_le (t : Text) : weight (Path.names t) ≤ Files.size t + 1 := by
  -- each piece counts with the slash behind it; the empty ones are not among the names
  have hpieces : weight (splitAt (CodePoint.ofChar '/') t) = Files.size t + 1 := by
    induction t with
    | nil => rfl
    | cons c t ih =>
        have hcons : ∀ u : Text, Files.size (c :: u) = Files.size [c] + Files.size u := fun u =>
          size_append [c] u
        rw [splitAt, hcons]
        split
        · next hslash =>
            have hone : Files.size [c] = 1 := by
              rw [hslash]
              exact size_slash
            have hnil : Files.size [] = 0 := rfl
            rw [weight_cons, ih, hone, hnil]
            omega
        · split
          · next hnone =>
              rw [hnone] at ih
              have hnil : weight [] = 0 := rfl
              omega
          · next first rest hcut =>
              rw [hcut, weight_cons] at ih
              rw [weight_cons, hcons]
              omega
  exact hpieces ▸ weight_le_of_sublist List.filter_sublist

/-! ## Paths that are put together -/

/-- With a slash at the end, a path gets longer by the names that are put behind it. -/
theorem size_join_along (hstart : start ≠ [])
    (hreading : ∀ names ∈ reading, Path.AreWritable names) :
    Files.size (Path.join (along start reading) []) =
      Files.size (Path.join start []) + weight reading.flatten := by
  induction reading generalizing start with
  | nil => rfl
  | cons names reading ih =>
      obtain ⟨hnames, hreading⟩ := List.forall_mem_cons.mp hreading
      have hrelative := Path.isAbsolute_written hnames
      have hnext : Files.size (Path.join (Path.join start (Text.join (ofString "/") names)) []) =
          Files.size (Path.join start []) + weight names := by
        have hslash := Path.endsWith_join_nil hstart
        rw [Path.join_eq hrelative]
        -- no names leave the slash that is there; names bring their own slash at the end
        by_cases hne : names = []
        · have hempty : Text.join (ofString "/") names = [] := by rw [hne]; rfl
          rw [hempty, hne, List.append_nil, Path.join_nil (Path.join start []), hslash,
            Bool.or_true, if_pos rfl]
          rfl
        · have hwritten := Path.join_ne_nil hnames hne
          have hends : endsWith (Path.join start [] ++ Text.join (ofString "/") names) "/" =
              false := by
            rw [Path.endsWith_append hwritten, Path.endsWith_written hnames]
          have hempty : (Path.join start [] ++ Text.join (ofString "/") names).isEmpty = false :=
            List.isEmpty_eq_false_iff.mpr (List.append_ne_nil_of_right_ne_nil _ hwritten)
          rw [Path.join_nil (Path.join start [] ++ _), hends, hempty, Bool.or_false,
            if_neg Bool.false_ne_true, size_append, size_append, size_slash, weight_eq_size hne]
          omega
      rw [along_cons, ih (join_ne_nil hstart hrelative) hreading, hnext, List.flatten_cons,
        weight_append]
      omega

theorem size_le_of_beginning {p q : Text} (h : p <+: q) : Files.size p ≤ Files.size q := by
  obtain ⟨r, rfl⟩ := h
  rw [size_append]
  omega

theorem size_join_nil_le (p : Text) : Files.size (Path.join p []) ≤ Files.size p + 1 := by
  rw [Path.join_nil]
  split
  · exact Nat.le_succ _
  · rw [size_append, size_slash]

theorem size_join_parent_le (h : t = [] ∨ ∃ before, t = before ++ [CodePoint.ofChar '/'])
    (hne : t ≠ []) : Files.size (Path.join (Path.parent t) []) ≤ Files.size t := by
  obtain ⟨before, rfl⟩ := h.resolve_left hne
  have hends : endsWith (before ++ [CodePoint.ofChar '/']) "/" = true := by
    rw [Path.endsWith_slash_iff, List.getLast?_concat]
  rw [parent_eq h]
  split
  · rw [Path.join_nil, hends, Bool.or_true, if_pos rfl]
  · -- at least one slash is left out, and at most one is written again
    have hless : withoutSlashes (before ++ [CodePoint.ofChar '/']) <+: before := by
      rw [withoutSlashes, List.rdropWhile_concat, if_pos (decide_eq_true rfl)]
      exact List.rdropWhile_prefix _ _
    have hsize := size_le_of_beginning hless
    have hone : Files.size [CodePoint.ofChar '/'] = 1 := size_slash
    have hslash := size_join_nil_le (withoutSlashes (before ++ [CodePoint.ofChar '/']))
    rw [size_append, hone]
    omega

/-- A path that is put together is longer than the text by no more than the names along it are than
those in the text, and a slash. -/
theorem size_pathAlong_le {front rest : Text} {back : Reading} (hcut : IsCut t front rest)
    (ht : Path.isAbsolute t = true) (hlength : back.length = (Path.steps rest).length)
    (hback : ∀ names ∈ back, Path.AreWritable names) :
    Files.size (pathAlong t (asWritten (Path.names front) ++ back)) + weight (Path.names t) ≤
      Files.size t + weight (asWritten (Path.names front) ++ back).flatten + 1 := by
  have habsolute : Path.isAbsolute front = true := hcut.isAbsolute_front.trans ht
  have hfront := Path.ne_nil_of_isAbsolute habsolute
  have hstart : Path.parent front ≠ [] :=
    Path.ne_nil_of_isAbsolute ((isAbsolute_parent hcut.slash).trans habsolute)
  have halong := size_le_of_beginning (Path.prefix_join_nil (along (Path.parent front) back))
  rw [size_join_along hstart hback] at halong
  have hparent := size_join_parent_le hcut.slash hfront
  have hnames := weight_names_le rest
  have hsize : Files.size t = Files.size front + Files.size rest := by rw [← size_append, ← hcut.eq]
  have hpath : pathAlong t (asWritten (Path.names front) ++ back) =
      along (Path.parent front) back := by
    rw [pathAlong_append (by rw [hlength, hcut.plan_eq, List.length_map]), hcut.plan_eq]
  rw [hpath, hcut.names_eq, List.flatten_append, flatten_asWritten, weight_append, weight_append]
  omega

end Search

end CallBindings
