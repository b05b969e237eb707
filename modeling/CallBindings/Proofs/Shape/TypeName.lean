import CallBindings.Proofs.Text.Split
import CallBindings.Proofs.Unicode.Composition
import CallBindings.Proofs.Unicode.Identifier
import CallBindings.Shape.TypeName

set_option autoImplicit false

/-! # Names of type parameters as texts

The name of a reference id is an identifier that is neither a reserved word nor reserved, and
different ids have different names. An escaped name keeps the *runs* of an id, its maximal
stretches of code points that can stand in a name as they are, and writes each *escape*
between two runs as a number. Runs have no low line, so both can be read off the name.
-/

namespace CallBindings

/-! ## Code points of names -/

theorem CodePoint.inIdentifier_of_isPlainInName {c : CodePoint} (h : c.isPlainInName = true) :
    c.inIdentifier = true := by
  simp only [CodePoint.isPlainInName, Text.isStableIdentifier, Text.isIdentifier,
    Bool.and_eq_true, List.all_cons] at h
  exact h.2.1.2.1

theorem CodePoint.ne_lowLine_of_isPlainInName {c : CodePoint} (h : c.isPlainInName = true) :
    c ≠ CodePoint.ofChar '_' := by
  simp only [CodePoint.isPlainInName, Bool.and_eq_true, decide_eq_true_eq] at h
  exact h.1

theorem CodePoint.lowLine_not_mem_hex (n : Nat) : CodePoint.ofChar '_' ∉ Text.hex n := by
  intro h
  have := Text.isSmallHex_of_mem_hex h
  revert this
  decide

namespace Text

theorem typeName_of_isPlain {id : Text} (h : id.isPlainTypeName = true) : id.typeName = id := by
  rw [typeName, if_pos h]

theorem typeName_of_not_isPlain {id : Text} (h : ¬ id.isPlainTypeName = true) :
    id.typeName = CodePoint.ofChar '_' :: id.flatMap CodePoint.escapedInName := by
  rw [typeName, if_neg h]
  rfl

theorem head?_of_isPlain {id : Text} (h : id.isPlainTypeName = true) :
    id.head? ≠ some (CodePoint.ofChar '_') := by
  intro hh
  obtain ⟨t, rfl⟩ := List.head?_eq_some_iff.mp hh
  have hstart : startsWith (CodePoint.ofChar '_' :: t) (ofString "_") = true := by
    show (dropStart? (CodePoint.ofChar '_' :: t) [CodePoint.ofChar '_']).isSome = true
    rw [dropStart?, if_pos rfl, dropStart?.eq_def]
    cases t <;> rfl
  simp [isPlainTypeName, hstart] at h

theorem isIdentifier_of_isPlain {id : Text} (h : id.isPlainTypeName = true) :
    id.isIdentifier = true := by
  simp only [isPlainTypeName, isStableIdentifier, Bool.and_eq_true] at h
  exact h.1.1.1.1

/-- Every name is an identifier. -/
theorem isIdentifier_typeName (id : Text) : id.typeName.isIdentifier = true := by
  by_cases h : id.isPlainTypeName = true
  · rw [typeName_of_isPlain h]
    exact isIdentifier_of_isPlain h
  · have hstart : (CodePoint.ofChar '_').startsIdentifier = true := rfl
    rw [typeName_of_not_isPlain h, isIdentifier, hstart, Bool.true_and, List.all_eq_true]
    intro c hc
    obtain ⟨d, -, hd⟩ := List.mem_flatMap.mp hc
    rw [CodePoint.escapedInName] at hd
    split at hd
    · rename_i hp
      rw [List.mem_singleton.mp hd]
      exact CodePoint.inIdentifier_of_isPlainInName hp
    · have hone : ∀ x ∈ ofString "_", x.inIdentifier = true := List.forall_mem_singleton.mpr rfl
      rcases List.mem_append.mp hd with hd | hd
      · rcases List.mem_append.mp hd with hd | hd
        · exact hone c hd
        · exact CodePoint.inIdentifier_of_isSmallHex (isSmallHex_of_mem_hex hd)
      · exact hone c hd

/-! ## Runs and escapes -/

/-- Whether a code point is written as a number in an escaped name. -/
def isEscape (c : CodePoint) : Bool := !c.isPlainInName

/-- The maximal stretches of an id whose code points stand in an escaped name as they are. -/
def runs (id : Text) : List Text := id.splitOnP isEscape

/-- The code points of an id that are written as numbers in an escaped name. -/
def escapes (id : Text) : Text := id.filter isEscape

/-- The runs with the escapes between them, each escape written by `f`. -/
def woven (f : CodePoint → Text) : List Text → Text → Text
  | r :: rs, c :: cs => r ++ f c ++ woven f rs cs
  | r :: _, [] => r
  | [], _ => []

theorem woven_modifyHead_cons (f : CodePoint → Text) (c : CodePoint) (rs : List Text)
    (cs : Text) (h : rs ≠ []) :
    woven f (rs.modifyHead (c :: ·)) cs = c :: woven f rs cs := by
  cases rs with
  | nil => exact absurd rfl h
  | cons r rs =>
      cases cs with
      | nil => rfl
      | cons d cs => simp [woven]

/-- An id is its runs with its escapes between them, whatever is put in the place of these. -/
theorem woven_runs_escapes (f : CodePoint → Text) (id : Text) :
    woven f id.runs id.escapes = id.flatMap fun c => if isEscape c then f c else [c] := by
  induction id with
  | nil => rfl
  | cons c id ih =>
      rw [runs, List.splitOnP_cons_eq_if_modifyHead, escapes, List.filter_cons,
        List.flatMap_cons, ← ih]
      by_cases hc : isEscape c = true
      · simp only [if_pos hc]
        rfl
      · simp only [if_neg hc]
        exact woven_modifyHead_cons f c (runs id) (escapes id) (List.splitOnP_ne_nil _ _)

theorem length_runs (id : Text) : id.runs.length = id.escapes.length + 1 := by
  induction id with
  | nil => rfl
  | cons c id ih =>
      rw [runs, List.splitOnP_cons_eq_if_modifyHead, escapes, List.filter_cons]
      by_cases hc : isEscape c = true
      · simp only [if_pos hc, List.length_cons]
        exact congrArg (· + 1) ih
      · simp only [if_neg hc, List.length_modifyHead]
        exact ih

theorem isPlainInName_of_mem_runs {id run : Text} (hr : run ∈ id.runs) :
    ∀ c ∈ run, c.isPlainInName = true := by
  induction id generalizing run with
  | nil =>
      rw [List.mem_singleton.mp hr]
      intro c hc
      cases hc
  | cons d id ih =>
      rw [runs, List.splitOnP_cons_eq_if_modifyHead] at hr
      by_cases hd : isEscape d = true
      · simp only [if_pos hd] at hr
        rcases List.mem_cons.mp hr with rfl | hr
        · intro c hc
          cases hc
        · exact ih hr
      · simp only [if_neg hd] at hr
        have hd' : d.isPlainInName = true := by simpa [isEscape] using hd
        -- the code point joins the run behind it
        cases hs : List.splitOnP isEscape id with
        | nil => exact absurd hs (List.splitOnP_ne_nil _ _)
        | cons r rs =>
            rw [hs, List.modifyHead_cons] at hr
            rcases List.mem_cons.mp hr with rfl | hr
            · intro c hc
              rcases List.mem_cons.mp hc with rfl | hc
              · exact hd'
              · exact ih (by rw [runs, hs]; exact List.mem_cons_self : r ∈ runs id) c hc
            · exact ih (by rw [runs, hs]; exact List.mem_cons_of_mem r hr)

/-- The runs and the escapes of an id determine it. -/
theorem eq_of_runs_of_escapes {a b : Text} (hr : a.runs = b.runs) (he : a.escapes = b.escapes) :
    a = b := by
  have hself : ∀ id : Text, woven (fun c => [c]) id.runs id.escapes = id := by
    intro id
    rw [woven_runs_escapes]
    simp
  rw [← hself a, hr, he, hself b]

/-- An escape as it is written in a name. -/
def escape (c : CodePoint) : Text :=
  CodePoint.ofChar '_' :: (hex c.val ++ [CodePoint.ofChar '_'])

theorem flatMap_escapedInName (id : Text) :
    id.flatMap CodePoint.escapedInName = woven escape id.runs id.escapes := by
  rw [woven_runs_escapes]
  congr 1
  funext c
  rw [CodePoint.escapedInName, isEscape]
  by_cases hc : c.isPlainInName = true
  · simp [hc]
  · have hc' : c.isPlainInName = false := by simpa using hc
    simp only [hc', Bool.not_false, if_true]
    rfl

/-- Runs and escapes can be read off where no run has a low line. -/
theorem woven_escape_inj {rs rs' : List Text} {cs cs' : Text}
    (hr : ∀ r ∈ rs, CodePoint.ofChar '_' ∉ r) (hr' : ∀ r ∈ rs', CodePoint.ofChar '_' ∉ r)
    (hl : rs.length = cs.length + 1) (hl' : rs'.length = cs'.length + 1)
    (h : woven escape rs cs = woven escape rs' cs') : rs = rs' ∧ cs = cs' := by
  -- no run holds a low line, so the first run ends with the first escape on either side
  induction cs generalizing rs rs' cs' with
  | nil =>
      obtain ⟨r, rfl⟩ := List.length_eq_one_iff.mp hl
      have hrn := hr r List.mem_cons_self
      cases cs' with
      | nil =>
          obtain ⟨r', rfl⟩ := List.length_eq_one_iff.mp hl'
          exact ⟨congrArg (fun x => [x]) h, rfl⟩
      | cons c' cs' =>
          cases rs' with
          | nil => cases hl'
          | cons r' rs' =>
              refine absurd ?_ hrn
              have h : r = r' ++ escape c' ++ woven escape rs' cs' := h
              rw [h]
              simp [escape]
  | cons c cs ih =>
      cases rs with
      | nil => cases hl
      | cons r rs =>
          cases rs' with
          | nil => cases hl'
          | cons r' rs' =>
              have hrn := hr r List.mem_cons_self
              have hrn' := hr' r' List.mem_cons_self
              cases cs' with
              | nil =>
                  refine absurd ?_ hrn'
                  have h : r ++ escape c ++ woven escape rs cs = r' := h
                  rw [← h]
                  simp [escape]
              | cons c' cs' =>
                  have h : r ++ escape c ++ woven escape rs cs =
                      r' ++ escape c' ++ woven escape rs' cs' := h
                  simp only [escape, List.append_assoc, List.cons_append, List.nil_append] at h
                  obtain ⟨hrr, h⟩ := append_cons_inj hrn hrn' h
                  obtain ⟨hcc, h⟩ := append_cons_inj (CodePoint.lowLine_not_mem_hex _)
                    (CodePoint.lowLine_not_mem_hex _) h
                  obtain ⟨hrs, hcs⟩ := ih (fun x hx => hr x (List.mem_cons_of_mem r hx))
                    (fun x hx => hr' x (List.mem_cons_of_mem r' hx)) (by simpa using hl)
                    (by simpa using hl') h
                  rw [hrr, hrs, hcs, CodePoint.ext (hex_injective hcc)]
                  exact ⟨rfl, rfl⟩

theorem lowLine_not_mem_of_mem_runs {id run : Text} (hr : run ∈ id.runs) :
    CodePoint.ofChar '_' ∉ run := fun h =>
  CodePoint.ne_lowLine_of_isPlainInName (isPlainInName_of_mem_runs hr _ h) rfl

/-- **Different ids have different names.** -/
theorem typeName_injective {a b : Text} (h : a.typeName = b.typeName) : a = b := by
  by_cases ha : a.isPlainTypeName = true <;> by_cases hb : b.isPlainTypeName = true
  · rwa [typeName_of_isPlain ha, typeName_of_isPlain hb] at h
  · rw [typeName_of_isPlain ha, typeName_of_not_isPlain hb] at h
    exact absurd (by rw [h]; rfl) (head?_of_isPlain ha)
  · rw [typeName_of_not_isPlain ha, typeName_of_isPlain hb] at h
    exact absurd (by rw [← h]; rfl) (head?_of_isPlain hb)
  · rw [typeName_of_not_isPlain ha, typeName_of_not_isPlain hb, List.cons.injEq,
      flatMap_escapedInName, flatMap_escapedInName] at h
    obtain ⟨hr, he⟩ := woven_escape_inj (fun _ => lowLine_not_mem_of_mem_runs)
      (fun _ => lowLine_not_mem_of_mem_runs) (length_runs a) (length_runs b) h.2
    exact eq_of_runs_of_escapes hr he

/-! ## Names that mean something else -/

/-- The words that a type parameter must not be called by. -/
def takenNames : List Text := keywords ++ reservedNames

theorem not_mem_takenNames_iff {name : Text} :
    name ∉ takenNames ↔ name.isKeyword = false ∧ name ∉ reservedNames := by
  simp [takenNames, isKeyword]

/-- No name is taken: an id that is a taken word is escaped, and no taken word begins with the low
line of an escaped name. -/
theorem typeName_not_mem_takenNames (id : Text) : id.typeName ∉ takenNames := by
  by_cases h : id.isPlainTypeName = true
  · rw [typeName_of_isPlain h, not_mem_takenNames_iff]
    simp only [isPlainTypeName, Bool.and_eq_true, Bool.not_eq_true'] at h
    exact ⟨h.2, by simpa using h.1.2⟩
  · have hhead : ∀ name ∈ takenNames, name.head? ≠ some (CodePoint.ofChar '_') := by decide
    intro hmem
    apply hhead _ hmem
    rw [typeName_of_not_isPlain h]
    rfl

/-- **Names of type parameters are one-to-one and usable**: different ids have different names, and
every name is an identifier that is neither a reserved word nor bound in every module. -/
theorem typeName_injective_and_usable :
    Function.Injective typeName ∧ ∀ id : Text, id.typeName.isIdentifier = true ∧
      id.typeName.isKeyword = false ∧ id.typeName ∉ reservedNames :=
  ⟨fun _ _ => typeName_injective,
    fun id => ⟨isIdentifier_typeName id,
      not_mem_takenNames_iff.mp (typeName_not_mem_takenNames id)⟩⟩

-- an id that looks like an escape is told from the id whose escape it looks like
example : (ofString "_20_").typeName = ofString "__5f_20_5f_" ∧
    (ofString " ").typeName = ofString "__20_" := by decide +kernel

end Text

end CallBindings
