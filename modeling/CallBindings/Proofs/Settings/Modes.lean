import CallBindings.Proofs.Json.Writable
import CallBindings.Proofs.Number.Digits
import CallBindings.Proofs.Settings.Validate
import Mathlib.Algebra.Order.Ring.Int

set_option autoImplicit false

/-! # The two modes

A value is right or not whatever the mode. Right values go through both modes in silence. Of others,
a strict validation refuses the first, and a lenient one warns and goes on with their normal forms.
There are two it cannot go on with: a text of digits that is no number, since it is taken for one,
and an integer below one that is too long to be shown in the warning.
-/

namespace CallBindings

namespace Settings

variable {registry : Registry} {current field fallback : Text} {config j : Json} {d s : Settings}
  {members : List (Text × Json)} {warnings : List SettingsWarning}

/-! ## Verdicts -/

/-- The verdict of both modes on what is checked. If it is right, both give `a` without a warning. If
not, the strict mode refuses it, and the lenient one warns and gives `a`, or breaks off. -/
structure Judges {α : Type} (check : ValidationMode → Checked α) (IsRight Breaks : Prop) (a : α) :
    Prop where
  accepts : IsRight → ∀ mode ws, (check mode).run ws = .ok (a, ws)
  refuses : ¬ IsRight → ∀ ws, ∃ e, (check .strict).run ws = .error e
  warns : ¬ IsRight → ¬ Breaks → ∀ ws, ∃ w more, (check .lenient).run ws = .ok (a, ws ++ w :: more)
  breaks : Breaks → ∀ ws, ∃ e, (check .lenient).run ws = .error e

variable {α β : Type} {c : ValidationMode → Checked α} {f : ValidationMode → α → Checked β}
  {IsRight IsRight' Breaks Breaks' : Prop} {a : α} {b : β}

theorem Judges.of_iff (h : Judges c IsRight Breaks a) (hright : IsRight ↔ IsRight')
    (hbreaks : Breaks ↔ Breaks') : Judges c IsRight' Breaks' a :=
  propext hright ▸ propext hbreaks ▸ h

/-- What is right is taken in both modes. -/
theorem judges_pure (hright : IsRight) (a : α) : Judges (fun _ => pure a) IsRight False a where
  accepts _ _ _ := rfl
  refuses hwrong := absurd hright hwrong
  warns hwrong := absurd hright hwrong
  breaks := False.elim

/-- What is wrong is refused, or put right with a warning. -/
theorem judges_refusal (hwrong : ¬ IsRight) (e : SettingsError) (w : SettingsWarning) (a : α) :
    Judges (fun mode => match mode with
      | .strict => throw e
      | .lenient => do
        warn w
        pure a) IsRight False a where
  accepts hright := absurd hright hwrong
  refuses _ _ := ⟨e, rfl⟩
  warns _ _ _ := ⟨w, [], rfl⟩
  breaks := False.elim

/-- One check after the other: both have to be right, and either can break. -/
theorem Judges.bind (h : Judges c IsRight Breaks a)
    (h' : Judges (fun mode => f mode a) IsRight' Breaks' b) :
    Judges (fun mode => c mode >>= f mode) (IsRight ∧ IsRight') (Breaks ∨ Breaks') b := by
  have hrun (mode : ValidationMode) {ws ws' : List SettingsWarning}
      (hfirst : (c mode).run ws = .ok (a, ws')) :
      (c mode >>= f mode).run ws = (f mode a).run ws' := by
    rw [StateT.run_bind, hfirst]
    rfl
  have hstop (mode : ValidationMode) {ws : List SettingsWarning} {e : SettingsError}
      (hfirst : (c mode).run ws = .error e) : (c mode >>= f mode).run ws = .error e := by
    rw [StateT.run_bind, hfirst]
    rfl
  -- what a lenient validation has gone through of the first check, if it does not break there
  have hpassed (hbreaks : ¬ Breaks) (ws : List SettingsWarning) : ∃ more,
      (c .lenient).run ws = .ok (a, ws ++ more) ∧ (¬ IsRight → more ≠ []) := by
    by_cases hright : IsRight
    · exact ⟨[], by rw [h.accepts hright, List.append_nil], fun hwrong => absurd hright hwrong⟩
    · obtain ⟨w, more, hfirst⟩ := h.warns hright hbreaks ws
      exact ⟨w :: more, hfirst, fun _ => List.cons_ne_nil _ _⟩
  constructor
  · rintro ⟨hright, hright'⟩ mode ws
    rw [hrun mode (h.accepts hright mode ws)]
    exact h'.accepts hright' mode ws
  · intro hwrong ws
    by_cases hright : IsRight
    · obtain ⟨e, he⟩ := h'.refuses (fun hright' => hwrong ⟨hright, hright'⟩) ws
      exact ⟨e, (hrun .strict (h.accepts hright .strict ws)).trans he⟩
    · obtain ⟨e, he⟩ := h.refuses hright ws
      exact ⟨e, hstop .strict he⟩
  · intro hwrong hbreaks ws
    rw [not_or] at hbreaks
    obtain ⟨more, hfirst, hmore⟩ := hpassed hbreaks.1 ws
    rw [hrun .lenient hfirst]
    by_cases hright' : IsRight'
    · -- then it is the first check that has warned
      obtain ⟨w, rest, rfl⟩ := List.exists_cons_of_ne_nil
        (hmore fun hright => hwrong ⟨hright, hright'⟩)
      exact ⟨w, rest, h'.accepts hright' .lenient _⟩
    · obtain ⟨w, rest, hsecond⟩ := h'.warns hright' hbreaks.2 (ws ++ more)
      rw [List.append_assoc] at hsecond
      cases more with
      | nil => exact ⟨w, rest, hsecond⟩
      | cons w' more => exact ⟨w', more ++ w :: rest, hsecond⟩
  · intro hbreaks ws
    by_cases hbreaks₁ : Breaks
    · obtain ⟨e, he⟩ := h.breaks hbreaks₁ ws
      exact ⟨e, hstop .lenient he⟩
    · obtain ⟨more, hfirst, -⟩ := hpassed hbreaks₁ ws
      obtain ⟨e, he⟩ := h'.breaks (hbreaks.resolve_left hbreaks₁) (ws ++ more)
      exact ⟨e, (hrun .lenient hfirst).trans he⟩

/-! ## One value -/

/-- Whether a value is right for a text setting: it is a text, or null. -/
def IsText : Json → Prop
  | .null => True
  | .str _ => True
  | _ => False

/-- Whether a value is right for a setting that counts: it is an integer of at least one, or null. -/
def IsCount : Json → Prop
  | .null => True
  | .int n => 1 ≤ n
  | _ => False

/-- Whether a lenient validation cannot go on with a value for a setting that counts. -/
def BreaksCount : Json → Prop
  | .str t => t.trim.isDigits = true ∧ ¬ t.trim.IsNumber
  | .int n => n ≤ -10 ^ integerDigitLimit
  | _ => False

theorem judges_checkText (field fallback : Text) (j : Json) :
    Judges (fun mode => checkText mode field fallback j) (IsText j) False (normalText fallback j) := by
  cases j with
  | null => exact judges_pure trivial _
  | str t => exact judges_pure trivial _
  | bool _ => exact judges_refusal id _ _ _
  | int _ => exact judges_refusal id _ _ _
  | float _ => exact judges_refusal id _ _ _
  | arr _ => exact judges_refusal id _ _ _
  | obj _ => exact judges_refusal id _ _ _

theorem judges_checkTransport (registry : Registry) (fallback name : Text) :
    Judges (fun mode => checkTransport mode registry fallback name)
      (registry.lists name.trim.lower = true) False
      (if registry.lists name.trim.lower then name.trim.lower else fallback) := by
  unfold checkTransport
  by_cases hlists : registry.lists name.trim.lower = true
  · simp only [if_pos hlists]
    exact judges_pure hlists _
  · simp only [if_neg hlists]
    exact judges_refusal hlists _ _ _

/-- An integer that is not positive is too long exactly if it is beyond a power of ten. -/
theorem not_canWrite_iff {n : Int} (hn : n < 1) :
    (!Text.canWrite n) = true ↔ n ≤ -10 ^ integerDigitLimit := by
  have hcast : ((10 ^ integerDigitLimit : ℕ) : Int) = 10 ^ integerDigitLimit :=
    Int.natCast_pow 10 integerDigitLimit
  rw [Bool.not_eq_true', Text.canWrite_eq_false_iff, ← hcast]
  omega

theorem judges_checkPositive (field : Text) (n : Int) :
    Judges (fun mode => checkPositive mode field n) (1 ≤ n) (n ≤ -10 ^ integerDigitLimit)
      (max n 1) where
  accepts hn mode ws := by
    have hmax : max n 1 = n := by omega
    rw [checkPositive.eq_def, if_neg (by omega), hmax]
    rfl
  refuses hn ws := by
    rw [checkPositive.eq_def, if_pos (by omega)]
    exact ⟨_, rfl⟩
  warns hn hshort ws := by
    have hsmall : n < 1 := by omega
    have hmax : max n 1 = 1 := by omega
    rw [checkPositive.eq_def, if_pos hsmall, hmax]
    simp only [not_canWrite_iff hsmall, if_neg hshort]
    exact ⟨_, [], rfl⟩
  breaks hlong ws := by
    have hpow : (0 : Int) < 10 ^ integerDigitLimit := Int.pow_pos (by decide)
    have hsmall : n < 1 := by omega
    rw [checkPositive.eq_def, if_pos hsmall]
    simp only [not_canWrite_iff hsmall, if_pos hlong]
    exact ⟨_, rfl⟩

/-- A text is no right number; the lenient mode reads it if it holds digits only. -/
theorem judges_checkCount_str (field : Text) (fallback : Int) (t : Text) :
    Judges (fun mode => checkCount mode field fallback (.str t)) False
      (t.trim.isDigits = true ∧ ¬ t.trim.IsNumber) (normalCount fallback (.str t)) where
  accepts := False.elim
  refuses _ _ := ⟨_, rfl⟩
  warns _ hreadable ws := by
    simp only [checkCount, normalCount]
    by_cases hdigits : t.trim.isDigits = true
    · have hnumber : t.trim.IsNumber := not_not.mp fun h => hreadable ⟨hdigits, h⟩
      obtain ⟨n, hn⟩ := (Text.readInt_of_isDigits hdigits).1 hnumber
      simp only [if_pos hdigits, hn]
      -- the conversion is warned of in any case, and zero is clamped besides
      have hjudged := judges_checkPositive field n
      have hpow : (0 : Int) < 10 ^ integerDigitLimit := Int.pow_pos (by decide)
      by_cases hpositive : 1 ≤ (n : Int)
      · exact ⟨_, [], hjudged.accepts hpositive .lenient _⟩
      · obtain ⟨w, more, hrun⟩ := hjudged.warns hpositive (by omega) (ws ++ [.converted field t n])
        rw [List.append_assoc] at hrun
        exact ⟨_, w :: more, hrun⟩
    · simp only [if_neg hdigits]
      exact ⟨_, [], rfl⟩
  breaks hunreadable ws := by
    obtain ⟨hdigits, hnumber⟩ := hunreadable
    obtain ⟨e, he⟩ := (Text.readInt_of_isDigits hdigits).2 hnumber
    simp only [checkCount, if_pos hdigits, he]
    exact ⟨_, rfl⟩

theorem judges_checkCount (field : Text) (fallback : Int) (j : Json) :
    Judges (fun mode => checkCount mode field fallback j) (IsCount j) (BreaksCount j)
      (normalCount fallback j) := by
  cases j with
  | null => exact judges_pure trivial _
  | int n => exact judges_checkPositive field n
  | str t => exact judges_checkCount_str field fallback t
  | bool _ => exact judges_refusal id _ _ _
  | float _ => exact judges_refusal id _ _ _
  | arr _ => exact judges_refusal id _ _ _
  | obj _ => exact judges_refusal id _ _ _

/-! ## All values -/

/-- Whether the values under the names of the settings are right. -/
structure AreRight (registry : Registry) (d : Settings) (value : Text → Json) : Prop where
  inputPath : IsText (value "input_path")
  outputPath : IsText (value "output_path")
  pattern : IsText (value "pattern")
  transport : IsText (value "transport")
  logLevel : IsText (value "log_level")
  logFile : IsText (value "log_file")
  maxWorkers : IsCount (value "max_workers")
  registered : registry.lists (normalText d.transport (value "transport")).trim.lower = true

theorem judges_check (registry : Registry) (d : Settings) (members : List (Text × Json)) :
    Judges (fun mode => check mode registry d members)
      (AreRight registry d fun field => (lookup? field members).getD .null)
      (BreaksCount ((lookup? "max_workers" members).getD .null))
      (normal registry d (fun field => (lookup? field members).getD .null)
        (members.filter fun m => !fields.contains m.1)) := by
  have hall : Judges (fun mode => check mode registry d members) _ _ _ :=
    (judges_checkText _ _ _).bind <| (judges_checkText _ _ _).bind <|
    (judges_checkText _ _ _).bind <| (judges_checkText _ _ _).bind <|
    (judges_checkText _ _ _).bind <| (judges_checkText _ _ _).bind <|
    (judges_checkCount _ _ _).bind <| (judges_checkTransport _ _ _).bind <| judges_pure trivial _
  refine hall.of_iff ⟨?_, ?_⟩ (by simp)
  · rintro ⟨hinput, houtput, hpattern, htransport, hlevel, hfile, hcount, hlists, -⟩
    exact ⟨hinput, houtput, hpattern, htransport, hlevel, hfile, hcount, hlists⟩
  · rintro ⟨hinput, houtput, hpattern, htransport, hlevel, hfile, hcount, hlists⟩
    exact ⟨hinput, houtput, hpattern, htransport, hlevel, hfile, hcount, hlists, trivial⟩

/-- The value that validation finds under a name, among members and defaults. -/
def valueOf (current : Text) (members : List (Text × Json)) (field : Text) : Json :=
  (lookup? field (assignAll (defaults current).members members)).getD .null

/-- Whether a value is an object whose settings are all right. -/
def IsValid (registry : Registry) (current : Text) : Json → Prop
  | .obj members => AreRight registry (defaults current) (valueOf current members)
  | _ => False

/-- Whether a lenient validation cannot go on with a value. -/
def BreaksOff (current : Text) : Json → Prop
  | .obj members => BreaksCount (valueOf current members "max_workers")
  | _ => False

/-- The settings that validation makes of a value. -/
def settled (registry : Registry) (current : Text) : Json → Settings
  | .obj members => normal registry (defaults current) (valueOf current members)
      ((assignAll (defaults current).members members).filter fun m => !fields.contains m.1)
  | _ => defaults current

/-- What both modes come to. -/
structure Verdict (registry : Registry) (current : Text) (config : Json) : Prop where
  accepts : IsValid registry current config →
    ∀ mode, validate mode registry current config = .ok (settled registry current config, [])
  refuses : ¬ IsValid registry current config →
    ∃ e, validate .strict registry current config = .error e
  warns : ¬ IsValid registry current config → ¬ BreaksOff current config → ∃ w more,
    validate .lenient registry current config = .ok (settled registry current config, w :: more)
  breaks : BreaksOff current config → ∃ e, validate .lenient registry current config = .error e

theorem verdict (registry : Registry) (current : Text) (config : Json) :
    Verdict registry current config := by
  cases config with
  | obj members =>
      have hall := judges_check registry (defaults current)
        (assignAll (defaults current).members members)
      exact {
        accepts := fun hvalid mode => hall.accepts hvalid mode []
        refuses := fun hvalid => hall.refuses hvalid []
        warns := fun hvalid hbreaks => hall.warns hvalid hbreaks []
        breaks := fun hbreaks => hall.breaks hbreaks [] }
  | _ => exact ⟨False.elim, fun _ => ⟨_, rfl⟩, fun _ _ => ⟨_, _, rfl⟩, False.elim⟩

theorem validate_strict_eq_error_iff :
    (∃ e, validate .strict registry current config = .error e) ↔
      ¬ IsValid registry current config := by
  refine ⟨?_, (verdict registry current config).refuses⟩
  rintro ⟨e, he⟩ hvalid
  rw [(verdict registry current config).accepts hvalid] at he
  cases he

/-- **Strict and lenient validation agree.** The strict mode refuses exactly what the lenient mode
warns of or breaks off at; what it takes, the lenient mode makes the same settings of, and neither has
a warning. -/
theorem validate_modes_agree (registry : Registry) (current : Text) (config : Json) :
    ((∃ e, validate .strict registry current config = .error e) ↔
      (∃ e, validate .lenient registry current config = .error e) ∨
        ∃ s warnings, validate .lenient registry current config = .ok (s, warnings) ∧
          warnings ≠ []) ∧
    ∀ s warnings, validate .strict registry current config = .ok (s, warnings) →
      warnings = [] ∧ validate .lenient registry current config = .ok (s, []) := by
  have hverdict := verdict registry current config
  constructor
  · rw [validate_strict_eq_error_iff]
    constructor
    · intro hinvalid
      by_cases hbreaks : BreaksOff current config
      · exact Or.inl (hverdict.breaks hbreaks)
      · obtain ⟨w, more, hlenient⟩ := hverdict.warns hinvalid hbreaks
        exact Or.inr ⟨_, _, hlenient, List.cons_ne_nil w more⟩
    · -- what is valid neither breaks off nor is warned of
      intro hlenient hvalid
      rw [hverdict.accepts hvalid] at hlenient
      rcases hlenient with ⟨e, he⟩ | ⟨s, warnings, hok, hwarned⟩
      · cases he
      · cases hok
        exact hwarned rfl
  · intro s warnings hstrict
    have hvalid : IsValid registry current config := by
      by_contra hinvalid
      obtain ⟨e, he⟩ := hverdict.refuses hinvalid
      rw [hstrict] at he
      cases he
    rw [hverdict.accepts hvalid] at hstrict ⊢
    cases hstrict
    exact ⟨rfl, rfl⟩

theorem validate_modes_agree_padded :
    (∃ s, validate .strict Registry.builtin "/" (.obj [("transport", .str " HTTPX "),
          ("max_workers", .int 3), ("team", .null)]) = .ok (s, []) ∧
        validate .lenient Registry.builtin "/" (.obj [("transport", .str " HTTPX "),
          ("max_workers", .int 3), ("team", .null)]) = .ok (s, [])) ∧
    ∃ e, validate .strict [] "/" (.obj [("max_workers", .int 3)]) = .error e := by
  refine ⟨⟨_, rfl, ((validate_modes_agree Registry.builtin "/" _).2 _ _ rfl).2⟩, ?_⟩
  exact (validate_modes_agree [] "/" _).1.mpr (Or.inr ⟨_, _, rfl, List.cons_ne_nil _ _⟩)

/-! ## What a lenient validation breaks off at -/

theorem breaksCount_iff : BreaksCount j ↔
    (∃ t, j = .str t ∧ t.trim.isDigits = true ∧
      ((∃ c ∈ t.trim, c.decimalValue? = none) ∨ integerDigitLimit < t.trim.length)) ∨
    ∃ n, j = .int n ∧ n ≤ -10 ^ integerDigitLimit := by
  have hnumber (t : Text) : ¬ t.IsNumber ↔
      (∃ c ∈ t, c.decimalValue? = none) ∨ integerDigitLimit < t.length := by
    simp [Text.IsNumber, or_iff_not_imp_left, Option.isSome_iff_ne_none]
  cases j with
  | str t => simp [BreaksCount, hnumber]
  | int n => simp [BreaksCount]
  | _ => simp [BreaksCount]

/-- **A lenient validation breaks off** exactly at an object whose number of workers is a text that
holds digits only and is no number, because one of them is not decimal or they are more than can be
read, or is an integer below zero with more digits than can be written. -/
theorem validate_lenient_eq_error_iff (registry : Registry) (current : Text) (config : Json) :
    (∃ e, validate .lenient registry current config = .error e) ↔
      ∃ members, config = .obj members ∧
        ((∃ t, valueOf current members "max_workers" = .str t ∧ t.trim.isDigits = true ∧
          ((∃ c ∈ t.trim, c.decimalValue? = none) ∨ integerDigitLimit < t.trim.length)) ∨
        ∃ n, valueOf current members "max_workers" = .int n ∧ n ≤ -10 ^ integerDigitLimit) := by
  have hverdict := verdict registry current config
  have hbreaks : (∃ e, validate .lenient registry current config = .error e) ↔
      BreaksOff current config := by
    refine ⟨?_, hverdict.breaks⟩
    rintro ⟨e, he⟩
    by_contra hbreaks
    by_cases hvalid : IsValid registry current config
    · rw [hverdict.accepts hvalid] at he
      cases he
    · obtain ⟨w, more, hwarned⟩ := hverdict.warns hvalid hbreaks
      rw [hwarned] at he
      cases he
  rw [hbreaks]
  cases config with
  | obj members => simp only [BreaksOff, breaksCount_iff, Json.obj.injEq, exists_eq_left']
  | _ => simp [BreaksOff]

/-- A superscript is a digit, but it is not read. -/
theorem validate_superscript :
    validate .lenient Registry.builtin "/" (.obj [("max_workers", .str "²")]) =
      .error (.integer (.malformed "²")) := rfl

end Settings

end CallBindings
