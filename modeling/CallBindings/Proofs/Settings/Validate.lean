import CallBindings.Proofs.FirstFault
import CallBindings.Settings.Validate
import Mathlib.Tactic.Common

set_option autoImplicit false

/-! # What validation makes of values

Whether members are accepted depends on the mode, but what is made of them does not: a setting is
the normal form of the value under its name, and no other value has a part in it. A value that a
lenient validation puts right has a normal form of its own, the default or the nearest right value.
-/

namespace CallBindings

namespace Settings

variable {mode : ValidationMode} {registry : Registry} {field fallback t current : Text} {j : Json}
  {members : List (Text × Json)} {d s : Settings} {warnings : List SettingsWarning}

/-! ## Normal forms -/

/-- The text that validation makes of a value. -/
def normalText (fallback : Text) : Json → Text
  | .str t => if t.trim.isEmpty then fallback else t.trim
  | _ => fallback

/-- The number that validation makes of a value, if it does not refuse it. -/
def normalCount (fallback : Int) : Json → Int
  | .int n => max n 1
  | .str t =>
    if t.trim.isDigits then
      match t.trim.readInt with
      | .ok n => max n 1
      | .error _ => fallback
    else fallback
  | _ => fallback

/-- The name of a transport that validation makes of a value. -/
def normalTransport (registry : Registry) (fallback : Text) (j : Json) : Text :=
  let name := (normalText fallback j).trim.lower
  if registry.lists name then name else fallback

/-- The settings that validation makes of the values under their names. -/
def normal (registry : Registry) (d : Settings) (value : Text → Json)
    (extra : List (Text × Json)) : Settings where
  inputPath := normalText d.inputPath (value "input_path")
  outputPath := normalText d.outputPath (value "output_path")
  pattern := normalText d.pattern (value "pattern")
  transport := normalTransport registry d.transport (value "transport")
  maxWorkers := normalCount d.maxWorkers (value "max_workers")
  logLevel := (normalText d.logLevel (value "log_level")).upper
  logFile := normalText [] (value "log_file")
  extra := extra

/-! ## One value -/

/-- Whether a validation comes to a value, after some warnings. -/
def Gives {α : Type} (c : Checked α) (a : α) : Prop := ∃ ws ws', c.run ws = .ok (a, ws')

theorem gives_pure {α : Type} {a b : α} (h : Gives (pure a) b) : b = a := by
  obtain ⟨ws, ws', h⟩ := h
  cases h
  rfl

theorem gives_bind {α β : Type} {c : Checked α} {f : α → Checked β} {b : β}
    (h : Gives (c >>= f) b) : ∃ a, Gives c a ∧ Gives (f a) b := by
  obtain ⟨ws, ws', h⟩ := h
  rw [StateT.run_bind] at h
  obtain ⟨⟨a, ws₁⟩, hc, hf⟩ := bind_eq_ok.mp h
  exact ⟨a, ⟨ws, ws₁, hc⟩, ⟨ws₁, ws', hf⟩⟩

theorem not_gives_throw {α : Type} {e : SettingsError} {a : α} :
    ¬ Gives (throw e : Checked α) a := by
  rintro ⟨ws, ws', h⟩
  cases h

/-- What is wrong is refused, or it is warned of and something else is taken. -/
theorem gives_refusal {α : Type} {e : SettingsError} {w : SettingsWarning} {a b : α}
    (h : Gives (match mode with
      | .strict => throw e
      | .lenient => do
        warn w
        pure a : Checked α) b) : b = a := by
  cases mode with
  | strict => exact absurd h not_gives_throw
  | lenient =>
      obtain ⟨_, -, h⟩ := gives_bind h
      exact gives_pure h

theorem gives_checkText (h : Gives (checkText mode field fallback j) t) :
    t = normalText fallback j := by
  cases j with
  | null => exact gives_pure h
  | str _ => exact gives_pure h
  | bool _ => exact gives_refusal h
  | int _ => exact gives_refusal h
  | float _ => exact gives_refusal h
  | arr _ => exact gives_refusal h
  | obj _ => exact gives_refusal h

theorem gives_checkPositive {n m : Int} (h : Gives (checkPositive mode field n) m) :
    m = max n 1 := by
  rw [checkPositive.eq_def] at h
  split at h
  · cases mode with
    | strict => exact absurd h not_gives_throw
    | lenient =>
        simp only at h
        split at h
        · exact absurd h not_gives_throw
        · obtain ⟨_, -, h⟩ := gives_bind h
          rw [gives_pure h]
          omega
  · rw [gives_pure h]
    omega

theorem gives_refuseNumber {n m : Int} {kind : Json.Kind}
    (h : Gives (refuseNumber mode field n kind) m) : m = n :=
  gives_refusal h

theorem gives_checkCount {n m : Int} (h : Gives (checkCount mode field n j) m) :
    m = normalCount n j := by
  cases j with
  | null => exact gives_pure h
  | int _ => exact gives_checkPositive h
  | str t =>
      cases mode with
      | strict => exact absurd h not_gives_throw
      | lenient =>
          rw [checkCount] at h
          rw [normalCount]
          split at h
          · next hdigits =>
              rw [if_pos hdigits]
              split at h
              · exact absurd h not_gives_throw
              · next n' hread =>
                  obtain ⟨_, -, h⟩ := gives_bind h
                  rw [hread]
                  exact gives_checkPositive h
          · next hdigits =>
              rw [if_neg hdigits]
              exact gives_refuseNumber h
  | bool _ => exact gives_refuseNumber h
  | float _ => exact gives_refuseNumber h
  | arr _ => exact gives_refuseNumber h
  | obj _ => exact gives_refuseNumber h

theorem gives_checkTransport {name : Text}
    (h : Gives (checkTransport mode registry fallback name) t) :
    t = if registry.lists name.trim.lower then name.trim.lower else fallback := by
  rw [checkTransport.eq_def] at h
  split at h
  · next hlists => rw [if_pos hlists, gives_pure h]
  · next hlists => rw [if_neg hlists, gives_refusal h]

/-! ## All values -/

theorem gives_check (h : Gives (check mode registry d members) s) :
    s = normal registry d (fun field => (lookup? field members).getD .null)
      (members.filter fun m => !fields.contains m.1) := by
  obtain ⟨inputPath, hinputPath, h⟩ := gives_bind h
  obtain ⟨outputPath, houtputPath, h⟩ := gives_bind h
  obtain ⟨pattern, hpattern, h⟩ := gives_bind h
  obtain ⟨name, hname, h⟩ := gives_bind h
  obtain ⟨logLevel, hlogLevel, h⟩ := gives_bind h
  obtain ⟨logFile, hlogFile, h⟩ := gives_bind h
  obtain ⟨maxWorkers, hmaxWorkers, h⟩ := gives_bind h
  obtain ⟨transport, htransport, h⟩ := gives_bind h
  cases gives_checkText hinputPath
  cases gives_checkText houtputPath
  cases gives_checkText hpattern
  cases gives_checkText hname
  cases gives_checkText hlogLevel
  cases gives_checkText hlogFile
  cases gives_checkCount hmaxWorkers
  cases gives_checkTransport htransport
  exact gives_pure h

/-- The settings given by members are the normal forms of the values among members and defaults. -/
theorem eq_normal_of_validate
    (h : validate mode registry current (.obj members) = .ok (s, warnings)) :
    s = normal registry (defaults current)
      (fun field => (lookup? field (assignAll (defaults current).members members)).getD .null)
      ((assignAll (defaults current).members members).filter fun m => !fields.contains m.1) :=
  gives_check ⟨[], warnings, h⟩

/-- Settings that are given by no members are the defaults. -/
theorem eq_defaults_of_validate (hj : ∀ members, j ≠ .obj members)
    (h : validate mode registry current j = .ok (s, warnings)) : s = defaults current := by
  rw [validate.eq_def] at h
  split at h
  · exact absurd rfl (hj _)
  · cases mode <;> cases h
    rfl

/-- A transport in normal form is registered if the default is. -/
theorem lists_normalTransport (h : registry.lists fallback = true) (j : Json) :
    registry.lists (normalTransport registry fallback j) = true := by
  rw [normalTransport]
  split
  · assumption
  · exact h

end Settings

end CallBindings
