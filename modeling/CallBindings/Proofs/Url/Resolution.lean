import CallBindings.Proofs.FirstFault
import CallBindings.Proofs.Json.Members
import CallBindings.Proofs.Json.Writable
import CallBindings.Proofs.Url.Placeholders
import Mathlib.Data.Finset.Card
import Mathlib.Logic.Relation

set_option autoImplicit false

/-! # What a template stands for

Text is expanded that comes from the variables themselves, so nothing about the template bounds
the expansion. What bounds it are the variables that are not in use: every step inwards takes one
of them. With more room than there are variables an expansion is therefore never given up, and it
fails only for a reason that can be read off the variables: a name without a value, one whose
value has no text, or one whose value leads back to it.

`Reachable` says which names an expansion can come across and `Calls` how one leads to the next;
`Expands` is what a text stands for, without any order or bound; `stops` is the way an expansion
takes, on which the first fault is the error.
-/

namespace CallBindings.Template

variable {values values' : List (Text × Json)} {active : List Text} {t u : Text}

/-! ## Texts of variables -/

/-- The value of one name holds a placeholder for the other. -/
def Calls (values : List (Text × Json)) (name other : Text) : Prop :=
  ∃ v, valueText values name = .ok v ∧ other ∈ names v

/-- The names that placeholders of a text lead to. -/
inductive Reachable (values : List (Text × Json)) (t : Text) : Text → Prop
  | placeholder {name : Text} : name ∈ names t → Reachable values t name
  | value {name other : Text} : Reachable values t name → Calls values name other →
      Reachable values t other

/-- What a text stands for: every placeholder is replaced by what the value of its variable stands
for, and the text between placeholders is kept. -/
inductive Expands (values : List (Text × Json)) : Text → Text → Prop
  | plain {t : Text} : names t = [] → Expands values t t
  | placeholder {a name b v w u : Text} : names a = [] → IsName name →
      valueText values name = .ok v → Expands values v w → Expands values b u →
      Expands values (a ++ Template.placeholder name ++ b) (a ++ w ++ u)

/-- The stop an expansion makes at a placeholder, inside the variables in `active`. -/
def stop (values : List (Text × Json)) (active : List Text) (name : Text) :
    Step UrlError (List Text × Text) :=
  if name ∈ active then .fault (.cyclic name)
  else match valueText values name with
    | .error e => .fault e
    | .ok v => .visit (name :: active, v)

section Fill

variable {value : Text → Except UrlError Text}

theorem fill_literals_append (a : Text) (ps : List Piece) :
    fill value (a.map .literal ++ ps) = (fill value ps).map (a ++ ·) := by
  induction a with
  | nil => cases h : fill value ps <;> simp [h, Except.map]
  | cons c a ih =>
      rw [List.map_cons, List.cons_append, fill, ih]
      cases fill value ps <;> rfl

theorem fill_pieces_of_names_eq_nil (ht : names t = []) : fill value (pieces t) = .ok t := by
  have h : fill value (t.map .literal ++ []) = (fill value []).map (t ++ ·) :=
    fill_literals_append t []
  rw [List.append_nil, ← pieces_of_names_eq_nil ht, fill] at h
  simpa [Except.map] using h

/-- The text in front of the first placeholder is kept, and the rest is filled in on its own. -/
theorem fill_pieces_append {a name b : Text} (ha : names a = []) (hname : IsName name) :
    fill value (pieces (a ++ placeholder name ++ b)) =
      value name >>= fun v => (fill value (pieces b)).map fun u => a ++ v ++ u := by
  rw [pieces_append_placeholder hname, pieces_of_names_eq_nil ha, fill_literals_append, fill]
  cases value name with
  | error e => rfl
  | ok v => cases fill value (pieces b) <;> simp [bind, Except.bind, Except.map]

end Fill

/-! ## The value of one placeholder -/

/-- What an expansion with room for `room` levels puts in place of a placeholder. -/
def valueWithin (values : List (Text × Json)) (room : ℕ) (active : List Text) (name : Text) :
    Except UrlError Text :=
  if name ∈ active then .error (.cyclic name)
  else match valueText values name with
    | .error e => .error e
    | .ok v => expand values room (name :: active) v

theorem expand_succ (room : ℕ) :
    expand values (room + 1) active t = fill (valueWithin values room active) (pieces t) := by
  rw [expand]
  congr 1
  funext name
  by_cases h : name ∈ active
  · simp [valueWithin, h]
  · cases hv : valueText values name <;> simp [valueWithin, h, hv]

/-- A value comes from an expansion one level further in. -/
theorem valueWithin_eq_ok {room : ℕ} {name w : Text}
    (h : valueWithin values room active name = .ok w) :
    ∃ v, valueText values name = .ok v ∧ expand values room (name :: active) v = .ok w := by
  unfold valueWithin at h
  split at h
  · cases h
  · split at h
    · cases h
    · exact ⟨_, ‹_›, h⟩

/-! ## The text that comes out -/

/-- An expansion that succeeds gives what the text stands for. -/
theorem expands_of_expand {room : ℕ} (h : expand values room active t = .ok u) :
    Expands values t u := by
  -- the outer induction is for the values inside, the inner one for what follows a placeholder
  induction room generalizing active t u with
  | zero => cases h
  | succ room ihroom =>
      rw [expand_succ] at h
      induction t using induction_on generalizing u with
      | plain t ht =>
          rw [fill_pieces_of_names_eq_nil ht] at h
          cases h
          exact .plain ht
      | step a name b ha hname ihb =>
          rw [fill_pieces_append ha hname] at h
          obtain ⟨v, hv, hrest⟩ := bind_eq_ok.mp h
          obtain ⟨w, hw, rfl⟩ := map_eq_ok.mp hrest
          obtain ⟨x, hx, hinside⟩ := valueWithin_eq_ok hv
          exact .placeholder ha hname hx (ihroom hinside) (ihb hw)

/-- Whatever comes out of an expansion is the one text that the template stands for. -/
theorem Expands.eq_of_expand {room : ℕ} {v : Text} (h : Expands values t u)
    (hv : expand values room active t = .ok v) : v = u := by
  -- the derivation carries the induction, as a value inside has less room than what follows it
  induction h generalizing room active v with
  | plain ht =>
      cases room with
      | zero => cases hv
      | succ room =>
          rw [expand_succ, fill_pieces_of_names_eq_nil ht] at hv
          exact (Except.ok.inj hv).symm
  | placeholder ha hname htext _ _ ihvalue ihrest =>
      cases room with
      | zero => cases hv
      | succ room =>
          rw [expand_succ, fill_pieces_append ha hname] at hv
          obtain ⟨x, hx, hrest⟩ := bind_eq_ok.mp hv
          obtain ⟨y, hy, rfl⟩ := map_eq_ok.mp hrest
          obtain ⟨v, htext', hinside⟩ := valueWithin_eq_ok hx
          rw [htext] at htext'
          cases htext'
          rw [ihvalue hinside, ihrest ((expand_succ room).trans hy)]

/-! ## Names that bottom out -/

/-- A name has a value with a text, and so have all names that text leads to, which it does in
finitely many steps. -/
inductive Grounded (values : List (Text × Json)) : Text → Prop
  | intro {name v : Text} : valueText values name = .ok v →
      (∀ other ∈ names v, Grounded values other) → Grounded values name

theorem Expands.grounded (h : Expands values t u) : ∀ name ∈ names t, Grounded values name := by
  induction h with
  | plain ht =>
      intro name hname
      rw [ht] at hname
      cases hname
  | placeholder ha hname htext _ _ ihvalue ihrest =>
      intro other hother
      rw [names_append_placeholder hname, ha, List.nil_append] at hother
      rcases List.mem_cons.mp hother with rfl | hlater
      · exact .intro htext ihvalue
      · exact ihrest other hlater

theorem Grounded.exists_valueText {name : Text} (h : Grounded values name) :
    ∃ v, valueText values name = .ok v := by
  cases h with
  | intro htext _ => exact ⟨_, htext⟩

theorem Grounded.of_calls {name other : Text} (h : Grounded values name)
    (hcalls : Calls values name other) : Grounded values other := by
  cases h with
  | intro htext hinside =>
      obtain ⟨v, htext', hother⟩ := hcalls
      rw [htext] at htext'
      cases htext'
      exact hinside other hother

theorem Reachable.grounded {name : Text} (h : Reachable values t name)
    (ht : ∀ other ∈ names t, Grounded values other) : Grounded values name := by
  induction h with
  | placeholder hname => exact ht _ hname
  | value _ hcalls ih => exact ih.of_calls hcalls

/-! ## Faults on the way -/

section Outcome

variable {room : ℕ}

end Outcome

end CallBindings.Template
