import CallBindings.Proofs.Text.Split
import CallBindings.Proofs.Unicode.Identifier

set_option autoImplicit false

/-! # Lists of parts between brackets

Parts of a type expression are separated by commas and end before a comma or a closing bracket.
If each part can be told from any other in front of such an end, the whole list can be read
off, and what follows it too.
-/

namespace CallBindings.Text

/-- The code points that a part of a type expression ends before. -/
def isStop (c : CodePoint) : Bool :=
  c = CodePoint.ofChar ',' || c = CodePoint.ofChar ']' || c = CodePoint.ofChar '\x7d'

/-- Whether a text can follow a part of a type expression. -/
def Stops (t : Text) : Prop := ∀ c ∈ t.head?, isStop c = true

theorem stops_nil : Stops [] := by
  intro c hc
  cases hc

theorem stops_cons {c : CodePoint} (hc : isStop c = true) (t : Text) : Stops (c :: t) := by
  intro d hd
  have hd : c = d := by simpa using hd
  exact hd ▸ hc

theorem Stops.ends {p : CodePoint → Bool} {t : Text} (h : Stops t)
    (hp : ∀ c, isStop c = true → p c = false) : Ends p t := fun c hc => hp c (h c hc)

theorem eq_of_isStop {c : CodePoint} (hc : isStop c = true) :
    c = CodePoint.ofChar ',' ∨ c = CodePoint.ofChar ']' ∨ c = CodePoint.ofChar '\x7d' := by
  simpa only [isStop, Bool.or_eq_true, decide_eq_true_eq, or_assoc] using hc

/-- An identifier does not go on where a part of a type expression ends. -/
theorem not_inIdentifier_of_isStop {c : CodePoint} (hc : isStop c = true) :
    c.inIdentifier = false := by
  rcases eq_of_isStop hc with rfl | rfl | rfl <;> exact CodePoint.inIdentifier_of_ascii (by decide)

variable {α : Type} {f : α → Text} {P : α → Prop} {close : CodePoint} {as bs : List α}
  {r r' : Text}

/-- Whether a part can be told from any other by its text, whatever follows either. -/
def Determined (f : α → Text) (P : α → Prop) (a : α) : Prop :=
  ∀ b, P b → ∀ r r' : Text, Stops r → Stops r' → f a ++ r = f b ++ r' → a = b ∧ r = r'

/-- What stands before each further part of a list. -/
def comma : Text := [CodePoint.ofChar ',', CodePoint.ofChar ' ']

theorem stops_further (hclose : isStop close = true) (ts : List Text) (r : Text) :
    Stops (ts.flatMap (comma ++ ·) ++ close :: r) := by
  cases ts with
  | nil => exact stops_cons hclose r
  | cons t ts => exact stops_cons (by decide) _

theorem further_inj (hclose : isStop close = true) (hcomma : close ≠ CodePoint.ofChar ',')
    (has : ∀ a ∈ as, Determined f P a) (hbs : ∀ b ∈ bs, P b)
    (h : (as.map f).flatMap (comma ++ ·) ++ close :: r =
      (bs.map f).flatMap (comma ++ ·) ++ close :: r') : as = bs ∧ r = r' := by
  induction as generalizing bs with
  | nil =>
      cases bs with
      | nil => exact ⟨rfl, (List.cons.inj h).2⟩
      | cons b bs => exact absurd (List.cons.inj h).1 hcomma
  | cons a as ih =>
      cases bs with
      | nil => exact absurd (List.cons.inj h).1.symm hcomma
      | cons b bs =>
          rw [List.map_cons, List.map_cons, List.flatMap_cons, List.flatMap_cons,
            List.append_assoc, List.append_assoc, List.append_assoc, List.append_assoc] at h
          -- behind a text comes a comma or what closes the list, and either stops it
          obtain ⟨hab, h⟩ := has a List.mem_cons_self b (hbs b List.mem_cons_self) _ _
            (stops_further hclose _ r) (stops_further hclose _ r') (List.append_cancel_left h)
          obtain ⟨habs, hr⟩ := ih (fun x hx => has x (List.mem_cons_of_mem a hx))
            (fun x hx => hbs x (List.mem_cons_of_mem b hx)) h
          exact ⟨by rw [hab, habs], hr⟩

/-- **A list of parts is determined by its text,** and so is what follows it. -/
theorem join_inj (hclose : isStop close = true) (hcomma : close ≠ CodePoint.ofChar ',')
    (hhead : ∀ a, P a → ∃ c t, f a = c :: t ∧ c ≠ close)
    (has : ∀ a ∈ as, P a ∧ Determined f P a) (hbs : ∀ b ∈ bs, P b)
    (h : join comma (as.map f) ++ close :: r = join comma (bs.map f) ++ close :: r') :
    as = bs ∧ r = r' := by
  have hne : ∀ {a : α} {s : Text}, P a → close :: r ≠ f a ++ s ∧ f a ++ s ≠ close :: r' := by
    intro a s ha
    obtain ⟨c, t, hc, hne⟩ := hhead a ha
    rw [hc]
    exact ⟨fun h => hne (List.cons.inj h).1.symm, fun h => hne (List.cons.inj h).1⟩
  cases as with
  | nil =>
      cases bs with
      | nil => exact ⟨rfl, (List.cons.inj h).2⟩
      | cons b bs =>
          rw [List.map_cons, join_cons, List.append_assoc] at h
          exact absurd h (hne (hbs b List.mem_cons_self)).1
  | cons a as =>
      cases bs with
      | nil =>
          rw [List.map_cons, join_cons, List.append_assoc] at h
          exact absurd h (hne (has a List.mem_cons_self).1).2
      | cons b bs =>
          rw [List.map_cons, List.map_cons, join_cons, join_cons, List.append_assoc,
            List.append_assoc] at h
          obtain ⟨hab, h⟩ := (has a List.mem_cons_self).2 b (hbs b List.mem_cons_self) _ _
            (stops_further hclose _ r) (stops_further hclose _ r') h
          obtain ⟨habs, hr⟩ := further_inj hclose hcomma
            (fun x hx => (has x (List.mem_cons_of_mem a hx)).2)
            (fun x hx => hbs x (List.mem_cons_of_mem b hx)) h
          exact ⟨by rw [hab, habs], hr⟩

end CallBindings.Text
