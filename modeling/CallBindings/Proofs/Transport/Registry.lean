import CallBindings.Module.Basic
import CallBindings.Proofs.History
import CallBindings.Proofs.Json.Members
import CallBindings.Proofs.Module.Agreement
import CallBindings.Proofs.Settings.Validate

set_option autoImplicit false

/-! # Names of transports

The registry is what a history of registrations and removals has made of it; the two built-in
transports count as registered at the beginning. A name is in the registry if the last change about
it is a registration, and its place goes back to the registration that found it missing. Whoever
takes the name of a transport asks this one registry: building, binding, assembling and validating
agree on which names there are. Building and binding also call the factory, so they agree with the
others as long as a factory does not look for a name that is not there.
-/

namespace CallBindings

/-- A change of the registry. -/
inductive RegistryChange where
  | register (name : Text) (factory : Factory)
  | unregister (name : Text)

namespace RegistryChange

/-- The name that a change is about. -/
def name : RegistryChange → Text
  | .register name _ => name
  | .unregister name => name

/-- The changes that lead to the registry at the start. -/
def builtin : List RegistryChange :=
  [.register "httpx" (.of "httpx"), .register "requests" (.of "requests")]

/-! ## Histories

What a history says about a name is told by a registration and what has come since. -/

variable {history before before' : List RegistryChange} {c : RegistryChange} {n m : Text}
  {f : Factory}

/-- Whether the last change about a name registers a factory under it. -/
def RegisteredLast (history : List RegistryChange) (n : Text) (f : Factory) : Prop :=
  Since (fun _ c => c = .register n f) (fun c => c.name ≠ n) history

/-- Whether the last change about a name is a registration. -/
def IsPresent (history : List RegistryChange) (n : Text) : Prop := ∃ f, RegisteredLast history n f

/-- Whether a name has been there since a registration with the changes `before` in front of it:
it was not there before, and it has not been removed since. -/
def PresentSince (history : List RegistryChange) (n : Text) (before : List RegistryChange) : Prop :=
  Since (fun earlier c => earlier = before ∧ ¬ IsPresent earlier n ∧ ∃ f, c = .register n f)
    (fun c => c ≠ .unregister n) history

/-- Whether one name has been there since an earlier registration than another. -/
def ComesBefore (history : List RegistryChange) (n m : Text) : Prop :=
  ∀ before before', PresentSince history n before → PresentSince history m before' →
    before.length < before'.length

theorem registeredLast_concat : RegisteredLast (history ++ [c]) n f ↔
    c = .register n f ∨ c.name ≠ n ∧ RegisteredLast history n f :=
  since_concat

theorem isPresent_concat : IsPresent (history ++ [c]) n ↔
    (∃ f, c = .register n f) ∨ c.name ≠ n ∧ IsPresent history n := by
  simp only [IsPresent, registeredLast_concat, exists_or, exists_and_left]

theorem presentSince_concat : PresentSince (history ++ [c]) n before ↔
    (history = before ∧ ¬ IsPresent history n ∧ ∃ f, c = .register n f) ∨
      c ≠ .unregister n ∧ PresentSince history n before :=
  since_concat

theorem PresentSince.length_lt (h : PresentSince history n before) :
    before.length < history.length := by
  obtain ⟨_, _, after, rfl, ⟨rfl, -⟩, -⟩ := h
  rw [List.length_append, List.length_cons]
  omega

theorem PresentSince.isPresent (h : PresentSince history n before) : IsPresent history n := by
  induction history using List.reverseRecOn with
  | nil => exact absurd h not_since_nil
  | append_singleton history c ih =>
      rw [isPresent_concat]
      rcases presentSince_concat.mp h with ⟨-, -, hc⟩ | ⟨hc, h⟩
      · exact Or.inl hc
      · by_cases hname : c.name = n
        · cases c with
          | register _ f =>
              cases hname
              exact Or.inl ⟨f, rfl⟩
          | unregister _ =>
              cases hname
              exact absurd rfl hc
        · exact Or.inr ⟨hname, ih h⟩

/-- A name that was there already has not come by a further change. -/
theorem PresentSince.of_concat (h : PresentSince (history ++ [c]) n before)
    (hn : IsPresent history n) : PresentSince history n before := by
  rcases presentSince_concat.mp h with ⟨-, habsent, -⟩ | ⟨-, h⟩
  · exact absurd hn habsent
  · exact h

/-- A name that was not there has come by the last change, if it is there now. -/
theorem PresentSince.eq_of_concat (h : PresentSince (history ++ [c]) n before)
    (hn : ¬ IsPresent history n) : before = history := by
  rcases presentSince_concat.mp h with ⟨hbefore, -⟩ | ⟨-, h⟩
  · exact hbefore.symm
  · exact absurd h.isPresent hn

theorem PresentSince.unique (h : PresentSince history n before)
    (h' : PresentSince history n before') : before = before' := by
  induction history using List.reverseRecOn with
  | nil => exact absurd h not_since_nil
  | append_singleton history c ih =>
      by_cases hn : IsPresent history n
      · exact ih (h.of_concat hn) (h'.of_concat hn)
      · rw [h.eq_of_concat hn, h'.eq_of_concat hn]

theorem ComesBefore.concat (h : ComesBefore history n m) (hn : IsPresent history n)
    (hm : IsPresent history m) (c : RegistryChange) : ComesBefore (history ++ [c]) n m :=
  fun before before' hbefore hbefore' =>
    h before before' (hbefore.of_concat hn) (hbefore'.of_concat hm)

/-- A name that comes by the last change comes after all others. -/
theorem comesBefore_concat_of_not_isPresent (hn : IsPresent history n)
    (hm : ¬ IsPresent history m) : ComesBefore (history ++ [c]) n m := by
  intro before before' hbefore hbefore'
  rw [hbefore'.eq_of_concat hm]
  exact (hbefore.of_concat hn).length_lt

end RegistryChange

namespace Registry

open RegistryChange

variable {r : Registry} {history changes : List RegistryChange} {n m : Text}

/-! ## Registries with a history -/

/-- Carries out a change. -/
def apply (r : Registry) : RegistryChange → Registry
  | .register name f => r.register name (some f)
  | .unregister name => r.unregister name

/-- The registry after changes of the one at the start. -/
def after (changes : List RegistryChange) : Registry := changes.foldl apply Registry.builtin

/-- Whether a registry holds what a history says, in the order in which the names have come. -/
structure Records (history : List RegistryChange) (r : Registry) : Prop where
  lookup : ∀ n e, lookup? n r = some e ↔ ∃ f, e = some f ∧ RegisteredLast history n f
  nodup : r.names.Nodup
  ordered : r.names.Pairwise (ComesBefore history)

theorem Records.mem_names_iff (h : Records history r) : n ∈ r.names ↔ IsPresent history n := by
  show n ∈ r.map Prod.fst ↔ _
  simp only [mem_map_fst_iff, h.lookup, IsPresent]
  constructor
  · rintro ⟨_, f, -, hf⟩
    exact ⟨f, hf⟩
  · rintro ⟨f, hf⟩
    exact ⟨some f, f, rfl, hf⟩

theorem names_register (r : Registry) (n : Text) (f : Option Factory) :
    (r.register n f).names = if n ∈ r.names then r.names else r.names ++ [n] :=
  map_fst_assign n f r

theorem names_unregister_sublist (r : Registry) (n : Text) :
    (r.unregister n).names.Sublist r.names :=
  List.filter_sublist.map _

theorem Records.register (h : Records history r) (n : Text) (f : Factory) :
    Records (history ++ [.register n f]) (r.register n (some f)) where
  lookup := by
    intro m e
    rw [Registry.register, lookup?_assign]
    simp only [registeredLast_concat, RegistryChange.name]
    split
    · next hm => simp [hm, eq_comm]
    · next hm => simp [h.lookup, Ne.symm hm]
  nodup := nodup_map_fst_assign h.nodup
  ordered := by
    -- names that are there keep their order, and one that is new comes behind them all
    have hkept : r.names.Pairwise (ComesBefore (history ++ [.register n f])) :=
      h.ordered.imp_of_mem fun hm hm' hbefore =>
        hbefore.concat (h.mem_names_iff.mp hm) (h.mem_names_iff.mp hm') _
    rw [names_register]
    split
    · exact hkept
    · next hn =>
        refine List.pairwise_append.mpr ⟨hkept, List.pairwise_singleton _ _, fun m hm m' hm' => ?_⟩
        rw [List.mem_singleton.mp hm']
        exact comesBefore_concat_of_not_isPresent (h.mem_names_iff.mp hm)
          (mt h.mem_names_iff.mpr hn)

theorem Records.unregister (h : Records history r) (n : Text) :
    Records (history ++ [.unregister n]) (r.unregister n) where
  lookup := by
    intro m e
    rw [Registry.unregister, lookup?_filter_ne]
    simp only [registeredLast_concat, RegistryChange.name]
    split
    · next hm => simp [hm]
    · next hm => simp [h.lookup, Ne.symm hm]
  nodup := h.nodup.sublist (names_unregister_sublist r n)
  ordered := by
    have hkept : r.names.Pairwise (ComesBefore (history ++ [.unregister n])) :=
      h.ordered.imp_of_mem fun hm hm' hbefore =>
        hbefore.concat (h.mem_names_iff.mp hm) (h.mem_names_iff.mp hm') _
    exact hkept.sublist (names_unregister_sublist r n)

theorem Records.apply (h : Records history r) (c : RegistryChange) :
    Records (history ++ [c]) (r.apply c) := by
  cases c with
  | register n f => exact h.register n f
  | unregister n => exact h.unregister n

-- a name that is registered again keeps its place, one that was removed comes back at the end
example : (after [.unregister "httpx", .register "stub" (.of "a"), .register "httpx" (.of "b"),
    .register "stub" (.of "c")]).names = ["requests", "stub", "httpx"].map Text.ofString := by decide

end Registry

end CallBindings
