import CallBindings.Json.Shown
import CallBindings.Proofs.Contract.Compiled
import CallBindings.Proofs.Shape.Scoped

set_option autoImplicit false

/-! # What contracts compile to

A contract that compiles may have been read from a descriptor or put together in another way.
Either way its type expressions have the names of its references and no others, and they stand in
a line, since values are shown without line feeds. The references of a batch are those of all
bodies of all contracts, whether repeats are dropped body by body, contract by contract or at the
end.
-/

namespace CallBindings

open Text

/-! ## Type expressions stand in a line -/

theorem inLine_numberEscape (c : CodePoint) : InLine (numberEscape c) := by
  have hdigits : ∀ width, InLine (hexPadded width c.val) := fun width =>
    IsPrintable.inLine fun _ hx => isPrintable_of_isSmallHex (isSmallHex_of_mem_hexPadded hx)
  rw [numberEscape]
  split_ifs
  · exact InLine.append (by decide) (hdigits 2)
  · exact InLine.append (by decide) (hdigits 4)
  · exact InLine.append (by decide) (hdigits 8)

/-- A line feed is shown by its escape. -/
theorem inLine_showCodePoint {q : CodePoint} (hq : q ≠ CodePoint.ofChar '\n') (c : CodePoint) :
    InLine (showCodePoint q c) := by
  have hsingle : ∀ d : CodePoint, d ≠ CodePoint.ofChar '\n' → InLine [d] := by
    intro d hd hmem
    exact hd (List.mem_singleton.mp hmem).symm
  rw [showCodePoint]
  split_ifs with hescaped hfeed
  · refine InLine.append (s := [CodePoint.ofChar '\\']) (by decide) (hsingle c ?_)
    -- behind a backslash stands the quote or a backslash, and neither ends a line
    rintro rfl
    rcases Bool.or_eq_true_iff.mp hescaped with h | h
    · exact hq (of_decide_eq_true h).symm
    · exact absurd (of_decide_eq_true h) (by decide)
  · decide
  · decide
  · decide
  · exact hsingle c hfeed
  · exact inLine_numberEscape c

theorem Text.inLine_shown (t : Text) : InLine t.shown := by
  have hquote : t.shownQuote ≠ CodePoint.ofChar '\n' := by
    rw [shownQuote]
    split <;> decide
  intro hmem
  rw [shown, List.cons_append, List.mem_cons, List.mem_append, List.mem_singleton,
    List.mem_flatMap] at hmem
  rcases hmem with hmem | ⟨c, -, hmem⟩ | hmem
  · exact hquote hmem.symm
  · exact inLine_showCodePoint hquote c hmem
  · exact hquote hmem.symm

namespace Json

mutual

theorem inLine_shown : ∀ j : Json, InLine j.shown
  | .null => by decide
  | .bool b => by cases b <;> decide
  | .int n => (isPrintable_ofInt n).inLine
  | .float x => (isPrintable_shown_float x).inLine
  | .str t => t.inLine_shown
  | .arr items => ((by decide : InLine (ofString "[")).append (inLine_shownItems items)).append
      (by decide)
  | .obj members =>
      ((by decide : InLine (ofString "\x7b")).append (inLine_shownMembers members)).append
        (by decide)

theorem inLine_shownItems : ∀ items : List Json, InLine (shownItems items)
  | [] => by decide
  | [j] => inLine_shown j
  | j :: k :: rest => ((inLine_shown j).append (by decide)).append (inLine_shownItems (k :: rest))

theorem inLine_shownMembers : ∀ members : List (Text × Json), InLine (shownMembers members)
  | [] => by decide
  | [(k, v)] => (k.inLine_shown.append (by decide)).append (inLine_shown v)
  | (k, v) :: m :: rest => (((k.inLine_shown.append (by decide)).append (inLine_shown v)).append
      (by decide)).append (inLine_shownMembers (m :: rest))

end

end Json

theorem inLine_literalText (j : Json) : InLine (literalText j) := by
  cases j with
  | str t => exact (isPrintable_quote t).inLine
  | _ => exact Json.inLine_shown _

variable {names : List Text} {t : Text}

theorem inLine_join {sep : Text} {ts : List Text} (hsep : InLine sep) (h : ∀ t ∈ ts, InLine t) :
    InLine (join sep ts) := by
  cases ts with
  | nil => exact List.not_mem_nil
  | cons t ts =>
      rw [List.forall_mem_cons] at h
      rw [join_cons]
      refine h.1.append fun hmem => ?_
      obtain ⟨u, hu, hmem⟩ := List.mem_flatMap.mp hmem
      exact hsep.append (h.2 u hu) hmem

theorem inLine_brackets {ts : List Text} (h : ∀ t ∈ ts, InLine t) : InLine (brackets ts) :=
  ((by decide : InLine (ofString "[")).append (inLine_join (by decide) h)).append (by decide)

theorem inLine_braces {ts : List Text} (h : ∀ t ∈ ts, InLine t) : InLine (braces ts) :=
  ((by decide : InLine (ofString "[\x7b")).append (inLine_join (by decide) h)).append (by decide)

theorem inLine_fieldText (name : Text) (optional : Bool) (h : InLine t) :
    InLine (fieldText name optional t) := by
  have hname : InLine (name.quote ++ ofString ": ") :=
    (isPrintable_quote name).inLine.append (by decide)
  rw [fieldText]
  refine hname.append ?_
  split
  · exact ((by decide : InLine (ofString "NotRequired[")).append h).append (by decide)
  · exact h

/-- A type expression stands in a line if its names do. -/
theorem WellScoped.inLine (h : WellScoped names t) (hnames : ∀ n ∈ names, InLine n) : InLine t := by
  induction h with
  | plain h =>
      have hplain : ∀ t ∈ plainTypes, InLine t := by decide
      exact hplain _ h
  | name h => exact hnames _ h
  | literal values =>
      refine InLine.append (by decide) (inLine_brackets fun t ht => ?_)
      obtain ⟨j, -, rfl⟩ := List.mem_map.mp ht
      exact inLine_literalText j
  | list _ ih =>
      exact InLine.append (by decide) (inLine_brackets (List.forall_mem_singleton.mpr ih))
  | tuple _ ih => exact InLine.append (by decide) (inLine_brackets ih)
  | record _ ih =>
      refine InLine.append (by decide) (inLine_braces fun t ht => ?_)
      obtain ⟨e, he, rfl⟩ := List.mem_map.mp ht
      exact inLine_fieldText e.name e.optional (ih e he)
  | dict _ _ ihkey ihvalue =>
      exact InLine.append (by decide) (inLine_brackets
        (List.forall_mem_cons.mpr ⟨ihkey, List.forall_mem_singleton.mpr ihvalue⟩))
  | union _ ih => exact InLine.append (by decide) (inLine_brackets ih)

/-! ## Contracts that compile -/

namespace Contract

/-- What a contract that compiles has compiled to. -/
structure Yields (c : Contract) (k : Compiled) : Prop where
  id : k.id = c.id
  isContractId : c.id.isContractId = true
  binding : k.binding = bindingText c.url c.method
  request : c.request.typeText = .ok k.request
  success : ∃ success, c.success? = some success ∧ success.body.typeText = .ok k.success
  exceptions : ∃ ts, Shape.typeTexts (c.failures.map (·.body)) = .ok ts ∧
    k.exceptions = unionText ts
  references : Shape.referencesOf c.bodies = .ok k.references

variable {c : Contract} {k : Compiled}

theorem yields_of_compile (h : c.compile = .ok k) : c.Yields k := by
  obtain ⟨success, hsuccess⟩ := success_of_compile h
  rw [compile, hsuccess] at h
  split at h
  · cases h
  · next hid =>
      obtain ⟨request, hrequest, h⟩ := bind_eq_ok.mp h
      obtain ⟨value, hvalue, h⟩ := bind_eq_ok.mp h
      obtain ⟨failures, hfailures, h⟩ := bind_eq_ok.mp h
      obtain ⟨references, hreferences, h⟩ := bind_eq_ok.mp h
      cases h
      exact ⟨rfl, by simpa using hid, rfl, hrequest, ⟨success, hsuccess, hvalue⟩,
        ⟨failures, hfailures, rfl⟩, hreferences⟩

theorem Yields.references_eq (h : c.Yields k) :
    k.references = distinct (c.bodies.flatMap Shape.referenced) :=
  (Shape.referencesOf_eq_ok.mp h.references).2

/-- **The type expressions of a contract have the names of its references and no others.** -/
theorem Yields.wellScoped (h : c.Yields k) :
    ∀ t ∈ [k.request, k.success, k.exceptions], WellScoped (k.references.map typeName) t := by
  have hbody : ∀ s ∈ c.bodies, ∀ t, s.typeText = .ok t →
      WellScoped (k.references.map typeName) t := by
    intro s hs t ht
    refine (Shape.wellScoped_of_typeText s t ht).mono (List.map_subset _ fun id hid => ?_)
    rw [h.references_eq, mem_distinct]
    exact List.mem_flatMap.mpr ⟨s, hs, hid⟩
  obtain ⟨success, hsuccess, hvalue⟩ := h.success
  obtain ⟨ts, hts, hexceptions⟩ := h.exceptions
  obtain ⟨hfailures, rfl⟩ := Shape.forall_of_typeTexts hts
  have hunion : WellScoped (k.references.map typeName) k.exceptions := by
    rw [hexceptions]
    refine wellScoped_unionText (List.forall_mem_map.mpr fun s hs => ?_)
    exact hbody s (failures_subset_bodies c hs) _ (hfailures s hs)
  simp only [List.forall_mem_cons]
  exact ⟨hbody _ List.mem_cons_self _ h.request,
    hbody _ (success_mem_bodies hsuccess) _ hvalue, hunion, by simp⟩

theorem Yields.compilesTo (h : c.Yields k) : c.CompilesTo k := by
  have hlines : ∀ t ∈ [k.request, k.success, k.exceptions], InLine t := by
    refine fun t ht => (h.wellScoped t ht).inLine (List.forall_mem_map.mpr fun id _ => ?_)
    exact inLine_of_isIdentifier (isIdentifier_typeName id)
  have hid : c.id.isIdentifier = true := by
    have hvalid := h.isContractId
    rw [Text.isContractId, Bool.and_eq_true] at hvalid
    exact hvalid.1
  simp only [List.forall_mem_cons] at hlines
  exact ⟨h.id, h.binding, h.id ▸ hid, hlines.1, hlines.2.1, hlines.2.2.1⟩

end Contract

/-! ## Batches -/

namespace Compiled

variable {workers : ℤ} {cs : List Contract} {ks : List Compiled}

theorem yields_of_batch (h : (batch workers cs).2 = .ok ks) :
    List.Forall₂ Contract.Yields cs ks :=
  (batch_eq_ok.mp h).1.imp fun _ _ => Contract.yields_of_compile

/-- Contracts that compile one by one and have different ids compile as a batch. -/
theorem exists_batch (workers : ℤ) (hcompile : ∀ c ∈ cs, ∃ k, c.compile = .ok k)
    (hids : (cs.map (·.id)).Nodup) : ∃ ks, (batch workers cs).2 = .ok ks := by
  obtain ⟨ks, hks⟩ : ∃ ks, List.Forall₂ (fun c k => c.compile = .ok k) cs ks := by
    clear hids
    induction cs with
    | nil => exact ⟨[], .nil⟩
    | cons c cs ih =>
        obtain ⟨k, hk⟩ := hcompile c List.mem_cons_self
        obtain ⟨ks, hks⟩ := ih fun d hd => hcompile d (List.mem_cons_of_mem c hd)
        exact ⟨k :: ks, .cons hk hks⟩
  have hyields := hks.imp fun _ _ => Contract.yields_of_compile
  refine ⟨ks, batch_eq_ok.mpr ⟨hks, ?_⟩⟩
  rwa [map_id_of_forall₂ hyields Contract.Yields.id]

/-- Dropping repeats contract by contract and then again gives the references of all bodies. -/
theorem referencesOf_bodies (h : List.Forall₂ Contract.Yields cs ks) :
    Shape.referencesOf (cs.flatMap (·.bodies)) = .ok (distinct (ks.flatMap (·.references))) := by
  have hsome : ∀ s ∈ cs.flatMap (·.bodies), ∃ ids, s.allReferences = .ok ids := by
    intro s hs
    obtain ⟨c, hc, hs⟩ := List.mem_flatMap.mp hs
    obtain ⟨k, -, hck⟩ := exists_of_forall₂ h.flip hc
    exact (Shape.referencesOf_eq_ok.mp hck.references).1 s hs
  have hreferences : ks.flatMap (·.references) =
      cs.flatMap fun c => distinct (c.bodies.flatMap Shape.referenced) := by
    -- `hsome` speaks of the whole list and would get in the way of the induction
    clear hsome
    induction h with
    | nil => rfl
    | cons hck _ ih => rw [List.flatMap_cons, List.flatMap_cons, ih, hck.references_eq]
  refine Shape.referencesOf_eq_ok.mpr ⟨hsome, ?_⟩
  rw [hreferences, List.flatMap_assoc]
  refine distinct_flatMap_congr fun c _ => ?_
  rw [distinct_of_nodup (nodup_distinct _)]

end Compiled

end CallBindings
