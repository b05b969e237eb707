import CallBindings.Proofs.Contract.Accepted
import CallBindings.Proofs.Shape.Unsupported

set_option autoImplicit false

/-! # What is wrong with a contract

A contract that was not read from a descriptor may have any id, any number of responses for success
and shapes with foreign nodes. All that is wrong with it has an order: the id comes first, then that
there is no response for success, then the types of the request, of the first response for success
and of the failures. Only the references of the further responses for success are collected, so what
is wrong there is foreign nodes, and it comes last. Compiling fails with the first of these.
-/

namespace CallBindings

open Text Shape

/-- Only entries that pass a test matter to a list to which the others add nothing. -/
theorem flatMap_filter_of_nil {α β : Type} {p : α → Bool} {g : α → List β} {l : List α}
    (h : ∀ a ∈ l, p a = false → g a = []) : (l.filter p).flatMap g = l.flatMap g := by
  induction l with
  | nil => rfl
  | cons a l ih =>
      have hrest := ih fun b hb => h b (List.mem_cons_of_mem a hb)
      cases hp : p a with
      | true => rw [List.filter_cons_of_pos hp, List.flatMap_cons, List.flatMap_cons, hrest]
      | false =>
          rw [List.filter_cons_of_neg (by simp [hp]), List.flatMap_cons,
            h a List.mem_cons_self hp, List.nil_append, hrest]

namespace Contract

variable {c : Contract}

/-- The responses for success that stand behind the first one. -/
def laterSuccesses (c : Contract) : List Response :=
  (c.responses.filter (·.code = successCode)).tail

/-- All that is wrong with a contract, in order. -/
def faults (c : Contract) : List GenerationError :=
  (if c.id.isContractId then [] else [.invalidDescriptor (.badId c.id) none]) ++
  ((if c.success?.isSome then [] else [.missingSuccess c.id]) ++
  (c.request.faults untyped? ++
  (c.success?.toList.flatMap (·.body.faults untyped?) ++
  (c.failures.flatMap (·.body.faults untyped?) ++
  c.laterSuccesses.flatMap (·.body.faults foreign?)))))

/-- What a contract needs to compile. -/
structure IsCompilable (c : Contract) : Prop where
  id : c.id.isIdentifier = true ∧ c.id.isKeyword = false
  success : ∃ r ∈ c.responses, r.code = successCode
  request : ∃ t, c.request.typeText = .ok t
  value : ∀ r, c.success? = some r → ∃ t, r.body.typeText = .ok t
  failures : ∀ r ∈ c.responses, r.code ≠ successCode → ∃ t, r.body.typeText = .ok t
  /-- What stands behind the first response for success has no foreign nodes. -/
  laterSuccesses : ∀ r ∈ c.laterSuccesses, ∀ n ∈ r.body.nodes, n.foreign? = none

theorem flatMap_untyped_eq_nil_iff {rs : List Response} :
    rs.flatMap (·.body.faults untyped?) = [] ↔ ∀ r ∈ rs, ∃ t, r.body.typeText = .ok t := by
  rw [List.flatMap_eq_nil_iff]
  exact forall₂_congr fun r _ => (stopsAtFirst_typeText r.body).ok_iff.symm

/-- A contract can be compiled if nothing is wrong with it. -/
theorem faults_eq_nil_iff : c.faults = [] ↔ c.IsCompilable := by
  have hid : (if c.id.isContractId then [] else
      [GenerationError.invalidDescriptor (.badId c.id) none]) = [] ↔
      c.id.isIdentifier = true ∧ c.id.isKeyword = false := by
    simp only [ite_eq_left_iff, List.cons_ne_nil, imp_false, not_not, isContractId,
      Bool.and_eq_true, Bool.not_eq_true']
  have hsuccess : (if c.success?.isSome then [] else [GenerationError.missingSuccess c.id]) = [] ↔
      ∃ r ∈ c.responses, r.code = successCode := by
    rw [← isSome_success?_iff]
    simp only [ite_eq_left_iff, List.cons_ne_nil, imp_false, not_not]
  have hlater : c.laterSuccesses.flatMap (·.body.faults foreign?) = [] ↔
      ∀ r ∈ c.laterSuccesses, ∀ n ∈ r.body.nodes, n.foreign? = none := by
    rw [List.flatMap_eq_nil_iff]
    exact forall₂_congr fun r _ => Shape.faults_eq_nil_iff
  have hfailures : (∀ r ∈ c.failures, ∃ t, r.body.typeText = .ok t) ↔
      ∀ r ∈ c.responses, r.code ≠ successCode → ∃ t, r.body.typeText = .ok t := by
    simp only [Contract.failures, List.mem_filter, decide_eq_true_eq, and_imp]
  rw [faults]
  simp only [List.append_eq_nil_iff, hid, hsuccess, hlater, flatMap_untyped_eq_nil_iff, hfailures,
    ← (stopsAtFirst_typeText c.request).ok_iff, Option.mem_toList]
  constructor
  · rintro ⟨hid, hsuccess, hrequest, hvalue, hfailures, hlater⟩
    exact ⟨hid, hsuccess, hrequest, hvalue, hfailures, hlater⟩
  · rintro ⟨hid, hsuccess, hrequest, hvalue, hfailures, hlater⟩
    exact ⟨hid, hsuccess, hrequest, hvalue, hfailures, hlater⟩

/-! ## Compilation -/

/-- Behind bodies that have a type, only the further responses for success are left to be foreign. -/
theorem flatMap_foreign_bodies {success : Response} (hsuccess : c.success? = some success)
    (hrequest : c.request.faults untyped? = []) (hvalue : success.body.faults untyped? = [])
    (hfailures : c.failures.flatMap (·.body.faults untyped?) = []) :
    c.bodies.flatMap (Shape.faults foreign?) =
      c.laterSuccesses.flatMap (·.body.faults foreign?) := by
  have hfirst : (c.responses.filter (·.code = successCode)).head? = some success := by
    rw [List.head?_filter]
    exact hsuccess
  obtain ⟨later, hlater⟩ := List.head?_eq_some_iff.mp hfirst
  -- a response with another code is a failure, and has a type
  have hother : ∀ r ∈ c.responses, decide (r.code = successCode) = false →
      r.body.faults foreign? = [] := by
    intro r hr hcode
    refine faults_foreign_of_untyped (List.flatMap_eq_nil_iff.mp hfailures r ?_)
    exact List.mem_filter.mpr ⟨hr, by simpa using hcode⟩
  calc c.bodies.flatMap (Shape.faults foreign?)
      = c.responses.flatMap (·.body.faults foreign?) := by
        rw [bodies, List.flatMap_cons, faults_foreign_of_untyped hrequest, List.nil_append,
          List.flatMap_map]
    _ = (c.responses.filter (·.code = successCode)).flatMap (·.body.faults foreign?) :=
        (flatMap_filter_of_nil hother).symm
    _ = later.flatMap (·.body.faults foreign?) := by
        rw [hlater, List.flatMap_cons, faults_foreign_of_untyped hvalue, List.nil_append]
    _ = c.laterSuccesses.flatMap (·.body.faults foreign?) := by
        rw [laterSuccesses, hlater, List.tail_cons]

/-- **Compiling fails with the first thing that is wrong with a contract.** -/
theorem stopsAtFirst_compile (c : Contract) : StopsAtFirst c.faults c.compile := by
  unfold compile faults
  cases hid : c.id.isContractId with
  | false => exact stopsAtFirst_error _ _
  | true =>
      cases hsuccess : c.success? with
      | none => exact stopsAtFirst_error _ _
      | some success =>
          show StopsAtFirst (c.request.faults untyped? ++
            ([success].flatMap (·.body.faults untyped?) ++ _)) _
          rw [List.flatMap_singleton]
          -- each body is typed once those before it have a type
          refine (stopsAtFirst_typeText c.request).bind fun request hrequest => ?_
          refine (stopsAtFirst_typeText success.body).bind fun value hvalue => ?_
          have hbodies := stopsAtFirst_typeTexts (c.failures.map (·.body))
          rw [List.flatMap_map] at hbodies
          refine hbodies.bind fun failures hfailures => ?_
          rw [← flatMap_foreign_bodies hsuccess
            ((stopsAtFirst_typeText c.request).ok_iff.mp ⟨request, hrequest⟩)
            ((stopsAtFirst_typeText success.body).ok_iff.mp ⟨value, hvalue⟩)
            (hbodies.ok_iff.mp ⟨failures, hfailures⟩)]
          exact ((stopsAtFirst_allReferencesOf c.bodies).map distinct).bind_ok _

/-- **What is reported of trees that nobody has checked.** Both passes over a shape stop at the
first node that they reject, and the pass that collects references rejects no more than the other.
A contract compiles if it has what it needs for that, and otherwise the first of all that is wrong
with it is reported. -/
theorem compile_outcome (s : Shape) (c : Contract) :
    s.PassesEnd ∧ ((∃ k, c.compile = .ok k) ↔ c.IsCompilable) ∧
      ∀ e, c.compile = .error e ↔ c.faults.head? = some e :=
  ⟨passesEnd s, (stopsAtFirst_compile c).ok_iff.trans faults_eq_nil_iff,
    fun _ => (stopsAtFirst_compile c).error_iff⟩

end Contract

end CallBindings
