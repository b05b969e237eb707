import CallBindings.Proofs.Contract.Compiled
import CallBindings.Proofs.Contract.Grammar

set_option autoImplicit false

/-! # What accepted descriptors compile to

Reading a contract checks all that compiling it asks for except one thing: a response for success.
So a contract that was read compiles exactly if its descriptor lists such a response. What it
compiles to names every type that it refers to: each of its bodies is that of the request, of the
one response for success, or of a failure.
-/

namespace CallBindings

namespace Contract

/-- Whether a descriptor lists a response with the code of success. -/
def DeclaresSuccess (j : Json) : Prop :=
  ∃ members items, j = .obj members ∧ lookup? "responses" members = some (.arr items) ∧
    ∃ item ∈ items, code? item = some successCode

/-- What holds of the contract `c` that was read from `j`. -/
structure CompilesAsDeclared (j : Json) (c : Contract) : Prop where
  /-- Compiling does not stop at the id. -/
  id : c.id.isContractId = true
  /-- Every body has a type expression. -/
  types : ∀ s ∈ c.bodies, ∃ t, s.typeText = .ok t
  /-- The references of every body can be collected. -/
  collected : ∀ s ∈ c.bodies, ∃ ids, s.references = .ok ids
  /-- A response for success is all that may be missing. -/
  compiles : (∃ k, c.compile = .ok k) ↔ DeclaresSuccess j
  missing : ¬ DeclaresSuccess j → c.compile = .error (.missingSuccess c.id)
  /-- The references are those of the request and all responses, in the order of first
  occurrence. -/
  references : ∀ k, c.compile = .ok k →
    k.references = distinct (c.bodies.flatMap Shape.referenced)
  /-- The type of every reference has its name as a word of some type expression. -/
  named : ∀ k, c.compile = .ok k → ∀ id ∈ k.references,
    id.typeName ∈ k.request.words ∨ id.typeName ∈ k.success.words ∨
      id.typeName ∈ k.exceptions.words

/-! ## The response for success -/

theorem isSome_success?_iff {c : Contract} :
    c.success?.isSome = true ↔ ∃ r ∈ c.responses, r.code = successCode := by
  rw [success?, List.find?_isSome]
  simp

/-- The codes in a descriptor are those of the responses it describes. -/
theorem declaresSuccess_iff {j : Json} {c : Contract} (h : Describes j c) :
    DeclaresSuccess j ↔ c.success?.isSome = true := by
  cases h with
  | @intro members id url method body request items responses _ _ _ _ _ _ _ hitems hall _ =>
      rw [isSome_success?_iff]
      constructor
      · rintro ⟨members', items', hmembers, hitems', item, hitem, hcode⟩
        cases hmembers
        obtain rfl : items = items' := by simpa [hitems] using hitems'
        obtain ⟨r, hr, hdescribes⟩ := exists_of_forall₂ hall.flip hitem
        rw [code?_of_describes hdescribes] at hcode
        exact ⟨r, hr, Option.some.inj hcode⟩
      · rintro ⟨r, hr, hcode⟩
        obtain ⟨item, hitem, hdescribes⟩ := exists_of_forall₂ hall hr
        exact ⟨members, items, rfl, hitems, item, hitem,
          (code?_of_describes hdescribes).trans (congrArg some hcode)⟩

theorem countP_of_describes {j : Json} {c : Contract} (h : Describes j c) :
    c.responses.countP (·.code = successCode) ≤ 1 := by
  cases h with
  | intro _ _ _ _ _ _ _ _ _ hcount => exact hcount

section Responses

variable {c : Contract} {success : Response}

/-- If there is one response for success at most, all others are failures. -/
theorem mem_failures_of_ne (hcount : c.responses.countP (·.code = successCode) ≤ 1)
    (hs : c.success? = some success) {r : Response} (hr : r ∈ c.responses) (hne : r ≠ success) :
    r ∈ c.failures := by
  have hsuccess : success ∈ c.responses ∧ success.code = successCode :=
    ⟨List.mem_of_find?_eq_some hs, by simpa using List.find?_some hs⟩
  by_contra hfailure
  have hcode : r.code = successCode := by
    by_contra hcode
    exact hfailure (List.mem_filter.mpr ⟨hr, by simpa using hcode⟩)
  -- so both have the code of success, and the list of those that do has no place for two
  have hmem : ∀ r' ∈ c.responses, r'.code = successCode →
      r' ∈ c.responses.filter (·.code = successCode) := by
    intro r' hr' hcode'
    simp [hr', hcode']
  have hfirst := hmem r hr hcode
  have hsecond := hmem success hsuccess.1 hsuccess.2
  rw [List.countP_eq_length_filter] at hcount
  match hlist : c.responses.filter (·.code = successCode) with
  | [] =>
      rw [hlist] at hfirst
      cases hfirst
  | [only] =>
      rw [hlist, List.mem_singleton] at hfirst hsecond
      exact hne (hfirst.trans hsecond.symm)
  | _ :: _ :: _ =>
      rw [hlist, List.length_cons, List.length_cons] at hcount
      omega

/-- Every body is that of the request, of the response for success, or of a failure. -/
theorem mem_bodies_cases (hcount : c.responses.countP (·.code = successCode) ≤ 1)
    (hs : c.success? = some success) {s : Shape} (h : s ∈ c.bodies) :
    s = c.request ∨ s = success.body ∨ s ∈ c.failures.map (·.body) := by
  rcases List.mem_cons.mp h with hrequest | hresponse
  · exact Or.inl hrequest
  · obtain ⟨r, hr, rfl⟩ := List.mem_map.mp hresponse
    by_cases hne : r = success
    · exact Or.inr (Or.inl (congrArg Response.body hne))
    · exact Or.inr (Or.inr (List.mem_map_of_mem (mem_failures_of_ne hcount hs hr hne)))

/-- The name of every reference is a word of one of the three type expressions. -/
theorem typeName_mem_words_of_written (hc : c.Sound)
    (hcount : c.responses.countP (·.code = successCode) ≤ 1) (hs : c.success? = some success)
    {id : Text} (hid : id ∈ (c.written success).references) :
    id.typeName ∈ (c.written success).request.words ∨
      id.typeName ∈ (c.written success).success.words ∨
      id.typeName ∈ (c.written success).exceptions.words := by
  obtain ⟨s, hbody, hids⟩ := List.mem_flatMap.mp (mem_distinct.mp hid)
  have hword : id.typeName ∈ s.written.words :=
    Shape.typeName_mem_words_written s (hc.bodies s hbody) id hids
  rcases mem_bodies_cases hcount hs hbody with rfl | rfl | hfailure
  · exact Or.inl hword
  · exact Or.inr (Or.inl hword)
  · refine Or.inr (Or.inr (Shape.words_subset_unionText ?_ (List.mem_map_of_mem hfailure) hword))
    intro t ht
    obtain ⟨s', hs', rfl⟩ := List.mem_map.mp ht
    exact (Shape.bears_written s' (hc.bodies s' (failures_subset_bodies c hs'))).closed

end Responses

/-! ## Compiling what was read -/

theorem compile_of_not_success {c : Contract} (hc : c.Sound) (hs : c.success? = none) :
    c.compile = .error (.missingSuccess c.id) := by
  rw [compile, hc.id, hs]
  rfl

/-- **Reading establishes all that compiling needs.** A contract that was read from a descriptor
compiles exactly if the descriptor lists a response for success; without one that is the error. No
id, type expression or reference is a cause of failure. The references it compiles to are those of
its bodies, each once, and each has its name in the types it compiles to. -/
theorem compilesAsDeclared_of_ofJson {source : Option Text} {j : Json} {c : Contract}
    (h : ofJson source j = .ok c) : CompilesAsDeclared j c := by
  have hdescribes : Describes j c := ofJson_eq_ok.mp h
  have hc : c.Sound := sound_of_ofJson h
  have hiff : DeclaresSuccess j ↔ c.success?.isSome = true := declaresSuccess_iff hdescribes
  exact
    { id := hc.id
      types := fun s hs => ⟨s.written, Shape.typeText_eq_written s (hc.bodies s hs)⟩
      collected := by
        intro s hs
        refine ⟨distinct s.referenced, ?_⟩
        rw [Shape.references, Shape.allReferences_eq s (hc.bodies s hs)]
        rfl
      compiles := by
        rw [hiff]
        constructor
        · rintro ⟨k, hk⟩
          obtain ⟨success, hsuccess⟩ := success_of_compile hk
          rw [hsuccess]
          rfl
        · intro hsome
          obtain ⟨success, hsuccess⟩ := Option.isSome_iff_exists.mp hsome
          exact ⟨c.written success, compile_eq_written hc hsuccess⟩
      missing := by
        intro hnone
        rw [hiff, Option.not_isSome_iff_eq_none] at hnone
        exact compile_of_not_success hc hnone
      references := by
        intro k hk
        obtain ⟨success, -, rfl⟩ := eq_written_of_compile hc hk
        rfl
      named := by
        intro k hk id hid
        obtain ⟨success, hsuccess, rfl⟩ := eq_written_of_compile hc hk
        exact typeName_mem_words_of_written hc (countP_of_describes hdescribes) hsuccess hid }

/-- A descriptor of a payment, whose failures come before and after its success. -/
def paymentDescriptor : Json :=
  .obj [(Text.ofString "id", .str "pay"), (Text.ofString "url", .str "/pay"),
    (Text.ofString "method", .str " post "),
    (Text.ofString "requestBody",
      .obj [(Text.ofString "type", .str "reference"), (Text.ofString "id", .str "card-key")]),
    (Text.ofString "responses", .arr [
      .obj [(Text.ofString "code", .int 404), (Text.ofString "body",
        .obj [(Text.ofString "type", .str "reference"), (Text.ofString "id", .str "bool")])],
      .obj [(Text.ofString "code", .int 200), (Text.ofString "body",
        .obj [(Text.ofString "type", .str "array"), (Text.ofString "element",
          .obj [(Text.ofString "type", .str "reference"),
            (Text.ofString "id", .str "card-key")])])],
      .obj [(Text.ofString "code", .int 409), (Text.ofString "body",
        .obj [(Text.ofString "type", .str "boolean")])]])]

/-- The contract of the payment. -/
def payment : Contract :=
  ⟨"pay", "/pay", "POST", .reference "card-key",
    [⟨404, .reference "bool"⟩, ⟨200, .array (.reference "card-key")⟩, ⟨409, .boolean⟩]⟩

theorem compilesAsDeclared_of_ofJson_payment :
    ofJson none paymentDescriptor = .ok payment ∧ CompilesAsDeclared paymentDescriptor payment :=
  have hread : ofJson none paymentDescriptor = .ok payment := rfl
  ⟨hread, compilesAsDeclared_of_ofJson hread⟩

end Contract

end CallBindings
