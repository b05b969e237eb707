import CallBindings.Contract.Compiled
import CallBindings.Proofs.Contract.Grammar
import CallBindings.Proofs.Distinct
import CallBindings.Proofs.Json.Printable
import CallBindings.Proofs.Shape.Words

set_option autoImplicit false

/-! # Compiling contracts that were read

A contract that was read from a descriptor and has a response for success compiles, and what it
compiles to stands in lines: no part of it holds a line feed. A batch of such contracts with
distinct ids compiles to one result for each contract, in the order of the batch.
-/

namespace CallBindings

open Text

/-! ## Type expressions are woven from the names of references -/

section Parts

variable {names : List Text} {ts : List Text}

theorem woven_brackets (h : ∀ t ∈ ts, Woven names t) : Woven names (brackets ts) :=
  .append (.append (.printable (by decide)) (woven_join (by decide) h)) (.printable (by decide))

theorem woven_braces (h : ∀ t ∈ ts, Woven names t) : Woven names (braces ts) :=
  .append (.append (.printable (by decide)) (woven_join (by decide) h)) (.printable (by decide))

theorem woven_unionText (h : ∀ t ∈ ts, Woven names t) : Woven names (unionText ts) := by
  have hdistinct : ∀ t ∈ distinct ts, Woven names t := fun t ht => h t (mem_distinct.mp ht)
  rw [unionText]
  split
  · exact .printable (by decide)
  · rename_i t hone
    exact hdistinct t (by simp [hone])
  · exact .append (.append (.printable (by decide)) (woven_join (by decide) hdistinct))
      (.printable (by decide))

end Parts

namespace Shape

theorem isPrintable_literalText {j : Json}
    (h : isNumberLiteral j = true ∨ isStringLiteral j = true) : IsPrintable (literalText j) := by
  cases j <;> simp only [isNumberLiteral, isStringLiteral, Bool.false_eq_true, or_self] at h
  case int n => exact isPrintable_ofInt n
  case float x => exact isPrintable_shown_float x
  case str t => exact isPrintable_quote t

theorem woven_choicesText {names : List Text} {plain : Text} {choices : Option (List Json)}
    (hplain : IsPrintable plain) (h : ∀ j ∈ choices.getD [], IsPrintable (literalText j)) :
    Woven names (choicesText plain choices) := by
  rw [choicesText_eq]
  cases hkept : keptChoices choices with
  | none => exact .printable hplain
  | some js =>
      obtain ⟨rfl, -⟩ := keptChoices_eq_some hkept
      refine .append (.printable (by decide)) (woven_brackets fun t ht => ?_)
      obtain ⟨j, hj, rfl⟩ := List.mem_map.mp ht
      exact .printable (h j hj)

theorem woven_fieldText {names : List Text} (name : Text) (optional : Bool) {t : Text}
    (h : Woven names t) : Woven names (fieldText name optional t) := by
  have hname : Woven names (name.quote ++ ofString ": ") :=
    .printable ((isPrintable_quote name).append (by decide))
  rw [fieldText]
  cases optional with
  | false => exact hname.append h
  | true =>
      exact hname.append (.append (.append (.printable (by decide)) h) (.printable (by decide)))

/-- **A type expression is woven from the names of the references of its shape.** -/
theorem woven_written (s : Shape) (hs : s.Sound) :
    Woven (s.referenced.map typeName) s.written := by
  induction s using Shape.induction with
  | node s ih =>
      obtain ⟨hsn, hsc⟩ := sound_iff.mp hs
      have hchild : ∀ c ∈ s.children, Woven (s.referenced.map typeName) c.written := by
        intro c hc
        exact (ih c hc (hsc c hc)).mono (List.map_subset _ (referenced_subset_of_child hc))
      have hmap : ∀ t ∈ s.children.map written, Woven (s.referenced.map typeName) t := by
        intro t ht
        obtain ⟨c, hc, rfl⟩ := List.mem_map.mp ht
        exact hchild c hc
      rw [written_eq hs]
      cases s with
      | boolean => exact .printable (by decide)
      | number choices =>
          exact woven_choicesText (by decide) fun j hj =>
            isPrintable_literalText (Or.inl (hsn j hj))
      | string choices format =>
          exact woven_choicesText (by decide) fun j hj =>
            isPrintable_literalText (Or.inr (hsn j hj))
      | array element => exact .append (.printable (by decide)) (woven_brackets hmap)
      | tuple elements =>
          cases elements with
          | nil => exact .printable (by decide)
          | cons e es => exact .append (.printable (by decide)) (woven_brackets hmap)
      | dictionary fields =>
          refine .append (.printable (by decide)) (woven_braces fun t ht => ?_)
          obtain ⟨f, hf, rfl⟩ := List.mem_map.mp ht
          exact woven_fieldText _ _ (hchild f.content (List.mem_map_of_mem hf))
      | map key value => exact .append (.printable (by decide)) (woven_brackets hmap)
      | union variants => exact woven_unionText hmap
      | reference id => exact .name (List.mem_map_of_mem (mem_referenced_reference id))
      | special kind =>
          have hkinds : ∀ kind ∈ specialKinds, IsPrintable ((specialText? kind).getD []) := by
            decide
          exact .printable (hkinds kind hsn)
      | foreign value => exact hsn.elim

/-- The type expression of a sound shape stands in a line. -/
theorem inLine_written (s : Shape) (hs : s.Sound) : InLine s.written := by
  refine (woven_written s hs).inLine fun name hname => ?_
  obtain ⟨id, -, rfl⟩ := List.mem_map.mp hname
  exact inLine_of_isIdentifier (isIdentifier_typeName id)

end Shape

/-! ## What reading a contract grants -/

/-- What a reader of contract descriptors grants. -/
structure Contract.Sound (c : Contract) : Prop where
  id : c.id.isContractId = true
  request : c.request.Sound
  responses : ∀ r ∈ c.responses, r.body.Sound

namespace Contract

/-- The grammar of contracts grants an id that may be written and describes each body. -/
theorem sound_of_describes {j : Json} {c : Contract} (h : Describes j c) : c.Sound := by
  cases h with
  | intro _ hidentifier hkeyword _ _ _ hrequest _ hall _ =>
      refine ⟨isContractId_iff.mpr ⟨hidentifier, hkeyword⟩, Shape.sound_of_describes hrequest,
        fun r hr => ?_⟩
      obtain ⟨_, -, hresponse⟩ := exists_of_forall₂ hall hr
      cases hresponse with
      | intro _ _ hbody => exact Shape.sound_of_describes hbody

/-- A contract that was read is sound. -/
theorem sound_of_ofJson {source : Option Text} {j : Json} {c : Contract}
    (h : ofJson source j = .ok c) : c.Sound :=
  sound_of_describes (ofJson_eq_ok.mp h)

/-! ## Compiling -/

/-- What the module of a contract knows of it. -/
structure CompilesTo (c : Contract) (k : Compiled) : Prop where
  id : k.id = c.id
  binding : k.binding = bindingText c.url c.method
  isIdentifier : k.id.isIdentifier = true
  request : InLine k.request
  success : InLine k.success
  exceptions : InLine k.exceptions

/-- What a sound contract with the given response for success compiles to. -/
def written (c : Contract) (success : Response) : Compiled :=
  ⟨c.id, c.request.written, success.body.written,
    unionText ((c.failures.map (·.body)).map Shape.written), bindingText c.url c.method,
    distinct (c.bodies.flatMap Shape.referenced)⟩

variable {c : Contract} {success : Response} {k : Compiled}

theorem Sound.bodies (hc : c.Sound) : ∀ s ∈ c.bodies, s.Sound :=
  List.forall_mem_cons.mpr ⟨hc.request, List.forall_mem_map.mpr hc.responses⟩

theorem success_mem_bodies (hs : c.success? = some success) : success.body ∈ c.bodies :=
  List.mem_cons_of_mem _ (List.mem_map_of_mem (List.mem_of_find?_eq_some hs))

theorem failures_subset_bodies (c : Contract) : c.failures.map (·.body) ⊆ c.bodies := by
  intro s hs
  obtain ⟨r, hr, rfl⟩ := List.mem_map.mp hs
  exact List.mem_cons_of_mem _ (List.mem_map_of_mem (List.mem_of_mem_filter hr))

theorem referencesOf_eq {ss : List Shape} (h : ∀ s ∈ ss, s.Sound) :
    Shape.referencesOf ss = .ok (distinct (ss.flatMap Shape.referenced)) := by
  rw [Shape.referencesOf,
    Shape.allReferencesOf_eq fun s hmem => Shape.allReferences_eq s (h s hmem)]
  rfl

theorem compile_eq_written (hc : c.Sound) (hs : c.success? = some success) :
    c.compile = .ok (c.written success) := by
  have hfailures : ∀ s ∈ c.failures.map (·.body), s.Sound :=
    fun s hmem => hc.bodies s (failures_subset_bodies c hmem)
  rw [compile, hc.id, hs]
  show c.request.typeText >>= _ = _
  rw [Shape.typeText_eq_written _ hc.request]
  show success.body.typeText >>= _ = _
  rw [Shape.typeText_eq_written _ (hc.bodies _ (success_mem_bodies hs))]
  show Shape.typeTexts (c.failures.map fun r => r.body) >>= _ = _
  rw [Shape.typeTexts_eq fun s hmem => Shape.typeText_eq_written s (hfailures s hmem)]
  show Shape.referencesOf c.bodies >>= _ = _
  rw [referencesOf_eq hc.bodies]
  rfl

/-- A contract without a response for success does not compile. -/
theorem success_of_compile (h : c.compile = .ok k) : ∃ success, c.success? = some success := by
  rw [compile] at h
  split at h
  · cases h
  · split at h
    · cases h
    · exact ⟨_, ‹_›⟩

theorem eq_written_of_compile (hc : c.Sound) (h : c.compile = .ok k) :
    ∃ success, c.success? = some success ∧ k = c.written success := by
  obtain ⟨success, hs⟩ := success_of_compile h
  rw [compile_eq_written hc hs] at h
  exact ⟨success, hs, (Except.ok.inj h).symm⟩

theorem compilesTo_written (hc : c.Sound) (hs : c.success? = some success) :
    c.CompilesTo (c.written success) := by
  have hid : c.id.isIdentifier = true := by
    have h := hc.id
    simp only [isContractId, Bool.and_eq_true] at h
    exact h.1
  refine ⟨rfl, rfl, hid, Shape.inLine_written _ hc.request,
    Shape.inLine_written _ (hc.bodies _ (success_mem_bodies hs)), ?_⟩
  refine (woven_unionText fun t ht => .name ht).inLine fun t ht => ?_
  obtain ⟨s, hmem, rfl⟩ := List.mem_map.mp ht
  exact Shape.inLine_written s (hc.bodies s (failures_subset_bodies c hmem))

/-- A sound contract with a response for success compiles. -/
theorem compile_of_sound (hc : c.Sound) (hs : c.success?.isSome = true) :
    ∃ k, c.compile = .ok k ∧ c.CompilesTo k := by
  obtain ⟨success, hsuccess⟩ := Option.isSome_iff_exists.mp hs
  exact ⟨_, compile_eq_written hc hsuccess, compilesTo_written hc hsuccess⟩

/-- The types that a contract compiles to are woven from the names of its references. -/
theorem woven_types (hc : c.Sound) (hs : c.success? = some success) :
    ∀ t ∈ [(c.written success).request, (c.written success).success,
        (c.written success).exceptions],
      Woven ((c.bodies.flatMap Shape.referenced).map typeName) t := by
  have hbody : ∀ s ∈ c.bodies,
      Woven ((c.bodies.flatMap Shape.referenced).map typeName) s.written := by
    intro s hmem
    refine (Shape.woven_written s (hc.bodies s hmem)).mono (List.map_subset _ fun id hid => ?_)
    exact List.mem_flatMap.mpr ⟨s, hmem, hid⟩
  have hfailures : Woven ((c.bodies.flatMap Shape.referenced).map typeName)
      (unionText ((c.failures.map (·.body)).map Shape.written)) := by
    refine woven_unionText fun t ht => ?_
    obtain ⟨s, hmem, rfl⟩ := List.mem_map.mp ht
    exact hbody s (failures_subset_bodies c hmem)
  simp only [List.forall_mem_cons]
  exact ⟨hbody _ List.mem_cons_self, hbody _ (success_mem_bodies hs), hfailures, by simp⟩

end Contract

/-! ## Batches -/

namespace Compiled

theorem repeatedId?_eq_none_iff {seen : List Text} {ks : List Compiled} :
    repeatedId? seen ks = none ↔ (ks.map (·.id)).Nodup ∧ ∀ k ∈ ks, k.id ∉ seen := by
  induction ks generalizing seen with
  | nil => simp [repeatedId?]
  | cons k ks ih =>
      rw [repeatedId?, List.map_cons, List.nodup_cons, List.forall_mem_cons]
      by_cases hk : k.id ∈ seen
      · simp [hk]
      · have hcontains : seen.contains k.id = false := by simpa using hk
        rw [hcontains, if_neg (by simp), ih]
        simp only [List.mem_cons, not_or, List.mem_map, not_exists, not_and]
        constructor
        · rintro ⟨hnodup, hseen⟩
          exact ⟨⟨fun k' hk' => (hseen k' hk').1, hnodup⟩, hk, fun k' hk' => (hseen k' hk').2⟩
        · rintro ⟨⟨hne, hnodup⟩, -, hseen⟩
          exact ⟨hnodup, fun k' hk' => ⟨hne k' hk', hseen k' hk'⟩⟩

/-- A batch compiles one contract after another. -/
theorem each_eq_ok {cs : List Contract} {ks : List Compiled} :
    (each cs).2 = .ok ks ↔ List.Forall₂ (fun c k => c.compile = .ok k) cs ks := by
  induction cs generalizing ks with
  | nil => simp [each, eq_comm]
  | cons c cs ih =>
      rw [each, List.forall₂_cons_left_iff]
      cases hc : c.compile with
      | error e => simp
      | ok k =>
          show (each cs).2.map (k :: ·) = .ok ks ↔ _
          rw [map_eq_ok]
          constructor
          · rintro ⟨ks', hks', rfl⟩
            exact ⟨k, ks', rfl, ih.mp hks', rfl⟩
          · rintro ⟨k', ks', hk', hks', rfl⟩
            cases hk'
            exact ⟨ks', ih.mpr hks', rfl⟩

theorem each_of_sound {cs : List Contract} (hsound : ∀ c ∈ cs, c.Sound)
    (hsuccess : ∀ c ∈ cs, c.success?.isSome = true) :
    ∃ ks, (each cs).2 = .ok ks ∧ List.Forall₂ Contract.CompilesTo cs ks := by
  induction cs with
  | nil => exact ⟨[], rfl, .nil⟩
  | cons c cs ih =>
      obtain ⟨k, hk, hck⟩ :=
        Contract.compile_of_sound (hsound c List.mem_cons_self) (hsuccess c List.mem_cons_self)
      obtain ⟨ks, hks, hcks⟩ := ih (fun c' h => hsound c' (List.mem_cons_of_mem c h))
        (fun c' h => hsuccess c' (List.mem_cons_of_mem c h))
      refine ⟨k :: ks, ?_, .cons hck hcks⟩
      rw [each, hk]
      show (each cs).2.map (k :: ·) = _
      rw [hks]
      rfl

theorem map_id_of_forall₂ {R : Contract → Compiled → Prop} {cs : List Contract}
    {ks : List Compiled} (h : List.Forall₂ R cs ks) (hid : ∀ {c k}, R c k → k.id = c.id) :
    ks.map (·.id) = cs.map (·.id) := by
  induction h with
  | nil => rfl
  | cons hck _ ih => rw [List.map_cons, List.map_cons, hid hck, ih]

theorem conclude_eq_ok {compiled : List Event × Except GenerationError (List Compiled)}
    {ks : List Compiled} :
    (conclude compiled).2 = .ok ks ↔ compiled.2 = .ok ks ∧ repeatedId? [] ks = none := by
  rw [conclude]
  cases compiled.2 with
  | error e => simp
  | ok ks' =>
      cases hid : repeatedId? [] ks' with
      | some id =>
          simp only [hid, reduceCtorEq, Except.ok.injEq, false_iff, not_and]
          rintro rfl
          simp [hid]
      | none =>
          simp only [hid, Except.ok.injEq]
          constructor
          · rintro rfl
            exact ⟨rfl, hid⟩
          · exact fun h => h.1

/-- A batch compiles if each of its contracts does and their ids are distinct, on any number of
workers. -/
theorem batch_eq_ok {workers : ℤ} {cs : List Contract} {ks : List Compiled} :
    (batch workers cs).2 = .ok ks ↔
      List.Forall₂ (fun c k => c.compile = .ok k) cs ks ∧ (ks.map (·.id)).Nodup := by
  -- a pool gives the same results, only its events come in another order
  have hresults : (if usesPool workers cs then pooled cs cs else each cs).2 = (each cs).2 := by
    split <;> rfl
  rw [batch, conclude_eq_ok, hresults, each_eq_ok, repeatedId?_eq_none_iff,
    and_iff_left (by simp : ∀ k ∈ ks, k.id ∉ [])]

/-- Sound contracts with distinct ids and a response for success each compile as a batch, on
any number of workers. -/
theorem batch_of_sound (workers : ℤ) {cs : List Contract} (hsound : ∀ c ∈ cs, c.Sound)
    (hsuccess : ∀ c ∈ cs, c.success?.isSome = true) (hids : (cs.map (·.id)).Nodup) :
    ∃ ks, (batch workers cs).2 = .ok ks ∧ List.Forall₂ Contract.CompilesTo cs ks := by
  obtain ⟨ks, hks, hcks⟩ := each_of_sound hsound hsuccess
  refine ⟨ks, batch_eq_ok.mpr ⟨each_eq_ok.mp hks, ?_⟩, hcks⟩
  rwa [map_id_of_forall₂ hcks Contract.CompilesTo.id]

/-- What sound contracts that compile as a batch compile to. -/
theorem written_of_batch {workers : ℤ} {cs : List Contract} {ks : List Compiled}
    (hsound : ∀ c ∈ cs, c.Sound) (h : (batch workers cs).2 = .ok ks) :
    List.Forall₂ (fun c k => c.Sound ∧ ∃ success, c.success? = some success ∧
      k = c.written success) cs ks :=
  (List.forall₂_and_left _ _ |>.mpr ⟨hsound, (batch_eq_ok.mp h).1⟩).imp
    fun _ _ h => ⟨h.1, Contract.eq_written_of_compile h.1 h.2⟩

end Compiled

end CallBindings
