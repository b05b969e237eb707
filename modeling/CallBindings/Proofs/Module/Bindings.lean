import CallBindings.Proofs.Module.Agreement
import CallBindings.Proofs.Module.Parameters
import CallBindings.Proofs.Module.Reading

set_option autoImplicit false

/-! # What a module binds

A module that can be read as a whole binds its contracts in order, each with the texts that quoting
leaves of its id, its URL and its method. So its bindings are those of binding the contracts
directly exactly if the module can be read and everything that binding looks at comes through
quoting.
-/

namespace CallBindings

open Text

namespace GeneratedModule

variable {m : GeneratedModule} {transport : Text} {cs : List Contract}

/-- Whether the text of a module can be read as a whole: no line nests brackets too deeply, no
contract is named like what cannot be assigned, and no two references are read alike. -/
structure Readable (m : GeneratedModule) (cs : List Contract) : Prop where
  nesting : ∀ line ∈ m.lines, Nesting.ofLine line ≤ nestingLimit
  assignable : ∀ c ∈ cs, c.id.normalize ≠ unassignableName
  parameters : ∀ a ∈ m.references, ∀ b ∈ m.references, a ≠ b → ¬ ReadAlike a b

/-! ## Runs -/

theorem Gathers.unreadable?_eq_none_iff (h : m.Gathers transport cs) :
    unreadable? (m.lines ++ [[]]) = none ↔
      (∀ line ∈ m.lines, Nesting.ofLine line ≤ nestingLimit) ∧
        ∀ c ∈ cs, c.id.normalize ≠ unassignableName := by
  have hnesting : (∀ line ∈ m.lines ++ [[]], Nesting.ofLine line ≤ nestingLimit) ↔
      ∀ line ∈ m.lines, Nesting.ofLine line ≤ nestingLimit := by
    rw [List.forall_mem_append, and_iff_left (by decide)]
  have hdeclared : (m.lines ++ [[]]).filterMap declared? = cs.map (·.id) := by
    rw [List.filterMap_append, h.filterMap_declared?,
      Compiled.map_id_of_forall₂ h.contracts Contract.CompilesTo.id]
    exact List.append_nil _
  rw [GeneratedModule.unreadable?_eq_none_iff, hdeclared, hnesting, List.forall_mem_map]

theorem Gathers.distinct_parameters_iff (h : m.Gathers transport cs) :
    distinct (GeneratedModule.parameters (m.lines ++ [[]])) =
      GeneratedModule.parameters (m.lines ++ [[]]) ↔
    ∀ a ∈ m.references, ∀ b ∈ m.references, a ≠ b → ¬ ReadAlike a b := by
  have hblank : GeneratedModule.parameters (m.lines ++ [[]]) =
      GeneratedModule.parameters m.lines := by
    rw [GeneratedModule.parameters, List.filterMap_append]
    exact congrArg (List.map Text.normalize) (List.append_nil _)
  rw [hblank, distinct_eq_self_iff, nodup_parameters_of_references h.references h.parameters]

theorem Gathers.callFactory_eq (h : m.Gathers transport cs) (registry : Registry)
    (options : DispatchOptions) : callFactory registry options (m.lines ++ [[]]) =
      (bindEntries registry transport.halves options
        ((cs.map entryOf).map Entry.halves)).mapError RunError.bind := by
  have hentries : cs.map (fun c => (entryOf c).halves) = (cs.map entryOf).map Entry.halves := by
    rw [List.map_map]
    rfl
  rw [callFactory, h.entries?, h.transport?]
  simp only [hentries]
  cases bindEntries registry transport.halves options ((cs.map entryOf).map Entry.halves) <;> rfl

/-- A readable module binds its entries as they come through quoting. -/
theorem Gathers.run_of_readable (h : m.Gathers transport cs) (hm : m.Readable cs)
    (registry : Registry) (options : DispatchOptions) :
    run registry options m.render = (bindEntries registry transport.halves options
      ((cs.map entryOf).map Entry.halves)).mapError RunError.bind := by
  have hunreadable := h.unreadable?_eq_none_iff.mpr ⟨hm.nesting, hm.assignable⟩
  have hparameters := h.distinct_parameters_iff.mpr hm.parameters
  simp only [run, h.splitAt_render, hunreadable]
  rw [if_neg (not_not_intro hparameters), h.callFactory_eq]

/-- The run of any other module fails before anything is bound. -/
theorem Gathers.run_of_not_readable (h : m.Gathers transport cs) (hm : ¬ m.Readable cs)
    (registry : Registry) (options : DispatchOptions) :
    ∃ e, run registry options m.render = .error e ∧ ∀ b, e ≠ .bind b := by
  cases hunreadable : unreadable? (m.lines ++ [[]]) with
  | some e =>
      refine ⟨e, ?_, ne_bind_of_unreadable? hunreadable⟩
      simp only [run, h.splitAt_render, hunreadable]
  | none =>
      obtain ⟨hnesting, hassignable⟩ := h.unreadable?_eq_none_iff.mp hunreadable
      have hparameters : ¬ distinct (GeneratedModule.parameters (m.lines ++ [[]])) =
          GeneratedModule.parameters (m.lines ++ [[]]) := fun hp =>
        hm ⟨hnesting, hassignable, h.distinct_parameters_iff.mp hp⟩
      refine ⟨.repeatedParameter, ?_, fun b => by simp⟩
      simp only [run, h.splitAt_render, hunreadable]
      rw [if_pos hparameters]

/-- A contract as it comes through quoting. -/
def halvesOf (c : Contract) : Contract :=
  { c with id := c.id.halves, url := c.url.halves, method := c.method.halves }

theorem outlines_mapError (result : Except BindError (List (Text × Binding))) :
    outlines (result.mapError RunError.bind) = (outlines result).mapError RunError.bind := by
  cases result <;> rfl

theorem mapError_bind_inj {α : Type} {r r' : Except BindError α} :
    r.mapError RunError.bind = r'.mapError RunError.bind ↔ r = r' := by
  cases r <;> cases r' <;> simp [Except.mapError]

/-- **When a module binds its contracts as they are.** Contracts that were read from descriptors,
with distinct ids and a response for success each, make up a module for every registered transport.
If its text can be read as a whole, running it binds them in order as they come through quoting, and
stops at the first that cannot be bound. Its bindings have the keys, URLs and methods of binding
the contracts directly, and its errors are those of binding them directly, for all options exactly
if its text can be read and everything that binding looks at comes through quoting. -/
theorem run_eq_bindAll_iff (registry : Registry) (transport : Text) (workers : ℤ)
    (generatedAt : Timestamp) (cs : List Contract)
    (hread : ∀ c ∈ cs, ∃ source j, Contract.ofJson source j = .ok c)
    (hsuccess : ∀ c ∈ cs, c.success?.isSome = true) (hids : (cs.map (·.id)).Nodup)
    (ht : registry.lists transport = true) :
    ∃ m, (generate registry transport workers generatedAt cs).2 = .ok m ∧
      (m.Readable cs → ∀ options, run registry options m.render =
        (bindAll registry transport.halves options (cs.map halvesOf)).mapError RunError.bind) ∧
      ((∀ options, outlines (run registry options m.render) =
        outlines ((bindAll registry transport options cs).mapError RunError.bind)) ↔
        m.Readable cs ∧ ComesThrough registry transport cs) := by
  have hsound : ∀ c ∈ cs, c.Sound := by
    intro c hc
    obtain ⟨source, j, hj⟩ := hread c hc
    exact Contract.sound_of_ofJson hj
  obtain ⟨m, hm, hgathers⟩ := generate_of_sound workers generatedAt ht hsound hsuccess hids
  refine ⟨m, hm, fun hreadable options => ?_, ?_⟩
  · rw [hgathers.run_of_readable hreadable, bindAll_eq, List.map_map, List.map_map]
    rfl
  · rw [← comesThrough_iff]
    constructor
    · intro hagree
      by_cases hreadable : m.Readable cs
      · refine ⟨hreadable, fun options => ?_⟩
        have h := hagree options
        rwa [hgathers.run_of_readable hreadable, outlines_mapError, outlines_mapError,
          mapError_bind_inj, bindAll_eq, outlines_bindEntries, outlines_bindEntries] at h
      · obtain ⟨e, he, hne⟩ := hgathers.run_of_not_readable hreadable registry {}
        have h := hagree {}
        rw [he, outlines_mapError] at h
        cases hdirect : outlines (bindAll registry transport {} cs) with
        | ok os =>
            rw [hdirect] at h
            cases h
        | error b =>
            rw [hdirect] at h
            injection h with h
            exact absurd h (hne b)
    · rintro ⟨hreadable, hagrees⟩ options
      rw [hgathers.run_of_readable hreadable, outlines_mapError, outlines_mapError,
        mapError_bind_inj, bindAll_eq, outlines_bindEntries, outlines_bindEntries]
      exact hagrees options

/-- The descriptor of a contract whose URL has a placeholder beyond `0xFFFF`. -/
def wideDescriptor : Json := .obj
  [("id", .str "getUser"), ("method", .str "GET"), ("url", .str "/$\x7b𝐀\x7d"),
    ("requestBody", .obj [("type", .str "boolean")]),
    ("responses", .arr [.obj [("code", .int 200), ("body", .obj [("type", .str "boolean")])]])]

/-- The contract of that descriptor. -/
def wideContract : Contract :=
  ⟨"getUser", "/$\x7b𝐀\x7d", "GET", .boolean, [⟨200, .boolean⟩]⟩

/-- The module of that contract. -/
def wideModule : GeneratedModule :=
  ⟨[⟨"getUser", "bool", "bool", "Never", bindingText "/$\x7b𝐀\x7d" "GET", []⟩], [], "httpx",
    ⟨2024, 1, 2, 3, 4, 5, 0, some 0⟩, []⟩

theorem ofJson_wide : Contract.ofJson none wideDescriptor = .ok wideContract := rfl

theorem generate_wide : (generate Registry.builtin "httpx" 1 ⟨2024, 1, 2, 3, 4, 5, 0, some 0⟩
    [wideContract]).2 = .ok wideModule := rfl

theorem run_eq_bindAll_iff_wide :
    (∀ c ∈ [wideContract], ∃ source j, Contract.ofJson source j = .ok c) ∧
    Registry.builtin.lists "httpx" = true ∧
    ∃ m, (generate Registry.builtin "httpx" 1 ⟨2024, 1, 2, 3, 4, 5, 0, some 0⟩
        [wideContract]).2 = .ok m ∧
      ((∀ options, outlines (run Registry.builtin options m.render) = outlines
        ((bindAll Registry.builtin "httpx" options [wideContract]).mapError RunError.bind)) ↔
        m.Readable [wideContract] ∧ ComesThrough Registry.builtin "httpx" [wideContract]) := by
  have hread : ∀ c ∈ [wideContract], ∃ source j, Contract.ofJson source j = .ok c := by
    intro c hc
    rw [List.mem_singleton.mp hc]
    exact ⟨none, wideDescriptor, ofJson_wide⟩
  have hlists : Registry.builtin.lists "httpx" = true := by decide
  obtain ⟨m, hm, -, hiff⟩ := run_eq_bindAll_iff Registry.builtin "httpx" 1
    ⟨2024, 1, 2, 3, 4, 5, 0, some 0⟩ [wideContract] hread (by decide) (by decide) hlists
  exact ⟨hread, hlists, m, hm, hiff⟩

/-- Options with a value for that placeholder. -/
def wideOptions : DispatchOptions where
  values := [("𝐀", .str "1")]

/-- Under these options, what a contract of that method is bound to is its resolved URL. -/
theorem mapM_outlineOf_wide {key template url : Text}
    (h : Template.resolve wideOptions.values template = .ok url) :
    [Entry.mk key template "GET"].mapM (outlineOf Registry.builtin "httpx" wideOptions) =
      .ok [(key, url, ofString "GET")] := by
  have hupper : (ofString "GET").upper = ofString "GET" := rfl
  have htarget : Binding.target wideOptions template "GET" = .ok (url, ofString "GET") := by
    have hoverride : Binding.override wideOptions template "GET" = .ok (template, ofString "GET") :=
      rfl
    simp only [Binding.target, hoverride, bind, Except.bind, h, hupper]
  have hone : outlineOf Registry.builtin "httpx" wideOptions ⟨key, template, "GET"⟩ =
      .ok (key, url, ofString "GET") := outlineOf_of_ok htarget
  rw [List.mapM_cons, hone]
  rfl

theorem readable_wide : wideModule.Readable [wideContract] := by
  refine ⟨by decide +kernel, by decide, ?_⟩
  intro a ha
  cases ha

/-- A contract that a module binds to another URL than binding it directly does: the placeholder
is resolved directly, but not once quoting has broken its name. -/
theorem run_wide_ne_bindAll :
    Contract.ofJson none wideDescriptor = .ok wideContract ∧
    (generate Registry.builtin "httpx" 1 ⟨2024, 1, 2, 3, 4, 5, 0, some 0⟩ [wideContract]).2 =
      .ok wideModule ∧
    outlines (run Registry.builtin wideOptions wideModule.render) =
      .ok [("getUser", (ofString "/$\x7b𝐀\x7d").halves, "GET")] ∧
    outlines (bindAll Registry.builtin "httpx" wideOptions [wideContract]) =
      .ok [("getUser", "/1", "GET")] ∧
    outlines (run Registry.builtin wideOptions wideModule.render) ≠ outlines
      ((bindAll Registry.builtin "httpx" wideOptions [wideContract]).mapError RunError.bind) := by
  have hgathers : wideModule.Gathers "httpx" [wideContract] := by
    refine ⟨rfl, .cons ⟨rfl, rfl, by decide +kernel, by decide, by decide, by decide⟩ .nil, ?_, rfl⟩
    exact List.nodup_nil
  have hrun : outlines (run Registry.builtin wideOptions wideModule.render) =
      .ok [("getUser", (ofString "/$\x7b𝐀\x7d").halves, "GET")] := by
    have hid : (ofString "getUser").halves = ofString "getUser" := halves_of_isBasic (by decide)
    have hresolve : Template.resolve wideOptions.values (ofString "/$\x7b𝐀\x7d").halves =
        .ok (ofString "/$\x7b𝐀\x7d").halves := by decide +kernel
    rw [hgathers.run_of_readable readable_wide, outlines_mapError, outlines_bindEntries]
    show ([Entry.mk (ofString "getUser").halves (ofString "/$\x7b𝐀\x7d").halves "GET"].mapM
      (outlineOf Registry.builtin "httpx" wideOptions)).mapError RunError.bind = _
    rw [mapM_outlineOf_wide hresolve, hid]
    rfl
  have hdirect : outlines (bindAll Registry.builtin "httpx" wideOptions [wideContract]) =
      .ok [("getUser", "/1", "GET")] := by
    have hresolve : Template.resolve wideOptions.values "/$\x7b𝐀\x7d" = .ok (ofString "/1") := by
      decide +kernel
    rw [bindAll_eq, outlines_bindEntries]
    exact mapM_outlineOf_wide hresolve
  refine ⟨ofJson_wide, generate_wide, hrun, hdirect, ?_⟩
  rw [hrun, outlines_mapError, hdirect]
  intro h
  have hurl : (ofString "/$\x7b𝐀\x7d").halves = ofString "/1" := by
    simpa [Except.mapError] using h
  revert hurl
  decide

end GeneratedModule

end CallBindings
