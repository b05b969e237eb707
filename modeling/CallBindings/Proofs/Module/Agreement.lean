import CallBindings.Module.Evaluate
import CallBindings.Proofs.Shape.Descriptor
import CallBindings.Proofs.Text.Quoted

set_option autoImplicit false

/-! # Binding what comes through quoting

A module holds the texts of its entries quoted, and quoting breaks code points above `0xFFFF` into
halves. Binding shows a broken text only where it looks at it: at the name of the transport, at
URL and method of the first contract, and at everything else if a transport can be built under the
name. But there it does show, since an overrider sees URL and method before anything else does: for
each text that breaks there are options that refuse it as long as it is whole.
-/

namespace CallBindings

open Text

/-! ## Binding in steps -/

namespace Binding

/-- URL and method that a template and a method are bound to. -/
def target (options : DispatchOptions) (template method : Text) :
    Except BindError (Text × Text) := do
  let (url, method) ← override options template method
  match Template.resolve options.values url with
  | .error e => .error (.url e)
  | .ok url => .ok (url, method.upper)

/-- The label of the transport built under a name. -/
def link (registry : Registry) (name : Text) : Except BindError Text :=
  (registry.build name).mapError .transport

theorem bind_eq (registry : Registry) (template method : Text) (options : DispatchOptions)
    (name : Text) : bind registry template method options name = (do
      let t ← target options template method
      let label ← link registry name
      .ok ⟨t.1, t.2, options, label⟩) := by
  rw [bind, onTransport, target, link]
  cases override options template method with
  | error e => rfl
  | ok r =>
      dsimp only [Bind.bind, Except.bind]
      cases Template.resolve options.values r.1 with
      | error e => rfl
      | ok url => cases registry.build name <;> rfl

/-- Options under which every URL and method is accepted and replaced. -/
def accepting : DispatchOptions where
  overrider := some fun _ _ => .ok ([], [])

/-- Options under which one URL with one method is refused. -/
def refusing (url method : Text) : DispatchOptions where
  overrider := some fun u m => if u = url ∧ m = method then .error [] else .ok ([], [])

theorem target_accepting (url method : Text) : target accepting url method = .ok ([], []) := rfl

theorem override_refusing (url method u m : Text) : override (refusing url method) u m =
    if u = url ∧ m = method then .error (.overrider []) else .ok ([], []) := by
  by_cases h : u = url ∧ m = method <;> simp [override, refusing, h]

theorem target_refusing_self (url method : Text) :
    target (refusing url method) url method = .error (.overrider []) := by
  rw [target, override_refusing, if_pos ⟨rfl, rfl⟩]
  rfl

theorem target_refusing_of_ne {url method u m : Text} (h : ¬ (u = url ∧ m = method)) :
    target (refusing url method) u m = .ok ([], []) := by
  rw [target, override_refusing, if_neg h]
  rfl

end Binding

/-! ## Lists of steps -/

section

variable {ε α β : Type} {f : α → Except ε β} {as : List α}

theorem mapM_of_forall_ok {r : α → β} (h : ∀ a ∈ as, f a = .ok (r a)) :
    as.mapM f = .ok (as.map r) := by
  induction as with
  | nil => rfl
  | cons a as ih =>
      rw [List.mapM_cons, h a List.mem_cons_self, ih fun b hb => h b (List.mem_cons_of_mem a hb)]
      rfl

theorem exists_ok_of_mapM {bs : List β} (h : as.mapM f = .ok bs) :
    ∀ a ∈ as, ∃ b, f a = .ok b := by
  induction as generalizing bs with
  | nil => simp
  | cons a as ih =>
      rw [List.mapM_cons] at h
      obtain ⟨b, hb, h⟩ := bind_eq_ok.mp h
      obtain ⟨bs', hbs, -⟩ := bind_eq_ok.mp h
      intro a' ha'
      rcases List.mem_cons.mp ha' with rfl | ha'
      · exact ⟨b, hb⟩
      · exact ih hbs a' ha'

theorem mapM_cons_of_error {a : α} {e : ε} (h : f a = .error e) :
    (a :: as).mapM f = .error e := by
  rw [List.mapM_cons, h]
  rfl

end

namespace GeneratedModule

/-! ## What is compared -/

/-- The entry of a contract. -/
def entryOf (c : Contract) : Entry := ⟨c.id, c.url, c.method⟩

/-- An entry as it comes through quoting. -/
def Entry.halves (e : Entry) : Entry := ⟨e.key.halves, e.url.halves, e.method.halves⟩

/-- What is compared of a binding: its key, its URL and its method. -/
def outline (b : Text × Binding) : Text × Text × Text := (b.1, b.2.url, b.2.method)

/-- What is compared of the result of a run. -/
def outlines {ε : Type} (result : Except ε (List (Text × Binding))) :
    Except ε (List (Text × Text × Text)) := result.map (·.map outline)

/-- The bindings of contracts that are bound directly, up to the first that cannot be bound. -/
def bindAll (registry : Registry) (transport : Text) (options : DispatchOptions)
    (cs : List Contract) : Except BindError (List (Text × Binding)) :=
  cs.mapM fun c => (Binding.bind registry c.url c.method options transport).map fun b => (c.id, b)

/-- What building a transport under a name comes to, whatever its label. -/
def linked (registry : Registry) (name : Text) : Except BindError Unit :=
  (Binding.link registry name).map fun _ => ()

/-- What is compared of the binding of an entry. -/
def outlineOf (registry : Registry) (transport : Text) (options : DispatchOptions) (e : Entry) :
    Except BindError (Text × Text × Text) := do
  let t ← Binding.target options e.url e.method
  let _ ← linked registry transport
  .ok (e.key, t)

variable {registry : Registry} {transport : Text} {options : DispatchOptions}

theorem outlineOf_eq (e : Entry) : outlineOf registry transport options e =
    (Binding.bind registry e.url e.method options transport).map fun b => outline (e.key, b) := by
  rw [outlineOf, Binding.bind_eq]
  cases Binding.target options e.url e.method with
  | error e => rfl
  | ok t =>
      rw [linked]
      cases Binding.link registry transport <;> rfl

theorem outlines_bindEntries (es : List Entry) :
    outlines (bindEntries registry transport options es) =
      es.mapM (outlineOf registry transport options) := by
  induction es with
  | nil => rfl
  | cons e es ih =>
      rw [List.mapM_cons, ← ih, outlineOf_eq, bindEntries]
      cases Binding.bind registry e.url e.method options transport with
      | error _ => rfl
      | ok b => cases bindEntries registry transport options es <;> rfl

theorem bindAll_eq (cs : List Contract) :
    bindAll registry transport options cs =
      bindEntries registry transport options (cs.map entryOf) := by
  induction cs with
  | nil => rfl
  | cons c cs ih =>
      rw [List.map_cons, bindEntries, ← ih, bindAll, List.mapM_cons]
      dsimp only [entryOf]
      cases Binding.bind registry c.url c.method options transport with
      | error _ => rfl
      | ok b => rfl

/-! ## What comes through quoting -/

theorem exists_of_linked_eq_error {err : BindError} (h : linked registry transport = .error err) :
    ∃ e, err = .transport e := by
  rw [linked, Binding.link] at h
  cases hbuild : registry.build transport with
  | ok label =>
      rw [hbuild] at h
      cases h
  | error e =>
      rw [hbuild] at h
      cases h
      exact ⟨e, rfl⟩

/-- Whether everything that binding contracts gets to see comes through quoting: the name of the
transport, at least in that the same comes of building under it; URL and method of the first
contract; and all texts of all contracts, if binding gets to them. -/
structure ComesThrough (registry : Registry) (transport : Text) (cs : List Contract) : Prop where
  name : cs = [] ∨ linked registry transport.halves = linked registry transport
  first : ∀ c ∈ cs.head?, c.url.isBasic = true ∧ c.method.isBasic = true
  contracts : linked registry transport = .ok () → ∀ c ∈ cs,
    c.id.isBasic = true ∧ c.url.isBasic = true ∧ c.method.isBasic = true

/-- Whether binding entries as they come through quoting shows the same as binding them directly,
whatever the options. -/
def Agrees (registry : Registry) (transport : Text) (es : List Entry) : Prop :=
  ∀ options, (es.map Entry.halves).mapM (outlineOf registry transport.halves options) =
    es.mapM (outlineOf registry transport options)

theorem outlineOf_of_error {e : Entry} {err : BindError}
    (h : Binding.target options e.url e.method = .error err) :
    outlineOf registry transport options e = .error err := by
  rw [outlineOf, h]
  rfl

theorem outlineOf_of_ok {e : Entry} {t : Text × Text}
    (h : Binding.target options e.url e.method = .ok t) :
    outlineOf registry transport options e =
      (linked registry transport).map fun _ => (e.key, t) := by
  rw [outlineOf, h]
  cases linked registry transport <;> rfl

theorem halves_eq_self {e : Entry} (hkey : e.key.isBasic = true) (hurl : e.url.isBasic = true)
    (hmethod : e.method.isBasic = true) : e.halves = e := by
  rw [Entry.halves, halves_of_isBasic hkey, halves_of_isBasic hurl, halves_of_isBasic hmethod]

/-- Where no transport can be built, nothing is bound, whatever the key. -/
theorem exists_error_of_linked {err : BindError} (h : linked registry transport = .error err)
    (options : DispatchOptions) (url method : Text) :
    ∃ err, ∀ key, outlineOf registry transport options ⟨key, url, method⟩ = .error err := by
  cases htarget : Binding.target options url method with
  | error e => exact ⟨e, fun key => outlineOf_of_error htarget⟩
  | ok t =>
      refine ⟨err, fun key => ?_⟩
      rw [outlineOf_of_ok htarget, h]
      rfl

theorem agrees_of_comesThrough {cs : List Contract} (h : ComesThrough registry transport cs) :
    Agrees registry transport (cs.map entryOf) := by
  intro options
  cases cs with
  | nil => rfl
  | cons c cs =>
      have hname : outlineOf registry transport.halves = outlineOf registry transport := by
        have hsame := h.name.resolve_left (List.cons_ne_nil c cs)
        funext options e
        rw [outlineOf, outlineOf, hsame]
      rw [hname]
      cases hlinked : linked registry transport with
      | ok =>
          have hentries : ((c :: cs).map entryOf).map Entry.halves = (c :: cs).map entryOf := by
            rw [List.map_map]
            refine List.map_congr_left fun d hd => ?_
            obtain ⟨hid, hurl, hmethod⟩ := h.contracts hlinked d hd
            exact halves_eq_self hid hurl hmethod
          rw [hentries]
      | error err =>
          -- the first contract ends the list
          obtain ⟨hurl, hmethod⟩ := h.first c rfl
          obtain ⟨err, herr⟩ := exists_error_of_linked hlinked options c.url c.method
          have hhalves : (entryOf c).halves = ⟨c.id.halves, c.url, c.method⟩ := by
            rw [Entry.halves, entryOf, halves_of_isBasic hurl, halves_of_isBasic hmethod]
          rw [List.map_cons, List.map_cons, hhalves, mapM_cons_of_error (herr _)]
          exact (mapM_cons_of_error (herr c.id)).symm

/-- Entries that are all bound to nothing show the transport and their keys. -/
theorem mapM_outlineOf {es : List Entry} (hne : es ≠ [])
    (h : ∀ e ∈ es, Binding.target options e.url e.method = .ok ([], [])) :
    es.mapM (outlineOf registry transport options) =
      (linked registry transport).map fun _ => es.map fun e => (e.key, ([], [])) := by
  cases hlinked : linked registry transport with
  | ok => exact mapM_of_forall_ok fun e he => by rw [outlineOf_of_ok (h e he), hlinked]; rfl
  | error err =>
      obtain ⟨e, es, rfl⟩ := List.exists_cons_of_ne_nil hne
      refine mapM_cons_of_error ?_
      rw [outlineOf_of_ok (h e List.mem_cons_self), hlinked]
      rfl

/-- A URL and a method one of which quoting breaks are refused only as long as they are whole. -/
theorem target_refusing_halves {url method : Text}
    (h : ¬ (url.isBasic = true ∧ method.isBasic = true)) (e : Entry) :
    Binding.target (Binding.refusing url method) e.halves.url e.halves.method = .ok ([], []) := by
  refine Binding.target_refusing_of_ne ?_
  rintro ⟨rfl, rfl⟩
  exact h ⟨isBasic_halves e.url, isBasic_halves e.method⟩

/-- With options that accept everything, the transport and the keys are all that is seen. -/
theorem accepted_of_agrees {es : List Entry} (hne : es ≠ []) (h : Agrees registry transport es) :
    (linked registry transport.halves).map
        (fun _ => (es.map Entry.halves).map fun e => (e.key, (([], []) : Text × Text))) =
      (linked registry transport).map fun _ => es.map fun e => (e.key, ([], [])) := by
  have hagree := h Binding.accepting
  rwa [mapM_outlineOf (by simpa using hne) fun e _ => Binding.target_accepting e.url e.method,
    mapM_outlineOf hne fun e _ => Binding.target_accepting e.url e.method] at hagree

theorem linked_of_agrees {es : List Entry} (hne : es ≠ []) (h : Agrees registry transport es) :
    linked registry transport.halves = linked registry transport := by
  have haccepted := accepted_of_agrees hne h
  cases hquoted : linked registry transport.halves with
  | error e =>
      cases hdirect : linked registry transport with
      | error e' =>
          rw [hquoted, hdirect] at haccepted
          exact congrArg Except.error (Except.error.inj haccepted)
      | ok =>
          rw [hquoted, hdirect] at haccepted
          cases haccepted
  | ok =>
      cases hdirect : linked registry transport with
      | error e =>
          rw [hquoted, hdirect] at haccepted
          cases haccepted
      | ok => rfl

/-- What an address is refused for shows in the outcome unless the address comes through. -/
theorem address_of_agrees {es : List Entry} (h : Agrees registry transport es) {e : Entry}
    (he : e ∈ es)
    (hrefused : es.mapM (outlineOf registry transport (Binding.refusing e.url e.method)) ≠
      (linked registry transport).map fun _ => (es.map Entry.halves).map fun e => (e.key, ([], []))) :
    e.url.isBasic = true ∧ e.method.isBasic = true := by
  by_contra hbroken
  have hne : es ≠ [] := List.ne_nil_of_mem he
  refine hrefused ((h (Binding.refusing e.url e.method)).symm.trans ?_)
  rw [← linked_of_agrees hne h]
  refine mapM_outlineOf (by simpa using hne) fun e' he' => ?_
  obtain ⟨e', -, rfl⟩ := List.mem_map.mp he'
  exact target_refusing_halves hbroken e'

/-- Where a transport can be built, all texts must come through. -/
theorem isBasic_of_agrees {es : List Entry} (h : Agrees registry transport es)
    (hlinked : linked registry transport = .ok ()) : ∀ e ∈ es,
    e.key.isBasic = true ∧ e.url.isBasic = true ∧ e.method.isBasic = true := by
  intro e he
  have hkeys : (es.map Entry.halves).map (fun e => (e.key, (([], []) : Text × Text))) =
      es.map fun e => (e.key, ([], [])) := by
    have hne : es ≠ [] := List.ne_nil_of_mem he
    have haccepted := accepted_of_agrees hne h
    rw [linked_of_agrees hne h, hlinked] at haccepted
    exact Except.ok.inj haccepted
  rw [List.map_map, List.map_inj_left] at hkeys
  refine ⟨halves_eq_self_iff.mp (Prod.mk.inj (hkeys e he)).1, address_of_agrees h he ?_⟩
  -- the entry itself is refused, so that not all entries can be bound
  intro hall
  rw [hlinked] at hall
  obtain ⟨o, ho⟩ := exists_ok_of_mapM hall e he
  rw [outlineOf_of_error (Binding.target_refusing_self e.url e.method)] at ho
  cases ho

/-- In any case, the address of the first contract must. -/
theorem isBasic_head_of_agrees {e : Entry} {es : List Entry}
    (h : Agrees registry transport (e :: es)) : e.url.isBasic = true ∧ e.method.isBasic = true := by
  refine address_of_agrees h List.mem_cons_self ?_
  rw [mapM_cons_of_error (outlineOf_of_error (Binding.target_refusing_self e.url e.method))]
  cases hlinked : linked registry transport with
  | ok => rintro ⟨⟩
  | error err =>
      obtain ⟨cause, rfl⟩ := exists_of_linked_eq_error hlinked
      rintro ⟨⟩

theorem comesThrough_iff {cs : List Contract} :
    Agrees registry transport (cs.map entryOf) ↔ ComesThrough registry transport cs := by
  refine ⟨fun h => ⟨?_, ?_, ?_⟩, agrees_of_comesThrough⟩
  · cases cs with
    | nil => exact Or.inl rfl
    | cons c cs => exact Or.inr (linked_of_agrees (List.cons_ne_nil _ _) h)
  · cases cs with
    | nil => rintro _ ⟨⟩
    | cons c cs =>
        rintro _ ⟨⟩
        exact isBasic_head_of_agrees h
  · exact fun hlinked c hc => isBasic_of_agrees h hlinked (entryOf c) (List.mem_map_of_mem hc)

end GeneratedModule

end CallBindings
