import CallBindings.Dispatch.Binding
import CallBindings.Proofs.FirstFault
import CallBindings.Proofs.LastWins
import CallBindings.Transport.Exchange

set_option autoImplicit false

/-! # What the libraries are handed

A binding lays the options of a call over its own, and a transport lays those over the options it
was built with. What is left of the upper two layers stands for them, so for each option the last of
the three layers counts. Both transports come to the same options in the same order, and hand them
over with the same parts of the request. Whether a library takes them is up to the library: options
that are no parts of a request arrive exactly if all their names are among those it takes.
-/

namespace CallBindings

open Text

/-- The options for a call, the lowest layer first: those that the transport was built with, those of
the binding, and those of the call. -/
def optionLayers (fixed : List (Text × Json)) (b : Binding) (overrides : CallOverrides) :
    List (Text × Json) :=
  fixed ++ b.options.transportOptions ++ overrides.transportOptions

/-- What a library is to be handed for a request of a binding. -/
structure Binding.Carries (b : Binding) (overrides : CallOverrides) (fixed : List (Text × Json))
    (request : Request) (h : Handover) : Prop where
  method : h.method = request.method
  url : h.url = request.url
  headers : h.headers = request.headers
  content : h.content = request.content
  /-- The timeout is that of the call, or that of the binding if the call has none. -/
  timeout : h.timeout = if overrides.timeout.isNull then b.options.timeout else overrides.timeout
  /-- Each option is there once, where it comes first in the layers and as it comes last. -/
  options : LastWins Prod.fst (optionLayers fixed b overrides) h.options

namespace BuiltinTransport

variable {t : BuiltinTransport} {library : HttpLibrary} {fixed : List (Text × Json)} {b : Binding}
  {body : Body} {overrides : CallOverrides} {request : Request} {h : Handover}

/-! ## One transport -/

/-- What a library is handed if nothing is in the way. -/
def laidOver (fixed : List (Text × Json)) (r : Request) : Handover :=
  ⟨r.timeout, assignAll fixed r.options, r.method, r.url, r.headers, r.content⟩

/-- No option is in the way of what the transport passes by itself. -/
theorem find?_passed (hfree : ∀ o ∈ assignAll fixed request.options, o.1 ∉ t.passed) :
    (assignAll fixed request.options).find? (fun o => t.passed.contains o.1) = none := by
  rw [List.find?_eq_none]
  intro o ho
  simpa using hfree o ho

/-- Options that the transport does not pass by itself are handed over if the library takes them. -/
theorem handover_of_takes (hfree : ∀ o ∈ assignAll fixed request.options, o.1 ∉ t.passed)
    (htakes : ∀ o ∈ assignAll fixed request.options, library.takes o.1 = true) :
    t.handover library fixed request = .ok (laidOver fixed request) := by
  have hunknown : (assignAll fixed request.options).find? (fun o => !library.takes o.1) = none := by
    rw [List.find?_eq_none]
    intro o ho
    simpa using htakes o ho
  simp only [handover, find?_passed hfree, hunknown, laidOver]

/-- Of other options the first that the library does not take is refused, and nothing is handed
over. -/
theorem handover_of_not_takes (hfree : ∀ o ∈ assignAll fixed request.options, o.1 ∉ t.passed)
    {o : Text × Json} (ho : o ∈ assignAll fixed request.options)
    (hunknown : library.takes o.1 = false) : ∃ refused ∈ assignAll fixed request.options,
      library.takes refused.1 = false ∧
        t.handover library fixed request = .error (.unknownOption refused.1) := by
  cases hfind : (assignAll fixed request.options).find? (fun o => !library.takes o.1) with
  | none =>
      have hnone := List.find?_eq_none.mp hfind o ho
      simp [hunknown] at hnone
  | some first =>
      refine ⟨first, List.mem_of_find?_eq_some hfind, ?_, ?_⟩
      · simpa using List.find?_some hfind
      · simp only [handover, find?_passed hfree, hfind]

/-- A transport returns what the library replies. -/
theorem send_of_handover (hhandover : t.handover library fixed request = .ok h) {reply : Reply}
    (hreply : library.exchange h = .ok reply) :
    t.send library fixed request = (some h, .ok reply, [t.record request]) := by
  simp only [send, hhandover, hreply]

/-! ## Requests of bindings -/

theorem parts_of_prepare (hprepare : b.prepare body overrides = .ok request) :
    request.timeout = (if overrides.timeout.isNull then b.options.timeout else overrides.timeout) ∧
      request.options = assignAll b.options.transportOptions overrides.transportOptions := by
  unfold Binding.prepare at hprepare
  dsimp only at hprepare
  -- the URL and the payload depend on the method; the rest of the request does not
  split at hprepare
  all_goals
    obtain ⟨⟨url, content⟩, -, hrequest⟩ := bind_eq_ok.mp hprepare
    cases hrequest
    exact ⟨rfl, rfl⟩

/-- **The options of the three layers do not depend on where they are merged.** -/
theorem lastWins_options (hprepare : b.prepare body overrides = .ok request)
    (hfixed : (fixed.map Prod.fst).Nodup) (hown : (b.options.transportOptions.map Prod.fst).Nodup) :
    LastWins Prod.fst (optionLayers fixed b overrides) (assignAll fixed request.options) := by
  rw [(parts_of_prepare hprepare).2, optionLayers, List.append_assoc]
  exact (LastWins.self hfixed).append (lastWins_assignAll hown _) (lastWins_assignAll hfixed _)

theorem carries_laidOver (hprepare : b.prepare body overrides = .ok request)
    (hfixed : (fixed.map Prod.fst).Nodup) (hown : (b.options.transportOptions.map Prod.fst).Nodup) :
    b.Carries overrides fixed request (laidOver fixed request) where
  method := rfl
  url := rfl
  headers := rfl
  content := rfl
  timeout := (parts_of_prepare hprepare).1
  options := lastWins_options hprepare hfixed hown

/-! ## Both transports -/

/-- The names by which the transports hand over the parts of a request. -/
def partNames : List Text := ["timeout", "method", "url", "headers", "content", "data"]

theorem passed_subset_partNames (t : BuiltinTransport) : t.passed ⊆ partNames := by
  cases t <;> decide

/-- **Both transports hand over the same**, for a request that a binding has prepared and options
that have no names of parts of it: what the binding and the call say, with the options of all three
layers, exactly if the library of the transport takes an option of each of their names. Otherwise
one of these names is refused, and nothing is handed over. What the library replies to what it was
handed is what the transport returns. -/
theorem handover_agree_iff (hprepare : b.prepare body overrides = .ok request)
    (hfixed : (fixed.map Prod.fst).Nodup) (hown : (b.options.transportOptions.map Prod.fst).Nodup)
    (hnames : ∀ o ∈ optionLayers fixed b overrides, o.1 ∉ partNames) :
    ∃ h, b.Carries overrides fixed request h ∧
      ∀ (t : BuiltinTransport) (library : HttpLibrary),
        (t.handover library fixed request = .ok h ↔
          ∀ o ∈ optionLayers fixed b overrides, library.takes o.1 = true) ∧
        (∀ e, t.handover library fixed request = .error e →
          ∃ o ∈ optionLayers fixed b overrides, library.takes o.1 = false ∧
            e = .unknownOption o.1 ∧ (t.send library fixed request).1 = none) ∧
        (t.handover library fixed request = .ok h → ∀ reply, library.exchange h = .ok reply →
          (t.send library fixed request).2.1 = .ok reply) := by
  have hcarries := carries_laidOver hprepare hfixed hown
  -- the names of the options that are left are those of the layers
  have hkeys : ∀ P : Text → Prop, (∀ o ∈ assignAll fixed request.options, P o.1) ↔
      ∀ o ∈ optionLayers fixed b overrides, P o.1 := fun _ => hcarries.options.forall_key_iff
  have hpassed : ∀ t : BuiltinTransport, ∀ o ∈ assignAll fixed request.options, o.1 ∉ t.passed :=
    fun t => (hkeys (· ∉ t.passed)).mpr fun o ho hmem => hnames o ho (passed_subset_partNames t hmem)
  refine ⟨laidOver fixed request, hcarries, fun t library => ?_⟩
  have htakes_iff := hkeys (library.takes · = true)
  by_cases htakes : ∀ o ∈ optionLayers fixed b overrides, library.takes o.1 = true
  · have hok : t.handover library fixed request = .ok (laidOver fixed request) :=
      handover_of_takes (hpassed t) (htakes_iff.mpr htakes)
    refine ⟨iff_of_true hok htakes, fun e he => ?_, fun _ reply hreply => ?_⟩
    · rw [hok] at he
      cases he
    · rw [send_of_handover hok hreply]
  · obtain ⟨o, ho, hunknown⟩ : ∃ o ∈ assignAll fixed request.options,
        library.takes o.1 = false := by
      by_contra hall
      exact htakes (htakes_iff.mp fun o ho => by simpa using fun h => hall ⟨o, ho, h⟩)
    obtain ⟨refused, hrefused, hname, herror⟩ := handover_of_not_takes (hpassed t) ho hunknown
    refine ⟨iff_of_false (fun hok => ?_) htakes, fun e he => ?_, fun hok => ?_⟩
    · rw [herror] at hok
      cases hok
    · obtain ⟨o', ho', heq⟩ := List.mem_map.mp
        (hcarries.options.mem_keys_iff.mp (List.mem_map_of_mem hrefused))
      rw [herror] at he
      cases he
      exact ⟨o', ho', heq ▸ hname, by rw [heq], by simp only [send, herror]⟩
    · rw [herror] at hok
      cases hok

/-- Options of a transport that are partly replaced by a binding and by a call. -/
def verifying : List (Text × Json) := [("verify", .bool true), ("cert", .str "/own.pem")]

/-- A binding with options for its transport. -/
def posting : Binding :=
  ⟨"/s", "POST", { transportOptions := [("cookies", .obj []), ("verify", .bool false)] }, "stub"⟩

/-- A call that replaces an option and sets another. -/
def authorized : CallOverrides :=
  { timeout := .int 3, transportOptions := [("verify", .str "/ca.pem"), ("auth", .null)] }

/-- A library that takes options of the given names and answers everything with status 204. -/
def taking (names : List Text) : HttpLibrary :=
  ⟨names.contains, fun _ => .ok ⟨204, [], []⟩⟩

theorem handover_agree_iff_authorized :
    ∃ request, posting.prepare (.json .null) authorized = .ok request ∧
      (verifying.map Prod.fst).Nodup ∧ (posting.options.transportOptions.map Prod.fst).Nodup ∧
      (∀ o ∈ optionLayers verifying posting authorized, o.1 ∉ partNames) ∧
      ∃ h, posting.Carries authorized verifying request h ∧
        h.options.map Prod.fst = [ofString "verify", "cert", "cookies", "auth"] ∧
        ∀ t : BuiltinTransport,
          t.handover (taking ["verify", "cert", "cookies", "auth"]) verifying request = .ok h ∧
          (t.send (taking ["verify", "cert", "cookies", "auth"]) verifying request).2.1 =
            .ok ⟨204, [], []⟩ := by
  have hfixed : (verifying.map Prod.fst).Nodup := by decide
  have hown : (posting.options.transportOptions.map Prod.fst).Nodup := by decide
  have hnames : ∀ o ∈ optionLayers verifying posting authorized, o.1 ∉ partNames := by
    have hkeys : ∀ k ∈ (optionLayers verifying posting authorized).map Prod.fst,
        k ∉ partNames := by decide
    exact fun o ho => hkeys o.1 (List.mem_map_of_mem ho)
  have htakes : ∀ o ∈ optionLayers verifying posting authorized,
      (taking ["verify", "cert", "cookies", "auth"]).takes o.1 = true := by
    have hkeys : ∀ k ∈ (optionLayers verifying posting authorized).map Prod.fst,
        (taking ["verify", "cert", "cookies", "auth"]).takes k = true := by decide
    exact fun o ho => hkeys o.1 (List.mem_map_of_mem ho)
  obtain ⟨request, hprepare⟩ : ∃ request, posting.prepare (.json .null) authorized = .ok request :=
    ⟨_, rfl⟩
  obtain ⟨h, hcarries, hagree⟩ := handover_agree_iff hprepare hfixed hown hnames
  refine ⟨request, hprepare, hfixed, hown, hnames, h, hcarries, ?_, fun t => ?_⟩
  · rw [hcarries.options.keys]
    decide
  · obtain ⟨hiff, -, hreplies⟩ := hagree t (taking ["verify", "cert", "cookies", "auth"])
    exact ⟨hiff.mpr htakes, hreplies (hiff.mpr htakes) _ rfl⟩

/-- The name by which a client refers to itself while it is opened. -/
def selfName : Text := "self"

/-- The name of an option that only one of the libraries takes. -/
def redirectsName : Text := "allow_redirects"

/-- **Options that have no names of parts are not always handed over.** No client takes one named as
it calls itself, and where the libraries take different options, one transport hands over a request
and the other nothing. -/
theorem handover_refused :
    (∀ name ∈ [selfName, redirectsName],
      ∀ o ∈ optionLayers [(name, .null)] posting {}, o.1 ∉ partNames) ∧
    ∃ request, posting.prepare (.json .null) {} = .ok request ∧
      (∀ name ∈ [selfName, redirectsName],
        httpx.handover (taking ["cookies", "verify"]) [(name, .null)] request =
          .error (.unknownOption name)) ∧
      ∃ h, requests.handover (taking ["cookies", "verify", redirectsName]) [(redirectsName, .null)]
        request = .ok h := by
  have hkeys : ∀ name ∈ [selfName, redirectsName],
      ∀ k ∈ (optionLayers [(name, .null)] posting {}).map Prod.fst, k ∉ partNames := by decide
  refine ⟨fun name hname o ho => hkeys name hname o.1 (List.mem_map_of_mem ho), _, rfl, ?_, _, rfl⟩
  intro name hname
  rcases List.mem_pair.mp hname with rfl | rfl <;> rfl

end BuiltinTransport

end CallBindings
