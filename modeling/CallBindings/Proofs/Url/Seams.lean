import CallBindings.Dispatch.Binding
import CallBindings.Proofs.Url.Resolution

set_option autoImplicit false

/-! # Where values meet their surroundings

A resolved URL is laid out from stretches of text: what stands between two placeholders of the
template, and the same of every value put in, in the place of its placeholder. None of them holds
a placeholder, as each was scanned for them. What was not scanned are the seams between them,
since scanning goes on behind a value: a dollar sign at the end of one stretch and a name in braces
at the beginning of the next are a placeholder of the resolved URL that no one has looked up.

So a resolved URL holds a placeholder exactly if one lies across a seam, and only then can it
matter that it is resolved again.
-/

namespace CallBindings.Template

variable {values : List (Text × Json)} {t u : Text} {cs : List Text}

/-! ## The stretches of a resolved text -/

/-- The stretches of text that a template is resolved to, from left to right. -/
inductive Stretches (values : List (Text × Json)) : Text → List Text → Prop
  | plain {t : Text} : names t = [] → Stretches values t [t]
  | placeholder {a name b v : Text} {vs bs : List Text} : names a = [] → IsName name →
      valueText values name = .ok v → Stretches values v vs → Stretches values b bs →
      Stretches values (a ++ Template.placeholder name ++ b) (a :: (vs ++ bs))

/-- What a text stands for are its stretches, one behind the other. -/
theorem Stretches.expands (h : Stretches values t cs) : Expands values t cs.flatten := by
  induction h with
  | plain ht => simpa using Expands.plain ht
  | placeholder ha hname htext _ _ ihvalue ihrest =>
      simpa using Expands.placeholder ha hname htext ihvalue ihrest

theorem Expands.exists_stretches (h : Expands values t u) : ∃ cs, Stretches values t cs := by
  induction h with
  | plain ht => exact ⟨_, .plain ht⟩
  | placeholder ha hname htext _ _ ihvalue ihrest =>
      obtain ⟨vs, hvs⟩ := ihvalue
      obtain ⟨bs, hbs⟩ := ihrest
      exact ⟨_, .placeholder ha hname htext hvs hbs⟩

/-- Every stretch was scanned: it holds no placeholder. -/
theorem Stretches.names_eq_nil (h : Stretches values t cs) : ∀ c ∈ cs, names c = [] := by
  induction h with
  | plain ht =>
      intro c hc
      rwa [List.mem_singleton.mp hc]
  | placeholder ha _ _ _ _ ihvalue ihrest =>
      intro c hc
      rcases List.mem_cons.mp hc with rfl | hc
      · exact ha
      · exact (List.mem_append.mp hc).elim (ihvalue c) (ihrest c)

/-! ## Seams -/

/-- A placeholder lies across a seam between two of the stretches: it begins in front of the seam
and ends behind it. -/
def SeamHolds (cs : List Text) (name : Text) : Prop :=
  ∃ (front back : List Text) (p q : Text), cs = front ++ back ∧ p ≠ [] ∧ q ≠ [] ∧
    placeholder name = p ++ q ∧ p <:+ front.flatten ∧ q <+: back.flatten

theorem mem_names_iff_within {name : Text} :
    name ∈ names t ↔ IsName name ∧ placeholder name <:+: t := by
  rw [mem_names_iff]
  exact and_congr_right fun _ => ⟨fun ⟨a, b, h⟩ => ⟨a, b, h.symm⟩, fun ⟨a, b, h⟩ => ⟨a, b, h.symm⟩⟩

theorem SeamHolds.cons {name : Text} (c : Text) (h : SeamHolds cs name) :
    SeamHolds (c :: cs) name := by
  obtain ⟨front, back, p, q, rfl, hp, hq, hname, hfront, hback⟩ := h
  refine ⟨c :: front, back, p, q, rfl, hp, hq, hname, ?_, hback⟩
  rw [List.flatten_cons]
  exact hfront.trans (List.suffix_append _ _)

/-- **Stretches without placeholders make a placeholder only across a seam.** -/
theorem mem_names_flatten_iff {name : Text} (hcs : ∀ c ∈ cs, names c = []) :
    name ∈ names cs.flatten ↔ IsName name ∧ SeamHolds cs name := by
  constructor
  · intro h
    refine ⟨(mem_names_iff_within.mp h).1, ?_⟩
    -- the placeholder is in the first stretch, behind it, or across the first seam
    induction cs with
    | nil => cases h
    | cons c cs ih =>
        obtain ⟨hname, hinfix⟩ := mem_names_iff_within.mp h
        rw [List.flatten_cons] at hinfix
        rcases List.infix_append_iff_ne_nil.mp hinfix with
          hc | hlater | ⟨p, q, hp, hq, hpq, hpc, hqcs⟩
        · have hmem : name ∈ names c := mem_names_iff_within.mpr ⟨hname, hc⟩
          rw [hcs c List.mem_cons_self] at hmem
          cases hmem
        · have hmem : name ∈ names cs.flatten := mem_names_iff_within.mpr ⟨hname, hlater⟩
          exact (ih (fun d hd => hcs d (List.mem_cons_of_mem c hd)) hmem).cons c
        · exact ⟨[c], cs, p, q, rfl, hp, hq, hpq, by simpa using hpc, hqcs⟩
  · rintro ⟨hname, front, back, p, q, rfl, -, -, hpq, hfront, hback⟩
    rw [mem_names_iff_within, hpq, List.flatten_append]
    exact ⟨hname, List.infix_append_iff.mpr (Or.inr (Or.inr ⟨p, q, rfl, hfront, hback⟩))⟩

/-! ## Resolving again -/

/-- A text comes through every resolving as it is exactly if it holds no placeholder. -/
theorem forall_resolve_eq_ok_self_iff : (∀ values', resolve values' t = .ok t) ↔ names t = [] := by
  constructor
  · -- without variables no placeholder has a value
    intro h
    have hexpands : Expands [] t t := expands_of_expand (h [])
    rw [List.eq_nil_iff_forall_not_mem]
    intro name hname
    obtain ⟨v, hv⟩ := (hexpands.grounded name hname).exists_valueText
    cases hv
  · intro h values'
    rw [resolve, resolveWithin, depthLimit, expand_succ, fill_pieces_of_names_eq_nil h]

/-- What is known of a text that a template is resolved to, by its stretches. -/
structure LaidOut (values : List (Text × Json)) (t u : Text) : Prop where
  exists_stretches : ∃ cs, Stretches values t cs
  /-- No stretch holds a placeholder. -/
  clear {cs : List Text} : Stretches values t cs → ∀ c ∈ cs, names c = []
  /-- It is its stretches, one behind the other. -/
  text {cs : List Text} : Stretches values t cs → u = cs.flatten
  /-- It holds the placeholders that lie across a seam and no others. -/
  mem_names {cs : List Text} : Stretches values t cs →
    ∀ name, name ∈ names u ↔ IsName name ∧ SeamHolds cs name
  /-- Resolving it again changes nothing, whatever the variables, exactly if there is none. -/
  again {cs : List Text} : Stretches values t cs →
    ((∀ values', resolve values' u = .ok u) ↔ ¬ ∃ name, IsName name ∧ SeamHolds cs name)

theorem laidOut_of_resolve (h : resolve values t = .ok u) : LaidOut values t u := by
  have hexpands : Expands values t u := expands_of_expand h
  have htext : ∀ {cs}, Stretches values t cs → u = cs.flatten :=
    fun hcs => hcs.expands.eq_of_expand h
  have hnames : ∀ {cs}, Stretches values t cs →
      ∀ name, name ∈ names u ↔ IsName name ∧ SeamHolds cs name := by
    intro cs hcs name
    rw [htext hcs, mem_names_flatten_iff hcs.names_eq_nil]
  refine ⟨hexpands.exists_stretches, Stretches.names_eq_nil, htext, hnames, fun hcs => ?_⟩
  rw [forall_resolve_eq_ok_self_iff, List.eq_nil_iff_forall_not_mem, not_exists]
  exact forall_congr' fun name => not_congr (hnames hcs name)

/-- The URL of a binding is what its template is resolved to, behind the overrider. -/
theorem exists_resolve_of_onTransport {template method : Text} {options : DispatchOptions}
    {transport : Except BindError Text} {b : Binding}
    (h : Binding.onTransport template method options transport = .ok b) :
    ∃ url m, Binding.override options template method = .ok (url, m) ∧
      resolve options.values url = .ok b.url := by
  rw [Binding.onTransport] at h
  obtain ⟨⟨url, m⟩, htarget, hrest⟩ := bind_eq_ok.mp h
  refine ⟨url, m, htarget, ?_⟩
  cases hresolve : resolve options.values url with
  | error e => simp [hresolve] at hrest
  | ok u =>
      simp only [hresolve] at hrest
      obtain ⟨label, -, hb⟩ := bind_eq_ok.mp hrest
      rw [← Except.ok.inj hb]

/-- **A resolved URL holds a placeholder exactly if one lies across a seam.** The stretches that
the URL is laid out from hold none, so that without one across a seam it comes through every
resolving as it is; with one it does not. The same holds of the URL of every binding. -/
theorem resolved_laidOut :
    (∀ (values : List (Text × Json)) (t u : Text), resolve values t = .ok u →
      LaidOut values t u) ∧
    ∀ (template method : Text) (options : DispatchOptions) (transport : Except BindError Text)
      (b : Binding), Binding.onTransport template method options transport = .ok b →
        ∃ url m, Binding.override options template method = .ok (url, m) ∧
          LaidOut options.values url b.url := by
  refine ⟨fun _ _ _ => laidOut_of_resolve, fun template method options transport b h => ?_⟩
  obtain ⟨url, m, hoverride, hresolve⟩ := exists_resolve_of_onTransport h
  exact ⟨url, m, hoverride, laidOut_of_resolve hresolve⟩

/-- A placeholder with a name in braces behind it. -/
def dollarTemplate : Text := "/$\x7ba\x7d\x7bb\x7d"

/-- Options with two variables, one of which puts a dollar sign in front of the braces. -/
def dollarOptions : DispatchOptions where
  values := [("a", .str "$"), ("b", .str "x")]

theorem resolved_laidOut_dollar :
    Stretches dollarOptions.values dollarTemplate ["/", "$", "\x7bb\x7d"] ∧
    SeamHolds ["/", "$", "\x7bb\x7d"] "b" ∧
    ∃ b : Binding, Binding.onTransport dollarTemplate "GET" dollarOptions (.ok "stub") = .ok b ∧
      ∃ m, Binding.override dollarOptions dollarTemplate "GET" = .ok (dollarTemplate, m) ∧
        LaidOut dollarOptions.values dollarTemplate b.url := by
  have hstretches : Stretches dollarOptions.values
      ("/" ++ placeholder "a" ++ "\x7bb\x7d") ("/" :: (["$"] ++ ["\x7bb\x7d"])) :=
    .placeholder (by decide +kernel) ⟨by decide, by decide +kernel⟩ rfl
      (.plain (by decide +kernel)) (.plain (by decide +kernel))
  have hresolve : resolve dollarOptions.values dollarTemplate = .ok "/$\x7bb\x7d" := by
    decide +kernel
  have hnames := (resolved_laidOut.1 _ _ _ hresolve).mem_names hstretches "b"
  have hbind : Binding.onTransport dollarTemplate "GET" dollarOptions (.ok "stub")
      = .ok ⟨"/$\x7bb\x7d", "GET", dollarOptions, "stub"⟩ := by
    have hupper : Text.upper "GET" = "GET" := by decide +kernel
    have hoverride : Binding.override dollarOptions dollarTemplate "GET"
        = .ok (dollarTemplate, "GET") := rfl
    simp [Binding.onTransport, hoverride, hresolve, hupper, Bind.bind, Except.bind]
  refine ⟨hstretches, (hnames.mp (by decide +kernel)).2, _, hbind, ?_⟩
  obtain ⟨url, m, hoverride, hurl⟩ := resolved_laidOut.2 _ _ _ _ _ hbind
  cases hoverride
  exact ⟨_, rfl, hurl⟩

/-- A dollar sign in front of a name in braces is left as a placeholder of the URL, also of the
URL of a binding, and resolving the URL again replaces it. -/
theorem resolve_dollar :
    resolve dollarOptions.values dollarTemplate = .ok "/$\x7bb\x7d" ∧
    names "/$\x7bb\x7d" = ["b"] ∧
    resolve dollarOptions.values "/$\x7bb\x7d" = .ok "/x" ∧
    (Binding.onTransport dollarTemplate "GET" dollarOptions (.ok "stub")).toOption.map Binding.url
      = some "/$\x7bb\x7d" := by
  decide +kernel

end CallBindings.Template
