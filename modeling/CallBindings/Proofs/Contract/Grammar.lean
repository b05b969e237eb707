import CallBindings.Contract.Descriptor
import CallBindings.Proofs.Shape.Offences

set_option autoImplicit false

/-! # The grammar of contract descriptors

Which contract a JSON value describes, as a relation that says nothing of the order in which the
value is looked through, and the way through a value in that order, with everything that can be
wrong about it. Reading a contract accepts exactly the grammar, and its error is that of the first
offence on the way. Offences inside the body of a request or a response are those of shapes.
-/

namespace CallBindings

namespace Shape.Offence

/-- Whether an offence is a tag or a special kind that is not known. -/
def IsUnsupported : Offence → Prop
  | .tag _ => True
  | .kind _ => True
  | .structure _ => False

variable {source : Option Text} {o : Offence}

theorem error_of_isUnsupported (h : o.IsUnsupported) :
    ∃ tag, o.error source = .unsupportedVariant tag := by
  cases o with
  | tag found =>
      rcases found with _ | j
      · exact ⟨_, rfl⟩
      · cases j <;> exact ⟨_, rfl⟩
  | kind found => exact ⟨_, rfl⟩
  | «structure» fault => exact h.elim

theorem error_of_not_isUnsupported (h : ¬ o.IsUnsupported) :
    ∃ fault, o.error source = .invalidDescriptor fault source := by
  cases o with
  | tag found => exact absurd trivial h
  | kind found => exact absurd trivial h
  | «structure» fault => exact ⟨fault, rfl⟩

end Shape.Offence

namespace Contract

/-! ## What a value describes -/

/-- Whether an object has a text under a key, one that is not empty. -/
def HasText (members : List (Text × Json)) (part t : Text) : Prop :=
  lookup? part members = some (.str t) ∧ t ≠ []

/-- The response a JSON value describes. Codes are integers; truth values and floating point
numbers are none. -/
inductive DescribesResponse : Json → Response → Prop
  | intro {entry : List (Text × Json)} {code : ℤ} {j : Json} {s : Shape} :
      lookup? "code" entry = some (.int code) → lookup? "body" entry = some j →
      Shape.Describes j s → DescribesResponse (.obj entry) ⟨code, s⟩

/-- The contract a JSON value describes. -/
inductive Describes : Json → Contract → Prop
  | intro {members : List (Text × Json)} {id url method : Text} {j : Json} {request : Shape}
      {items : List Json} {responses : List Response} :
      HasText members "id" id → id.isIdentifier = true → id.isKeyword = false →
      HasText members "url" url → HasText members "method" method →
      lookup? "requestBody" members = some j → Shape.Describes j request →
      lookup? "responses" members = some (.arr items) →
      List.Forall₂ DescribesResponse items responses →
      responses.countP (·.code = successCode) ≤ 1 →
      Describes (.obj members) ⟨id, url, method.trim.upper, request, responses⟩

/-! ## What is read is what is described -/

section Reading

variable {source : Option Text} {members : List (Text × Json)}

theorem textPart_eq_ok {part t : Text} :
    textPart source part members = .ok t ↔ HasText members part t := by
  constructor
  · intro h
    unfold textPart at h
    split at h
    · next hpart =>
        cases h
        exact ⟨hpart, by simp⟩
    · cases h
  · rintro ⟨hpart, hne⟩
    cases t with
    | nil => exact absurd rfl hne
    | cons c t => rw [textPart, hpart]

theorem isContractId_iff {id : Text} :
    id.isContractId = true ↔ id.isIdentifier = true ∧ id.isKeyword = false := by
  simp [Text.isContractId]

theorem readId_eq_ok {id : Text} :
    readId source members = .ok id ↔
      HasText members "id" id ∧ id.isIdentifier = true ∧ id.isKeyword = false := by
  rw [readId, bind_eq_ok]
  constructor
  · rintro ⟨t, ht, h⟩
    split at h
    · next hok =>
        cases h
        exact ⟨textPart_eq_ok.mp ht, isContractId_iff.mp hok⟩
    · cases h
  · rintro ⟨htext, hok⟩
    exact ⟨id, textPart_eq_ok.mpr htext, by rw [if_pos (isContractId_iff.mpr hok)]⟩

theorem readRequest_eq_ok {id : Text} {s : Shape} :
    readRequest source id members = .ok s ↔
      ∃ j, lookup? "requestBody" members = some j ∧ Shape.Describes j s := by
  rw [readRequest]
  cases lookup? "requestBody" members with
  | none => simp
  | some j => simp [Shape.isReadRight j s]

theorem readResponse_eq_ok {id : Text} {index : ℕ} {j : Json} {r : Response} :
    readResponse source id index j = .ok r ↔ DescribesResponse j r := by
  constructor
  · intro h
    cases j with
    | obj entry =>
        rw [readResponse] at h
        split at h
        · next code hcode =>
            split at h
            · cases h
            · next body hbody =>
                obtain ⟨s, hs, rfl⟩ := map_eq_ok.mp h
                exact .intro hcode hbody ((Shape.isReadRight body s).mp hs)
        · cases h
    | _ => cases h
  · rintro ⟨hcode, hbody, hs⟩
    rw [readResponse, hcode]
    simp only [hbody]
    exact map_eq_ok.mpr ⟨_, (Shape.isReadRight _ _).mpr hs, rfl⟩

/-- By induction on the responses that are left; their places matter to errors only. -/
theorem readResponses_eq_ok {id : Text} {index : ℕ} {items : List Json} {rs : List Response} :
    readResponses source id index items = .ok rs ↔ List.Forall₂ DescribesResponse items rs := by
  induction items generalizing index rs with
  | nil => simp [readResponses, eq_comm, List.forall₂_nil_left_iff]
  | cons item items ih =>
      rw [readResponses, bind_eq_ok, List.forall₂_cons_left_iff]
      constructor
      · rintro ⟨r, hr, h⟩
        obtain ⟨more, hmore, h⟩ := bind_eq_ok.mp h
        cases h
        exact ⟨r, more, readResponse_eq_ok.mp hr, ih.mp hmore, rfl⟩
      · rintro ⟨r, more, hr, hmore, rfl⟩
        exact ⟨r, readResponse_eq_ok.mpr hr, bind_eq_ok.mpr ⟨more, ih.mpr hmore, rfl⟩⟩

theorem readResponseList_eq_ok {id : Text} {rs : List Response} :
    readResponseList source id members = .ok rs ↔
      ∃ items, lookup? "responses" members = some (.arr items) ∧
        List.Forall₂ DescribesResponse items rs := by
  rw [readResponseList]
  cases lookup? "responses" members with
  | none => simp
  | some j =>
      cases j with
      | arr items => simp [readResponses_eq_ok]
      | _ => simp

/-- **Reading a contract accepts exactly the grammar.** -/
theorem ofJson_eq_ok {j : Json} {c : Contract} :
    ofJson source j = .ok c ↔ Describes j c := by
  constructor
  · intro h
    cases j with
    | obj members =>
        obtain ⟨id, hid, h⟩ := bind_eq_ok.mp h
        obtain ⟨url, hurl, h⟩ := bind_eq_ok.mp h
        obtain ⟨method, hmethod, h⟩ := bind_eq_ok.mp h
        obtain ⟨request, hrequest, h⟩ := bind_eq_ok.mp h
        obtain ⟨responses, hresponses, h⟩ := bind_eq_ok.mp h
        split at h
        · cases h
        · next hcount =>
            cases h
            obtain ⟨hidText, hidentifier, hkeyword⟩ := readId_eq_ok.mp hid
            obtain ⟨body, hbody, hdescribes⟩ := readRequest_eq_ok.mp hrequest
            obtain ⟨items, hitems, hall⟩ := readResponseList_eq_ok.mp hresponses
            exact .intro hidText hidentifier hkeyword (textPart_eq_ok.mp hurl)
              (textPart_eq_ok.mp hmethod) hbody hdescribes hitems hall (Nat.le_of_not_lt hcount)
    | _ => cases h
  · rintro ⟨hidText, hidentifier, hkeyword, hurl, hmethod, hbody, hdescribes, hitems, hall, hcount⟩
    refine bind_eq_ok.mpr ⟨_, readId_eq_ok.mpr ⟨hidText, hidentifier, hkeyword⟩, ?_⟩
    refine bind_eq_ok.mpr ⟨_, textPart_eq_ok.mpr hurl, ?_⟩
    refine bind_eq_ok.mpr ⟨_, textPart_eq_ok.mpr hmethod, ?_⟩
    refine bind_eq_ok.mpr ⟨_, readRequest_eq_ok.mpr ⟨_, hbody, hdescribes⟩, ?_⟩
    refine bind_eq_ok.mpr ⟨_, readResponseList_eq_ok.mpr ⟨_, hitems, hall⟩, ?_⟩
    rw [if_neg (Nat.not_lt.mpr hcount)]

end Reading

/-! ## The way through a descriptor -/

/-- The way through a member that has to be a text that is not empty. -/
def textSteps (part : Text) : Option Json → List (Step Shape.Offence Json)
  | some (.str (_ :: _)) => []
  | _ => [.fault (.structure (.needsText part))]

/-- The text under the key of the id. -/
def idText (members : List (Text × Json)) : Text :=
  match lookup? "id" members with
  | some (.str id) => id
  | _ => []

/-- An id has to be an identifier and no keyword. -/
def idSteps (id : Text) : List (Step Shape.Offence Json) :=
  if id.isIdentifier = true ∧ id.isKeyword = false then []
  else [.fault (.structure (.badId id))]

/-- The way through a body, which leads into the descriptor of its shape. -/
def bodySteps (missing : DescriptorFault) : Option Json → List (Step Shape.Offence Json)
  | none => [.fault (.structure missing)]
  | some j => [.visit j]

/-- The way through the response at a place of the list. -/
def responseSteps (id : Text) (index : ℕ) : Json → List (Step Shape.Offence Json)
  | .obj entry =>
    match lookup? "code" entry with
    | some (.int code) => bodySteps (.responseWithoutBody code id) (lookup? "body" entry)
    | _ => [.fault (.structure (.responseWithoutCode index id))]
  | _ => [.fault (.structure (.responseNotObject index id))]

/-- The way through the responses from a place of the list on. -/
def responsesSteps (id : Text) (index : ℕ) : List Json → List (Step Shape.Offence Json)
  | [] => []
  | j :: rest => responseSteps id index j ++ responsesSteps id (index + 1) rest

/-- The way through the list of responses. -/
def listSteps (id : Text) : Option Json → List (Step Shape.Offence Json)
  | some (.arr items) => responsesSteps id 0 items
  | _ => [.fault (.structure (.missingResponses id))]

/-- The code of a response, if it has one. -/
def code? : Json → Option ℤ
  | .obj entry =>
    match lookup? "code" entry with
    | some (.int code) => some code
    | _ => none
  | _ => none

/-- At most one response may have the code of success. -/
def repeatedSteps (id : Text) : Option Json → List (Step Shape.Offence Json)
  | some (.arr items) =>
    if 1 < items.countP (code? · = some successCode) then
      [.fault (.structure (.repeatedSuccess id))]
    else []
  | _ => []

/-- The way through a value that should be a contract descriptor. -/
def steps : Json → List (Step Shape.Offence Json)
  | .obj members =>
    textSteps "id" (lookup? "id" members) ++ idSteps (idText members) ++
    textSteps "url" (lookup? "url" members) ++ textSteps "method" (lookup? "method" members) ++
    bodySteps (.missingRequest (idText members)) (lookup? "requestBody" members) ++
    listSteps (idText members) (lookup? "responses" members) ++
    repeatedSteps (idText members) (lookup? "responses" members)
  | j => [.fault (.structure (.contractNotObject j.kind))]

/-! ## One part at a time -/

section Parts

variable {source : Option Text} {members : List (Text × Json)}

/-- Whether a computation goes through some steps, with the errors of offences in descriptors from
`source`. -/
abbrev Follows {α : Type} (source : Option Text) (l : List (Step Shape.Offence Json))
    (r : Except GenerationError α) : Prop :=
  Reports Shape.steps (Shape.Offence.error source) l r

theorem follows_textPart (part : Text) :
    Follows source (textSteps part (lookup? part members)) (textPart source part members) := by
  unfold textPart
  cases lookup? part members with
  | none => exact reports_fault _
  | some j =>
      cases j with
      | str t =>
          cases t with
          | nil => exact reports_fault _
          | cons c t => exact faultless_nil
      | _ => exact reports_fault _

theorem idText_of_hasText {id : Text} (h : HasText members "id" id) : idText members = id := by
  have hid : lookup? (Text.ofString "id") members = some (.str id) := h.1
  rw [idText, hid]

theorem follows_readId :
    Follows source (textSteps "id" (lookup? "id" members) ++ idSteps (idText members))
      (readId source members) := by
  refine (follows_textPart "id").bind fun id hid => ?_
  rw [idText_of_hasText (textPart_eq_ok.mp hid), idSteps]
  by_cases hok : id.isIdentifier = true ∧ id.isKeyword = false
  · rw [if_pos hok, if_pos (isContractId_iff.mpr hok)]
    exact faultless_nil
  · rw [if_neg hok, if_neg (fun h => hok (isContractId_iff.mp h))]
    exact reports_fault _

theorem follows_body (missing : DescriptorFault) (found : Option Json) :
    Follows source (bodySteps missing found)
      (match found with
        | none => .error (.invalidDescriptor missing source)
        | some body => Shape.ofJson source body) := by
  cases found with
  | none => exact reports_fault _
  | some body => exact (Shape.isReadInSteps source body).visit

theorem follows_readRequest (id : Text) :
    Follows source (bodySteps (.missingRequest id) (lookup? "requestBody" members))
      (readRequest source id members) :=
  follows_body _ _

theorem follows_readResponse (id : Text) (index : ℕ) (j : Json) :
    Follows source (responseSteps id index j) (readResponse source id index j) := by
  cases j with
  | obj entry =>
      rw [readResponse, responseSteps]
      cases lookup? "code" entry with
      | none => exact reports_fault _
      | some j =>
          cases j with
          | int code =>
              cases lookup? "body" entry with
              | none => exact reports_fault _
              | some body =>
                  have hbody : Follows source (bodySteps (.responseWithoutBody code id) (some body))
                      (Shape.ofJson source body) := follows_body _ (some body)
                  exact hbody.map _
          | _ => exact reports_fault _
  | _ => exact reports_fault _

theorem follows_readResponses (id : Text) (index : ℕ) (items : List Json) :
    Follows source (responsesSteps id index items) (readResponses source id index items) := by
  induction items generalizing index with
  | nil => exact faultless_nil
  | cons item items ih =>
      rw [responsesSteps, readResponses]
      exact (follows_readResponse id index item).bind fun r _ => (ih (index + 1)).map (r :: ·)

theorem follows_readResponseList (id : Text) :
    Follows source (listSteps id (lookup? "responses" members))
      (readResponseList source id members) := by
  rw [readResponseList]
  cases lookup? "responses" members with
  | none => exact reports_fault _
  | some j =>
      cases j with
      | arr items => exact follows_readResponses id 0 items
      | _ => exact reports_fault _

theorem code?_of_describes {item : Json} {r : Response} (h : DescribesResponse item r) :
    code? item = some r.code := by
  cases h with
  | intro hcode _ _ => simp only [code?, hcode]

/-- The codes of the responses that are described are those in the list. -/
theorem countP_code_of_describes {items : List Json} {rs : List Response}
    (h : List.Forall₂ DescribesResponse items rs) :
    rs.countP (·.code = successCode) = items.countP (code? · = some successCode) := by
  induction h with
  | nil => rfl
  | cons hr _ ih =>
      rw [List.countP_cons, List.countP_cons, ih, code?_of_describes hr]
      simp

end Parts

/-! ## Whole descriptors -/

/-- **Reading a contract goes through a value step by step.** -/
theorem follows_ofJson (source : Option Text) (j : Json) :
    Follows source (steps j) (ofJson source j) := by
  cases j with
  | obj members =>
      rw [steps]
      simp only [List.append_assoc]
      rw [← List.append_assoc]
      refine follows_readId.bind fun id hid => ?_
      have htext := idText_of_hasText (readId_eq_ok.mp hid).1
      rw [htext]
      refine (follows_textPart "url").bind fun url _ => ?_
      refine (follows_textPart "method").bind fun method _ => ?_
      refine (follows_readRequest id).bind fun request _ => ?_
      refine (follows_readResponseList id).bind fun responses hresponses => ?_
      obtain ⟨items, hitems, hall⟩ := readResponseList_eq_ok.mp hresponses
      -- what is counted in the list is what is counted in the responses that were read
      have hlist : lookup? (Text.ofString "responses") members = some (.arr items) := hitems
      rw [hlist, repeatedSteps, ← countP_code_of_describes hall]
      by_cases hcount : 1 < responses.countP (·.code = successCode)
      · rw [if_pos hcount, if_pos hcount]
        exact reports_fault _
      · rw [if_neg hcount, if_neg hcount]
        exact faultless_nil
  | _ => exact reports_fault _

/-! ## Where offences of shapes are found -/

/-- The values under which a contract descriptor has descriptors of shapes: the body of the request
and those of the responses. -/
def bodyValues : Json → List Json
  | .obj members =>
    (lookup? "requestBody" members).toList ++
      match lookup? "responses" members with
      | some (.arr items) => items.filterMap (Json.get? "body")
      | _ => []
  | _ => []

/-- Steps that are faults of structure or lead into one of some bodies. -/
def Confined (bodies : List Json) (l : List (Step Shape.Offence Json)) : Prop :=
  ∀ x ∈ l, (∃ fault, x = .fault (.structure fault)) ∨ ∃ body ∈ bodies, x = .visit body

section Confined

variable {bodies : List Json}

theorem confined_nil : Confined bodies [] := by simp [Confined]

theorem confined_fault (fault : DescriptorFault) : Confined bodies [.fault (.structure fault)] := by
  simp [Confined]

theorem confined_append {l l' : List (Step Shape.Offence Json)} (h : Confined bodies l)
    (h' : Confined bodies l') : Confined bodies (l ++ l') :=
  List.forall_mem_append.mpr ⟨h, h'⟩

theorem confined_textSteps (part : Text) (found : Option Json) :
    Confined bodies (textSteps part found) := by
  unfold textSteps
  split
  · exact confined_nil
  · exact confined_fault _

theorem confined_idSteps (id : Text) : Confined bodies (idSteps id) := by
  unfold idSteps
  split
  · exact confined_nil
  · exact confined_fault _

theorem confined_bodySteps {missing : DescriptorFault} {found : Option Json}
    (h : ∀ j, found = some j → j ∈ bodies) : Confined bodies (bodySteps missing found) := by
  cases found with
  | none => exact confined_fault _
  | some j => simpa [Confined, bodySteps] using h j rfl

theorem confined_responseSteps {id : Text} {index : ℕ} {j : Json}
    (h : ∀ body, j.get? "body" = some body → body ∈ bodies) :
    Confined bodies (responseSteps id index j) := by
  unfold responseSteps
  split
  · split
    · exact confined_bodySteps h
    · exact confined_fault _
  · exact confined_fault _

theorem confined_responsesSteps {id : Text} {index : ℕ} {items : List Json}
    (h : ∀ j ∈ items, ∀ body, j.get? "body" = some body → body ∈ bodies) :
    Confined bodies (responsesSteps id index items) := by
  induction items generalizing index with
  | nil => exact confined_nil
  | cons item items ih =>
      obtain ⟨hitem, hitems⟩ := List.forall_mem_cons.mp h
      exact confined_append (confined_responseSteps hitem) (ih hitems)

theorem confined_repeatedSteps (id : Text) (found : Option Json) :
    Confined bodies (repeatedSteps id found) := by
  unfold repeatedSteps
  split
  · split
    · exact confined_fault _
    · exact confined_nil
  · exact confined_nil

end Confined

/-- All that a contract descriptor can itself offend against is structure. -/
theorem confined_steps (j : Json) : Confined (bodyValues j) (steps j) := by
  cases j with
  | obj members =>
      have hrequest : ∀ body, lookup? "requestBody" members = some body →
          body ∈ bodyValues (.obj members) := by
        intro body hbody
        have hfound : lookup? (Text.ofString "requestBody") members = some body := hbody
        simp [bodyValues, hfound]
      have hlist : Confined (bodyValues (.obj members))
          (listSteps (idText members) (lookup? "responses" members)) := by
        cases hfound : lookup? (Text.ofString "responses") members with
        | none => exact confined_fault _
        | some j =>
            cases j with
            | arr items =>
                refine confined_responsesSteps fun item hitem body hbody => ?_
                simp only [bodyValues, hfound]
                exact List.mem_append_right _ (List.mem_filterMap.mpr ⟨item, hitem, hbody⟩)
            | _ => exact confined_fault _
      rw [steps]
      -- the steps are joined from the left, so the last part comes off first
      refine confined_append ?_ (confined_repeatedSteps _ _)
      refine confined_append ?_ hlist
      refine confined_append ?_ (confined_bodySteps hrequest)
      refine confined_append ?_ (confined_textSteps "method" _)
      refine confined_append ?_ (confined_textSteps "url" _)
      exact confined_append (confined_textSteps "id" _) (confined_idSteps _)
  | _ => exact confined_fault _

/-- The first offence is one of structure, or it is the first offence in one of the bodies. -/
theorem structure_or_body_of_firstFault {j : Json} {o : Shape.Offence}
    (h : FirstFault Shape.steps (steps j) o) :
    (∃ fault, o = .structure fault) ∨
      ∃ body ∈ bodyValues j, FirstFault Shape.steps (Shape.steps body) o := by
  rcases h.fault_or_visit with hfault | ⟨body, hvisit, hbody⟩
  · rcases confined_steps j _ hfault with ⟨fault, heq⟩ | ⟨_, -, heq⟩
    · exact Or.inl ⟨fault, Step.fault.inj heq⟩
    · exact absurd heq (by simp)
  · rcases confined_steps j _ hvisit with ⟨fault, heq⟩ | ⟨body', hmem, heq⟩
    · exact absurd heq (by simp)
    · obtain rfl := Step.visit.inj heq
      exact Or.inr ⟨body, hmem, hbody⟩

/-- **What reading a contract comes to.** A value is read as a contract exactly if it describes the
contract by the grammar. It is refused exactly if something offends against the grammar, with the
error of the first offence on the way through it: an invalid descriptor from the source, unless the
offence is an unknown tag or special kind, which is found inside a body and is an unsupported
variant. -/
theorem read_outcome (source : Option Text) (j : Json) :
    (∀ c, ofJson source j = .ok c ↔ Describes j c) ∧
    (∀ e, ofJson source j = .error e ↔
      ∃ o, FirstFault Shape.steps (steps j) o ∧ e = o.error source) ∧
    ∀ o, FirstFault Shape.steps (steps j) o →
      (¬ o.IsUnsupported ∧ ∃ fault, o.error source = .invalidDescriptor fault source) ∨
      (o.IsUnsupported ∧ (∃ tag, o.error source = .unsupportedVariant tag) ∧
        ∃ body ∈ bodyValues j, FirstFault Shape.steps (Shape.steps body) o) := by
  refine ⟨fun c => ofJson_eq_ok, fun e => (follows_ofJson source j).error_iff, fun o ho => ?_⟩
  by_cases hunsupported : o.IsUnsupported
  · right
    refine ⟨hunsupported, Shape.Offence.error_of_isUnsupported hunsupported, ?_⟩
    rcases structure_or_body_of_firstFault ho with ⟨fault, rfl⟩ | hbody
    · exact hunsupported.elim
    · exact hbody
  · exact Or.inl ⟨hunsupported, Shape.Offence.error_of_not_isUnsupported hunsupported⟩

/-- A second response for success comes too late to matter if its body is at fault. -/
example : ofJson none (.obj [(Text.ofString "id", .str "a"), (Text.ofString "url", .str "/"),
    (Text.ofString "method", .str "get"),
    (Text.ofString "requestBody", .obj [(Text.ofString "type", .str "boolean")]),
    (Text.ofString "responses", .arr [
      .obj [(Text.ofString "code", .int 200),
        (Text.ofString "body", .obj [(Text.ofString "type", .str "boolean")])],
      .obj [(Text.ofString "code", .int 200),
        (Text.ofString "body", .obj [(Text.ofString "type", .str "date")])]])]) =
    .error (.unsupportedVariant "date") := rfl

end Contract

end CallBindings
