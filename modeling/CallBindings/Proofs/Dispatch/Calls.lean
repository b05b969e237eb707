import CallBindings.Dispatch.Binding
import CallBindings.Proofs.Json.Bytes

set_option autoImplicit false

/-! # The outcome of a call

A call of a binding goes through four steps: the request is prepared, the transport is asked, its
reply is decoded, and the status tells success from failure. The transport is asked once, or not at
all if there is no request. If one of the first three steps fails, the call comes to the unexpected
outcome, and otherwise to success or failure.

What is logged on the way to an outcome is the one thing that can keep a call from it: the text of
what has failed, and the status of a failure. A call raises exactly if these cannot be written.
-/

namespace CallBindings

/-! ## Outcomes as callers see them -/

namespace Outcome

/-- What a caller can look at. -/
structure Seen where
  ok : Bool
  status : Int
  value : Json
  error : Json
  isUnexpected : Bool

/-- An outcome as a caller sees it. -/
def seen (o : Outcome) : Seen := ⟨o.ok, o.status, o.value, o.error, o.isUnexpected⟩

@[simp] theorem seen_success (status : Int) (value : Json) :
    (success status value).seen = ⟨true, status, value, .null, false⟩ := rfl

@[simp] theorem seen_failure (status : Int) (error : Json) :
    (failure status error).seen = ⟨false, status, .null, error, false⟩ := rfl

@[simp] theorem seen_unexpected :
    unexpected.seen = ⟨false, 0, .null, unexpectedFailure, true⟩ := rfl

/-- A call succeeds, fails in its domain or ends unexpectedly, and never two of these. -/
theorem count_kinds (o : Outcome) : [o.isDomainFailure, o.ok, o.isUnexpected].count true = 1 := by
  cases o <;> rfl

end Outcome

namespace Binding

variable {b : Binding} {exchange : Exchange} {body : Body} {overrides : CallOverrides}

/-! ## What a call comes to -/

/-- What makes a call end unexpectedly. -/
inductive Fails (b : Binding) (exchange : Exchange) (body : Body) (overrides : CallOverrides) :
    CallError → Prop
  | prepare {e : PrepareError} : b.prepare body overrides = .error e →
      Fails b exchange body overrides (.prepare e)
  | transport {request : Request} {e : Raised} : b.prepare body overrides = .ok request →
      exchange request = .error e → Fails b exchange body overrides (.transport e)
  | reply {request : Request} {reply : Reply} {e : BytesError} :
      b.prepare body overrides = .ok request → exchange request = .ok reply →
      b.method ≠ "HEAD" → Json.readReply reply.content = .error e →
      Fails b exchange body overrides (.reply e)

/-- The status and the payload that a call is answered with. -/
inductive Answered (b : Binding) (exchange : Exchange) (body : Body) (overrides : CallOverrides) :
    Int → Json → Prop
  | head {request : Request} {reply : Reply} : b.prepare body overrides = .ok request →
      exchange request = .ok reply → b.method = "HEAD" →
      Answered b exchange body overrides reply.status .null
  | decoded {request : Request} {reply : Reply} {payload : Json} :
      b.prepare body overrides = .ok request → exchange request = .ok reply →
      b.method ≠ "HEAD" → Json.readReply reply.content = .ok payload →
      Answered b exchange body overrides reply.status payload

theorem decode_eq_error {content : Bytes} {e : BytesError} :
    b.decode content = .error e ↔ b.method ≠ "HEAD" ∧ Json.readReply content = .error e := by
  rw [decode]
  split
  · next h => simp [h]
  · next h => simp [h]

theorem decode_eq_ok {content : Bytes} {payload : Json} :
    b.decode content = .ok payload ↔ b.method = "HEAD" ∧ payload = .null ∨
      b.method ≠ "HEAD" ∧ Json.readReply content = .ok payload := by
  rw [decode]
  split
  · next h => simp [h, eq_comm]
  · next h => simp [h]

/-- A call that is given up was given up at one of its steps. -/
theorem attempt_eq_error {e : CallError} :
    (b.attempt exchange body overrides).2 = .error e ↔ Fails b exchange body overrides e := by
  constructor
  · intro h
    rw [attempt] at h
    split at h
    · next hprepare =>
        cases h
        exact .prepare hprepare
    · next hprepare =>
        split at h
        · next hexchange =>
            cases h
            exact .transport hprepare hexchange
        · next hexchange =>
            split at h
            · next hdecode =>
                cases h
                obtain ⟨hhead, hread⟩ := decode_eq_error.mp hdecode
                exact .reply hprepare hexchange hhead hread
            · cases h
  · intro h
    cases h with
    | prepare hprepare => simp [attempt, hprepare]
    | transport hprepare hexchange => simp [attempt, hprepare, hexchange]
    | reply hprepare hexchange hhead hread =>
        simp [attempt, hprepare, hexchange, decode_eq_error.mpr ⟨hhead, hread⟩]

/-- A call that is not given up has gone through all its steps. -/
theorem attempt_eq_ok {status : Int} {payload : Json} :
    (b.attempt exchange body overrides).2 = .ok (status, payload) ↔
      Answered b exchange body overrides status payload := by
  constructor
  · intro h
    rw [attempt] at h
    split at h
    · cases h
    · next hprepare =>
        split at h
        · cases h
        · next hexchange =>
            split at h
            · cases h
            · next hdecode =>
                cases h
                rcases decode_eq_ok.mp hdecode with ⟨hhead, rfl⟩ | ⟨hhead, hread⟩
                · exact .head hprepare hexchange hhead
                · exact .decoded hprepare hexchange hhead hread
  · intro h
    cases h with
    | head hprepare hexchange hhead =>
        simp [attempt, hprepare, hexchange, decode_eq_ok.mpr (Or.inl ⟨hhead, rfl⟩)]
    | decoded hprepare hexchange hhead hread =>
        simp [attempt, hprepare, hexchange, decode_eq_ok.mpr (Or.inr ⟨hhead, hread⟩)]

/-- The transport is asked for what was prepared. -/
theorem request_of_attempt :
    (b.attempt exchange body overrides).1 = (b.prepare body overrides).toOption := by
  rw [attempt]
  cases hprepare : b.prepare body overrides with
  | error e => rfl
  | ok request =>
      simp only
      split
      · rfl
      · split <;> rfl

theorem request_of_call :
    (b.call exchange body overrides).1 = (b.prepare body overrides).toOption := by
  have hsame : (b.call exchange body overrides).1 = (b.attempt exchange body overrides).1 := by
    rw [call]
    split
    · next hattempt => rw [hattempt]
    · next hattempt => rw [hattempt]
  rw [hsame, request_of_attempt]

theorem ending_of_fails {e : CallError} (h : b.Fails exchange body overrides e) :
    (b.call exchange body overrides).2 = b.giveUp e := by
  have hattempt := attempt_eq_error.mpr h
  rw [call]
  split
  · next herror =>
      rw [herror] at hattempt
      cases hattempt
      rfl
  · next hok =>
      rw [hok] at hattempt
      cases hattempt

theorem ending_of_answered {status : Int} {payload : Json}
    (h : b.Answered exchange body overrides status payload) :
    (b.call exchange body overrides).2 = b.classify status payload := by
  have hattempt := attempt_eq_ok.mpr h
  rw [call]
  split
  · next herror =>
      rw [herror] at hattempt
      cases hattempt
  · next hok =>
      rw [hok] at hattempt
      cases hattempt
      rfl

/-- A call fails or is answered. -/
theorem fails_or_answered (b : Binding) (exchange : Exchange) (body : Body)
    (overrides : CallOverrides) :
    (∃ e, b.Fails exchange body overrides e) ∨
      ∃ status payload, b.Answered exchange body overrides status payload := by
  cases hattempt : (b.attempt exchange body overrides).2 with
  | error e => exact Or.inl ⟨e, attempt_eq_error.mp hattempt⟩
  | ok r => exact Or.inr ⟨r.1, r.2, attempt_eq_ok.mp hattempt⟩

/-- A call that fails is not answered. -/
theorem Answered.not_fails {status : Int} {payload : Json} {e : CallError}
    (h : b.Answered exchange body overrides status payload) :
    ¬ b.Fails exchange body overrides e := by
  intro hfails
  have hattempt := attempt_eq_ok.mpr h
  rw [attempt_eq_error.mpr hfails] at hattempt
  cases hattempt

/-! ## What a call ends with -/

/-- What a caller sees at the end of a call, or what the call raises. -/
def seenOf (ending : Except Uncaught (Outcome × List LogRecord)) : Except Uncaught Outcome.Seen :=
  ending.map fun r => r.1.seen

theorem giveUp_eq_error_iff {e : CallError} {u : Uncaught} :
    b.giveUp e = .error u ↔ e.text = none ∧ u = .cause := by
  rw [giveUp]
  cases e.text <;> simp [eq_comm]

theorem seenOf_giveUp {e : CallError} (h : e.text ≠ none) :
    seenOf (b.giveUp e) = .ok ⟨false, 0, .null, Outcome.unexpectedFailure, true⟩ := by
  rw [giveUp]
  cases htext : e.text with
  | none => exact absurd htext h
  | some cause => rfl

theorem classify_eq_error_iff {status : Int} {payload : Json} {u : Uncaught} :
    b.classify status payload = .error u ↔
      status ≠ 200 ∧ Text.canWrite status = false ∧ u = .status .unwritable := by
  rw [classify]
  split
  · next h => simp [h]
  · next h =>
      rw [Text.writeInt]
      cases Text.canWrite status <;> simp [h, eq_comm]

theorem seenOf_classify_success (payload : Json) :
    seenOf (b.classify 200 payload) = .ok ⟨true, 200, payload, .null, false⟩ := by
  rw [classify, if_pos rfl]
  rfl

theorem seenOf_classify_failure {status : Int} (hstatus : status ≠ 200)
    (hwrite : Text.canWrite status = true) (payload : Json) :
    seenOf (b.classify status payload) = .ok ⟨false, status, .null, payload, false⟩ := by
  rw [classify, if_neg hstatus, Text.writeInt, if_pos hwrite]
  rfl

/-- An answer is a success, a failure, or has a status that cannot be written. -/
theorem seenOf_classify_ne_unexpected (status : Int) (payload : Json) :
    seenOf (b.classify status payload) ≠
      .ok ⟨false, 0, .null, Outcome.unexpectedFailure, true⟩ := by
  intro hseen
  by_cases hstatus : status = 200
  · rw [hstatus, seenOf_classify_success] at hseen
    cases hseen
  · cases hwrite : Text.canWrite status with
    | true =>
        rw [seenOf_classify_failure hstatus hwrite] at hseen
        cases hseen
    | false =>
        rw [classify_eq_error_iff.mpr ⟨hstatus, hwrite, rfl⟩] at hseen
        cases hseen

/-- A call raises where it is given up without a text, or classified by a status without one. -/
theorem ending_eq_error_iff {u : Uncaught} : (b.call exchange body overrides).2 = .error u ↔
    (∃ e, b.Fails exchange body overrides e ∧ e.text = none ∧ u = .cause) ∨
      ∃ status payload, b.Answered exchange body overrides status payload ∧ status ≠ 200 ∧
        Text.canWrite status = false ∧ u = .status .unwritable := by
  constructor
  · intro hraises
    rcases fails_or_answered b exchange body overrides with ⟨e, h⟩ | ⟨status, payload, h⟩
    · rw [ending_of_fails h, giveUp_eq_error_iff] at hraises
      exact Or.inl ⟨e, h, hraises⟩
    · rw [ending_of_answered h, classify_eq_error_iff] at hraises
      exact Or.inr ⟨status, payload, h, hraises⟩
  · rintro (⟨e, h, hraises⟩ | ⟨status, payload, h, hraises⟩)
    · rw [ending_of_fails h, giveUp_eq_error_iff]
      exact hraises
    · rw [ending_of_answered h, classify_eq_error_iff]
      exact hraises

theorem seenOf_ending_eq_unexpected_iff :
    seenOf (b.call exchange body overrides).2 =
      .ok ⟨false, 0, .null, Outcome.unexpectedFailure, true⟩ ↔
    ∃ e, b.Fails exchange body overrides e ∧ e.text ≠ none := by
  constructor
  · intro hseen
    rcases fails_or_answered b exchange body overrides with ⟨e, h⟩ | ⟨status, payload, h⟩
    · refine ⟨e, h, fun htext => ?_⟩
      rw [ending_of_fails h, giveUp_eq_error_iff.mpr ⟨htext, rfl⟩] at hseen
      cases hseen
    · rw [ending_of_answered h] at hseen
      exact absurd hseen (seenOf_classify_ne_unexpected status payload)
  · rintro ⟨e, h, htext⟩
    rw [ending_of_fails h, seenOf_giveUp htext]

/-! ## Calls over a transport that keeps something in mind

`attempt` is told what the transport answers. A caller does not know that beforehand: it prepares
the request, sends it, and goes on with what comes back. -/

/-- The ending of a call with what a transport has answered. -/
def settle (b : Binding) : Except Raised Reply → Except Uncaught (Outcome × List LogRecord)
  | .error e => b.giveUp (.transport e)
  | .ok reply =>
    match b.decode reply.content with
    | .error e => b.giveUp (.reply e)
    | .ok payload => b.classify reply.status payload

/-- A call as a caller does it, over a transport with effects. -/
def perform {m : Type → Type} [Monad m] (b : Binding) (send : Request → m (Except Raised Reply))
    (body : Body) (overrides : CallOverrides) : m (Except Uncaught (Outcome × List LogRecord)) :=
  match b.prepare body overrides with
  | .error e => return b.giveUp (.prepare e)
  | .ok request => do
    let answer ← send request
    return b.settle answer

/-- A transport that writes down what it is sent, and answers like `exchange`. -/
def recording (exchange : Exchange) (request : Request) :
    StateM (List Request) (Except Raised Reply) := do
  modify (· ++ [request])
  return exchange request

theorem ending_of_call :
    (b.call exchange body overrides).2 =
      match b.prepare body overrides with
      | .error e => b.giveUp (.prepare e)
      | .ok request => b.settle (exchange request) := by
  rw [call, attempt]
  cases b.prepare body overrides with
  | error e => rfl
  | ok request =>
      simp only [settle]
      cases exchange request with
      | error e => rfl
      | ok reply =>
          simp only
          cases b.decode reply.content <;> rfl

/-- A call asks a transport with a memory once, or not at all, and ends with what goes with the
answer it got. -/
theorem run_perform {σ : Type} (send : Request → StateM σ (Except Raised Reply)) (s : σ) :
    (b.perform send body overrides).run s =
      ((b.call (fun request => ((send request).run s).1) body overrides).2,
        match b.prepare body overrides with
        | .error _ => s
        | .ok request => ((send request).run s).2) := by
  rw [ending_of_call, perform]
  cases b.prepare body overrides with
  | error e => rfl
  | ok request => rfl

/-- What a recording transport has written down after a call is the request of the call. -/
theorem run_perform_recording (exchange : Exchange) (sent : List Request) :
    (b.perform (recording exchange) body overrides).run sent =
      ((b.call exchange body overrides).2,
        sent ++ (b.call exchange body overrides).1.toList) := by
  have hanswer : (fun request => ((recording exchange request).run sent).1) = exchange := rfl
  rw [run_perform, hanswer, request_of_call]
  cases b.prepare body overrides with
  | error e =>
      show (_, sent) = (_, sent ++ [])
      rw [List.append_nil]
  | ok request => rfl

/-! ## The outcome -/

/-- What is to be said of any call that has sent a request, or none, and has come to an ending. -/
structure ComesToOutcome (b : Binding) (exchange : Exchange) (body : Body)
    (overrides : CallOverrides) (sent : Option Request)
    (ending : Except Uncaught (Outcome × List LogRecord)) : Prop where
  /-- A transport that writes down what it is sent has seen that request once, and no other. -/
  recorded : (b.perform (recording exchange) body overrides).run [] = (ending, sent.toList)
  /-- What was sent is what was prepared, if anything was. -/
  asked : sent = (b.prepare body overrides).toOption
  /-- The call raises exactly if something failed that has no text, or its status is that of a
  failure and cannot be written. -/
  raises : ∀ u, ending = .error u ↔
    (∃ e, b.Fails exchange body overrides e ∧ e.text = none ∧ u = .cause) ∨
      ∃ status payload, b.Answered exchange body overrides status payload ∧ status ≠ 200 ∧
        Text.canWrite status = false ∧ u = .status .unwritable
  /-- The outcome is the unexpected one exactly if something else failed. -/
  unexpected : seenOf ending = .ok ⟨false, 0, .null, Outcome.unexpectedFailure, true⟩ ↔
    ∃ e, b.Fails exchange body overrides e ∧ e.text ≠ none
  /-- If nothing failed there is a status with a payload. -/
  answered : (¬ ∃ e, b.Fails exchange body overrides e) ↔
    ∃ status payload, b.Answered exchange body overrides status payload
  success : ∀ payload, b.Answered exchange body overrides 200 payload →
    seenOf ending = .ok ⟨true, 200, payload, .null, false⟩
  failure : ∀ status payload, status ≠ 200 → Text.canWrite status = true →
    b.Answered exchange body overrides status payload →
      seenOf ending = .ok ⟨false, status, .null, payload, false⟩
  /-- The three kinds of outcomes exclude each other, and there is no fourth. -/
  kinds : ∀ o records, ending = .ok (o, records) →
    [o.isDomainFailure, o.ok, o.isUnexpected].count true = 1

/-- **Every call comes to one outcome, unless it cannot log it:** to the unexpected one exactly if
no request could be prepared, the transport raised, or the reply could not be decoded. -/
theorem comesToOutcome_call (b : Binding) (exchange : Exchange) (body : Body)
    (overrides : CallOverrides) :
    b.ComesToOutcome exchange body overrides (b.call exchange body overrides).1
      (b.call exchange body overrides).2 where
  recorded := by rw [run_perform_recording, List.nil_append]
  asked := request_of_call
  raises _ := ending_eq_error_iff
  unexpected := seenOf_ending_eq_unexpected_iff
  answered := by
    constructor
    · exact (fails_or_answered b exchange body overrides).resolve_left
    · rintro ⟨status, payload, h⟩ ⟨e, hfails⟩
      exact h.not_fails hfails
  success := by
    intro payload h
    rw [ending_of_answered h, seenOf_classify_success]
  failure := by
    intro status payload hstatus hwrite h
    rw [ending_of_answered h, seenOf_classify_failure hstatus hwrite]
  kinds o _ _ := o.count_kinds

/-- A binding that sends payloads. -/
def paying : Binding := ⟨"/pay", "POST", {}, "stub"⟩

/-- A call raises for a status that is too long. -/
theorem paying_of_long_status {n : Int} (hn : Text.canWrite n = false) :
    (paying.call (fun _ => .ok ⟨n, Text.utf8 "null", []⟩) (.json .null) {}).2 =
      .error (.status .unwritable) := by
  have hanswered : paying.Answered (fun _ => .ok ⟨n, Text.utf8 "null", []⟩) (.json .null) {}
      n .null := attempt_eq_ok.mp rfl
  have hne : n ≠ 200 := by
    rintro rfl
    revert hn
    decide
  rw [ending_of_answered hanswered, classify_eq_error_iff]
  exact ⟨hne, hn, rfl⟩

/-- A call ends unexpectedly for a number that is too long, though its content is that number in
JSON. -/
theorem paying_of_long_payload {n : Int} (hn : Text.canWrite n = false) :
    seenOf (paying.call (fun _ => .ok ⟨200, (Json.int n).compact.utf8, []⟩) (.json .null) {}).2 =
      .ok ⟨false, 0, .null, Outcome.unexpectedFailure, true⟩ := by
  have hfails : paying.Fails (fun _ => .ok ⟨200, (Json.int n).compact.utf8, []⟩) (.json .null) {}
      (.reply (.json (.longInteger (Text.ofNat n.natAbs).length))) :=
    .reply rfl rfl (by decide : paying.method ≠ "HEAD") (Json.readReply_utf8_ofInt hn)
  rw [ending_of_fails hfails, seenOf_giveUp (by rintro ⟨⟩)]

/-- Some calls raise: one whose transport raises an exception without a text, and one that is
answered with a status that is too long. And a number that is too long is not read. -/
theorem call_raises :
    (paying.call (fun _ => .error ⟨none⟩) (.json .null) {}).2 = .error .cause ∧
    (paying.call (fun _ => .ok ⟨Text.tooLong, Text.utf8 "null", []⟩) (.json .null) {}).2 =
      .error (.status .unwritable) ∧
    seenOf (paying.call (fun _ => .ok ⟨200, (Json.int Text.tooLong).compact.utf8, []⟩)
      (.json .null) {}).2 = .ok ⟨false, 0, .null, Outcome.unexpectedFailure, true⟩ :=
  ⟨rfl, paying_of_long_status Text.canWrite_tooLong, paying_of_long_payload Text.canWrite_tooLong⟩

-- the body of a reply to `HEAD` is not looked at, whatever the status
example : seenOf ((Binding.mk "/pay" "HEAD" {} "stub").call (fun _ => .ok ⟨404, [0xFF], []⟩)
    (.json .null) {}).2 = .ok ⟨false, 404, .null, .null, false⟩ := rfl

end Binding

end CallBindings
