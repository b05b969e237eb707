import CallBindings.Proofs.Dispatch.Calls

set_option autoImplicit false

/-! # A body that comes back

The payload of a call is the compact form of its body, which is printable ASCII, so its bytes are
read as the text they were written for. A transport that answers with the bytes it was sent hence
gives the body back.
-/

namespace CallBindings

open Text

/-! ## Calls over a transport that echoes -/

namespace Binding

/-- A transport that answers with status 200 and the bytes it was sent. -/
def Echoes (exchange : Exchange) : Prop :=
  ∀ (request : Request) (content : Text) (bytes : Bytes), request.content = some content →
    content.toUtf8 = .ok bytes → ∃ headers, exchange request = .ok ⟨200, bytes, headers⟩

variable {b : Binding} {exchange : Exchange} {body : Json} {overrides : CallOverrides}

/-- A call that uses no query sends the compact form of its body, if that can be written. -/
theorem exists_content_of_prepare (h : b.usesQuery = false) (hwrite : body.isWritable = true)
    (overrides : CallOverrides) : ∃ request, b.prepare (.json body) overrides = .ok request ∧
      request.content = some body.compact := by
  rw [prepare, h, payloadOf, Json.toCompact, Json.written_eq_ok_iff.mpr ⟨hwrite, rfl⟩]
  exact ⟨_, rfl, rfl⟩

theorem call_eq_success {request : Request} {payload : Json}
    (hprepare : b.prepare (.json body) overrides = .ok request) {reply : Reply}
    (hexchange : exchange request = .ok reply) (hstatus : reply.status = 200)
    (hdecode : b.decode reply.content = .ok payload) :
    b.call exchange (.json body) overrides = (some request, .ok (.success 200 payload, [])) := by
  rw [call, attempt, hprepare]
  simp only [hexchange, hdecode, hstatus, classify, if_true]

/-- A transport that echoes. -/
def echo : Exchange := fun request =>
  match request.content with
  | none => .error ⟨some "no content"⟩
  | some content =>
    match content.toUtf8 with
    | .error e => .error ⟨some e.message⟩
    | .ok bytes => .ok ⟨200, bytes, []⟩

theorem echoes_echo : Echoes echo := by
  intro request content bytes hcontent hbytes
  exact ⟨[], by simp only [echo, hcontent, hbytes]⟩

/-- **A call whose payload is sent back unchanged succeeds with its own body:** the bytes of the
payload are read as the text they were written for, and this, whatever its nesting, as the body.
A call reads as far as values are nested in general. -/
theorem call_echo (hget : b.method ≠ "GET") (hhead : b.method ≠ "HEAD")
    (hecho : Echoes exchange) (hbody : body.IsPlain) :
    (∃ bytes, body.compact.toUtf8 = .ok bytes ∧ Json.decodeReply bytes = .ok body.compact ∧
      ∀ room, body.nesting ≤ room → Json.readWithin room body.compact = .ok body) ∧
    (body.nesting ≤ Json.nestingLimit →
      ∃ request, b.prepare (.json body) overrides = .ok request ∧
        b.call exchange (.json body) overrides = (some request, .ok (.success 200 body, []))) := by
  have hbytes := toUtf8_of_isScalar (IsPrintable.isScalar body.isPrintable_compact)
  refine ⟨⟨_, hbytes, Json.decodeReply_utf8 body.isPrintable_compact,
    fun _ hroom => hbody.readWithin_compact hroom⟩, fun hdeep => ?_⟩
  have hquery : b.usesQuery = false := by simp [usesQuery, hget, hhead]
  obtain ⟨request, hprepare, hcontent⟩ := exists_content_of_prepare hquery hbody.isWritable overrides
  obtain ⟨headers, hexchange⟩ := hecho request _ _ hcontent hbytes
  have hdecode : b.decode body.compact.utf8 = .ok body :=
    decode_eq_ok.mpr (Or.inr ⟨hhead, hbody.readReply_utf8 hdeep⟩)
  exact ⟨request, hprepare, call_eq_success hprepare hexchange rfl hdecode⟩

/-- An order with a note that holds a control code, a quote and a code point above `0xFFFF`, a number
beyond 64 bits, and ones of two kinds. -/
def orderBody : Json :=
  .obj [("note", .str (ofString "caf\u00e9 \"\t" ++ [CodePoint.ofNat 0x1F600])),
    ("amount", .int (-12345678901234567890)),
    ("items", .arr [.bool true, .int 1, .null, .arr [], .obj []])]

theorem isPlain_orderBody : orderBody.IsPlain := by
  have hitems : ∀ item ∈ [Json.bool true, .int 1, .null, .arr [], .obj []], item.IsPlain := by
    simp only [List.forall_mem_cons]
    exact ⟨.bool true, .int (by decide), .null, .arr (by simp), .obj (by simp) (by simp) (by simp),
      by simp⟩
  refine .obj (by decide) (by decide) ?_
  rw [List.forall_mem_cons, List.forall_mem_cons, List.forall_mem_singleton]
  exact ⟨.str (by decide), .int (by decide), .arr hitems⟩

theorem call_echo_order :
    (Binding.mk "/orders" "POST" {} "stub").method ≠ "GET" ∧
    (Binding.mk "/orders" "POST" {} "stub").method ≠ "HEAD" ∧
    Echoes echo ∧ orderBody.IsPlain ∧ orderBody.nesting ≤ Json.nestingLimit ∧
    ∃ request, (Binding.mk "/orders" "POST" {} "stub").prepare (.json orderBody) {} = .ok request ∧
      (Binding.mk "/orders" "POST" {} "stub").call echo (.json orderBody) {} =
        (some request, .ok (.success 200 orderBody, [])) := by
  have hget : (Binding.mk "/orders" "POST" {} "stub").method ≠ "GET" := by decide
  have hhead : (Binding.mk "/orders" "POST" {} "stub").method ≠ "HEAD" := by decide
  have hdeep : orderBody.nesting ≤ Json.nestingLimit := by decide
  exact ⟨hget, hhead, echoes_echo, isPlain_orderBody, hdeep,
    (call_echo hget hhead echoes_echo isPlain_orderBody).2 hdeep⟩

end Binding

end CallBindings
