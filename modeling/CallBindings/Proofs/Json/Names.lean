import CallBindings.Proofs.Json.Halves

set_option autoImplicit false

/-! # Names in an object

An object that is read has each name once: a name that is written again replaces the value that
stands under it.
-/

namespace CallBindings.Json

variable {room depth : ℕ} {members : List (Text × Json)} {text t rest : Text}

/-- By induction on the bound on the depth of calls, for any members that were read before. -/
theorem nodup_of_readMembers {r : List (Text × Json) × Text}
    (h : readMembers room depth members t = .ok r) (hm : (members.map Prod.fst).Nodup) :
    (r.1.map Prod.fst).Nodup := by
  induction depth generalizing members t with
  | zero => cases h
  | succ depth ih =>
      cases membersRead_of_readMembers h with
      | last _ _ => exact nodup_map_fst_assign hm
      | next _ _ hread => exact ih hread (nodup_map_fst_assign hm)

/-- An object begins with its brace, so it is neither a word nor a number. -/
theorem nodup_of_readValue (h : readValue room depth t = .ok (.obj members, rest)) :
    (members.map Prod.fst).Nodup := by
  cases depth with
  | zero => cases h
  | succ depth =>
      cases valueRead_of_readValue h with
      | emptyObject _ => exact List.nodup_nil
      | object hread => exact nodup_of_readMembers hread List.nodup_nil
      | word hword =>
          obtain ⟨-, w, hw, hobj⟩ := of_readWord? hword
          have hwords : ∀ w ∈ words, ∀ members, w.2 ≠ .obj members := by simp [words]
          exact absurd hobj.symm (hwords w hw members)
      | number hread =>
          obtain ⟨-, ⟨n, -, hint⟩ | ⟨x, hfloat⟩⟩ := of_readNumber hread
          · cases hint
          · cases hfloat

/-- **An object that is read has each name once.** -/
theorem nodup_of_read (h : read text = .ok (.obj members)) : (members.map Prod.fst).Nodup := by
  rw [read] at h
  split_ifs at h
  rw [readMarked, readWithin] at h
  split at h
  · next hwhole =>
      cases h
      obtain ⟨⟨value, rest⟩, hvalue, hend⟩ := bind_eq_ok.mp hwhole
      dsimp only at hend
      split at hend
      · cases hend
        exact nodup_of_readValue hvalue
      · cases hend
  all_goals cases h

end CallBindings.Json
