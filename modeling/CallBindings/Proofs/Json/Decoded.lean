import CallBindings.Proofs.Json.Halves

set_option autoImplicit false

/-! # What was read can be written

The reader refuses an integer of too many digits, and the writers refuse no other value. So every
value that was read is written, just as it is laid out: `shown` and `compact` are the texts of all
values that come out of a file or a reply.
-/

namespace CallBindings.Json

variable {room depth : ℕ} {text t : Text} {members : List (Text × Json)} {j : Json}

theorem membersWritable_assign {name : Text} (hj : j.isWritable = true)
    (h : membersWritable members = true) : membersWritable (assign name j members) = true := by
  rw [membersWritable_iff] at h ⊢
  intro member hmember
  rcases mem_assign hmember with hold | hnew
  · exact h member hold
  · rwa [hnew]

/-! ## One level of calls -/

theorem isWritable_of_mem_words : ∀ w ∈ words, w.2.isWritable = true := by
  simp [words, isWritable]

theorem isWritable_of_readNumber {r : Json × Text} (h : readNumber t = .ok r) :
    r.1.isWritable = true := by
  obtain ⟨-, ⟨n, hn, hr⟩ | ⟨x, hr⟩⟩ := of_readNumber h
  · rw [hr, isWritable, hn]
  · rw [hr]
    rfl

/-- What holds of reading values, items and members with a bound on the depth of calls. -/
structure ReadsWritable (room depth : ℕ) : Prop where
  value : ∀ t r, readValue room depth t = .ok r → r.1.isWritable = true
  items : ∀ t r, readItems room depth t = .ok r → itemsWritable r.1 = true
  members : ∀ members t r, readMembers room depth members t = .ok r →
    membersWritable members = true → membersWritable r.1 = true

theorem readsWritable_zero (room : ℕ) : ReadsWritable room 0 where
  value t r h := by
    rw [readValue] at h
    cases h
  items t r h := by
    rw [readItems] at h
    cases h
  members members t r h := by
    rw [readMembers] at h
    cases h

variable (ih : ∀ room, ReadsWritable room depth)

include ih

theorem isWritable_of_readValue_succ {r : Json × Text}
    (h : readValue room (depth + 1) t = .ok r) : r.1.isWritable = true := by
  cases valueRead_of_readValue h with
  | string _ => rfl
  | emptyList _ => rfl
  | list hread =>
      rw [isWritable]
      exact (ih _).items _ _ hread
  | emptyObject _ => rfl
  | object hread =>
      rw [isWritable]
      exact (ih _).members _ _ _ hread rfl
  | word hword =>
      obtain ⟨-, w, hw, hr⟩ := of_readWord? hword
      exact hr ▸ isWritable_of_mem_words w hw
  | number hread => exact isWritable_of_readNumber hread

theorem itemsWritable_of_readItems_succ {r : List Json × Text}
    (h : readItems room (depth + 1) t = .ok r) : itemsWritable r.1 = true := by
  cases itemsRead_of_readItems h with
  | last hitem _ => simp [itemsWritable, (ih room).value _ _ hitem]
  | next hitem _ hread =>
      simp [itemsWritable, (ih room).value _ _ hitem, (ih room).items _ _ hread]

theorem membersWritable_of_memberRead {name rest : Text} {value : Json}
    (h : MemberRead room depth t name value rest) (hm : membersWritable members = true) :
    membersWritable (assign name value members) = true := by
  cases h with
  | intro _ _ hvalue => exact membersWritable_assign ((ih room).value _ _ hvalue) hm

theorem membersWritable_of_readMembers_succ {r : List (Text × Json) × Text}
    (h : readMembers room (depth + 1) members t = .ok r) (hm : membersWritable members = true) :
    membersWritable r.1 = true := by
  cases membersRead_of_readMembers h with
  | last hmember _ => exact membersWritable_of_memberRead ih hmember hm
  | next hmember _ hread =>
      exact (ih room).members _ _ _ hread (membersWritable_of_memberRead ih hmember hm)

omit ih

/-- By induction on the bound on the depth of calls, for all three readers at once. -/
theorem readsWritable (depth : ℕ) : ∀ room, ReadsWritable room depth := by
  induction depth with
  | zero => exact readsWritable_zero
  | succ depth ih =>
      exact fun room => ⟨fun _ _ => isWritable_of_readValue_succ ih,
        fun _ _ => itemsWritable_of_readItems_succ ih,
        fun _ _ _ => membersWritable_of_readMembers_succ ih⟩

/-! ## Whole texts -/

theorem isWritable_of_readWithin (h : readWithin room t = .ok j) : j.isWritable = true := by
  rw [readWithin] at h
  split at h
  · next hwhole =>
      cases h
      obtain ⟨⟨value, rest⟩, hvalue, hend⟩ := bind_eq_ok.mp hwhole
      dsimp only at hend
      split at hend
      · cases hend
        exact (readsWritable _ _).value _ _ hvalue
      · cases hend
  all_goals cases h

/-- **Every value that was read can be written.** -/
theorem isWritable_of_read (h : read text = .ok j) : j.isWritable = true := by
  rw [read] at h
  split_ifs at h
  exact isWritable_of_readWithin h

/-- **A value that was read is written as it is laid out.** -/
theorem written_of_read (layOut : Json → Text) (h : read text = .ok j) :
    written layOut j = .ok (layOut j) :=
  written_eq_ok_iff.mpr ⟨isWritable_of_read h, rfl⟩

end CallBindings.Json
