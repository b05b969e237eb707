import CallBindings.Proofs.Shape.Grammar
import CallBindings.Proofs.Shape.Nodes

set_option autoImplicit false

/-! # What reading a descriptor grants

The shapes that descriptors describe are sound: the choices of a number are numbers and those
of a string are texts, a special kind is one of the known ones, and no node is foreign. The
grammar of descriptors says so of one node at a time, so it holds of the nodes of every shape that
was read.
-/

namespace CallBindings

namespace Shape

/-- What a reader of descriptors grants of a node. -/
def IsSound : Shape → Prop
  | .number choices => ∀ j ∈ choices.getD [], isNumberLiteral j = true
  | .string choices _ => ∀ j ∈ choices.getD [], isStringLiteral j = true
  | .special kind => kind ∈ specialKinds
  | .foreign _ => False
  | _ => True

/-- Whether all nodes of a shape are sound. -/
def Sound (s : Shape) : Prop := ∀ n ∈ s.nodes, n.IsSound

theorem sound_iff {s : Shape} : s.Sound ↔ s.IsSound ∧ ∀ c ∈ s.children, c.Sound := forall_mem_nodes

theorem Sound.child {s c : Shape} (h : s.Sound) (hc : c ∈ s.children) : c.Sound :=
  (sound_iff.mp h).2 c hc

/-! ## Described shapes -/

theorem DescribesChoices.allowed {allowed : Json → Bool} {IsLiteral : Json → Prop}
    (hallowed : ∀ j, allowed j = true ↔ IsLiteral j) {members : List (Text × Json)}
    {choices : Option (List Json)} (h : DescribesChoices IsLiteral members choices) :
    ∀ j ∈ choices.getD [], allowed j = true := by
  cases h with
  | absent => simp
  | null => simp
  | list _ hitems => exact fun j hj => (hallowed j).mpr (hitems j hj)

/-- Along the nesting of the value: a node is sound by its own case of the grammar, and what
stands below it was described by a part of the value. -/
theorem sound_of_describes {j : Json} {s : Shape} (h : Describes j s) : s.Sound := by
  induction j using parts_induction generalizing s with
  | other j hj => cases h <;> exact absurd rfl (hj _)
  | obj members hparts =>
      have leaf {s : Shape} (hs : s.IsSound) (hnone : s.children = []) : s.Sound :=
        sound_iff.mpr ⟨hs, by simp [hnone]⟩
      cases h with
      | boolean _ => exact leaf trivial rfl
      | number _ hchoices => exact leaf (hchoices.allowed isNumberLiteral_iff) rfl
      | string _ hchoices _ => exact leaf (hchoices.allowed isStringLiteral_iff) rfl
      | reference _ _ _ => exact leaf trivial rfl
      | special _ _ hkind => exact leaf hkind rfl
      | array _ hj hdescribes =>
          have helement := hparts.part _ _ hj hdescribes
          exact sound_iff.mpr ⟨trivial, by simpa [children] using helement⟩
      | map _ hj hk hdescribesKey hdescribesValue =>
          have hkey := hparts.part _ _ hj hdescribesKey
          have hvalue := hparts.part _ _ hk hdescribesValue
          exact sound_iff.mpr ⟨trivial, by simpa [children] using ⟨hkey, hvalue⟩⟩
      | tuple _ hitems hdescribe =>
          refine sound_iff.mpr ⟨trivial, fun c hc => ?_⟩
          obtain ⟨j, hj, hdescribes⟩ := exists_of_forall₂ hdescribe hc
          exact hparts.item _ _ hitems j hj hdescribes
      | union _ hitems hdescribe =>
          refine sound_iff.mpr ⟨trivial, fun c hc => ?_⟩
          obtain ⟨j, hj, hdescribes⟩ := exists_of_forall₂ hdescribe hc
          exact hparts.item _ _ hitems j hj hdescribes
      | dictionary _ hitems hdescribe _ =>
          refine sound_iff.mpr ⟨trivial, fun c hc => ?_⟩
          obtain ⟨f, hf, rfl⟩ := List.mem_map.mp hc
          obtain ⟨_, hentry, hfield⟩ := exists_of_forall₂ hdescribe hf
          cases hfield with
          | intro _ hmodel hdescribes =>
              exact hparts.field _ _ hitems _ hentry _ hmodel hdescribes

/-- **A shape that was read from a descriptor is sound.** -/
theorem sound_of_ofJson {source : Option Text} {j : Json} {s : Shape}
    (h : ofJson source j = .ok s) : s.Sound :=
  sound_of_describes ((isReadRight j s).mp h)

end Shape

end CallBindings
