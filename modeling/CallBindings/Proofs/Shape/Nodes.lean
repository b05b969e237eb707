import CallBindings.Proofs.Json.Equality
import CallBindings.Shape.Basic

set_option autoImplicit false

/-! # The nodes of a shape

A shape is a tree: a node has other shapes as its children, and everything that is said of all
shapes is shown for a node from its children, `Shape.induction`. `Shape.nodes` lists the nodes
from left to right. Whether two shapes are the same can be computed.
-/

namespace CallBindings.Shape

/-- The shapes that stand directly in a shape. -/
def children : Shape → List Shape
  | .array element => [element]
  | .tuple elements => elements
  | .dictionary fields => fields.map (·.content)
  | .map key value => [key, value]
  | .union variants => variants
  | _ => []

/-! ## Induction -/

mutual

/-- What holds of a node if it holds of its children holds of every shape. -/
theorem induction {motive : Shape → Prop}
    (node : ∀ s : Shape, (∀ c ∈ s.children, motive c) → motive s) : ∀ s : Shape, motive s
  | .array element => node _ (by simpa [children] using induction node element)
  | .tuple elements => node _ (induction_list node elements)
  | .dictionary fields => node _ (induction_fields node fields)
  | .map key value =>
      node _ (by simpa [children] using ⟨induction node key, induction node value⟩)
  | .union variants => node _ (induction_list node variants)
  | .boolean => node _ (by simp [children])
  | .number _ => node _ (by simp [children])
  | .string _ _ => node _ (by simp [children])
  | .reference _ => node _ (by simp [children])
  | .special _ => node _ (by simp [children])
  | .foreign _ => node _ (by simp [children])

theorem induction_list {motive : Shape → Prop}
    (node : ∀ s : Shape, (∀ c ∈ s.children, motive c) → motive s) :
    ∀ ss : List Shape, ∀ c ∈ ss, motive c
  | [] => by simp
  | s :: ss => List.forall_mem_cons.mpr ⟨induction node s, induction_list node ss⟩

theorem induction_fields {motive : Shape → Prop}
    (node : ∀ s : Shape, (∀ c ∈ s.children, motive c) → motive s) :
    ∀ fields : List (Field Shape), ∀ c ∈ fields.map (·.content), motive c
  | [] => by simp
  | ⟨_, s, _⟩ :: fields =>
      List.forall_mem_cons.mpr ⟨induction node s, induction_fields node fields⟩

end

/-! ## Nodes -/

mutual

/-- The shape and all shapes in it, from left to right. -/
def nodes : Shape → List Shape
  | .array element => .array element :: element.nodes
  | .tuple elements => .tuple elements :: nodesOf elements
  | .dictionary fields => .dictionary fields :: nodesOfFields fields
  | .map key value => .map key value :: (key.nodes ++ value.nodes)
  | .union variants => .union variants :: nodesOf variants
  | s => [s]

/-- The nodes of several shapes. -/
def nodesOf : List Shape → List Shape
  | [] => []
  | s :: ss => s.nodes ++ nodesOf ss

/-- The nodes of the fields of a record. -/
def nodesOfFields : List (Field Shape) → List Shape
  | [] => []
  | ⟨_, s, _⟩ :: fields => s.nodes ++ nodesOfFields fields

end

theorem nodesOf_eq (ss : List Shape) : nodesOf ss = ss.flatMap nodes := by
  induction ss with
  | nil => rfl
  | cons s ss ih => rw [nodesOf, ih, List.flatMap_cons]

theorem nodesOfFields_eq (fields : List (Field Shape)) :
    nodesOfFields fields = (fields.map (·.content)).flatMap nodes := by
  induction fields with
  | nil => rfl
  | cons f fields ih => rw [nodesOfFields, ih, List.map_cons, List.flatMap_cons]

theorem nodes_eq (s : Shape) : s.nodes = s :: s.children.flatMap nodes := by
  cases s <;> simp [nodes, children, nodesOf_eq, nodesOfFields_eq]

/-- Whether something holds of all nodes is a question about the node and its children. -/
theorem forall_mem_nodes {p : Shape → Prop} {s : Shape} :
    (∀ n ∈ s.nodes, p n) ↔ p s ∧ ∀ c ∈ s.children, ∀ n ∈ c.nodes, p n := by
  rw [nodes_eq]
  simp only [List.mem_cons, List.mem_flatMap, forall_eq_or_imp, forall_exists_index, and_imp]
  exact and_congr_right fun _ => forall_comm.trans (forall_congr' fun c => forall_comm)

/-! ## Equality -/

mutual

/-- Whether two shapes are the same. -/
def same : Shape → Shape → Bool
  | .boolean, .boolean => true
  | .number a, .number b => a == b
  | .string a f, .string b g => a == b && f == g
  | .array a, .array b => a.same b
  | .tuple as, .tuple bs => sameAll as bs
  | .dictionary as, .dictionary bs => sameFields as bs
  | .map a v, .map b w => a.same b && v.same w
  | .union as, .union bs => sameAll as bs
  | .reference a, .reference b => a == b
  | .special a, .special b => a == b
  | .foreign a, .foreign b => a == b
  | _, _ => false

/-- Whether two lists have the same shapes. -/
def sameAll : List Shape → List Shape → Bool
  | [], [] => true
  | a :: as, b :: bs => a.same b && sameAll as bs
  | _, _ => false

/-- Whether two records have the same fields in the same order. -/
def sameFields : List (Field Shape) → List (Field Shape) → Bool
  | [], [] => true
  | ⟨n, a, o⟩ :: as, ⟨m, b, p⟩ :: bs => n == m && (o == p && (a.same b && sameFields as bs))
  | _, _ => false

end

mutual

theorem same_iff : ∀ a b : Shape, a.same b = true ↔ a = b
  | .boolean, b => by cases b <;> simp [same]
  | .number _, b => by cases b <;> simp [same]
  | .string _ _, b => by cases b <;> simp [same]
  | .array a, b => by cases b <;> simp [same, same_iff a]
  | .tuple as, b => by cases b <;> simp [same, sameAll_iff as]
  | .dictionary as, b => by cases b <;> simp [same, sameFields_iff as]
  | .map a v, b => by cases b <;> simp [same, same_iff a, same_iff v]
  | .union as, b => by cases b <;> simp [same, sameAll_iff as]
  | .reference _, b => by cases b <;> simp [same]
  | .special _, b => by cases b <;> simp [same]
  | .foreign _, b => by cases b <;> simp [same]

theorem sameAll_iff : ∀ as bs : List Shape, sameAll as bs = true ↔ as = bs
  | [], bs => by cases bs <;> simp [sameAll]
  | a :: as, bs => by cases bs <;> simp [sameAll, same_iff a, sameAll_iff as]

theorem sameFields_iff : ∀ as bs : List (Field Shape), sameFields as bs = true ↔ as = bs
  | [], bs => by cases bs <;> simp [sameFields]
  | ⟨n, a, o⟩ :: as, bs => by
      cases bs with
      | nil => simp [sameFields]
      | cons b bs =>
          obtain ⟨m, b, p⟩ := b
          simp only [sameFields, Bool.and_eq_true, beq_iff_eq, same_iff a, sameFields_iff as,
            List.cons.injEq, Field.mk.injEq]
          tauto

end

instance : DecidableEq Shape := fun a b => decidable_of_iff _ (same_iff a b)

end CallBindings.Shape
