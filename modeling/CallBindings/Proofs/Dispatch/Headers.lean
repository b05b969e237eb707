import CallBindings.Dispatch.Headers
import CallBindings.Proofs.LastWins

set_option autoImplicit false

/-! # Headers that are merged

Headers are folded by their names in lower case, and what is left is set once more by its spellings.
Names that differ in lower case are spelled differently, so the second time nothing is replaced.
-/

namespace CallBindings.Headers

/-- The name by which a header is compared with others. -/
def comparedName (header : Text × Json) : Text := header.1.lower

/-- The layers of headers, one behind the other. -/
def layers (fixed perCall : Headers) : Headers := jsonContent ++ fixed ++ perCall

theorem lastWins_fold (headers : Headers) :
    LastWins comparedName headers ((fold headers).map Prod.snd) := by
  have hempty : (([] : List (Text × (Text × Json))).map Prod.fst).Nodup := List.nodup_nil
  have hfold : ∀ updates : List (Text × (Text × Json)),
      LastWins Prod.fst updates (assignAll [] updates) := lastWins_assignAll hempty
  exact (hfold (headers.map fun h => (comparedName h, h))).of_map fun _ => rfl

/-- Different names have different spellings. -/
theorem merge_eq (fixed perCall : Headers) :
    merge fixed perCall = (fold (layers fixed perCall)).map Prod.snd := by
  have hnodup := (lastWins_fold (layers fixed perCall)).nodup
  have hspelled : (((fold (layers fixed perCall)).map Prod.snd).map Prod.fst).Nodup := by
    refine List.Nodup.of_map Text.lower ?_
    rwa [List.map_map]
  exact assignAll_of_nodup hspelled

theorem lastWins_merge (fixed perCall : Headers) :
    LastWins comparedName (layers fixed perCall) (merge fixed perCall) :=
  merge_eq fixed perCall ▸ lastWins_fold _

/-- **Merging headers loses and duplicates nothing.** What is merged has one header for each name,
compared without regard to case, in the order in which the names come first in the layers, with the
spelling and the value that came last; and nothing else has. So no two of its names are equal, one of
them is that of the content type, and merging it again changes nothing. -/
theorem merge_eq_iff_lastWins (fixed perCall : Headers) :
    (∀ merged, merge fixed perCall = merged ↔
      LastWins comparedName (layers fixed perCall) merged) ∧
    ((merge fixed perCall).map comparedName).Nodup ∧
    ((merge fixed perCall).map comparedName).count (Text.ofString "content-type") = 1 ∧
    merge (merge fixed perCall) [] = merge fixed perCall := by
  have hmerge := lastWins_merge fixed perCall
  refine ⟨fun merged => ⟨fun h => h ▸ hmerge, hmerge.unique⟩, hmerge.nodup, ?_, ?_⟩
  · -- the default is the lowest layer
    have hdefault : Text.ofString "content-type" ∈ (layers fixed perCall).map comparedName :=
      List.mem_cons_self
    exact List.count_eq_one_of_mem hmerge.nodup (hmerge.mem_keys_iff.mpr hdefault)
  · have hagain : LastWins comparedName (layers (merge fixed perCall) []) (merge fixed perCall) := by
      rw [layers, List.append_assoc] at hmerge
      rw [layers, List.append_nil]
      exact hmerge.again
    exact (lastWins_merge _ []).unique hagain

-- a name spelled twice in one layer and once in another keeps its place and takes the last spelling
example : merge [("X-Token", .str "a"), ("accept", .null), ("x-token", .str "b")]
    [("X-TOKEN", .str "c")] = ([("Content-Type", .str "application/json"), ("X-TOKEN", .str "c"),
      ("accept", .null)] : Headers) := by
  rfl

end CallBindings.Headers
