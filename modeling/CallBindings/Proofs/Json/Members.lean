import CallBindings.Json.Basic
import CallBindings.Proofs.Distinct

set_option autoImplicit false

/-! # Members of an object

The value of a key is that of the first member with that key.
-/

namespace CallBindings

variable {α : Type} {k : Text} {v : α} {entries : List (Text × α)}

theorem mem_of_lookup? (h : lookup? k entries = some v) : (k, v) ∈ entries := by
  induction entries with
  | nil => cases h
  | cons entry entries ih =>
      obtain ⟨l, w⟩ := entry
      rw [lookup?] at h
      split at h
      · next hkey =>
          cases h
          rw [hkey]
          exact List.mem_cons_self
      · exact List.mem_cons_of_mem _ (ih h)

theorem lookup?_eq_none_of_not_mem (h : k ∉ entries.map Prod.fst) : lookup? k entries = none := by
  induction entries with
  | nil => rfl
  | cons entry entries ih =>
      obtain ⟨l, w⟩ := entry
      rw [List.map_cons, List.mem_cons, not_or] at h
      rw [lookup?, if_neg (Ne.symm h.1), ih h.2]

theorem lookup?_eq_none_iff : lookup? k entries = none ↔ k ∉ entries.map Prod.fst := by
  refine ⟨fun h hmem => ?_, lookup?_eq_none_of_not_mem⟩
  induction entries with
  | nil => cases hmem
  | cons entry entries ih =>
      obtain ⟨l, w⟩ := entry
      rw [lookup?] at h
      split at h
      · cases h
      · next hkey =>
          rw [List.map_cons, List.mem_cons, or_iff_right (Ne.symm hkey)] at hmem
          exact ih h hmem

theorem mem_map_fst_iff : k ∈ entries.map Prod.fst ↔ ∃ v, lookup? k entries = some v := by
  rw [← Option.ne_none_iff_exists', Ne, lookup?_eq_none_iff, not_not]

theorem hasKey_eq_true_iff : hasKey k entries = true ↔ ∃ v, lookup? k entries = some v :=
  Option.isSome_iff_exists

theorem mem_map_fst_of_hasKey (h : hasKey k entries = true) : k ∈ entries.map Prod.fst := by
  obtain ⟨v, hv⟩ := hasKey_eq_true_iff.mp h
  exact List.mem_map_of_mem (mem_of_lookup? hv)

theorem lookup?_assign (k l : Text) (v : α) (entries : List (Text × α)) :
    lookup? k (assign l v entries) = if k = l then some v else lookup? k entries := by
  induction entries with
  | nil => simp only [assign, lookup?, eq_comm]
  | cons entry entries ih =>
      obtain ⟨l', w⟩ := entry
      rw [assign]
      by_cases hkey : l' = l
      · rw [if_pos hkey, lookup?, lookup?, hkey]
        by_cases hk : k = l
        · rw [if_pos hk.symm, if_pos hk]
        · rw [if_neg (Ne.symm hk), if_neg hk, if_neg (Ne.symm hk)]
      · rw [if_neg hkey, lookup?, lookup?, ih]
        by_cases hk : l' = k
        · rw [if_pos hk, if_pos hk, if_neg (fun hkl => hkey (hk.trans hkl))]
        · rw [if_neg hk, if_neg hk]

/-- Of members that are kept by their keys, the first with a key is the same. -/
theorem lookup?_filter (p : Text → Bool) (k : Text) (entries : List (Text × α)) :
    lookup? k (entries.filter fun e => p e.1) = if p k then lookup? k entries else none := by
  induction entries with
  | nil =>
      rw [List.filter_nil]
      split <;> rfl
  | cons entry entries ih =>
      obtain ⟨l, v⟩ := entry
      by_cases hl : l = k
      · rw [lookup?, if_pos hl, List.filter_cons, hl]
        split
        · rw [lookup?, if_pos rfl]
        · next hp => exact ih.trans (if_neg hp)
      · rw [lookup?, if_neg hl, ← ih, List.filter_cons]
        split
        · rw [lookup?, if_neg hl]
        · rfl

theorem lookup?_filter_ne (k l : Text) (entries : List (Text × α)) :
    lookup? k (entries.filter fun e => e.1 ≠ l) = if k = l then none else lookup? k entries := by
  rw [lookup?_filter fun key => decide (key ≠ l)]
  by_cases hk : k = l
  · rw [if_pos hk, if_neg (by simpa using hk)]
  · rw [if_neg hk, if_pos (by simpa using hk)]

/-- Setting a value adds nothing but that value. -/
theorem mem_assign {m : Text × α} (h : m ∈ assign k v entries) : m ∈ entries ∨ m.2 = v := by
  induction entries with
  | nil =>
      rw [assign, List.mem_singleton] at h
      exact Or.inr (congrArg Prod.snd h)
  | cons entry entries ih =>
      obtain ⟨l, w⟩ := entry
      rw [assign] at h
      split at h
      · rcases List.mem_cons.mp h with rfl | h
        · exact Or.inr rfl
        · exact Or.inl (List.mem_cons_of_mem _ h)
      · rcases List.mem_cons.mp h with rfl | h
        · exact Or.inl List.mem_cons_self
        · exact (ih h).imp_left (List.mem_cons_of_mem _)

theorem assign_of_not_mem (h : k ∉ entries.map Prod.fst) : assign k v entries = entries ++ [(k, v)] := by
  induction entries with
  | nil => rfl
  | cons entry entries ih =>
      obtain ⟨l, w⟩ := entry
      rw [List.map_cons, List.mem_cons, not_or] at h
      rw [assign, if_neg (Ne.symm h.1), ih h.2, List.cons_append]

/-! ## Keys -/

theorem map_fst_assign (k : Text) (v : α) (entries : List (Text × α)) :
    (assign k v entries).map Prod.fst =
      if k ∈ entries.map Prod.fst then entries.map Prod.fst else entries.map Prod.fst ++ [k] := by
  induction entries with
  | nil => rfl
  | cons entry entries ih =>
      obtain ⟨l, w⟩ := entry
      rw [assign]
      by_cases hkey : l = k
      · rw [if_pos hkey, if_pos (by rw [List.map_cons, hkey]; exact List.mem_cons_self)]
        rfl
      · have hmem : k ∈ ((l, w) :: entries).map Prod.fst ↔ k ∈ entries.map Prod.fst := by
          rw [List.map_cons, List.mem_cons, or_iff_right (Ne.symm hkey)]
        rw [if_neg hkey, List.map_cons, ih]
        simp only [hmem]
        split <;> rfl

theorem nodup_map_fst_assign (h : (entries.map Prod.fst).Nodup) :
    ((assign k v entries).map Prod.fst).Nodup := by
  rw [map_fst_assign]
  split
  · exact h
  · next hk => exact List.concat_eq_append ▸ h.concat hk

/-- The keys of entries that are set one after another are those of all of them without repeats. -/
theorem map_fst_assignAll {entries : List (Text × α)} (h : (entries.map Prod.fst).Nodup)
    (updates : List (Text × α)) : (assignAll entries updates).map Prod.fst =
      distinct (entries.map Prod.fst ++ updates.map Prod.fst) := by
  induction updates generalizing entries with
  | nil =>
      rw [List.map_nil, List.append_nil, distinct_of_nodup h]
      rfl
  | cons u updates ih =>
      have hkeys := map_fst_assign u.1 u.2 entries
      have hdistinct : distinct (entries.map Prod.fst ++ [u.1]) =
          (assign u.1 u.2 entries).map Prod.fst := by
        rw [hkeys, distinct_append, distinct_of_nodup h]
        split
        · rename_i hmem
          rw [distinct_cons, List.filter_cons_of_neg (by simpa using hmem)]
          exact List.append_nil _
        · rename_i hmem
          rw [distinct_cons, List.filter_cons_of_pos (by simpa using hmem)]
          rfl
      have hnodup : ((assign u.1 u.2 entries).map Prod.fst).Nodup :=
        hdistinct ▸ nodup_distinct _
      show (assignAll (assign u.1 u.2 entries) updates).map Prod.fst = _
      rw [ih hnodup, List.map_cons, List.append_cons]
      refine distinct_append_congr ?_ rfl
      rw [hdistinct, distinct_of_nodup hnodup]

theorem nodup_map_fst_assignAll {entries : List (Text × α)} (h : (entries.map Prod.fst).Nodup)
    (updates : List (Text × α)) : ((assignAll entries updates).map Prod.fst).Nodup :=
  map_fst_assignAll h updates ▸ nodup_distinct _

/-- Entries with different keys are all there. -/
theorem assignAll_of_nodup {entries updates : List (Text × α)}
    (h : (entries.map Prod.fst ++ updates.map Prod.fst).Nodup) :
    assignAll entries updates = entries ++ updates := by
  induction updates generalizing entries with
  | nil => exact (List.append_nil entries).symm
  | cons u updates ih =>
      have hfresh : u.1 ∉ entries.map Prod.fst := fun hmem =>
        List.disjoint_of_nodup_append h hmem List.mem_cons_self
      show assignAll (assign u.1 u.2 entries) updates = _
      rw [assign_of_not_mem hfresh, ih, List.append_assoc]
      · rfl
      · rwa [List.map_append, List.append_assoc]

theorem lookup?_assignAll {updates : List (Text × α)} (h : (updates.map Prod.fst).Nodup)
    (k : Text) (entries : List (Text × α)) :
    lookup? k (assignAll entries updates) = (lookup? k updates).or (lookup? k entries) := by
  induction updates generalizing entries with
  | nil => rfl
  | cons u updates ih =>
      rw [List.map_cons, List.nodup_cons] at h
      show lookup? k (assignAll (assign u.1 u.2 entries) updates) = _
      rw [ih h.2, lookup?_assign, lookup?]
      by_cases hk : k = u.1
      · rw [hk, lookup?_eq_none_of_not_mem h.1, if_pos rfl, if_pos rfl]
        rfl
      · rw [if_neg hk, if_neg (Ne.symm hk)]

/-- Values given for some of the names. -/
theorem lookup?_filterMap (g : Text → Option α) (k : Text) (names : List Text) :
    lookup? k (names.filterMap fun name => (g name).map (Prod.mk name)) =
      if k ∈ names then g k else none := by
  induction names with
  | nil => rfl
  | cons name names ih =>
      by_cases hk : k = name
      · subst hk
        rw [if_pos List.mem_cons_self]
        cases hg : g k with
        | none => rw [List.filterMap_cons_none (by rw [hg]; rfl), ih, hg, ite_self]
        | some v => rw [List.filterMap_cons_some (b := (k, v)) (by rw [hg]; rfl), lookup?, if_pos rfl]
      · simp only [List.mem_cons, hk, false_or]
        rw [← ih]
        cases hg : g name with
        | none => rw [List.filterMap_cons_none (by rw [hg]; rfl)]
        | some v =>
            rw [List.filterMap_cons_some (b := (name, v)) (by rw [hg]; rfl), lookup?,
              if_neg (Ne.symm hk)]

theorem map_fst_filterMap (g : Text → Option α) (names : List Text) :
    (names.filterMap fun name => (g name).map (Prod.mk name)).map Prod.fst =
      names.filter fun name => (g name).isSome := by
  induction names with
  | nil => rfl
  | cons name names ih =>
      cases hg : g name with
      | none =>
          rw [List.filterMap_cons_none (by rw [hg]; rfl), ih,
            List.filter_cons_of_neg (by rw [hg]; exact Bool.false_ne_true)]
      | some v =>
          rw [List.filterMap_cons_some (b := (name, v)) (by rw [hg]; rfl), List.map_cons, ih,
            List.filter_cons_of_pos (by rw [hg]; rfl)]

/-! ## Some of the keys -/

theorem filter_assign (p : Text → Bool) (k : Text) (v : α) (entries : List (Text × α)) :
    (assign k v entries).filter (fun e => p e.1) =
      if p k then assign k v (entries.filter fun e => p e.1) else entries.filter fun e => p e.1 := by
  induction entries with
  | nil =>
      rw [assign, List.filter_nil, List.filter_singleton]
      cases p k <;> rfl
  | cons entry entries ih =>
      obtain ⟨l, w⟩ := entry
      rw [assign]
      by_cases hkey : l = k
      · subst hkey
        cases hp : p l <;> simp [hp, assign]
      · rw [if_neg hkey, List.filter_cons, List.filter_cons, ih]
        cases hp : p l <;> cases hq : p k <;> simp [assign, hkey]

theorem filter_assignAll (p : Text → Bool) (entries updates : List (Text × α)) :
    (assignAll entries updates).filter (fun e => p e.1) =
      assignAll (entries.filter fun e => p e.1) (updates.filter fun e => p e.1) := by
  induction updates generalizing entries with
  | nil => rfl
  | cons u updates ih =>
      show (assignAll (assign u.1 u.2 entries) updates).filter _ = _
      rw [ih, filter_assign, List.filter_cons]
      cases p u.1 <;> rfl

/-! ## Values inside others -/

theorem Json.sizeOf_lt_of_mem {j : Json} {items : List Json} (h : j ∈ items) :
    sizeOf j < sizeOf (Json.arr items) := by
  have := List.sizeOf_lt_of_mem h
  simp only [Json.arr.sizeOf_spec]
  omega

theorem Json.sizeOf_lt_of_lookup? {j : Json} {members : List (Text × Json)}
    (h : lookup? k members = some j) : sizeOf j < sizeOf (Json.obj members) := by
  have hmem := List.sizeOf_lt_of_mem (mem_of_lookup? h)
  simp only [Json.obj.sizeOf_spec]
  simp only [Prod.mk.sizeOf_spec] at hmem
  omega

end CallBindings
