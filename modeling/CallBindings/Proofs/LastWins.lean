import CallBindings.Proofs.Json.Members

set_option autoImplicit false

/-! # The last entry of a key wins

Layers of entries are laid over each other. For each key one entry is left: it stands where the key
came first, and it is the last one that the key came with. This says all there is to say of what is
left, so two ways of laying layers over each other that both keep to it come to the same entries;
and layers may be put together in any grouping, since what is left of some of them can stand for
them.
-/

namespace CallBindings

variable {α β κ : Type} {key : α → κ} {as bs ms ns rs : List α} {e e' : α}

/-! ## The last entry of a key -/

/-- Whether `e` is the last of some entries with its key. -/
def IsLast (key : α → κ) (entries : List α) (e : α) : Prop :=
  ∃ before after, entries = before ++ e :: after ∧ ∀ later ∈ after, key later ≠ key e

theorem IsLast.mem (h : IsLast key as e) : e ∈ as := by
  obtain ⟨before, after, rfl, -⟩ := h
  exact List.mem_append_right before List.mem_cons_self

theorem not_isLast_nil : ¬ IsLast key [] e := fun h => List.not_mem_nil h.mem

/-- An entry of two layers comes from the upper one, or from the lower one if its key is not in the
upper one. -/
theorem isLast_append :
    IsLast key (as ++ bs) e ↔ IsLast key bs e ∨ IsLast key as e ∧ key e ∉ bs.map key := by
  have hkey : key e ∉ bs.map key ↔ ∀ later ∈ bs, key later ≠ key e := by simp
  constructor
  · rintro ⟨before, after, heq, hafter⟩
    -- the place of `e` is in the second list, or in the first with the whole second behind it
    rcases List.append_eq_append_iff.mp heq with ⟨rest, -, hbs⟩ | ⟨rest, has, hrest⟩
    · exact Or.inl ⟨rest, after, hbs, hafter⟩
    · cases rest with
      | nil => exact Or.inl ⟨[], after, hrest.symm, hafter⟩
      | cons x rest =>
          rw [List.cons_append] at hrest
          obtain ⟨rfl, rfl⟩ := List.cons.inj hrest
          rw [List.forall_mem_append] at hafter
          exact Or.inr ⟨⟨before, rest, has, hafter.1⟩, hkey.mpr hafter.2⟩
  · rintro (⟨before, after, rfl, hafter⟩ | ⟨⟨before, after, rfl, hafter⟩, hbs⟩)
    · exact ⟨as ++ before, after, (List.append_assoc _ _ _).symm, hafter⟩
    · refine ⟨before, after ++ bs, by rw [List.append_assoc, List.cons_append], ?_⟩
      exact List.forall_mem_append.mpr ⟨hafter, hkey.mp hbs⟩

/-- No two entries are the last with one key. -/
theorem IsLast.unique (h : IsLast key as e) (h' : IsLast key as e') (hkey : key e = key e') :
    e = e' := by
  induction as with
  | nil => exact absurd h not_isLast_nil
  | cons a as ih =>
      rw [← List.singleton_append, isLast_append] at h h'
      have hmem : ∀ x, IsLast key [a] x → x = a := fun x hx => List.mem_singleton.mp hx.mem
      rcases h with h | ⟨h, hnot⟩ <;> rcases h' with h' | ⟨h', hnot'⟩
      · exact ih h h'
      · exact absurd (hkey ▸ List.mem_map_of_mem h.mem) hnot'
      · exact absurd (hkey ▸ List.mem_map_of_mem h'.mem) hnot
      · rw [hmem e h, hmem e' h']

/-- Where no key comes twice, every entry is the last with its key. -/
theorem isLast_of_nodup (h : (as.map key).Nodup) (he : e ∈ as) : IsLast key as e := by
  obtain ⟨before, after, rfl⟩ := List.append_of_mem he
  refine ⟨before, after, rfl, fun later hlater heq => ?_⟩
  rw [List.map_append, List.map_cons, List.nodup_append] at h
  exact (List.nodup_cons.mp h.2.1).1 (heq ▸ List.mem_map_of_mem hlater)

/-! ## What is left of the entries -/

variable [DecidableEq κ]

/-- Whether `left` is what is left of some entries when later ones replace earlier ones with the
same key. -/
structure LastWins (key : α → κ) (entries left : List α) : Prop where
  /-- There is one entry for each key, in the order in which the keys come first. -/
  keys : left.map key = distinct (entries.map key)
  /-- It is the last one with that key. -/
  last : ∀ e ∈ left, IsLast key entries e

namespace LastWins

theorem nodup (h : LastWins key as ms) : (ms.map key).Nodup := h.keys ▸ nodup_distinct _

theorem mem_keys_iff (h : LastWins key as ms) {k : κ} : k ∈ ms.map key ↔ k ∈ as.map key := by
  rw [h.keys, mem_distinct]

/-- What is left has the keys that the entries have. -/
theorem forall_key_iff (h : LastWins key as ms) {P : κ → Prop} :
    (∀ e ∈ ms, P (key e)) ↔ ∀ e ∈ as, P (key e) := by
  have hleft : (∀ k ∈ ms.map key, P k) ↔ ∀ e ∈ ms, P (key e) := List.forall_mem_map
  have hright : (∀ k ∈ as.map key, P k) ↔ ∀ e ∈ as, P (key e) := List.forall_mem_map
  rw [← hleft, ← hright]
  simp only [h.mem_keys_iff]

/-- Nothing is replaced where no key comes twice. -/
theorem self (h : (as.map key).Nodup) : LastWins key as as where
  keys := (distinct_of_nodup h).symm
  last := fun _ => isLast_of_nodup h

/-- Keys and last entries leave no choice. -/
theorem unique (h : LastWins key as ms) (h' : LastWins key as ns) : ms = ns := by
  have hkeys : ms.map key = ns.map key := h.keys.trans h'.keys.symm
  have hlength : ms.length = ns.length := by
    simpa only [List.length_map] using congrArg List.length hkeys
  refine List.ext_getElem hlength fun i hi hi' => ?_
  refine (h.last _ (List.getElem_mem hi)).unique (h'.last _ (List.getElem_mem hi')) ?_
  have hat : (ms.map key)[i]? = (ns.map key)[i]? := by rw [hkeys]
  rwa [List.getElem?_map, List.getElem?_map, List.getElem?_eq_getElem hi,
    List.getElem?_eq_getElem hi', Option.map_some, Option.map_some, Option.some.injEq] at hat

/-- **What is left of layers can stand for them**, below and above other layers. -/
theorem append (ha : LastWins key as ms) (hb : LastWins key bs ns)
    (h : LastWins key (ms ++ ns) rs) : LastWins key (as ++ bs) rs where
  keys := by
    have hdistinct : ∀ xs : List κ, distinct (distinct xs) = distinct xs :=
      fun xs => distinct_of_nodup (nodup_distinct xs)
    calc rs.map key = distinct (ms.map key ++ ns.map key) := by rw [h.keys, List.map_append]
      _ = distinct (as.map key ++ bs.map key) := by
          rw [ha.keys, hb.keys]
          exact distinct_append_congr (hdistinct _) (hdistinct _)
      _ = distinct ((as ++ bs).map key) := by rw [List.map_append]
  last := by
    intro e he
    rcases isLast_append.mp (h.last e he) with hlast | ⟨hlast, hnot⟩
    · exact isLast_append.mpr (Or.inl (hb.last e hlast.mem))
    · exact isLast_append.mpr
        (Or.inr ⟨ha.last e hlast.mem, fun hmem => hnot (hb.mem_keys_iff.mpr hmem)⟩)

/-- Laying what is left over the lowest layer again changes nothing. -/
theorem again (h : LastWins key (as ++ bs) ms) : LastWins key (as ++ ms) ms where
  keys := by
    have hold : (distinct (as.map key)).filter (· ∉ as.map key) = [] := by
      rw [List.filter_eq_nil_iff]
      intro k hk
      simpa using mem_distinct.mp hk
    rw [List.map_append, distinct_append, h.keys, List.map_append, distinct_append,
      ← distinct_append, distinct_of_nodup (nodup_distinct _), distinct_append, List.filter_append,
      hold, List.filter_filter, List.nil_append]
    simp only [Bool.and_self]
  last := fun _ he => isLast_append.mpr (Or.inl (isLast_of_nodup h.nodup he))

/-- What is left of entries that can be read off others is read off what is left of those. -/
theorem of_map {xs : List β} {f : β → α} {g : α → β} (hg : Function.LeftInverse g f)
    (h : LastWins key (xs.map f) ms) : LastWins (key ∘ f) xs (ms.map g) := by
  -- every member that is kept is an image, so going back and forth leaves it
  have hsource : ∀ e ∈ ms, f (g e) = e := by
    intro e he
    obtain ⟨x, -, rfl⟩ := List.mem_map.mp (h.last e he).mem
    rw [hg x]
  refine ⟨?_, List.forall_mem_map.mpr fun e he => ?_⟩
  · calc (ms.map g).map (key ∘ f) = ms.map key := by
          rw [List.map_map]
          exact List.map_congr_left fun e he => congrArg key (hsource e he)
      _ = distinct (xs.map (key ∘ f)) := by rw [h.keys, List.map_map]
  · obtain ⟨before, after, heq, hafter⟩ := h.last e he
    obtain ⟨before', rest, rfl, -, hrest⟩ := List.map_eq_append_iff.mp heq
    obtain ⟨x, after', rfl, rfl, rfl⟩ := List.map_eq_cons_iff.mp hrest
    rw [hg x]
    exact ⟨before', after', rfl, fun y hy => hafter (f y) (List.mem_map_of_mem hy)⟩

end LastWins

/-! ## Entries that are set one after another -/

variable {γ : Type} {entries : List (Text × γ)}

/-- Setting a value leaves it and the entries with other keys. -/
theorem mem_assign_cases {k : Text} {v : γ} {m : Text × γ} (h : (entries.map Prod.fst).Nodup)
    (hm : m ∈ assign k v entries) : m = (k, v) ∨ m ∈ entries ∧ m.1 ≠ k := by
  induction entries with
  | nil => exact Or.inl (List.mem_singleton.mp hm)
  | cons entry entries ih =>
      obtain ⟨l, w⟩ := entry
      rw [List.map_cons, List.nodup_cons] at h
      rw [assign] at hm
      split at hm
      · next hkey =>
          rcases List.mem_cons.mp hm with rfl | hm
          · exact Or.inl (by rw [hkey])
          · -- the name stands in front, and no name stands twice
            refine Or.inr ⟨List.mem_cons_of_mem _ hm, fun heq => h.1 ?_⟩
            have hmem : m.1 ∈ entries.map Prod.fst := List.mem_map_of_mem hm
            rwa [heq, ← hkey] at hmem
      · next hkey =>
          rcases List.mem_cons.mp hm with rfl | hm
          · exact Or.inr ⟨List.mem_cons_self, hkey⟩
          · exact (ih h.2 hm).imp_right fun hm => ⟨List.mem_cons_of_mem _ hm.1, hm.2⟩

theorem lastWins_assign (h : (entries.map Prod.fst).Nodup) (u : Text × γ) :
    LastWins Prod.fst (entries ++ [u]) (assign u.1 u.2 entries) where
  keys := by
    rw [List.map_append]
    exact map_fst_assignAll h [u]
  last := by
    intro e he
    rcases mem_assign_cases h he with rfl | ⟨hmem, hne⟩
    · exact ⟨entries, [], rfl, List.forall_mem_nil _⟩
    · exact isLast_append.mpr (Or.inr ⟨isLast_of_nodup h hmem, by simpa using hne⟩)

/-- **Entries that are set one after another replace each other.** -/
theorem lastWins_assignAll (h : (entries.map Prod.fst).Nodup) (updates : List (Text × γ)) :
    LastWins Prod.fst (entries ++ updates) (assignAll entries updates) := by
  -- the last update is the one that is set last, so the induction is from the end
  induction updates using List.reverseRecOn with
  | nil =>
      rw [List.append_nil]
      exact .self h
  | append_singleton updates u ih =>
      have hstep : assignAll entries (updates ++ [u]) = assign u.1 u.2 (assignAll entries updates) :=
        List.foldl_concat _ _ _ _
      rw [hstep, ← List.append_assoc]
      exact ih.append (.self (List.nodup_singleton _)) (lastWins_assign ih.nodup u)

end CallBindings
