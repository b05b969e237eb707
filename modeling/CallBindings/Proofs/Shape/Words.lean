import CallBindings.Proofs.Shape.TypeText
import CallBindings.Proofs.Text.Tokens
import CallBindings.Shape.References

set_option autoImplicit false

/-! # The words of a type expression

Apart from the fixed words, the words of a type expression are the names of the references of
its shape, in the order of first occurrence. The type expression drops repeated members of a
union and the references drop repeated ids; both leave the first occurrences in their places,
because the words of a dropped member stand in an earlier one.
-/

namespace CallBindings

open Text

/-- The words of a text that are none of the fixed ones. -/
def Text.freeWords (t : Text) : List Text := t.words.filter (· ∉ fixedNames)

namespace Shape

/-! ## References -/

/-- The ids that a shape refers to, from left to right, repeats included. -/
def referenced (s : Shape) : List Text := s.nodes.flatMap ids

theorem referenced_eq (s : Shape) : s.referenced = s.ids ++ s.children.flatMap referenced := by
  rw [referenced, nodes_eq, List.flatMap_cons, List.flatMap_assoc]
  rfl

theorem mem_referenced_reference (id : Text) : id ∈ (reference id).referenced := by
  rw [referenced_eq]
  exact List.mem_append_left _ List.mem_cons_self

theorem referenced_subset_of_child {s c : Shape} (hc : c ∈ s.children) :
    c.referenced ⊆ s.referenced := by
  intro id hid
  rw [referenced_eq s]
  exact List.mem_append_right _ (List.mem_flatMap.mpr ⟨c, hc, hid⟩)

theorem allReferencesOf_eq {ss : List Shape}
    (h : ∀ s ∈ ss, s.allReferences = .ok s.referenced) :
    allReferencesOf ss = .ok (ss.flatMap referenced) := by
  induction ss with
  | nil => rfl
  | cons s ss ih =>
      rw [allReferencesOf, h s List.mem_cons_self, ih fun t ht => h t (List.mem_cons_of_mem s ht)]
      rfl

theorem allReferencesOfFields_eq (fields : List (Field Shape)) :
    allReferencesOfFields fields = allReferencesOf (fields.map (·.content)) := by
  induction fields with
  | nil => rfl
  | cons f fields ih => rw [allReferencesOfFields, ih, List.map_cons, allReferencesOf]

/-- References are collected from all nodes. -/
theorem allReferences_eq (s : Shape) (hs : s.Sound) : s.allReferences = .ok s.referenced := by
  induction s using Shape.induction with
  | node s ih =>
      obtain ⟨hsn, hsc⟩ := sound_iff.mp hs
      have hchildren : allReferencesOf s.children = .ok (s.children.flatMap referenced) :=
        allReferencesOf_eq fun c hc => ih c hc (hsc c hc)
      rw [referenced_eq]
      cases s with
      | boolean => rfl
      | number choices => rfl
      | string choices format => rfl
      | special kind => rfl
      | reference id => rfl
      | foreign value => exact hsn.elim
      | tuple elements => exact hchildren
      | union variants => exact hchildren
      | dictionary fields =>
          rw [allReferences, allReferencesOfFields_eq]
          exact hchildren
      | array element =>
          have he := ih element (by simp [children]) (hsc element (by simp [children]))
          rw [allReferences, he]
          simp [ids, children]
      | map key value =>
          have hk := ih key (by simp [children]) (hsc key (by simp [children]))
          have hv := ih value (by simp [children]) (hsc value (by simp [children]))
          rw [allReferences, hk, hv]
          simp [ids, children, bind, Except.bind]

/-! ## Words between brackets -/

theorem closed_of_forall {t : Text} {ws : List Text}
    (h : ∀ rest, Stops rest → words (t ++ rest) = ws ++ words rest) :
    Closed t ∧ words t = ws := by
  have hnil := h [] stops_nil
  rw [List.append_nil, words_nil, List.append_nil] at hnil
  exact ⟨fun rest hrest => by rw [h rest hrest, hnil], hnil⟩

theorem closed_of_isIdentifier {w : Text} (hw : w.isIdentifier = true) :
    Closed w ∧ words w = [w] :=
  closed_of_forall fun _ hrest =>
    words_identifier hw (hrest.ends fun _ => not_inIdentifier_of_isStop)

theorem words_brackets {ts : List Text} (h : ∀ t ∈ ts, Closed t) (rest : Text) :
    words (brackets ts ++ rest) = ts.flatMap words ++ words rest := by
  rw [brackets_append, words_mark (by decide), words_join (by decide) h]

/-- A word in front of brackets. -/
theorem closed_word_brackets {w : Text} {ts : List Text} (hw : w ∈ fixedNames)
    (h : ∀ t ∈ ts, Closed t) :
    Closed (w ++ brackets ts) ∧ words (w ++ brackets ts) = w :: ts.flatMap words := by
  refine closed_of_forall fun rest _ => ?_
  have hends : Ends CodePoint.inIdentifier (brackets ts ++ rest) := by
    rw [brackets_append]
    exact ends_cons (CodePoint.inIdentifier_of_ascii (by decide)) _
  rw [List.append_assoc, words_identifier (isIdentifier_of_mem_fixedNames w hw) hends,
    words_brackets h]
  rfl

theorem freeWords_of_words {t w : Text} {ts : List Text} (hw : w ∈ fixedNames)
    (h : words t = w :: ts.flatMap words) : t.freeWords = ts.flatMap freeWords := by
  rw [freeWords, h, List.filter_cons_of_neg (by simpa using hw), List.filter_flatMap]
  rfl

theorem freeWords_of_mem_fixedNames {w : Text} (hw : w ∈ fixedNames) : w.freeWords = [] := by
  rw [freeWords, (closed_of_isIdentifier (isIdentifier_of_mem_fixedNames w hw)).2,
    List.filter_cons_of_neg (by simpa using hw)]
  rfl

/-! ## Nodes -/

/-- The words that the literals of a shape are written with, from left to right. -/
def numberWords (s : Shape) : List Text := s.nodes.flatMap fun n => n.literals.filterMap Json.word?

/-- The words that a node brings into a type expression beside the fixed ones: those of its
literals, or the name of the type it refers to. -/
def ownWords (n : Shape) : List Text := n.literals.filterMap Json.word? ++ n.ids.map typeName

/-- The words that the nodes of a shape bring in, from left to right. -/
def nodeWords (s : Shape) : List Text := s.nodes.flatMap ownWords

theorem nodeWords_eq (s : Shape) : s.nodeWords = s.ownWords ++ s.children.flatMap nodeWords := by
  rw [nodeWords, nodes_eq, List.flatMap_cons, List.flatMap_assoc]
  rfl

theorem mem_nodeWords {s : Shape} {w : Text} :
    w ∈ s.nodeWords ↔ w ∈ s.referenced.map typeName ∨ w ∈ s.numberWords := by
  simp only [nodeWords, ownWords, numberWords, referenced, List.mem_flatMap, List.mem_append,
    List.map_flatMap]
  constructor
  · rintro ⟨n, hn, h | h⟩
    · exact Or.inr ⟨n, hn, h⟩
    · exact Or.inl ⟨n, hn, h⟩
  · rintro (⟨n, hn, h⟩ | ⟨n, hn, h⟩)
    · exact ⟨n, hn, Or.inr h⟩
    · exact ⟨n, hn, Or.inl h⟩

/-- A text that can stand for a shape in a type expression: besides fixed words it has the words
that the nodes of the shape bring in. -/
structure Bears (s : Shape) (t : Text) : Prop where
  closed : Closed t
  words : distinct t.freeWords = distinct (s.nodeWords.filter (· ∉ fixedNames))

/-- A node that brings in nothing bears a text that has the words of its children. -/
theorem bears_of_children {s : Shape} {t : Text} (h : ∀ c ∈ s.children, Bears c c.written)
    (hown : s.ownWords = []) (hclosed : Closed t)
    (hwords : distinct t.freeWords = distinct (s.children.flatMap fun c => c.written.freeWords)) :
    Bears s t := by
  refine ⟨hclosed, ?_⟩
  rw [hwords, nodeWords_eq, hown, List.nil_append, List.filter_flatMap]
  exact distinct_flatMap_congr fun c hc => (h c hc).words

theorem literalText_of_isStringLiteral {j : Json} (h : isStringLiteral j = true) :
    ∃ t : Text, j = .str t ∧ literalText j = t.quote := by
  cases j <;> simp only [isStringLiteral, Bool.false_eq_true] at h
  case str t => exact ⟨t, rfl, rfl⟩

/-- A literal has no word unless it is a number that is not finite. -/
theorem closed_literalText {j : Json} (hj : isNumberLiteral j = true ∨ isStringLiteral j = true) :
    Closed (literalText j) ∧ words (literalText j) = j.word?.toList := by
  refine closed_of_forall fun rest hrest => ?_
  rcases hj with hj | hj
  · have hshown : literalText j = j.shown := by
      cases j <;> first | rfl | cases hj
    rw [hshown, words_shown hj hrest]
  · obtain ⟨t, rfl, ht⟩ := literalText_of_isStringLiteral hj
    rw [ht, words_quote]
    rfl

/-- Besides fixed words an enumeration has those of its literals. -/
theorem closed_choicesText {plain : Text} {choices : Option (List Json)}
    (hplain : plain ∈ fixedNames)
    (h : ∀ j ∈ choices.getD [], isNumberLiteral j = true ∨ isStringLiteral j = true) :
    Closed (choicesText plain choices) ∧ (choicesText plain choices).freeWords =
      ((choices.getD []).filterMap Json.word?).filter (· ∉ fixedNames) := by
  rw [choicesText_eq]
  -- without choices the plain word stands alone; otherwise they stand in the brackets of a literal
  cases hkept : keptChoices choices with
  | none =>
      have hnone : choices.getD [] = [] := by
        rcases choices with _ | _ | ⟨j, js⟩
        · rfl
        · rfl
        · cases hkept
      rw [hnone]
      exact ⟨(closed_of_isIdentifier (isIdentifier_of_mem_fixedNames _ hplain)).1,
        freeWords_of_mem_fixedNames hplain⟩
  | some js =>
      obtain ⟨rfl, -⟩ := keptChoices_eq_some hkept
      have hliteral : ofString "Literal" ∈ fixedNames := by decide
      have hclosed : ∀ t ∈ js.map literalText, Closed t := by
        intro t ht
        obtain ⟨j, hj, rfl⟩ := List.mem_map.mp ht
        exact (closed_literalText (h j hj)).1
      obtain ⟨hc, hw⟩ := closed_word_brackets hliteral hclosed
      refine ⟨hc, (freeWords_of_words hliteral hw).trans ?_⟩
      rw [Option.getD_some, List.filterMap_eq_flatMap_toList, List.filter_flatMap,
        List.flatMap_map]
      exact List.flatMap_congr fun j hj =>
        congrArg (List.filter (· ∉ fixedNames)) (closed_literalText (h j hj)).2

/-- A union of written members has the words of its members. -/
theorem closed_unionText {ts : List Text} (h : ∀ t ∈ ts, Closed t) :
    Closed (unionText ts) ∧
      distinct (unionText ts).freeWords = distinct (ts.flatMap freeWords) := by
  have hclosed : ∀ t ∈ distinct ts, Closed t := fun t ht => h t (mem_distinct.mp ht)
  rw [← distinct_flatMap_distinct, unionText]
  split
  · rename_i hnil
    have hnever : ofString "Never" ∈ fixedNames := by decide
    rw [hnil]
    exact ⟨(closed_of_isIdentifier (isIdentifier_of_mem_fixedNames _ hnever)).1, by
      rw [freeWords_of_mem_fixedNames hnever]; rfl⟩
  · rename_i t hone
    rw [hone]
    exact ⟨hclosed t (by simp [hone]), by rw [List.flatMap_singleton]⟩
  · have hunion : ofString "Union" ∈ fixedNames := by decide
    obtain ⟨hc, hw⟩ := closed_word_brackets hunion hclosed
    exact ⟨hc, congrArg distinct (freeWords_of_words hunion hw)⟩

/-- A field has the words of its type, behind a fixed one if it is optional. -/
theorem closed_words_fieldText {t : Text} (name : Text) (optional : Bool) (ht : Closed t) :
    Closed (fieldText name optional t) ∧ words (fieldText name optional t) =
      (if optional then [optionalWord] else []) ++ words t := by
  have hcolon : ∀ c ∈ ofString ": ", c ∈ marks := by decide
  have htype : ∀ body : Text, ∀ rest : Text,
      words (name.quote ++ ofString ": " ++ body ++ rest) = words (body ++ rest) := by
    intro body rest
    rw [List.append_assoc, List.append_assoc, words_quote, words_marks hcolon]
  rw [fieldText]
  cases optional with
  | false =>
      have hwords : ∀ rest : Text, Stops rest →
          words (name.quote ++ ofString ": " ++ t ++ rest) = words t ++ words rest :=
        fun rest hrest => by rw [htype, ht rest hrest]
      exact closed_of_forall hwords
  | true =>
      have hpart : ∀ u ∈ [t], Closed u := by simpa using ht
      obtain ⟨hc, hw⟩ := closed_word_brackets optionalWord_mem_fixedNames hpart
      rw [List.flatMap_singleton] at hw
      have hwords : ∀ rest : Text, Stops rest →
          words (name.quote ++ ofString ": " ++ (optionalWord ++ brackets [t]) ++ rest) =
            (optionalWord :: words t) ++ words rest :=
        fun rest hrest => by rw [htype, hc rest hrest, hw]
      exact closed_of_forall hwords

theorem closed_fieldText {t : Text} (name : Text) (optional : Bool) (ht : Closed t) :
    Closed (fieldText name optional t) ∧ (fieldText name optional t).freeWords = t.freeWords := by
  obtain ⟨hc, hw⟩ := closed_words_fieldText name optional ht
  refine ⟨hc, ?_⟩
  rw [freeWords, hw, List.filter_append]
  cases optional with
  | false => rfl
  | true =>
      rw [if_pos rfl, List.filter_cons_of_neg (by simpa using optionalWord_mem_fixedNames)]
      rfl

/-- A record has the words of its fields behind a fixed one. -/
theorem closed_words_record {ts : List Text} (h : ∀ t ∈ ts, Closed t) :
    Closed ("TypedDict" ++ braces ts) ∧
      words ("TypedDict" ++ braces ts) = ofString "TypedDict" :: ts.flatMap words := by
  have hword : ofString "TypedDict" ∈ fixedNames := by decide
  refine closed_of_forall fun rest _ => ?_
  have hends : ∀ u : Text, Ends CodePoint.inIdentifier (ofString "[\x7b" ++ u) :=
    fun u => ends_cons (CodePoint.inIdentifier_of_ascii (by decide)) _
  show words (ofString "TypedDict" ++ braces ts ++ rest) = _
  rw [List.append_assoc, braces_append,
    words_identifier (isIdentifier_of_mem_fixedNames _ hword) (hends _),
    words_marks (by decide), words_join (by decide) h, words_mark (by decide)]
  rfl

theorem closed_record {ts : List Text} (h : ∀ t ∈ ts, Closed t) :
    Closed ("TypedDict" ++ braces ts) ∧
      freeWords ("TypedDict" ++ braces ts) = ts.flatMap freeWords := by
  have hword : ofString "TypedDict" ∈ fixedNames := by decide
  obtain ⟨hc, hw⟩ := closed_words_record h
  exact ⟨hc, freeWords_of_words hword hw⟩

/-- Children between brackets behind a fixed word. -/
theorem bears_of_brackets {s : Shape} {w : Text} (hw : w ∈ fixedNames)
    (h : ∀ c ∈ s.children, Bears c c.written) (hown : s.ownWords = []) :
    Bears s (w ++ brackets (s.children.map written)) := by
  have hclosed : ∀ t ∈ s.children.map written, Closed t := by
    intro t ht
    obtain ⟨c, hc, rfl⟩ := List.mem_map.mp ht
    exact (h c hc).closed
  obtain ⟨hbrackets, hwords⟩ := closed_word_brackets hw hclosed
  refine bears_of_children h hown hbrackets ?_
  rw [freeWords_of_words hw hwords, List.flatMap_map]

/-- A node without children that is written with fixed words and its own. -/
theorem bears_of_leaf {s : Shape} {t : Text} (hchildren : s.children = [])
    (h : Closed t ∧ t.freeWords = s.ownWords.filter (· ∉ fixedNames)) : Bears s t := by
  refine ⟨h.1, ?_⟩
  rw [h.2, nodeWords_eq, hchildren, List.flatMap_nil, List.append_nil]

theorem closed_of_mem_fixedNames {w : Text} (hw : w ∈ fixedNames) :
    Closed w ∧ w.freeWords = [] :=
  ⟨(closed_of_isIdentifier (isIdentifier_of_mem_fixedNames w hw)).1,
    freeWords_of_mem_fixedNames hw⟩

/-- The empty tuple has parentheses in the place of types. -/
theorem closed_emptyTuple : Closed (ofString "Tuple[()]") ∧ freeWords "Tuple[()]" = [] := by
  have hwords : ∀ rest : Text, Stops rest →
      words ("Tuple[()]" ++ rest) = [ofString "Tuple"] ++ words rest := by
    intro rest _
    have hends : Ends CodePoint.inIdentifier (ofString "[()]" ++ rest) :=
      ends_cons (CodePoint.inIdentifier_of_ascii (by decide)) _
    show words (ofString "Tuple" ++ (ofString "[()]" ++ rest)) = _
    rw [words_identifier (by decide) hends, words_marks (by decide)]
    rfl
  obtain ⟨hc, hw⟩ := closed_of_forall hwords
  refine ⟨hc, ?_⟩
  rw [freeWords, hw]
  decide

/-- **The type expression of a sound shape has no other words than fixed ones and those that its
nodes bring in,** and these in the order of the nodes. -/
theorem bears_written (s : Shape) (hs : s.Sound) : Bears s s.written := by
  induction s using Shape.induction with
  | node s ih =>
      obtain ⟨hsn, hsc⟩ := sound_iff.mp hs
      have hchild : ∀ c ∈ s.children, Bears c c.written := fun c hc => ih c hc (hsc c hc)
      rw [written_eq hs]
      cases s with
      | boolean => exact bears_of_leaf rfl (closed_of_mem_fixedNames (by decide))
      | number choices =>
          have hown : (Shape.number choices).ownWords = (choices.getD []).filterMap Json.word? :=
            List.append_nil _
          refine bears_of_leaf rfl ?_
          rw [hown]
          exact closed_choicesText (by decide) fun j hj => Or.inl (hsn j hj)
      | string choices format =>
          have hown : (Shape.string choices format).ownWords =
              (choices.getD []).filterMap Json.word? := List.append_nil _
          refine bears_of_leaf rfl ?_
          rw [hown]
          exact closed_choicesText (by decide) fun j hj => Or.inr (hsn j hj)
      | array element => exact bears_of_brackets (by decide) hchild rfl
      | tuple elements =>
          cases elements with
          | nil => exact bears_of_leaf rfl closed_emptyTuple
          | cons e es => exact bears_of_brackets (by decide) hchild rfl
      | dictionary fields =>
          have hfield : ∀ f ∈ fields, Closed (writtenField f) ∧
              (writtenField f).freeWords = f.content.written.freeWords := fun f hf =>
            closed_fieldText _ _ (hchild f.content (List.mem_map_of_mem hf)).closed
          have hclosed : ∀ t ∈ fields.map writtenField, Closed t := by
            intro t ht
            obtain ⟨f, hf, rfl⟩ := List.mem_map.mp ht
            exact (hfield f hf).1
          obtain ⟨hc, hw⟩ := closed_record hclosed
          refine bears_of_children hchild rfl hc ?_
          rw [assembled, hw, children, List.flatMap_map, List.flatMap_map]
          exact distinct_flatMap_congr fun f hf => congrArg distinct (hfield f hf).2
      | map key value => exact bears_of_brackets (by decide) hchild rfl
      | union variants =>
          have hclosed : ∀ t ∈ variants.map written, Closed t := by
            intro t ht
            obtain ⟨c, hc, rfl⟩ := List.mem_map.mp ht
            exact (hchild c hc).closed
          obtain ⟨hc, hw⟩ := closed_unionText hclosed
          refine bears_of_children hchild rfl hc ?_
          rw [assembled, hw, List.flatMap_map]
          rfl
      | reference id =>
          obtain ⟨hc, hw⟩ := closed_of_isIdentifier (isIdentifier_typeName id)
          exact bears_of_leaf rfl ⟨hc, congrArg (List.filter (· ∉ fixedNames)) hw⟩
      | special kind =>
          have hkinds : ∀ kind ∈ specialKinds, (specialText? kind).getD [] ∈ fixedNames := by
            decide
          exact bears_of_leaf rfl (closed_of_mem_fixedNames (hkinds kind hsn))
      | foreign value => exact hsn.elim

/-! ## Names of references -/

/-- A union keeps the words of all its members, those that are dropped as repeats included. -/
theorem words_subset_unionText {ts : List Text} (h : ∀ t ∈ ts, Closed t) {t : Text} (ht : t ∈ ts) :
    words t ⊆ words (unionText ts) := by
  have hclosed : ∀ u ∈ distinct ts, Closed u := fun u hu => h u (mem_distinct.mp hu)
  have hkept : t ∈ distinct ts := mem_distinct.mpr ht
  rw [unionText]
  split
  · rename_i hnil
    rw [hnil] at hkept
    cases hkept
  · rename_i u hone
    rw [hone, List.mem_singleton] at hkept
    rw [hkept]
    exact List.Subset.refl _
  · have hunion : ofString "Union" ∈ fixedNames := by decide
    show words t ⊆ words (ofString "Union" ++ brackets (distinct ts))
    rw [(closed_word_brackets hunion hclosed).2]
    exact fun w hw => List.mem_cons_of_mem _ (List.mem_flatMap.mpr ⟨t, hkept, hw⟩)

/-- The words of a child stand in the type expression of a node. -/
theorem words_subset_of_child {s c : Shape} (hs : s.Sound) (hc : c ∈ s.children) :
    words c.written ⊆ words s.written := by
  have hclosed : ∀ d ∈ s.children, Closed d.written :=
    fun d hd => (bears_written d (hs.child hd)).closed
  have hmap : ∀ t ∈ s.children.map written, Closed t := List.forall_mem_map.mpr hclosed
  have hmem : c.written ∈ s.children.map written := List.mem_map_of_mem hc
  -- behind a fixed word the children stand between brackets
  have hbrackets : ∀ w ∈ fixedNames,
      words c.written ⊆ words (w ++ brackets (s.children.map written)) := by
    intro w hw v hv
    rw [(closed_word_brackets hw hmap).2]
    exact List.mem_cons_of_mem _ (List.mem_flatMap.mpr ⟨_, hmem, hv⟩)
  rw [written_eq hs]
  cases s with
  | array element => exact hbrackets _ (by decide)
  | tuple elements =>
      cases elements with
      | nil => cases hc
      | cons e es => exact hbrackets _ (by decide)
  | map key value => exact hbrackets _ (by decide)
  | union variants => exact words_subset_unionText hmap hmem
  | dictionary fields =>
      obtain ⟨f, hf, rfl⟩ := List.mem_map.mp hc
      have hfields : ∀ g ∈ fields, Closed (writtenField g) := fun g hg =>
        (closed_words_fieldText g.name g.optional (hclosed g.content (List.mem_map_of_mem hg))).1
      have hfield : words f.content.written ⊆ words (writtenField f) := by
        intro v hv
        rw [writtenField, (closed_words_fieldText f.name f.optional (hclosed f.content hc)).2]
        exact List.mem_append_right _ hv
      intro v hv
      rw [assembled, (closed_words_record (List.forall_mem_map.mpr hfields)).2]
      exact List.mem_cons_of_mem _
        (List.mem_flatMap.mpr ⟨_, List.mem_map_of_mem hf, hfield hv⟩)
  | boolean => cases hc
  | number choices => cases hc
  | string choices format => cases hc
  | reference id => cases hc
  | special kind => cases hc
  | foreign value => cases hc

/-- **The name of every reference is a word of the type expression,** also where it is that of a
built-in type. -/
theorem typeName_mem_words_written (s : Shape) (hs : s.Sound) :
    ∀ id ∈ s.referenced, id.typeName ∈ words s.written := by
  induction s using Shape.induction with
  | node s ih =>
      intro id hid
      rw [referenced_eq, List.mem_append, List.mem_flatMap] at hid
      rcases hid with hown | ⟨c, hc, hchild⟩
      · cases s with
        | reference id' =>
            obtain rfl : id = id' := by simpa [ids] using hown
            rw [written_eq hs, assembled, (closed_of_isIdentifier (isIdentifier_typeName id)).2]
            exact List.mem_singleton_self _
        | _ => cases hown
      · exact words_subset_of_child hs hc (ih c hc (hs.child hc) id hchild)

/-! ## Shapes without words of their own -/

/-- The lexer can go over the type expression of a node: its numbers are finite, and its
reference is not named like a built-in type. -/
structure IsLexical (n : Shape) : Prop where
  finite : ∀ j ∈ n.literals, j.isFinite = true
  named : ∀ id ∈ n.ids, id ∉ builtinNames

instance (n : Shape) : Decidable n.IsLexical :=
  decidable_of_iff ((∀ j ∈ n.literals, j.isFinite = true) ∧ ∀ id ∈ n.ids, id ∉ builtinNames)
    ⟨fun h => ⟨h.1, h.2⟩, fun h => ⟨h.finite, h.named⟩⟩

/-- Whether the lexer can go over the type expression of a shape. -/
def Lexical (s : Shape) : Prop := ∀ n ∈ s.nodes, n.IsLexical

instance (s : Shape) : Decidable s.Lexical :=
  inferInstanceAs (Decidable (∀ n ∈ s.nodes, n.IsLexical))

/-- A text that can stand for a shape in a type expression: besides fixed words it has the names
of the references of the shape as words. -/
structure Agrees (s : Shape) (t : Text) : Prop where
  closed : Closed t
  words : distinct t.freeWords = distinct (s.referenced.map typeName)

/-- The nodes of a lexical shape bring in the names of its references, and these are all free. -/
theorem filter_nodeWords_of_lexical {s : Shape} (hl : s.Lexical) :
    s.nodeWords.filter (· ∉ fixedNames) = s.referenced.map typeName := by
  rw [nodeWords, referenced, List.filter_flatMap, List.map_flatMap]
  refine List.flatMap_congr fun n hn => ?_
  have hnone : n.literals.filterMap Json.word? = [] := by
    rw [List.filterMap_eq_nil_iff]
    exact fun j hj => Json.word?_eq_none_iff.mpr ((hl n hn).finite j hj)
  rw [ownWords, hnone, List.nil_append, List.filter_eq_self]
  intro w hw
  obtain ⟨id, hid, rfl⟩ := List.mem_map.mp hw
  simpa using typeName_not_mem_fixedNames ((hl n hn).named id hid)

/-- **Emitting a shape and collecting its references agree:** besides fixed words the type
expression of a sound shape that the lexer can go over has the names of its references. -/
theorem agrees_written (s : Shape) (hs : s.Sound) (hl : s.Lexical) : Agrees s s.written := by
  obtain ⟨hclosed, hwords⟩ := bears_written s hs
  exact ⟨hclosed, by rw [hwords, filter_nodeWords_of_lexical hl]⟩

/-- **The words of a type expression are the names of the references.** -/
theorem distinct_freeWords_typeText {source : Option Text} {j : Json} {s : Shape}
    (hj : ofJson source j = .ok s) (hl : s.Lexical) :
    ∃ (t : Text) (references : List Text), s.typeText = .ok t ∧ s.references = .ok references ∧
      distinct t.freeWords = references.map typeName := by
  have hs := sound_of_ofJson hj
  refine ⟨s.written, distinct s.referenced, typeText_eq_written s hs, ?_, ?_⟩
  · rw [Shape.references, allReferences_eq s hs]
    rfl
  · rw [(agrees_written s hs hl).words, distinct_map fun a _ b _ => typeName_injective]

/-- A descriptor of a pair whose second part may refer to a type twice. -/
def pairDescriptor : Json :=
  .obj [(ofString "type", .str "tuple"), (ofString "elements", .arr [
    .obj [(ofString "type", .str "reference"), (ofString "id", .str "user-key")],
    .obj [(ofString "type", .str "union"), (ofString "variants", .arr [
      .obj [(ofString "type", .str "reference"), (ofString "id", .str "Row")],
      .obj [(ofString "type", .str "array"), (ofString "element",
        .obj [(ofString "type", .str "reference"), (ofString "id", .str "user-key")])],
      .obj [(ofString "type", .str "reference"), (ofString "id", .str "Row")],
      .obj [(ofString "type", .str "number"), (ofString "enum", .arr [.float ⟨true, 1022, 0⟩])]])]])]

/-- The pair that is described. -/
def pairShape : Shape :=
  .tuple [.reference "user-key", .union [.reference "Row", .array (.reference "user-key"),
    .reference "Row", .number (some [.float ⟨true, 1022, 0⟩])]]

theorem distinct_freeWords_typeText_pair :
    ofJson none pairDescriptor = .ok pairShape ∧ pairShape.Lexical ∧
    ∃ (t : Text) (references : List Text), pairShape.typeText = .ok t ∧
      pairShape.references = .ok references ∧ distinct t.freeWords = references.map typeName := by
  have hread : ofJson none pairDescriptor = .ok pairShape := rfl
  have hlexical : pairShape.Lexical := by decide
  exact ⟨hread, hlexical, distinct_freeWords_typeText hread hlexical⟩

end Shape

end CallBindings
