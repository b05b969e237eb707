import CallBindings.Proofs.Number.Written
import CallBindings.Proofs.Shape.Canonical
import CallBindings.Proofs.Shape.TypeName
import CallBindings.Proofs.Text.Listed
import CallBindings.Proofs.Text.Quoted

set_option autoImplicit false

/-! # Spellings are uniquely readable

The spelling of a shape begins with a word, its *head*, which tells what kind of node it is;
what follows is nothing or stands between brackets. Heads are told apart because the names of
referenced types are none of the fixed words. So a spelling determines the head and, part by
part, what stands between the brackets: from the first code points of a text the shape they
spell can be read off, and where it ends.

This takes shapes that show all they have: enumerations that are not empty, strings without a
format, texts without surrogates, numbers that are numbers, and no references to the words that
are spelled without brackets but are not reserved.
-/

namespace CallBindings

open Text

/-! ## Heads -/

/-- How a type expression begins: with a fixed word, or with the name of a referenced type. -/
inductive Head where
  | bool | float | str | object | none | any | never
  | literal | list | tuple | dict | typedDict | union
  | name (id : Text)
deriving DecidableEq

namespace Head

/-- The head as it is written. -/
def text : Head → Text
  | .bool => "bool"
  | .float => "float"
  | .str => "str"
  | .object => "object"
  | .none => "None"
  | .any => "Any"
  | .never => "Never"
  | .literal => "Literal"
  | .list => "List"
  | .tuple => "Tuple"
  | .dict => "Dict"
  | .typedDict => "TypedDict"
  | .union => "Union"
  | .name id => id.typeName

/-- The heads that are fixed words. -/
def words : List Head :=
  [.bool, .float, .str, .object, .none, .any, .never, .literal, .list, .tuple, .dict, .typedDict,
    .union]

theorem mem_words (h : Head) : h ∈ words ∨ ∃ id, h = .name id := by
  cases h
  case name id => exact Or.inr ⟨id, rfl⟩
  all_goals exact Or.inl (by decide)

end Head

/-- Names of types that are written as they are though they are not reserved. -/
def builtinNames : List Text := ["bool", "float", "str", "object"].map ofString

/-- The word in front of the type of an optional field. -/
def optionalWord : Text := "NotRequired"

/-- The words that type expressions are written with. -/
def fixedNames : List Text := Head.words.map Head.text ++ [optionalWord]

theorem optionalWord_mem_fixedNames : optionalWord ∈ fixedNames :=
  List.mem_append_right _ (List.mem_singleton_self _)

theorem isIdentifier_of_mem_fixedNames : ∀ w ∈ fixedNames, w.isIdentifier = true := by decide

theorem head?_ne_lowLine_of_mem_fixedNames :
    ∀ w ∈ fixedNames, w.head? ≠ some (CodePoint.ofChar '_') := by decide

/-- The names of referenced types are none of the fixed words. -/
theorem typeName_not_mem_fixedNames {id : Text} (h : id ∉ builtinNames) :
    id.typeName ∉ fixedNames := by
  have hwords : ∀ w ∈ fixedNames, w ∈ builtinNames ∨ reservedNames.contains w = true ∨
      w.isKeyword = true := by decide
  intro hmem
  -- a name that is not plain begins with a low line, as no fixed name does
  by_cases hp : id.isPlainTypeName = true
  · rw [typeName_of_isPlain hp] at hmem
    simp only [isPlainTypeName, Bool.and_eq_true, Bool.not_eq_true'] at hp
    rcases hwords id hmem with hb | hr | hk
    · exact h hb
    · rw [hp.1.2] at hr
      cases hr
    · rw [hp.2] at hk
      cases hk
  · refine head?_ne_lowLine_of_mem_fixedNames _ hmem ?_
    rw [typeName_of_not_isPlain hp]
    rfl

namespace Head

/-- Whether the head is not the name of a built-in type. -/
def IsFree (h : Head) : Prop := ∀ id, h = .name id → id ∉ builtinNames

theorem text_injective {a b : Head} (ha : a.IsFree) (hb : b.IsFree) (h : a.text = b.text) :
    a = b := by
  have hwords : ∀ a ∈ words, ∀ b ∈ words, a.text = b.text → a = b := by decide
  have hfixed : ∀ w ∈ words, w.text ∈ fixedNames := fun w hw =>
    List.mem_append_left _ (List.mem_map_of_mem hw)
  rcases mem_words a with haw | ⟨id, rfl⟩ <;> rcases mem_words b with hbw | ⟨id', rfl⟩
  · exact hwords a haw b hbw h
  · have hmem := hfixed a haw
    rw [h] at hmem
    exact absurd hmem (typeName_not_mem_fixedNames (hb id' rfl))
  · have hmem := hfixed b hbw
    rw [← h] at hmem
    exact absurd hmem (typeName_not_mem_fixedNames (ha id rfl))
  · rw [typeName_injective h]

theorem inIdentifier_of_mem_fixedNames :
    ∀ w ∈ fixedNames, ∀ c ∈ w, c.inIdentifier = true := fun w hw =>
  inIdentifier_of_isIdentifier (isIdentifier_of_mem_fixedNames w hw)

theorem inIdentifier_of_mem_text (h : Head) : ∀ c ∈ h.text, c.inIdentifier = true := by
  rcases mem_words h with hw | ⟨id, rfl⟩
  · exact inIdentifier_of_mem_fixedNames _ (List.mem_append_left _ (List.mem_map_of_mem hw))
  · exact inIdentifier_of_isIdentifier (isIdentifier_typeName id)

theorem text_ne_nil (h : Head) : h.text ≠ [] := by
  rcases mem_words h with hw | ⟨id, rfl⟩
  · have hne : ∀ w ∈ words, w.text ≠ [] := by decide
    exact hne h hw
  · intro h
    have hid := isIdentifier_typeName id
    rw [show id.typeName = [] from h] at hid
    cases hid

end Head

namespace Shape

/-! ## Heads of shapes -/

/-- How the spelling of a shape begins. -/
def head : Shape → Head
  | .boolean => .bool
  | .number none => .float
  | .number (some _) => .literal
  | .string none _ => .str
  | .string (some _) _ => .literal
  | .array _ => .list
  | .tuple _ => .tuple
  | .dictionary _ => .typedDict
  | .map _ _ => .dict
  | .union [] => .never
  | .union (_ :: _) => .union
  | .reference id => .name id
  | .special kind =>
    if kind = "any" then .any else if kind = "unknown" then .object else .none
  | .foreign _ => .never

/-- What follows the head of a spelling. -/
def tail : Shape → Text
  | .number (some choices) => brackets (choices.map literalText)
  | .string (some choices) _ => brackets (choices.map literalText)
  | .array element => brackets [element.spelling]
  | .tuple [] => "[()]"
  | .tuple (e :: es) => brackets ((e :: es).map spelling)
  | .dictionary fields => braces (fields.map fieldSpelling)
  | .map key value => brackets [key.spelling, value.spelling]
  | .union (v :: vs) => brackets ((v :: vs).map spelling)
  | _ => []

/-- Whether a node shows in its spelling all it has. -/
def IsReadable : Shape → Prop
  | .number choices => ∀ js, choices = some js → js ≠ [] ∧ ∀ j ∈ js, j.isProperNumber = true
  | .string choices format => format = none ∧
      ∀ js, choices = some js → js ≠ [] ∧ ∀ j ∈ js, ∃ t : Text, j = .str t ∧ t.isScalar = true
  | .dictionary fields => ∀ f ∈ fields, f.name.isScalar = true
  | .reference id => id ∉ builtinNames
  | .special kind => kind ∈ specialKinds
  | .foreign _ => False
  | _ => True

/-- Whether all nodes of a shape show in its spelling all they have. -/
def Readable (s : Shape) : Prop := ∀ n ∈ s.nodes, n.IsReadable

theorem readable_iff {s : Shape} : s.Readable ↔ s.IsReadable ∧ ∀ c ∈ s.children, c.Readable :=
  forall_mem_nodes

variable {s t : Shape} {r r' : Text}

theorem spelling_eq (h : s.IsReadable) : s.spelling = s.head.text ++ s.tail := by
  cases s with
  | boolean => rfl
  | number choices => cases choices <;> simp [spelling, choicesSpelling, head, tail] <;> rfl
  | string choices format => cases choices <;> simp [spelling, choicesSpelling, head, tail] <;> rfl
  | array element => rfl
  | tuple elements =>
      cases elements with
      | nil => rfl
      | cons e es => rw [spelling, spellings_eq]; rfl
  | dictionary fields =>
      rw [spelling, fieldSpellings_eq]
      rfl
  | map key value => rfl
  | union variants =>
      cases variants with
      | nil => rfl
      | cons v vs => rw [spelling, spellings_eq]; rfl
  | reference id => simp [spelling, head, tail, Head.text]
  | special kind =>
      have hkinds : ∀ kind ∈ specialKinds,
          (Shape.special kind).spelling = (Shape.special kind).head.text := by decide
      rw [hkinds kind h]
      simp [tail]
  | foreign value => exact h.elim

theorem isFree_head (h : s.IsReadable) : s.head.IsFree := by
  rintro id hid
  cases s <;> simp only [head] at hid
  case reference => cases hid; exact h
  case number choices => cases choices <;> cases hid
  case string choices format => cases choices <;> cases hid
  case union variants => cases variants <;> cases hid
  case special kind => split_ifs at hid
  all_goals cases hid

/-- What follows the head begins with a bracket, or nothing follows. -/
theorem tail_cases (s : Shape) : s.tail = [] ∨ ∃ u, s.tail = CodePoint.ofChar '[' :: u := by
  cases s
  case number choices =>
    cases choices with
    | none => exact Or.inl rfl
    | some js => exact Or.inr ⟨_, rfl⟩
  case string choices format =>
    cases choices with
    | none => exact Or.inl rfl
    | some js => exact Or.inr ⟨_, rfl⟩
  case tuple elements => cases elements <;> exact Or.inr ⟨_, rfl⟩
  case union variants =>
    cases variants with
    | nil => exact Or.inl rfl
    | cons v vs => exact Or.inr ⟨_, rfl⟩
  case array => exact Or.inr ⟨_, rfl⟩
  case dictionary => exact Or.inr ⟨_, rfl⟩
  case map => exact Or.inr ⟨_, rfl⟩
  all_goals exact Or.inl rfl

theorem ends_tail (s : Shape) (hr : Stops r) : Ends CodePoint.inIdentifier (s.tail ++ r) := by
  rcases tail_cases s with h | ⟨u, h⟩ <;> rw [h]
  · exact hr.ends fun _ => not_inIdentifier_of_isStop
  · exact ends_cons (CodePoint.inIdentifier_of_ascii (by decide)) _

/-- A spelling determines its head and what follows. -/
theorem head_tail_of_spelling (hs : s.IsReadable) (ht : t.IsReadable) (hr : Stops r)
    (hr' : Stops r') (h : s.spelling ++ r = t.spelling ++ r') :
    s.head = t.head ∧ s.tail ++ r = t.tail ++ r' := by
  rw [spelling_eq hs, spelling_eq ht, List.append_assoc, List.append_assoc] at h
  obtain ⟨hhead, htail⟩ := append_inj_of_ends (Head.inIdentifier_of_mem_text _)
    (Head.inIdentifier_of_mem_text _) (ends_tail s hr) (ends_tail t hr') h
  exact ⟨Head.text_injective (isFree_head hs) (isFree_head ht) hhead, htail⟩

theorem spelling_cons (h : s.IsReadable) : ∃ c u, s.spelling = c :: u ∧ c.inIdentifier = true := by
  obtain ⟨c, u, hc⟩ := List.exists_cons_of_ne_nil (Head.text_ne_nil s.head)
  refine ⟨c, u ++ s.tail, by rw [spelling_eq h, hc]; rfl, ?_⟩
  exact Head.inIdentifier_of_mem_text s.head c (hc ▸ List.mem_cons_self)

/-- What a head tells of the node whose spelling it begins. -/
def Tells : Head → Shape → Prop
  | .bool, s => s = .boolean
  | .float, s => s = .number none
  | .str, s => s = .string none none
  | .object, s => s = .special "unknown"
  | .none, s => s = .special "undefined"
  | .any, s => s = .special "any"
  | .never, s => s = .union []
  | .literal, s => (∃ js, s = .number (some js)) ∨ ∃ js, s = .string (some js) none
  | .list, s => ∃ element, s = .array element
  | .tuple, s => ∃ elements, s = .tuple elements
  | .dict, s => ∃ key value, s = .map key value
  | .typedDict, s => ∃ fields, s = .dictionary fields
  | .union, s => ∃ v vs, s = .union (v :: vs)
  | .name id, s => s = .reference id

theorem tells_head (h : s.IsReadable) : Tells s.head s := by
  cases s with
  | boolean => rfl
  | number choices =>
      cases choices with
      | none => rfl
      | some js => exact Or.inl ⟨js, rfl⟩
  | string choices format =>
      obtain rfl : format = none := h.1
      cases choices with
      | none => rfl
      | some js => exact Or.inr ⟨js, rfl⟩
  | array element => exact ⟨element, rfl⟩
  | tuple elements => exact ⟨elements, rfl⟩
  | dictionary fields => exact ⟨fields, rfl⟩
  | map key value => exact ⟨key, value, rfl⟩
  | union variants =>
      cases variants with
      | nil => rfl
      | cons v vs => exact ⟨v, vs, rfl⟩
  | reference id => rfl
  | special kind =>
      have hkind : kind = ofString "any" ∨ kind = ofString "unknown" ∨
          kind = ofString "undefined" := by
        simpa [IsReadable, specialKinds] using h
      rcases hkind with rfl | rfl | rfl <;> rfl
  | foreign value => exact h.elim

/-! ## What stands between the brackets -/

theorem brackets_append (ts : List Text) (r : Text) :
    brackets ts ++ r = CodePoint.ofChar '[' :: (join comma ts ++ CodePoint.ofChar ']' :: r) := by
  show ofString "[" ++ join (ofString ", ") ts ++ ofString "]" ++ r = _
  rw [List.append_assoc, List.append_assoc]
  rfl

theorem braces_append (ts : List Text) (r : Text) : braces ts ++ r = ofString "[\x7b" ++
    (join comma ts ++ CodePoint.ofChar '\x7d' :: CodePoint.ofChar ']' :: r) := by
  show ofString "[\x7b" ++ join (ofString ", ") ts ++ ofString "\x7d]" ++ r = _
  rw [List.append_assoc, List.append_assoc]
  rfl

/-- Parts between brackets are determined by their text if each of them is. -/
theorem brackets_inj {α : Type} {f : α → Text} {P : α → Prop} {as bs : List α}
    (hhead : ∀ a, P a → ∃ c u, f a = c :: u ∧ c ≠ CodePoint.ofChar ']')
    (has : ∀ a ∈ as, P a ∧ Determined f P a) (hbs : ∀ b ∈ bs, P b)
    (h : brackets (as.map f) ++ r = brackets (bs.map f) ++ r') : as = bs ∧ r = r' := by
  rw [brackets_append, brackets_append] at h
  exact join_inj (by decide) (by decide) hhead has hbs (List.cons.inj h).2

/-! ## Literals -/

theorem not_isNumberPart_of_isStop {c : CodePoint} (hc : isStop c = true) :
    Json.isNumberPart c = false := by
  rcases eq_of_isStop hc with rfl | rfl | rfl <;> decide

theorem literalText_of_isProperNumber {j : Json} (h : j.isProperNumber = true) :
    literalText j = j.shown := by
  cases j <;> first | rfl | cases h

theorem literalText_cons {j : Json} (h : j.isProperNumber = true) :
    ∃ c u, literalText j = c :: u ∧ Json.isNumberPart c = true := by
  rw [literalText_of_isProperNumber h]
  obtain ⟨c, u, hc⟩ := List.exists_cons_of_ne_nil (Json.shown_ne_nil h)
  exact ⟨c, u, hc, Json.isNumberPart_of_mem_shown h c (hc ▸ List.mem_cons_self)⟩

theorem determined_number {j : Json} (hj : j.isProperNumber = true) :
    Determined literalText (fun j => j.isProperNumber = true) j := by
  intro i hi r r' hr hr' h
  rw [literalText_of_isProperNumber hj, literalText_of_isProperNumber hi] at h
  obtain ⟨hji, h⟩ := append_inj_of_ends (Json.isNumberPart_of_mem_shown hj)
    (Json.isNumberPart_of_mem_shown hi) (hr.ends fun _ => not_isNumberPart_of_isStop)
    (hr'.ends fun _ => not_isNumberPart_of_isStop) h
  exact ⟨Json.shown_injective hj hi hji, h⟩

/-- A text without surrogates as a literal. -/
def IsScalarLiteral (j : Json) : Prop := ∃ t : Text, j = .str t ∧ t.isScalar = true

theorem quote_eq_cons (t : Text) : ∃ u, t.quote = CodePoint.ofChar '"' :: u := ⟨_, rfl⟩

theorem determined_string {j : Json} (hj : IsScalarLiteral j) :
    Determined literalText IsScalarLiteral j := by
  rintro _ ⟨b, rfl, hb⟩ r r' - - h
  obtain ⟨a, rfl, ha⟩ := hj
  obtain ⟨hab, h⟩ := quote_append_inj ha hb h
  exact ⟨by rw [hab], h⟩

/-- Numbers and strings are told apart by the first code point of their literals. -/
theorem brackets_number_ne_string {is js : List Json} (his : ∀ i ∈ is, i.isProperNumber = true)
    (hjs : ∀ j ∈ js, IsScalarLiteral j) (hine : is ≠ []) (hjne : js ≠ []) :
    brackets (is.map literalText) ++ r ≠ brackets (js.map literalText) ++ r' := by
  obtain ⟨i, is, rfl⟩ := List.exists_cons_of_ne_nil hine
  obtain ⟨j, js, rfl⟩ := List.exists_cons_of_ne_nil hjne
  obtain ⟨c, u, hc, hpart⟩ := literalText_cons (his i List.mem_cons_self)
  obtain ⟨t, rfl, -⟩ := hjs j List.mem_cons_self
  obtain ⟨v, hv⟩ := quote_eq_cons t
  intro h
  rw [brackets_append, brackets_append, List.map_cons, List.map_cons, join_cons, join_cons, hc,
    show literalText (.str t) = t.quote from rfl, hv] at h
  have hquote : c = CodePoint.ofChar '"' := (List.cons.inj (List.cons.inj h).2).1
  rw [hquote] at hpart
  exact absurd hpart (by decide)

/-! ## Nodes -/

/-- What a spelling begins with cannot close a bracket. -/
theorem spelling_ne_bracket (h : s.Readable) :
    ∃ c u, s.spelling = c :: u ∧ c ≠ CodePoint.ofChar ']' := by
  obtain ⟨c, u, hc, hin⟩ := spelling_cons (readable_iff.mp h).1
  refine ⟨c, u, hc, ?_⟩
  rintro rfl
  rw [not_inIdentifier_of_isStop (by decide)] at hin
  cases hin

theorem fieldSpelling_append (f : Field Shape) (r : Text) : fieldSpelling f ++ r =
    f.name.quote ++ (ofString ": " ++ ((if f.optional then
      optionalWord ++ CodePoint.ofChar '[' :: (f.content.spelling ++ [CodePoint.ofChar ']'])
      else f.content.spelling) ++ r)) := by
  cases hf : f.optional with
  | true =>
      have hopen : ofString "NotRequired[" = optionalWord ++ [CodePoint.ofChar '['] := rfl
      have hclose : ofString "]" = [CodePoint.ofChar ']'] := rfl
      rw [fieldSpelling, fieldText, hf, if_pos rfl, if_pos rfl]
      show f.name.quote ++ ofString ": " ++
        (ofString "NotRequired[" ++ f.content.spelling ++ ofString "]") ++ r = _
      rw [hopen, hclose]
      simp only [List.append_assoc, List.cons_append, List.nil_append]
  | false =>
      rw [fieldSpelling, fieldText, hf, if_neg (by decide), if_neg (by decide)]
      show f.name.quote ++ ofString ": " ++ f.content.spelling ++ r = _
      rw [List.append_assoc, List.append_assoc]

/-- A field whose name and content can be read off. -/
def ReadableField (f : Field Shape) : Prop := f.name.isScalar = true ∧ f.content.Readable

/-- The word in front of an optional type does not begin another type. -/
theorem optionalWord_ne (h : s.Readable) (hr : Stops r) (u : Text) :
    optionalWord ++ CodePoint.ofChar '[' :: u ≠ s.spelling ++ r := by
  have hs := (readable_iff.mp h).1
  have hwords : optionalWord ∉ Head.words.map Head.text := by decide
  intro heq
  rw [spelling_eq hs, List.append_assoc] at heq
  have hends := ends_cons (CodePoint.inIdentifier_of_ascii (c := CodePoint.ofChar '[') (by decide)) u
  have hword := (append_inj_of_ends
    (Head.inIdentifier_of_mem_fixedNames _ optionalWord_mem_fixedNames)
    (Head.inIdentifier_of_mem_text _) hends (ends_tail s hr) heq).1
  rcases Head.mem_words s.head with hw | ⟨id, hid⟩
  · exact hwords (hword ▸ List.mem_map_of_mem hw)
  · have hmem := optionalWord_mem_fixedNames
    rw [hword, hid] at hmem
    exact typeName_not_mem_fixedNames (isFree_head hs id hid) hmem

theorem determined_field {f : Field Shape} (hf : ReadableField f)
    (hcontent : Determined spelling Readable f.content) :
    Determined fieldSpelling ReadableField f := by
  intro g hg r r' hr hr' h
  rw [fieldSpelling_append, fieldSpelling_append] at h
  obtain ⟨hname, h⟩ := quote_append_inj hf.1 hg.1 h
  have h := List.append_cancel_left h
  have hclose : ∀ u : Text, Stops (CodePoint.ofChar ']' :: u) := fun u => stops_cons (by decide) u
  obtain ⟨name, a, optional⟩ := f
  obtain ⟨name', b, optional'⟩ := g
  simp only at hname hcontent
  -- no type that can be read begins with the word for an optional field
  cases optional <;> cases optional' <;>
    simp only [if_true, Bool.false_eq_true, if_false, List.append_assoc, List.cons_append] at h
  · obtain ⟨hab, h⟩ := hcontent b hg.2 r r' hr hr' h
    exact ⟨by rw [hname, hab], h⟩
  · exact absurd h.symm (optionalWord_ne hf.2 hr _)
  · exact absurd h (optionalWord_ne hg.2 hr' _)
  · have h := (List.cons.inj (List.append_cancel_left h)).2
    obtain ⟨hab, h⟩ := hcontent b hg.2 _ _ (hclose _) (hclose _) h
    exact ⟨by rw [hname, hab], (List.cons.inj h).2⟩

theorem fieldSpelling_ne_brace {f : Field Shape} :
    ∃ c u, fieldSpelling f = c :: u ∧ c ≠ CodePoint.ofChar '\x7d' := by
  obtain ⟨u, hu⟩ := quote_eq_cons f.name
  refine ⟨CodePoint.ofChar '"', u ++ (ofString ": " ++ ((if f.optional then
    optionalWord ++ CodePoint.ofChar '[' :: (f.content.spelling ++ [CodePoint.ofChar ']'])
    else f.content.spelling) ++ [])), ?_, by decide⟩
  rw [← List.append_nil (fieldSpelling f), fieldSpelling_append, hu]
  rfl

/-- Types between brackets are determined by their text if each of them is. -/
theorem brackets_spelling_inj {ss ts : List Shape}
    (hss : ∀ c ∈ ss, c.Readable ∧ Determined spelling Readable c) (hts : ∀ c ∈ ts, c.Readable)
    (h : brackets (ss.map spelling) ++ r = brackets (ts.map spelling) ++ r') :
    ss = ts ∧ r = r' :=
  brackets_inj (fun _ => spelling_ne_bracket) hss hts h

/-- The types of a tuple are determined; without any, there are parentheses in their place. -/
theorem tuple_inj {ss ts : List Shape}
    (hss : ∀ c ∈ ss, c.Readable ∧ Determined spelling Readable c) (hts : ∀ c ∈ ts, c.Readable)
    (h : (Shape.tuple ss).tail ++ r = (Shape.tuple ts).tail ++ r') : ss = ts ∧ r = r' := by
  -- no type begins with a parenthesis, as the empty tuple goes on
  have hparen : ∀ {c : Shape} {cs : List Shape} {u v : Text}, c.Readable →
      ofString "[()]" ++ u ≠ brackets ((c :: cs).map spelling) ++ v := by
    intro c cs u v hc heq
    obtain ⟨d, w, hd, hin⟩ := spelling_cons (readable_iff.mp hc).1
    have hout : (CodePoint.ofChar '(').inIdentifier = false :=
      CodePoint.inIdentifier_of_ascii (by decide)
    rw [brackets_append, List.map_cons, join_cons, hd] at heq
    have hparen : CodePoint.ofChar '(' = d := (List.cons.inj (List.cons.inj heq).2).1
    rw [← hparen, hout] at hin
    cases hin
  cases ss with
  | nil =>
      cases ts with
      | nil => exact ⟨rfl, List.append_cancel_left h⟩
      | cons b bs => exact absurd h (hparen (hts b List.mem_cons_self))
  | cons a as =>
      cases ts with
      | nil => exact absurd h.symm (hparen (hss a List.mem_cons_self).1)
      | cons b bs => exact brackets_spelling_inj hss hts h

/-- The fields of a record are determined. -/
theorem dictionary_inj {fs gs : List (Field Shape)}
    (hfs : ∀ f ∈ fs, ReadableField f ∧ Determined fieldSpelling ReadableField f)
    (hgs : ∀ g ∈ gs, ReadableField g)
    (h : (Shape.dictionary fs).tail ++ r = (Shape.dictionary gs).tail ++ r') :
    fs = gs ∧ r = r' := by
  have h : braces (fs.map fieldSpelling) ++ r = braces (gs.map fieldSpelling) ++ r' := h
  rw [braces_append, braces_append] at h
  obtain ⟨hfields, h⟩ := join_inj (by decide) (by decide) (fun _ _ => fieldSpelling_ne_brace)
    hfs hgs (List.append_cancel_left h)
  exact ⟨hfields, (List.cons.inj h).2⟩

/-- Enumerations are determined, and those of numbers are told from those of strings. -/
theorem literal_inj (hs : Tells .literal s) (ht : Tells .literal t) (hsn : s.IsReadable)
    (htn : t.IsReadable) (h : s.tail ++ r = t.tail ++ r') : s = t ∧ r = r' := by
  -- the choices are all numbers or all texts, and what is in front tells which
  rcases hs with ⟨is, rfl⟩ | ⟨is, rfl⟩ <;> rcases ht with ⟨js, rfl⟩ | ⟨js, rfl⟩
  · obtain ⟨-, his⟩ := hsn is rfl
    obtain ⟨-, hjs⟩ := htn js rfl
    have hhead : ∀ j : Json, j.isProperNumber = true →
        ∃ c u, literalText j = c :: u ∧ c ≠ CodePoint.ofChar ']' := by
      intro j hj
      obtain ⟨c, u, hc, hpart⟩ := literalText_cons hj
      refine ⟨c, u, hc, ?_⟩
      rintro rfl
      exact absurd hpart (by decide)
    obtain ⟨rfl, hr⟩ :=
      brackets_inj hhead (fun i hi => ⟨his i hi, determined_number (his i hi)⟩) hjs h
    exact ⟨rfl, hr⟩
  · exact absurd h
      (brackets_number_ne_string (hsn is rfl).2 (htn.2 js rfl).2 (hsn is rfl).1 (htn.2 js rfl).1)
  · exact absurd h.symm
      (brackets_number_ne_string (htn js rfl).2 (hsn.2 is rfl).2 (htn js rfl).1 (hsn.2 is rfl).1)
  · obtain ⟨-, his⟩ := hsn.2 is rfl
    obtain ⟨-, hjs⟩ := htn.2 js rfl
    have hhead : ∀ j : Json, IsScalarLiteral j →
        ∃ c u, literalText j = c :: u ∧ c ≠ CodePoint.ofChar ']' := by
      rintro _ ⟨u, rfl, -⟩
      obtain ⟨v, hv⟩ := quote_eq_cons u
      exact ⟨_, v, hv, by decide⟩
    obtain ⟨rfl, hr⟩ :=
      brackets_inj hhead (fun i hi => ⟨his i hi, determined_string (his i hi)⟩) hjs h
    exact ⟨rfl, hr⟩

/-- **A shape that shows all it has is determined by its spelling,** and the spelling ends where
what follows it begins. -/
theorem determined_spelling (s : Shape) (hs : s.Readable) : Determined spelling Readable s := by
  induction s using Shape.induction with
  | node s ih =>
      intro t ht r r' hr hr' h
      obtain ⟨hsn, hsc⟩ := readable_iff.mp hs
      obtain ⟨htn, htc⟩ := readable_iff.mp ht
      have hdet : ∀ c ∈ s.children, c.Readable ∧ Determined spelling Readable c :=
        fun c hc => ⟨hsc c hc, ih c hc (hsc c hc)⟩
      -- both nodes are what their common head tells
      obtain ⟨hhead, htail⟩ := head_tail_of_spelling hsn htn hr hr' h
      have hst := tells_head hsn
      have htt := tells_head htn
      rw [← hhead] at htt
      generalize s.head = k at hst htt
      cases k with
      | literal => exact literal_inj hst htt hsn htn htail
      | list =>
          obtain ⟨element, rfl⟩ := hst
          obtain ⟨element', rfl⟩ := htt
          obtain ⟨he, hrr⟩ := brackets_spelling_inj hdet htc htail
          exact ⟨congrArg Shape.array (List.singleton_inj.mp he), hrr⟩
      | tuple =>
          obtain ⟨elements, rfl⟩ := hst
          obtain ⟨elements', rfl⟩ := htt
          obtain ⟨he, hrr⟩ := tuple_inj hdet htc htail
          exact ⟨congrArg Shape.tuple he, hrr⟩
      | dict =>
          obtain ⟨key, value, rfl⟩ := hst
          obtain ⟨key', value', rfl⟩ := htt
          obtain ⟨he, hrr⟩ := brackets_spelling_inj hdet htc htail
          cases he
          exact ⟨rfl, hrr⟩
      | typedDict =>
          obtain ⟨fields, rfl⟩ := hst
          obtain ⟨fields', rfl⟩ := htt
          have hcontent : ∀ {fs : List (Field Shape)} {f : Field Shape}, f ∈ fs →
              f.content ∈ (Shape.dictionary fs).children := fun hf => List.mem_map_of_mem hf
          obtain ⟨he, hrr⟩ := dictionary_inj
            (fun f hf => ⟨⟨hsn f hf, hsc _ (hcontent hf)⟩,
              determined_field ⟨hsn f hf, hsc _ (hcontent hf)⟩ (hdet _ (hcontent hf)).2⟩)
            (fun f hf => ⟨htn f hf, htc _ (hcontent hf)⟩) htail
          exact ⟨congrArg Shape.dictionary he, hrr⟩
      | union =>
          obtain ⟨v, vs, rfl⟩ := hst
          obtain ⟨v', vs', rfl⟩ := htt
          obtain ⟨he, hrr⟩ := brackets_spelling_inj hdet htc htail
          exact ⟨congrArg Shape.union he, hrr⟩
      | bool | float | str | object | none | any | never | name =>
          -- nothing follows a word that stands alone
          obtain rfl := hst
          obtain rfl := htt
          exact ⟨rfl, htail⟩

/-- Different shapes that show all they have are spelled differently. -/
theorem spelling_injective (hs : s.Readable) (ht : t.Readable) (h : s.spelling = t.spelling) :
    s = t :=
  (determined_spelling s hs t ht [] [] stops_nil stops_nil (by rw [h])).1

end Shape

end CallBindings
