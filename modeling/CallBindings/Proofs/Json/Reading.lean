import CallBindings.Json.Reader
import CallBindings.Proofs.FirstFault

set_option autoImplicit false

/-! # What was read

What the readers of JSON do at each place of a text, seen from a result that they have come to:
which of their cases it was, and what was read behind it. Everything that is said of all texts that
can be read goes through these cases instead of through the readers.
-/

namespace CallBindings.Json

variable {room depth : ℕ} {opening t : Text} {members : List (Text × Json)}

/-! ## Strings -/

/-- How the rest of a string was read, by what it begins with. -/
inductive StringRead (opening : Text) : Text → Text × Text → Prop
  | quote {t : Text} : StringRead opening (CodePoint.ofChar '"' :: t) ([], t)
  | single {a b c d : CodePoint} {t : Text} {n : ℕ} {r : Text × Text} :
      unicodeEscape (CodePoint.ofChar 'u' :: a :: b :: c :: d :: t) = .single n →
      readString opening t = .ok r →
      StringRead opening (CodePoint.ofChar '\\' :: CodePoint.ofChar 'u' :: a :: b :: c :: d :: t)
        (CodePoint.ofNat n :: r.1, r.2)
  | pair {e t front : Text} {n : ℕ} {r : Text × Text} : unicodeEscape e = .pair n →
      readString opening t = .ok r →
      StringRead opening (CodePoint.ofChar '\\' :: front ++ t) (CodePoint.ofNat n :: r.1, r.2)
  | letter {e x : CodePoint} {t : Text} {r : Text × Text} : escaped? e = some x →
      readString opening t = .ok r →
      StringRead opening (CodePoint.ofChar '\\' :: e :: t) (x :: r.1, r.2)
  | plain {c : CodePoint} {t : Text} {r : Text × Text} : readString opening t = .ok r →
      StringRead opening (c :: t) (c :: r.1, r.2)

theorem stringRead_of_readString {r : Text × Text} (h : readString opening t = .ok r) :
    StringRead opening t r := by
  cases t with
  | nil => cases h
  | cons c t =>
      rw [readString.eq_def] at h
      dsimp only at h
      split_ifs at h with hquote hcontrol hbackslash
      · cases h
        exact hquote ▸ .quote
      · subst hbackslash
        cases t with
        | nil => cases h
        | cons e t =>
            dsimp only at h
            split_ifs at h with hu
            · subst hu
              split at h
              · obtain ⟨r', hread, rfl⟩ := map_eq_ok.mp h
                exact .single ‹_› hread
              · next a b c d e f g i j k t hescape =>
                  obtain ⟨r', hread, rfl⟩ := map_eq_ok.mp h
                  -- the two escapes of a pair are taken off together
                  show StringRead opening (CodePoint.ofChar '\\' ::
                    [CodePoint.ofChar 'u', a, b, c, d, e, f, g, i, j, k] ++ t) _
                  exact .pair hescape hread
              · cases h
              · cases h
            · split at h
              · cases h
              · obtain ⟨r', hread, rfl⟩ := map_eq_ok.mp h
                exact .letter ‹_› hread
      · obtain ⟨r', hread, rfl⟩ := map_eq_ok.mp h
        exact .plain hread

/-! ## Values, items and members -/

/-- How a value was read, by what it begins with. -/
inductive ValueRead (depth : ℕ) : ℕ → Text → Json × Text → Prop
  | string {room : ℕ} {opening t : Text} {r : Text × Text} : readString opening t = .ok r →
      ValueRead depth room (CodePoint.ofChar '"' :: t) (.str r.1, r.2)
  | emptyList {room : ℕ} {t rest : Text} : skipSpace t = CodePoint.ofChar ']' :: rest →
      ValueRead depth room (CodePoint.ofChar '[' :: t) (.arr [], rest)
  | list {room : ℕ} {t : Text} {r : List Json × Text} :
      readItems room depth (skipSpace t) = .ok r →
      ValueRead depth (room + 1) (CodePoint.ofChar '[' :: t) (.arr r.1, r.2)
  | emptyObject {room : ℕ} {t rest : Text} : skipSpace t = CodePoint.ofChar '\x7d' :: rest →
      ValueRead depth room (CodePoint.ofChar '\x7b' :: t) (.obj [], rest)
  | object {room : ℕ} {t : Text} {r : List (Text × Json) × Text} :
      readMembers room depth [] (skipSpace t) = .ok r →
      ValueRead depth (room + 1) (CodePoint.ofChar '\x7b' :: t) (.obj r.1, r.2)
  | word {room : ℕ} {t : Text} {r : Json × Text} : readWord? t = some r →
      ValueRead depth room t r
  | number {room : ℕ} {t : Text} {r : Json × Text} : readNumber t = .ok r →
      ValueRead depth room t r

theorem valueRead_of_readValue {r : Json × Text} (h : readValue room (depth + 1) t = .ok r) :
    ValueRead depth room t r := by
  cases t with
  | nil =>
      rw [readValue.eq_def] at h
      cases h
  | cons c t =>
      rw [readValue.eq_def] at h
      dsimp only at h
      split_ifs at h with hquote hlist hobject
      · obtain ⟨r', hread, rfl⟩ := map_eq_ok.mp h
        exact hquote ▸ .string hread
      · subst hlist
        cases room with
        | zero => cases h
        | succ room =>
            dsimp only at h
            split at h
            · cases h
            · next d rest hskip =>
                split_ifs at h with hend
                · cases h
                  exact .emptyList (hend ▸ hskip)
                · obtain ⟨r', hread, rfl⟩ := map_eq_ok.mp h
                  exact .list (hskip ▸ hread)
      · subst hobject
        cases room with
        | zero => cases h
        | succ room =>
            dsimp only at h
            split at h
            · cases h
            · next d rest hskip =>
                split_ifs at h with hend
                · cases h
                  exact .emptyObject (hend ▸ hskip)
                · obtain ⟨r', hread, rfl⟩ := map_eq_ok.mp h
                  exact .object (hskip ▸ hread)
      · split at h
        · next r' hword =>
            cases h
            exact .word hword
        · exact .number h

/-- How an item was read: it ends the list, or a comma and further items come behind it. -/
inductive ItemsRead (room depth : ℕ) (t : Text) : List Json × Text → Prop
  | last {item : Json} {afterItem rest : Text} : readValue room depth t = .ok (item, afterItem) →
      skipSpace afterItem = CodePoint.ofChar ']' :: rest →
      ItemsRead room depth t ([item], rest)
  | next {item : Json} {afterItem rest : Text} {r : List Json × Text} :
      readValue room depth t = .ok (item, afterItem) →
      skipSpace afterItem = CodePoint.ofChar ',' :: rest →
      readItems room depth (skipSpace rest) = .ok r → ItemsRead room depth t (item :: r.1, r.2)

theorem itemsRead_of_readItems {r : List Json × Text}
    (h : readItems room (depth + 1) t = .ok r) : ItemsRead room depth t r := by
  rw [readItems.eq_def] at h
  obtain ⟨⟨item, afterItem⟩, hitem, h⟩ := bind_eq_ok.mp h
  dsimp only at h
  split at h
  · cases h
  · next c rest hskip =>
      split_ifs at h with hend hcomma
      · cases h
        exact .last hitem (hend ▸ hskip)
      · obtain ⟨r', hread, rfl⟩ := map_eq_ok.mp h
        exact .next hitem (hcomma ▸ hskip) hread

/-- A member at the front of a text: a name between quotes, a colon and a value. -/
inductive MemberRead (room depth : ℕ) : Text → Text → Json → Text → Prop
  | intro {afterQuote afterName afterColon name rest : Text} {value : Json} :
      readString (CodePoint.ofChar '"' :: afterQuote) afterQuote = .ok (name, afterName) →
      skipSpace afterName = CodePoint.ofChar ':' :: afterColon →
      readValue room depth (skipSpace afterColon) = .ok (value, rest) →
      MemberRead room depth (CodePoint.ofChar '"' :: afterQuote) name value rest

/-- How a member was read: it ends the object, or a comma and further members come behind it. -/
inductive MembersRead (room depth : ℕ) (members : List (Text × Json)) (t : Text) :
    List (Text × Json) × Text → Prop
  | last {name afterValue rest : Text} {value : Json} :
      MemberRead room depth t name value afterValue →
      skipSpace afterValue = CodePoint.ofChar '\x7d' :: rest →
      MembersRead room depth members t (assign name value members, rest)
  | next {name afterValue rest : Text} {value : Json} {r : List (Text × Json) × Text} :
      MemberRead room depth t name value afterValue →
      skipSpace afterValue = CodePoint.ofChar ',' :: rest →
      readMembers room depth (assign name value members) (skipSpace rest) = .ok r →
      MembersRead room depth members t r

theorem membersRead_of_readMembers {r : List (Text × Json) × Text}
    (h : readMembers room (depth + 1) members t = .ok r) : MembersRead room depth members t r := by
  rw [readMembers.eq_def] at h
  dsimp only at h
  split at h
  · cases h
  · next q afterQuote =>
      split_ifs at h with hquote
      obtain ⟨⟨name, afterName⟩, hname, h⟩ := bind_eq_ok.mp h
      dsimp only at h
      split at h
      · cases h
      · next c afterColon hskipName =>
          split_ifs at h with hcolon
          obtain ⟨⟨value, afterValue⟩, hvalue, h⟩ := bind_eq_ok.mp h
          rw [not_not] at hquote hcolon
          have hmember : MemberRead room depth (q :: afterQuote) name value afterValue := by
            subst hquote hcolon
            exact .intro hname hskipName hvalue
          dsimp only at h
          split at h
          · cases h
          · next d rest hskipValue =>
              split_ifs at h with hend hcomma
              · cases h
                exact .last hmember (hend ▸ hskipValue)
              · exact .next hmember (hcomma ▸ hskipValue) h

end CallBindings.Json
