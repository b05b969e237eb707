import CallBindings.Dispatch.Binding
import CallBindings.Proofs.Url.Query

set_option autoImplicit false

/-! # The query of a request

A `GET` or `HEAD` call puts the query string of its body behind the URL. A server takes for the
query what stands behind the first question mark of what it gets. If the URL had a question mark of
its own, that is where the query begins: the question mark of the body is then in the middle of it,
joined to the last part of the query the URL came with, and the first pair of the body is not found
among the pairs any more.
-/

namespace CallBindings

open Text

namespace Query

/-! ## Text behind an encoded one -/

section Octets

variable {c : CodePoint}

theorem octets_cons_of_byte? {a b : CodePoint} (h : byte? a b = none) (t : Text) :
    octets (c :: a :: b :: t) = Utf8.encodeCodePoint c ++ octets (a :: b :: t) := by
  rw [octets, h, ite_self]

/-- A code point that is no percent sign and no digit stands for its own bytes, and so does
everything from it on, whatever is in front of it. -/
theorem octets_append_cons (hdigit : c.hexValue? = none) (hpercent : c ≠ '%') (a t : Text) :
    octets (a ++ c :: t) = octets a ++ Utf8.encodeCodePoint c ++ octets t := by
  have hsecond : ∀ x : CodePoint, byte? x c = none := by
    intro x
    rw [byte?, hdigit]
    cases x.hexValue? <;> rfl
  have hfirst : ∀ x : CodePoint, byte? c x = none := by
    intro x
    rw [byte?, hdigit]
  rw [List.append_assoc, ← octets_cons hpercent]
  fun_induction octets a with
  | case1 => rfl
  | case2 x y z a byte hbyte ih =>
      show octets (x :: y :: z :: (a ++ c :: t)) = _
      rw [octets, hbyte, ih, List.cons_append]
  | case3 x y z a hbyte ih =>
      show octets (x :: y :: z :: (a ++ c :: t)) = _
      rw [octets, hbyte, List.append_assoc, ← ih]
      rfl
  | case4 x a hshort ih =>
      rw [List.append_assoc, ← ih]
      -- too short for an escape, and the code points behind are not its digits
      rcases a with _ | ⟨y, _ | ⟨z, a⟩⟩
      · rcases t with _ | ⟨d, t⟩
        · rfl
        · exact octets_cons_of_byte? (hfirst d) t
      · exact octets_cons_of_byte? (hsecond y) t
      · exact absurd rfl (hshort y z a)

end Octets

/-! ## The query of a URL -/

/-- The query of a URL: what stands between its first question mark and the fragment. -/
def component (url : Text) : Text :=
  ((url.takeWhile (· ≠ CodePoint.ofChar '#')).dropWhile (· ≠ CodePoint.ofChar '?')).drop 1

section Component

variable {url : Text}

theorem component_of_fragmentless (h : CodePoint.ofChar '#' ∉ url) :
    component url = (url.dropWhile (· ≠ CodePoint.ofChar '?')).drop 1 := by
  rw [component, List.takeWhile_eq_self_iff.mpr (decide_ne_of_not_mem h)]

theorem component_append_cons {front query : Text}
    (hfragment : CodePoint.ofChar '#' ∉ front ++ CodePoint.ofChar '?' :: query)
    (hfront : CodePoint.ofChar '?' ∉ front) :
    component (front ++ CodePoint.ofChar '?' :: query) = query := by
  rw [component_of_fragmentless hfragment, dropWhile_append_cons hfront, List.drop_one,
    List.tail_cons]

theorem component_of_not_mem (hfragment : CodePoint.ofChar '#' ∉ url)
    (h : CodePoint.ofChar '?' ∉ url) : component url = [] := by
  rw [component_of_fragmentless hfragment,
    List.dropWhile_eq_nil_iff.mpr (decide_ne_of_not_mem h), List.drop_nil]

end Component

/-! ## A query string behind a query -/

section Behind

variable {entries : List (Text × Text)}

/-- The bytes of a part are those of its name and its value, and one more between them. -/
theorem octets_part (entry : Text × Text) :
    octets (part entry) = entry.1.utf8 ++ Utf8.encodeCodePoint (CodePoint.ofChar '=') ++
      entry.2.utf8 := by
  calc octets (part entry)
      = octets (encoded entry.1) ++ Utf8.encodeCodePoint (CodePoint.ofChar '=') ++
          octets (encoded entry.2) := octets_append_cons (by decide) (by decide) _ _
    _ = entry.1.utf8 ++ Utf8.encodeCodePoint (CodePoint.ofChar '=') ++ entry.2.utf8 := by
        rw [octets_encoded, octets_encoded]

/-- Bytes in front of those of a text are not the bytes of the text. -/
theorem octets_append_question_ne (front : Text) {t u : Text} (bytes : Bytes)
    (h : octets t = bytes ++ u.utf8) : octets (front ++ CodePoint.ofChar '?' :: t) ≠ u.utf8 := by
  intro heq
  have hmark : (Utf8.encodeCodePoint (CodePoint.ofChar '?')).length = 1 := by decide
  have hlength := congrArg List.length heq
  rw [octets_append_cons (by decide) (by decide), h] at hlength
  simp only [List.length_append, hmark] at hlength
  omega

/-- **A pair is lost behind text of another query.** The question mark goes to its name or to its
value, so that one of them has too many bytes. -/
theorem pair_append_question_ne (last : Text) (entry : Text × Text) :
    pair (last ++ CodePoint.ofChar '?' :: part entry) ≠ (some entry.1, some entry.2) := by
  intro h
  obtain ⟨hname, hvalue⟩ := Prod.mk.inj h
  by_cases hlast : CodePoint.ofChar '=' ∈ last
  · -- the name ends in front of the question mark
    obtain ⟨name, value, rfl, hfirst⟩ := List.eq_append_cons_of_mem hlast
    rw [List.append_assoc, List.cons_append, dropWhile_append_cons hfirst, List.drop_one,
      List.tail_cons, decode?_eq_some_iff] at hvalue
    exact octets_append_question_ne value _ (octets_part entry) hvalue.1
  · have hnot : CodePoint.ofChar '=' ∉ last ++ CodePoint.ofChar '?' :: encoded entry.1 := by
      have hencoded : CodePoint.ofChar '=' ∉ encoded entry.1 := not_mem_encoded (by decide)
      have hne : CodePoint.ofChar '=' ≠ CodePoint.ofChar '?' := by decide
      simp [hlast, hne, hencoded]
    have hparts : last ++ CodePoint.ofChar '?' :: part entry =
        (last ++ CodePoint.ofChar '?' :: encoded entry.1) ++
          CodePoint.ofChar '=' :: encoded entry.2 := by simp [part]
    rw [hparts, takeWhile_append_cons hnot, decode?_eq_some_iff] at hname
    exact octets_append_question_ne last [] (octets_encoded entry.1) hname.1

/-- Behind another query the parts of a written one are kept, except that the first of them goes on
from the last part of the other. -/
theorem splitAt_append_question (front : Text) (entry : Text × Text)
    (entries : List (Text × Text)) : ∃ (parts : List Text) (last : Text),
      splitAt (CodePoint.ofChar '&') (front ++ CodePoint.ofChar '?' :: written (entry :: entries))
        = parts ++ (last ++ CodePoint.ofChar '?' :: part entry) :: entries.map part := by
  obtain ⟨parts, last, hlast, hsplit⟩ := exists_splitAt_append (CodePoint.ofChar '&') front
  refine ⟨parts, last, ?_⟩
  have hjoin : last ++ CodePoint.ofChar '?' :: written (entry :: entries) =
      join [CodePoint.ofChar '&']
        ((last ++ CodePoint.ofChar '?' :: part entry) :: entries.map part) := by
    simp [written, join_cons, ofString]
  have hnot : ∀ p ∈ (last ++ CodePoint.ofChar '?' :: part entry) :: entries.map part,
      CodePoint.ofChar '&' ∉ p := by
    have hne : CodePoint.ofChar '&' ≠ CodePoint.ofChar '?' := by decide
    refine List.forall_mem_cons.mpr ⟨by simp [hlast, hne, ampersand_not_mem_part], ?_⟩
    rw [List.forall_mem_map]
    exact fun e _ => ampersand_not_mem_part e
  calc splitAt (CodePoint.ofChar '&')
        (front ++ CodePoint.ofChar '?' :: written (entry :: entries))
      = parts ++ splitAt (CodePoint.ofChar '&')
          (last ++ CodePoint.ofChar '?' :: written (entry :: entries)) := hsplit _
    _ = parts ++ (last ++ CodePoint.ofChar '?' :: part entry) ::
          (entries.map part).map ([] ++ ·) := by rw [hjoin, splitAt_join List.not_mem_nil hnot]
    _ = parts ++ (last ++ CodePoint.ofChar '?' :: part entry) :: entries.map part := by simp

/-- A query that the query string of some pairs was put behind does not end with them. -/
theorem pairs_append_question_ne (front : Text) (hne : entries ≠ [])
    (carried : List (Option Text × Option Text)) :
    pairs (front ++ CodePoint.ofChar '?' :: written entries) ≠
      carried ++ entries.map fun e => (some e.1, some e.2) := by
  obtain ⟨entry, entries, rfl⟩ := List.exists_cons_of_ne_nil hne
  obtain ⟨parts, last, hsplit⟩ := splitAt_append_question front entry entries
  rw [pairs, hsplit, List.filter_append, List.filter_cons_of_pos (by simp), filter_map_part,
    List.map_append, List.map_cons, List.map_cons]
  intro h
  have htail := (List.append_inj' h (by simp)).2
  exact pair_append_question_ne last entry (List.cons.inj htail).1

/-- What is read off a URL that ends with the query string of some pairs. -/
theorem pairs_component_append (url : Text) (hfragment : CodePoint.ofChar '#' ∉ url)
    (hne : entries ≠ []) (hbytes : HaveBytes entries) :
    (pairs (component (url ++ CodePoint.ofChar '?' :: written entries)) =
        pairs (component url) ++ entries.map (fun e => (some e.1, some e.2)) ↔
      CodePoint.ofChar '?' ∉ url) ∧
    ((∃ carried, pairs (component (url ++ CodePoint.ofChar '?' :: written entries)) =
        carried ++ entries.map fun e => (some e.1, some e.2)) ↔ CodePoint.ofChar '?' ∉ url) := by
  have hwhole : CodePoint.ofChar '#' ∉ url ++ CodePoint.ofChar '?' :: written entries := by
    have hwritten : CodePoint.ofChar '#' ∉ written entries :=
      not_mem_written (by decide) (by decide) (by decide)
    have hmark : CodePoint.ofChar '#' ≠ CodePoint.ofChar '?' := by decide
    simp [hfragment, hmark, hwritten]
  by_cases hquery : CodePoint.ofChar '?' ∈ url
  · -- the second question mark belongs to a pair of the query, so that pair is another one
    obtain ⟨front, query, rfl, hfront⟩ := List.eq_append_cons_of_mem hquery
    rw [List.append_assoc, List.cons_append] at hwhole ⊢
    rw [component_append_cons hwhole hfront]
    have hlost := pairs_append_question_ne query hne
    exact ⟨iff_of_false (hlost _) (not_not.mpr hquery),
      iff_of_false (fun ⟨carried, h⟩ => hlost carried h) (not_not.mpr hquery)⟩
  · -- the question mark opens the query, which is just what was written
    have hpairs : pairs (component (url ++ CodePoint.ofChar '?' :: written entries)) =
        pairs (component url) ++ entries.map fun e => (some e.1, some e.2) := by
      calc pairs (component (url ++ CodePoint.ofChar '?' :: written entries))
          = pairs (written entries) := by rw [component_append_cons hwhole hquery]
        _ = pairs [] ++ entries.map fun e => (some e.1, some e.2) := pairs_written hne hbytes
        _ = pairs (component url) ++ entries.map fun e => (some e.1, some e.2) := by
            rw [component_of_not_mem hfragment hquery]
    exact ⟨iff_of_true hpairs hquery, iff_of_true ⟨_, hpairs⟩ hquery⟩

end Behind

end Query

namespace Binding

open Query

variable {b : Binding} {members : List (Text × Json)}

/-- Whether a request that uses the query is made depends on the body alone, and its URL is that of
the binding with the query string of the body. -/
theorem prepare_query (huses : b.usesQuery = true) (body : Json) (overrides : CallOverrides) :
    ((∃ request, b.prepare (.json body) overrides = .ok request) ↔ ∃ q, ofBody body = .ok q) ∧
    ∀ request, b.prepare (.json body) overrides = .ok request →
      ∃ q, ofBody body = .ok q ∧ request.url = b.options.baseUrl ++ b.url ++ q := by
  rw [prepare, huses, queryOf]
  cases hbody : ofBody body with
  | error e =>
      refine ⟨iff_of_false ?_ ?_, ?_⟩
      · rintro ⟨request, ⟨⟩⟩
      · rintro ⟨q, ⟨⟩⟩
      · rintro request ⟨⟩
  | ok q =>
      refine ⟨iff_of_true ⟨_, rfl⟩ ⟨q, rfl⟩, ?_⟩
      rintro request ⟨⟩
      exact ⟨q, rfl, rfl⟩

/-- **A server finds the body of a query call in the query, exactly if the URL has no query
already.** A body with members is sent exactly if all of them can be written into a query. If base
and URL hold no question mark, the query that a server reads holds the members of the body, names
with the texts of values, behind the pairs that the URL held before; if they hold one, the members
are not at the end of what it reads, whatever is in front of them. -/
theorem prepare_pairs_iff (hmethod : b.method = "GET" ∨ b.method = "HEAD")
    (hfragment : CodePoint.ofChar '#' ∉ b.options.baseUrl ++ b.url) (hne : members ≠ [])
    (overrides : CallOverrides) :
    ((∃ request, b.prepare (.json (.obj members)) overrides = .ok request) ↔
      ∀ m ∈ members, IsEncodable m) ∧
    ∀ request, b.prepare (.json (.obj members)) overrides = .ok request →
      (pairs (component request.url) = pairs (component (b.options.baseUrl ++ b.url)) ++
          (entriesOf members).map (fun e => (some e.1, some e.2)) ↔
        CodePoint.ofChar '?' ∉ b.options.baseUrl ++ b.url) ∧
      ((∃ carried, pairs (component request.url) =
          carried ++ (entriesOf members).map fun e => (some e.1, some e.2)) ↔
        CodePoint.ofChar '?' ∉ b.options.baseUrl ++ b.url) := by
  have huses : b.usesQuery = true := by
    rcases hmethod with h | h <;> simp [usesQuery, h]
  have hentries : entriesOf members ≠ [] := by simpa [entriesOf] using hne
  obtain ⟨hexists, hurl⟩ := prepare_query huses (.obj members) overrides
  refine ⟨hexists.trans (exists_ofBody_eq_ok_iff hne), fun request hrequest => ?_⟩
  obtain ⟨q, hq, hrequest⟩ := hurl request hrequest
  obtain ⟨hall, rfl⟩ := (ofBody_eq_ok_iff hne).mp hq
  rw [hrequest]
  exact pairs_component_append _ hfragment hentries (haveBytes_entriesOf hall)

/-- A binding for a URL. -/
def getting (url : Text) : Binding := ⟨url, "GET", {}, "stub"⟩

/-- A body that asks for a page. -/
def pageMembers : List (Text × Json) := [("page", .int 2)]

theorem prepare_pairs_iff_users :
    ((getting "/users").method = "GET" ∨ (getting "/users").method = "HEAD") ∧
    CodePoint.ofChar '#' ∉ (getting "/users").options.baseUrl ++ (getting "/users").url ∧
    pageMembers ≠ [] ∧
    ∃ request, (getting "/users").prepare (.json (.obj pageMembers)) {} = .ok request ∧
      pairs (component request.url) = [(some (ofString "page"), some (ofString "2"))] := by
  have hmethod : (getting "/users").method = "GET" ∨ (getting "/users").method = "HEAD" :=
    Or.inl rfl
  have hfragment : CodePoint.ofChar '#' ∉
      (getting "/users").options.baseUrl ++ (getting "/users").url := by decide
  have hne : pageMembers ≠ [] := by decide
  have hall : ∀ m ∈ pageMembers, IsEncodable m := by
    rw [pageMembers, List.forall_mem_singleton]
    exact ⟨by decide, by decide, by simp⟩
  obtain ⟨hexists, hpairs⟩ := prepare_pairs_iff hmethod hfragment hne {}
  obtain ⟨request, hrequest⟩ := hexists.mpr hall
  exact ⟨hmethod, hfragment, hne, request, hrequest,
    (hpairs request hrequest).1.mpr (by decide)⟩

/-- Behind a query that a URL comes with, the name of a pair is read as a part of the value in front
of it. -/
theorem prepare_behind_query :
    ((getting "/users?active=1").prepare (.json (.obj pageMembers)) {}).toOption.map (fun request =>
      (request.url, pairs (component request.url))) =
        some (ofString "/users?active=1?page=2",
          [(some (ofString "active"), some (ofString "1?page=2"))]) := by
  decide +kernel

end Binding

end CallBindings
