import PaymentConnector.Proofs.CutAddresses

/-!
Addresses below a base. A base is an address that ends in a slash and has neither query nor
fragment. A text that is put behind it goes on in the path, and the query and the fragment
are those of the text. Only behind two slashes alone does a text start with the network
location.
-/

namespace PaymentConnector

open Text

namespace Url.Parts

variable {s t rest : List Char} {b : Parts}

theorem getLast?_trimmed (h : s.getLast? = some '/') : (trimmed s).getLast? = some '/' := by
  obtain ⟨u, rfl⟩ := List.getLast?_eq_some_iff.mp h
  rw [trimmed, List.dropWhile_append]
  split
  · rfl
  · rw [List.filter_append]
    exact List.getLast?_concat

theorem getLast?_of_cutScheme {scheme : List Char} (h : s.getLast? = some '/')
    (hcut : (cutScheme s).getD ([], s) = (scheme, rest)) : rest.getLast? = some '/' := by
  cases hs : cutScheme s with
  | none =>
    rw [hs, Option.getD_none, Prod.mk.injEq] at hcut
    exact hcut.2 ▸ h
  | some found =>
    obtain ⟨scheme', after⟩ := found
    rw [hs, Option.getD_some, Prod.mk.injEq] at hcut
    obtain ⟨-, rfl⟩ := hcut
    obtain ⟨c, name, rfl, -⟩ := cutScheme_eq_some_iff.mp hs
    have hlast := getLast?_of_append h (List.cons_ne_nil ':' after)
    cases after with
    | nil => exact absurd hlast (by decide)
    | cons d after => simpa using hlast

/-- A slash at the end is the whole of what follows a network location, or ends it. -/
theorem getLast?_of_cutNetloc {netloc : List Char} (h : s.getLast? = some '/')
    (hcut : cutNetloc s = (netloc, rest)) :
    (s = ['/', '/'] ∧ rest = []) ∨ rest.getLast? = some '/' := by
  rcases cutNetloc_eq_iff.mp hcut with ⟨rfl, hfree, -⟩ | ⟨-, rfl, -⟩
  · by_cases hrest : rest = []
    · subst hrest
      cases netloc with
      | nil => exact Or.inl ⟨rfl, rfl⟩
      | cons c netloc =>
        have hlast : (c :: netloc).getLast? = some '/' := by simpa using h
        exact absurd (List.mem_of_getLast? hlast) (hfree.notMem (by decide))
    · have happend : ('/' :: '/' :: netloc ++ rest).getLast? = some '/' := h
      exact Or.inr (getLast?_of_append happend hrest)
  · exact Or.inr h

/-- A text that ends in a slash and has neither query nor fragment has no mark of one. -/
theorem cutSections_of_getLast? {body : List Char} {query fragment : Option (List Char)}
    (h : s.getLast? = some '/') (hs : cutSections s = ⟨body, query, fragment⟩)
    (hquery : query.getD [] = []) (hfragment : fragment.getD [] = []) :
    s = body ∧ ∀ c ∈ s, c ≠ '?' ∧ c ≠ '#' := by
  obtain ⟨rfl, hbody, -⟩ := cutSections_eq_iff.mp hs
  cases fragment with
  | some f =>
    obtain rfl : f = [] := hfragment
    rw [optionalText, List.getLast?_concat] at h
    exact absurd h (by decide)
  | none =>
    cases query with
    | some q =>
      obtain rfl : q = [] := hquery
      rw [optionalText, optionalText, List.append_nil, List.getLast?_concat] at h
      exact absurd h (by decide)
    | none =>
      rw [optionalText, optionalText, List.append_nil, List.append_nil]
      exact ⟨rfl, hbody⟩

/-- What is cut off a base: a scheme, and then two slashes alone, or a network location and
a path that goes on to the end. -/
theorem base_cases (h : s.getLast? = some '/') (hb : cutParts s = b) (hquery : b.query = [])
    (hfragment : b.fragment = []) :
    ∃ rest, (cutScheme (trimmed s)).getD ([], trimmed s) = (b.scheme, rest) ∧
      ((rest = ['/', '/'] ∧ b.path = []) ∨
        (cutNetloc rest = (b.netloc, b.path) ∧ b.path ≠ [] ∧ ∀ c ∈ b.path, c ≠ '?' ∧ c ≠ '#')) := by
  obtain ⟨rest, tail, query, fragment, hscheme, hnetloc, hsections, hq, hf⟩ :=
    cutParts_eq_iff.mp hb
  refine ⟨rest, hscheme, ?_⟩
  have hrest := getLast?_of_cutScheme (getLast?_trimmed h) hscheme
  rcases getLast?_of_cutNetloc hrest hnetloc with ⟨hslashes, rfl⟩ | htail
  · obtain ⟨hempty, -⟩ := cutSections_eq_iff.mp hsections
    have hpath : b.path = [] := by simp_all
    exact Or.inl ⟨hslashes, hpath⟩
  · obtain ⟨rfl, hplain⟩ :=
      cutSections_of_getLast? htail hsections (hq.trans hquery) (hf.trans hfragment)
    refine Or.inr ⟨hnetloc, fun hempty => ?_, hplain⟩
    rw [hempty] at htail
    cases htail

/-- Behind a slash no scheme goes on. -/
theorem cutScheme_append_of_getLast? {scheme : List Char} (h : s.getLast? = some '/')
    (hcut : (cutScheme s).getD ([], s) = (scheme, rest)) (t : List Char) :
    (cutScheme (s ++ t)).getD ([], s ++ t) = (scheme, rest ++ t) := by
  cases hs : cutScheme s with
  | some found =>
    obtain ⟨scheme', after⟩ := found
    rw [hs, Option.getD_some, Prod.mk.injEq] at hcut
    obtain ⟨rfl, rfl⟩ := hcut
    rw [cutScheme_append hs, Option.getD_some]
  | none =>
    rw [hs, Option.getD_none, Prod.mk.injEq] at hcut
    obtain ⟨rfl, rfl⟩ := hcut
    obtain ⟨u, rfl⟩ := List.getLast?_eq_some_iff.mp h
    have hslash : ∀ c, ('/' :: t).head? = some c → isSchemeChar c = false ∧ c ≠ ':' := by
      rintro c hc
      obtain rfl := Option.some.inj hc
      exact ⟨by decide, by decide⟩
    have hnone := cutScheme_append_eq_none (cutScheme_eq_none_of_append hs) hslash
    rw [List.append_assoc, List.singleton_append, hnone, Option.getD_none]

/-- Below a base that has a path, a text that does not start with a slash is cut off as the
rest of the path, a query and a fragment. -/
theorem split_append (h : s.getLast? = some '/') (hb : split s = .ok b) (hquery : b.query = [])
    (hfragment : b.fragment = []) (hpath : b.path ≠ [])
    (ht : (unbroken t).head? ≠ some '/') :
    split (s ++ t) = .ok { b with
      path := b.path ++ (cutSections (unbroken t)).body
      query := (cutSections (unbroken t)).query.getD []
      fragment := (cutSections (unbroken t)).fragment.getD [] } := by
  obtain ⟨hcut, hcheck⟩ := split_eq_ok_iff.mp hb
  obtain ⟨rest, hscheme, ⟨-, hempty⟩ | ⟨hnetloc, -, hplain⟩⟩ := base_cases h hcut hquery hfragment
  · exact absurd hempty hpath
  · refine split_eq_ok_iff.mpr ⟨cutParts_eq_iff.mpr ⟨rest ++ unbroken t,
      b.path ++ unbroken t, _, _, ?_, cutNetloc_append hnetloc hpath ht,
      cutSections_append rfl hplain, rfl, rfl⟩, hcheck⟩
    rw [trimmed_append ⟨'/', List.mem_of_getLast? h, by decide⟩]
    exact cutScheme_append_of_getLast? (getLast?_trimmed h) hscheme _

/-- Below two slashes alone, what comes first is a network location and not in the path. -/
theorem head?_path_of_split_append (h : s.getLast? = some '/') (hb : split s = .ok b)
    (hquery : b.query = []) (hfragment : b.fragment = []) (hpath : b.path = []) {p : Parts}
    (hp : split (s ++ t) = .ok p) {c : Char} (hc : p.path.head? = some c) : c = '/' := by
  obtain ⟨hcut, -⟩ := split_eq_ok_iff.mp hb
  obtain ⟨rest, hscheme, ⟨rfl, -⟩ | ⟨-, hne, -⟩⟩ := base_cases h hcut hquery hfragment
  · obtain ⟨hcut', -⟩ := split_eq_ok_iff.mp hp
    obtain ⟨rest', tail, query, fragment, hscheme', hnetloc, hsections, -, -⟩ :=
      cutParts_eq_iff.mp hcut'
    rw [trimmed_append ⟨'/', List.mem_of_getLast? h, by decide⟩,
      cutScheme_append_of_getLast? (getLast?_trimmed h) hscheme] at hscheme'
    obtain ⟨-, rfl⟩ := Prod.mk.inj hscheme'
    obtain ⟨rfl, hmarks, -⟩ := cutSections_eq_iff.mp hsections
    obtain ⟨-, -, hend⟩ := cut_eq_iff.mp hnetloc
    obtain ⟨path, hpath⟩ := List.head?_eq_some_iff.mp hc
    have hslash := hend c (by rw [hpath]; rfl)
    obtain ⟨hquestion, hnumber⟩ := hmarks c (List.mem_of_head? hc)
    simpa [endsNetloc, hquestion, hnumber] using hslash
  · exact absurd hpath hne

end Url.Parts

end PaymentConnector
