import PaymentConnector.Proofs.SplitUrls

/-!
How the cuts of an address go on. A scheme is looked for before the first character that
cannot be in one, a network location before the first slash and the query and the fragment
after the first of their marks. So each cut of a text is also one of a longer text, and what
a cut takes apart is the whole text.
-/

namespace PaymentConnector.Url

open Text

/-! The scheme -/

theorem cutScheme_eq_some_iff {s scheme after : List Char} :
    cutScheme s = some (scheme, after) ↔
      ∃ c rest, s = c :: rest ++ ':' :: after ∧ c.isAlpha = true ∧ rest.all isSchemeChar = true ∧
        scheme = (c :: rest).map Char.toLower := by
  constructor
  · intro h
    unfold cutScheme at h
    split at h
    · rename_i c rest after' hcut
      obtain ⟨d, hs, -, hd⟩ := cutAround_eq_some_iff.mp hcut
      obtain rfl : d = ':' := of_decide_eq_true hd
      obtain ⟨⟨hc, hrest⟩, heq⟩ := Option.ite_none_right_eq_some.mp h
      obtain ⟨rfl, rfl⟩ := Prod.mk.inj (Option.some.inj heq)
      exact ⟨c, rest, hs, hc, hrest, rfl⟩
    · cases h
  · rintro ⟨c, rest, rfl, hc, hrest, rfl⟩
    have hfree : Free (· = ':') (c :: rest) := by
      intro d hd
      have hchar : isSchemeChar d = true := by
        rcases List.mem_cons.mp hd with rfl | hd
        · exact isSchemeChar_of_isAlpha hc
        · exact List.all_eq_true.mp hrest d hd
      exact decide_eq_false (Normal.keepPlain_of_isSchemeChar hchar).2
    rw [cutScheme, cutAround_append_cons hfree (by decide)]
    exact if_pos ⟨hc, hrest⟩

theorem IsScheme.ne_nil {scheme : List Char} (h : IsScheme scheme) : scheme ≠ [] := by
  obtain ⟨c, name, hcons, -⟩ := h.shape
  rw [hcons]
  exact List.cons_ne_nil c name

theorem cutScheme_of_isScheme {scheme : List Char} (h : IsScheme scheme) (t : List Char) :
    cutScheme (scheme ++ ':' :: t) = some (scheme, t) := by
  obtain ⟨c, rest, hcons, hc, hrest⟩ := h.shape
  refine cutScheme_eq_some_iff.mpr ⟨c, rest, by rw [hcons], hc, hrest, ?_⟩
  rw [← hcons, h.small]

theorem cutScheme_append {s scheme after : List Char} (h : cutScheme s = some (scheme, after))
    (t : List Char) : cutScheme (s ++ t) = some (scheme, after ++ t) := by
  obtain ⟨c, rest, rfl, hc, hrest, rfl⟩ := cutScheme_eq_some_iff.mp h
  exact cutScheme_eq_some_iff.mpr ⟨c, rest, by simp, hc, hrest, rfl⟩

theorem cutScheme_eq_none_of_append {s t : List Char} (h : cutScheme (s ++ t) = none) :
    cutScheme s = none := by
  rw [Option.eq_none_iff_forall_ne_some]
  rintro ⟨scheme, after⟩ hsome
  rw [cutScheme_append hsome] at h
  cases h

/-- A text that a scheme cannot go on with, and that does not end one, changes nothing. -/
theorem cutScheme_append_eq_none {s t : List Char} (h : cutScheme s = none)
    (ht : ∀ c, t.head? = some c → isSchemeChar c = false ∧ c ≠ ':') :
    cutScheme (s ++ t) = none := by
  rw [Option.eq_none_iff_forall_ne_some]
  rintro ⟨scheme, after⟩ hsome
  obtain ⟨c, rest, heq, hc, hrest, -⟩ := cutScheme_eq_some_iff.mp hsome
  have hchars : ∀ d ∈ c :: rest, isSchemeChar d = true :=
    List.forall_mem_cons.mpr ⟨isSchemeChar_of_isAlpha hc, List.all_eq_true.mp hrest⟩
  rcases List.append_eq_append_iff.mp heq with ⟨more, hscheme, ht'⟩ | ⟨more, hs, hmore⟩
  · -- the scheme reaches into the second text, or ends before it
    cases more with
    | nil => exact (ht ':' (by rw [ht']; rfl)).2 rfl
    | cons d more =>
      have hd := hchars d (by rw [hscheme]; simp)
      rw [(ht d (by rw [ht']; rfl)).1] at hd
      cases hd
  · cases more with
    | nil => exact (ht ':' (by rw [← List.nil_append t, ← hmore]; rfl)).2 rfl
    | cons d more =>
      obtain ⟨rfl, -⟩ := List.cons.inj hmore
      have hcut : cutScheme s = some ((c :: rest).map Char.toLower, more) :=
        cutScheme_eq_some_iff.mpr ⟨c, rest, hs, hc, hrest, rfl⟩
      rw [h] at hcut
      cases hcut

/-! The network location -/

namespace Parts

/-- The characters that end a network location. -/
def endsNetloc (c : Char) : Bool := c = '/' || c = '?' || c = '#'

theorem cutNetloc_slashes (s : List Char) : cutNetloc ('/' :: '/' :: s) = cut endsNetloc s := rfl

theorem cutNetloc_of_head? {s : List Char} (h : s.head? ≠ some '/') : cutNetloc s = ([], s) := by
  refine Normal.cutNetloc_of_ne_slashes fun rest hrest => h ?_
  rw [hrest]
  rfl

/-- The network location stands between two slashes and the next mark, or there is none. -/
theorem cutNetloc_eq_iff {s netloc rest : List Char} :
    cutNetloc s = (netloc, rest) ↔
      (s = '/' :: '/' :: (netloc ++ rest) ∧ Free endsNetloc netloc ∧
        ∀ c, rest.head? = some c → endsNetloc c = true) ∨
      (netloc = [] ∧ rest = s ∧ ∀ u, s ≠ '/' :: '/' :: u) := by
  by_cases hslashes : ∃ u, s = '/' :: '/' :: u
  · obtain ⟨u, rfl⟩ := hslashes
    simp [cutNetloc_slashes, cut_eq_iff]
  · have hplain : ∀ u, s ≠ '/' :: '/' :: u := fun u hu => hslashes ⟨u, hu⟩
    rw [Normal.cutNetloc_of_ne_slashes hplain]
    constructor
    · intro h
      obtain ⟨rfl, rfl⟩ := Prod.mk.inj h
      exact Or.inr ⟨rfl, rfl, hplain⟩
    · rintro (⟨hs, -⟩ | ⟨rfl, rfl, -⟩)
      · exact absurd hs (hplain _)
      · rfl

/-- A text that goes on behind a network location is cut where it was. A lone slash must not
become two. -/
theorem cutNetloc_append {s netloc rest t : List Char} (h : cutNetloc s = (netloc, rest))
    (hrest : rest ≠ []) (ht : t.head? ≠ some '/') :
    cutNetloc (s ++ t) = (netloc, rest ++ t) := by
  by_cases hslashes : ∃ u, s = '/' :: '/' :: u
  · obtain ⟨u, rfl⟩ := hslashes
    obtain ⟨hu, hfree, hend⟩ := cut_eq_iff.mp h
    have happend : u ++ t = netloc ++ (rest ++ t) := by rw [hu, List.append_assoc]
    refine cut_eq_iff.mpr ⟨happend, hfree, fun c hc => hend c ?_⟩
    obtain ⟨d, rest, rfl⟩ := List.exists_cons_of_ne_nil hrest
    exact hc
  · have hplain : ∀ u, s ≠ '/' :: '/' :: u := fun u hu => hslashes ⟨u, hu⟩
    rw [Normal.cutNetloc_of_ne_slashes hplain] at h
    obtain ⟨rfl, rfl⟩ := Prod.mk.inj h
    refine Normal.cutNetloc_of_ne_slashes fun u hu => ?_
    match s, hrest with
    | [c], _ =>
      rw [List.singleton_append] at hu
      exact ht (congrArg List.head? (List.cons.inj hu).2)
    | c :: d :: s, _ =>
      obtain ⟨rfl, hd⟩ := List.cons.inj hu
      obtain ⟨rfl, -⟩ := List.cons.inj hd
      exact hplain s rfl

/-- The marks after a path end a network location too. -/
theorem cutNetloc_append_marks {s netloc rest t : List Char} (h : cutNetloc s = (netloc, rest))
    (ht : ∀ c, t.head? = some c → c = '?' ∨ c = '#') :
    cutNetloc (s ++ t) = (netloc, rest ++ t) := by
  have hslash : t.head? ≠ some '/' := fun hc => absurd (ht '/' hc) (by decide)
  by_cases hrest : rest = []
  · subst hrest
    rcases cutNetloc_eq_iff.mp h with ⟨rfl, hfree, -⟩ | ⟨rfl, rfl, -⟩
    · refine cutNetloc_eq_iff.mpr (Or.inl ⟨by simp, hfree, fun c hc => ?_⟩)
      rcases ht c hc with rfl | rfl
      · rfl
      · rfl
    · exact cutNetloc_of_head? hslash
  · exact cutNetloc_append h hrest hslash

end Parts

/-! The sections -/

theorem exists_optionalText (mark : Char) (s : List Char) :
    ∃ before after, s = before ++ optionalText mark after ∧ mark ∉ before := by
  rcases free_or_exists_first (· = mark) s with hs | ⟨before, c, after, rfl, hbefore, hc⟩
  · exact ⟨s, none, (List.append_nil s).symm, hs.notMem (decide_eq_true rfl)⟩
  · obtain rfl : c = mark := of_decide_eq_true hc
    exact ⟨before, some after, rfl, hbefore.notMem (decide_eq_true rfl)⟩

/-- The sections of a text are the whole text with the marks between them. -/
theorem cutSections_eq_iff {s body : List Char} {query fragment : Option (List Char)} :
    cutSections s = ⟨body, query, fragment⟩ ↔
      s = body ++ optionalText '?' query ++ optionalText '#' fragment ∧
        (∀ c ∈ body, c ≠ '?' ∧ c ≠ '#') ∧ ∀ q, query = some q → '#' ∉ q := by
  constructor
  · intro h
    obtain ⟨before, fragment', rfl, hbefore⟩ := exists_optionalText '#' s
    obtain ⟨body', query', rfl, hbody'⟩ := exists_optionalText '?' before
    have hmarks : ∀ c ∈ body', c ≠ '?' ∧ c ≠ '#' := by
      intro c hc
      refine ⟨fun hmark => hbody' (hmark ▸ hc), fun hmark => hbefore ?_⟩
      exact List.mem_append_left _ (hmark ▸ hc)
    have hquery : ∀ q, query' = some q → '#' ∉ q := by
      rintro q rfl hq
      exact hbefore (List.mem_append_right _ (List.mem_cons_of_mem _ hq))
    rw [Normal.cutSections_text hmarks hquery] at h
    obtain ⟨rfl, rfl, rfl⟩ := Sections.mk.inj h
    exact ⟨rfl, hmarks, hquery⟩
  · rintro ⟨rfl, hbody, hquery⟩
    exact Normal.cutSections_text hbody hquery

theorem cutSections_append {s body : List Char} {query fragment : Option (List Char)}
    (h : cutSections s = ⟨body, query, fragment⟩) {t : List Char}
    (ht : ∀ c ∈ t, c ≠ '?' ∧ c ≠ '#') :
    cutSections (t ++ s) = ⟨t ++ body, query, fragment⟩ := by
  obtain ⟨rfl, hbody, hquery⟩ := cutSections_eq_iff.mp h
  refine cutSections_eq_iff.mpr ⟨by simp, fun c hc => ?_, hquery⟩
  rcases List.mem_append.mp hc with hc | hc
  · exact ht c hc
  · exact hbody c hc

namespace Parts

/-! Whole addresses -/

/-- Tabs and line breaks, which do not count in an address. -/
def isBreak (c : Char) : Bool := c = '\t' || c = '\n' || c = '\r'

/-- What counts of a text. -/
def unbroken (s : List Char) : List Char := s.filter (!isBreak ·)

theorem unbroken_append (s t : List Char) : unbroken (s ++ t) = unbroken s ++ unbroken t :=
  List.filter_append ..

theorem unbroken_cons {c : Char} (hc : isBreak c = false) (s : List Char) :
    unbroken (c :: s) = c :: unbroken s := by
  rw [unbroken, List.filter_cons, hc]
  rfl

theorem unbroken_eq_self_iff {s : List Char} : unbroken s = s ↔ ∀ c ∈ s, isBreak c = false := by
  simp [unbroken]

/-- A text that is not longer than what counts of it counts as it is. -/
theorem unbroken_eq_self_of_length {s : List Char} (h : s.length ≤ (unbroken s).length) :
    unbroken s = s := by
  have hlength := Nat.le_antisymm (List.length_filter_le _ _) h
  exact List.filter_eq_self.mpr (List.length_filter_eq_length_iff.mp hlength)

/-- A text that goes on behind a character that shows is not trimmed at its start. -/
theorem trimmed_append {s : List Char} (h : ∃ c ∈ s, ¬ c.toNat ≤ 0x20) (t : List Char) :
    trimmed (s ++ t) = trimmed s ++ unbroken t := by
  obtain ⟨c, hc, hshows⟩ := h
  have hany : (s.dropWhile (·.toNat ≤ 0x20)).any (fun c => !decide (c.toNat ≤ 0x20)) = true := by
    rw [List.any_dropWhile, Bool.not_eq_true', List.all_eq_false]
    exact ⟨c, hc, by simpa using hshows⟩
  have hdrop : ¬ (s.dropWhile (·.toNat ≤ 0x20)).isEmpty = true := by
    intro hempty
    rw [List.isEmpty_iff.mp hempty] at hany
    cases hany
  rw [trimmed, trimmed, List.dropWhile_append, if_neg hdrop, List.filter_append]
  rfl

/-- The steps in which an address is cut. -/
theorem cutParts_eq_iff {s : List Char} {p : Parts} :
    cutParts s = p ↔ ∃ rest tail query fragment,
      (cutScheme (trimmed s)).getD ([], trimmed s) = (p.scheme, rest) ∧
        cutNetloc rest = (p.netloc, tail) ∧
        cutSections tail = ⟨p.path, query, fragment⟩ ∧
        query.getD [] = p.query ∧ fragment.getD [] = p.fragment := by
  unfold cutParts
  constructor
  · rintro rfl
    exact ⟨_, _, _, _, rfl, rfl, rfl, rfl, rfl⟩
  · rintro ⟨rest, tail, query, fragment, hscheme, hnetloc, hsections, hquery, hfragment⟩
    simp only [hscheme, hnetloc, hsections, hquery, hfragment]

theorem split_eq_ok_iff {s : List Char} {p : Parts} :
    split s = .ok p ↔ cutParts s = p ∧ checkNetloc p.netloc = .ok () := by
  unfold split
  constructor
  · intro h
    split at h
    · rename_i hcheck
      obtain rfl := Except.ok.inj h
      exact ⟨rfl, hcheck⟩
    · cases h
  · rintro ⟨rfl, hcheck⟩
    rw [hcheck]

end Parts

end PaymentConnector.Url
