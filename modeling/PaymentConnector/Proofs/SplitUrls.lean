import PaymentConnector.Proofs.NormalAuthorities
import PaymentConnector.Proofs.TrimmedTexts

/-!
The text of a URL in normal form, cut into parts again. Each part of the cut is the part
of the URL that it is named for, since no part holds a mark that ends it. No check on
the network location fails, so the text of every URL that can be read can be split.
-/

namespace PaymentConnector.Url

open Text

/-- The text between the slashes and the path. -/
def netloc (u : Url) : List Char :=
  match u.authority with
  | some a => a.text
  | none => []

/-- The network location with its slashes, if there is an authority. -/
def slashedNetloc (u : Url) : List Char :=
  match u.authority with
  | some a => '/' :: '/' :: a.text
  | none => []

/-- The path, with what sets it off where there is no authority. -/
def offsetPath (u : Url) : List Char :=
  match u.authority with
  | some _ => u.path.text
  | none => u.leadText ++ u.path.text

/-- The text from the path on. -/
def tailText (u : Url) : List Char :=
  u.offsetPath ++ optionalText '?' u.query ++ optionalText '#' u.fragment

namespace Normal

variable {u : Url}

/-! Characters -/

theorem keepPlain_of_isSchemeChar {c : Char} (h : isSchemeChar c = true) :
    keepPlain c = true ∧ c ≠ ':' := by
  have hchar := of_ascii (P := fun c => isSchemeChar c = true → keepPlain c = true ∧ c ≠ ':')
    (by decide +kernel) (isSchemeChar_ascii h)
  exact hchar h

theorem isSchemeChar_of_mem_scheme {s : List Char} (hs : IsScheme s) :
    ∀ c ∈ s, isSchemeChar c = true := by
  obtain ⟨c, rest, rfl, hc, hrest⟩ := hs.shape
  exact List.forall_mem_cons.mpr ⟨isSchemeChar_of_isAlpha hc, List.all_eq_true.mp hrest⟩

/-- What a path in normal form is made of; neither of the marks after it is in it. -/
theorem mem_path_text {path : UrlPath} (hpath : path.Normal) {c : Char} (hc : c ∈ path.text) :
    keepPlain c = true ∧ c ≠ '?' ∧ c ≠ '#' := by
  cases path with
  | plain s => exact hpath.1 c hc
  | segments parts =>
    obtain ⟨part, hpart, hc⟩ := List.mem_flatMap.mp hc
    rcases List.mem_cons.mp hc with rfl | hc
    · exact ⟨by decide, by decide, by decide⟩
    · have hkeep := (hpath part hpart c hc).1
      exact ⟨keepPlain_of_keepFragment (keepFragment_of_keepPath hkeep),
        ne_of_class hkeep (by decide), ne_of_class hkeep (by decide)⟩

theorem mem_offsetPath (hu : u.Normal) {c : Char} (hc : c ∈ u.offsetPath) :
    keepPlain c = true ∧ c ≠ '?' ∧ c ≠ '#' := by
  unfold offsetPath at hc
  split at hc
  · exact mem_path_text hu.path hc
  · rename_i hnone
    rcases List.mem_append.mp hc with hc | hc
    · rw [leadText, hnone] at hc
      have hlead : c = '/' ∨ c = '.' := by
        split at hc
        · simp_all
        · simpa using hc
        · exact absurd hc List.not_mem_nil
      rcases hlead with rfl | rfl
      · exact ⟨by decide, by decide, by decide⟩
      · exact ⟨by decide, by decide, by decide⟩
    · exact mem_path_text hu.path hc

theorem keepPlain_of_mem_optionalText {mark c : Char} {s : Option (List Char)}
    (hmark : keepPlain mark = true) (hs : ∀ t, s = some t → ∀ c ∈ t, keepPlain c = true)
    (hc : c ∈ optionalText mark s) : keepPlain c = true := by
  unfold optionalText at hc
  split at hc
  · rename_i t
    rcases List.mem_cons.mp hc with rfl | hc
    · exact hmark
    · exact hs t rfl c hc
  · exact absurd hc List.not_mem_nil

theorem keepPlain_of_mem_tailText (hu : u.Normal) {c : Char} (hc : c ∈ u.tailText) :
    keepPlain c = true := by
  simp only [tailText, List.mem_append] at hc
  rcases hc with (hc | hc) | hc
  · exact (hu.mem_offsetPath hc).1
  · exact keepPlain_of_mem_optionalText (by decide)
      (fun t ht c hc => keepPlain_of_keepQuery (hu.query t ht c hc)) hc
  · exact keepPlain_of_mem_optionalText (by decide)
      (fun t ht c hc => keepPlain_of_keepFragment (hu.fragment t ht c hc)) hc

/-! Sections -/

theorem cutSections_text {body : List Char} {query fragment : Option (List Char)}
    (hbody : ∀ c ∈ body, c ≠ '?' ∧ c ≠ '#') (hquery : ∀ s, query = some s → '#' ∉ s) :
    cutSections (body ++ optionalText '?' query ++ optionalText '#' fragment) =
      ⟨body, query, fragment⟩ := by
  have hnumber : Free (· = '#') (body ++ optionalText '?' query) := by
    refine Free.append (fun c hc => decide_eq_false (hbody c hc).2) ?_
    cases query with
    | none => exact Free.nil
    | some s =>
      refine Free.cons (by decide) fun c hc => decide_eq_false ?_
      rintro rfl
      exact hquery s rfl hc
  have hquestion : Free (· = '?') body := fun c hc => decide_eq_false (hbody c hc).1
  have hbefore : cutAround (· = '?') (body ++ optionalText '?' query) =
      query.map fun s => (body, s) := by
    cases query with
    | none => rw [optionalText, List.append_nil, cutAround_of_free hquestion, Option.map_none]
    | some s => exact cutAround_append_cons hquestion (by decide)
  unfold cutSections
  cases fragment with
  | none =>
    rw [show optionalText '#' none = [] from rfl, List.append_nil, cutAround_of_free hnumber]
    simp only [hbefore]
    cases query <;> simp [optionalText]
  | some f =>
    rw [show optionalText '#' (some f) = '#' :: f from rfl,
      cutAround_append_cons hnumber (by decide)]
    simp only [hbefore]
    cases query <;> simp [optionalText]

theorem cutSections_tailText (hu : u.Normal) :
    cutSections u.tailText = ⟨u.offsetPath, u.query, u.fragment⟩ := by
  refine cutSections_text (fun c hc => (hu.mem_offsetPath hc).2) ?_
  intro s hs hmem
  exact absurd (hu.query s hs '#' hmem) (by decide)

/-! The network location -/

theorem text_eq (u : Url) : u.text = u.scheme ++ ':' :: (u.slashedNetloc ++ u.tailText) := by
  unfold text slashedNetloc tailText offsetPath
  cases hauthority : u.authority with
  | none => simp
  | some a => simp [leadText, hauthority]

theorem head?_marks {query fragment : Option (List Char)} {c : Char}
    (h : (optionalText '?' query ++ optionalText '#' fragment).head? = some c) :
    c = '?' ∨ c = '#' := by
  cases query with
  | some s => exact Or.inl (Option.some.inj h).symm
  | none =>
    cases fragment with
    | some s => exact Or.inr (Option.some.inj h).symm
    | none => simp [optionalText] at h

/-- Two slashes at the start would be those of an authority. -/
theorem tailText_ne_slashes (hu : u.Normal) (h : u.authority = none) (rest : List Char) :
    u.tailText ≠ '/' :: '/' :: rest := by
  have hslash : ¬ (('/' : Char) = '?' ∨ ('/' : Char) = '#') := by decide
  have hmarks (t : List Char) :
      optionalText '?' u.query ++ optionalText '#' u.fragment ≠ '/' :: t := by
    intro heq
    exact hslash (head?_marks (congrArg List.head? heq))
  have hpath := hu.path
  intro htail
  rw [tailText, offsetPath, h, List.append_assoc] at htail
  cases hp : u.path with
  | plain s =>
    rw [hp] at hpath
    simp only [leadText, h, hp, UrlPath.text, List.nil_append] at htail
    cases s with
    | nil => exact hmarks _ htail
    | cons c s => exact hpath.2 (congrArg List.head? htail)
  | segments parts =>
    rw [hp] at hpath
    cases parts with
    | nil =>
      simp only [leadText, h, hp, UrlPath.text, List.nil_append, List.flatMap_nil] at htail
      exact hmarks _ htail
    | cons part parts =>
      cases part with
      | cons c part =>
        have hc : c ≠ '/' := (hpath (c :: part) List.mem_cons_self c List.mem_cons_self).2
        simp [leadText, h, hp, UrlPath.text, hc] at htail
      | nil =>
        cases parts with
        | nil =>
          simp only [leadText, h, hp, UrlPath.text, List.nil_append, List.flatMap_cons,
            List.flatMap_nil, List.append_nil, List.cons_append, List.cons.injEq] at htail
          exact hmarks _ htail.2
        -- here the path is set off by a dot
        | cons next parts => simp [leadText, h, hp, UrlPath.text] at htail

theorem cutNetloc_of_ne_slashes {s : List Char} (h : ∀ rest, s ≠ '/' :: '/' :: rest) :
    Parts.cutNetloc s = ([], s) := by
  unfold Parts.cutNetloc
  split
  · exact absurd rfl (h _)
  · rfl

/-- After an authority comes a slash, one of the marks, or nothing. -/
theorem head?_tailText (hu : u.Normal) {a : Authority} (h : u.authority = some a) {c : Char}
    (hc : u.tailText.head? = some c) : c = '/' ∨ c = '?' ∨ c = '#' := by
  obtain ⟨parts, hparts⟩ := (hu.authority a h).2
  rw [tailText, offsetPath, h, hparts, List.append_assoc] at hc
  cases parts with
  | nil => exact Or.inr (head?_marks hc)
  | cons part parts => exact Or.inl (Option.some.inj hc).symm

theorem cutNetloc_text (hu : u.Normal) :
    Parts.cutNetloc (u.slashedNetloc ++ u.tailText) = (u.netloc, u.tailText) := by
  unfold slashedNetloc netloc
  cases h : u.authority with
  | none => exact cutNetloc_of_ne_slashes (hu.tailText_ne_slashes h)
  | some a =>
    have hfree : Free (fun c => c = '/' || c = '?' || c = '#') a.text := by
      refine (hu.authority a h).1.free_text (fun c hc => ?_) rfl
      refine of_ascii (P := fun c => isHostChar c = true →
        (decide (c = '/') || decide (c = '?') || decide (c = '#')) = false)
        (by decide +kernel) ?_ hc
      exact toNat_lt_of_keepPlain (Bool.and_eq_true_iff.mp hc).1
    have hend : cut (fun c => c = '/' || c = '?' || c = '#') u.tailText = ([], u.tailText) := by
      cases htail : u.tailText with
      | nil => rfl
      | cons c t =>
        refine cut_cons_of_mem ?_
        rcases hu.head?_tailText h (congrArg List.head? htail) with rfl | rfl | rfl
        · rfl
        · rfl
        · rfl
    calc Parts.cutNetloc ('/' :: '/' :: a.text ++ u.tailText)
        = cut (fun c => c = '/' || c = '?' || c = '#') (a.text ++ u.tailText) := rfl
      _ = (a.text, u.tailText) := by
          rw [cut_append_of_free hfree, hend, List.append_nil]

theorem cutScheme_text (hu : u.Normal) :
    cutScheme u.text = some (u.scheme, u.slashedNetloc ++ u.tailText) := by
  obtain ⟨c, rest, hscheme, hc, hrest⟩ := hu.scheme.shape
  have hfree : Free (· = ':') u.scheme := by
    intro d hd
    exact decide_eq_false (keepPlain_of_isSchemeChar (isSchemeChar_of_mem_scheme hu.scheme d hd)).2
  rw [cutScheme, text_eq, cutAround_append_cons hfree (by decide)]
  simp only [hscheme]
  rw [if_pos ⟨hc, hrest⟩, ← hscheme, hu.scheme.small]

theorem keepPlain_of_mem_text (hu : u.Normal) {c : Char} (hc : c ∈ u.text) :
    keepPlain c = true := by
  rw [text_eq, List.mem_append, List.mem_cons, List.mem_append] at hc
  rcases hc with hc | rfl | hc | hc
  · exact (keepPlain_of_isSchemeChar (isSchemeChar_of_mem_scheme hu.scheme c hc)).1
  · decide
  · unfold slashedNetloc at hc
    split at hc
    · rename_i a h
      rcases List.mem_cons.mp hc with rfl | hc
      · decide
      · rcases List.mem_cons.mp hc with rfl | hc
        · decide
        · exact (hu.authority a h).1.keepPlain_of_mem_text hc
    · exact absurd hc List.not_mem_nil
  · exact hu.keepPlain_of_mem_tailText hc

/-- A URL starts with the letter that its scheme starts with. -/
theorem head?_text (hu : u.Normal) : ∀ c ∈ u.text.head?, decide (c.toNat ≤ 0x20) = false := by
  obtain ⟨c, rest, hscheme, hc, -⟩ := hu.scheme.shape
  have hletter : ¬ c.toNat ≤ 0x20 :=
    of_ascii (P := fun c => c.isAlpha = true → ¬ c.toNat ≤ 0x20) (by decide +kernel)
      (isSchemeChar_ascii (isSchemeChar_of_isAlpha hc)) hc
  rw [text_eq, hscheme]
  simpa using hletter

/-- There is no tab and no line break in a URL. -/
theorem filter_text (hu : u.Normal) :
    u.text.filter (fun c => !(c = '\t' || c = '\n' || c = '\r')) = u.text := by
  rw [List.filter_eq_self]
  intro d hd
  have hplain := hu.keepPlain_of_mem_text hd
  exact of_ascii (P := fun d => keepPlain d = true →
    (!(decide (d = '\t') || decide (d = '\n') || decide (d = '\r'))) = true) (by decide +kernel)
    (toNat_lt_of_keepPlain hplain) hplain

/-- There is nothing to trim before a URL and nothing to drop in it. -/
theorem trimmed_text (hu : u.Normal) : Parts.trimmed u.text = u.text := by
  rw [Parts.trimmed, dropWhile_of_head hu.head?_text, hu.filter_text]

/-- The text of a URL is cut into the parts that it was put together from. -/
theorem cutParts_text (hu : u.Normal) :
    Parts.cutParts u.text =
      { scheme := u.scheme
        netloc := u.netloc
        path := u.offsetPath
        query := u.query.getD []
        fragment := u.fragment.getD [] } := by
  simp only [Parts.cutParts, hu.trimmed_text, hu.cutScheme_text, Option.getD_some,
    hu.cutNetloc_text, hu.cutSections_tailText]

theorem split_text (hu : u.Normal) : Parts.split u.text = .ok (Parts.cutParts u.text) := by
  have hnetloc : Parts.checkNetloc u.netloc = .ok () := by
    unfold netloc
    cases hauthority : u.authority with
    | none => rfl
    | some a => exact (hu.authority a hauthority).1.checkNetloc_text
  rw [Parts.split, hu.cutParts_text]
  simp only [hnetloc]

end Normal

end PaymentConnector.Url
