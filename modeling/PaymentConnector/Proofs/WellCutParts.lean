import PaymentConnector.Proofs.CutAddresses

/-!
What holds of the parts of every address, and the cut of a text that was put together from a
scheme, a text without marks and a fragment.
-/

namespace PaymentConnector

open Text

namespace Url.Parts

variable {s : List Char} {p : Parts}

/-! Starts of texts -/

/-- A path that is empty or starts with a slash. -/
def Rooted (s : List Char) : Prop := s = [] ∨ s.head? = some '/'

instance (s : List Char) : Decidable (Rooted s) := instDecidableOr

/-- A text without a scheme that nothing is trimmed in front of. -/
structure Bare (s : List Char) : Prop where
  scheme : cutScheme s = none
  shows : ∀ c, s.head? = some c → ¬ c.toNat ≤ 0x20

theorem toNat_le_of_isBreak {c : Char} (h : isBreak c = true) : c.toNat ≤ 0x20 := by
  simp only [isBreak, Bool.or_eq_true, decide_eq_true_eq] at h
  rcases h with (rfl | rfl) | rfl
  · decide
  · decide
  · decide

theorem free_isBreak_trimmed (s : List Char) : Free isBreak (trimmed s) := by
  intro c hc
  have hkept := (List.mem_filter.mp hc).2
  simpa [isBreak] using hkept

theorem head?_trimmed {c : Char} (h : (trimmed s).head? = some c) : ¬ c.toNat ≤ 0x20 := by
  change (unbroken (s.dropWhile (·.toNat ≤ 0x20))).head? = some c at h
  have hshows := List.head?_dropWhile_not (fun c : Char => decide (c.toNat ≤ 0x20)) s
  cases hdrop : s.dropWhile (·.toNat ≤ 0x20) with
  | nil =>
    rw [hdrop] at h
    cases h
  | cons d rest =>
    rw [hdrop] at h hshows
    have hd : ¬ d.toNat ≤ 0x20 := by simpa using hshows
    rw [unbroken_cons (Bool.eq_false_iff.mpr (mt toNat_le_of_isBreak hd))] at h
    exact Option.some.inj h ▸ hd

theorem trimmed_eq_self (hs : Free isBreak s)
    (hhead : ∀ c, s.head? = some c → ¬ c.toNat ≤ 0x20) : trimmed s = s := by
  have hdrop : s.dropWhile (·.toNat ≤ 0x20) = s := by
    cases s with
    | nil => rfl
    | cons c s => exact List.dropWhile_cons_of_neg (by simpa using hhead c rfl)
  rw [trimmed, hdrop]
  exact unbroken_eq_self_iff.mpr hs

theorem cutScheme_of_head?_slash (h : s.head? = some '/') : cutScheme s = none := by
  have hslash : ∀ c, s.head? = some c → isSchemeChar c = false ∧ c ≠ ':' := by
    intro c hc
    obtain rfl := Option.some.inj (hc.symm.trans h)
    exact ⟨by decide, by decide⟩
  exact cutScheme_append_eq_none (s := []) rfl hslash

/-- A network location ends where a rooted path begins. -/
theorem Rooted.endsNetloc (h : Rooted s) : ∀ c, s.head? = some c → endsNetloc c = true := by
  intro c hc
  rcases h with rfl | hslash
  · cases hc
  · exact Option.some.inj (hslash.symm.trans hc) ▸ rfl

theorem Rooted.bare (h : Rooted s) : Bare s := by
  rcases h with rfl | hslash
  · exact ⟨rfl, by simp⟩
  · refine ⟨cutScheme_of_head?_slash hslash, fun c hc => ?_⟩
    exact Option.some.inj (hslash.symm.trans hc) ▸ by decide

theorem Bare.of_append {t : List Char} (h : Bare (s ++ t)) : Bare s := by
  refine ⟨cutScheme_eq_none_of_append h.scheme, fun c hc => h.shows c ?_⟩
  obtain ⟨rest, rfl⟩ := List.head?_eq_some_iff.mp hc
  rfl

/-- The marks after a path make no scheme, and they show. -/
theorem Bare.append {t : List Char} (h : Bare s)
    (ht : ∀ c, t.head? = some c → c = '?' ∨ c = '#') : Bare (s ++ t) := by
  constructor
  · refine cutScheme_append_eq_none h.scheme fun c hc => ?_
    rcases ht c hc with rfl | rfl
    · decide
    · decide
  · intro c hc
    cases s with
    | nil =>
      rcases ht c hc with rfl | rfl
      · decide
      · decide
    | cons d s => exact h.shows c hc

/-! The parts of a cut -/

/-- What holds of the parts of every address. -/
structure WellCut (p : Parts) : Prop where
  scheme : p.scheme = [] ∨ IsScheme p.scheme
  netloc : Free endsNetloc p.netloc
  path : ∀ c ∈ p.path, c ≠ '?' ∧ c ≠ '#'
  rooted : p.netloc ≠ [] → Rooted p.path
  bare : p.scheme = [] → p.netloc = [] → Bare p.path
  unbroken : Free isBreak (p.netloc ++ p.path ++ p.fragment)

theorem WellCut.withoutQuery (hp : p.WellCut) : { p with query := [] }.WellCut :=
  ⟨hp.scheme, hp.netloc, hp.path, hp.rooted, hp.bare, hp.unbroken⟩

/-- The scheme that is cut off, and what is left. -/
theorem scheme_cases {scheme rest : List Char}
    (h : (cutScheme s).getD ([], s) = (scheme, rest)) :
    (scheme = [] ∧ rest = s ∧ cutScheme s = none) ∨
      (IsScheme scheme ∧ ∃ name, s = name ++ ':' :: rest) := by
  cases hs : cutScheme s with
  | none =>
    rw [hs, Option.getD_none, Prod.mk.injEq] at h
    exact Or.inl ⟨h.1.symm, h.2.symm, rfl⟩
  | some found =>
    obtain ⟨scheme', after⟩ := found
    rw [hs, Option.getD_some, Prod.mk.injEq] at h
    obtain ⟨rfl, rfl⟩ := h
    obtain ⟨c, name, rfl, -⟩ := cutScheme_eq_some_iff.mp hs
    exact Or.inr ⟨isScheme_of_cutScheme hs, c :: name, rfl⟩

theorem mem_optionalText_of_mem_getD {mark c : Char} {t : Option (List Char)}
    (h : c ∈ t.getD []) : c ∈ optionalText mark t := by
  cases t with
  | none => exact absurd h List.not_mem_nil
  | some t => exact List.mem_cons_of_mem mark h

/-- Behind a network location a path can only start where that ends. -/
theorem rooted_of_cutSections {path : List Char} {query fragment : Option (List Char)}
    (h : cutSections s = ⟨path, query, fragment⟩)
    (hend : ∀ c, s.head? = some c → endsNetloc c = true) : Rooted path := by
  obtain ⟨rfl, hpath, -⟩ := cutSections_eq_iff.mp h
  cases path with
  | nil => exact Or.inl rfl
  | cons c path =>
    obtain ⟨hquestion, hnumber⟩ := hpath c List.mem_cons_self
    obtain rfl : c = '/' := by simpa [endsNetloc, hquestion, hnumber] using hend c rfl
    exact Or.inr rfl

/-- The parts of an address hold characters of the address only. -/
theorem mem_trimmed_of_mem_cutParts {c : Char}
    (h : c ∈ (cutParts s).netloc ++ (cutParts s).path ++ (cutParts s).fragment) :
    c ∈ trimmed s := by
  obtain ⟨rest, tail, query, fragment, hscheme, hnetloc, hsections, -, hfragment⟩ :=
    cutParts_eq_iff.mp (rfl : cutParts s = cutParts s)
  obtain ⟨htail, -, -⟩ := cutSections_eq_iff.mp hsections
  have hlocated : c ∈ (cutParts s).netloc ++ tail := by
    rw [htail]
    simp only [List.mem_append, ← hfragment] at h ⊢
    rcases h with (h | h) | h
    · exact Or.inl h
    · exact Or.inr (Or.inl (Or.inl h))
    · exact Or.inr (Or.inr (mem_optionalText_of_mem_getD h))
  have hrest : c ∈ rest := by
    rcases cutNetloc_eq_iff.mp hnetloc with ⟨rfl, -, -⟩ | ⟨hnil, rfl, -⟩
    · exact List.mem_cons_of_mem _ (List.mem_cons_of_mem _ hlocated)
    · rwa [hnil, List.nil_append] at hlocated
  rcases scheme_cases hscheme with ⟨-, rfl, -⟩ | ⟨-, name, htrimmed⟩
  · exact hrest
  · rw [htrimmed]
    simp [hrest]

theorem wellCut_cutParts (s : List Char) : (cutParts s).WellCut := by
  obtain ⟨rest, tail, query, fragment, hscheme, hnetloc, hsections, -, -⟩ :=
    cutParts_eq_iff.mp (rfl : cutParts s = cutParts s)
  obtain ⟨htail, hpath, -⟩ := cutSections_eq_iff.mp hsections
  have hschemes := scheme_cases hscheme
  have hnetlocs := cutNetloc_eq_iff.mp hnetloc
  constructor
  · exact hschemes.imp And.left And.left
  · rcases hnetlocs with ⟨-, hfree, -⟩ | ⟨hempty, -⟩
    · exact hfree
    · exact hempty ▸ Free.nil
  · exact hpath
  · intro hne
    rcases hnetlocs with ⟨-, -, hend⟩ | ⟨hempty, -⟩
    · exact rooted_of_cutSections hsections hend
    · exact absurd hempty hne
  · intro hempty _
    rcases hschemes with ⟨-, rfl, hnone⟩ | ⟨hisScheme, -⟩
    · rcases hnetlocs with ⟨-, -, hend⟩ | ⟨-, rfl, -⟩
      · exact (rooted_of_cutSections hsections hend).bare
      · have hbare : Bare (trimmed s) := ⟨hnone, fun c hc => head?_trimmed hc⟩
        rw [htail, List.append_assoc] at hbare
        exact hbare.of_append
    · exact absurd hempty hisScheme.ne_nil
  · exact fun c hc => free_isBreak_trimmed s c (mem_trimmed_of_mem_cutParts hc)

/-! The cut of parts that were put together -/

theorem eq_of_head?_optionalText {mark c : Char} {t : Option (List Char)}
    (h : (optionalText mark t).head? = some c) : c = mark := by
  cases t with
  | none => cases h
  | some t => exact (Option.some.inj h).symm

theorem isBreak_of_isSchemeChar {c : Char} (h : isSchemeChar c = true) : isBreak c = false := by
  have hne (d : Char) (hd : isSchemeChar d = false) : decide (c = d) = false :=
    decide_eq_false (ne_of_class h hd)
  rw [isBreak, hne '\t' (by decide), hne '\n' (by decide), hne '\r' (by decide)]
  rfl

theorem toNat_of_isAlpha {c : Char} (h : c.isAlpha = true) : ¬ c.toNat ≤ 0x20 :=
  of_ascii (P := fun c => c.isAlpha = true → ¬ c.toNat ≤ 0x20) (by decide +kernel)
    (isAlpha_ascii h) h

theorem trimmed_of_isScheme {scheme t : List Char} (h : IsScheme scheme) (ht : Free isBreak t) :
    trimmed (scheme ++ ':' :: t) = scheme ++ ':' :: t := by
  obtain ⟨c, name, hcons, hc, -⟩ := h.shape
  have hfree : Free isBreak (scheme ++ ':' :: t) := by
    refine Free.append (fun d hd => ?_) (ht.cons (by decide))
    exact isBreak_of_isSchemeChar (Normal.isSchemeChar_of_mem_scheme h d hd)
  refine trimmed_eq_self hfree fun d hd => ?_
  rw [hcons] at hd
  exact Option.some.inj hd ▸ toNat_of_isAlpha hc

/-- A scheme, a text without marks and a fragment, put together, are cut apart again. -/
theorem cutParts_text {scheme netloc path : List Char} {fragment : Option (List Char)}
    (hscheme : (scheme = [] ∧ Bare s) ∨ IsScheme scheme) (hs : ∀ c ∈ s, c ≠ '?' ∧ c ≠ '#')
    (hbreaks : Free isBreak (s ++ optionalText '#' fragment))
    (hcut : cutNetloc s = (netloc, path)) :
    cutParts ((if scheme = [] then [] else scheme ++ [':']) ++ s ++ optionalText '#' fragment) =
      ⟨scheme, netloc, path, [], fragment.getD []⟩ := by
  have hmarks : ∀ c, (optionalText '#' fragment).head? = some c → c = '?' ∨ c = '#' :=
    fun c hc => Or.inr (eq_of_head?_optionalText hc)
  have hpath : ∀ c ∈ path, c ≠ '?' ∧ c ≠ '#' := by
    intro c hc
    rcases cutNetloc_eq_iff.mp hcut with ⟨rfl, -, -⟩ | ⟨-, rfl, -⟩
    · exact hs c (by simp [hc])
    · exact hs c hc
  refine cutParts_eq_iff.mpr ⟨s ++ optionalText '#' fragment, path ++ optionalText '#' fragment,
    none, fragment, ?_, cutNetloc_append_marks hcut hmarks, ?_, rfl, rfl⟩
  · rcases hscheme with ⟨rfl, hbare⟩ | hscheme
    · have htext := hbare.append hmarks
      rw [if_pos rfl, List.nil_append, trimmed_eq_self hbreaks htext.shows, htext.scheme]
      rfl
    · have htext : (if scheme = [] then [] else scheme ++ [':']) ++ s ++ optionalText '#' fragment =
          scheme ++ ':' :: (s ++ optionalText '#' fragment) := by
        rw [if_neg hscheme.ne_nil]
        simp
      rw [htext, trimmed_of_isScheme hscheme hbreaks, cutScheme_of_isScheme hscheme]
      rfl
  · exact cutSections_eq_iff.mpr ⟨by simp [optionalText], hpath, by simp⟩

end Url.Parts

end PaymentConnector
