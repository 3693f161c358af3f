import PaymentConnector.Proofs.RedirectTargets
import PaymentConnector.Proofs.WellCutParts

/-!
The endpoint of a redirect form, cut again. An address without its query is put together from
its parts, and the text is cut into the same parts again, or at most into a path with one
slash more in front. Only a path that starts with two slashes where there is no network
location is not safe: the empty network location is left out, and what follows the slashes is
taken for one.
-/

namespace PaymentConnector

open Text

namespace Url.Parts

variable {p : Parts}

/-! The parts again -/

/-- The parts that are put together, cut apart again. -/
def recut (p : Parts) : Parts :=
  { p with netloc := (cutNetloc p.hierarchyText).1, path := (cutNetloc p.hierarchyText).2 }

/-- There is no network location, but the path starts with two slashes, which would be taken for
those of one. Only two slashes alone or exactly three do no harm, behind a scheme that is
written with slashes. -/
def Collapses (p : Parts) : Prop :=
  p.netloc = [] ∧ ∃ rest, p.path = '/' :: '/' :: rest ∧
    ¬ (isSlashed p.scheme = true ∧
      (rest = [] ∨ ∃ tail, rest = '/' :: tail ∧ tail.head? ≠ some '/'))

theorem recut_eq {netloc path : List Char} (h : cutNetloc p.hierarchyText = (netloc, path)) :
    p.recut = { p with netloc, path } := by
  rw [recut, h]

/-- The parts again have the same network location, and put together they are the same text. -/
def Stable (p : Parts) : Prop :=
  p.recut.netloc = p.netloc ∧ p.recut.hierarchyText = p.hierarchyText

theorem isPrefixOf_slashes_iff (s : List Char) :
    ['/', '/'].isPrefixOf s = true ↔ ∃ rest, s = '/' :: '/' :: rest := by
  rw [List.isPrefixOf_iff_prefix]
  exact ⟨fun ⟨rest, h⟩ => ⟨rest, h.symm⟩, fun ⟨rest, h⟩ => ⟨rest, h.symm⟩⟩

/-! Where slashes are put in front -/

theorem hierarchyText_of_netloc (hp : p.WellCut) (h : p.netloc ≠ []) :
    p.hierarchyText = '/' :: '/' :: (p.netloc ++ p.path) := by
  have hrooted : p.path = [] ∨ p.path.head? = some '/' := hp.rooted h
  rw [hierarchyText, if_pos (Or.inl h), if_pos hrooted]
  rfl

/-- The path with a slash in front. -/
def rootedPath (s : List Char) : List Char := if Rooted s then s else '/' :: s

theorem rooted_rootedPath (s : List Char) : Rooted (rootedPath s) := by
  unfold rootedPath
  split
  · assumption
  · exact Or.inr rfl

theorem rootedPath_ne_slashes {s : List Char} (h : ∀ rest, s ≠ '/' :: '/' :: rest)
    (rest : List Char) : rootedPath s ≠ '/' :: '/' :: rest := by
  unfold rootedPath
  split
  · exact h rest
  · rename_i hroot
    intro heq
    refine hroot (Or.inr ?_)
    rw [(List.cons.inj heq).2]
    rfl

theorem hierarchyText_of_isSlashed (h : p.netloc = []) (hslashed : isSlashed p.scheme = true)
    (hpath : ∀ rest, p.path ≠ '/' :: '/' :: rest) :
    p.hierarchyText = '/' :: '/' :: rootedPath p.path := by
  have hnot : (!(['/', '/'].isPrefixOf p.path)) = true := by
    rw [Bool.not_eq_true', Bool.eq_false_iff]
    intro hslashes
    obtain ⟨rest, hrest⟩ := (isPrefixOf_slashes_iff _).mp hslashes
    exact hpath rest hrest
  rw [hierarchyText, if_pos (Or.inr ⟨hslashed, hnot⟩), h]
  rfl

theorem hierarchyText_of_not_isSlashed (h : p.netloc = [])
    (hslashed : ¬ isSlashed p.scheme = true) :
    p.hierarchyText = p.path := by
  rw [hierarchyText, if_neg]
  rintro (hne | ⟨hs, -⟩)
  · exact hne h
  · exact hslashed hs

theorem hierarchyText_of_slashes {rest : List Char} (h : p.netloc = [])
    (hpath : p.path = '/' :: '/' :: rest) : p.hierarchyText = '/' :: '/' :: rest := by
  have hslashes := (isPrefixOf_slashes_iff p.path).mpr ⟨rest, hpath⟩
  rw [hierarchyText, if_neg, hpath]
  rintro (hne | ⟨-, hnot⟩)
  · exact hne h
  · rw [hslashes] at hnot
    cases hnot

theorem ne_slashes_cons (s : List Char) : s ≠ '/' :: '/' :: s := by
  intro h
  have hlength := congrArg List.length h
  simp only [List.length_cons] at hlength
  omega

/-- A rooted path that is put behind two slashes gives the same text if the scheme brings the
slashes and the path does not have two of its own. -/
theorem hierarchyText_eq_iff {path : List Char} (h : Rooted path) :
    { p with netloc := [], path }.hierarchyText = '/' :: '/' :: path ↔
      isSlashed p.scheme = true ∧ ∀ tail, path ≠ '/' :: '/' :: tail := by
  by_cases hslashed : isSlashed p.scheme = true
  · by_cases hpath : ∃ tail, path = '/' :: '/' :: tail
    · obtain ⟨tail, rfl⟩ := hpath
      rw [hierarchyText_of_slashes rfl rfl]
      refine iff_of_false (fun heq => ?_) fun hne => hne.2 tail rfl
      exact ne_slashes_cons ('/' :: '/' :: tail) heq
    · have hne : ∀ tail, path ≠ '/' :: '/' :: tail := fun tail htail => hpath ⟨tail, htail⟩
      have htext := hierarchyText_of_isSlashed (p := { p with netloc := [], path }) rfl hslashed hne
      rw [htext, rootedPath, if_pos h]
      exact iff_of_true rfl ⟨hslashed, hne⟩
  · have htext := hierarchyText_of_not_isSlashed (p := { p with netloc := [], path }) rfl hslashed
    rw [htext]
    exact iff_of_false (ne_slashes_cons path) fun hne => hslashed hne.1

/-! Stable parts -/

theorem stable_of_netloc (hp : p.WellCut) (h : p.netloc ≠ []) : p.Stable := by
  have hcut : cutNetloc p.hierarchyText = (p.netloc, p.path) :=
    cutNetloc_eq_iff.mpr (Or.inl
      ⟨hierarchyText_of_netloc hp h, hp.netloc, (hp.rooted h).endsNetloc⟩)
  rw [Stable, recut_eq hcut]
  exact ⟨rfl, rfl⟩

theorem stable_of_isSlashed (h : p.netloc = []) (hslashed : isSlashed p.scheme = true)
    (hpath : ∀ rest, p.path ≠ '/' :: '/' :: rest) : p.Stable := by
  have htext := hierarchyText_of_isSlashed h hslashed hpath
  have hrooted := rooted_rootedPath p.path
  have hcut : cutNetloc p.hierarchyText = ([], rootedPath p.path) :=
    cutNetloc_eq_iff.mpr (Or.inl ⟨htext, Free.nil, hrooted.endsNetloc⟩)
  rw [Stable, recut_eq hcut, htext]
  exact ⟨h.symm, (hierarchyText_eq_iff hrooted).mpr ⟨hslashed, rootedPath_ne_slashes hpath⟩⟩

theorem stable_of_not_isSlashed (h : p.netloc = []) (hslashed : ¬ isSlashed p.scheme = true)
    (hpath : ∀ rest, p.path ≠ '/' :: '/' :: rest) : p.Stable := by
  have htext := hierarchyText_of_not_isSlashed h hslashed
  have hcut : cutNetloc p.hierarchyText = ([], p.path) :=
    cutNetloc_eq_iff.mpr (Or.inr ⟨rfl, htext.symm, by rwa [htext]⟩)
  rw [Stable, recut_eq hcut, htext]
  exact ⟨h.symm, hierarchyText_of_not_isSlashed rfl hslashed⟩

/-- Two slashes in front of the path are taken for those of a network location. It stays empty
if nothing or a third slash comes next, but then the scheme has to bring the two back. -/
theorem stable_iff_of_slashes {rest : List Char} (hp : p.WellCut) (h : p.netloc = [])
    (hpath : p.path = '/' :: '/' :: rest) :
    p.Stable ↔ isSlashed p.scheme = true ∧
      (rest = [] ∨ ∃ tail, rest = '/' :: tail ∧ tail.head? ≠ some '/') := by
  have htext := hierarchyText_of_slashes h hpath
  have hempty (hrest : Rooted rest) :
      p.Stable ↔ isSlashed p.scheme = true ∧ ∀ tail, rest ≠ '/' :: '/' :: tail := by
    have hcut : cutNetloc p.hierarchyText = ([], rest) :=
      cutNetloc_eq_iff.mpr (Or.inl ⟨htext, Free.nil, hrest.endsNetloc⟩)
    rw [Stable, recut_eq hcut, htext, ← hierarchyText_eq_iff hrest]
    exact and_iff_right h.symm
  cases rest with
  | nil =>
    rw [hempty (Or.inl rfl)]
    simp
  | cons c tail =>
    by_cases hc : c = '/'
    · subst hc
      rw [hempty (Or.inr rfl)]
      simp [List.head?_eq_some_iff]
    · have hmarks := hp.path c (by rw [hpath]; simp)
      have hfree : endsNetloc c = false := by simp [endsNetloc, hc, hmarks]
      have hcut : cutNetloc p.hierarchyText =
          (c :: (cut endsNetloc tail).1, (cut endsNetloc tail).2) := by
        rw [htext, cutNetloc_slashes, cut_cons_of_free hfree]
      refine iff_of_false (fun hstable => ?_) (by simp [hc])
      rw [Stable, recut_eq hcut, h] at hstable
      exact List.cons_ne_nil _ _ hstable.1

theorem stable_iff (hp : p.WellCut) : p.Stable ↔ ¬ p.Collapses := by
  by_cases hnetloc : p.netloc = []
  · by_cases hpath : ∃ rest, p.path = '/' :: '/' :: rest
    · obtain ⟨rest, hpath⟩ := hpath
      rw [stable_iff_of_slashes hp hnetloc hpath]
      have hcollapses : p.Collapses ↔ ¬ (isSlashed p.scheme = true ∧
          (rest = [] ∨ ∃ tail, rest = '/' :: tail ∧ tail.head? ≠ some '/')) := by
        constructor
        · rintro ⟨-, rest', hpath', hnot⟩
          obtain rfl : rest = rest' := by simpa using hpath.symm.trans hpath'
          exact hnot
        · exact fun hnot => ⟨hnetloc, rest, hpath, hnot⟩
      rw [hcollapses, Classical.not_not]
    · have hne : ∀ rest, p.path ≠ '/' :: '/' :: rest := fun rest h => hpath ⟨rest, h⟩
      have hsafe : ¬ p.Collapses := fun ⟨_, rest, hrest, _⟩ => hne rest hrest
      by_cases hslashed : isSlashed p.scheme = true
      · exact iff_of_true (stable_of_isSlashed hnetloc hslashed hne) hsafe
      · exact iff_of_true (stable_of_not_isSlashed hnetloc hslashed hne) hsafe
  · exact iff_of_true (stable_of_netloc hp hnetloc) fun hcollapses => hnetloc hcollapses.1

/-! The text without its query -/

theorem mem_hierarchyText {c : Char} (h : c ∈ p.hierarchyText) :
    c = '/' ∨ c ∈ p.netloc ∨ c ∈ p.path := by
  unfold hierarchyText at h
  split at h
  · simp only [List.mem_append, List.mem_cons] at h
    rcases h with (rfl | rfl | h) | h
    · exact Or.inl rfl
    · exact Or.inl rfl
    · exact Or.inr (Or.inl h)
    · split at h
      · exact Or.inr (Or.inr h)
      · rcases List.mem_cons.mp h with rfl | h
        · exact Or.inl rfl
        · exact Or.inr (Or.inr h)
  · exact Or.inr (Or.inr h)

namespace WellCut

theorem ne_mark_of_mem_hierarchyText (hp : p.WellCut) {c : Char} (hc : c ∈ p.hierarchyText) :
    c ≠ '?' ∧ c ≠ '#' := by
  rcases mem_hierarchyText hc with rfl | hc | hc
  · decide
  · have hfree := hp.netloc c hc
    simp only [endsNetloc, Bool.or_eq_false_iff, decide_eq_false_iff_not] at hfree
    exact ⟨hfree.1.2, hfree.2⟩
  · exact hp.path c hc

theorem free_isBreak_hierarchyText (hp : p.WellCut) : Free isBreak p.hierarchyText := by
  intro c hc
  rcases mem_hierarchyText hc with rfl | hc | hc
  · decide
  · exact hp.unbroken c (by simp [hc])
  · exact hp.unbroken c (by simp [hc])

/-- Without a scheme, none is found in the text, and nothing is trimmed in front of it. -/
theorem scheme_hierarchyText (hp : p.WellCut) :
    (p.scheme = [] ∧ Bare p.hierarchyText) ∨ IsScheme p.scheme := by
  refine hp.scheme.imp_left fun hempty => ⟨hempty, ?_⟩
  by_cases hnetloc : p.netloc = []
  · have hslashed : ¬ isSlashed p.scheme = true := by
      rw [hempty]
      decide
    rw [hierarchyText_of_not_isSlashed hnetloc hslashed]
    exact hp.bare hempty hnetloc
  · rw [hierarchyText_of_netloc hp hnetloc]
    exact Rooted.bare (Or.inr rfl)

/-- Parts without a query, put together, are cut into their parts again. -/
theorem cutParts_join (hp : p.WellCut) (hquery : p.query = []) : cutParts p.join = p.recut := by
  -- an empty fragment is not written
  let fragment := (some p.fragment).filter (· ≠ [])
  have hfragment : optionalText '#' fragment = if p.fragment = [] then [] else '#' :: p.fragment :=
    optionalText_filter_fragment (some p.fragment)
  have hbreaks : Free isBreak (p.hierarchyText ++ optionalText '#' fragment) := by
    refine hp.free_isBreak_hierarchyText.append ?_
    rw [hfragment]
    split
    · exact Free.nil
    · exact Free.cons (by decide) fun c hc => hp.unbroken c (by simp [hc])
  have hcut := cutParts_text hp.scheme_hierarchyText
    (fun c hc => hp.ne_mark_of_mem_hierarchyText hc) hbreaks rfl
  rw [hfragment, getD_filter_fragment] at hcut
  rw [join, hquery, if_pos rfl, List.append_nil, hcut, recut, hquery]
  rfl

end WellCut

theorem join_recut_iff : p.recut.join = p.join ↔ p.recut.hierarchyText = p.hierarchyText := by
  constructor
  · intro h
    exact List.append_cancel_left (List.append_cancel_right (List.append_cancel_right h))
  · intro h
    rw [join, join, h]
    rfl

end Url.Parts

namespace RedirectForm

theorem ofAddress_eq_ok_iff {address : List Char} {method : HttpMethod} {form : RedirectForm} :
    ofAddress address method = .ok form ↔
      ∃ parts, Url.Parts.split address = .ok parts ∧ form = ofParts parts method := by
  unfold ofAddress
  cases Url.Parts.split address with
  | error e => simp [Except.map]
  | ok parts => simp [Except.map, eq_comm]

theorem ofParts_of_query_eq_nil {p : Url.Parts} (h : p.query = []) (method : HttpMethod) :
    ofParts p method = ⟨String.ofList p.join, method, []⟩ := by
  have hbare : { p with query := [] } = p := by rw [← h]
  rw [ofParts, hbare, h]
  rfl

/-- The endpoint of a redirect form has the network location of the address, and is the endpoint
of its own form, which has no fields, just if the parts of the address do not collapse. -/
theorem stable_of_ofAddress {address : List Char} {method : HttpMethod} {form : RedirectForm}
    (h : ofAddress address method = .ok form) :
    ∃ parts, Url.Parts.split address = .ok parts ∧
      ((∃ again, Url.Parts.split form.endpoint.toList = .ok again ∧ again.netloc = parts.netloc ∧
          ofAddress form.endpoint.toList method = .ok ⟨form.endpoint, method, []⟩) ↔
        ¬ parts.Collapses) := by
  obtain ⟨parts, hsplit, rfl⟩ := ofAddress_eq_ok_iff.mp h
  refine ⟨parts, hsplit, ?_⟩
  obtain ⟨hparts, hcheck⟩ := Url.Parts.split_eq_ok_iff.mp hsplit
  let bare : Url.Parts := { parts with query := [] }
  have hbare : bare.WellCut := (hparts ▸ Url.Parts.wellCut_cutParts address).withoutQuery
  have hendpoint : (ofParts parts method).endpoint = String.ofList bare.join := rfl
  have hcut := hbare.cutParts_join rfl
  rw [hendpoint, String.toList_ofList, show parts.Collapses ↔ bare.Collapses from Iff.rfl,
    ← Url.Parts.stable_iff hbare]
  constructor
  · rintro ⟨again, hagain, hnetloc, hform⟩
    obtain ⟨rfl, -⟩ := Url.Parts.split_eq_ok_iff.mp hagain
    obtain ⟨again, hagain', heq⟩ := ofAddress_eq_ok_iff.mp hform
    obtain ⟨rfl, -⟩ := Url.Parts.split_eq_ok_iff.mp hagain'
    rw [hcut] at hnetloc heq
    rw [ofParts_of_query_eq_nil rfl, RedirectForm.mk.injEq] at heq
    have hjoin : bare.join = bare.recut.join := String.ofList_injective heq.1
    exact ⟨hnetloc, Url.Parts.join_recut_iff.mp hjoin.symm⟩
  · rintro ⟨hnetloc, htext⟩
    have hagain : Url.Parts.split bare.join = .ok bare.recut := by
      refine Url.Parts.split_eq_ok_iff.mpr ⟨hcut, ?_⟩
      rw [hnetloc]
      exact hcheck
    refine ⟨bare.recut, hagain, hnetloc, ofAddress_eq_ok_iff.mpr ⟨bare.recut, hagain, ?_⟩⟩
    rw [ofParts_of_query_eq_nil rfl, Url.Parts.join_recut_iff.mpr htext]

theorem doubledSlash_stable :
    ofAddress "https://h//p?x=1#f".toList .get = .ok ⟨"https://h//p#f", .get, [("x", "1")]⟩ ∧
      ofAddress "https://h//p#f".toList .get = .ok ⟨"https://h//p#f", .get, []⟩ := by
  have hform : ofAddress "https://h//p?x=1#f".toList .get =
      .ok ⟨"https://h//p#f", .get, [("x", "1")]⟩ :=
    ofAddress_eq_ok_iff.mpr ⟨_, rfl, by decide +kernel⟩
  obtain ⟨parts, hparts, hstable⟩ := stable_of_ofAddress hform
  obtain rfl := Except.ok.inj hparts
  have hsafe : ¬ Url.Parts.Collapses (Url.Parts.cutParts "https://h//p?x=1#f".toList) :=
    fun hcollapses => absurd hcollapses.1 (by decide)
  obtain ⟨again, -, -, hagain⟩ := hstable.mpr hsafe
  exact ⟨hform, hagain⟩

/-- Without a network location, a part of the path becomes one, or two slashes get lost. -/
theorem slashes_collapse :
    (∃ form parts again, ofAddress "http:////evil/p".toList .get = .ok form ∧
        Url.Parts.split "http:////evil/p".toList = .ok parts ∧
        Url.Parts.split form.endpoint.toList = .ok again ∧
        parts.netloc = [] ∧ again.netloc = "evil".toList) ∧
      ∃ form again, ofAddress "foo://///p".toList .get = .ok form ∧
        ofAddress form.endpoint.toList .get = .ok again ∧
        form.endpoint = "foo:///p" ∧ again.endpoint = "foo:/p" := by
  exact ⟨⟨_, _, _, rfl, rfl, rfl, rfl, rfl⟩, _, _, rfl, rfl, rfl, rfl⟩

end RedirectForm

end PaymentConnector
