import PaymentConnector.Proofs.RedirectFields
import PaymentConnector.Proofs.StableBodies

/-!
URLs read again from their texts. The text of a URL that has been read is cut where its parts were
put together, so it is read as the same URL, with two exceptions. A label of a web host may have
become too long to be decoded, and then the text is refused. The path of a file on a host may start
with a drive letter, and then that takes the place of the host.
-/

namespace PaymentConnector

open Text

namespace Url

/-! The end of a URL -/

/-- A text does not end in a blank. -/
def EndsShown (s : List Char) : Prop := ∀ c ∈ s.getLast?, c ≠ ' '

namespace EndsShown

variable {s t : List Char}

theorem nil : EndsShown [] := fun _ hc => by cases hc

theorem concat (s : List Char) {c : Char} (hc : c ≠ ' ') : EndsShown (s ++ [c]) := by
  intro d hd
  rw [List.getLast?_concat] at hd
  rwa [← Option.some.inj hd]

theorem of_forall (h : ∀ c ∈ s, c ≠ ' ') : EndsShown s := fun c hc => h c (List.mem_of_getLast? hc)

theorem append (hs : t = [] → EndsShown s) (ht : EndsShown t) : EndsShown (s ++ t) := by
  cases hlast : t.getLast? with
  | none =>
    have hnil := List.getLast?_eq_none_iff.mp hlast
    rw [hnil, List.append_nil]
    exact hs hnil
  | some d =>
    intro c hc
    rw [List.getLast?_append, hlast, Option.some_or] at hc
    exact ht c (hlast ▸ hc)

theorem optionalText {mark : Char} (hmark : mark ≠ ' ') {s : Option (List Char)}
    (hs : ∀ t, s = some t → ∀ c ∈ t, c ≠ ' ') : EndsShown (optionalText mark s) := by
  apply of_forall
  cases s with
  | none => simp [Url.optionalText]
  | some t => exact List.forall_mem_cons.mpr ⟨hmark, hs t rfl⟩

end EndsShown

theorem endsShown_leadText {u : Url} (h : u.authority = none) : EndsShown u.leadText := by
  unfold leadText
  split
  · rename_i ha
    rw [h] at ha
    cases ha
  · exact .concat ['/'] (by decide)
  · exact .nil

theorem Normal.endsShown_slashedNetloc {u : Url} (hu : u.Normal) : EndsShown u.slashedNetloc := by
  unfold slashedNetloc
  split
  · rename_i a ha
    have hfree : Free (· = ' ') a.text := by
      refine (hu.authority a ha).1.free_text (fun c hc => ?_) rfl
      exact decide_eq_false (ne_of_class hc (by decide))
    apply EndsShown.of_forall
    rw [List.forall_mem_cons, List.forall_mem_cons]
    exact ⟨by decide, by decide, fun c hc => of_decide_eq_false (hfree c hc)⟩
  · exact .nil

/-- Segments are written without blanks. -/
theorem Normal.endsShown_segments {u : Url} (hu : u.Normal) {parts : List (List Char)}
    (hpath : u.path = .segments parts) : EndsShown u.path.text := by
  have hparts := hu.path
  rw [hpath] at hparts ⊢
  apply EndsShown.of_forall
  intro c hc
  obtain ⟨part, hpart, hc⟩ := List.mem_flatMap.mp hc
  rcases List.mem_cons.mp hc with rfl | hc
  · decide
  · exact ne_of_class (hparts part hpart c hc).1 (by decide)

theorem endsShown_offsetPath {u : Url} (h : EndsShown u.path.text) : EndsShown u.offsetPath := by
  unfold offsetPath
  split
  · exact h
  · rename_i hnone
    exact .append (fun _ => endsShown_leadText hnone) h

theorem eq_none_of_optionalText_eq_nil {mark : Char} {s : Option (List Char)}
    (h : optionalText mark s = []) : s = none := by
  cases s with
  | none => rfl
  | some t => cases h

/-- A URL ends in a blank only if its path does, and then the path is no segments and the last
part. -/
theorem Normal.endsShown_text {u : Url} (hu : u.Normal)
    (hplain : ∀ s, u.path = .plain s → u.query = none → u.fragment = none → EndsShown s) :
    EndsShown u.text := by
  have hquery : EndsShown (optionalText '?' u.query) :=
    .optionalText (by decide) fun t ht c hc => ne_of_class (hu.query t ht c hc) (by decide)
  have hfragment : EndsShown (optionalText '#' u.fragment) :=
    .optionalText (by decide) fun t ht c hc => ne_of_class (hu.fragment t ht c hc) (by decide)
  have hcolon : EndsShown (u.scheme ++ [':']) := .concat u.scheme (by decide)
  rw [text_eq_frontText]
  refine .append (fun hnofragment => .append (fun hnoquery => ?_) hquery) hfragment
  have hpath : EndsShown u.path.text := by
    cases hp : u.path with
    | plain s =>
      exact hplain s hp (eq_none_of_optionalText_eq_nil hnoquery)
        (eq_none_of_optionalText_eq_nil hnofragment)
    | segments parts => exact hp ▸ hu.endsShown_segments hp
  rw [frontText, List.append_cons]
  exact .append (fun _ => hcolon)
    (.append (fun _ => hu.endsShown_slashedNetloc) (endsShown_offsetPath hpath))

theorem endsShown_cleaned (s : List Char) : EndsShown (cleaned s) := by
  have htrimmed := trimmed_trim (·.toNat ≤ 0x20) s
  intro c hc
  unfold cleaned at hc
  cases hlast : (trim (·.toNat ≤ 0x20) s).getLast? with
  | none =>
    rw [List.getLast?_eq_none_iff.mp hlast] at hc
    cases hc
  | some d =>
    -- what is dropped inside is trimmed at the end, so the last character stays
    have hd : ¬ d.toNat ≤ 0x20 := of_decide_eq_false (htrimmed.last d hlast)
    obtain ⟨t, ht⟩ := List.getLast?_eq_some_iff.mp hlast
    have hkept : d ≠ '\t' ∧ d ≠ '\n' ∧ d ≠ '\r' := by
      refine ⟨?_, ?_, ?_⟩ <;> rintro rfl <;> exact absurd (by decide) hd
    rw [ht, List.filter_append, List.filter_cons_of_pos (by simp [hkept])] at hc
    rw [List.filter_nil, List.getLast?_concat] at hc
    rw [← Option.some.inj hc]
    rintro rfl
    exact absurd (by decide) hd

theorem plain_of_readBody {scheme body p : List Char} {onlyBody : Bool}
    {authority : Option Authority} (h : readBody scheme onlyBody body = .ok (authority, .plain p)) :
    p = percentEncode keepPlain body := by
  have hcanonical := canonicalBody_of_readBody h
  generalize hkind : schemeKind scheme = kind at hcanonical
  cases hcanonical
  simp only [readBody, hkind] at h
  split at h
  · obtain ⟨a, -, heq⟩ := exists_of_map_eq_ok h
    cases heq
  · cases h
  · exact (UrlPath.plain.inj (Prod.mk.inj (Except.ok.inj h)).2).symm

/-- What has been read does not end in a blank: nor did the text that it was read from, once that
was cleaned. -/
theorem endsShown_of_read {s : List Char} {u : Url} (h : read s = .ok u) : EndsShown u.text := by
  obtain ⟨rest, hscheme, hbody, hquery, hfragment⟩ := exists_cut_of_read h
  refine (normal_of_read h).endsShown_text fun p hp hnoquery hnofragment => ?_
  rcases hs : cutSections rest with ⟨body, query, fragment⟩
  rw [hs] at hbody hquery hfragment
  obtain rfl : query = none := Option.map_eq_none_iff.mp (hquery.symm.trans hnoquery)
  obtain rfl : fragment = none := Option.map_eq_none_iff.mp (hfragment.symm.trans hnofragment)
  obtain ⟨htext, -⟩ := cutSections_eq_iff.mp hs
  rw [optionalText, optionalText, List.append_nil, List.append_nil] at htext
  rw [hp] at hbody
  rw [plain_of_readBody hbody, ← htext]
  intro c hc
  rcases getLast?_percentEncode hc with hlast | hescape
  · obtain ⟨d, name, hcleaned, -⟩ := cutScheme_eq_some_iff.mp hscheme
    apply endsShown_cleaned s
    rw [hcleaned, List.getLast?_append, List.getLast?_cons, hlast]
    rfl
  · exact ne_of_class hescape (by decide)

/-! Whole URLs -/

theorem cleaned_text {u : Url} (hu : u.Normal) (hends : EndsShown u.text) :
    cleaned u.text = u.text := by
  have htrimmed : Trimmed (·.toNat ≤ 0x20) u.text := by
    refine ⟨hu.head?_text, fun c hc => ?_⟩
    have hplain := hu.keepPlain_of_mem_text (List.mem_of_getLast? hc)
    exact of_ascii (P := fun c => keepPlain c = true → c ≠ ' ' → decide (c.toNat ≤ 0x20) = false)
      (by decide +kernel) (toNat_lt_of_keepPlain hplain) hplain (hends c hc)
  have hnothing : Within (·.toNat ≤ 0x20) [] := fun _ h => absurd h List.not_mem_nil
  have htrim := htrimmed.trim_eq hnothing hnothing
  rw [List.nil_append, List.append_nil] at htrim
  rw [cleaned, htrim, hu.filter_text]

theorem cutSections_body_text {u : Url} (hu : u.Normal) :
    cutSections (u.slashedNetloc ++ u.tailText) =
      ⟨u.slashedNetloc ++ u.offsetPath, u.query, u.fragment⟩ := by
  rw [tailText, List.append_assoc u.offsetPath, ← List.append_assoc, ← List.append_assoc]
  apply Normal.cutSections_text
  · intro c hc
    rcases List.mem_append.mp hc with hnetloc | hpath
    · exact hu.ne_mark_of_mem_slashedNetloc hnetloc
    · exact (hu.mem_offsetPath hpath).2
  · intro q hq hmem
    exact absurd (hu.query q hq '#' hmem) (by decide)

theorem readQuery_readQuery (kind : SchemeKind) (q : List Char) :
    readQuery kind (readQuery kind q) = readQuery kind q := by
  unfold readQuery
  apply percentEncode_percentEncode
  intro c hc
  split
  · exact Form.keepSpecialQuery_of_isEscapeChar hc
  · exact keepQuery_of_keepUserinfo (keepUserinfo_of_isEscapeChar hc)

theorem settled_eq (u : Url) : u.settled =
    { u with authority := u.settled.authority, path := u.settled.path } := by
  unfold settled
  split
  · split <;> rfl
  · rfl

/-- From its text, what has been read is read as the URL that it is settled to, unless the name of
its host has become too long to be decoded. -/
theorem read_text {s : List Char} {u : Url} (h : read s = .ok u) :
    Gives (read u.text) u.Decodable u.settled := by
  have hu := normal_of_read h
  obtain ⟨rest, -, hbody, hquery, hfragment⟩ := exists_cut_of_read h
  have hreread := readBody_text hu (canonicalBody_of_readBody hbody)
    (Sections.isOnlyBody ⟨u.slashedNetloc ++ u.offsetPath, u.query, u.fragment⟩)
  have hquery' : u.query.map (readQuery (schemeKind u.scheme)) = u.query := by
    rw [hquery, Option.map_map]
    exact Option.map_congr fun q _ => readQuery_readQuery _ q
  have hfragment' : u.fragment.map (percentEncode keepFragment) = u.fragment := by
    rw [hfragment, Option.map_map]
    refine Option.map_congr fun f _ => percentEncode_percentEncode (fun c hc => ?_) f
    exact keepFragment_of_keepPath (keepPath_of_keepUserinfo (keepUserinfo_of_isEscapeChar hc))
  have hne : u.text ≠ [] := by simp [Normal.text_eq]
  unfold read
  rw [if_neg hne, cleaned_text hu (endsShown_of_read h), hu.cutScheme_text]
  dsimp only
  rw [cutSections_body_text hu]
  dsimp only
  constructor
  · intro hdecodable
    rw [hreread.ok hdecodable, settled_eq u]
    dsimp only
    rw [hquery', hfragment']
  · intro hnot
    rw [hreread.refused hnot]

/-- The path of a file on a host starts with a drive letter, with a colon or a bar. -/
structure HasDrive (u : Url) : Prop where
  kind : schemeKind u.scheme = .file
  host : ∃ a h, u.authority = some a ∧ a.host = some h
  path : ∃ s rest, u.path = .segments (s :: rest) ∧ isDrive s = true

/-- A URL that its text stands for: it is no file on a host below a drive letter, and the labels of
its host can be decoded. -/
structure Stable (u : Url) : Prop where
  drive : ¬ u.HasDrive
  labels : u.Decodable

theorem settled_ne_self_of_hasDrive {u : Url} (h : u.HasDrive) : u.settled ≠ u := by
  obtain ⟨hkind, ⟨a, host, ha, hhost⟩, s, rest, hpath, hdrive⟩ := h
  intro hself
  have hsettled : u.settled.authority = some { a with host := none } := by
    simp [settled, hkind, ha, hpath, hhost, hdrive]
  rw [hself, ha, Option.some.injEq] at hsettled
  rw [hsettled] at hhost
  cases hhost

/-- What the text of a URL stands for differs from the URL just below a drive letter. -/
theorem settled_eq_self_iff {u : Url} : u.settled = u ↔ ¬ u.HasDrive := by
  refine ⟨fun hself h => settled_ne_self_of_hasDrive h hself, fun hnone => ?_⟩
  unfold settled
  split
  · rename_i a s rest hkind ha hpath
    rw [if_neg]
    rintro ⟨hhost, hdrive⟩
    obtain ⟨host, hhost⟩ := Option.isSome_iff_exists.mp hhost
    exact hnone ⟨hkind, ⟨a, host, ha, hhost⟩, s, rest, hpath, hdrive⟩
  · rfl

/-- A URL that has been read is read from its text as itself just if it is stable. -/
theorem read_text_eq_iff {s : List Char} {u : Url} (h : read s = .ok u) :
    read u.text = .ok u ↔ u.Stable := by
  rw [(read_text h).eq_ok_iff]
  constructor
  · rintro ⟨hlabels, hself⟩
    exact ⟨settled_eq_self_iff.mp hself.symm, hlabels⟩
  · intro hstable
    exact ⟨hstable.labels, (settled_eq_self_iff.mpr hstable.drive).symm⟩

end Url

end PaymentConnector
