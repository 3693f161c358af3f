import PaymentConnector.Proofs.NormalHosts
import PaymentConnector.Url.Reader

/-!
URLs in normal form: each part holds no characters but its own, and an authority is
followed by a path in segments. Every URL that can be read is in normal form.
-/

namespace PaymentConnector

open Text

structure Authority.Normal (a : Authority) : Prop where
  username : ∀ c ∈ a.username, Url.keepUserinfo c = true
  password : ∀ c ∈ a.password, Url.keepUserinfo c = true
  host : ∀ h, a.host = some h → h.Normal
  port : ∀ n, a.port = some n → n ≤ 65535

/-- A character of a segment; a slash would end it. -/
def UrlPath.IsSegmentChar (c : Char) : Prop := Url.keepPath c = true ∧ c ≠ '/'

def UrlPath.Normal : UrlPath → Prop
  | plain s =>
    (∀ c ∈ s, Url.keepPlain c = true ∧ c ≠ '?' ∧ c ≠ '#') ∧ s.head? ≠ some '/'
  | segments parts => ∀ s ∈ parts, ∀ c ∈ s, IsSegmentChar c

namespace Url

/-- A letter and then letters, digits and a few marks, all in small letters. -/
structure IsScheme (s : List Char) : Prop where
  shape : ∃ c rest, s = c :: rest ∧ c.isAlpha = true ∧ rest.all isSchemeChar = true
  small : s.map Char.toLower = s

structure Normal (u : Url) : Prop where
  scheme : IsScheme u.scheme
  authority : ∀ a, u.authority = some a → a.Normal ∧ ∃ parts, u.path = .segments parts
  path : u.path.Normal
  query : ∀ s, u.query = some s → ∀ c ∈ s, keepQuery c = true
  fragment : ∀ s, u.fragment = some s → ∀ c ∈ s, keepFragment c = true

/-! The scheme -/

theorem isAlpha_ascii {c : Char} (h : c.isAlpha = true) : c.toNat < 128 := by
  rcases Bool.or_eq_true_iff.mp h with hupper | hlower
  · have hle : c.toNat ≤ 0x5A := (of_decide_eq_true hupper).2
    omega
  · have hle : c.toNat ≤ 0x7A := of_decide_eq_true (Bool.and_eq_true_iff.mp hlower).2
    omega

theorem isSchemeChar_ascii {c : Char} (h : isSchemeChar c = true) : c.toNat < 128 := by
  simp only [isSchemeChar, Char.isAlphanum, Bool.or_eq_true, decide_eq_true_eq] at h
  rcases h with ((((halpha | hdigit) | rfl) | rfl) | rfl)
  · exact isAlpha_ascii halpha
  · have hle : c.toNat ≤ 0x39 := of_decide_eq_true (Bool.and_eq_true_iff.mp hdigit).2
    omega
  · decide
  · decide
  · decide

theorem isSchemeChar_of_isAlpha {c : Char} (h : c.isAlpha = true) : isSchemeChar c = true := by
  simp [isSchemeChar, Char.isAlphanum, h]

theorem isSchemeChar_toLower {c : Char} (h : isSchemeChar c = true) :
    isSchemeChar c.toLower = true ∧ c.toLower.toLower = c.toLower :=
  of_ascii (P := fun c => isSchemeChar c = true →
    isSchemeChar c.toLower = true ∧ c.toLower.toLower = c.toLower) (by decide +kernel)
    (isSchemeChar_ascii h) h

theorem isAlpha_toLower {c : Char} (h : c.isAlpha = true) : c.toLower.isAlpha = true :=
  of_ascii (P := fun c => c.isAlpha = true → c.toLower.isAlpha = true) (by decide +kernel)
    (isAlpha_ascii h) h

theorem isScheme_of_cutScheme {s scheme rest : List Char}
    (h : cutScheme s = some (scheme, rest)) : IsScheme scheme := by
  unfold cutScheme at h
  split at h
  · rename_i c cs after hcut
    obtain ⟨⟨halpha, hall⟩, heq⟩ := Option.ite_none_right_eq_some.mp h
    obtain ⟨rfl, rfl⟩ := Prod.mk.inj (Option.some.inj heq)
    rw [List.all_eq_true] at hall
    refine ⟨⟨c.toLower, cs.map Char.toLower, rfl, isAlpha_toLower halpha, ?_⟩, ?_⟩
    · rw [List.all_map, List.all_eq_true]
      exact fun d hd => (isSchemeChar_toLower (hall d hd)).1
    · rw [List.map_map]
      refine List.map_congr_left fun d hd => ?_
      rcases List.mem_cons.mp hd with rfl | hd
      · exact (isSchemeChar_toLower (isSchemeChar_of_isAlpha halpha)).2
      · exact (isSchemeChar_toLower (hall d hd)).2
  · simp at h

/-! Paths -/

theorem mem_of_mem_dropSegment {s : List Char} {done : List (List Char)}
    (h : s ∈ dropSegment done) : s ∈ done := by
  cases done with
  | nil => exact h
  | cons d rest =>
    rw [dropSegment] at h
    split at h
    · exact h
    · exact List.mem_cons_of_mem d h

/-- Settling segments makes no segments but empty ones and settled ones. -/
theorem forall_mem_settleSegments {P : List Char → Prop} {kind : SchemeKind} (hnil : P [])
    {parts : List (List Char)}
    (hsettle : ∀ done, ∀ s ∈ parts, isDoubleDot s = false → isSingleDot s = false →
      P (settleSegment kind done s))
    {done : List (List Char)} (hdone : ∀ s ∈ done, P s) :
    ∀ s ∈ settleSegments kind done parts, P s := by
  have hdrop {done : List (List Char)} (hdone : ∀ s ∈ done, P s) : ∀ s ∈ dropSegment done, P s :=
    fun s hs => hdone s (mem_of_mem_dropSegment hs)
  induction parts generalizing done with
  | nil =>
    intro s hs
    exact hdone s (List.mem_reverse.mp hs)
  | cons part rest ih =>
    have hpart (hdouble : ¬ isDoubleDot part = true) (hsingle : ¬ isSingleDot part = true) :
        P (settleSegment kind done part) :=
      hsettle done part List.mem_cons_self (Bool.not_eq_true _ ▸ hdouble)
        (Bool.not_eq_true _ ▸ hsingle)
    have hrest {done : List (List Char)} (hdone : ∀ s ∈ done, P s) :
        ∀ s ∈ settleSegments kind done rest, P s :=
      ih (fun done s hs => hsettle done s (List.mem_cons_of_mem part hs)) hdone
    cases rest with
    | nil =>
      unfold settleSegments
      intro s hs
      split at hs
      · rcases List.mem_cons.mp (List.mem_reverse.mp hs) with rfl | hs
        · exact hnil
        · exact hdrop hdone s hs
      · split at hs
        · rcases List.mem_cons.mp (List.mem_reverse.mp hs) with rfl | hs
          · exact hnil
          · exact hdone s hs
        · rename_i hdouble hsingle
          rcases List.mem_cons.mp (List.mem_reverse.mp hs) with rfl | hs
          · exact hpart hdouble hsingle
          · exact hdone s hs
    | cons next rest =>
      unfold settleSegments
      split
      · exact hrest (hdrop hdone)
      · split
        · exact hrest hdone
        · rename_i hdouble hsingle
          exact hrest (List.forall_mem_cons.mpr ⟨hpart hdouble hsingle, hdone⟩)

/-- The segments before dots are settled come from a text cut at its slashes. -/
theorem isSegmentChar_of_mem_fields {kind : SchemeKind} {s part : List Char}
    (h : part ∈ (fields (isSlash kind) s).map (percentEncode keepPath)) :
    ∀ c ∈ part, keepPath c = true ∧ isSlash kind c = false := by
  obtain ⟨field, hfield, rfl⟩ := List.mem_map.mp h
  refine forall_mem_percentEncode (fun c hc hkeep => ⟨hkeep, (mem_of_mem_fields hfield hc).2⟩)
    fun c hc => ⟨keepPath_of_keepUserinfo hc, ?_⟩
  have hslash : c ≠ '/' := ne_of_class hc (by decide)
  have hback : c ≠ '\\' := ne_of_class hc (by decide)
  simp [isSlash, hslash, hback]

theorem forall_mem_settleSegment {P : Char → Prop} {kind : SchemeKind} {done : List (List Char)}
    {s : List Char} (hcolon : P ':') (hs : ∀ c ∈ s, P c) :
    ∀ c ∈ settleSegment kind done s, P c := by
  unfold settleSegment
  split
  · rename_i c d
    split
    · intro e he
      simp only [List.mem_cons, List.not_mem_nil, or_false] at he
      rcases he with rfl | rfl
      · exact hs e List.mem_cons_self
      · exact hcolon
    · exact hs
  · exact hs

theorem mem_of_mem_dropEmptyStart {s : List Char} {parts : List (List Char)}
    (h : s ∈ dropEmptyStart parts) : s ∈ parts := by
  induction parts with
  | nil => exact h
  | cons part rest ih =>
    cases part with
    | cons c cs => exact h
    | nil =>
      cases rest with
      | nil => exact h
      | cons next rest => exact List.mem_cons_of_mem [] (ih h)

theorem isSegmentChar_of_mem_settledSegments {kind : SchemeKind} {s part : List Char}
    (h : part ∈ settledSegments kind s) :
    ∀ c ∈ part, keepPath c = true ∧ isSlash kind c = false := by
  have hcolon : keepPath ':' = true ∧ isSlash kind ':' = false := ⟨by decide, by cases kind <;> rfl⟩
  revert part
  apply forall_mem_settleSegments
  · simp
  · intro done part hpart _ _
    exact forall_mem_settleSegment hcolon (isSegmentChar_of_mem_fields hpart)
  · simp

theorem normal_readSegments (kind : SchemeKind) (s : List Char) : (readSegments kind s).Normal := by
  have hsettled : ∀ part ∈ settledSegments kind s, ∀ c ∈ part, UrlPath.IsSegmentChar c := by
    intro part hpart c hc
    obtain ⟨hkeep, hslash⟩ := isSegmentChar_of_mem_settledSegments hpart c hc
    refine ⟨hkeep, ?_⟩
    rintro rfl
    simp [isSlash] at hslash
  intro part hpart
  split at hpart
  · exact hsettled part (mem_of_mem_dropEmptyStart hpart)
  · exact hsettled part hpart

/-! The authority -/

theorem keepUserinfo_of_mem_percentEncode (s : List Char) :
    ∀ c ∈ percentEncode keepUserinfo s, keepUserinfo c = true :=
  forall_mem_percentEncode (fun _ _ hkeep => hkeep) fun _ hc => hc

theorem normal_readUserinfo (s : List Char) :
    (∀ c ∈ (readUserinfo s).1, keepUserinfo c = true) ∧
      ∀ c ∈ (readUserinfo s).2, keepUserinfo c = true := by
  unfold readUserinfo
  split
  · exact ⟨keepUserinfo_of_mem_percentEncode _, keepUserinfo_of_mem_percentEncode _⟩
  · exact ⟨keepUserinfo_of_mem_percentEncode _, by simp⟩

theorem readPort_le {scheme s rest : List Char} {port : Option Nat}
    (h : readPort scheme s = .ok (port, rest)) : ∀ n, port = some n → n ≤ 65535 := by
  rintro n rfl
  unfold readPort at h
  dsimp only at h
  split at h
  · simp at h
  · rename_i hfine
    split at h
    · simp at h
    · simp only [Except.ok.injEq, Prod.mk.injEq, Option.some.injEq] at h
      obtain ⟨rfl, -⟩ := h
      rw [not_or] at hfine
      exact Nat.not_lt.mp hfine.1

theorem normal_of_readHost {kind : SchemeKind} {s : List Char} {h : Host}
    (hread : readHost kind s = .ok h) : h.Normal := by
  unfold readHost at hread
  split at hread
  · exact Host.normal_of_readDomain hread
  · exact Host.normal_of_readPlain hread

theorem normal_of_readAuthority {scheme s rest : List Char} {kind : SchemeKind} {ends : Bool}
    {a : Authority} (h : readAuthority scheme kind ends s = .ok (a, rest)) : a.Normal := by
  unfold readAuthority at h
  dsimp only at h
  split at h
  · simp at h
  · split at h
    · split at h
      · simp at h
      · simp only [Except.ok.injEq, Prod.mk.injEq] at h
        obtain ⟨rfl, -⟩ := h
        exact ⟨by simp, by simp, by simp, by simp⟩
    · split at h
      · simp at h
      · rename_i host hhost
        have hnormal : ∀ g, some host = some g → g.Normal := by
          rintro g hg
          rw [← Option.some.inj hg]
          exact normal_of_readHost hhost
        split at h
        · split at h
          · simp at h
          · rename_i port rest hport
            simp only [Except.ok.injEq, Prod.mk.injEq] at h
            obtain ⟨rfl, -⟩ := h
            exact ⟨(normal_readUserinfo _).1, (normal_readUserinfo _).2, hnormal, readPort_le hport⟩
        · simp only [Except.ok.injEq, Prod.mk.injEq] at h
          obtain ⟨rfl, -⟩ := h
          exact ⟨(normal_readUserinfo _).1, (normal_readUserinfo _).2, hnormal, by simp⟩

/-- An authority and a path in segments, both in normal form. -/
def NormalHierarchy (a : Authority) (path : UrlPath) : Prop :=
  a.Normal ∧ path.Normal ∧ ∃ parts, path = .segments parts

theorem normal_of_readHierarchy {scheme s : List Char} {kind : SchemeKind} {onlyBody : Bool}
    {a : Authority} {path : UrlPath}
    (h : readHierarchy scheme kind onlyBody s = .ok (a, path)) : NormalHierarchy a path := by
  unfold readHierarchy at h
  dsimp only at h
  split at h
  · simp at h
  · rename_i authority rest hauthority
    have hnormal := normal_of_readAuthority hauthority
    split at h
    · simp only [Except.ok.injEq, Prod.mk.injEq] at h
      obtain ⟨rfl, rfl⟩ := h
      exact ⟨hnormal, by simp [UrlPath.Normal], [], rfl⟩
    · simp only [Except.ok.injEq, Prod.mk.injEq] at h
      obtain ⟨rfl, rfl⟩ := h
      exact ⟨hnormal, normal_readSegments _ _, _, rfl⟩

theorem normal_of_readFileHost {s : List Char} {host : Option Host}
    (h : readFileHost s = .ok host) : ∀ g, host = some g → g.Normal := by
  rintro g rfl
  unfold readFileHost at h
  split at h
  · simp at h
  · split at h
    · simp at h
    · rename_i name hname
      split at h
      · simp at h
      · simp only [Except.ok.injEq, Option.some.injEq] at h
        rw [← h]
        exact Host.normal_of_readDomain hname
    · rename_i host _ hhost
      simp only [Except.ok.injEq, Option.some.injEq] at h
      rw [← h]
      exact Host.normal_of_readDomain hhost

/-- A file is on this computer, or on a host that has been read. -/
theorem exists_of_readFile {body : List Char} {a : Authority} {path : UrlPath}
    (h : readFile body = .ok (a, path)) : ∃ host s, a = fileAuthority host ∧
      path = readSegments .file s ∧ ∀ g, host = some g → ∃ t, readFileHost t = .ok (some g) := by
  have hdisk {s : List Char} (h : (fileAuthority none, readSegments .file s) = (a, path)) :
      ∃ host s, a = fileAuthority host ∧ path = readSegments .file s ∧
        ∀ g, host = some g → ∃ t, readFileHost t = .ok (some g) := by
    obtain ⟨rfl, rfl⟩ := Prod.mk.inj h
    exact ⟨none, s, rfl, rfl, fun _ hg => nomatch hg⟩
  unfold readFile at h
  dsimp only at h
  split at h
  · split at h
    · split at h
      · exact hdisk (Except.ok.inj h)
      · rename_i rest _ _
        rcases hhost : readFileHost (cut (isSlash .file) rest).1 with e | _ | host
        · rw [hhost] at h
          cases h
        · rw [hhost] at h
          exact hdisk (Except.ok.inj h)
        · rw [hhost] at h
          obtain ⟨rfl, rfl⟩ := Prod.mk.inj (Except.ok.inj h)
          refine ⟨_, _, rfl, rfl, fun g hg => ⟨_, hhost.trans ?_⟩⟩
          rw [(Option.ite_none_left_eq_some.mp hg).2]
    · exact hdisk (Except.ok.inj h)
  · exact hdisk (Except.ok.inj h)

theorem normal_of_readFile {body : List Char} {a : Authority} {path : UrlPath}
    (h : readFile body = .ok (a, path)) : NormalHierarchy a path := by
  obtain ⟨host, s, rfl, rfl, hhost⟩ := exists_of_readFile h
  refine ⟨⟨by simp [fileAuthority], by simp [fileAuthority], fun g hg => ?_,
    by simp [fileAuthority]⟩, normal_readSegments _ _, _, rfl⟩
  obtain ⟨t, ht⟩ := hhost g hg
  exact normal_of_readFileHost ht g rfl

/-! Whole URLs -/

/-- The body ends at the first question mark or number sign. -/
theorem ne_mark_of_mem_body {s : List Char} {c : Char} (hc : c ∈ (cutSections s).body) :
    c ≠ '?' ∧ c ≠ '#' := by
  have hbefore {t : List Char} (ht : Free (· = '?') t) (h : c ∈ t) : c ≠ '?' :=
    of_decide_eq_false (ht c h)
  have hunmarked {t : List Char} (ht : Free (· = '#') t) (h : c ∈ t) : c ≠ '#' :=
    of_decide_eq_false (ht c h)
  unfold cutSections at hc
  split at hc
  rename_i before fragment hfragment
  have hfree : Free (· = '#') before := by
    split at hfragment
    · rename_i hcut
      obtain ⟨-, -, hfree, -⟩ := cutAround_eq_some_iff.mp hcut
      exact (Prod.mk.inj hfragment).1 ▸ hfree
    · rename_i hcut
      exact (Prod.mk.inj hfragment).1 ▸ cutAround_eq_none_iff.mp hcut
  split at hc
  · rename_i body query hcut
    obtain ⟨d, hbody, hquery, -⟩ := cutAround_eq_some_iff.mp hcut
    exact ⟨hbefore hquery hc, hunmarked hfree (hbody ▸ List.mem_append_left _ hc)⟩
  · rename_i hcut
    exact ⟨hbefore (cutAround_eq_none_iff.mp hcut) hc, hunmarked hfree hc⟩

theorem normal_plain {s : List Char} (h : ∀ c ∈ s, c ≠ '?' ∧ c ≠ '#')
    (hslash : s.head? ≠ some '/') : (UrlPath.plain (percentEncode keepPlain s)).Normal := by
  constructor
  · refine forall_mem_percentEncode (fun c hc hkeep => ⟨hkeep, h c hc⟩) fun c hc => ?_
    exact ⟨keepPlain_of_keepUserinfo hc, ne_of_class hc (by decide), ne_of_class hc (by decide)⟩
  · intro hhead
    rcases head?_percentEncode hhead with hhead | hhead
    · exact hslash hhead
    · exact absurd hhead (by decide)

theorem normal_of_map_some {x : Except Fault (Authority × UrlPath)}
    (hx : ∀ a p, x = .ok (a, p) → NormalHierarchy a p) {authority : Option Authority}
    {path : UrlPath} (h : x.map (Prod.map some id) = .ok (authority, path)) :
    path.Normal ∧ ∀ a, authority = some a → a.Normal ∧ ∃ parts, path = .segments parts := by
  cases x with
  | error e => simp [Except.map] at h
  | ok r =>
    obtain ⟨rfl, rfl⟩ := Prod.mk.inj (Except.ok.inj h)
    obtain ⟨ha, hp, hparts⟩ := hx r.1 r.2 rfl
    refine ⟨hp, fun a heq => ?_⟩
    rw [← Option.some.inj heq]
    exact ⟨ha, hparts⟩

theorem normal_of_readBody {scheme body : List Char} {onlyBody : Bool}
    {authority : Option Authority} {path : UrlPath}
    (h : readBody scheme onlyBody body = .ok (authority, path))
    (hbody : ∀ c ∈ body, c ≠ '?' ∧ c ≠ '#') :
    path.Normal ∧ ∀ a, authority = some a → a.Normal ∧ ∃ parts, path = .segments parts := by
  unfold readBody at h
  split at h
  · exact normal_of_map_some (fun a p => normal_of_readFile) h
  · exact normal_of_map_some (fun a p => normal_of_readHierarchy) h
  · split at h
    · exact normal_of_map_some (fun a p => normal_of_readHierarchy) h
    · obtain ⟨rfl, rfl⟩ := Prod.mk.inj (Except.ok.inj h)
      exact ⟨normal_readSegments _ _, by simp⟩
    · rename_i hslashes hslash
      obtain ⟨rfl, rfl⟩ := Prod.mk.inj (Except.ok.inj h)
      refine ⟨normal_plain hbody ?_, by simp⟩
      intro hhead
      obtain ⟨rest, hrest⟩ := List.head?_eq_some_iff.mp hhead
      exact hslash rest hrest

theorem keepQuery_of_mem_readQuery (kind : SchemeKind) (s : List Char) :
    ∀ c ∈ readQuery kind s, keepQuery c = true := by
  unfold readQuery
  split
  · exact forall_mem_percentEncode (fun c _ hkeep => keepQuery_of_keepSpecialQuery hkeep)
      fun c hc => keepQuery_of_keepUserinfo hc
  · exact forall_mem_percentEncode (fun c _ hkeep => hkeep)
      fun c hc => keepQuery_of_keepUserinfo hc

/-- Every URL that can be read is in normal form. -/
theorem normal_of_read {s : List Char} {u : Url} (h : read s = .ok u) : u.Normal := by
  unfold read at h
  split at h
  · simp at h
  · split at h
    · simp at h
    · rename_i scheme rest hscheme
      dsimp only at h
      split at h
      · simp at h
      · rename_i authority path hbody
        obtain rfl := Except.ok.inj h
        obtain ⟨hpath, hauthority⟩ := normal_of_readBody hbody fun c hc => ne_mark_of_mem_body hc
        refine ⟨isScheme_of_cutScheme hscheme, hauthority, hpath, ?_, ?_⟩
        · rintro query hquery
          obtain ⟨q, -, rfl⟩ := Option.map_eq_some_iff.mp hquery
          exact keepQuery_of_mem_readQuery _ q
        · rintro fragment hfragment
          obtain ⟨f, -, rfl⟩ := Option.map_eq_some_iff.mp hfragment
          exact forall_mem_percentEncode (fun c _ hkeep => hkeep)
            fun c hc => keepFragment_of_keepPath (keepPath_of_keepUserinfo hc)

end Url

end PaymentConnector
