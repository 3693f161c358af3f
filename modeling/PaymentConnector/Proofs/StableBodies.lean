import PaymentConnector.Proofs.StableAuthorities
import PaymentConnector.Proofs.StablePaths

/-!
What stands between the scheme and the query of a URL, read again from its text. An authority ends
where the path starts, and a path without authority does not start with two slashes, so both are
found where they were put. In the path of a file on a host a drive letter is put down with a colon
and takes the place of the host.
-/

namespace PaymentConnector

open Text

/-- The labels of the host can be decoded, where the scheme asks for a domain name. -/
def Authority.Decodable (kind : Url.SchemeKind) (a : Authority) : Prop :=
  ∀ h, a.host = some h → kind.TakesHost h

namespace Url

/-! Authorities and paths -/

theorem free_isSlash_text {a : Authority} (ha : a.Normal) (kind : SchemeKind) :
    Free (isSlash kind) a.text := by
  have hmarks : [':', '@', '[', ']'].any (isSlash kind) = false := by cases kind <;> rfl
  refine ha.free_text (fun c hc => ?_) hmarks
  have hslash : c ≠ '/' := ne_of_class hc (by decide)
  have hback : c ≠ '\\' := ne_of_class hc (by decide)
  simp [isSlash, hslash, hback]

theorem head?_segments_text {parts : List (List Char)} {c : Char}
    (h : (UrlPath.segments parts).text.head? = some c) : c = '/' := by
  cases parts with
  | nil => cases h
  | cons part rest => exact (Option.some.inj h).symm

/-- An authority ends where the path starts. -/
theorem cut_text {a : Authority} (ha : a.Normal) (kind : SchemeKind) (parts : List (List Char)) :
    cut (isSlash kind) (a.text ++ (UrlPath.segments parts).text) =
      (a.text, (UrlPath.segments parts).text) := by
  refine cut_eq_iff.mpr ⟨rfl, free_isSlash_text ha kind, ?_⟩
  intro c hc
  rw [head?_segments_text hc]
  exact isSlash_slash kind

theorem Dotless.text_ne_nil {kind : SchemeKind} {parts : List (List Char)}
    (h : Dotless kind parts) : (UrlPath.segments parts).text ≠ [] := by
  rw [UrlPath.text, flatMap_slash h.ne_nil]
  exact List.cons_ne_nil _ _

/-- The segments after an authority. There may be none where an empty path is allowed. -/
def HierarchyPath (kind : SchemeKind) (parts : List (List Char)) : Prop :=
  (parts = [] ∧ kind.isSpecial = false) ∨ Dotless kind parts

theorem readHierarchy_text {scheme : List Char} {kind : SchemeKind} (hkind : kind ≠ .file)
    {a : Authority} (ha : a.Canonical scheme kind) {parts : List (List Char)}
    (hparts : HierarchyPath kind parts) (onlyBody : Bool) :
    Gives (readHierarchy scheme kind onlyBody (a.text ++ (UrlPath.segments parts).text))
      (a.Decodable kind) (a, .segments parts) := by
  have hread := ha.readAuthority_text
    (decide ((UrlPath.segments parts).text = [] ∧ onlyBody = true))
  unfold readHierarchy
  rw [cut_text ha.normal]
  dsimp only
  constructor
  · intro hdecodable
    rw [hread.ok hdecodable]
    dsimp only
    rw [List.nil_append]
    rcases hparts with ⟨rfl, hplain⟩ | hdotless
    · simp [UrlPath.text, hplain]
    · rw [if_neg fun h => hdotless.text_ne_nil h.1, hdotless.readSegments_text hkind]
  · intro hnot
    rw [hread.refused hnot]

theorem readSegments_of_ne_file {kind : SchemeKind} (hkind : kind ≠ .file) (s : List Char) :
    readSegments kind s = .segments (settledSegments kind s) := by
  simp [readSegments, hkind]

theorem canonical_of_readHierarchy {scheme s : List Char} {kind : SchemeKind}
    (hkind : kind ≠ .file) {onlyBody : Bool} {a : Authority} {path : UrlPath}
    (h : readHierarchy scheme kind onlyBody s = .ok (a, path)) :
    a.Canonical scheme kind ∧ ∃ parts, path = .segments parts ∧ HierarchyPath kind parts := by
  unfold readHierarchy at h
  dsimp only at h
  split at h
  · cases h
  · rename_i authority rest hauthority
    have hcanonical := canonical_of_readAuthority hauthority
    split at h
    · rename_i hempty
      obtain ⟨rfl, rfl⟩ := Prod.mk.inj (Except.ok.inj h)
      refine ⟨hcanonical, [], rfl, Or.inl ⟨rfl, ?_⟩⟩
      simpa using hempty.2
    · obtain ⟨rfl, rfl⟩ := Prod.mk.inj (Except.ok.inj h)
      exact ⟨hcanonical, _, readSegments_of_ne_file hkind _,
        Or.inr (dotless_settledSegments kind _)⟩

/-! Files -/

/-- What holds of the authority of a file that has been read: it is a host at most, and this
computer is no host. -/
structure FileAuthority (a : Authority) : Prop where
  normal : a.Normal
  shape : a = fileAuthority a.host
  host : ∀ h, a.host = some h → h ≠ .name localHost ∧ ∃ s, readHost .file s = .ok h

theorem FileAuthority.text_eq {a : Authority} (ha : FileAuthority a) : a.text = a.hostText := by
  rw [ha.shape]
  exact List.append_nil _

/-- The text of a host is no drive letter. -/
theorem FileAuthority.not_isDrive {a : Authority} (ha : FileAuthority a) :
    isDrive a.text = false := by
  by_contra hdrive
  rw [Bool.not_eq_false] at hdrive
  obtain ⟨c, d, hpair⟩ := exists_of_isDrive hdrive
  rw [hpair, isDrive_pair, Bool.and_eq_true] at hdrive
  obtain ⟨halpha, hd⟩ := hdrive
  rw [ha.text_eq] at hpair
  rcases ha.normal.hostText_cases with hchars | ⟨groups, -, htext⟩
  · have hhost := hchars d (by simp [hpair])
    rcases Bool.or_eq_true_iff.mp hd with hcolon | hbar
    · rw [of_decide_eq_true hcolon] at hhost
      exact absurd hhost (by decide)
    · rw [of_decide_eq_true hbar] at hhost
      exact absurd hhost (by decide)
  · rw [hpair] at htext
    rw [(List.cons.inj htext).1] at halpha
    exact absurd halpha (by decide)

theorem readFileHost_text {a : Authority} (ha : FileAuthority a) :
    Gives (readFileHost a.text) (a.Decodable .file) a.host := by
  rw [ha.text_eq]
  cases hhost : a.host with
  | none =>
    refine Gives.of_ok ?_ fun h hsome => ?_
    · rw [Authority.hostText, hhost]
      rfl
    · rw [hhost] at hsome
      cases hsome
  | some h =>
    obtain ⟨hlocal, s, hs⟩ := ha.host h hhost
    have htext : a.hostText = h.text := by rw [Authority.hostText, hhost]
    have hne : h.text ≠ [] := Host.text_ne_nil_of_readDomain hs
    have hread : Gives (Host.readDomain h.text) (SchemeKind.file.TakesHost h) h := readHost_text hs
    have hdecodable : SchemeKind.file.TakesHost h ↔ a.Decodable .file := by
      simp [Authority.Decodable, hhost]
    refine Gives.congr ?_ hdecodable
    rw [htext, readFileHost, if_neg hne]
    constructor
    · intro htakes
      rw [hread.ok htakes]
      cases h with
      | name s =>
        have hs : s ≠ localHost := fun heq => hlocal (congrArg Host.name heq)
        simp [hs]
      | ipv4 n => rfl
      | ipv6 groups => rfl
    · intro hnot
      rw [hread.refused hnot]

/-- What stands between the scheme and the query of a file, without its path. -/
theorem readFile_slashes {a : Authority} (ha : FileAuthority a) {parts : List (List Char)} :
    readFile ('/' :: '/' :: (a.text ++ (UrlPath.segments parts).text)) =
      (readFileHost a.text).map (fileOn (UrlPath.segments parts).text) := by
  unfold readFile
  dsimp only
  rw [if_pos (by decide), cut_text ha.normal]
  dsimp only
  rw [ha.not_isDrive, if_neg (by decide)]

/-- A file on a host is on this computer if its path starts with a drive letter. -/
theorem Dotless.fileOn_text {s : List Char} {rest : List (List Char)}
    (h : Dotless .file (s :: rest)) (hshown : StartsShown (s :: rest)) (host : Option Host) :
    fileOn (UrlPath.segments (s :: rest)).text host =
      if host.isSome ∧ isDrive s then
        (fileAuthority none, .segments (settleSegment .file [] s :: rest))
      else (fileAuthority host, .segments (s :: rest)) := by
  cases host with
  | none =>
    rw [fileOn, h.readSegments_rooted hshown]
    simp
  | some host =>
    simp only [fileOn, h.namesDrive_text, h.readSegments_file hshown]
    cases hdrive : isDrive s with
    | true => simp
    | false => simp [settleSegment_of_not_isDrive hdrive]

/-- The host of a file is left out before a drive letter, and that is written with a colon. -/
theorem readFile_text {a : Authority} (ha : FileAuthority a) {s : List Char}
    {rest : List (List Char)} (hdotless : Dotless .file (s :: rest))
    (hshown : StartsShown (s :: rest)) :
    Gives (readFile ('/' :: '/' :: (a.text ++ (UrlPath.segments (s :: rest)).text)))
      (a.Decodable .file)
      (if a.host.isSome ∧ isDrive s then
        ({ a with host := none }, .segments (settleSegment .file [] s :: rest))
      else (a, .segments (s :: rest))) := by
  have hnone : fileAuthority none = { a with host := none } := by
    rw [ha.shape]
    rfl
  rw [readFile_slashes ha]
  refine (readFileHost_text ha).map ?_
  rw [hdotless.fileOn_text hshown, ← ha.shape, hnone]

theorem host_of_readFileHost {s : List Char} {host : Option Host}
    (h : readFileHost s = .ok host) :
    ∀ g, host = some g → g ≠ .name localHost ∧ ∃ s, readHost .file s = .ok g := by
  rintro g rfl
  unfold readFileHost at h
  split at h
  · cases h
  · split at h
    · cases h
    · rename_i name hname
      split at h
      · cases h
      · rename_i hlocal
        rw [← Option.some.inj (Except.ok.inj h)]
        exact ⟨fun heq => hlocal (Host.name.inj heq), s, hname⟩
    · rename_i host hnot hhost
      rw [← Option.some.inj (Except.ok.inj h)]
      refine ⟨?_, s, hhost⟩
      rintro rfl
      exact hnot localHost rfl

theorem exists_readSegments_file (s : List Char) :
    ∃ first rest, readSegments .file s = .segments (first :: rest) ∧
      Dotless .file (first :: rest) ∧ StartsShown (first :: rest) := by
  have hdotless := (dotless_settledSegments .file s).dropEmptyStart
  have hshown := startsShown_dropEmptyStart (settledSegments .file s)
  obtain ⟨first, rest, hparts⟩ := List.exists_cons_of_ne_nil hdotless.ne_nil
  rw [hparts] at hdotless hshown
  exact ⟨first, rest, congrArg UrlPath.segments hparts, hdotless, hshown⟩

theorem canonical_of_readFile {body : List Char} {a : Authority} {path : UrlPath}
    (h : readFile body = .ok (a, path)) :
    FileAuthority a ∧ ∃ s rest, path = .segments (s :: rest) ∧ Dotless .file (s :: rest) ∧
      StartsShown (s :: rest) := by
  have hnormal := (normal_of_readFile h).1
  obtain ⟨host, s, rfl, rfl, hhost⟩ := exists_of_readFile h
  refine ⟨⟨hnormal, rfl, fun g hg => ?_⟩, exists_readSegments_file s⟩
  obtain ⟨t, ht⟩ := hhost g hg
  exact host_of_readFileHost ht g rfl

/-! The text between the scheme and the query -/

/-- What has been read between the scheme and the query, for each kind of scheme. -/
inductive CanonicalBody (scheme : List Char) : SchemeKind → Option Authority → UrlPath → Prop
  | web {a : Authority} {parts : List (List Char)} (authority : a.Canonical scheme .web)
      (path : HierarchyPath .web parts) : CanonicalBody scheme .web (some a) (.segments parts)
  | file {a : Authority} {s : List Char} {rest : List (List Char)} (authority : FileAuthority a)
      (path : Dotless .file (s :: rest)) (shown : StartsShown (s :: rest)) :
      CanonicalBody scheme .file (some a) (.segments (s :: rest))
  | other {a : Authority} {parts : List (List Char)} (authority : a.Canonical scheme .other)
      (path : HierarchyPath .other parts) : CanonicalBody scheme .other (some a) (.segments parts)
  | rooted {parts : List (List Char)} (path : Dotless .other parts) :
      CanonicalBody scheme .other none (.segments parts)
  | plain (s : List Char) : CanonicalBody scheme .other none (.plain s)

theorem exists_of_map_eq_ok {α β : Type} {x : Except Fault α} {f : α → β} {b : β}
    (h : x.map f = .ok b) : ∃ a, x = .ok a ∧ f a = b := by
  cases x with
  | error e => cases h
  | ok a => exact ⟨a, rfl, Except.ok.inj h⟩

theorem canonicalBody_of_readBody {scheme body : List Char} {onlyBody : Bool}
    {authority : Option Authority} {path : UrlPath}
    (h : readBody scheme onlyBody body = .ok (authority, path)) :
    CanonicalBody scheme (schemeKind scheme) authority path := by
  unfold readBody at h
  split at h
  · rename_i hkind
    rw [hkind]
    obtain ⟨⟨a, p⟩, hread, heq⟩ := exists_of_map_eq_ok h
    obtain ⟨rfl, rfl⟩ := Prod.mk.inj heq
    obtain ⟨hauthority, s, rest, rfl, hdotless, hshown⟩ := canonical_of_readFile hread
    exact .file hauthority hdotless hshown
  · rename_i hkind
    rw [hkind]
    obtain ⟨⟨a, p⟩, hread, heq⟩ := exists_of_map_eq_ok h
    obtain ⟨rfl, rfl⟩ := Prod.mk.inj heq
    obtain ⟨hauthority, parts, rfl, hparts⟩ := canonical_of_readHierarchy (by decide) hread
    exact .web hauthority hparts
  · rename_i hkind
    rw [hkind]
    split at h
    · obtain ⟨⟨a, p⟩, hread, heq⟩ := exists_of_map_eq_ok h
      obtain ⟨rfl, rfl⟩ := Prod.mk.inj heq
      obtain ⟨hauthority, parts, rfl, hparts⟩ := canonical_of_readHierarchy (by decide) hread
      exact .other hauthority hparts
    · obtain ⟨rfl, rfl⟩ := Prod.mk.inj (Except.ok.inj h)
      rw [readSegments_of_ne_file (by decide)]
      exact .rooted (dotless_settledSegments .other _)
    · obtain ⟨rfl, rfl⟩ := Prod.mk.inj (Except.ok.inj h)
      exact .plain _

/-- The labels of the host can be decoded, if there is a host and the scheme asks for it. -/
def Decodable (u : Url) : Prop :=
  ∀ a, u.authority = some a → a.Decodable (schemeKind u.scheme)

/-- What the text of a URL stands for: the URL, but for a file on a host whose path starts with a
drive letter. That is put down with a colon and takes the place of the host. -/
def settled (u : Url) : Url :=
  match schemeKind u.scheme, u.authority, u.path with
  | .file, some a, .segments (s :: rest) =>
    if a.host.isSome ∧ isDrive s then
      { u with
        authority := some { a with host := none }
        path := .segments (settleSegment .file [] s :: rest) }
    else u
  | _, _, _ => u

theorem dropWhile_slashes {a : Authority} (ha : a.Normal) (hne : a.text ≠ []) (t : List Char) :
    ('/' :: '/' :: (a.text ++ t)).dropWhile (isSlash .web) = a.text ++ t := by
  obtain ⟨c, rest, htext⟩ := List.exists_cons_of_ne_nil hne
  have hmem : c ∈ a.text := htext ▸ List.mem_cons_self
  have hc : isSlash .web c = false := free_isSlash_text ha .web c hmem
  have hslash : isSlash .web '/' = true := isSlash_slash _
  rw [htext, List.dropWhile_cons_of_pos hslash, List.dropWhile_cons_of_pos hslash,
    List.cons_append, List.dropWhile_cons_of_neg (by simp [hc])]

theorem text_ne_nil_of_canonical {scheme : List Char} {a : Authority}
    (ha : a.Canonical scheme .web) : a.text ≠ [] := by
  cases hhost : a.host with
  | none => exact absurd (ha.bare hhost).2 (by decide)
  | some h => exact Authority.text_ne_nil hhost (ha.host h hhost).1

theorem decodable_iff {u : Url} {kind : SchemeKind} {a : Authority}
    (hkind : schemeKind u.scheme = kind) (ha : u.authority = some a) :
    a.Decodable kind ↔ u.Decodable := by
  simp [Decodable, hkind, ha]

theorem settled_of_ne_file {u : Url} (h : schemeKind u.scheme ≠ .file) : u.settled = u := by
  unfold settled
  split
  · rename_i hfile _ _
    exact absurd hfile h
  · rfl

theorem readBody_slash {scheme t : List Char} (hkind : schemeKind scheme = .other)
    (ht : t.head? ≠ some '/') (onlyBody : Bool) :
    readBody scheme onlyBody ('/' :: t) = .ok (none, readSegments .other t) := by
  simp only [readBody, hkind]
  split
  · rename_i rest heq
    rw [(List.cons.inj heq).2] at ht
    exact absurd rfl ht
  · rename_i heq
    rw [(List.cons.inj heq).2]
  · rename_i hslash
    exact absurd rfl (hslash t)

/-- The path after the scheme starts with a slash, and no second one follows: before an empty
segment that others follow, a dot stands. -/
theorem Dotless.exists_offsetPath {scheme : List Char} {query fragment : Option (List Char)}
    {parts : List (List Char)} (h : Dotless .other parts) :
    ∃ t, (⟨scheme, none, .segments parts, query, fragment⟩ : Url).offsetPath = '/' :: t ∧
      t.head? ≠ some '/' ∧ readSegments .other t = .segments parts := by
  have hread := h.readSegments_text (by decide)
  have htext : (UrlPath.segments parts).text = '/' :: ['/'].intercalate parts :=
    flatMap_slash h.ne_nil
  rw [h.dropSlash_text] at hread
  have hplain (hne : (['/'].intercalate parts).head? ≠ some '/')
      (hlead : (⟨scheme, none, .segments parts, query, fragment⟩ : Url).leadText = []) :
      ∃ t, (⟨scheme, none, .segments parts, query, fragment⟩ : Url).offsetPath = '/' :: t ∧
        t.head? ≠ some '/' ∧ readSegments .other t = .segments parts := by
    refine ⟨_, ?_, hne, hread⟩
    rw [offsetPath, hlead, List.nil_append]
    exact htext
  cases parts with
  | nil => exact absurd rfl h.ne_nil
  | cons part rest =>
    cases part with
    | cons c cs =>
      have hc := (h.chars _ List.mem_cons_self c List.mem_cons_self).2
      refine hplain ?_ rfl
      intro hhead
      have hslash : c = '/' := by cases rest <;> simpa using hhead
      rw [hslash, isSlash_slash] at hc
      cases hc
    | nil =>
      cases rest with
      | nil => exact hplain (by simp) rfl
      | cons next rest =>
        refine ⟨'.' :: '/' :: ['/'].intercalate ([] :: next :: rest), ?_, by simp, ?_⟩
        · rw [offsetPath, htext]
          rfl
        · rw [readSegments_dot, hread]

/-- An authority and a path behind two slashes are read as they were, unless they are those of a
file. -/
theorem readBody_hierarchy {scheme : List Char} {a : Authority} {kind : SchemeKind}
    (hkind : schemeKind scheme = kind) (hfile : kind ≠ .file) (ha : a.Canonical scheme kind)
    {parts : List (List Char)} (hparts : HierarchyPath kind parts) (onlyBody : Bool) :
    Gives (readBody scheme onlyBody ('/' :: '/' :: (a.text ++ (UrlPath.segments parts).text)))
      (a.Decodable kind) (some a, .segments parts) := by
  have hread := readHierarchy_text hfile ha hparts onlyBody
  cases kind with
  | file => exact absurd rfl hfile
  | web =>
    simp only [readBody, hkind]
    rw [dropWhile_slashes ha.normal (text_ne_nil_of_canonical ha)]
    exact hread.map rfl
  | other =>
    simp only [readBody, hkind]
    exact hread.map rfl

/-- A path that is no segments is read as it was. -/
theorem readBody_plain {scheme s : List Char} (hkind : schemeKind scheme = .other)
    (hs : (UrlPath.plain s).Normal) (onlyBody : Bool) :
    readBody scheme onlyBody s = .ok (none, .plain s) := by
  obtain ⟨hchars, hhead⟩ := hs
  have hkept : percentEncode keepPlain s = s := percentEncode_eq_self fun c hc => (hchars c hc).1
  simp only [readBody, hkind]
  split
  · exact absurd rfl hhead
  · exact absurd rfl hhead
  · rw [hkept]

/-- The body of a file is read as what the whole URL is settled to. -/
theorem readBody_file {u : Url} {a : Authority} {s : List Char} {rest : List (List Char)}
    (hkind : schemeKind u.scheme = .file) (hauthority : u.authority = some a)
    (hpath : u.path = .segments (s :: rest)) (ha : FileAuthority a)
    (hdotless : Dotless .file (s :: rest)) (hshown : StartsShown (s :: rest)) (onlyBody : Bool) :
    Gives (readBody u.scheme onlyBody
        ('/' :: '/' :: (a.text ++ (UrlPath.segments (s :: rest)).text)))
      (a.Decodable .file) (u.settled.authority, u.settled.path) := by
  simp only [readBody, hkind]
  refine (readFile_text ha hdotless hshown).map ?_
  simp only [settled, hkind, hauthority, hpath]
  split
  · rfl
  · rw [hauthority, hpath]

/-- What stands between the scheme and the query is read as the authority and the path that the
text stands for. -/
theorem readBody_text {u : Url} (hu : u.Normal)
    (hbody : CanonicalBody u.scheme (schemeKind u.scheme) u.authority u.path) (onlyBody : Bool) :
    Gives (readBody u.scheme onlyBody (u.slashedNetloc ++ u.offsetPath)) u.Decodable
      (u.settled.authority, u.settled.path) := by
  obtain ⟨scheme, authority, path, query, fragment⟩ := u
  dsimp only at hbody ⊢
  generalize hkind : schemeKind scheme = kind at hbody
  have hself (hfile : kind ≠ .file) (path : UrlPath) (authority : Option Authority) :
      (⟨scheme, authority, path, query, fragment⟩ : Url).settled = _ :=
    settled_of_ne_file (hkind ▸ hfile)
  cases hbody with
  | web hauthority hpath =>
    rw [hself (by decide)]
    exact (readBody_hierarchy hkind (by decide) hauthority hpath onlyBody).congr
      (decodable_iff hkind rfl)
  | other hauthority hpath =>
    rw [hself (by decide)]
    exact (readBody_hierarchy hkind (by decide) hauthority hpath onlyBody).congr
      (decodable_iff hkind rfl)
  | file hauthority hpath hshown =>
    refine Gives.congr ?_ (decodable_iff hkind rfl)
    exact readBody_file (u := ⟨scheme, _, _, query, fragment⟩) hkind rfl rfl hauthority hpath
      hshown onlyBody
  | rooted hpath =>
    rw [hself (by decide)]
    obtain ⟨t, htext, hhead, hread⟩ := hpath.exists_offsetPath
    refine Gives.of_ok ?_ (by simp [Decodable])
    rw [htext, slashedNetloc, List.nil_append, readBody_slash hkind hhead, hread]
  | plain s =>
    rw [hself (by decide)]
    exact Gives.of_ok (readBody_plain hkind hu.path onlyBody) (by simp [Decodable])

end Url

end PaymentConnector
