import PaymentConnector.Proofs.PayloadAnswers

/-!
Where a redirect leads. The host of a web URL is never empty, so its network location is
not either, and putting its parts together without the query gives the text of the same URL
without query. That is the text of a URL in normal form again, and is cut at the same places.
-/

namespace PaymentConnector

open Text

/-! Network locations that are not empty -/

namespace Url.Host

theorem text_ne_nil_of_readBracketed {s : List Char} {h : Host}
    (hread : readBracketed s = .ok h) : h.text ≠ [] := by
  unfold readBracketed at hread
  split at hread
  · split at hread
    · rw [← Except.ok.inj hread]
      simp [text]
    · cases hread
  · cases hread

theorem text_ne_nil_of_readDomain {s : List Char} {h : Host}
    (hread : readDomain s = .ok h) : h.text ≠ [] := by
  unfold readDomain at hread
  split at hread
  · exact text_ne_nil_of_readBracketed hread
  · split at hread
    · cases hread
    · split at hread
      · cases hread
      · cases hread
      · rename_i ascii hne hascii
        split at hread
        · split at hread
          · rw [← Except.ok.inj hread]
            simp [text, Ipv4.text]
          · cases hread
        · rw [← Except.ok.inj hread]
          exact hne

end Url.Host

theorem Authority.text_ne_nil {a : Authority} {h : Url.Host} (hhost : a.host = some h)
    (hne : h.text ≠ []) : a.text ≠ [] := by
  simp [text, hostText, hhost, hne]

namespace Url

theorem text_ne_nil_of_readAuthority {scheme s rest : List Char} {ends : Bool} {a : Authority}
    (h : readAuthority scheme .web ends s = .ok (a, rest)) : a.text ≠ [] := by
  unfold readAuthority at h
  dsimp only at h
  split at h
  · cases h
  · split at h
    · simp [SchemeKind.isSpecial] at h
    · split at h
      · cases h
      · rename_i host hhost
        have hne : host.text ≠ [] := Host.text_ne_nil_of_readDomain hhost
        split at h
        · split at h
          · cases h
          · obtain ⟨rfl, -⟩ := Prod.mk.inj (Except.ok.inj h)
            exact Authority.text_ne_nil rfl hne
        · obtain ⟨rfl, -⟩ := Prod.mk.inj (Except.ok.inj h)
          exact Authority.text_ne_nil rfl hne

theorem text_ne_nil_of_readHierarchy {scheme s : List Char} {onlyBody : Bool} {a : Authority}
    {path : UrlPath} (h : readHierarchy scheme .web onlyBody s = .ok (a, path)) : a.text ≠ [] := by
  unfold readHierarchy at h
  dsimp only at h
  split at h
  · cases h
  · rename_i authority rest hauthority
    have hne := text_ne_nil_of_readAuthority hauthority
    split at h
    · obtain ⟨rfl, -⟩ := Prod.mk.inj (Except.ok.inj h)
      exact hne
    · obtain ⟨rfl, -⟩ := Prod.mk.inj (Except.ok.inj h)
      exact hne

theorem authority_of_readBody {scheme body : List Char} {onlyBody : Bool}
    {authority : Option Authority} {path : UrlPath}
    (h : readBody scheme onlyBody body = .ok (authority, path)) (hweb : schemeKind scheme = .web) :
    ∃ a, authority = some a ∧ a.text ≠ [] := by
  simp only [readBody, hweb] at h
  cases hread : readHierarchy scheme .web onlyBody (body.dropWhile (isSlash .web)) with
  | error e =>
    rw [hread] at h
    cases h
  | ok r =>
    rw [hread] at h
    obtain ⟨rfl, -⟩ := Prod.mk.inj (Except.ok.inj h)
    exact ⟨r.1, rfl, text_ne_nil_of_readHierarchy hread⟩

/-- A web URL that was read has an authority, and the text of it is not empty. -/
theorem authority_of_read {s : List Char} {u : Url} (h : read s = .ok u)
    (hweb : schemeKind u.scheme = .web) : ∃ a, u.authority = some a ∧ a.text ≠ [] := by
  unfold read at h
  split at h
  · cases h
  · split at h
    · cases h
    · dsimp only at h
      split at h
      · cases h
      · rename_i hbody
        obtain rfl := Except.ok.inj h
        exact authority_of_readBody hbody hweb

/-! URLs without their query -/

/-- The same URL without query, and without a fragment that is empty. -/
def bare (u : Url) : Url := { u with query := none, fragment := u.fragment.filter (· ≠ []) }

theorem getD_filter_fragment (fragment : Option (List Char)) :
    (fragment.filter (· ≠ [])).getD [] = fragment.getD [] := by
  cases fragment with
  | none => rfl
  | some f => cases f <;> rfl

theorem optionalText_filter_fragment (fragment : Option (List Char)) :
    optionalText '#' (fragment.filter (· ≠ [])) =
      if fragment.getD [] = [] then [] else '#' :: fragment.getD [] := by
  cases fragment with
  | none => rfl
  | some f => cases f <;> rfl

/-- The text of a URL up to the path, where neither of the marks after it stands. -/
def frontText (u : Url) : List Char := u.scheme ++ ':' :: (u.slashedNetloc ++ u.offsetPath)

theorem text_eq_frontText (u : Url) :
    u.text = u.frontText ++ optionalText '?' u.query ++ optionalText '#' u.fragment := by
  simp [Normal.text_eq, frontText, tailText]

theorem bare_text_eq (u : Url) : u.bare.text =
    u.frontText ++ if u.fragment.getD [] = [] then [] else '#' :: u.fragment.getD [] := by
  rw [← optionalText_filter_fragment, text_eq_frontText]
  simp only [bare, optionalText, List.append_nil]
  rfl

/-- A text without its query, and without a number sign that nothing follows. The query is
what stands between the first question mark and the first number sign. -/
def withoutQuery (s : List Char) : List Char :=
  let fragment := s.dropWhile (· ≠ '#')
  s.takeWhile (fun c => c ≠ '?' && c ≠ '#') ++ if fragment = ['#'] then [] else fragment

namespace Normal

variable {u : Url}

theorem bare (hu : u.Normal) : u.bare.Normal where
  scheme := hu.scheme
  authority := hu.authority
  path := hu.path
  query := by simp [Url.bare]
  fragment := by
    intro s hs
    exact hu.fragment s (Option.filter_eq_some_iff.mp hs).1

theorem scheme_ne_nil (hu : u.Normal) : u.scheme ≠ [] := by
  obtain ⟨c, rest, hscheme, -⟩ := hu.scheme.shape
  rw [hscheme]
  exact List.cons_ne_nil c rest

/-- After an authority the path is empty or starts with a slash. -/
theorem offsetPath_cases (hu : u.Normal) {a : Authority} (h : u.authority = some a) :
    u.offsetPath = [] ∨ u.offsetPath.head? = some '/' := by
  obtain ⟨parts, hparts⟩ := (hu.authority a h).2
  rw [offsetPath, h, hparts]
  cases parts with
  | nil => exact Or.inl rfl
  | cons part parts => exact Or.inr rfl

/-- The parts of a URL without the query, put together, are the URL without its query. -/
theorem join_cutParts (hu : u.Normal) {a : Authority} (h : u.authority = some a)
    (hne : a.text ≠ []) : { Parts.cutParts u.text with query := [] }.join = u.bare.text := by
  -- with a network location the two slashes stay, whatever the path starts with
  have hnetloc : u.netloc = a.text := by rw [netloc, h]
  have hslashed : u.slashedNetloc = '/' :: '/' :: a.text := by rw [slashedNetloc, h]
  have hhierarchy : Parts.hierarchyText { Parts.cutParts u.text with query := [] } =
      '/' :: '/' :: a.text ++ u.offsetPath := by
    rw [hu.cutParts_text, Parts.hierarchyText, if_pos (Or.inl (hnetloc ▸ hne))]
    simp only [if_pos (hu.offsetPath_cases h), hnetloc]
  rw [bare_text_eq, Parts.join, hhierarchy, frontText, hslashed, hu.cutParts_text,
    if_neg hu.scheme_ne_nil]
  simp

theorem split_bare (hu : u.Normal) :
    Parts.split u.bare.text = .ok { Parts.cutParts u.text with query := [] } := by
  have hfragment : u.bare.fragment.getD [] = u.fragment.getD [] := getD_filter_fragment u.fragment
  rw [hu.bare.split_text, hu.bare.cutParts_text, hu.cutParts_text, hfragment]
  rfl

theorem ne_mark_of_mem_slashedNetloc (hu : u.Normal) {c : Char} (hc : c ∈ u.slashedNetloc) :
    c ≠ '?' ∧ c ≠ '#' := by
  unfold slashedNetloc at hc
  split at hc
  · rename_i a h
    rcases List.mem_cons.mp hc with rfl | hc
    · decide
    · rcases List.mem_cons.mp hc with rfl | hc
      · decide
      · rcases (hu.authority a h).1.mem_text hc with hhost | hmark
        · exact ⟨ne_of_class hhost (by decide), ne_of_class hhost (by decide)⟩
        · have hmarks : [':', '@', '[', ']'].all (fun d => d ≠ '?' && d ≠ '#') = true := rfl
          simpa using List.all_eq_true.mp hmarks c hmark
  · exact absurd hc List.not_mem_nil

theorem ne_mark_of_mem_frontText (hu : u.Normal) {c : Char} (hc : c ∈ u.frontText) :
    c ≠ '?' ∧ c ≠ '#' := by
  rw [frontText, List.mem_append, List.mem_cons, List.mem_append] at hc
  rcases hc with hscheme | rfl | hnetloc | hpath
  · have hchar := isSchemeChar_of_mem_scheme hu.scheme c hscheme
    exact ⟨ne_of_class hchar (by decide), ne_of_class hchar (by decide)⟩
  · decide
  · exact hu.ne_mark_of_mem_slashedNetloc hnetloc
  · exact (hu.mem_offsetPath hpath).2

/-- The text of the bare URL is the text of the URL without its query. -/
theorem bare_text_eq_withoutQuery (hu : u.Normal) : u.bare.text = withoutQuery u.text := by
  have hfront : ∀ c ∈ u.frontText, (c ≠ '?' && c ≠ '#') = true := by
    intro c hc
    simpa using hu.ne_mark_of_mem_frontText hc
  -- a question mark after the number sign is part of the fragment, so the marks are sought apart
  have hbefore : ∀ c ∈ u.frontText ++ optionalText '?' u.query, decide (c ≠ '#') = true := by
    intro c hc
    apply decide_eq_true
    rcases List.mem_append.mp hc with hc | hc
    · exact (hu.ne_mark_of_mem_frontText hc).2
    · cases hquery : u.query with
      | none => simp [hquery, optionalText] at hc
      | some q =>
        rw [hquery] at hc
        rcases List.mem_cons.mp hc with rfl | hc
        · decide
        · exact ne_of_class (hu.query q hquery c hc) (by decide)
  have htake : u.text.takeWhile (fun c => c ≠ '?' && c ≠ '#') = u.frontText := by
    rw [text_eq_frontText, List.append_assoc, List.takeWhile_append_of_pos hfront]
    cases u.query <;> cases u.fragment <;> simp [optionalText]
  have hdrop : u.text.dropWhile (· ≠ '#') = optionalText '#' u.fragment := by
    rw [text_eq_frontText, List.dropWhile_append_of_pos hbefore]
    cases u.fragment <;> simp [optionalText]
  rw [withoutQuery, htake, hdrop, bare_text_eq]
  cases u.fragment with
  | none => rfl
  | some f => cases f <;> simp [optionalText]

end Normal

end Url

/-! The redirect of a payment -/

namespace Call

theorem exists_respond_of_redirectUrl (c : Call .authorize) {p : Wire.Payload}
    {r : Wire.PaymentResponse} {u : Url} (h : p.read Wire.PaymentResponse.read = .ok r)
    (hu : r.threeDs.bind (·.redirectUrl) = some u) :
    ∃ c' reply, (c.respond p).value = .ok c' ∧ c'.response = some (.reply reply) ∧
      reply.redirection = some (Wire.redirectForm u) := by
  obtain ⟨j, hj⟩ := Wire.Payload.exists_of_read h
  have hredirection : r.redirection = .ok (some (Wire.redirectForm u)) := by
    rw [Wire.PaymentResponse.redirection_of_read hj, hu, Option.map_some]
  let s : Settlement .authorize :=
    ⟨some r.status.attempt, .ofTransaction r.id r.orderId (some (Wire.redirectForm u)), r.note true⟩
  have hsettle : Flow.authorize.settle r = .ok s := by
    rw [Flow.settle, Wire.PaymentResponse.settle, hredirection]
    rfl
  refine ⟨c.settle s, s.reply, ?_, ?_, rfl⟩
  · rw [respond, Flow.authorize.answer_of_ok h hsettle]
    rfl
  · rw [settle_eq]

/-- A payload with a web address to redirect to gives a form for that address: its endpoint is
the address without the query, and is cut into the parts of the address but for the query. -/
theorem redirect_of_read (c : Call .authorize) {p : Wire.Payload} {r : Wire.PaymentResponse}
    {u : Url} (h : p.read Wire.PaymentResponse.read = .ok r)
    (hu : r.threeDs.bind (·.redirectUrl) = some u)
    (hscheme : u.scheme = "http".toList ∨ u.scheme = "https".toList) :
    ∃ c' reply form parts, (c.respond p).value = .ok c' ∧
      c'.response = some (.reply reply) ∧
      reply.redirection = some form ∧
      form.method = .get ∧
      Url.Parts.split u.text = .ok parts ∧
      Url.Parts.split form.endpoint.toList = .ok { parts with query := [] } ∧
      parts.netloc ≠ [] ∧
      form.endpoint.toList = Url.withoutQuery u.text := by
  obtain ⟨c', reply, hrespond, hresponse, hform⟩ := c.exists_respond_of_redirectUrl h hu
  obtain ⟨j, hj⟩ := Wire.Payload.exists_of_read h
  obtain ⟨s, hs⟩ := Wire.PaymentResponse.exists_of_redirectUrl hj hu
  have hnormal := Url.normal_of_read hs
  have hweb : Url.schemeKind u.scheme = .web := by
    rcases hscheme with hscheme | hscheme
    · rw [hscheme]
      rfl
    · rw [hscheme]
      rfl
  obtain ⟨a, ha, hne⟩ := Url.authority_of_read hs hweb
  have hendpoint : (Wire.redirectForm u).endpoint.toList = u.bare.text := by
    rw [← hnormal.join_cutParts ha hne]
    exact String.toList_ofList
  refine ⟨c', reply, Wire.redirectForm u, Url.Parts.cutParts u.text, hrespond, hresponse, hform,
    rfl, hnormal.split_text, ?_, ?_, ?_⟩
  · rw [hendpoint, hnormal.split_bare]
  · rw [hnormal.cutParts_text, Url.netloc, ha]
    exact hne
  · rw [hendpoint, hnormal.bare_text_eq_withoutQuery]

/-- An authorization by wallet that waits for its answer. -/
def pending : Call .authorize where
  envelope :=
    { merchantId := "m"
      paymentId := "p"
      attemptId := "a"
      connector := "dlocal"
      status := .started
      authentication := .threeDs
      credentials := .noKey
      description := none
      returnUrl := none
      billing := none
      reference := "r" }
  request :=
    { amount := 5
      currency := "USD"
      method := ⟨.other .wallet, []⟩
      captureMethod := none
      email := none
      mandate := none
      returnUrl := none }
  response := none

/-- A payload that redirects to a path with an empty segment, at a host given by its address. -/
def redirectPayload : Wire.Payload :=
  .value (.obj [
    ("id", .str "t"),
    ("three_dsecure", .obj [("redirect_url", .str "HTTPS://u@[0::1]:443//pay?x=1#")])])

def redirectUrl : Url where
  scheme := "https".toList
  authority := some ⟨['u'], [], some (.ipv6 [0, 0, 0, 0, 0, 0, 0, 1]), none⟩
  path := .segments [[], "pay".toList]
  query := some "x=1".toList
  fragment := some []

theorem redirect_of_redirectPayload : ∃ c' reply form,
    (pending.respond redirectPayload).value = .ok c' ∧
      c'.response = some (.reply reply) ∧
      reply.redirection = some form ∧
      form.endpoint.toList = "https://u@[::1]//pay".toList := by
  have hread : redirectPayload.read Wire.PaymentResponse.read =
      .ok ⟨.pending, "t", some ⟨some redirectUrl⟩, none⟩ := rfl
  obtain ⟨c', reply, form, -, hrespond, hresponse, hform, -, -, -, -, hendpoint⟩ :=
    pending.redirect_of_read hread rfl (Or.inr rfl)
  exact ⟨c', reply, form, hrespond, hresponse, hform, hendpoint⟩

end Call

end PaymentConnector
