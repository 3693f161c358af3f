import PaymentConnector.Proofs.AnswerSchemas
import PaymentConnector.Proofs.CarriedObjects
import PaymentConnector.Proofs.CutAddresses
import PaymentConnector.Proofs.EscapedFields
import PaymentConnector.Proofs.RedirectTargets
import PaymentConnector.Proofs.TrimmedTexts

/-!
The fields of a redirect. A query in which everything but the marks of its fields is escaped
stays as it is when the address is read, so the form that an answer redirects with has the
very fields that were written into the address.
-/

namespace PaymentConnector

open Text

namespace Url

variable {s before q : List Char} {fragment : Option (List Char)} {u : Url}

/-! Blanks around an address -/

theorem shows_of_keepSpecialQuery {c : Char} (h : keepSpecialQuery c = true) :
    ¬ c.toNat ≤ 0x20 ∧ Parts.isBreak c = false :=
  of_ascii
    (P := fun c => keepSpecialQuery c = true → ¬ c.toNat ≤ 0x20 ∧ Parts.isBreak c = false)
    (by decide +kernel)
    (toNat_lt_of_keepPlain (keepPlain_of_keepQuery (keepQuery_of_keepSpecialQuery h))) h

/-- What is trimmed after a query is trimmed from the fragment. -/
theorem exists_trimmed_end (hq : ∀ c ∈ q, keepSpecialQuery c = true)
    (fragment : Option (List Char)) :
    ∃ fragment', ((q ++ optionalText '#' fragment).reverse.dropWhile (·.toNat ≤ 0x20)).reverse =
      q ++ optionalText '#' fragment' := by
  cases fragment with
  | none =>
    refine ⟨none, ?_⟩
    rw [optionalText, List.append_nil]
    cases hlast : q.reverse with
    | nil => rw [List.reverse_eq_nil_iff.mp hlast]; rfl
    | cons c rest =>
      have hc : c ∈ q := List.mem_reverse.mp (by rw [hlast]; exact List.mem_cons_self)
      rw [List.dropWhile_cons_of_neg (by simpa using (shows_of_keepSpecialQuery (hq c hc)).1),
        ← hlast, List.reverse_reverse]
  | some f =>
    refine ⟨some (f.reverse.dropWhile (·.toNat ≤ 0x20)).reverse, ?_⟩
    have hreverse : (q ++ optionalText '#' (some f)).reverse = f.reverse ++ '#' :: q.reverse := by
      simp [optionalText]
    rw [hreverse, dropWhile_append_cons (by decide)]
    simp [optionalText]

/-- A query that is kept as it is loses nothing when its address is cleaned. -/
theorem exists_cleaned (hq : ∀ c ∈ q, keepSpecialQuery c = true)
    (hbefore : ∀ c ∈ before, c ≠ '?' ∧ c ≠ '#') (fragment : Option (List Char)) :
    ∃ before' fragment', (∀ c ∈ before', c ≠ '?' ∧ c ≠ '#') ∧
      cleaned (before ++ '?' :: (q ++ optionalText '#' fragment)) =
        before' ++ '?' :: (q ++ optionalText '#' fragment') := by
  obtain ⟨f, hend⟩ := exists_trimmed_end hq fragment
  have htrim := trim_append_cons (p := (·.toNat ≤ 0x20)) (c := '?') (by decide) before
    (q ++ optionalText '#' fragment)
  rw [hend] at htrim
  have hunbroken : Parts.unbroken q = q :=
    Parts.unbroken_eq_self_iff.mpr fun c hc => (shows_of_keepSpecialQuery (hq c hc)).2
  have hfragment : Parts.unbroken (optionalText '#' f) =
      optionalText '#' (f.map Parts.unbroken) := by
    cases f with
    | none => rfl
    | some f => exact Parts.unbroken_cons (by decide) f
  refine ⟨Parts.unbroken (before.dropWhile (·.toNat ≤ 0x20)), f.map Parts.unbroken, ?_, ?_⟩
  · intro c hc
    exact hbefore c (List.dropWhile_subset _ (List.mem_filter.mp hc).1)
  · change Parts.unbroken (trim (·.toNat ≤ 0x20) _) = _
    rw [htrim, Parts.unbroken_append, Parts.unbroken_cons (by decide), Parts.unbroken_append,
      hunbroken, hfragment]

theorem readQuery_eq_self (kind : SchemeKind) (hq : ∀ c ∈ q, keepSpecialQuery c = true) :
    readQuery kind q = q := by
  unfold readQuery
  split
  · exact percentEncode_eq_self hq
  · exact percentEncode_eq_self fun c hc => keepQuery_of_keepSpecialQuery (hq c hc)

/-- An address that is read has a scheme and a body, and its query and its fragment are encoded. -/
theorem exists_cut_of_read (h : read s = .ok u) :
    ∃ rest, cutScheme (cleaned s) = some (u.scheme, rest) ∧
      readBody u.scheme (cutSections rest).isOnlyBody (cutSections rest).body =
        .ok (u.authority, u.path) ∧
      u.query = (cutSections rest).query.map (readQuery (schemeKind u.scheme)) ∧
      u.fragment = (cutSections rest).fragment.map (percentEncode keepFragment) := by
  unfold read at h
  split at h
  · cases h
  · split at h
    · cases h
    · rename_i scheme rest hscheme
      dsimp only at h
      split at h
      · cases h
      · rename_i hbody
        obtain rfl := Except.ok.inj h
        exact ⟨rest, hscheme, hbody, rfl, rfl⟩

/-- A scheme is cut off before a question mark. -/
theorem exists_cutScheme_before {t scheme rest : List Char}
    (h : cutScheme (before ++ '?' :: t) = some (scheme, rest)) :
    ∃ body, cutScheme before = some (scheme, body) ∧ rest = body ++ '?' :: t := by
  cases hbefore : cutScheme before with
  | none =>
    have hmark : ∀ c, ('?' :: t).head? = some c → isSchemeChar c = false ∧ c ≠ ':' :=
      fun c hc => Option.some.inj hc ▸ ⟨by decide, by decide⟩
    rw [cutScheme_append_eq_none hbefore hmark] at h
    cases h
  | some found =>
    rw [cutScheme_append hbefore] at h
    obtain ⟨rfl, rfl⟩ := Prod.mk.inj (Option.some.inj h)
    exact ⟨found.2, rfl, rfl⟩

/-- The query of an address that is read, if its characters are kept. -/
theorem query_of_read (h : read (before ++ '?' :: (q ++ optionalText '#' fragment)) = .ok u)
    (hq : ∀ c ∈ q, keepSpecialQuery c = true) (hbefore : ∀ c ∈ before, c ≠ '?' ∧ c ≠ '#') :
    u.query = some q := by
  obtain ⟨rest, hscheme, -, hquery, -⟩ := exists_cut_of_read h
  obtain ⟨before', fragment', hbefore', hcleaned⟩ := exists_cleaned hq hbefore fragment
  rw [hcleaned] at hscheme
  obtain ⟨body, hbody, rfl⟩ := exists_cutScheme_before hscheme
  have hsections : cutSections (body ++ '?' :: (q ++ optionalText '#' fragment')) =
      ⟨body, some q, fragment'⟩ := by
    refine cutSections_eq_iff.mpr ⟨by simp [optionalText], fun c hc => hbefore' c ?_, ?_⟩
    · obtain ⟨d, name, rfl, -⟩ := cutScheme_eq_some_iff.mp hbody
      simp [hc]
    · intro q' hq' hnumber
      obtain rfl := Option.some.inj hq'
      exact absurd (hq '#' hnumber) (by decide)
  rw [hquery, hsections, Option.map_some, readQuery_eq_self _ hq]

end Url

theorem Wire.fields_redirectForm {u : Url} (hu : u.Normal) :
    (redirectForm u).fields = Url.Form.read (u.query.getD []) := by
  rw [redirectForm, hu.cutParts_text]
  rfl

namespace Object

variable {o d : Object} {address : String} {u : Url}

/-- An address that an answer may redirect to is the text of a URL. -/
theorem exists_read_of_mayRedirect (h : o.MayRedirect)
    (hthree : o.get? "three_dsecure" = some (.obj d))
    (haddress : d.get? "redirect_url" = some (.str address)) :
    ∃ u, Url.read address.toList = .ok u := by
  rcases h with (hnone | hnull) | ⟨d', hget, hurl⟩
  · rw [hthree] at hnone
    cases hnone
  · rw [hthree] at hnull
    cases hnull
  · obtain rfl : d = d' := by simpa using hthree.symm.trans hget
    rcases hurl with (hnone | hnull) | ⟨s, u, hs, hu⟩
    · rw [haddress] at hnone
      cases hnone
    · rw [haddress] at hnull
      cases hnull
    · obtain rfl : address = s := by simpa using haddress.symm.trans hs
      exact ⟨u, hu⟩

theorem redirectUrl?_eq_some (hthree : o.get? "three_dsecure" = some (.obj d))
    (haddress : d.get? "redirect_url" = some (.str address))
    (hu : Url.read address.toList = .ok u) : o.redirectUrl? = some u := by
  rw [redirectUrl?, hthree]
  simp [text?_eq_some_iff.mpr haddress, hu, Except.toOption]

end Object

namespace Call

/-- An answer that redirects to an address with fields written into its query is taken in, and
the form has those fields: for each key the value that was written last, and all fields as they
were written if no key stands twice. -/
theorem exists_fields_of_respond (c : Call .authorize) {p : Wire.Payload} {o d : Object}
    {address : String} {before q : List Char} {fragment : Option (List Char)}
    {pairs : List (String × String)} (hp : p.object? = some o)
    (haccepts : Flow.authorize.Accepts o) (hthree : o.get? "three_dsecure" = some (.obj d))
    (haddress : d.get? "redirect_url" = some (.str address))
    (htext : address.toList = before ++ '?' :: (q ++ Url.optionalText '#' fragment))
    (hbefore : ∀ ch ∈ before, ch ≠ '?' ∧ ch ≠ '#') (hq : Url.Form.Writes pairs q) :
    ∃ c' reply form, (c.respond p).value = .ok c' ∧ c'.response = some (.reply reply) ∧
      reply.redirection = some form ∧ (form.fields.map Prod.fst).Nodup ∧
      (∀ key, form.fields.lookup key = pairs.reverse.lookup key) ∧
      ((pairs.map Prod.fst).Nodup → form.fields = pairs) := by
  obtain ⟨r, hr⟩ := (Flow.exists_readPayment o).mpr haccepts
  have hread : p.read Wire.PaymentResponse.read = .ok r :=
    (Wire.Payload.read_eq_ok_iff Flow.authorize.takesObjects_readAnswer).mpr ⟨o, hp, hr⟩
  obtain ⟨u, hu⟩ := Object.exists_read_of_mayRedirect haccepts.2.2.2 hthree haddress
  obtain ⟨-, -, hthreeDs, -⟩ := Wire.PaymentResponse.read_obj_eq_ok_iff.mp hr
  have hredirect : r.threeDs.bind (·.redirectUrl) = some u :=
    (Object.redirectUrl?_eq hthreeDs).trans (Object.redirectUrl?_eq_some hthree haddress hu)
  obtain ⟨c', reply, hrespond, hresponse, hform⟩ := c.exists_respond_of_redirectUrl hread hredirect
  have hquery : u.query = some q := by
    rw [htext] at hu
    exact Url.query_of_read hu (Url.Form.keepSpecialQuery_of_writes hq) hbefore
  have hfields : (Wire.redirectForm u).fields = Url.Form.read q := by
    rw [Wire.fields_redirectForm (Url.normal_of_read hu), hquery]
    rfl
  refine ⟨c', reply, Wire.redirectForm u, hrespond, hresponse, hform, ?_, ?_, ?_⟩
  · rw [hfields]
    exact Url.Form.nodup_keys_read q
  · rw [hfields]
    exact Url.Form.lookup_read_of_writes hq
  · rw [hfields]
    exact Url.Form.read_of_writes hq

/-- Fields with a key that stands twice, an empty key and an empty value. -/
def writtenFields : List (String × String) := [("a", "Ä"), ("a", ""), ("", "+&=")]

/-- An answer that redirects to an address with those fields. -/
def fieldsAnswer : Object :=
  [("id", .str "t"),
   ("three_dsecure",
    .obj [("redirect_url", .str "https://[::1]/p?%61=%C3%84&%61=&=%2B%26%3D#a?b")])]

theorem pending_fields : ∃ c' reply form,
    (pending.respond (.value (.obj fieldsAnswer))).value = .ok c' ∧
      c'.response = some (.reply reply) ∧ reply.redirection = some form ∧
      form.fields.lookup "a" = some "" ∧ form.fields.lookup "" = some "+&=" := by
  have haccepts : Flow.authorize.Accepts fieldsAnswer :=
    ⟨⟨_, rfl⟩, Or.inl rfl, Or.inl (Or.inl rfl), Or.inr ⟨_, rfl, Or.inr ⟨_, _, rfl, rfl⟩⟩⟩
  have hquery : Url.Form.write writtenFields = "%61=%C3%84&%61=&=%2B%26%3D".toList := by decide
  have hwrites := Url.Form.writes_write writtenFields
  rw [hquery] at hwrites
  have htext : "https://[::1]/p?%61=%C3%84&%61=&=%2B%26%3D#a?b".toList =
      "https://[::1]/p".toList ++
        '?' :: ("%61=%C3%84&%61=&=%2B%26%3D".toList ++ Url.optionalText '#' (some "a?b".toList)) := by
    decide
  have hmarks : "https://[::1]/p".toList.all (fun ch => ch ≠ '?' && ch ≠ '#') = true := rfl
  have hbefore : ∀ ch ∈ "https://[::1]/p".toList, ch ≠ '?' ∧ ch ≠ '#' := by
    intro ch hch
    simpa using List.all_eq_true.mp hmarks ch hch
  obtain ⟨c', reply, form, hrespond, hresponse, hform, -, hlookup, -⟩ :=
    pending.exists_fields_of_respond (p := .value (.obj fieldsAnswer)) rfl haccepts rfl rfl htext
      hbefore hwrites
  exact ⟨c', reply, form, hrespond, hresponse, hform, hlookup "a", hlookup ""⟩

end Call

end PaymentConnector
