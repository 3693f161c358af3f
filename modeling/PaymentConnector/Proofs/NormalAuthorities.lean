import PaymentConnector.Proofs.NormalUrls
import PaymentConnector.Url.Split

/-!
The text of an authority in normal form. It holds characters of host names and the marks
between its parts only. Brackets stand around an address of eight groups and nowhere
else, so no check on the text fails when it is taken for a network location.
-/

namespace PaymentConnector

open Text

namespace Url.Ipv6

theorem mem_joinGroups {ns : List Nat} {c : Char} (h : c ∈ joinGroups ns) :
    c = ':' ∨ (hexDigit? c).isSome := by
  have hdigit {n : Nat} (hc : c ∈ Nat.toDigits 16 n) : (hexDigit? c).isSome :=
    Ipv4.hexDigit?_isSome_of_mem_toDigits (by decide) (by decide) hc
  induction ns with
  | nil => simp [joinGroups] at h
  | cons n ns ih =>
    cases ns with
    | nil => exact Or.inr (hdigit h)
    | cons m ms =>
      rw [joinGroups_cons_cons, List.mem_append, List.mem_cons] at h
      rcases h with h | rfl | h
      · exact Or.inr (hdigit h)
      · exact Or.inl rfl
      · exact ih h

theorem mem_text {groups : List Nat} {c : Char} (h : c ∈ text groups) :
    c = ':' ∨ (hexDigit? c).isSome := by
  unfold text at h
  split at h
  · exact mem_joinGroups h
  · simp only [List.mem_append, List.mem_cons] at h
    rcases h with h | rfl | rfl | h
    · exact mem_joinGroups h
    · exact Or.inl rfl
    · exact Or.inl rfl
    · exact mem_joinGroups h

/-- The text of an address avoids every class without colons and digits. -/
theorem free_text {p : Char → Bool} (hp : ∀ c, p c = true → c ≠ ':' ∧ hexDigit? c = none)
    (groups : List Nat) : Free p (text groups) := by
  intro c hc
  cases hpc : p c with
  | false => rfl
  | true =>
    obtain ⟨hcolon, hnone⟩ := hp c hpc
    rcases mem_text hc with rfl | hsome
    · exact absurd rfl hcolon
    · simp [hnone] at hsome

theorem free_text_of_eq {d : Char} (hcolon : d ≠ ':') (hd : hexDigit? d = none)
    (groups : List Nat) : Free (· = d) (text groups) := by
  apply free_text
  intro c hc
  rw [of_decide_eq_true hc]
  exact ⟨hcolon, hd⟩

end Url.Ipv6

namespace Url.Parts

/-- The text of eight groups is no address of a later version and none of four bytes. -/
theorem checkAddress_text {groups : List Nat} (h : Ipv6.IsAddress groups) :
    checkAddress (Ipv6.text groups) = .ok () := by
  have hfuture : (Ipv6.text groups).head? ≠ some 'v' := by
    intro hhead
    have hv := Ipv6.free_text_of_eq (d := 'v') (by decide) (by decide) groups
    exact hv.notMem (by decide) (List.mem_of_head? hhead)
  have hbytes : Ipv4.readStrict? (Ipv6.text groups) = none := by
    have hpoint := Ipv6.free_text_of_eq (d := '.') (by decide) (by decide) groups
    rw [Ipv4.readStrict?, fields_of_free hpoint, List.mapM_cons]
    cases Ipv4.strictByte? (Ipv6.text groups) <;> rfl
  have hzone : cutAround (· = '%') (Ipv6.text groups) = none :=
    cutAround_of_free (Ipv6.free_text_of_eq (by decide) (by decide) groups)
  simp [checkAddress, hfuture, hbytes, isZonedAddress, hzone, Ipv6.read?_text h]

end Url.Parts

namespace Authority.Normal

variable {a : Authority}

open Url

/-! The text of an authority -/

theorem free_portText (a : Authority) {p : Char → Bool}
    (hp : ∀ c, c = ':' ∨ c.isDigit = true → p c = false) : Free p a.portText := by
  unfold portText
  split
  · refine Free.cons (hp ':' (Or.inl rfl)) fun c hc => hp c (Or.inr ?_)
    exact Nat.isDigit_of_mem_toDigits (by decide) (by decide) hc
  · exact Free.nil

theorem hostText_cases (ha : a.Normal) :
    (∀ c ∈ a.hostText, isHostChar c = true) ∨
      ∃ groups, Ipv6.IsAddress groups ∧ a.hostText = '[' :: Ipv6.text groups ++ [']'] := by
  unfold hostText
  cases hhost : a.host with
  | none => exact Or.inl (by simp)
  | some h => exact (ha.host h hhost).text_cases

theorem userinfoText_cases (ha : a.Normal) :
    a.userinfoText = [] ∨
      ∃ s, a.userinfoText = s ++ ['@'] ∧ ∀ c ∈ s, keepUserinfo c = true ∨ c = ':' := by
  unfold userinfoText
  split
  · exact Or.inl rfl
  · refine Or.inr ⟨_, rfl, ?_⟩
    intro c hc
    rcases List.mem_append.mp hc with hc | hc
    · exact Or.inl (ha.username c hc)
    · split at hc
      · exact absurd hc List.not_mem_nil
      · rcases List.mem_cons.mp hc with rfl | hc
        · exact Or.inr rfl
        · exact Or.inl (ha.password c hc)

theorem mem_text_cases (ha : a.Normal) {c : Char} (h : c ∈ a.text) :
    isHostChar c = true ∨ c = ':' ∨ c = '@' ∨ c ∈ a.hostText := by
  simp only [text, List.mem_append] at h
  rcases h with (huser | hhost) | hport
  · rcases ha.userinfoText_cases with hnone | ⟨s, hs, hchars⟩
    · rw [hnone] at huser
      exact absurd huser List.not_mem_nil
    · rw [hs, List.mem_append, List.mem_singleton] at huser
      rcases huser with huser | rfl
      · rcases hchars c huser with hkeep | rfl
        · exact Or.inl (Host.isHostChar_of_keepUserinfo hkeep)
        · exact Or.inr (Or.inl rfl)
      · exact Or.inr (Or.inr (Or.inl rfl))
  · exact Or.inr (Or.inr (Or.inr hhost))
  · unfold portText at hport
    split at hport
    · rcases List.mem_cons.mp hport with rfl | hdigit
      · exact Or.inr (Or.inl rfl)
      · have hdigit := Nat.isDigit_of_mem_toDigits (by decide) (by decide) hdigit
        exact Or.inl (isHostChar_of_isDigit hdigit)
    · exact absurd hport List.not_mem_nil

/-- The characters of an authority: those of host names and the marks between its parts. -/
theorem mem_text (ha : a.Normal) {c : Char} (h : c ∈ a.text) :
    isHostChar c = true ∨ c ∈ [':', '@', '[', ']'] := by
  rcases ha.mem_text_cases h with hchar | rfl | rfl | hhost
  · exact Or.inl hchar
  · exact Or.inr (by decide)
  · exact Or.inr (by decide)
  · rcases ha.hostText_cases with hchars | ⟨groups, -, htext⟩
    · exact Or.inl (hchars c hhost)
    · rw [htext, List.mem_append, List.mem_cons, List.mem_singleton] at hhost
      rcases hhost with (rfl | hhost) | rfl
      · exact Or.inr (by decide)
      · rcases Ipv6.mem_text hhost with rfl | hdigit
        · exact Or.inr (by decide)
        · have hescape : isEscapeChar c = true := by simp [isEscapeChar, hdigit]
          exact Or.inl (Host.isHostChar_of_keepUserinfo (keepUserinfo_of_isEscapeChar hescape))
      · exact Or.inr (by decide)

/-- An authority avoids every class that has neither its marks nor characters of host names. -/
theorem free_text (ha : a.Normal) {p : Char → Bool} (hp : ∀ c, isHostChar c = true → p c = false)
    (hmarks : [':', '@', '[', ']'].any p = false) : Free p a.text := by
  intro c hc
  rcases ha.mem_text hc with hhost | hmark
  · exact hp c hhost
  · simpa using List.any_eq_false.mp hmarks c hmark

theorem keepPlain_of_mem_text (ha : a.Normal) {c : Char} (h : c ∈ a.text) :
    keepPlain c = true := by
  rcases ha.mem_text h with hhost | hmark
  · exact (Bool.and_eq_true_iff.mp hhost).1
  · have hmarks : [':', '@', '[', ']'].all keepPlain = true := rfl
    exact List.all_eq_true.mp hmarks c hmark

/-! Checks on the network location -/

/-- There is no at sign in an authority but the one after the user. -/
theorem free_hostText_portText (ha : a.Normal) : Free (· = '@') (a.hostText ++ a.portText) := by
  have hat {c : Char} (hc : isHostChar c = true) : decide (c = '@') = false :=
    decide_eq_false (ne_of_class hc (by decide))
  have hhost : Free (· = '@') a.hostText := by
    rcases ha.hostText_cases with hchars | ⟨groups, -, htext⟩
    · exact fun c hc => hat (hchars c hc)
    · rw [htext]
      have hgroups := Ipv6.free_text_of_eq (d := '@') (by decide) (by decide) groups
      exact (hgroups.cons (c := '[') (by decide)).append (Free.nil.cons (by decide))
  have hport : Free (· = '@') a.portText := by
    apply free_portText
    rintro c (rfl | hdigit)
    · decide
    · exact hat (isHostChar_of_isDigit hdigit)
  exact hhost.append hport

theorem hostAndPort_text (ha : a.Normal) :
    Parts.hostAndPort a.text = a.hostText ++ a.portText := by
  have hfree := ha.free_hostText_portText
  unfold Parts.hostAndPort
  rcases ha.userinfoText_cases with hnone | ⟨s, hs, -⟩
  · rw [text, hnone, List.nil_append, cutAroundLast_of_free hfree]
  · rw [text, hs, List.append_assoc, List.append_assoc, List.singleton_append,
      cutAroundLast_append_cons hfree (by decide)]

theorem checkBrackets_text (ha : a.Normal) : Parts.checkBrackets a.text = .ok () := by
  unfold Parts.checkBrackets
  rcases ha.hostText_cases with hchars | ⟨groups, hgroups, htext⟩
  · have hfree {d : Char} (hd : isHostChar d = false) (hcolon : d ≠ ':') (hat : d ≠ '@') :
        a.text.contains d = false := by
      rw [List.contains_eq_any_beq, List.any_eq_false]
      rintro c hc heq
      obtain rfl : d = c := by simpa using heq
      rcases ha.mem_text_cases hc with hchar | rfl | rfl | hhost
      · exact Bool.noConfusion (hd.symm.trans hchar)
      · exact hcolon rfl
      · exact hat rfl
      · exact Bool.noConfusion (hd.symm.trans (hchars d hhost))
    rw [hfree (by decide) (by decide) (by decide), hfree (by decide) (by decide) (by decide)]
    rfl
  · have hmem {d : Char} (hd : d ∈ a.hostText) : a.text.contains d = true := by
      rw [List.contains_iff_mem, text]
      exact List.mem_append_left _ (List.mem_append_right _ hd)
    have hopening : cutAround (· = '[') (a.hostText ++ a.portText) =
        some ([], Ipv6.text groups ++ ']' :: a.portText) := by
      rw [htext, List.append_assoc]
      exact cutAround_append_cons Free.nil (by decide)
    have hclosing : cut (· = ']') (Ipv6.text groups ++ ']' :: a.portText) =
        (Ipv6.text groups, ']' :: a.portText) :=
      cut_append_cons (Ipv6.free_text_of_eq (by decide) (by decide) groups) (by decide)
    rw [hmem (by simp [htext]), hmem (by simp [htext]), ha.hostAndPort_text, hopening]
    simp only [hclosing, ne_eq, not_true_eq_false, if_false, Bool.not_true, Bool.false_eq_true]
    unfold portText
    cases a.port with
    | none => exact Parts.checkAddress_text hgroups
    | some n => exact Parts.checkAddress_text hgroups

theorem checkNetloc_text (ha : a.Normal) : Parts.checkNetloc a.text = .ok () := by
  have hplain : a.text.any (Parts.lookalikes.contains ·.toNat) = false := by
    rw [List.any_eq_false]
    intro c hc
    have hlt := toNat_lt_of_keepPlain (ha.keepPlain_of_mem_text hc)
    have hbeyond : ∀ n ∈ Parts.lookalikes, 128 ≤ n := by decide
    intro hmem
    have hge := hbeyond _ (List.contains_iff_mem.mp hmem)
    omega
  simp only [Parts.checkNetloc, ha.checkBrackets_text, hplain]
  rfl

end Authority.Normal

end PaymentConnector
