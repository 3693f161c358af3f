import Mathlib.Data.List.TakeWhile
import PaymentConnector.Proofs.SpelledNumbers

/-!
The grammar of numbers. A number is spelled with a minus or without one, with a fraction, an
exponent or both, and as short as a limit wants it. Just these texts are read as the number.
-/

namespace PaymentConnector.Json

/-- A sign, or none; only a minus makes the number negative. -/
inductive IsSign : Bool → List Char → Prop
  | none : IsSign false []
  | plus : IsSign false ['+']
  | minus : IsSign true ['-']

/-- A power of ten with its text behind the digits, or nothing. -/
inductive IsPower : Option Int → List Char → Prop
  | absent : IsPower none []
  | present {mark : Char} {sign ds : List Char} {negative : Bool}
      (hmark : mark = 'e' ∨ mark = 'E') (hsign : IsSign negative sign) (hne : ds ≠ [])
      (hds : Digits ds) :
      IsPower
        (some (if negative then -(Nat.ofDigitChars 10 ds 0 : Int) else Nat.ofDigitChars 10 ds 0))
        (mark :: (sign ++ ds))

/-- A minus, if a number is negative. -/
def minusText (negative : Bool) : List Char := if negative then ['-'] else []

/-- A number with its text. A whole number has neither a fraction nor an exponent. -/
inductive IsNumber (l : NumberLimit) : Json → List Char → Prop
  | whole (negative : Bool) {w : List Char} (hw : IsWhole w) (hl : l.Admits negative true w) :
      IsNumber l
        (.int (if negative then -(Nat.ofDigitChars 10 w 0 : Int) else Nat.ofDigitChars 10 w 0))
        (minusText negative ++ w)
  | decimal (negative : Bool) {w ds e : List Char} {x : Option Int} (hw : IsWhole w)
      (hl : l.Admits negative false w) (hds : Digits ds) (he : IsPower x e)
      (hne : ds ≠ [] ∨ x ≠ none) :
      IsNumber l
        (.float (.ofDecimal negative (Nat.ofDigitChars 10 (w ++ ds) 0) (x.getD 0 - ds.length)))
        (minusText negative ++ (w ++ (fractionText ds ++ e)))

/-- A whole number with its text, as its digits are. -/
theorem exists_of_isNumber_int {l : NumberLimit} {n : Int} {t : List Char}
    (h : IsNumber l (.int n) t) : ∃ negative w, IsWhole w ∧ l.Admits negative true w ∧
      t = minusText negative ++ w ∧
      n = if negative then -(Nat.ofDigitChars 10 w 0 : Int) else Nat.ofDigitChars 10 w 0 := by
  generalize hj : Json.int n = j at h
  cases h with
  | whole negative hw hl => exact ⟨negative, _, hw, hl, rfl, Json.int.inj hj⟩
  | decimal => cases hj

/-! Reading numbers -/

theorem exponent_append_power {x : Option Int} {e t : List Char} (he : IsPower x e)
    (ht : EndsNumber t) : exponent (e ++ t) = (x, t) := by
  cases he with
  | absent => exact exponent_append .absent ht
  | @present mark sign ds negative hmark hsign hne hds =>
    have hspan := spanDigits_append hds ht.digit
    have hsigned : exponentSign (sign ++ (ds ++ t)) = (negative, ds ++ t) := by
      cases hsign with
      | none =>
        obtain ⟨c, ds, rfl⟩ := List.exists_cons_of_ne_nil hne
        have hc : c.isDigit = true := hds c List.mem_cons_self
        rw [List.nil_append, exponentSign]
        · rintro r ⟨⟩
          exact absurd hc (by decide)
        · rintro r ⟨⟩
          exact absurd hc (by decide)
      | plus => rfl
      | minus => rfl
    simp [exponent, hsigned, hspan, hmark, hne]

theorem finding_number_signed (l : NumberLimit) (negative : Bool) {w t : List Char}
    (hw : IsWhole w) :
    (number l (minusText negative ++ (w ++ t))).finding = unsignedFinding l negative (w ++ t) := by
  cases negative with
  | true => exact finding_number_minus l _
  | false =>
    refine finding_number l ?_
    obtain ⟨c, w, rfl⟩ := List.exists_cons_of_ne_nil hw.ne_nil
    rintro ⟨⟩
    exact absurd (hw.digits _ List.mem_cons_self) (by decide)

theorem unsignedFinding_of_isNumber {l : NumberLimit} {j : Json} {t r : List Char}
    (h : IsNumber l j t) (hr : EndsNumber r) : ∃ negative w u, IsWhole w ∧
      t ++ r = minusText negative ++ (w ++ u) ∧
      unsignedFinding l negative (w ++ u) = .ok (j, r) := by
  cases h with
  | whole negative hw hl =>
    exact ⟨negative, _, r, hw, List.append_assoc _ _ _, unsignedFinding_whole hw hl hr⟩
  | @decimal negative w ds e x hw hl hds he hne =>
    have hhead : (∀ c ∈ (e ++ r).head?, c.isDigit = false) ∧ (e ++ r).head? ≠ some '.' := by
      cases he with
      | absent => exact ⟨hr.digit, hr.point⟩
      | present hmark hsign hne hds => rcases hmark with rfl | rfl <;> simp
    refine ⟨negative, w, fractionText ds ++ (e ++ r), hw, by simp, ?_⟩
    exact unsignedFinding_parts hw hds hl hhead.1 hhead.2 (exponent_append_power he hr) hne

/-! Numbers that were read -/

theorem spanDigits_parts (s : List Char) :
    Digits (spanDigits s).1 ∧ (spanDigits s).1 ++ (spanDigits s).2 = s :=
  ⟨fun _ hc => List.mem_takeWhile_imp hc, List.takeWhile_append_dropWhile⟩

theorem wholePart_parts {s w r : List Char} (h : wholePart s = (w, r)) (hne : w ≠ []) :
    IsWhole w ∧ s = w ++ r := by
  unfold wholePart at h
  split at h
  · obtain ⟨rfl, rfl⟩ := Prod.mk.inj h
    exact ⟨isWhole_singleton rfl, rfl⟩
  · rename_i hzero
    obtain ⟨hdigits, hparts⟩ := spanDigits_parts s
    rw [h] at hdigits hparts
    obtain ⟨c, w, rfl⟩ := List.exists_cons_of_ne_nil hne
    refine ⟨⟨hne, hdigits, Or.inr ?_⟩, hparts.symm⟩
    rintro ⟨⟩
    exact hzero _ hparts.symm

theorem fraction_parts {s ds r : List Char} (h : fraction s = (ds, r)) :
    Digits ds ∧ s = fractionText ds ++ r := by
  unfold fraction at h
  split at h
  · rename_i u
    obtain ⟨hdigits, hparts⟩ := spanDigits_parts u
    split at h
    · obtain ⟨rfl, rfl⟩ := Prod.mk.inj h
      exact ⟨digits_nil, rfl⟩
    · rename_i hne
      rw [h] at hdigits hparts hne
      refine ⟨hdigits, ?_⟩
      rw [fractionText, if_neg (by simpa using hne), ← hparts]
      rfl
  · obtain ⟨rfl, rfl⟩ := Prod.mk.inj h
    exact ⟨digits_nil, rfl⟩

theorem exponentSign_parts (s : List Char) :
    ∃ sign, IsSign (exponentSign s).1 sign ∧ s = sign ++ (exponentSign s).2 := by
  unfold exponentSign
  split
  · exact ⟨_, .minus, rfl⟩
  · exact ⟨_, .plus, rfl⟩
  · exact ⟨_, .none, rfl⟩

theorem exponent_parts {s r : List Char} {x : Option Int} (h : exponent s = (x, r)) :
    ∃ e, IsPower x e ∧ s = e ++ r := by
  unfold exponent at h
  split at h
  · rename_i mark u
    obtain ⟨sign, hsign, hu⟩ := exponentSign_parts u
    obtain ⟨hdigits, hparts⟩ := spanDigits_parts (exponentSign u).2
    dsimp only at h
    split at h
    · rename_i hpresent
      obtain ⟨rfl, rfl⟩ := Prod.mk.inj h
      refine ⟨_, .present hpresent.1 hsign (by simpa using hpresent.2) hdigits, ?_⟩
      rw [List.cons_append, List.append_assoc, hparts, ← hu]
    · obtain ⟨rfl, rfl⟩ := Prod.mk.inj h
      exact ⟨[], .absent, rfl⟩
  · obtain ⟨rfl, rfl⟩ := Prod.mk.inj h
    exact ⟨[], .absent, rfl⟩

theorem exists_of_unsignedFinding {l : NumberLimit} {negative : Bool} {s r : List Char} {j : Json}
    (h : unsignedFinding l negative s = .ok (j, r)) :
    ∃ t, IsNumber l j (minusText negative ++ t) ∧ s = t ++ r := by
  simp only [unsignedFinding] at h
  rcases hwhole : wholePart s with ⟨w, u⟩
  rcases hfraction : fraction u with ⟨ds, v⟩
  rcases hexponent : exponent v with ⟨x, r'⟩
  simp only [hwhole, hfraction, hexponent] at h
  split at h
  · exact absurd h (by simp)
  · rename_i hne
    obtain ⟨hw, rfl⟩ := wholePart_parts hwhole hne
    obtain ⟨hds, rfl⟩ := fraction_parts hfraction
    obtain ⟨e, he, rfl⟩ := exponent_parts hexponent
    split at h
    · exact absurd h (by simp)
    rename_i hadmits
    have hl := Bool.eq_false_iff.mpr hadmits
    split at h
    · rename_i hparts
      obtain ⟨hnil, hnone⟩ := Bool.and_eq_true_iff.mp hparts
      obtain rfl := List.isEmpty_iff.mp hnil
      obtain rfl := Option.isNone_iff_eq_none.mp hnone
      obtain ⟨rfl, rfl⟩ := Prod.mk.inj (Except.ok.inj h)
      cases he with
      | absent => exact ⟨w, .whole negative hw hl, by simp [fractionText]⟩
    · rename_i hparts
      rw [Bool.eq_false_iff.mpr hparts] at hl
      obtain ⟨rfl, rfl⟩ := Prod.mk.inj (Except.ok.inj h)
      have hsome : ds ≠ [] ∨ x ≠ none := by
        rcases Bool.and_eq_false_iff.mp (Bool.eq_false_iff.mpr hparts) with hds | hx
        · exact Or.inl (by simpa using hds)
        · exact Or.inr (Option.isNone_eq_false_iff.mp hx |> Option.isSome_iff_ne_none.mp)
      exact ⟨_, .decimal negative hw hl hds he hsome, by simp⟩

/-- A whole text is read as the number that it spells. -/
theorem finding_number_eq_ok_iff {l : NumberLimit} {j : Json} {s : List Char} :
    (number l s).finding = .ok (j, []) ↔ IsNumber l j s := by
  constructor
  · intro h
    by_cases hminus : s.head? = some '-'
    · obtain ⟨s, rfl⟩ := List.head?_eq_some_iff.mp hminus
      rw [finding_number_minus] at h
      obtain ⟨t, ht, rfl⟩ := exists_of_unsignedFinding h
      rwa [List.append_nil]
    · rw [finding_number l hminus] at h
      obtain ⟨t, ht, rfl⟩ := exists_of_unsignedFinding h
      rwa [List.append_nil]
  · intro h
    have hend : EndsNumber [] := ⟨by simp, by simp, by simp⟩
    obtain ⟨negative, w, u, hw, hs, hfinding⟩ := unsignedFinding_of_isNumber h hend
    rw [List.append_nil] at hs
    rw [hs, finding_number_signed l negative hw, hfinding]

end PaymentConnector.Json
