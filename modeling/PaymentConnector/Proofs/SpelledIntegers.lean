import PaymentConnector.Proofs.FittingNumbers
import PaymentConnector.Proofs.TextCuts
import PaymentConnector.Proofs.TrimmedTexts

/-!
Texts that are taken for whole numbers. Around the digits may stand blanks, a sign, leading
zeros and a fraction of zeros; single underscores may stand between them, and any between the
zeros. Just the texts of this grammar are read as the number that their digits stand for.
-/

namespace PaymentConnector

open Json Text

/-! Single underscores -/

/-- The parts of a text together, and the text in which single underscores stand between them. -/
inductive Grouped : List Char → List Char → Prop
  | mk {parts : List (List Char)} (hne : parts ≠ [])
      (hparts : ∀ part ∈ parts, part ≠ [] ∧ Free (· = '_') part) :
      Grouped parts.flatten (['_'].intercalate parts)

theorem grouped_self {u : List Char} (hne : u ≠ []) (hu : Free (· = '_') u) : Grouped u u := by
  have hsingle := Grouped.mk (List.cons_ne_nil u []) (by simpa using ⟨hne, hu⟩)
  simpa using hsingle

theorem mem_intercalate {c d : Char} {parts : List (List Char)}
    (h : c ∈ [d].intercalate parts) : c ∈ parts.flatten ∨ c = d := by
  induction parts with
  | nil => cases h
  | cons part rest ih =>
    rw [List.flatten_cons, List.mem_append, or_assoc]
    cases rest with
    | nil => exact Or.inl (by simpa using h)
    | cons next rest =>
      rw [List.intercalate_cons_cons, List.append_assoc] at h
      rcases List.mem_append.mp h with h | h
      · exact Or.inl h
      rcases List.mem_cons.mp h with rfl | h
      · exact Or.inr (Or.inr rfl)
      · exact Or.inr (ih h)

namespace Grouped

variable {u t : List Char}

theorem mem (h : Grouped u t) {c : Char} (hc : c ∈ t) : c ∈ u ∨ c = '_' := by
  cases h
  exact mem_intercalate hc

theorem head?_eq (h : Grouped u t) : t.head? = u.head? := by
  obtain ⟨hne, hparts⟩ := h
  rename_i parts
  obtain ⟨part, rest, rfl⟩ := List.exists_cons_of_ne_nil hne
  obtain ⟨c, part, rfl⟩ := List.exists_cons_of_ne_nil (hparts part List.mem_cons_self).1
  cases rest <;> simp [List.intercalate_cons_cons]

theorem ne_nil (h : Grouped u t) : t ≠ [] := by
  obtain ⟨hne, hparts⟩ := h
  rename_i parts
  obtain ⟨part, rest, rfl⟩ := List.exists_cons_of_ne_nil hne
  obtain ⟨c, part, rfl⟩ := List.exists_cons_of_ne_nil (hparts part List.mem_cons_self).1
  cases rest <;> simp [List.intercalate_cons_cons]

theorem dropUnderscores_eq (h : Grouped u t) : dropUnderscores t = u := by
  obtain ⟨hne, hparts⟩ := h
  rename_i parts
  have hfields := fields_intercalate (p := (· = '_')) (c := '_') rfl hne fun part hpart =>
    (hparts part hpart).2
  have hall : parts.all (· ≠ []) = true := by simpa using fun part hpart => (hparts part hpart).1
  simp only [dropUnderscores, hfields, hall, if_true]

/-- Between the parts of a single character nothing stands. -/
theorem eq_of_length_eq_one (h : Grouped u t) (hu : u.length = 1) : t = u := by
  obtain ⟨hne, hparts⟩ := h
  rename_i parts
  obtain ⟨part, rest, rfl⟩ := List.exists_cons_of_ne_nil hne
  have hpart := List.length_pos_iff.mpr (hparts part List.mem_cons_self).1
  cases rest with
  | nil => simp
  | cons next rest =>
    have hnext := List.length_pos_iff.mpr (hparts next (by simp)).1
    simp only [List.flatten_cons, List.length_append] at hu
    omega

end Grouped

/-- Where underscores are left, one of them stands at an end or beside another. -/
theorem grouped_dropUnderscores {t : List Char} (hne : dropUnderscores t ≠ [])
    (hfree : Free (· = '_') (dropUnderscores t)) : Grouped (dropUnderscores t) t := by
  by_cases hall : (fields (· = '_') t).all (· ≠ []) = true
  · have hgrouped := Grouped.mk fields_ne_nil fun part hpart =>
      ⟨of_decide_eq_true (List.all_eq_true.mp hall part hpart),
        fun c hc => (mem_of_mem_fields hpart hc).2⟩
    rw [intercalate_fields] at hgrouped
    rwa [dropUnderscores, if_pos hall]
  · have hself : dropUnderscores t = t := by rw [dropUnderscores, if_neg hall]
    rw [hself] at hne hfree ⊢
    exact grouped_self hne hfree

/-! Signs and zeros -/

theorem exists_of_splitSign {s r : List Char} {negative : Bool}
    (h : splitSign s = (negative, r)) : ∃ sign, IsSign negative sign ∧ s = sign ++ r := by
  unfold splitSign at h
  split at h
  · obtain ⟨rfl, rfl⟩ := Prod.mk.inj h
    exact ⟨_, .minus, rfl⟩
  · obtain ⟨rfl, rfl⟩ := Prod.mk.inj h
    exact ⟨_, .plus, rfl⟩
  · obtain ⟨rfl, rfl⟩ := Prod.mk.inj h
    exact ⟨_, .none, rfl⟩

theorem splitSign_append {negative : Bool} {sign t : List Char} (hsign : IsSign negative sign)
    (ht : ∀ c ∈ t.head?, c.isDigit = true) : splitSign (sign ++ t) = (negative, t) := by
  cases hsign with
  | none =>
    rw [List.nil_append, splitSign]
    · rintro r rfl
      exact absurd (ht '-' rfl) (by decide)
    · rintro r rfl
      exact absurd (ht '+' rfl) (by decide)
  | plus => rfl
  | minus => rfl

/-- Zeros, with underscores anywhere behind the first one. -/
inductive IsLead : List Char → Prop
  | none : IsLead []
  | zeros {zs : List Char} (hzs : ∀ c ∈ zs, c = '0' ∨ c = '_') : IsLead ('0' :: zs)

/-- What stands behind leading zeros: a zero at the end or before a point, or anything else that
starts with a digit or a minus. -/
inductive EndsZeros : List Char → Prop
  | zero {frac : List Char} (hfrac : ∀ c ∈ frac.head?, c = '.') : EndsZeros ('0' :: frac)
  | other {c : Char} {t : List Char} (hzero : c ≠ '0') (hc : c.isDigit = true ∨ c = '-') :
      EndsZeros (c :: t)

theorem exists_of_afterZero? {last : Char} {r t : List Char}
    (hlast : last = '0' ∨ last = '_') (h : afterZero? last r = some t) :
    ∃ zs, (∀ c ∈ zs, c = '0' ∨ c = '_') ∧ last :: r = zs ++ t := by
  fun_induction afterZero? last r with
  | case1 last =>
    obtain rfl := Option.some.inj h
    exact ⟨[], by simp, rfl⟩
  | case2 last rest =>
    obtain rfl := Option.some.inj h
    exact ⟨[], by simp, rfl⟩
  | case3 last c rest _ hc ih =>
    obtain ⟨zs, hzs, heq⟩ := ih hc h
    exact ⟨last :: zs, List.forall_mem_cons.mpr ⟨hlast, hzs⟩, congrArg (last :: ·) heq⟩
  | case4 last c rest =>
    obtain rfl := Option.some.inj h
    exact ⟨[last], by simpa using hlast, rfl⟩
  | case5 => cases h

theorem afterZero?_of_endsZeros {t : List Char} (ht : EndsZeros t) (last : Char) :
    afterZero? last t = some t := by
  cases ht with
  | @zero frac hfrac =>
    rw [afterZero?, if_pos (Or.inl rfl)]
    · cases frac with
      | nil => rfl
      | cons c frac =>
        rw [hfrac c rfl]
        rfl
    · decide
  | @other c t hzero hc =>
    have hpoint : c ≠ '.' := by
      rcases hc with hc | rfl
      · exact ne_of_isDigit hc rfl
      · decide
    have hunderscore : c ≠ '_' := by
      rcases hc with hc | rfl
      · exact ne_of_isDigit hc rfl
      · decide
    rw [afterZero?, if_neg (by simp [hzero, hunderscore]), if_pos hc]
    exact hpoint

theorem afterZero?_append {zs t : List Char} (hzs : ∀ c ∈ zs, c = '0' ∨ c = '_')
    (ht : EndsZeros t) (last : Char) : afterZero? last (zs ++ t) = some t := by
  induction zs generalizing last with
  | nil => exact afterZero?_of_endsZeros ht last
  | cons c zs ih =>
    obtain ⟨hc, hrest⟩ := List.forall_mem_cons.mp hzs
    rw [List.cons_append, afterZero?, if_pos hc]
    · exact ih hrest c
    · rcases hc with rfl | rfl <;> decide

theorem exists_of_dropLeadingZeros? {s t : List Char} (h : dropLeadingZeros? s = some t) :
    ∃ zeros, IsLead zeros ∧ s = zeros ++ t ∧ (zeros = [] → ∀ c ∈ t.head?, c.isDigit = true) := by
  unfold dropLeadingZeros? at h
  split at h
  · obtain ⟨zs, hzs, heq⟩ := exists_of_afterZero? (Or.inl rfl) h
    cases zs with
    | nil =>
      refine ⟨[], .none, heq, fun _ c hc => ?_⟩
      rw [← show _ = t from heq] at hc
      cases hc
      rfl
    | cons c zs =>
      obtain ⟨rfl, -⟩ := List.cons.inj heq
      exact ⟨_, .zeros fun d hd => hzs d (List.mem_cons_of_mem _ hd), heq, fun hnil => nomatch hnil⟩
  · obtain ⟨hc, ht⟩ := Option.ite_none_right_eq_some.mp h
    obtain rfl := Option.some.inj ht
    exact ⟨[], .none, rfl, fun _ d hd => Option.some.inj hd ▸ hc⟩
  · cases h

theorem dropLeadingZeros?_append {zeros t : List Char} (hzeros : IsLead zeros)
    (ht : EndsZeros t) (hhead : zeros = [] → ∀ c ∈ t.head?, c.isDigit = true) :
    dropLeadingZeros? (zeros ++ t) = some t := by
  cases hzeros with
  | zeros hzs => exact afterZero?_append hzs ht '0'
  | none =>
    have hdigit := hhead rfl
    cases ht with
    | zero hfrac => exact afterZero?_of_endsZeros (.zero hfrac) '0'
    | @other c t hzero hc =>
      rw [List.nil_append, dropLeadingZeros?, if_pos (hdigit c rfl)]
      exact hzero

/-- A point and zeros, or nothing. -/
inductive IsZeroFraction : List Char → Prop
  | none : IsZeroFraction []
  | zeros {zs : List Char} (hne : zs ≠ []) (hzs : ∀ c ∈ zs, c = '0') : IsZeroFraction ('.' :: zs)

theorem dropZeroFraction_append {t frac : List Char} (ht : ∀ c ∈ t, c ≠ '.')
    (hfrac : IsZeroFraction frac) : dropZeroFraction (t ++ frac) = t := by
  have hnone : ∀ c ∈ t, (decide (c ≠ '.')) = true := by simpa using ht
  cases hfrac with
  | none =>
    have hdrop : t.dropWhile (· ≠ '.') = [] := List.dropWhile_eq_nil_iff.mpr hnone
    simp only [dropZeroFraction, List.append_nil, hdrop]
  | @zeros zs hne hzs =>
    have hdrop : (t ++ '.' :: zs).dropWhile (· ≠ '.') = '.' :: zs := by
      rw [List.dropWhile_append_of_pos hnone]
      rfl
    have htake : (t ++ '.' :: zs).takeWhile (· ≠ '.') = t := by
      rw [List.takeWhile_append_of_pos hnone]
      exact List.append_nil t
    have hall : zs ≠ [] ∧ zs.all (· = '0') = true := ⟨hne, by simpa using hzs⟩
    simp only [dropZeroFraction, hdrop, htake, if_pos hall]

theorem exists_of_dropZeroFraction (s : List Char) :
    ∃ frac, IsZeroFraction frac ∧ s = dropZeroFraction s ++ frac := by
  unfold dropZeroFraction
  split
  · exact ⟨[], .none, (List.append_nil _).symm⟩
  · rename_i c zeros hdrop
    split
    · rename_i hzeros
      have hpoint : c = '.' := by
        have hhead := List.head?_dropWhile_not (fun c : Char => decide (c ≠ '.')) s
        rw [hdrop] at hhead
        simpa using hhead
      subst hpoint
      refine ⟨_, .zeros hzeros.1 (by simpa using hzeros.2), ?_⟩
      rw [← hdrop, List.takeWhile_append_dropWhile]
    · exact ⟨[], .none, (List.append_nil _).symm⟩

/-! Spellings -/

/-- What stands before the digits of a number: a sign and leading zeros. A minus may also stand
behind the zeros, if none stands before them; then it is kept with the digits. -/
inductive IsFront : Bool → List Char → List Char → Prop
  | early {negative : Bool} {sign zeros : List Char} (hsign : IsSign negative sign)
      (hzeros : IsLead zeros) : IsFront negative (sign ++ zeros) []
  | late {sign zs : List Char} (hsign : IsSign false sign) (hzs : ∀ c ∈ zs, c = '0' ∨ c = '_') :
      IsFront true (sign ++ '0' :: zs) ['-']

/-- A text of a whole number: its digits with single underscores between them, and around them
what does not count. With the minus the digits are no more than what is read. -/
inductive SpellsInteger : Int → List Char → Prop
  | mk {w w' front minus ds t frac : List Char} {negative : Bool} (hw : Within isSpace w)
      (hw' : Within isSpace w') (hfront : IsFront negative front minus) (hds : IsWhole ds)
      (ht : Grouped (minus ++ ds) t) (hfrac : IsZeroFraction frac)
      (hsize : ds.length + negative.toNat ≤ digitLimit) :
      SpellsInteger
        (if negative then -(Nat.ofDigitChars 10 ds 0 : Int) else Nat.ofDigitChars 10 ds 0)
        (w ++ (front ++ (t ++ frac)) ++ w')

/-- The characters that a number is spelled with. -/
def IsNumberChar (c : Char) : Prop := c.isDigit = true ∨ c ∈ ['+', '-', '_', '.']

theorem isSpace_of_isNumberChar {c : Char} (hc : IsNumberChar c) : isSpace c = false := by
  rcases hc with hc | hc
  · obtain ⟨k, hk, -, rfl⟩ := exists_digitChar hc
    have hall : ∀ i : Fin 10, isSpace i.val.digitChar = false := by decide
    exact hall ⟨k, hk⟩
  · simp only [List.mem_cons, List.not_mem_nil, or_false] at hc
    rcases hc with rfl | rfl | rfl | rfl <;> rfl

theorem trimmed_of_isNumberChar {t : List Char} (h : ∀ c ∈ t, IsNumberChar c) :
    Trimmed isSpace t where
  head := fun c hc => isSpace_of_isNumberChar (h c (List.mem_of_mem_head? hc))
  last := fun c hc => isSpace_of_isNumberChar (h c (List.mem_of_getLast? hc))

theorem isNumberChar_of_mem_zeros {zs : List Char} (hzs : ∀ c ∈ zs, c = '0' ∨ c = '_') :
    ∀ c ∈ '0' :: zs, IsNumberChar c := by
  refine List.forall_mem_cons.mpr ⟨Or.inl rfl, fun c hc => ?_⟩
  rcases hzs c hc with rfl | rfl
  · exact Or.inl rfl
  · exact Or.inr (by decide)

theorem isNumberChar_of_mem_sign {negative : Bool} {sign : List Char}
    (hsign : IsSign negative sign) : ∀ c ∈ sign, IsNumberChar c := by
  cases hsign with
  | none => simp
  | plus => simp [IsNumberChar]
  | minus => simp [IsNumberChar]

section

variable {front minus ds t frac : List Char} {negative : Bool}

theorem IsFront.isNumberChar (h : IsFront negative front minus) :
    ∀ c ∈ front, IsNumberChar c := by
  cases h with
  | early hsign hzeros =>
    refine List.forall_mem_append.mpr ⟨isNumberChar_of_mem_sign hsign, ?_⟩
    cases hzeros with
    | none => simp
    | zeros hzs => exact isNumberChar_of_mem_zeros hzs
  | late hsign hzs =>
    exact List.forall_mem_append.mpr
      ⟨isNumberChar_of_mem_sign hsign, isNumberChar_of_mem_zeros hzs⟩

theorem IsFront.minus_eq (h : IsFront negative front minus) : minus = [] ∨ minus = ['-'] := by
  cases h
  · exact Or.inl rfl
  · exact Or.inr rfl

theorem IsZeroFraction.isNumberChar (h : IsZeroFraction frac) : ∀ c ∈ frac, IsNumberChar c := by
  cases h with
  | none => simp
  | zeros hne hzs =>
    refine List.forall_mem_cons.mpr ⟨Or.inr (by decide), fun c hc => ?_⟩
    rw [hzs c hc]
    exact Or.inl rfl

variable (hfront : IsFront negative front minus) (hds : IsWhole ds)
  (ht : Grouped (minus ++ ds) t)
include hfront hds ht

theorem mem_grouped {c : Char} (hc : c ∈ t) : c.isDigit = true ∨ c = '-' ∨ c = '_' := by
  rcases ht.mem hc with hc | rfl
  · rcases List.mem_append.mp hc with hc | hc
    · rcases hfront.minus_eq with rfl | rfl
      · cases hc
      · exact Or.inr (Or.inl (List.mem_singleton.mp hc))
    · exact Or.inl (hds.digits c hc)
  · exact Or.inr (Or.inr rfl)

/-- The digits end the leading zeros. -/
theorem endsZeros_grouped (hfrac : IsZeroFraction frac) : EndsZeros (t ++ frac) := by
  have hhead := ht.head?_eq
  obtain ⟨c, u, rfl⟩ := List.exists_cons_of_ne_nil ht.ne_nil
  by_cases hzero : c = '0'
  · subst hzero
    -- digits that start with a zero are nothing else, and no minus stands before them
    have hlone : minus ++ ds = ['0'] := by
      rcases hfront.minus_eq with rfl | rfl
      · rcases hds.lead with rfl | hlead
        · rfl
        · exact absurd hhead.symm hlead
      · cases hhead
    rw [ht.eq_of_length_eq_one (by rw [hlone]; rfl), hlone]
    refine .zero fun d hd => ?_
    cases hfrac with
    | none => cases hd
    | zeros => exact (Option.some.inj hd).symm
  · have hstart : c.isDigit = true ∨ c = '-' := by
      have hc : c ∈ minus ++ ds := List.mem_of_mem_head? hhead.symm
      rcases List.mem_append.mp hc with hc | hc
      · rcases hfront.minus_eq with rfl | rfl
        · cases hc
        · exact Or.inr (List.mem_singleton.mp hc)
      · exact Or.inl (hds.digits c hc)
    exact .other hzero hstart

end

/-! Reading spellings -/

/-- The sign and the zeros are dropped, and with a minus among them the digits are negative. -/
theorem IsFront.exists_split {front minus t : List Char} {negative : Bool}
    (h : IsFront negative front minus) (ht : EndsZeros t)
    (hhead : minus = [] → ∀ c ∈ t.head?, c.isDigit = true) :
    ∃ early body, splitSign (front ++ t) = (early, body) ∧ dropLeadingZeros? body = some t ∧
      ∀ ds, (if early then '-' :: (minus ++ ds) else minus ++ ds) = minusText negative ++ ds := by
  cases h with
  | @early _ sign zeros hsign hzeros =>
    have hdigit : ∀ c ∈ (zeros ++ t).head?, c.isDigit = true := by
      cases hzeros with
      | none => exact hhead rfl
      | zeros hzs => exact fun c hc => Option.some.inj hc ▸ rfl
    refine ⟨negative, zeros ++ t, ?_,
      dropLeadingZeros?_append hzeros ht fun _ => hhead rfl, fun ds => ?_⟩
    · rw [List.append_assoc, splitSign_append hsign hdigit]
    · cases negative <;> rfl
  | @late sign zs hsign hzs =>
    refine ⟨false, '0' :: (zs ++ t), ?_,
      dropLeadingZeros?_append (.zeros hzs) ht (fun hnil => nomatch hnil), fun ds => rfl⟩
    rw [List.append_assoc]
    exact splitSign_append hsign fun c hc => Option.some.inj hc ▸ rfl

theorem integerOfText_of_spellsInteger {s : List Char} {n : Int} (h : SpellsInteger n s) :
    integerOfText s = .ok n := by
  obtain ⟨hw, hw', hfront, hds, ht, hfrac, hsize⟩ := h
  rename_i w w' front minus ds t frac negative
  have hchars : ∀ c ∈ front ++ (t ++ frac), IsNumberChar c := by
    refine List.forall_mem_append.mpr ⟨hfront.isNumberChar,
      List.forall_mem_append.mpr ⟨fun c hc => ?_, hfrac.isNumberChar⟩⟩
    rcases mem_grouped hfront hds ht hc with hc | rfl | rfl
    · exact Or.inl hc
    · exact Or.inr (by decide)
    · exact Or.inr (by decide)
  have hpoint : ∀ c ∈ t, c ≠ '.' := by
    intro c hc
    rcases mem_grouped hfront hds ht hc with hc | rfl | rfl
    · exact ne_of_isDigit hc rfl
    · decide
    · decide
  have hhead : minus = [] → ∀ c ∈ (t ++ frac).head?, c.isDigit = true := by
    rintro rfl c hc
    obtain ⟨d, u, rfl⟩ := List.exists_cons_of_ne_nil ht.ne_nil
    obtain rfl := Option.some.inj hc
    exact hds.digits d (List.mem_of_mem_head? ht.head?_eq.symm)
  obtain ⟨early, body, hsplit, hdrop, hsigned⟩ :=
    hfront.exists_split (endsZeros_grouped hfront hds ht hfrac) hhead
  have hnumeral := integerOfNumeral_eq_ok_iff.mpr
    (IsNumber.whole negative hds (NumberLimit.admits_whole_iff.mpr hsize))
  simp only [integerOfText, (trimmed_of_isNumberChar hchars).trim_eq hw hw', hsplit, hdrop,
    dropZeroFraction_append hpoint hfrac, ht.dropUnderscores_eq, hsigned ds, hnumeral]

/-- The minus of a number was read first, or it stands right before the digits. -/
theorem minus_cases {early negative : Bool} {u ds : List Char} (hds : IsWhole ds)
    (h : (if early then '-' :: u else u) = minusText negative ++ ds) :
    (u = ds ∧ negative = early) ∨ (u = '-' :: ds ∧ negative = true ∧ early = false) := by
  cases early with
  | false =>
    cases negative with
    | false => exact Or.inl ⟨h, rfl⟩
    | true => exact Or.inr ⟨h, rfl, rfl⟩
  | true =>
    cases negative with
    | true => exact Or.inl ⟨(List.cons.inj h).2, rfl⟩
    | false =>
      obtain rfl : '-' :: u = ds := h
      exact absurd (hds.digits '-' List.mem_cons_self) (by decide)

theorem free_underscore_of_isWhole {ds : List Char} (hds : IsWhole ds) : Free (· = '_') ds :=
  fun _ hc => decide_eq_false (ne_of_isDigit (hds.digits _ hc) rfl)

theorem spellsInteger_of_integerOfText {s : List Char} {n : Int} (h : integerOfText s = .ok n) :
    SpellsInteger n s := by
  obtain ⟨w, w', hw, hw', hs⟩ := exists_append_trim isSpace s
  simp only [integerOfText] at h
  rcases hbody : splitSign (trim isSpace s) with ⟨early, body⟩
  obtain ⟨sign, hsign, htrim⟩ := exists_of_splitSign hbody
  simp only [hbody] at h
  split at h
  · cases h
  · rename_i rest hrest
    obtain ⟨zeros, hzeros, hparts, hhead⟩ := exists_of_dropLeadingZeros? hrest
    obtain ⟨frac, hfrac, hfraction⟩ := exists_of_dropZeroFraction rest
    obtain ⟨negative, ds, hds, hsize, hdigits, rfl⟩ :=
      exists_of_isNumber_int (integerOfNumeral_eq_ok_iff.mp h)
    have hsize := NumberLimit.admits_whole_iff.mp hsize
    have hfree := free_underscore_of_isWhole hds
    rw [hs, htrim, hparts, ← List.append_assoc sign]
    rcases minus_cases hds hdigits with ⟨hu, rfl⟩ | ⟨hu, rfl, rfl⟩
    · have hgrouped := grouped_dropUnderscores (hu ▸ hds.ne_nil) (hu ▸ hfree)
      rw [hu] at hgrouped
      rw [hfraction]
      exact .mk hw hw' (.early hsign hzeros) hds hgrouped hfrac hsize
    · have hgrouped := grouped_dropUnderscores (hu ▸ List.cons_ne_nil _ _)
        (hu ▸ hfree.cons (by decide))
      rw [hu] at hgrouped
      -- a minus before the digits stands behind zeros
      cases hzeros with
      | none =>
        have hminus : rest.head? = some '-' := by
          rw [hfraction, List.head?_append, hgrouped.head?_eq]
          rfl
        exact absurd (hhead rfl '-' hminus) (by decide)
      | zeros hzs =>
        rw [hfraction]
        exact .mk hw hw' (.late hsign hzs) hds hgrouped hfrac hsize

theorem integerOfText_eq_ok_iff {s : List Char} {n : Int} :
    integerOfText s = .ok n ↔ SpellsInteger n s :=
  ⟨spellsInteger_of_integerOfText, integerOfText_of_spellsInteger⟩

end PaymentConnector
