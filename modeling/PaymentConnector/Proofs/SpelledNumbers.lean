import PaymentConnector.Json.Printer
import PaymentConnector.Proofs.ReaderFindings

/-!
Numbers and words as they are written in JSON text. A number ends before whatever may
follow a value. So a whole number that is no longer than what is read is read back from its
text; the text of every fractional number is read as some fractional number.
-/

namespace PaymentConnector.Json

/-- What may stand after a value: the end of the text, a blank, a comma or a closing bracket. -/
def Follows (r : List Char) : Prop :=
  ∀ c ∈ r.head?, isBlank c = true ∨ c = ',' ∨ c = ']' ∨ c = '}'

/-- No part of a number stands next. -/
structure EndsNumber (r : List Char) : Prop where
  digit : ∀ c ∈ r.head?, c.isDigit = false
  point : r.head? ≠ some '.'
  mark : ∀ c ∈ r.head?, c ≠ 'e' ∧ c ≠ 'E'

theorem Follows.endsNumber {r : List Char} (h : Follows r) : EndsNumber r := by
  cases r with
  | nil => exact ⟨by simp, by simp, by simp⟩
  | cons c t =>
    have hc : c ∈ [' ', '\t', '\n', '\r', ',', ']', '}'] := by
      have hclass := h c rfl
      simpa [isBlank, or_assoc] using hclass
    have hall : ∀ c ∈ [' ', '\t', '\n', '\r', ',', ']', '}'],
        c.isDigit = false ∧ c ≠ '.' ∧ c ≠ 'e' ∧ c ≠ 'E' := by simp
    obtain ⟨hdigit, hpoint, hmark⟩ := hall c hc
    exact ⟨by simpa using hdigit, by simpa using hpoint, by simpa using hmark⟩

/-! The parts of a number -/

/-- All characters are digits. -/
def Digits (ds : List Char) : Prop := ∀ c ∈ ds, c.isDigit = true

theorem digits_nil : Digits [] := fun _ hc => absurd hc List.not_mem_nil

theorem spanDigits_append {ds t : List Char} (hds : Digits ds)
    (ht : ∀ c ∈ t.head?, c.isDigit = false) : spanDigits (ds ++ t) = (ds, t) := by
  have hstop : t.takeWhile Char.isDigit = [] ∧ t.dropWhile Char.isDigit = t := by
    cases t with
    | nil => simp
    | cons c t => simp [ht c rfl]
  rw [spanDigits, List.takeWhile_append_of_pos hds, List.dropWhile_append_of_pos hds, hstop.1,
    hstop.2, List.append_nil]

/-- Digits that start with a zero only if they are nothing else. -/
structure IsWhole (w : List Char) : Prop where
  ne_nil : w ≠ []
  digits : Digits w
  lead : w = ['0'] ∨ w.head? ≠ some '0'

theorem wholePart_append {w t : List Char} (hw : IsWhole w)
    (ht : ∀ c ∈ t.head?, c.isDigit = false) : wholePart (w ++ t) = (w, t) := by
  rcases hw.lead with rfl | hlead
  · rfl
  · rw [wholePart, spanDigits_append hw.digits ht]
    intro r heq
    obtain ⟨c, w', rfl⟩ := List.exists_cons_of_ne_nil hw.ne_nil
    obtain ⟨rfl, -⟩ := List.cons.inj heq
    exact hlead rfl

/-- The digits of a fraction after a point, or nothing. -/
def fractionText (ds : List Char) : List Char := if ds = [] then [] else '.' :: ds

theorem fraction_append {ds t : List Char} (hds : Digits ds)
    (ht : ∀ c ∈ t.head?, c.isDigit = false) (hpoint : t.head? ≠ some '.') :
    fraction (fractionText ds ++ t) = (ds, t) := by
  by_cases hnil : ds = []
  · subst hnil
    rw [fractionText, if_pos rfl, List.nil_append, fraction]
    rintro r rfl
    exact hpoint rfl
  · rw [fractionText, if_neg hnil, List.cons_append, fraction, spanDigits_append hds ht]
    simp [hnil]

/-- The text of an exponent, with its sign, or nothing. -/
inductive IsExponent : Option Int → List Char → Prop
  | absent : IsExponent none []
  | negative (ds : List Char) (hne : ds ≠ []) (hds : Digits ds) :
      IsExponent (some (-(Nat.ofDigitChars 10 ds 0 : Int))) ('e' :: '-' :: ds)
  | positive (ds : List Char) (hne : ds ≠ []) (hds : Digits ds) :
      IsExponent (some (Nat.ofDigitChars 10 ds 0 : Int)) ('e' :: '+' :: ds)

theorem exponent_append {x : Option Int} {e t : List Char} (he : IsExponent x e)
    (ht : EndsNumber t) : exponent (e ++ t) = (x, t) := by
  cases he with
  | absent =>
    cases t with
    | nil => rfl
    | cons c t =>
      obtain ⟨hlow, hup⟩ := ht.mark c rfl
      simp [exponent, hlow, hup]
  | negative ds hne hds =>
    simp [exponent, exponentSign, spanDigits_append hds ht.digit, hne]
  | positive ds hne hds =>
    simp [exponent, exponentSign, spanDigits_append hds ht.digit, hne]

/-! Whole numbers -/

/-- A whole number that has no more digits than are read. -/
def FitsDigits (n : Int) : Prop := (Nat.toDigits 10 n.natAbs).length ≤ digitLimit

instance (n : Int) : Decidable (FitsDigits n) := inferInstanceAs (Decidable (_ ≤ _))

namespace NumberLimit

/-- A whole number that is short enough where a limit holds. -/
def Takes (l : NumberLimit) (n : Int) : Prop :=
  l.length (n < 0) (Nat.toDigits 10 n.natAbs).length ≤ digitLimit

instance (l : NumberLimit) (n : Int) : Decidable (l.Takes n) :=
  inferInstanceAs (Decidable (_ ≤ _))

/-- A number before its fraction or exponent that is short enough. -/
def Admits (l : NumberLimit) (negative isWhole : Bool) (w : List Char) : Prop :=
  l.isExceeded negative isWhole w.length = false

theorem digits_le_length (l : NumberLimit) (negative : Bool) (k : Nat) :
    k ≤ l.length negative k := by
  cases l with
  | digits => exact Nat.le_refl k
  | characters => exact Nat.le_add_right k _

theorem length_le_succ (l : NumberLimit) (negative : Bool) (k : Nat) :
    l.length negative k ≤ k + 1 := by
  cases l with
  | digits => exact Nat.le_succ k
  | characters => exact Nat.add_le_add_left (Bool.toNat_le negative) k

theorem length_le_of_le {l : NumberLimit} {negative negative' : Bool} {k k' : Nat}
    (hsign : negative ≤ negative') (hk : k ≤ k') : l.length negative k ≤ l.length negative' k' := by
  cases l with
  | digits => exact hk
  | characters =>
    have hcount : negative.toNat ≤ negative'.toNat := by
      cases negative with
      | false => exact Nat.zero_le _
      | true => exact Nat.le_of_eq (congrArg Bool.toNat (hsign rfl).symm)
    exact Nat.add_le_add hk hcount

theorem admits_whole_iff {l : NumberLimit} {negative : Bool} {w : List Char} :
    l.Admits negative true w ↔ l.length negative w.length ≤ digitLimit := by
  simp [Admits, isExceeded]

theorem admits_of_short {w : List Char} (h : w.length < digitLimit) (l : NumberLimit)
    (negative isWhole : Bool) : l.Admits negative isWhole w := by
  have hle := l.length_le_succ negative w.length
  have hshort : ¬ digitLimit < l.length negative w.length := by omega
  simp [Admits, isExceeded, hshort]

/-- The minus of a number counts as one of its characters. -/
theorem takes_neg_iff {k : Nat} (hk : 0 < k) :
    characters.Takes (-(k : Int)) ↔ (Nat.toDigits 10 k).length < digitLimit := by
  have hsign : decide (-(k : Int) < 0) = true := decide_eq_true (by omega)
  rw [Takes, hsign, Int.natAbs_neg, Int.natAbs_natCast]
  exact Iff.rfl

theorem Takes.fitsDigits {l : NumberLimit} {n : Int} (h : l.Takes n) : FitsDigits n :=
  Nat.le_trans (l.digits_le_length _ _) h

end NumberLimit

theorem exists_digitChar {c : Char} (hc : c.isDigit = true) :
    ∃ k, k < 10 ∧ c.toNat - '0'.toNat = k ∧ k.digitChar = c := by
  simp only [Char.isDigit, Bool.and_eq_true, decide_eq_true_eq] at hc
  have hle : '0'.toNat ≤ c.toNat := UInt32.le_iff_toNat_le.mp hc.1
  have hge : c.toNat ≤ '9'.toNat := UInt32.le_iff_toNat_le.mp hc.2
  have hzero : '0'.toNat = 48 := rfl
  have hnine : '9'.toNat = 57 := rfl
  obtain ⟨k, hk⟩ : ∃ k, c.toNat = k + 48 := ⟨c.toNat - 48, by omega⟩
  have hall : ∀ i : Fin 10, Char.ofNat (i.val + 48) = i.val.digitChar := by decide
  refine ⟨k, by omega, by omega, ?_⟩
  rw [← hall ⟨k, by omega⟩, ← hk, Char.ofNat_toNat]

theorem digits_toDigits (n : Nat) : Digits (Nat.toDigits 10 n) := by
  intro c hc
  exact Nat.isDigit_of_mem_toDigits (by omega) (by omega) hc

theorem head?_toDigits {n : Nat} (hn : 0 < n) : (Nat.toDigits 10 n).head? ≠ some '0' := by
  induction n using Nat.strongRecOn with
  | ind n ih =>
    by_cases hlt : n < 10
    · have hall : ∀ i : Fin 10, 0 < i.val → i.val.digitChar ≠ '0' := by decide
      simpa [Nat.toDigits_of_lt_base hlt] using hall ⟨n, hlt⟩ hn
    · have hrest := ih (n / 10) (by omega) (by omega)
      obtain ⟨c, t, hct⟩ := List.exists_cons_of_ne_nil (Nat.toDigits_ne_nil (n := n / 10) (b := 10))
      rw [hct] at hrest
      rw [Nat.toDigits_of_base_le (by omega) (Nat.not_lt.mp hlt), hct]
      exact hrest

theorem isWhole_toDigits (n : Nat) : IsWhole (Nat.toDigits 10 n) where
  ne_nil := Nat.toDigits_ne_nil
  digits := digits_toDigits n
  lead := by
    rcases Nat.eq_zero_or_pos n with rfl | hn
    · exact Or.inl rfl
    · exact Or.inr (head?_toDigits hn)

theorem unsignedFinding_whole {l : NumberLimit} {negative : Bool} {w r : List Char}
    (hw : IsWhole w) (hl : l.Admits negative true w) (hr : EndsNumber r) :
    unsignedFinding l negative (w ++ r) =
      .ok (.int (if negative then -(Nat.ofDigitChars 10 w 0 : Int)
        else Nat.ofDigitChars 10 w 0), r) := by
  have hexponent := exponent_append .absent hr
  have hfraction := fraction_append digits_nil hr.digit hr.point
  rw [List.nil_append] at hexponent
  rw [fractionText, if_pos rfl, List.nil_append] at hfraction
  have hadmits : l.isExceeded negative true w.length = false := hl
  simp only [unsignedFinding, wholePart_append hw hr.digit, hfraction, hexponent, hw.ne_nil,
    List.isEmpty_nil, Option.isNone_none, Bool.and_self, hadmits, if_true, if_false,
    Bool.false_eq_true]

theorem unsignedFinding_overlong {l : NumberLimit} {negative : Bool} {w r : List Char}
    (hw : IsWhole w) (hl : ¬ l.Admits negative true w) (hr : EndsNumber r) :
    unsignedFinding l negative (w ++ r) = .error (.tooManyDigits w.length) := by
  have hexponent := exponent_append .absent hr
  have hfraction := fraction_append digits_nil hr.digit hr.point
  rw [List.nil_append] at hexponent
  rw [fractionText, if_pos rfl, List.nil_append] at hfraction
  have hexceeded : l.isExceeded negative true w.length = true := eq_true_of_ne_false hl
  simp only [unsignedFinding, wholePart_append hw hr.digit, hfraction, hexponent, hw.ne_nil,
    List.isEmpty_nil, Option.isNone_none, Bool.and_self, hexceeded, if_true, if_false]

theorem unsignedFinding_toDigits {l : NumberLimit} {negative : Bool} {n : Nat} {r : List Char}
    (hn : l.length negative (Nat.toDigits 10 n).length ≤ digitLimit) (hr : EndsNumber r) :
    unsignedFinding l negative (Nat.toDigits 10 n ++ r) =
      .ok (.int (if negative then -(n : Int) else n), r) := by
  rw [unsignedFinding_whole (isWhole_toDigits n) (NumberLimit.admits_whole_iff.mpr hn) hr,
    Nat.ofDigitChars_toDigits (b := 10) (by omega) (by omega)]

/-! Fractional numbers -/

/-- The text of a number of digits times a power of ten: a whole part that is short, with a
fraction or an exponent, or with both. -/
inductive IsDecimal : Nat → Int → List Char → Prop
  | mk (w ds e : List Char) (x : Option Int) (hw : IsWhole w) (hshort : w.length < digitLimit)
      (hds : Digits ds) (he : IsExponent x e) (hne : ds ≠ [] ∨ x ≠ none) :
      IsDecimal (Nat.ofDigitChars 10 (w ++ ds) 0) (x.getD 0 - ds.length)
        (w ++ fractionText ds ++ e)

/-- A number with a fraction or an exponent, if it is short enough before them. -/
theorem unsignedFinding_parts {l : NumberLimit} {negative : Bool} {w ds t r : List Char}
    {x : Option Int} (hw : IsWhole w) (hds : Digits ds) (hl : l.Admits negative false w)
    (hdigit : ∀ c ∈ t.head?, c.isDigit = false) (hpoint : t.head? ≠ some '.')
    (hexponent : exponent t = (x, r)) (hne : ds ≠ [] ∨ x ≠ none) :
    unsignedFinding l negative (w ++ (fractionText ds ++ t)) =
      .ok (.float (.ofDecimal negative (Nat.ofDigitChars 10 (w ++ ds) 0)
        (x.getD 0 - ds.length)), r) := by
  have hfraction := fraction_append hds hdigit hpoint
  have hafter : ∀ c ∈ (fractionText ds ++ t).head?, c.isDigit = false := by
    unfold fractionText
    split
    · exact hdigit
    · simp
  have hparts : (ds.isEmpty && x.isNone) = false := by
    rcases hne with hds | hx
    · simp [hds]
    · cases x with
      | none => exact absurd rfl hx
      | some p => simp
  have hadmits : l.isExceeded negative false w.length = false := hl
  simp only [unsignedFinding, wholePart_append hw hafter, hfraction, hexponent, hw.ne_nil, hparts,
    hadmits, if_false, Bool.false_eq_true]

theorem unsignedFinding_decimal (l : NumberLimit) (negative : Bool) {n : Nat} {p : Int}
    {t r : List Char} (ht : IsDecimal n p t) (hr : EndsNumber r) :
    unsignedFinding l negative (t ++ r) = .ok (.float (.ofDecimal negative n p), r) := by
  obtain ⟨w, ds, e, x, hw, hshort, hds, he, hne⟩ := ht
  have hhead : (∀ c ∈ (e ++ r).head?, c.isDigit = false) ∧ (e ++ r).head? ≠ some '.' := by
    cases he with
    | absent => exact ⟨hr.digit, hr.point⟩
    | negative ds hne hds => simp
    | positive ds hne hds => simp
  rw [List.append_assoc, List.append_assoc]
  exact unsignedFinding_parts hw hds (NumberLimit.admits_of_short hshort l negative false) hhead.1
    hhead.2 (exponent_append he hr) hne

theorem isWhole_singleton {c : Char} (hc : c.isDigit = true) : IsWhole [c] where
  ne_nil := by simp
  digits := by simpa [Digits] using hc
  lead := by
    by_cases hzero : c = '0'
    · exact Or.inl (by rw [hzero])
    · exact Or.inr (by simpa using hzero)

theorem Digits.append {ds es : List Char} (hds : Digits ds) (hes : Digits es) :
    Digits (ds ++ es) := by
  intro c hc
  exact (List.mem_append.mp hc).elim (hds c) (hes c)

theorem digits_zeros (k : Nat) : Digits (List.replicate k '0') := by
  intro c hc
  rw [List.eq_of_mem_replicate hc]
  rfl

/-- The sign and the size of a power of ten, in at least two digits. -/
theorem exists_isExponent (lead : Int) : ∃ x, x ≠ none ∧
    IsExponent x ('e' :: (if lead < 0 then '-' else '+') ::
      if (Nat.toDigits 10 lead.natAbs).length < 2 then '0' :: Nat.toDigits 10 lead.natAbs
      else Nat.toDigits 10 lead.natAbs) := by
  have hsize : ∃ ds, ds ≠ [] ∧ Digits ds ∧ ds =
      if (Nat.toDigits 10 lead.natAbs).length < 2 then '0' :: Nat.toDigits 10 lead.natAbs
      else Nat.toDigits 10 lead.natAbs := by
    split
    · exact ⟨_, by simp, (digits_zeros 1).append (digits_toDigits _), rfl⟩
    · exact ⟨_, Nat.toDigits_ne_nil, digits_toDigits _, rfl⟩
  obtain ⟨ds, hne, hds, hsize⟩ := hsize
  rw [← hsize]
  split
  · exact ⟨_, by simp, .negative ds hne hds⟩
  · exact ⟨_, by simp, .positive ds hne hds⟩

theorem IsDecimal.exists_of_eq {n : Nat} {p : Int} {t t' : List Char} (h : IsDecimal n p t)
    (ht : t' = t) : ∃ n p, IsDecimal n p t' := ⟨n, p, ht ▸ h⟩

theorem exists_isDecimal_layout {digits : Nat} (hdigits : 0 < digits) (exponent : Int) :
    ∃ n p, IsDecimal n p (Binary64.layout digits exponent).toList := by
  obtain ⟨d, rest, hds⟩ := List.exists_cons_of_ne_nil (Nat.toDigits_ne_nil (n := digits) (b := 10))
  have hall : Digits (d :: rest) := hds ▸ digits_toDigits digits
  have hhead : d ≠ '0' := by simpa [hds] using head?_toDigits hdigits
  have hd : d.isDigit = true := hall d List.mem_cons_self
  have hrest : Digits rest := fun c hc => hall c (List.mem_cons_of_mem d hc)
  have hlimit : 16 < digitLimit := by decide
  have hone {c : Char} : [c].length < digitLimit := by
    rw [List.length_singleton]
    omega
  simp only [Binary64.layout, hds]
  split
  · -- one digit before the point, and an exponent
    obtain ⟨x, hx, hexponent⟩ := exists_isExponent (exponent + ((d :: rest).length : Int) - 1)
    have hdecimal :=
      IsDecimal.mk [d] rest _ x (isWhole_singleton hd) hone hrest hexponent (Or.inr hx)
    apply hdecimal.exists_of_eq
    cases rest with
    | nil => simp [fractionText]
    | cons d' rest => simp [fractionText]
  split
  · -- a zero before the point
    have hdecimal := IsDecimal.mk ['0'] _ [] none (isWhole_singleton rfl) hone
      ((digits_zeros (-(exponent + ((d :: rest).length : Int) - 1) - 1).toNat).append hall)
      .absent (Or.inl (by simp))
    exact hdecimal.exists_of_eq (by simp [fractionText])
  split
  · -- zeros up to the point
    have hwhole : IsWhole (d :: rest ++ List.replicate exponent.toNat '0') :=
      ⟨by simp, hall.append (digits_zeros _), Or.inr (by simpa using hhead)⟩
    have hshort : (d :: rest ++ List.replicate exponent.toNat '0').length < digitLimit := by
      rw [List.length_append, List.length_replicate]
      omega
    have hdecimal := IsDecimal.mk _ ['0'] [] none hwhole hshort (digits_zeros 1) .absent
      (Or.inl (by simp))
    exact hdecimal.exists_of_eq (by simp [fractionText])
  · -- the point between the digits
    obtain ⟨k, hk⟩ : ∃ k, (exponent + ((d :: rest).length : Int) - 1 + 1).toNat = k + 1 :=
      ⟨(exponent + ((d :: rest).length : Int) - 1).toNat, by omega⟩
    have hlt : k + 1 < (d :: rest).length := by omega
    rw [hk]
    have hwhole : IsWhole ((d :: rest).take (k + 1)) :=
      ⟨by simp, fun c hc => hall c (List.mem_of_mem_take hc), Or.inr (by simpa using hhead)⟩
    have hdrop : (d :: rest).drop (k + 1) ≠ [] := by
      intro hnil
      have hlength := congrArg List.length hnil
      rw [List.length_drop, List.length_nil] at hlength
      omega
    have hshort : ((d :: rest).take (k + 1)).length < digitLimit := by
      rw [List.length_take]
      omega
    have hdecimal := IsDecimal.mk _ ((d :: rest).drop (k + 1)) [] none hwhole hshort
      (fun c hc => hall c (List.mem_of_mem_drop hc)) .absent (Or.inl hdrop)
    rw [fractionText, if_neg hdrop] at hdecimal
    exact hdecimal.exists_of_eq (by simp)

theorem stripZeros_pos {digits : Nat} (h : 0 < digits) (exponent : Int) :
    0 < (Binary64.stripZeros digits exponent).1 := by
  fun_induction Binary64.stripZeros digits exponent with
  | case1 digits exponent hzero ih => exact ih (by omega)
  | case2 digits exponent hzero => exact h

theorem shortest_pos {m : Nat} (hm : 0 < m) (e : Int) : 0 < (Binary64.shortest m e).1 := by
  unfold Binary64.shortest
  extract_lets num den k hit
  cases hhit : hit with
  | some found =>
    obtain ⟨d, step⟩ := found
    apply stripZeros_pos
    obtain ⟨i, -, hi⟩ := List.exists_of_findSome?_eq_some hhit
    obtain ⟨d', hd', heq⟩ := Option.map_eq_some_iff.mp hi
    have hfound := List.find?_some hd'
    have hvalue := of_decide_eq_true hfound
    obtain rfl : d' = d := congrArg Prod.fst heq
    -- no digits at all stand for zero, which is not the number that is written
    refine Nat.pos_of_ne_zero fun hzero => ?_
    rw [hzero, Binary64.ofDecimal, if_pos rfl, Binary64.finite.injEq] at hvalue
    omega
  | none =>
    have hnum : 0 < m * Nat.pow 2 e.toNat := Nat.mul_pos hm (Nat.pow_pos (by omega))
    exact Nat.mul_pos hnum (Nat.pow_pos (by omega))

/-- A finite number is written as a decimal, behind a minus if it is negative. -/
theorem exists_isDecimal_floatText (negative : Bool) (m : Nat) (e : Int) :
    ∃ n p t, IsDecimal n p t ∧
      floatText (.finite negative m e) = (if negative then '-' :: t else t) := by
  have hdigits (hm : 0 < m) := shortest_pos hm e
  simp only [floatText, Binary64.text]
  generalize Binary64.shortest m e = found at hdigits ⊢
  have hbody : ∃ n p, IsDecimal n p
      (if m = 0 then "0.0" else Binary64.layout found.1 found.2).toList := by
    split
    · exact ⟨_, _, IsDecimal.mk ['0'] ['0'] [] none (isWhole_singleton rfl) (by decide)
        (digits_zeros 1) .absent (Or.inl (by simp))⟩
    · rename_i hm
      exact exists_isDecimal_layout (hdigits (Nat.pos_of_ne_zero hm)) found.2
  obtain ⟨n, p, ht⟩ := hbody
  refine ⟨n, p, _, ht, ?_⟩
  cases negative with
  | false => simp
  | true => simp

/-! Scalars -/

theorem ne_of_isDigit {c c' : Char} (hc : c.isDigit = true) (hc' : c'.isDigit = false) :
    c ≠ c' := by
  rintro rfl
  rw [hc] at hc'
  exact absurd hc' (by simp)

/-- A word starts with no digit, and with no minus before a digit. -/
theorem exists_word_start {e : String × Json} (he : e ∈ words) :
    ∃ a b t, e.1.toList = a :: b :: t ∧ a.isDigit = false ∧ (a = '-' → b.isDigit = false) := by
  simp only [words, List.mem_cons, List.not_mem_nil, or_false] at he
  rcases he with rfl | rfl | rfl | rfl | rfl | rfl <;>
    exact ⟨_, _, _, rfl, by decide, by decide⟩

theorem word?_eq_none {s : List Char} (h : ∀ e ∈ words, e.1.toList.isPrefixOf s = false) :
    word? s = none := by
  apply List.findSome?_eq_none_iff.mpr
  intro e he
  simp [h e he]

theorem word?_digit {c : Char} {r : List Char} (hc : c.isDigit = true) :
    word? (c :: r) = none := by
  apply word?_eq_none
  intro e he
  obtain ⟨a, b, t, hword, ha, -⟩ := exists_word_start he
  have hne : (a == c) = false := beq_false_of_ne (ne_of_isDigit hc ha).symm
  rw [hword, List.isPrefixOf, hne, Bool.false_and]

theorem word?_minus {c : Char} {r : List Char} (hc : c.isDigit = true) :
    word? ('-' :: c :: r) = none := by
  apply word?_eq_none
  intro e he
  obtain ⟨a, b, t, hword, -, hb⟩ := exists_word_start he
  rw [hword, List.isPrefixOf, List.isPrefixOf]
  by_cases ha : a = '-'
  · have hne : (b == c) = false := beq_false_of_ne (ne_of_isDigit hc (hb ha)).symm
    rw [hne, Bool.false_and, Bool.and_false]
  · rw [beq_false_of_ne ha, Bool.false_and]

theorem finding_scalar_digits (l : NumberLimit) {ds t r : List Char} (hds : Digits ds)
    (hne : ds ≠ []) (ht : t = ds ++ r) : (scalar l t).finding = unsignedFinding l false t := by
  obtain ⟨c, ds, rfl⟩ := List.exists_cons_of_ne_nil hne
  have hc : c.isDigit = true := hds c List.mem_cons_self
  have hminus : c ≠ '-' := ne_of_isDigit hc rfl
  rw [ht, finding_scalar, List.cons_append, word?_digit hc]
  exact finding_number l (by simpa using hminus)

theorem finding_scalar_minus (l : NumberLimit) {ds t r : List Char} (hds : Digits ds)
    (hne : ds ≠ []) (ht : t = ds ++ r) : (scalar l ('-' :: t)).finding = unsignedFinding l true t := by
  obtain ⟨c, ds, rfl⟩ := List.exists_cons_of_ne_nil hne
  have hc : c.isDigit = true := hds c List.mem_cons_self
  rw [ht, finding_scalar, List.cons_append, word?_minus hc]
  exact finding_number_minus l _

theorem finding_scalar_intText {l : NumberLimit} {n : Int} {r : List Char} (hn : l.Takes n)
    (hr : Follows r) : (scalar l (intText n ++ r)).finding = .ok (.int n, r) := by
  have hne := Nat.toDigits_ne_nil (n := n.natAbs) (b := 10)
  rw [NumberLimit.Takes] at hn
  by_cases hnegative : n < 0
  · have hvalue : -(n.natAbs : Int) = n := by omega
    rw [decide_eq_true hnegative] at hn
    rw [intText, if_pos hnegative, List.cons_append,
      finding_scalar_minus l (digits_toDigits _) hne rfl,
      unsignedFinding_toDigits hn hr.endsNumber, if_pos rfl, hvalue]
  · have hvalue : (n.natAbs : Int) = n := by omega
    rw [decide_eq_false hnegative] at hn
    rw [intText, if_neg hnegative, finding_scalar_digits l (digits_toDigits _) hne rfl,
      unsignedFinding_toDigits hn hr.endsNumber]
    simp [hvalue]

theorem finding_scalar_decimal (l : NumberLimit) {n : Nat} {p : Int} {t r : List Char}
    (ht : IsDecimal n p t) (hr : Follows r) :
    (scalar l (t ++ r)).finding = .ok (.float (.ofDecimal false n p), r) ∧
      (scalar l ('-' :: t ++ r)).finding = .ok (.float (.ofDecimal true n p), r) := by
  have hplain := unsignedFinding_decimal l false ht hr.endsNumber
  have hminus := unsignedFinding_decimal l true ht hr.endsNumber
  obtain ⟨w, ds, e, x, hw, hshort, hds, he, hne⟩ := ht
  have htext : w ++ fractionText ds ++ e ++ r = w ++ (fractionText ds ++ e ++ r) := by simp
  constructor
  · rw [finding_scalar_digits l hw.digits hw.ne_nil htext, hplain]
  · rw [List.cons_append, finding_scalar_minus l hw.digits hw.ne_nil htext, hminus]

/-- A value that is written as a word, with the word. -/
def IsWord (j : Json) (t : List Char) : Prop := ∃ w, (w, j) ∈ words ∧ t = w.toList

theorem finding_scalar_word (l : NumberLimit) {j : Json} {t : List Char} (h : IsWord j t)
    (r : List Char) : (scalar l (t ++ r)).finding = .ok (j, r) := by
  obtain ⟨w, hw, rfl⟩ := h
  have hword : word? (w.toList ++ r) = some (j, r) := by
    simp only [words, List.mem_cons, Prod.mk.injEq, List.not_mem_nil, or_false] at hw
    rcases hw with
      ⟨rfl, rfl⟩ | ⟨rfl, rfl⟩ | ⟨rfl, rfl⟩ | ⟨rfl, rfl⟩ | ⟨rfl, rfl⟩ | ⟨rfl, rfl⟩ <;> rfl
  rw [finding_scalar, hword]

end PaymentConnector.Json
