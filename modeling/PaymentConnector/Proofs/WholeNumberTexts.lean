import Mathlib.Algebra.Group.Nat.Defs
import PaymentConnector.Proofs.SpelledIntegers

/-!
Whole numbers, their numerals and the values that denote them. A whole number has one numeral,
from which the number is recovered. A value denotes a number if it is the number, a truth value,
a fractional number without a fraction or a text that spells the number.
-/

namespace PaymentConnector

open Json Text

/-! Numerals -/

/-- Digits that come after those of a positive number. -/
theorem toDigits_append {n : Nat} (hn : 0 < n) {ds : List Char} (hds : Digits ds) :
    Nat.toDigits 10 n ++ ds = Nat.toDigits 10 (Nat.ofDigitChars 10 ds n) := by
  induction ds generalizing n with
  | nil => rw [List.append_nil, Nat.ofDigitChars_nil]
  | cons c ds ih =>
    obtain ⟨hc, hrest⟩ := List.forall_mem_cons.mp hds
    obtain ⟨k, hk, hvalue, hchar⟩ := exists_digitChar hc
    have hnext : Nat.toDigits 10 n ++ [c] = Nat.toDigits 10 (10 * n + k) := by
      rw [← hchar, ← Nat.toDigits_of_lt_base (b := 10) hk,
        Nat.toDigits_append_toDigits (by omega) hn hk]
    calc
      Nat.toDigits 10 n ++ c :: ds = (Nat.toDigits 10 n ++ [c]) ++ ds := by simp
      _ = Nat.toDigits 10 (Nat.ofDigitChars 10 ds (10 * n + k)) := by
        rw [hnext, ih (by omega) hrest]
      _ = Nat.toDigits 10 (Nat.ofDigitChars 10 (c :: ds) n) := by
        rw [Nat.ofDigitChars_cons, hvalue]

/-- Digits without a leading zero are the digits of the number that they stand for. -/
theorem toDigits_ofDigitChars {w : List Char} (hw : IsWhole w) :
    Nat.toDigits 10 (Nat.ofDigitChars 10 w 0) = w := by
  rcases hw.lead with rfl | hlead
  · rfl
  · obtain ⟨c, ds, rfl⟩ := List.exists_cons_of_ne_nil hw.ne_nil
    obtain ⟨hc, hds⟩ := List.forall_mem_cons.mp hw.digits
    obtain ⟨k, hk, hvalue, hchar⟩ := exists_digitChar hc
    have hpos : 0 < k := by
      refine Nat.pos_of_ne_zero fun hzero => hlead ?_
      rw [List.head?_cons, ← hchar, hzero]
      rfl
    rw [Nat.ofDigitChars_cons, hvalue, Nat.mul_zero, Nat.zero_add, ← toDigits_append hpos hds,
      Nat.toDigits_of_lt_base hk, hchar]
    rfl

/-- The numeral of a whole number: digits without a leading zero, behind a minus if the number
is negative. -/
inductive IsNumeral : Int → List Char → Prop
  | natural {w : List Char} (hw : IsWhole w) : IsNumeral (Nat.ofDigitChars 10 w 0 : Nat) w
  | negative {w : List Char} (hw : IsWhole w) (hzero : w ≠ ['0']) :
      IsNumeral (-(Nat.ofDigitChars 10 w 0 : Nat)) ('-' :: w)

theorem ofDigitChars_pos {w : List Char} (hw : IsWhole w) (hzero : w ≠ ['0']) :
    0 < Nat.ofDigitChars 10 w 0 := by
  refine Nat.pos_of_ne_zero fun hvalue => ?_
  have hdigits := toDigits_ofDigitChars hw
  rw [hvalue] at hdigits
  exact hzero hdigits.symm

theorem isNumeral_intText (n : Int) : IsNumeral n (intText n) := by
  have hwhole := isWhole_toDigits n.natAbs
  have hvalue : Nat.ofDigitChars 10 (Nat.toDigits 10 n.natAbs) 0 = n.natAbs :=
    Nat.ofDigitChars_toDigits (by omega) (by omega)
  unfold intText
  split
  · rename_i hnegative
    have hzero : Nat.toDigits 10 n.natAbs ≠ ['0'] := by
      intro h
      have hhead := head?_toDigits (show 0 < n.natAbs by omega)
      simp [h] at hhead
    have hnumeral := IsNumeral.negative hwhole hzero
    rwa [hvalue, show -((n.natAbs : Nat) : Int) = n by omega] at hnumeral
  · have hnumeral := IsNumeral.natural hwhole
    rwa [hvalue, show ((n.natAbs : Nat) : Int) = n by omega] at hnumeral

/-- A whole number has one numeral. -/
theorem isNumeral_iff {n : Int} {t : List Char} : IsNumeral n t ↔ t = intText n := by
  constructor
  · intro h
    cases h with
    | @natural w hw =>
      rw [intText, if_neg (by omega), Int.natAbs_natCast, toDigits_ofDigitChars hw]
    | @negative w hw hzero =>
      have hpos := ofDigitChars_pos hw hzero
      rw [intText, if_pos (by omega), Int.natAbs_neg, Int.natAbs_natCast, toDigits_ofDigitChars hw]
  · rintro rfl
    exact isNumeral_intText n

/-- A numeral is that of one whole number. -/
theorem IsNumeral.eq {n m : Int} {t : List Char} (h : IsNumeral n t) (h' : IsNumeral m t) :
    n = m := by
  have hminus {w : List Char} (hw : IsWhole ('-' :: w)) : False := by
    have hdigit := hw.digits '-' List.mem_cons_self
    exact absurd hdigit (by decide)
  cases h with
  | natural hw =>
    cases h' with
    | natural => rfl
    | negative => exact (hminus hw).elim
  | negative hw =>
    cases h' with
    | natural hw' => exact (hminus hw').elim
    | negative => rfl

/-! Values -/

/-- A value that denotes a whole number: the number itself, a truth value, a finite fractional
number of that value, or a text of the number. A finite fractional number is
`m * 2 ^ e`, and one that counts as whole is below `2 ^ 63`. -/
inductive Json.Denotes : Json → Int → Prop
  | int (n : Int) : Denotes (.int n) n
  | bool (b : Bool) : Denotes (.bool b) (if b then 1 else 0)
  | float {negative : Bool} {m k : Nat} {e : Int} (hvalue : k * 2 ^ (-e).toNat = m * 2 ^ e.toNat)
      (hsize : k < 2 ^ 63) :
      Denotes (.float (.finite negative m e)) (if negative then -(k : Int) else k)
  | text {s : String} {n : Int} (h : SpellsInteger n s.toList) : Denotes (.str s) n

theorem Binary64.toInt?_finite_eq_some_iff {negative : Bool} {m : Nat} {e n : Int} :
    (finite negative m e).toInt? = some n ↔
      ∃ k : Nat, k * 2 ^ (-e).toNat = m * 2 ^ e.toNat ∧
        n = if negative then -(k : Int) else k := by
  have hpos : 0 < 2 ^ (-e).toNat := Nat.pow_pos (by omega)
  -- only one of the two powers counts: the other one is that of zero
  have hone : 2 ^ (-e).toNat = 1 ∨ 2 ^ e.toNat = 1 := by
    rcases Int.le_total 0 e with he | he
    · exact Or.inl (by rw [show (-e).toNat = 0 by omega, Nat.pow_zero])
    · exact Or.inr (by rw [show e.toNat = 0 by omega, Nat.pow_zero])
  have hvalue (hwhole : m % 2 ^ (-e).toNat = 0) (k : Nat) :
      k * 2 ^ (-e).toNat = m * 2 ^ e.toNat ↔ k = m / 2 ^ (-e).toNat * 2 ^ e.toNat := by
    obtain ⟨q, rfl⟩ := Nat.dvd_of_mod_eq_zero hwhole
    rw [Nat.mul_div_cancel_left q hpos, Nat.mul_comm _ q, Nat.mul_right_comm]
    exact Nat.mul_left_inj (by omega)
  simp only [toInt?, Nat.pow_eq]
  by_cases hwhole : m % 2 ^ (-e).toNat = 0
  · simp only [hwhole, if_true, Option.some.injEq, hvalue hwhole, exists_eq_left]
    exact eq_comm
  · simp only [hwhole, if_false, reduceCtorEq, false_iff]
    rintro ⟨k, hk, -⟩
    rcases hone with hone | hone
    · exact hwhole (by rw [hone, Nat.mod_one])
    · rw [hone, Nat.mul_one] at hk
      exact hwhole (by rw [← hk, Nat.mul_mod_left])

theorem integerOfFloat_eq_ok_iff {x : Binary64} {n : Int} :
    integerOfFloat x = .ok n ↔ (Json.float x).Denotes n := by
  cases x with
  | finite negative m e =>
    have hbound : floatIntegerBound = 2 ^ 63 := rfl
    constructor
    · intro h
      simp only [integerOfFloat] at h
      split at h
      · exact absurd h (by simp)
      · rename_i n' hn'
        split at h
        · rename_i hsize
          obtain rfl := Except.ok.inj h
          obtain ⟨k, hk, rfl⟩ := Binary64.toInt?_finite_eq_some_iff.mp hn'
          refine .float hk ?_
          rw [hbound] at hsize
          split at hsize <;> omega
        · exact absurd h (by simp)
    · intro h
      cases h with
      | @float _ _ k _ hvalue hsize =>
        have hn : (Binary64.finite negative m e).toInt? =
            some (if negative then -(k : Int) else k) :=
          Binary64.toInt?_finite_eq_some_iff.mpr ⟨k, hvalue, rfl⟩
        have hsize' : (if negative then -(k : Int) else k).natAbs < floatIntegerBound := by
          rw [hbound]
          split <;> omega
        simp only [integerOfFloat, hn, hsize', if_true]
  | _ =>
    simp only [integerOfFloat, reduceCtorEq, false_iff]
    rintro ⟨⟩

/-- What is taken for a whole number is what denotes it. -/
theorem toInteger_eq_ok_iff {j : Json} {n : Int} : toInteger j = .ok n ↔ j.Denotes n := by
  cases j with
  | int m =>
    simp only [toInteger, Except.ok.injEq]
    constructor
    · rintro rfl
      exact .int m
    · rintro ⟨⟩
      rfl
  | bool b =>
    simp only [toInteger, Except.ok.injEq]
    constructor
    · rintro rfl
      exact .bool b
    · rintro ⟨⟩
      rfl
  | float x => exact integerOfFloat_eq_ok_iff
  | str s =>
    simp only [toInteger, integerOfText_eq_ok_iff]
    constructor
    · exact .text
    · intro h
      cases h with
      | text h => exact h
  | _ =>
    simp only [toInteger, reduceCtorEq, false_iff]
    rintro ⟨⟩

theorem readInteger_eq_ok_iff {j : Json} {n : Int} : readInteger j = .ok n ↔ j.Denotes n := by
  rw [← toInteger_eq_ok_iff, readInteger]
  cases toInteger j <;> simp [Checked.fail]

theorem readNatural_eq_ok_iff {j : Json} {n : Nat} : readNatural j = .ok n ↔ j.Denotes n := by
  rw [← toInteger_eq_ok_iff, readNatural]
  cases toInteger j with
  | error cause => simp [Checked.fail]
  | ok m =>
    cases m with
    | ofNat k =>
      simp only [Checked.ok.injEq, Except.ok.injEq, Int.ofNat_eq_natCast]
      exact Int.ofNat_inj.symm
    | negSucc k => simp [Checked.fail]

/-- A value denotes one whole number. -/
theorem Json.Denotes.eq {j : Json} {n m : Int} (h : j.Denotes n) (h' : j.Denotes m) : n = m :=
  Except.ok.inj ((toInteger_eq_ok_iff.mpr h).symm.trans (toInteger_eq_ok_iff.mpr h'))

/-- The numeral of a number that is short enough with its minus denotes the number. -/
theorem IsNumeral.denotes {n : Int} {t : List Char} (h : IsNumeral n t)
    (hn : NumberLimit.characters.Takes n) : (Json.str (String.ofList t)).Denotes n := by
  have hspells {w sign : List Char} {negative : Bool} (hw : IsWhole w)
      (hsign : IsSign negative sign) (hsize : w.length + negative.toNat ≤ digitLimit) :
      SpellsInteger
        (if negative then -(Nat.ofDigitChars 10 w 0 : Int) else Nat.ofDigitChars 10 w 0)
        (sign ++ w) := by
    have hnone : Within isSpace [] := by simp [Within]
    have hgrouped : Grouped ([] ++ w) w :=
      grouped_self hw.ne_nil (free_underscore_of_isWhole hw)
    have hspelling := SpellsInteger.mk hnone hnone (.early hsign .none) hw hgrouped .none hsize
    simpa using hspelling
  apply Json.Denotes.text
  rw [String.toList_ofList]
  cases h with
  | natural hw =>
    rw [NumberLimit.Takes, Int.natAbs_natCast, toDigits_ofDigitChars hw] at hn
    exact hspells hw .none (Nat.le_trans (Nat.le_add_right _ _) hn)
  | negative hw hzero =>
    have hshort := (NumberLimit.takes_neg_iff (ofDigitChars_pos hw hzero)).mp hn
    rw [toDigits_ofDigitChars hw] at hshort
    exact hspells hw .minus hshort

end PaymentConnector
