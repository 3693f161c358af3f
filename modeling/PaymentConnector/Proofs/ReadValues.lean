import PaymentConnector.Proofs.NestedValues
import PaymentConnector.Proofs.PlacedDigits

/-!
Values as they are read. Whatever a text holds, the value that is read from it is writable, if
nothing is read beneath the depth of the reader: it is no deeper than that, no object in it has
a key twice, and no number in it has more digits than are read.
-/

namespace PaymentConnector.Json

section

variable {α : Type} {close : Char} {one : List Char → Finding α}
  {more : List Char → Finding (List α)}

theorem afterItem_eq_ok {a : α} {as : List α} {r t : List Char}
    (h : afterItem close more a r = .ok (as, t)) :
    as = [a] ∨ ∃ u rest, skipBlanks r = ',' :: u ∧ more (skipBlanks u) = .ok (rest, t) ∧
      as = a :: rest := by
  unfold afterItem at h
  split at h
  · exact absurd h (by simp)
  · rename_i c u hr
    split at h
    · exact Or.inl (Prod.ext_iff.mp (Except.ok.inj h)).1.symm
    split at h
    · rename_i hcomma
      obtain ⟨rest, hrest, hcons⟩ := Finding.mapValue_eq_ok_iff.mp h
      exact Or.inr ⟨u, rest, hcomma ▸ hr, hrest, hcons.symm⟩
    · exact absurd h (by simp)

/-- What holds of every part that is read holds of all parts of a row. -/
theorem forall_of_row {p : α → Prop}
    (hmore : ∀ s, more s = (one s).andThen (afterItem close more))
    (hshort : ∀ s a r, one s = .ok (a, r) → r.length < s.length)
    (hone : ∀ s a r, one s = .ok (a, r) → p a) {s r : List Char} {as : List α}
    (h : more s = .ok (as, r)) : ∀ a ∈ as, p a := by
  induction s using row_induction hshort generalizing as with
  | row s ih =>
    rw [hmore] at h
    obtain ⟨a, t, hfound, hafter⟩ := Finding.andThen_eq_ok_iff.mp h
    have hpart := hone s a t hfound
    rcases afterItem_eq_ok hafter with rfl | ⟨u, rest, hcomma, hrest, rfl⟩
    · simpa using hpart
    · exact List.forall_mem_cons.mpr ⟨hpart, ih a t u hfound hcomma hrest⟩

theorem afterOpening_eq_ok {make : List α → Json} {j : Json} {s r : List Char}
    (h : afterOpening close more make s = .ok (j, r)) :
    j = make [] ∨ ∃ as, more (skipBlanks s) = .ok (as, r) ∧ j = make as := by
  unfold afterOpening at h
  split at h
  · exact Or.inl (Prod.ext_iff.mp (Except.ok.inj h)).1.symm
  · obtain ⟨as, has, rfl⟩ := Finding.mapValue_eq_ok_iff.mp h
    exact Or.inr ⟨as, has, rfl⟩

end

/-! Scalars -/

theorem ofDigitChars_lt {ds : List Char} (hds : Digits ds) :
    Nat.ofDigitChars 10 ds 0 < Nat.pow 10 ds.length := by
  have hdigits : ∀ d ∈ ds.map fun c => c.toNat - '0'.toNat, d < 10 := by
    intro d hd
    obtain ⟨c, hc, rfl⟩ := List.mem_map.mp hd
    have hdigit := hds c hc
    simp only [Char.isDigit, Bool.and_eq_true, decide_eq_true_eq] at hdigit
    have hle : c.toNat ≤ '9'.toNat := UInt32.le_iff_toNat_le.mp hdigit.2
    have hzero : '0'.toNat = 48 := rfl
    have hnine : '9'.toNat = 57 := rfl
    omega
  have hvalue := Url.Ipv4.foldl_digits_lt hdigits 0
  simpa [Nat.ofDigitChars, List.foldl_map, Nat.mul_comm] using hvalue

theorem fitsDigits_of_lt {n : Int} {k : Nat} (h : n.natAbs < Nat.pow 10 k)
    (hk : k ≤ digitLimit) : FitsDigits n := by
  rcases Nat.eq_zero_or_pos k with rfl | hpos
  · have hpow : Nat.pow 10 0 = 1 := rfl
    have hzero : n = 0 := by omega
    rw [hzero]
    decide
  · exact Nat.le_trans ((Nat.length_toDigits_le_iff (by omega) hpos).mpr h) hk

theorem length_toDigits_pow (k : Nat) : (Nat.toDigits 10 (Nat.pow 10 k)).length = k + 1 := by
  have hle : (Nat.toDigits 10 (Nat.pow 10 k)).length ≤ k + 1 :=
    (Nat.length_toDigits_le_iff (by omega) (by omega)).mpr
      (Nat.pow_lt_pow_right (by omega) (Nat.lt_succ_self k))
  have hlt : ¬ (Nat.toDigits 10 (Nat.pow 10 k)).length ≤ k := by
    intro h
    rcases Nat.eq_zero_or_pos k with rfl | hk
    · exact Nat.toDigits_ne_nil (List.eq_nil_of_length_eq_zero (Nat.le_zero.mp h))
    · exact Nat.lt_irrefl _ ((Nat.length_toDigits_le_iff (by omega) hk).mp h)
  omega

/-- The least number with so many digits. -/
def leastOfLength (k : Nat) : Nat := Nat.pow 10 (k - 1)

theorem leastOfLength_pos (k : Nat) : 0 < leastOfLength k := Nat.pow_pos (by omega)

theorem length_leastOfLength {k : Nat} (hk : 0 < k) :
    (Nat.toDigits 10 (leastOfLength k)).length = k := by
  rw [leastOfLength, length_toDigits_pow]
  omega

theorem not_fitsDigits_leastOfLength : ¬ FitsDigits (leastOfLength (digitLimit + 1)) := by
  rw [FitsDigits, Int.natAbs_natCast, length_leastOfLength (Nat.succ_pos digitLimit)]
  exact Nat.not_succ_le_self _

/-- Digits that are few enough stand for a number that fits. -/
theorem fitsDigits_ofDigitChars {ds : List Char} (hds : Digits ds)
    (hlength : ds.length ≤ digitLimit) (negative : Bool) :
    FitsDigits (if negative then -(Nat.ofDigitChars 10 ds 0 : Int)
      else (Nat.ofDigitChars 10 ds 0 : Int)) := by
  refine fitsDigits_of_lt (k := ds.length) ?_ hlength
  have hlt := ofDigitChars_lt hds
  cases negative with
  | false => simpa using hlt
  | true => simpa using hlt

theorem digits_wholePart (s : List Char) : Digits (wholePart s).1 := by
  unfold wholePart
  split
  · exact digits_zeros 1
  · intro c hc
    exact List.all_eq_true.mp List.all_takeWhile c hc

variable {n : Nat} {j : Json} {r s : List Char}

theorem writable_of_unsignedFinding {l : NumberLimit} {negative : Bool}
    (h : unsignedFinding l negative s = .ok (j, r)) : j.Writable n := by
  simp only [unsignedFinding] at h
  split at h
  · exact absurd h (by simp)
  split at h
  · exact absurd h (by simp)
  rename_i hadmits
  split at h
  · rename_i hwhole
    rw [hwhole] at hadmits
    have hshort := NumberLimit.admits_whole_iff.mp (Bool.eq_false_iff.mpr hadmits)
    have hfew := Nat.le_trans (l.digits_le_length _ _) hshort
    obtain ⟨rfl, -⟩ := Prod.ext_iff.mp (Except.ok.inj h)
    exact Writable.int_iff.mpr (fitsDigits_ofDigitChars (digits_wholePart s) hfew negative)
  · obtain ⟨rfl, -⟩ := Prod.ext_iff.mp (Except.ok.inj h)
    exact .float _

theorem writable_of_word? (h : word? s = some (j, r)) : j.Writable n := by
  obtain ⟨w, hw, hfound⟩ := List.exists_of_findSome?_eq_some h
  obtain ⟨text, value⟩ := w
  simp only [Option.ite_none_right_eq_some, Option.some.injEq, Prod.mk.injEq] at hfound
  obtain ⟨-, rfl, -⟩ := hfound
  simp only [words, List.mem_cons, Prod.mk.injEq, List.not_mem_nil, or_false] at hw
  rcases hw with ⟨-, rfl⟩ | ⟨-, rfl⟩ | ⟨-, rfl⟩ | ⟨-, rfl⟩ | ⟨-, rfl⟩ | ⟨-, rfl⟩
  · exact .null
  · exact .bool _
  · exact .bool _
  · exact .float _
  · exact .float _
  · exact .float _

theorem writable_of_scalar {l : NumberLimit} (h : (scalar l s).finding = .ok (j, r)) :
    j.Writable n := by
  rw [finding_scalar] at h
  cases hword : word? s with
  | some found =>
    obtain ⟨j', r'⟩ := found
    rw [hword] at h
    obtain ⟨rfl, -⟩ := Prod.ext_iff.mp (Except.ok.inj h)
    exact writable_of_word? hword
  | none =>
    rw [hword] at h
    by_cases hminus : s.head? = some '-'
    · obtain ⟨t, rfl⟩ := List.head?_eq_some_iff.mp hminus
      have hnumber : unsignedFinding l true t = .ok (j, r) := by
        rw [← finding_number_minus]
        exact h
      exact writable_of_unsignedFinding hnumber
    · have hnumber : unsignedFinding l false s = .ok (j, r) := by
        rw [← finding_number l hminus]
        exact h
      exact writable_of_unsignedFinding hnumber

/-! Values -/

theorem writable_ofList {es : List (String × Json)} (h : ∀ e ∈ es, e.2.Writable n) :
    (obj (Entries.ofList es)).Writable (n + 1) :=
  Writable.obj_iff.mpr
    ⟨Entries.nodup_keys_ofList es, fun e he => h e (Entries.mem_of_mem_ofList he)⟩

/-- Strings and scalars are writable at every depth. -/
theorem writable_of_flat {d : Dialect} {m : Nat} (hlist : s.head? ≠ some '[')
    (hobject : s.head? ≠ some '{') (h : (value d m s).finding = .ok (j, r)) : j.Writable n := by
  rcases value_cases s with ⟨t, rfl⟩ | ⟨t, rfl⟩ | ⟨t, rfl⟩ | ⟨hquote, -, -⟩
  · rw [finding_value_quote] at h
    obtain ⟨text, -, rfl⟩ := Finding.mapValue_eq_ok_iff.mp h
    exact .str text
  · exact absurd rfl hlist
  · exact absurd rfl hobject
  · rw [finding_value_scalar d _ hquote hlist hobject] at h
    exact writable_of_scalar h

theorem writable_of_entry {d : Dialect} {item : (s : List Char) → Step Json s}
    (hitem : ∀ s j r, (item s).finding = .ok (j, r) → j.Writable n) {e : String × Json}
    (h : entryFinding d item s = .ok (e, r)) : e.2.Writable n := by
  obtain ⟨key, t, -, hvalue⟩ := Finding.andThen_eq_ok_iff.mp h
  obtain ⟨k, hk, rfl⟩ := Finding.mapValue_eq_ok_iff.mp hvalue
  exact hitem _ _ _ hk

/-- Whatever is read at a depth is writable there. -/
theorem writable_of_value {d : Dialect} (hd : d.emptyBeneath = false)
    (h : (value d n s).finding = .ok (j, r)) : j.Writable n := by
  -- the induction is on the depth that is left, since each bracket takes one level of it
  induction n generalizing j s r with
  | zero =>
    rcases value_cases s with ⟨t, rfl⟩ | ⟨t, rfl⟩ | ⟨t, rfl⟩ | ⟨-, hlist, hobject⟩
    · exact writable_of_flat (by simp) (by simp) h
    · rw [finding_value_zero_list, beneathFinding_of_nothing hd] at h
      exact absurd h (by simp)
    · rw [finding_value_zero_object, beneathFinding_of_nothing hd] at h
      exact absurd h (by simp)
    · exact writable_of_flat hlist hobject h
  | succ n ih =>
    have hitem (s : List Char) (j : Json) (r : List Char)
        (hj : (value d n s).finding = .ok (j, r)) : j.Writable n := ih hj
    rcases value_cases s with ⟨t, rfl⟩ | ⟨t, rfl⟩ | ⟨t, rfl⟩ | ⟨-, hlist, hobject⟩
    · exact writable_of_flat (by simp) (by simp) h
    · rw [finding_value_list, finding_list] at h
      rcases afterOpening_eq_ok h with rfl | ⟨items, hitems, rfl⟩
      · exact Writable.arr_iff.mpr (by simp)
      · exact Writable.arr_iff.mpr
          (forall_of_row (finding_items _) (fun _ _ _ => length_lt_of_finding) hitem hitems)
    · rw [finding_value_object, finding_object] at h
      rcases afterOpening_eq_ok h with rfl | ⟨es, hes, rfl⟩
      · exact writable_ofList (by simp)
      · exact writable_ofList
          (forall_of_row (finding_entries d _) (fun _ _ _ => length_lt_of_entryFinding)
            (fun _ _ _ => writable_of_entry hitem) hes)
    · exact writable_of_flat hlist hobject h

theorem writable_of_verdict {d : Dialect} (hd : d.emptyBeneath = false)
    (h : verdict d s = .ok j) : j.Writable d.depth := by
  rw [verdict_eq] at h
  split at h
  · exact absurd h (by simp)
  split at h
  · exact absurd h (by simp)
  · rename_i found r hfound
    split at h
    · obtain rfl := Except.ok.inj h
      exact writable_of_value hd hfound
    · exact absurd h (by simp)

end PaymentConnector.Json
