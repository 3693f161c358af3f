import Mathlib.Tactic.Ring
import PaymentConnector.Proofs.KeptCharacters

/-!
Labels encoded in ASCII and decoded again. A number is read from its digits whatever follows
them, so a list of numbers is read as itself. The insertions that make a text come in ascending
order, so each is told by its distance from the one before. Put in again in that order they
make the text.
-/

namespace PaymentConnector.Url.Punycode

open Text

/-! Digits -/

theorem digitValue?_digitChar {d : Nat} (hd : d < 36) : digitValue? (digitChar d) = some d := by
  have hall : ∀ i : Fin 36, digitValue? (digitChar i.val) = some i.val := by decide
  exact hall ⟨d, hd⟩

/-- The value of a first digit and of the digits after it, which weigh more. -/
theorem add_digit_mul {t n : Nat} (ht : t ≤ n) (value weight : Nat) :
    value + (t + (n - t) % (36 - t)) * weight + (n - t) / (36 - t) * (weight * (36 - t)) =
      value + n * weight := by
  have hsum : t + (n - t) % (36 - t) + (n - t) / (36 - t) * (36 - t) = n := by
    have hdiv := Nat.mod_add_div' (n - t) (36 - t)
    omega
  calc value + (t + (n - t) % (36 - t)) * weight + (n - t) / (36 - t) * (weight * (36 - t))
      = value + (t + (n - t) % (36 - t) + (n - t) / (36 - t) * (36 - t)) * weight := by
        ring
    _ = value + n * weight := by rw [hsum]

theorem readNumbers_writeNumber (s : Scale) (k n value weight : Nat) (rest : List Char) :
    readNumbers s ⟨value, weight, k⟩ (writeNumber s.bias k n ++ rest) =
      (readNumbers (s.after (value + n * weight)) .empty rest).map
        ((value + n * weight) :: ·) := by
  induction k, n using writeNumber.induct s.bias generalizing value weight with
  | case1 k n t hlt =>
    have ht := threshold_bounds s.bias k
    have hdigit : digitValue? (digitChar n) = some n := digitValue?_digitChar (by omega)
    rw [writeNumber, if_pos hlt, List.singleton_append, readNumbers, hdigit]
    simp only [Option.bind_eq_bind, Option.bind_some]
    rw [if_pos hlt]
    cases readNumbers (s.after (value + n * weight)) .empty rest <;> rfl
  | case2 k n t hge ih =>
    have ht := threshold_bounds s.bias k
    have hmod : (n - threshold s.bias k) % (36 - threshold s.bias k) < 36 - threshold s.bias k :=
      Nat.mod_lt _ (by omega)
    have hdigit := digitValue?_digitChar
      (d := threshold s.bias k + (n - threshold s.bias k) % (36 - threshold s.bias k)) (by omega)
    have hnot : ¬ threshold s.bias k + (n - threshold s.bias k) % (36 - threshold s.bias k) <
        threshold s.bias k := by omega
    rw [writeNumber, if_neg hge, List.cons_append, readNumbers, hdigit]
    simp only [Option.bind_eq_bind, Option.bind_some]
    rw [if_neg hnot, ih, add_digit_mul (Nat.not_lt.mp hge)]

/-- Numbers are read from their digits as they were written. -/
theorem readNumbers_writeNumbers (s : Scale) (ns : List Nat) :
    readNumbers s .empty (writeNumbers s ns) = some ns := by
  induction ns generalizing s with
  | nil => rfl
  | cons n ns ih =>
    have hn : 0 + n * 1 = n := by omega
    rw [writeNumbers, Partial.empty, readNumbers_writeNumber, hn, ih, Option.map_some]

/-! Insertions -/

/-- An insertion puts in the greatest character outside ASCII, where it last stands. -/
structure IsLast (s : List Char) (i : Insertion) : Prop where
  here : ∃ c before after, s = before ++ c :: after ∧ before.length = i.place ∧
    c.toNat = i.code ∧ isAscii c = false
  above : ∀ k c, s[k]? = some c → isAscii c = false →
    c.toNat < i.code ∨ c.toNat = i.code ∧ k ≤ i.place

theorem lastInsertion?_eq_none_iff {s : List Char} :
    lastInsertion? s = none ↔ ∀ c ∈ s, isAscii c = true := by
  induction s with
  | nil => simp [lastInsertion?]
  | cons c s ih =>
    rw [List.forall_mem_cons, ← ih, lastInsertion?]
    cases lastInsertion? s with
    | some i =>
      dsimp only
      split <;> simp
    | none =>
      dsimp only
      split <;> simp [*]

theorem isLast_cons_self {c : Char} {s : List Char} (hc : isAscii c = false)
    (hs : ∀ d ∈ s, isAscii d = false → d.toNat < c.toNat) : IsLast (c :: s) ⟨c.toNat, 0⟩ where
  here := ⟨c, [], s, rfl, rfl, rfl, hc⟩
  above := by
    intro k d hk hd
    cases k with
    | zero =>
      obtain rfl : c = d := Option.some.inj hk
      exact Or.inr ⟨rfl, Nat.le_refl 0⟩
    | succ k =>
      rw [List.getElem?_cons_succ] at hk
      exact Or.inl (hs d (List.mem_of_getElem? hk) hd)

theorem IsLast.cons {s : List Char} {i : Insertion} (h : IsLast s i) {c : Char}
    (hc : c.toNat ≤ i.code) : IsLast (c :: s) ⟨i.code, i.place + 1⟩ where
  here := by
    obtain ⟨d, before, after, rfl, hplace, hcode, hd⟩ := h.here
    exact ⟨d, c :: before, after, rfl, congrArg (· + 1) hplace, hcode, hd⟩
  above := by
    intro k d hk hd
    cases k with
    | zero =>
      obtain rfl : c = d := Option.some.inj hk
      rcases Nat.lt_or_eq_of_le hc with hlt | heq
      · exact Or.inl hlt
      · exact Or.inr ⟨heq, Nat.zero_le _⟩
    | succ k =>
      rw [List.getElem?_cons_succ] at hk
      rcases h.above k d hk hd with hlt | ⟨heq, hle⟩
      · exact Or.inl hlt
      · exact Or.inr ⟨heq, Nat.succ_le_succ hle⟩

theorem IsLast.toNat_le {s : List Char} {i : Insertion} (h : IsLast s i) {c : Char}
    (hc : c ∈ s) (hascii : isAscii c = false) : c.toNat ≤ i.code := by
  obtain ⟨k, hk⟩ := List.mem_iff_getElem?.mp hc
  rcases h.above k c hk hascii with hlt | ⟨heq, -⟩
  · omega
  · omega

theorem IsLast.le_code {s : List Char} {i : Insertion} (h : IsLast s i) : 0x80 ≤ i.code := by
  obtain ⟨c, -, -, -, -, hcode, hc⟩ := h.here
  have hge := of_decide_eq_false hc
  omega

theorem isLast_of_lastInsertion? {s : List Char} {i : Insertion} (h : lastInsertion? s = some i) :
    IsLast s i := by
  induction s generalizing i with
  | nil => cases h
  | cons c s ih =>
    rw [lastInsertion?] at h
    cases hs : lastInsertion? s with
    | none =>
      simp only [hs] at h
      split at h
      · cases h
      · rename_i hc
        obtain rfl := Option.some.inj h
        refine isLast_cons_self (Bool.not_eq_true _ ▸ hc) fun d hd hascii => ?_
        rw [lastInsertion?_eq_none_iff.mp hs d hd] at hascii
        cases hascii
    | some j =>
      have hlast := ih hs
      simp only [hs] at h
      split at h
      · rename_i hlt
        obtain rfl := Option.some.inj h
        have hge := hlast.le_code
        have hc : isAscii c = false := decide_eq_false (by omega)
        refine isLast_cons_self hc fun d hd hascii => ?_
        exact Nat.lt_of_le_of_lt (hlast.toNat_le hd hascii) hlt
      · rename_i hge
        obtain rfl := Option.some.inj h
        exact hlast.cons (Nat.not_lt.mp hge)

/-- A text without its last insertion. -/
structure Grows (s : List Char) (i : Insertion) (whole : List Char) : Prop where
  insert_eq : insert s i = whole
  place_le : i.place ≤ s.length
  length_eq : whole.length = s.length + 1
  filter_eq : s.filter isAscii = whole.filter isAscii
  countP_eq : whole.countP (!isAscii ·) = s.countP (!isAscii ·) + 1
  isValidChar : i.code.isValidChar

theorem insertIdx_length_append (before after : List Char) (c : Char) :
    (before ++ after).insertIdx before.length c = before ++ c :: after := by
  induction before with
  | nil => rfl
  | cons b before ih => exact congrArg (b :: ·) ih

theorem eraseIdx_length_append (before after : List Char) (c : Char) :
    (before ++ c :: after).eraseIdx before.length = before ++ after := by
  rw [← insertIdx_length_append, List.eraseIdx_insertIdx_self]

theorem IsLast.grows {s : List Char} {i : Insertion} (h : IsLast s i) :
    Grows (s.eraseIdx i.place) i s := by
  obtain ⟨c, before, after, rfl, hplace, hcode, hc⟩ := h.here
  rw [← hplace, eraseIdx_length_append]
  constructor
  · rw [insert, ← hplace, ← hcode, Char.ofNat_toNat, insertIdx_length_append]
  · simp [← hplace]
  · simp; omega
  · simp [List.filter_cons_of_neg, hc]
  · simp [hc]; omega
  · rw [← hcode]
    exact c.valid

/-- The insertion before the last one puts in a lesser character, or the same one at a place
further to the front. -/
theorem IsLast.precedes {s : List Char} {i j : Insertion} (hi : IsLast s i)
    (hj : IsLast (s.eraseIdx i.place) j) :
    j.code < i.code ∨ j.code = i.code ∧ j.place < i.place := by
  obtain ⟨c, before, after, heq, hplace, hcode, hc⟩ := hj.here
  have hget : (s.eraseIdx i.place)[j.place]? = some c := by
    rw [heq, ← hplace, List.getElem?_append_right (Nat.le_refl _), Nat.sub_self]
    rfl
  rw [List.getElem?_eraseIdx] at hget
  split at hget
  · rename_i hlt
    rcases hi.above j.place c hget hc with hless | ⟨hsame, -⟩
    · omega
    · omega
  · rename_i hge
    rcases hi.above (j.place + 1) c hget hc with hless | ⟨hsame, hle⟩
    · omega
    · omega

/-! Cursors -/

/-- The cursor after the last insertion that makes a text. -/
def Cursor.ofText (s : List Char) : Cursor :=
  match lastInsertion? s with
  | none => .start s.length
  | some i => ⟨i.code, i.place + 1, s.length⟩

theorem Cursor.locate_distance {c : Cursor} {i : Insertion} (hcode : c.code ≤ i.code)
    (hplace : i.place ≤ c.length)
    (hfar : c.place ≤ (i.code - c.code) * (c.length + 1) + i.place) :
    c.locate (c.distance i) = i := by
  have htotal : c.place + c.distance i = i.place + (i.code - c.code) * (c.length + 1) := by
    rw [distance]
    omega
  have hdiv : (c.place + c.distance i) / (c.length + 1) = i.code - c.code := by
    rw [htotal, Nat.add_mul_div_right _ _ (Nat.succ_pos _), Nat.div_eq_of_lt (by omega),
      Nat.zero_add]
  have hmod : (c.place + c.distance i) % (c.length + 1) = i.place := by
    rw [htotal, Nat.add_mul_mod_self_right, Nat.mod_eq_of_lt (by omega)]
  rw [locate, hdiv, hmod, Nat.add_sub_cancel' hcode]

/-- The last insertion is found again from the cursor after the one before it. -/
theorem locate_ofText {s : List Char} {i : Insertion} (h : lastInsertion? s = some i) :
    (Cursor.ofText (s.eraseIdx i.place)).locate
      ((Cursor.ofText (s.eraseIdx i.place)).distance i) = i := by
  have hlast := isLast_of_lastInsertion? h
  have hgrows := hlast.grows
  unfold Cursor.ofText
  cases hbefore : lastInsertion? (s.eraseIdx i.place) with
  | none => exact Cursor.locate_distance hlast.le_code hgrows.place_le (Nat.zero_le _)
  | some j =>
    have hj := isLast_of_lastInsertion? hbefore
    have hplace : j.place + 1 ≤ (s.eraseIdx i.place).length := hj.grows.length_eq ▸
      Nat.succ_le_succ hj.grows.place_le
    rcases hlast.precedes hj with hless | ⟨hsame, hless⟩
    · apply Cursor.locate_distance (Nat.le_of_lt hless) hgrows.place_le
      have hone : 1 ≤ i.code - j.code := by omega
      have hmul := Nat.mul_le_mul_right ((s.eraseIdx i.place).length + 1) hone
      dsimp only
      omega
    · apply Cursor.locate_distance (Nat.le_of_eq hsame) hgrows.place_le
      dsimp only
      omega

theorem after_ofText {s : List Char} {i : Insertion} (h : lastInsertion? s = some i) :
    (Cursor.ofText (s.eraseIdx i.place)).after i = Cursor.ofText s := by
  have hlength : (Cursor.ofText (s.eraseIdx i.place)).length = (s.eraseIdx i.place).length := by
    unfold Cursor.ofText
    split <;> rfl
  rw [Cursor.after, hlength, ← (isLast_of_lastInsertion? h).grows.length_eq, Cursor.ofText, h]

theorem distances_concat (c : Cursor) (is : List Insertion) (i : Insertion) :
    distances c (is ++ [i]) = distances c is ++ [(is.foldl Cursor.after c).distance i] := by
  induction is generalizing c with
  | nil => rfl
  | cons j is ih => exact congrArg (c.distance j :: ·) (ih _)

/-- The insertions that make a text, put in one by one. -/
theorem insertAt_insertions {s : List Char} {count : Nat}
    (hcount : s.countP (!isAscii ·) = count) :
    (insertions count s).foldl Cursor.after (.start (s.filter isAscii).length) = .ofText s ∧
      ∀ ns, insertAt (.start (s.filter isAscii).length) (s.filter isAscii)
          (distances (.start (s.filter isAscii).length) (insertions count s) ++ ns) =
        insertAt (.ofText s) s ns := by
  induction count generalizing s with
  | zero =>
    have hascii : ∀ c ∈ s, isAscii c = true := by simpa using List.countP_eq_zero.mp hcount
    have hfilter : s.filter isAscii = s := List.filter_eq_self.mpr hascii
    rw [hfilter, Cursor.ofText, lastInsertion?_eq_none_iff.mpr hascii]
    exact ⟨rfl, fun _ => rfl⟩
  | succ count ih =>
    cases hs : lastInsertion? s with
    | none =>
      have hzero : s.countP (!isAscii ·) = 0 :=
        List.countP_eq_zero.mpr (by simpa using lastInsertion?_eq_none_iff.mp hs)
      omega
    | some i =>
      have hgrows := (isLast_of_lastInsertion? hs).grows
      have hfewer : (s.eraseIdx i.place).countP (!isAscii ·) = count := by
        have hcountP := hgrows.countP_eq
        omega
      obtain ⟨hcursor, hmade⟩ := ih hfewer
      rw [hgrows.filter_eq] at hcursor hmade
      have hinsertions : insertions (count + 1) s =
          insertions count (s.eraseIdx i.place) ++ [i] := by rw [insertions, hs]
      rw [hinsertions]
      constructor
      · rw [List.foldl_append, hcursor]
        exact after_ofText hs
      · intro ns
        rw [distances_concat, hcursor, List.append_assoc, hmade, List.singleton_append, insertAt]
        simp only [locate_ofText hs, hgrows.isValidChar, hgrows.insert_eq, after_ofText hs]
        exact if_pos trivial

/-! Labels -/

theorem splitBasic_append {basic digits : List Char} (hdigits : ∀ c ∈ digits, c ≠ delimiter) :
    splitBasic (basic ++ (if basic.isEmpty then [] else [delimiter]) ++ digits) =
      (basic, digits) := by
  have hfree : Free (· = delimiter) digits := fun c hc => decide_eq_false (hdigits c hc)
  cases basic with
  | nil => simp [splitBasic, cutAroundLast_of_free hfree]
  | cons b basic =>
    have hcut : cutAroundLast (· = delimiter) (b :: basic ++ delimiter :: digits) =
        some (b :: basic, digits) := cutAroundLast_append_cons hfree (by decide)
    simp only [List.isEmpty_cons, Bool.false_eq_true, if_false, List.append_assoc,
      List.singleton_append]
    rw [splitBasic, hcut]

/-- A text is decoded from its encoding. -/
theorem decode_encode (s : List Char) : decode (encode s) = some s := by
  have hdigits (ns : List Nat) (scale : Scale) : ∀ c ∈ writeNumbers scale ns, c ≠ delimiter := by
    intro c hc
    obtain ⟨d, hd, rfl⟩ := exists_digit_of_mem_writeNumbers scale ns c hc
    have hall : ∀ i : Fin 36, digitChar i.val ≠ delimiter := by decide
    exact hall ⟨d, hd⟩
  have hbasic : (s.filter isAscii).all isAscii = true := by simp
  have hmade := (insertAt_insertions (s := s) rfl).2 []
  rw [List.append_nil, insertAt] at hmade
  rw [decode, encode]
  simp only [splitBasic_append (hdigits _ _), hbasic, Bool.not_true, Bool.false_eq_true, if_false,
    readNumbers_writeNumbers]
  exact hmade

end PaymentConnector.Url.Punycode
