import Mathlib.Data.List.InsertIdx
import PaymentConnector.Proofs.TextCuts
import PaymentConnector.Url.Host

/-!
The characters of encoded text. What is percent-encoded holds characters that are
kept and those of escapes; what is encoded as a label of a domain name is in ASCII, and
so is a label that can be decoded.
-/

namespace PaymentConnector

namespace Text

/-- A property of ASCII can be checked for each of its characters. -/
theorem of_ascii {P : Char → Prop} (h : ∀ n : Fin 128, P (Char.ofNat n.val)) {c : Char}
    (hc : c.toNat < 128) : P c := by
  have hn := h ⟨c.toNat, hc⟩
  rwa [Char.ofNat_toNat] at hn

theorem toNat_le_of_le {c d : Char} (h : c ≤ d) : c.toNat ≤ d.toNat := h

theorem hexDigit?_isSome_ascii {c : Char} (h : (hexDigit? c).isSome) : c.toNat < 128 := by
  unfold hexDigit? at h
  split at h
  · rename_i hc
    have hle : c.toNat ≤ 0x39 := toNat_le_of_le hc.2
    omega
  · split at h
    · rename_i hc
      have hle : c.toNat ≤ 0x66 := toNat_le_of_le hc.2
      omega
    · obtain ⟨hc, -⟩ := Option.ite_none_right_eq_some.mp (Option.eq_some_of_isSome h)
      have hle : c.toNat ≤ 0x46 := toNat_le_of_le hc.2
      omega

end Text

open Text

namespace Url

/-! Percent-encoding -/

/-- A percent sign or a hexadecimal digit. -/
def isEscapeChar (c : Char) : Bool := c = '%' || (hexDigit? c).isSome

theorem isEscapeChar_upperHexDigit {n : Nat} (hn : n < 16) : isEscapeChar (upperHexDigit n) := by
  have hall : ∀ i : Fin 16, isEscapeChar (upperHexDigit i.val) = true := by decide
  exact hall ⟨n, hn⟩

theorem isEscapeChar_of_mem_encodeByte {c : Char} {b : UInt8} (h : c ∈ encodeByte b) :
    isEscapeChar c := by
  have hb : b.toNat < 256 := b.toNat_lt
  simp only [encodeByte, List.mem_cons, List.not_mem_nil, or_false] at h
  rcases h with rfl | rfl | rfl
  · rfl
  · exact isEscapeChar_upperHexDigit (by omega)
  · exact isEscapeChar_upperHexDigit (by omega)

theorem mem_percentEncode {keep : Char → Bool} {s : List Char} {c : Char}
    (h : c ∈ percentEncode keep s) : (c ∈ s ∧ keep c = true) ∨ isEscapeChar c = true := by
  obtain ⟨d, hd, hc⟩ := List.mem_flatMap.mp h
  split at hc
  · rename_i hkeep
    rw [List.mem_singleton] at hc
    exact Or.inl ⟨hc ▸ hd, hc ▸ hkeep⟩
  · obtain ⟨b, -, hc⟩ := List.mem_flatMap.mp hc
    exact Or.inr (isEscapeChar_of_mem_encodeByte hc)

theorem keepUserinfo_of_isEscapeChar {c : Char} (h : isEscapeChar c = true) :
    keepUserinfo c = true := by
  have hascii : c.toNat < 128 := by
    simp only [isEscapeChar, Bool.or_eq_true, decide_eq_true_eq] at h
    rcases h with rfl | h
    · decide
    · exact hexDigit?_isSome_ascii h
  exact of_ascii (P := fun c => isEscapeChar c = true → keepUserinfo c = true)
    (by decide +kernel) hascii h

theorem keepPath_of_keepUserinfo {c : Char} (h : keepUserinfo c = true) : keepPath c = true :=
  (Bool.and_eq_true_iff.mp h).1

theorem keepFragment_of_keepPath {c : Char} (h : keepPath c = true) : keepFragment c = true :=
  (Bool.and_eq_true_iff.mp h).1

theorem keepPlain_of_keepFragment {c : Char} (h : keepFragment c = true) : keepPlain c = true :=
  (Bool.and_eq_true_iff.mp h).1

theorem keepPlain_of_keepQuery {c : Char} (h : keepQuery c = true) : keepPlain c = true :=
  (Bool.and_eq_true_iff.mp h).1

theorem keepQuery_of_keepSpecialQuery {c : Char} (h : keepSpecialQuery c = true) :
    keepQuery c = true :=
  (Bool.and_eq_true_iff.mp h).1

theorem toNat_lt_of_keepPlain {c : Char} (h : keepPlain c = true) : c.toNat < 128 := by
  have hle := of_decide_eq_true (Bool.and_eq_true_iff.mp h).2
  omega

/-- Encoded text starts as the text does, or with an escape. -/
theorem head?_percentEncode {keep : Char → Bool} {s : List Char} {c : Char}
    (h : (percentEncode keep s).head? = some c) : s.head? = some c ∨ c = '%' := by
  cases s with
  | nil => simp [percentEncode] at h
  | cons d s =>
    rw [percentEncode, List.flatMap_cons] at h
    split at h
    · exact Or.inl h
    · obtain ⟨b, bs, hbytes⟩ := List.exists_cons_of_ne_nil (String.utf8EncodeChar_ne_nil (c := d))
      rw [hbytes] at h
      exact Or.inr (Option.some.inj h).symm

theorem keepPlain_of_keepUserinfo {c : Char} (h : keepUserinfo c = true) : keepPlain c = true :=
  keepPlain_of_keepFragment (keepFragment_of_keepPath (keepPath_of_keepUserinfo h))

theorem keepQuery_of_keepUserinfo {c : Char} (h : keepUserinfo c = true) : keepQuery c = true :=
  of_ascii (P := fun c => keepUserinfo c = true → keepQuery c = true) (by decide +kernel)
    (toNat_lt_of_keepPlain (keepPlain_of_keepUserinfo h)) h

/-- A property of kept characters that escapes have as well is one of encoded text. -/
theorem forall_mem_percentEncode {keep : Char → Bool} {P : Char → Prop} {s : List Char}
    (hkeep : ∀ c ∈ s, keep c = true → P c) (hescape : ∀ c, keepUserinfo c = true → P c) :
    ∀ c ∈ percentEncode keep s, P c := by
  intro c hc
  rcases mem_percentEncode hc with ⟨hmem, hc⟩ | hc
  · exact hkeep c hmem hc
  · exact hescape c (keepUserinfo_of_isEscapeChar hc)

theorem percentEncode_eq_self {keep : Char → Bool} {s : List Char}
    (h : ∀ c ∈ s, keep c = true) : percentEncode keep s = s := by
  induction s with
  | nil => rfl
  | cons c s ih =>
    rw [percentEncode, List.flatMap_cons, if_pos (h c List.mem_cons_self)]
    exact congrArg (c :: ·) (ih fun d hd => h d (List.mem_cons_of_mem c hd))

/-- What is encoded already is not encoded twice. -/
theorem percentEncode_percentEncode {keep : Char → Bool}
    (hescape : ∀ c, isEscapeChar c = true → keep c = true) (s : List Char) :
    percentEncode keep (percentEncode keep s) = percentEncode keep s := by
  apply percentEncode_eq_self
  intro c hc
  rcases mem_percentEncode hc with ⟨-, hkeep⟩ | hchar
  · exact hkeep
  · exact hescape c hchar

theorem percentEncode_ne_nil {keep : Char → Bool} {s : List Char} (hs : s ≠ []) :
    percentEncode keep s ≠ [] := by
  obtain ⟨c, rest, rfl⟩ := List.exists_cons_of_ne_nil hs
  rw [percentEncode, List.flatMap_cons]
  apply List.append_ne_nil_of_left_ne_nil
  split
  · exact List.cons_ne_nil c []
  · obtain ⟨b, bs, hbytes⟩ := List.exists_cons_of_ne_nil (String.utf8EncodeChar_ne_nil (c := c))
    rw [hbytes]
    exact List.cons_ne_nil _ _

/-- Encoded text ends as the text does, or with an escape. -/
theorem getLast?_percentEncode {keep : Char → Bool} {s : List Char} {c : Char}
    (h : (percentEncode keep s).getLast? = some c) :
    s.getLast? = some c ∨ isEscapeChar c = true := by
  rcases List.eq_nil_or_concat s with rfl | ⟨t, d, rfl⟩
  · cases h
  · rw [List.concat_eq_append] at h ⊢
    rw [percentEncode, List.flatMap_append] at h
    have hlast := getLast?_of_append h (percentEncode_ne_nil (List.cons_ne_nil d []))
    rcases mem_percentEncode (List.mem_of_getLast? hlast) with ⟨hmem, -⟩ | hchar
    · rw [List.mem_singleton.mp hmem]
      exact Or.inl List.getLast?_concat
    · exact Or.inr hchar

end Url

namespace Url.Punycode

/-! Labels in ASCII -/

theorem isAscii_digitChar {d : Nat} (hd : d < 36) : isAscii (digitChar d) = true := by
  have hall : ∀ i : Fin 36, isAscii (digitChar i.val) = true := by decide
  exact hall ⟨d, hd⟩

theorem threshold_bounds (bias k : Nat) : 1 ≤ threshold bias k ∧ threshold bias k ≤ 26 := by
  unfold threshold
  omega

/-- A number is written in digits. -/
theorem exists_digit_of_mem_writeNumber (bias k n : Nat) :
    ∀ c ∈ writeNumber bias k n, ∃ d < 36, c = digitChar d := by
  induction k, n using writeNumber.induct bias with
  | case1 k n t hlt =>
    have ht := threshold_bounds bias k
    rw [writeNumber, if_pos hlt]
    intro c hc
    exact ⟨n, by omega, List.mem_singleton.mp hc⟩
  | case2 k n t hge ih =>
    have ht := threshold_bounds bias k
    have hmod : (n - threshold bias k) % (36 - threshold bias k) < 36 - threshold bias k :=
      Nat.mod_lt _ (by omega)
    rw [writeNumber, if_neg hge]
    exact List.forall_mem_cons.mpr ⟨⟨_, by omega, rfl⟩, ih⟩

theorem exists_digit_of_mem_writeNumbers (s : Scale) (ns : List Nat) :
    ∀ c ∈ writeNumbers s ns, ∃ d < 36, c = digitChar d := by
  induction ns generalizing s with
  | nil => simp [writeNumbers]
  | cons n ns ih =>
    intro c hc
    rw [writeNumbers, List.mem_append] at hc
    rcases hc with hc | hc
    · exact exists_digit_of_mem_writeNumber _ _ _ c hc
    · exact ih _ c hc

/-- An encoded label holds characters of the label in ASCII, the delimiter and digits. -/
theorem mem_encode {s : List Char} {c : Char} (hc : c ∈ encode s) :
    (c ∈ s ∧ isAscii c = true) ∨ c = delimiter ∨ ∃ d < 36, c = digitChar d := by
  simp only [encode, List.mem_append] at hc
  rcases hc with (hc | hc) | hc
  · exact Or.inl (List.mem_filter.mp hc)
  · split at hc
    · exact absurd hc List.not_mem_nil
    · exact Or.inr (Or.inl (List.mem_singleton.mp hc))
  · exact Or.inr (Or.inr (exists_digit_of_mem_writeNumbers _ _ c hc))

theorem isAscii_of_mem_encode (s : List Char) : ∀ c ∈ encode s, isAscii c = true := by
  intro c hc
  rcases mem_encode hc with ⟨-, hc⟩ | rfl | ⟨d, hd, rfl⟩
  · exact hc
  · decide
  · exact isAscii_digitChar hd

theorem digitValue?_isSome_ascii {c : Char} (h : (digitValue? c).isSome) : isAscii c = true := by
  apply decide_eq_true
  unfold digitValue? at h
  split at h
  · rename_i hc
    have hle : c.toNat ≤ 0x7A := toNat_le_of_le hc.2
    omega
  · obtain ⟨hc, -⟩ := Option.ite_none_right_eq_some.mp (Option.eq_some_of_isSome h)
    have hle : c.toNat ≤ 0x39 := toNat_le_of_le hc.2
    omega

theorem isSome_of_readNumbers {s : Scale} {p : Partial} {digits : List Char} {ns : List Nat}
    (h : readNumbers s p digits = some ns) : ∀ c ∈ digits, (digitValue? c).isSome := by
  induction digits generalizing s p ns with
  | nil => simp
  | cons c rest ih =>
    rw [readNumbers] at h
    obtain ⟨d, hd, h⟩ := Option.bind_eq_some_iff.mp h
    refine List.forall_mem_cons.mpr ⟨by simp [hd], ?_⟩
    dsimp only at h
    split at h
    · obtain ⟨numbers, hnumbers, -⟩ := Option.bind_eq_some_iff.mp h
      exact ih hnumbers
    · exact ih h

theorem mem_of_insertAt {cursor : Cursor} {s t : List Char} {ns : List Nat}
    (h : insertAt cursor s ns = some t) : ∀ c ∈ s, c ∈ t := by
  induction ns generalizing cursor s with
  | nil =>
    obtain rfl := Option.some.inj h
    exact fun c hc => hc
  | cons n ns ih =>
    rw [insertAt] at h
    obtain ⟨-, h⟩ := Option.ite_none_right_eq_some.mp h
    intro c hc
    exact ih h c (List.subset_insertIdx _ _ _ hc)

/-- A label that can be decoded holds characters of the decoded text in ASCII, the delimiter and
digits. -/
theorem mem_of_decode {s t : List Char} (h : decode s = some t) {c : Char} (hc : c ∈ s) :
    (c ∈ t ∧ isAscii c = true) ∨ c = delimiter ∨ (digitValue? c).isSome := by
  obtain ⟨basic, digits, hsplit⟩ : ∃ basic digits, splitBasic s = (basic, digits) := ⟨_, _, rfl⟩
  have hparts : c ∈ basic ∨ c = delimiter ∨ c ∈ digits := by
    unfold splitBasic at hsplit
    split at hsplit
    · rename_i b before after hcut
      obtain ⟨rfl, rfl⟩ := Prod.mk.inj hsplit
      obtain ⟨d, hs, -, hd⟩ := cutAroundLast_eq_some_iff.mp hcut
      rw [hs] at hc
      rcases List.mem_append.mp hc with hc | hc
      · exact Or.inl hc
      · rcases List.mem_cons.mp hc with rfl | hc
        · exact Or.inr (Or.inl (of_decide_eq_true hd))
        · exact Or.inr (Or.inr hc)
    · obtain ⟨-, rfl⟩ := Prod.mk.inj hsplit
      exact Or.inr (Or.inr hc)
  unfold decode at h
  rw [hsplit] at h
  simp only at h
  split at h
  · exact absurd h (by simp)
  · rename_i hbasic
    obtain ⟨ns, hns, hmade⟩ := Option.bind_eq_some_iff.mp h
    rcases hparts with hc | hc | hc
    · simp only [Bool.not_eq_true, Bool.not_eq_false', List.all_eq_true] at hbasic
      exact Or.inl ⟨mem_of_insertAt hmade c hc, hbasic c hc⟩
    · exact Or.inr (Or.inl hc)
    · exact Or.inr (Or.inr (isSome_of_readNumbers hns c hc))

theorem isAscii_of_decode {s t : List Char} (h : decode s = some t) :
    ∀ c ∈ s, isAscii c = true := by
  intro c hc
  rcases mem_of_decode h hc with ⟨-, hc⟩ | rfl | hc
  · exact hc
  · decide
  · exact digitValue?_isSome_ascii hc

end Url.Punycode

end PaymentConnector
