import PaymentConnector.Text.Utf8

/-!
Texts as bytes. The automaton takes the bytes of a character for that character and is then
between characters again, so strict decoding gives back the text that was encoded.
-/

namespace PaymentConnector.Text.Utf8

theorem toNat_byte {n : Nat} (hn : n < 256) : (UInt8.ofNat n).toNat = n := by
  rw [UInt8.toNat_ofNat']
  omega

/-! Single bytes -/

/-- The first byte of a character, told by the state that it leads to. -/
theorem pieces_first {b : UInt8} {state : State} (h : first b = ([], state)) (rest : List UInt8) :
    pieces .start (b :: rest) = pieces state rest := by
  rw [pieces, step, h]
  rfl

section

variable {read : List UInt8} {owed low high value k : Nat}

theorem pieces_owed (howed : 1 < owed) (hlow : low ≤ k + 0x80) (hhigh : k + 0x80 ≤ high)
    (hk : k < 64) (rest : List UInt8) :
    pieces (.inside read owed low high value) (UInt8.ofNat (k + 0x80) :: rest) =
      pieces (.inside (read ++ [UInt8.ofNat (k + 0x80)]) (owed - 1) 0x80 0xBF (value * 64 + k))
        rest := by
  have hbyte : (UInt8.ofNat (k + 0x80)).toNat = k + 0x80 := toNat_byte (by omega)
  have hbits : k + 0x80 - 0x80 = k := by omega
  have hmore : ¬ owed ≤ 1 := by omega
  simp only [pieces, step, hbyte, hlow, hhigh, and_self, if_true, hmore, if_false, hbits,
    List.nil_append]

theorem pieces_last (hlow : low ≤ k + 0x80) (hhigh : k + 0x80 ≤ high) (hk : k < 64)
    (rest : List UInt8) :
    pieces (.inside read 1 low high value) (UInt8.ofNat (k + 0x80) :: rest) =
      .char (Char.ofNat (value * 64 + k)) :: pieces .start rest := by
  have hbyte : (UInt8.ofNat (k + 0x80)).toNat = k + 0x80 := toNat_byte (by omega)
  have hbits : k + 0x80 - 0x80 = k := by omega
  simp only [pieces, step, hbyte, hlow, hhigh, and_self, if_true, Nat.le_refl, hbits,
    List.cons_append, List.nil_append]

end

/-! First bytes, by the length of the character -/

theorem first_one {v : Nat} (hv : v ≤ 0x7F) :
    first (UInt8.ofNat v) = ([.char (Char.ofNat v)], .start) := by
  have hbyte : (UInt8.ofNat v).toNat = v := toNat_byte (by omega)
  have hlt : v < 0x80 := by omega
  simp only [first, hbyte, hlt, if_true]

theorem first_two {v : Nat} (hlow : 0x7F < v) (hhigh : v ≤ 0x7FF) :
    first (UInt8.ofNat (v / 64 % 0x20 + 0xC0)) =
      ([], .inside [UInt8.ofNat (v / 64 % 0x20 + 0xC0)] 1 0x80 0xBF (v / 64)) := by
  have hbyte : (UInt8.ofNat (v / 64 % 0x20 + 0xC0)).toNat = v / 64 % 0x20 + 0xC0 :=
    toNat_byte (by omega)
  have hone : ¬ v / 64 % 0x20 + 0xC0 < 0x80 := by omega
  have htwo : 0xC2 ≤ v / 64 % 0x20 + 0xC0 ∧ v / 64 % 0x20 + 0xC0 ≤ 0xDF := by omega
  have hbits : v / 64 % 0x20 + 0xC0 - 0xC0 = v / 64 := by omega
  simp only [first, hbyte, hone, htwo, hbits, if_true, if_false, and_self]

/-- The second byte has bounds of its own after two of the first bytes: it may make the
character neither shorter nor a half of a surrogate pair. -/
theorem exists_first_three {v : Nat} (hlow : 0x7FF < v) (hhigh : v ≤ 0xFFFF)
    (hpair : v < 0xD800 ∨ 0xDFFF < v) :
    ∃ low high, low ≤ v / 64 % 0x40 + 0x80 ∧ v / 64 % 0x40 + 0x80 ≤ high ∧
      first (UInt8.ofNat (v / 4096 % 0x10 + 0xE0)) =
        ([], .inside [UInt8.ofNat (v / 4096 % 0x10 + 0xE0)] 2 low high (v / 4096)) := by
  have hbyte : (UInt8.ofNat (v / 4096 % 0x10 + 0xE0)).toNat = v / 4096 % 0x10 + 0xE0 :=
    toNat_byte (by omega)
  have hbits : v / 4096 % 0x10 = v / 4096 := by omega
  rw [first, hbyte, hbits]
  by_cases hzero : v / 4096 = 0
  · refine ⟨0xA0, 0xBF, by omega, by omega, ?_⟩
    simp [hzero]
  by_cases hthirteen : v / 4096 = 13
  · refine ⟨0x80, 0x9F, by omega, by omega, ?_⟩
    simp [hthirteen]
  · refine ⟨0x80, 0xBF, by omega, by omega, ?_⟩
    have hone : ¬ v / 4096 + 0xE0 < 0x80 := by omega
    have htwo : ¬ (0xC2 ≤ v / 4096 + 0xE0 ∧ v / 4096 + 0xE0 ≤ 0xDF) := by omega
    have hleast : ¬ v / 4096 + 0xE0 = 0xE0 := by omega
    have hhalves : ¬ v / 4096 + 0xE0 = 0xED := by omega
    have hthree : 0xE1 ≤ v / 4096 + 0xE0 ∧ v / 4096 + 0xE0 ≤ 0xEF := by omega
    have hvalue : v / 4096 + 0xE0 - 0xE0 = v / 4096 := by omega
    simp only [hone, htwo, hleast, hhalves, hthree, hvalue, if_true, if_false, and_self]

/-- The second byte may make the character neither shorter nor greater than the last one. -/
theorem exists_first_four {v : Nat} (hlow : 0xFFFF < v) (hhigh : v < 0x110000) :
    ∃ low high, low ≤ v / 4096 % 0x40 + 0x80 ∧ v / 4096 % 0x40 + 0x80 ≤ high ∧
      first (UInt8.ofNat (v / 262144 % 0x08 + 0xF0)) =
        ([], .inside [UInt8.ofNat (v / 262144 % 0x08 + 0xF0)] 3 low high (v / 262144)) := by
  have hbyte : (UInt8.ofNat (v / 262144 % 0x08 + 0xF0)).toNat = v / 262144 % 0x08 + 0xF0 :=
    toNat_byte (by omega)
  have hbits : v / 262144 % 0x08 = v / 262144 := by omega
  rw [first, hbyte, hbits]
  by_cases hzero : v / 262144 = 0
  · refine ⟨0x90, 0xBF, by omega, by omega, ?_⟩
    simp [hzero]
  by_cases hfour : v / 262144 = 4
  · refine ⟨0x80, 0x8F, by omega, by omega, ?_⟩
    simp [hfour]
  · refine ⟨0x80, 0xBF, by omega, by omega, ?_⟩
    have hone : ¬ v / 262144 + 0xF0 < 0x80 := by omega
    have htwo : ¬ (0xC2 ≤ v / 262144 + 0xF0 ∧ v / 262144 + 0xF0 ≤ 0xDF) := by omega
    have hleast : ¬ v / 262144 + 0xF0 = 0xE0 := by omega
    have hhalves : ¬ v / 262144 + 0xF0 = 0xED := by omega
    have hthree : ¬ (0xE1 ≤ v / 262144 + 0xF0 ∧ v / 262144 + 0xF0 ≤ 0xEF) := by omega
    have hfirst : ¬ v / 262144 + 0xF0 = 0xF0 := by omega
    have hlast : ¬ v / 262144 + 0xF0 = 0xF4 := by omega
    have hmiddle : 0xF1 ≤ v / 262144 + 0xF0 ∧ v / 262144 + 0xF0 ≤ 0xF3 := by omega
    have hvalue : v / 262144 + 0xF0 - 0xF0 = v / 262144 := by omega
    simp only [hone, htwo, hleast, hhalves, hthree, hfirst, hlast, hmiddle, hvalue, if_true,
      if_false, and_self]

/-! Whole characters and texts -/

theorem pieces_encodeChar (c : Char) (rest : List UInt8) :
    pieces .start (String.utf8EncodeChar c ++ rest) = .char c :: pieces .start rest := by
  have hrange : c.toNat < 0xD800 ∨ 0xDFFF < c.toNat ∧ c.toNat < 0x110000 := c.valid
  have hself : Char.ofNat c.toNat = c := Char.ofNat_toNat c
  have hval : c.val.toNat = c.toNat := rfl
  rw [String.utf8EncodeChar, hval]
  generalize c.toNat = v at hrange hself
  subst hself
  split
  · rename_i hone
    rw [List.singleton_append, pieces, step, first_one hone]
    rfl
  split
  · rename_i hone htwo
    have hvalue : v / 64 * 64 + v % 0x40 = v := by omega
    simp only [List.cons_append, List.nil_append]
    rw [pieces_first (first_two (by omega) htwo), pieces_last (by omega) (by omega) (by omega),
      hvalue]
  split
  · rename_i hone htwo hthree
    obtain ⟨low, high, hlow, hhigh, hfirst⟩ := exists_first_three (by omega) hthree (by omega)
    have hvalue : (v / 4096 * 64 + v / 64 % 0x40) * 64 + v % 0x40 = v := by omega
    simp only [List.cons_append, List.nil_append]
    rw [pieces_first hfirst, pieces_owed (by omega) hlow hhigh (by omega),
      pieces_last (by omega) (by omega) (by omega), hvalue]
  · rename_i hone htwo hthree
    obtain ⟨low, high, hlow, hhigh, hfirst⟩ :=
      exists_first_four (by omega) (by omega : v < 0x110000)
    have hvalue :
        ((v / 262144 * 64 + v / 4096 % 0x40) * 64 + v / 64 % 0x40) * 64 + v % 0x40 = v := by
      omega
    simp only [List.cons_append, List.nil_append]
    rw [pieces_first hfirst, pieces_owed (by omega) hlow hhigh (by omega),
      pieces_owed (by omega) (by omega) (by omega) (by omega),
      pieces_last (by omega) (by omega) (by omega), hvalue]

theorem pieces_encode (s : List Char) : pieces .start (encode s) = s.map .char := by
  induction s with
  | nil => rfl
  | cons c s ih =>
    have hcons : encode (c :: s) = String.utf8EncodeChar c ++ encode s := rfl
    rw [hcons, pieces_encodeChar, ih, List.map_cons]

theorem collect_map_char (position : Nat) (s : List Char) :
    collect position (s.map .char) = .ok s := by
  induction s generalizing position with
  | nil => rfl
  | cons c s ih =>
    rw [List.map_cons, collect, ih]
    rfl

theorem decode_encode (s : List Char) : decode (encode s) = .ok s := by
  rw [decode, pieces_encode, collect_map_char]

end PaymentConnector.Text.Utf8
