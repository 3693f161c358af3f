import PaymentConnector.Json.Printer
import PaymentConnector.Proofs.ReaderFindings

/-!
Strings as they are written in JSON text. Every character is spelled by itself, by a named
escape, by one numbered unit or by a pair of them, and the reader joins its pieces to the
same character, whatever comes after. So a string is read back from its text in every
dialect.
-/

namespace PaymentConnector.Json

open Text

/-! Hexadecimal digits -/

theorem hexValue?_digitChar {k : Nat} (hk : k < 16) : hexValue? k.digitChar = some k := by
  have hall : ∀ i : Fin 16, hexValue? i.val.digitChar = some i.val := by decide
  exact hall ⟨k, hk⟩

theorem hexPadded_succ {width : Nat} (hwidth : 0 < width) (n : Nat) :
    hexPadded (width + 1) n = hexPadded width (n / 16) ++ [(n % 16).digitChar] := by
  by_cases hn : n < 16
  · have hdiv : n / 16 = 0 := by omega
    have hmod : n % 16 = n := by omega
    obtain ⟨w, rfl⟩ : ∃ w, width = w + 1 := ⟨width - 1, by omega⟩
    simp [hexPadded, Nat.toDigits_of_lt_base hn, hdiv, hmod, List.replicate_succ']
  · have hdigits := Nat.toDigits_of_base_le (b := 16) (by omega) (Nat.not_lt.mp hn)
    have hlength : width + 1 - ((Nat.toDigits 16 (n / 16)).length + 1) =
        width - (Nat.toDigits 16 (n / 16)).length := by omega
    simp only [hexPadded, hdigits, List.length_append, List.length_cons, List.length_nil,
      hlength, List.append_assoc]

theorem hexPadded_four {n : Nat} (hn : n < 0x10000) :
    hexPadded 4 n = [(n / 4096).digitChar, (n / 256 % 16).digitChar, (n / 16 % 16).digitChar,
      (n % 16).digitChar] := by
  have htop : n / 16 / 16 / 16 = n / 4096 := by omega
  have hmid : n / 16 / 16 % 16 = n / 256 % 16 := by omega
  have hone : hexPadded 1 (n / 4096) = [(n / 4096).digitChar] := by
    simp [hexPadded, Nat.toDigits_of_lt_base (show n / 4096 < 16 by omega)]
  rw [hexPadded_succ (by omega), hexPadded_succ (by omega), hexPadded_succ (by omega), htop, hmid,
    hone]
  rfl

/-- Four digits are read as the number that they were written for. -/
theorem unitOf?_digits {n : Nat} (hn : n < 0x10000) :
    unitOf? (n / 4096).digitChar (n / 256 % 16).digitChar (n / 16 % 16).digitChar
      (n % 16).digitChar = some n := by
  have hvalue : ((n / 4096 * 16 + n / 256 % 16) * 16 + n / 16 % 16) * 16 + n % 16 = n := by omega
  simp [unitOf?, hexValue?_digitChar (show n / 4096 < 16 by omega),
    hexValue?_digitChar (show n / 256 % 16 < 16 by omega),
    hexValue?_digitChar (show n / 16 % 16 < 16 by omega),
    hexValue?_digitChar (show n % 16 < 16 by omega), hvalue]

theorem finding_pieces_escapeUnit {n : Nat} (hn : n < 0x10000) (start : Nat) {r : List Char}
    (hr : r ≠ []) :
    (pieces start (escapeUnit n ++ r)).finding =
      (pieces start r).finding.mapValue (.unit n :: ·) := by
  obtain ⟨e, t, rfl⟩ := List.exists_cons_of_ne_nil hr
  have hread := finding_pieces_unit start (a := (n / 4096).digitChar)
    (b := (n / 256 % 16).digitChar) (c := (n / 16 % 16).digitChar) (d := (n % 16).digitChar)
    (e := e) (r := t)
  rw [unitOf?_digits hn] at hread
  rw [escapeUnit, hexPadded_four hn]
  exact hread

/-! Characters -/

/-- No character is a half of a surrogate pair. -/
theorem toNat_range (c : Char) :
    c.toNat < 0xD800 ∨ 0xDFFF < c.toNat ∧ c.toNat < 0x110000 := c.valid

/-- A text is read as pieces that stand for a character, whatever follows them. -/
structure Spells (t : List Char) (ps : List Piece) (c : Char) : Prop where
  pieces_append : ∀ start r, r ≠ [] →
    (pieces start (t ++ r)).finding = (pieces start r).finding.mapValue (ps ++ ·)
  joinPieces_append : ∀ repair rest,
    joinPieces repair none (ps ++ rest) = (joinPieces repair none rest).map (c :: ·)

theorem spells_self {c : Char} (hquote : c ≠ '"') (hslash : c ≠ '\\') (hc : 0x20 ≤ c.toNat) :
    Spells [c] [.char c] c where
  pieces_append := by
    intro start r _
    simp [finding_pieces_char start hquote hslash, Nat.not_lt.mpr hc]
  joinPieces_append := by
    intro repair rest
    rfl

theorem spells_named {letter c : Char} (hletter : letter ≠ 'u')
    (hnamed : namedEscape? letter = some c) : Spells ['\\', letter] [.char c] c where
  pieces_append := by
    intro start r _
    simp [finding_pieces_escape start hletter, hnamed]
  joinPieces_append := by
    intro repair rest
    rfl

theorem spells_unit {c : Char} (hc : c.toNat < 0x10000) :
    Spells (escapeUnit c.toNat) [.unit c.toNat] c where
  pieces_append := by
    intro start r hr
    exact finding_pieces_escapeUnit hc start hr
  joinPieces_append := by
    intro repair rest
    have hrange := toNat_range c
    have hhigh : isHigh c.toNat = false := by simp [isHigh]; omega
    have hlow : isLow c.toNat = false := by simp [isLow]; omega
    simp [joinPieces, hhigh, hlow, Char.ofNat_toNat]

/-- A character beyond the basic plane is a pair of units. -/
theorem spells_pair {c : Char} {high low : Nat} (hc : 0x10000 ≤ c.toNat)
    (hhigh : high = 0xD800 + (c.toNat - 0x10000) / 0x400)
    (hlow : low = 0xDC00 + (c.toNat - 0x10000) % 0x400) :
    Spells (escapeUnit high ++ escapeUnit low) [.unit high, .unit low] c where
  pieces_append := by
    intro start r hr
    have hrange := toNat_range c
    have hne : escapeUnit low ++ r ≠ [] := by simp [escapeUnit]
    rw [List.append_assoc, finding_pieces_escapeUnit (by omega) start hne,
      finding_pieces_escapeUnit (by omega) start hr]
    rcases (pieces start r).finding with cause | ⟨ps, t⟩ <;> rfl
  joinPieces_append := by
    intro repair rest
    have hrange := toNat_range c
    have hfirst : isHigh high = true := by simp [isHigh]; omega
    have hsecond : isLow low = true := by simp [isLow]; omega
    have hcode : 0x10000 + (high - 0xD800) * 0x400 + (low - 0xDC00) = c.toNat := by omega
    simp [joinPieces, hfirst, hsecond, hcode, Char.ofNat_toNat]

theorem exists_spells_escapeChar (c : Char) : ∃ ps, Spells (escapeChar c) ps c := by
  unfold escapeChar
  split
  · rename_i h
    subst h
    exact ⟨_, spells_named (by decide) rfl⟩
  split
  · rename_i h
    subst h
    exact ⟨_, spells_named (by decide) rfl⟩
  split
  · rename_i h
    subst h
    exact ⟨_, spells_named (by decide) rfl⟩
  split
  · rename_i h
    subst h
    exact ⟨_, spells_named (by decide) rfl⟩
  split
  · rename_i h
    subst h
    exact ⟨_, spells_named (by decide) rfl⟩
  split
  · rename_i h
    have hc : Char.ofNat 0x0C = c := by rw [← h, Char.ofNat_toNat]
    exact ⟨_, spells_named (by decide) (congrArg some hc)⟩
  split
  · rename_i h
    have hc : Char.ofNat 0x08 = c := by rw [← h, Char.ofNat_toNat]
    exact ⟨_, spells_named (by decide) (congrArg some hc)⟩
  split
  · rename_i hquote hslash _ _ _ _ _ h
    exact ⟨_, spells_self hquote hslash h.1⟩
  · unfold escapeCode
    split
    · rename_i h
      exact ⟨_, spells_unit h⟩
    · rename_i h
      exact ⟨_, spells_pair (Nat.not_lt.mp h) rfl rfl⟩

/-! Whole strings -/

theorem exists_pieces_flatMap (cs : List Char) :
    ∃ ps, (∀ start r, (pieces start (cs.flatMap escapeChar ++ '"' :: r)).finding = .ok (ps, r)) ∧
      ∀ repair, joinPieces repair none ps = some cs := by
  induction cs with
  | nil => exact ⟨[], fun start r => finding_pieces_quote start, fun _ => rfl⟩
  | cons c cs ih =>
    obtain ⟨ps, hpieces, hjoin⟩ := ih
    obtain ⟨qs, hspells⟩ := exists_spells_escapeChar c
    refine ⟨qs ++ ps, ?_, ?_⟩
    · intro start r
      rw [List.flatMap_cons, List.append_assoc, hspells.pieces_append start _ (by simp), hpieces]
      rfl
    · intro repair
      rw [hspells.joinPieces_append, hjoin]
      rfl

/-- A string is read back from its text, after the opening quote. -/
theorem finding_stringBody_flatMap (d : Dialect) (s : String) (r : List Char) :
    (stringBody d (s.toList.flatMap escapeChar ++ '"' :: r)).finding = .ok (s, r) := by
  obtain ⟨ps, hpieces, hjoin⟩ := exists_pieces_flatMap s.toList
  rw [finding_stringBody, hpieces, Finding.andThen_ok, hjoin]
  simp only [String.ofList_toList]

end PaymentConnector.Json
