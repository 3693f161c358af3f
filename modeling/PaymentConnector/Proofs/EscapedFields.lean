import PaymentConnector.Proofs.EncodedTexts
import PaymentConnector.Proofs.KeptCharacters
import PaymentConnector.Proofs.NestedValues
import PaymentConnector.Url.Form

/-!
Form fields written into a query. A name and a value are texts in which every byte is
escaped, so neither holds an equals sign, an ampersand or a plus sign, and each is read back
from its bytes. So a query is read as the very fields that were written into it.
-/

namespace PaymentConnector.Url.Form

open Text

/-- A text that has a percent sign and two hexadecimal digits for each byte. -/
inductive Escapes : List UInt8 → List Char → Prop
  | nil : Escapes [] []
  | cons {b : UInt8} {x y : Char} {high low : Nat} {bytes : List UInt8} {s : List Char}
      (hx : hexDigit? x = some high) (hy : hexDigit? y = some low)
      (hb : b.toNat = 16 * high + low) (hrest : Escapes bytes s) :
      Escapes (b :: bytes) ('%' :: x :: y :: s)

/-- A text that a string is written as, with all its bytes escaped. -/
def Spells (t : String) (s : List Char) : Prop := Escapes (Utf8.encode t.toList) s

/-- Fields in a query: each is a name and a value around an equals sign, and an ampersand
stands between one field and the next. -/
inductive Writes : List (String × String) → List Char → Prop
  | nil : Writes [] []
  | one {key value : String} {name text : List Char} (hname : Spells key name)
      (htext : Spells value text) : Writes [(key, value)] (name ++ '=' :: text)
  | cons {key value : String} {name text : List Char} {next : String × String}
      {pairs : List (String × String)} {q : List Char} (hname : Spells key name)
      (htext : Spells value text) (hrest : Writes (next :: pairs) q) :
      Writes ((key, value) :: next :: pairs) (name ++ '=' :: text ++ '&' :: q)

/-- The text that a string is written as in capital digits. -/
def escape (t : String) : List Char := (Utf8.encode t.toList).flatMap encodeByte

/-- The query that fields are written as in capital digits. -/
def write : List (String × String) → List Char
  | [] => []
  | [(key, value)] => escape key ++ '=' :: escape value
  | (key, value) :: next :: pairs =>
    escape key ++ '=' :: escape value ++ '&' :: write (next :: pairs)

variable {t : String} {s q : List Char} {bytes : List UInt8} {pairs : List (String × String)}

/-! One text -/

theorem hexDigit?_upperHexDigit {n : Nat} (hn : n < 16) : hexDigit? (upperHexDigit n) = some n := by
  have hall : ∀ i : Fin 16, hexDigit? (upperHexDigit i.val) = some i.val := by decide
  exact hall ⟨n, hn⟩

theorem spells_escape (t : String) : Spells t (escape t) := by
  unfold Spells escape
  induction Utf8.encode t.toList with
  | nil => exact .nil
  | cons b bytes ih =>
    have hb : b.toNat < 256 := b.toNat_lt
    exact .cons (hexDigit?_upperHexDigit (by omega)) (hexDigit?_upperHexDigit (by omega))
      (by omega) ih

theorem Escapes.isEscapeChar (h : Escapes bytes s) : ∀ c ∈ s, isEscapeChar c = true := by
  induction h with
  | nil => simp
  | cons hx hy _ _ ih =>
    intro c hc
    simp only [List.mem_cons] at hc
    rcases hc with rfl | rfl | rfl | hc
    · rfl
    · simp [Url.isEscapeChar, hx]
    · simp [Url.isEscapeChar, hy]
    · exact ih c hc

/-- A mark is not in an escaped text. -/
theorem Escapes.free {d : Char} (h : Escapes bytes s) (hd : Url.isEscapeChar d = false) :
    Free (· = d) s :=
  fun c hc => decide_eq_false (ne_of_class (h.isEscapeChar c hc) hd)

theorem percentDecode_of_escapes (h : Escapes bytes s) : percentDecode s = bytes := by
  induction h with
  | nil => rw [percentDecode]
  | @cons b x y high low bytes s hx hy hb _ ih =>
    have hbyte : UInt8.ofNat (16 * high + low) = b := by rw [← hb, UInt8.ofNat_toNat]
    simp only [percentDecode, hx, hy, hbyte, ih]

theorem decodeText_of_spells (h : Spells t s) : decodeText s = t := by
  have hplus : s.map (fun c => if c = '+' then ' ' else c) = s := by
    have hfree : Free (· = '+') s := h.free (by decide)
    refine (List.map_congr_left fun c hc => ?_).trans (List.map_id s)
    exact if_neg (of_decide_eq_false (hfree c hc))
  have hpieces : Utf8.decodeLenient (Utf8.encode t.toList) = t.toList := by
    rw [Utf8.decodeLenient, Utf8.pieces_encode, List.map_map]
    exact List.map_id _
  rw [decodeText, hplus, percentDecode_of_escapes h, hpieces, String.ofList_toList]

/-! One field -/

theorem decodeField_of_spells {key value : String} {name text : List Char}
    (hname : Spells key name) (htext : Spells value text) :
    decodeField (name ++ '=' :: text) = (key, value) := by
  have hfree : Free (· = '=') name := hname.free (by decide)
  rw [decodeField, cutAround_append_cons hfree (by decide)]
  simp only [decodeText_of_spells hname, decodeText_of_spells htext]

theorem free_field {key value : String} {name text : List Char} (hname : Spells key name)
    (htext : Spells value text) : Free (· = '&') (name ++ '=' :: text) :=
  (hname.free (by decide)).append ((htext.free (by decide)).cons (by decide))

/-! All fields -/

/-- Every list of fields can be written. -/
theorem writes_write (pairs : List (String × String)) : Writes pairs (write pairs) := by
  induction pairs with
  | nil => exact .nil
  | cons e pairs ih =>
    cases pairs with
    | nil => exact .one (spells_escape e.1) (spells_escape e.2)
    | cons next pairs => exact .cons (spells_escape e.1) (spells_escape e.2) ih

/-- A query is read as the fields that were written into it. -/
theorem pairs_of_writes (h : Writes pairs q) : Form.pairs q = pairs := by
  induction h with
  | nil => rfl
  | one hname htext =>
    rw [Form.pairs, fields_of_free (free_field hname htext)]
    simp [decodeField_of_spells hname htext]
  | cons hname htext _ ih =>
    rw [Form.pairs, fields_append_cons (free_field hname htext) (by decide)]
    rw [Form.pairs] at ih
    simp [decodeField_of_spells hname htext, ih]

/-- A query holds escapes and the marks of fields. -/
theorem mem_of_writes (h : Writes pairs q) :
    ∀ c ∈ q, Url.isEscapeChar c = true ∨ c = '=' ∨ c = '&' := by
  have hfield {key value : String} {name text : List Char} (hname : Spells key name)
      (htext : Spells value text) (c : Char) (hc : c ∈ name ++ '=' :: text) :
      Url.isEscapeChar c = true ∨ c = '=' ∨ c = '&' := by
    simp only [List.mem_append, List.mem_cons] at hc
    rcases hc with hc | rfl | hc
    · exact Or.inl (hname.isEscapeChar c hc)
    · exact Or.inr (Or.inl rfl)
    · exact Or.inl (htext.isEscapeChar c hc)
  induction h with
  | nil => simp
  | one hname htext => exact hfield hname htext
  | cons hname htext _ ih =>
    intro c hc
    rcases List.mem_append.mp hc with hc | hc
    · exact hfield hname htext c hc
    · rcases List.mem_cons.mp hc with rfl | hc
      · exact Or.inr (Or.inr rfl)
      · exact ih c hc

theorem keepSpecialQuery_of_isEscapeChar {c : Char} (h : Url.isEscapeChar c = true) :
    keepSpecialQuery c = true :=
  of_ascii (P := fun c => Url.isEscapeChar c = true → keepSpecialQuery c = true)
    (by decide +kernel)
    (toNat_lt_of_keepPlain (keepPlain_of_keepUserinfo (keepUserinfo_of_isEscapeChar h))) h

/-- A query that fields were written into is kept as it is. -/
theorem keepSpecialQuery_of_writes (h : Writes pairs q) :
    ∀ c ∈ q, keepSpecialQuery c = true := by
  intro c hc
  rcases mem_of_writes h c hc with hescape | rfl | rfl
  · exact keepSpecialQuery_of_isEscapeChar hescape
  · decide
  · decide

/-- The fields by name: for each name the value that was written last. -/
theorem lookup_read_of_writes (h : Writes pairs q) (key : String) :
    (read q).lookup key = pairs.reverse.lookup key := by
  rw [read, pairs_of_writes h, Entries.lookup_ofList]

theorem nodup_keys_read (q : List Char) : ((read q).map Prod.fst).Nodup :=
  Entries.nodup_keys_ofList _

theorem read_of_writes (h : Writes pairs q) (hkeys : (pairs.map Prod.fst).Nodup) :
    read q = pairs := by
  rw [read, pairs_of_writes h, Entries.ofList_of_nodup hkeys]

end PaymentConnector.Url.Form
