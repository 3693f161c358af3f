import PaymentConnector.Proofs.SpelledValues
import PaymentConnector.Proofs.WholeNumberTexts

/-!
The grammar of JSON text. A value is spelled with blanks around its parts, with escapes in its
strings and with fractions and exponents in its numbers; an object is spelled with all its
entries, and a key may come again; the numbers are as short as a limit wants them. What is read
from such a text is the value with the entry that comes last for each key, if the reader goes deep
enough.
-/

namespace PaymentConnector.Json

/-! Strings -/

/-- A piece of a string with its text: a character by itself, a named escape or a numbered unit. -/
inductive IsPiece : Piece → List Char → Prop
  | self {c : Char} (hquote : c ≠ '"') (hslash : c ≠ '\\') (hc : 0x20 ≤ c.toNat) :
      IsPiece (.char c) [c]
  | named {letter c : Char} (h : namedEscape? letter = some c) : IsPiece (.char c) ['\\', letter]
  | numbered {a b c d : Char} {n : Nat} (h : unitOf? a b c d = some n) :
      IsPiece (.unit n) ['\\', 'u', a, b, c, d]

/-- A character of a string with its text. A half of a surrogate pair is no character, but the
two halves are one. -/
inductive IsLetter : Char → List Char → Prop
  | char {c : Char} {t : List Char} (h : IsPiece (.char c) t) : IsLetter c t
  | unit {n : Nat} {t : List Char} (h : IsPiece (.unit n) t) (hhigh : isHigh n = false)
      (hlow : isLow n = false) : IsLetter (Char.ofNat n) t
  | pair {high low : Nat} {t t' : List Char} (h : IsPiece (.unit high) t)
      (h' : IsPiece (.unit low) t') (hhigh : isHigh high = true) (hlow : isLow low = true) :
      IsLetter (Char.ofNat (0x10000 + (high - 0xD800) * 0x400 + (low - 0xDC00))) (t ++ t')

/-- The characters of a string with the text between its quotes. -/
inductive IsString : List Char → List Char → Prop
  | nil : IsString [] []
  | cons {c : Char} {cs t u : List Char} (hc : IsLetter c t) (h : IsString cs u) :
      IsString (c :: cs) (t ++ u)

/-- A string with its text. -/
def IsQuoted (s : String) (t : List Char) : Prop :=
  ∃ u, IsString s.toList u ∧ t = '"' :: (u ++ ['"'])

/-! Values -/

/-- A text with the blanks around it. -/
structure Padded where
  before : List Char
  text : List Char
  after : List Char
  blanks_before : Blanks before
  blanks_after : Blanks after

def Padded.chars (p : Padded) : List Char := p.before ++ (p.text ++ p.after)

/-- Texts with commas between them. -/
def rowText (ps : List Padded) : List Char := joinWith [','] (ps.map Padded.chars)

/-- An entry of an object with the texts of its name and of its value. -/
structure Member where
  key : String
  name : Padded
  value : Json
  body : Padded

/-- The text of an entry as a whole. -/
def Member.padded (m : Member) : Padded where
  before := m.name.before
  text := m.name.text ++ (m.name.after ++ ':' :: (m.body.before ++ m.body.text))
  after := m.body.after
  blanks_before := m.name.blanks_before
  blanks_after := m.body.blanks_after

/-- A value with its text. An object has all the entries that the text has, in that order. -/
inductive Spelled (l : NumberLimit) : Json → List Char → Prop
  | word {j : Json} {t : List Char} (h : IsWord j t) : Spelled l j t
  | number {j : Json} {t : List Char} (h : IsNumber l j t) : Spelled l j t
  | string {s : String} {t : List Char} (h : IsQuoted s t) : Spelled l (.str s) t
  | list {items : List (Json × Padded)} {w : List Char} (hw : Blanks w)
      (hitems : ∀ e ∈ items, Spelled l e.1 e.2.text) :
      Spelled l (.arr (items.map Prod.fst)) ('[' :: (w ++ (rowText (items.map Prod.snd) ++ [']'])))
  | object {members : List Member} {w : List Char} (hw : Blanks w)
      (hnames : ∀ m ∈ members, IsQuoted m.key m.name.text)
      (hvalues : ∀ m ∈ members, Spelled l m.value m.body.text) :
      Spelled l (.obj (members.map fun m => (m.key, m.value)))
        ('{' :: (w ++ (rowText (members.map Member.padded) ++ ['}'])))

/-- A text that is JSON for a value, with no number that is longer than the limit. -/
def JsonText (l : NumberLimit) (j : Json) (t : List Char) : Prop :=
  ∃ p : Padded, Spelled l j p.text ∧ t = p.chars

/-! Keys that come again -/

mutual

/-- A value in which every key of an object stands once and has the value that came last. -/
def merged : Json → Json
  | arr items => arr (mergedItems items)
  | obj entries => obj (Entries.ofList (mergedEntries entries))
  | j => j

def mergedItems : List Json → List Json
  | [] => []
  | j :: rest => merged j :: mergedItems rest

def mergedEntries : List (String × Json) → List (String × Json)
  | [] => []
  | (key, j) :: rest => (key, merged j) :: mergedEntries rest

end

theorem mergedItems_eq_map (items : List Json) : mergedItems items = items.map merged := by
  induction items with
  | nil => rfl
  | cons j rest ih => rw [mergedItems, ih, List.map_cons]

theorem mergedEntries_eq_map (entries : List (String × Json)) :
    mergedEntries entries = entries.map fun e => (e.1, e.2.merged) := by
  induction entries with
  | nil => rfl
  | cons e rest ih => rw [mergedEntries, ih, List.map_cons]

theorem merged_arr (items : List Json) : (arr items).merged = arr (items.map merged) := by
  rw [merged, mergedItems_eq_map]

/-- The entries of an object that come last for their keys. -/
def lastEntries (entries : Object) : Object :=
  Entries.ofList (entries.map fun e => (e.1, e.2.merged))

theorem merged_obj (entries : Object) : (obj entries).merged = obj (lastEntries entries) := by
  rw [merged, mergedEntries_eq_map, lastEntries]

/-- A key has the value that came last for it. -/
theorem get?_lastEntries (entries : Object) (key : String) :
    (lastEntries entries).get? key = (entries.reverse.lookup key).map merged := by
  rw [Object.get?, lastEntries, Entries.lookup_ofList, ← List.map_reverse]
  induction entries.reverse with
  | nil => rfl
  | cons e rest ih =>
    obtain ⟨k, j⟩ := e
    rw [List.map_cons, Entries.lookup_cons, Entries.lookup_cons, ih]
    split <;> rfl

/-- The value of a key stands in an entry. -/
theorem mem_of_get? {o : Object} {key : String} {j : Json} (h : o.get? key = some j) :
    (key, j) ∈ o := by
  induction o with
  | nil => cases h
  | cons e o ih =>
    obtain ⟨k, v⟩ := e
    rw [Object.get?, Entries.lookup_cons] at h
    split at h
    · rename_i hkey
      obtain rfl := Option.some.inj h
      rw [hkey]
      exact List.mem_cons_self
    · exact List.mem_cons_of_mem _ (ih h)

/-! Reading strings -/

theorem finding_pieces_append {p : Piece} {t : List Char} (h : IsPiece p t) (start : Nat)
    {r : List Char} (hr : r ≠ []) :
    (pieces start (t ++ r)).finding = (pieces start r).finding.mapValue (p :: ·) := by
  cases h with
  | self hquote hslash hc => exact (spells_self hquote hslash hc).pieces_append start r hr
  | @named letter c h =>
    have hletter : letter ≠ 'u' := by
      rintro rfl
      exact absurd h (by simp [namedEscape?])
    exact (spells_named hletter h).pieces_append start r hr
  | @numbered a b c d n h =>
    obtain ⟨e, u, rfl⟩ := List.exists_cons_of_ne_nil hr
    have hread := finding_pieces_unit start (a := a) (b := b) (c := c) (d := d) (e := e) (r := u)
    rw [h] at hread
    exact hread

theorem exists_spells_of_isLetter {c : Char} {t : List Char} (h : IsLetter c t) :
    ∃ ps, Spells t ps c := by
  cases h with
  | char h =>
    refine ⟨[.char c], fun start r hr => finding_pieces_append h start hr, fun repair rest => ?_⟩
    rfl
  | @unit n _ h hhigh hlow =>
    refine ⟨[.unit n], fun start r hr => finding_pieces_append h start hr, fun repair rest => ?_⟩
    simp [joinPieces, hhigh, hlow]
  | @pair high low t t' h h' hhigh hlow =>
    refine ⟨[.unit high, .unit low], fun start r hr => ?_, fun repair rest => ?_⟩
    · rw [List.append_assoc, finding_pieces_append h start (by simp [hr]),
        finding_pieces_append h' start hr]
      rcases (pieces start r).finding with cause | ⟨ps, u⟩ <;> rfl
    · simp [joinPieces, hhigh, hlow]

theorem exists_pieces_of_isString {cs t : List Char} (h : IsString cs t) :
    ∃ ps, (∀ start r, (pieces start (t ++ '"' :: r)).finding = .ok (ps, r)) ∧
      ∀ repair, joinPieces repair none ps = some cs := by
  induction h with
  | nil => exact ⟨[], fun start r => finding_pieces_quote start, fun _ => rfl⟩
  | cons hc h ih =>
    obtain ⟨ps, hpieces, hjoin⟩ := ih
    obtain ⟨qs, hspells⟩ := exists_spells_of_isLetter hc
    refine ⟨qs ++ ps, fun start r => ?_, fun repair => ?_⟩
    · rw [List.append_assoc, hspells.pieces_append start _ (by simp), hpieces]
      rfl
    · rw [hspells.joinPieces_append, hjoin]
      rfl

theorem finding_stringBody_append {s : String} {t : List Char} (h : IsString s.toList t)
    (d : Dialect) (r : List Char) : (stringBody d (t ++ '"' :: r)).finding = .ok (s, r) := by
  obtain ⟨ps, hpieces, hjoin⟩ := exists_pieces_of_isString h
  rw [finding_stringBody, hpieces, Finding.andThen_ok, hjoin]
  simp only [String.ofList_toList]

/-! Reading numbers -/

theorem finding_scalar_signed (l : NumberLimit) (negative : Bool) {w t : List Char}
    (hw : IsWhole w) :
    (scalar l (minusText negative ++ (w ++ t))).finding = unsignedFinding l negative (w ++ t) := by
  cases negative with
  | false => exact finding_scalar_digits l hw.digits hw.ne_nil rfl
  | true => exact finding_scalar_minus l hw.digits hw.ne_nil rfl

theorem finding_scalar_number {l : NumberLimit} {j : Json} {t r : List Char} (h : IsNumber l j t)
    (hr : Follows r) : (scalar l (t ++ r)).finding = .ok (j, r) := by
  obtain ⟨negative, w, u, hw, heq, hfinding⟩ := unsignedFinding_of_isNumber h hr.endsNumber
  rw [heq, finding_scalar_signed l negative hw, hfinding]

theorem IsNumber.exists_cons {l : NumberLimit} {j : Json} {t : List Char} (h : IsNumber l j t) :
    ∃ c r, t = c :: r ∧ (c.isAlphanum = true ∨ c = '-') := by
  have hsigned (negative : Bool) {w : List Char} (hw : IsWhole w) (u : List Char) :
      ∃ c r, minusText negative ++ (w ++ u) = c :: r ∧ (c.isAlphanum = true ∨ c = '-') := by
    cases negative with
    | false =>
      obtain ⟨c, r, heq, hc⟩ := hw.exists_cons u
      exact ⟨c, r, heq, Or.inl hc⟩
    | true => exact ⟨_, _, rfl, Or.inr rfl⟩
  cases h with
  | whole negative hw hl => simpa using hsigned negative hw []
  | decimal negative hw hl hds he hne => exact hsigned negative hw _

/-! Reading rows -/

theorem rowText_cons_cons (p q : Padded) (ps : List Padded) :
    rowText (p :: q :: ps) = p.chars ++ ',' :: rowText (q :: ps) := by
  simp [rowText, joinWith]

section

variable {α β : Type} {close : Char} {one : List Char → Finding α}
  {more : List Char → Finding (List α)} {w : List Char} {parts : List β} {val : β → α}
  {pad : β → Padded}

theorem skipBlanks_chars {p : Padded} (h : Starts p.text) (r : List Char) :
    skipBlanks (p.chars ++ r) = p.text ++ (p.after ++ r) := by
  rw [Padded.chars, List.append_assoc, List.append_assoc, skipBlanks_append p.blanks_before,
    (h.append _).skipBlanks_eq]

theorem afterItem_blanks_comma (hclose : close ≠ ',') (hw : Blanks w) (a : α) (r : List Char) :
    afterItem close more a (w ++ ',' :: r) = (more (skipBlanks r)).mapValue (a :: ·) := by
  have hskip : skipBlanks (w ++ ',' :: r) = ',' :: r := by
    rw [skipBlanks_append hw, skipBlanks_cons rfl]
  simp [afterItem, hskip, hclose.symm]

/-- Texts that are each read as a part are read together as the parts. -/
theorem finding_rowText (hclose : close = ']' ∨ close = '}')
    (hmore : ∀ s, more s = (one s).andThen (afterItem close more))
    (hstart : ∀ e ∈ parts, Starts (pad e).text)
    (hone : ∀ e ∈ parts, ∀ r, Follows r → one ((pad e).text ++ r) = .ok (val e, r))
    (hparts : parts ≠ []) (r : List Char) :
    more (skipBlanks (rowText (parts.map pad) ++ close :: r)) = .ok (parts.map val, r) := by
  have hblank : isBlank close = false := by rcases hclose with rfl | rfl <;> rfl
  have hcomma : close ≠ ',' := by rcases hclose with rfl | rfl <;> decide
  induction parts with
  | nil => exact absurd rfl hparts
  | cons e rest ih =>
    have hhead := hone e List.mem_cons_self
    have hstart' := hstart e List.mem_cons_self
    cases rest with
    | nil =>
      have hfollows : Follows ((pad e).after ++ close :: r) :=
        Follows.of_blanks (pad e).blanks_after (follows_cons (Or.inr (Or.inr hclose)) r)
      rw [List.map_singleton, rowText, List.map_singleton, joinWith, skipBlanks_chars hstart',
        hmore, hhead _ hfollows, Finding.andThen_ok,
        afterItem_blanks_close hblank (pad e).blanks_after]
      rfl
    | cons e' rest =>
      have hrest := ih (fun e he => hstart e (List.mem_cons_of_mem _ he))
        (fun e he => hone e (List.mem_cons_of_mem _ he)) (List.cons_ne_nil _ _)
      have hfollows : Follows ((pad e).after ++
          ',' :: (rowText ((e' :: rest).map pad) ++ close :: r)) :=
        Follows.of_blanks (pad e).blanks_after (follows_cons (by simp) _)
      rw [List.map_cons, List.map_cons, rowText_cons_cons, List.append_assoc,
        skipBlanks_chars hstart', List.cons_append, ← List.map_cons, hmore, hhead _ hfollows,
        Finding.andThen_ok, afterItem_blanks_comma hcomma (pad e).blanks_after, hrest]
      rfl

theorem afterOpening_rowText (hclose : close = ']' ∨ close = '}')
    (hmore : ∀ s, more s = (one s).andThen (afterItem close more)) (hw : Blanks w)
    (hstart : ∀ e ∈ parts, Starts (pad e).text)
    (hone : ∀ e ∈ parts, ∀ r, Follows r → one ((pad e).text ++ r) = .ok (val e, r))
    (make : List α → Json) (r : List Char) :
    afterOpening close more make (w ++ (rowText (parts.map pad) ++ [close]) ++ r) =
      .ok (make (parts.map val), r) := by
  have hblank : isBlank close = false := by rcases hclose with rfl | rfl <;> rfl
  have htext : w ++ (rowText (parts.map pad) ++ [close]) ++ r =
      w ++ (rowText (parts.map pad) ++ close :: r) := by simp
  rw [htext, afterOpening, skipBlanks_append hw]
  cases parts with
  | nil =>
    have hskip : skipBlanks (close :: r) = close :: r := skipBlanks_cons hblank r
    simp [rowText, joinWith, hskip]
  | cons e rest =>
    have hhead : (skipBlanks (rowText ((e :: rest).map pad) ++ close :: r)).head? ≠
        some close := by
      obtain ⟨c, u, heq, hc⟩ := hstart e List.mem_cons_self
      have hrow : ∃ t, rowText ((e :: rest).map pad) = (pad e).chars ++ t := by
        cases rest with
        | nil => exact ⟨[], by simp [rowText, joinWith]⟩
        | cons e' rest => exact ⟨_, rowText_cons_cons _ _ _⟩
      obtain ⟨t, ht⟩ := hrow
      rw [ht, List.append_assoc, skipBlanks_chars ⟨c, u, heq, hc⟩, heq]
      rintro ⟨⟩
      rcases hclose with rfl | rfl <;> exact hc (by simp)
    rw [if_neg hhead, finding_rowText hclose hmore hstart hone (List.cons_ne_nil _ _)]
    rfl

end

/-! Reading values -/

theorem Spelled.starts {l : NumberLimit} {j : Json} {t : List Char} (h : Spelled l j t) :
    Starts t := by
  cases h with
  | word h =>
    obtain ⟨-, c, r, rfl, hc⟩ := h.exists_cons
    exact starts_cons hc r
  | number h =>
    obtain ⟨c, r, rfl, hc⟩ := h.exists_cons
    exact starts_cons hc r
  | string h =>
    obtain ⟨u, -, rfl⟩ := h
    exact ⟨_, _, rfl, by decide⟩
  | list => exact ⟨_, _, rfl, by decide⟩
  | object => exact ⟨_, _, rfl, by decide⟩

theorem entryFinding_member {d : Dialect} {item : (s : List Char) → Step Json s} {m : Member}
    {j : Json} (hname : IsQuoted m.key m.name.text) (hstart : Starts m.body.text) {r : List Char}
    (hitem : (item (m.body.text ++ r)).finding = .ok (j, r)) :
    entryFinding d item (m.padded.text ++ r) = .ok ((m.key, j), r) := by
  obtain ⟨u, hu, htext⟩ := hname
  have hquoted : m.padded.text ++ r =
      '"' :: (u ++ '"' :: (m.name.after ++ ':' :: (m.body.before ++ (m.body.text ++ r)))) := by
    simp [Member.padded, htext]
  have hcolon : skipBlanks (m.name.after ++ ':' :: (m.body.before ++ (m.body.text ++ r))) =
      ':' :: (m.body.before ++ (m.body.text ++ r)) := by
    rw [skipBlanks_append m.name.blanks_after, skipBlanks_cons rfl]
  have hvalue : skipBlanks (m.body.before ++ (m.body.text ++ r)) = m.body.text ++ r := by
    rw [skipBlanks_append m.body.blanks_before, (hstart.append r).skipBlanks_eq]
  rw [hquoted, entryFinding, finding_name_quote, finding_stringBody_append hu, Finding.andThen_ok,
    afterName, hcolon]
  simp only [Finding.andThen_ok, hvalue, hitem, Finding.mapValue_ok]

section

variable {d : Dialect} {n : Nat} {w : List Char}

/-- A text of a word or of a number is read as the scalar that it starts with. -/
theorem finding_value_of_scalar {j : Json} {t r : List Char}
    (hhead : ∃ c u, t = c :: u ∧ (c.isAlphanum = true ∨ c = '-'))
    (hread : (scalar d.numbers (t ++ r)).finding = .ok (j, r)) :
    (value d n (t ++ r)).finding = .ok (j, r) := by
  obtain ⟨c, u, rfl, hc⟩ := hhead
  rw [List.cons_append, finding_value_cons hc]
  exact hread

theorem finding_value_itemRow {items : List (Json × Padded)} (hw : Blanks w)
    (hstart : ∀ e ∈ items, Starts e.2.text)
    (hone : ∀ e ∈ items, ∀ r, Follows r →
      (value d n (e.2.text ++ r)).finding = .ok (e.1.merged, r)) (r : List Char) :
    (value d (n + 1) ('[' :: (w ++ (rowText (items.map Prod.snd) ++ [']'])) ++ r)).finding =
      .ok ((arr (items.map Prod.fst)).merged, r) := by
  rw [List.cons_append, finding_value_list, finding_list, merged_arr, List.map_map]
  exact afterOpening_rowText (Or.inl rfl) (finding_items _) hw hstart hone _ _

theorem finding_value_memberRow {members : List Member} (hw : Blanks w)
    (hnames : ∀ m ∈ members, IsQuoted m.key m.name.text)
    (hstart : ∀ m ∈ members, Starts m.body.text)
    (hone : ∀ m ∈ members, ∀ r, Follows r →
      (value d n (m.body.text ++ r)).finding = .ok (m.value.merged, r)) (r : List Char) :
    (value d (n + 1) ('{' :: (w ++ (rowText (members.map Member.padded) ++ ['}'])) ++ r)).finding =
      .ok ((obj (members.map fun m => (m.key, m.value))).merged, r) := by
  have hquote : ∀ m ∈ members, Starts m.padded.text := by
    intro m hm
    obtain ⟨u, -, hu⟩ := hnames m hm
    exact ⟨'"', _, by rw [Member.padded, hu]; rfl, by decide⟩
  have hentry : ∀ m ∈ members, ∀ r, Follows r →
      entryFinding d (value d n) (m.padded.text ++ r) = .ok ((m.key, m.value.merged), r) :=
    fun m hm r hr => entryFinding_member (hnames m hm) (hstart m hm) (hone m hm r hr)
  rw [List.cons_append, finding_value_object, finding_object, merged_obj, lastEntries,
    List.map_map]
  exact afterOpening_rowText (Or.inr rfl) (finding_entries d _) hw hquote hentry _ _

end

theorem merged_of_depth_eq_zero {j : Json} (hj : j.depth = 0) : j.merged = j := by
  cases j with
  | arr => cases hj
  | obj => cases hj
  | _ => rfl

/-- What is found in the empty list or object that stands one too deep. -/
theorem beneathFinding_of_empty {d : Dialect} (hd : d.emptyBeneath = true) {close : Char}
    (hclose : isBlank close = false) {w : List Char} (hw : Blanks w) (empty : Json)
    (r : List Char) : beneathFinding d close empty (w ++ close :: r) = .ok (empty, r) := by
  rw [beneathFinding, skipBlanks_append hw, skipBlanks_cons hclose, if_pos ⟨hd, rfl⟩]
  rfl

/-- A value is read from its text with the entry that comes last for each key, whatever may
follow. -/
theorem Spelled.finding_value {d : Dialect} {j : Json} {t : List Char}
    (h : Spelled d.numbers j t) {n : Nat} (hj : d.Reaches n j) {r : List Char} (hr : Follows r) :
    (value d n (t ++ r)).finding = .ok (j.merged, r) := by
  induction h generalizing n r with
  | @word j t h =>
    obtain ⟨hdepth, hhead⟩ := h.exists_cons
    rw [merged_of_depth_eq_zero hdepth]
    exact finding_value_of_scalar hhead (finding_scalar_word _ h r)
  | @number j t h =>
    have hmerged : j.merged = j := by cases h <;> rfl
    rw [hmerged]
    exact finding_value_of_scalar h.exists_cons (finding_scalar_number h hr)
  | string h =>
    obtain ⟨u, hu, rfl⟩ := h
    rw [List.cons_append, finding_value_quote, List.append_assoc, List.singleton_append,
      finding_stringBody_append hu]
    rfl
  | @list items w hw hitems ih =>
    cases n with
    | zero =>
      obtain ⟨hd, hnil⟩ := hj
      obtain rfl := List.map_eq_nil_iff.mp hnil
      rw [List.cons_append, finding_value_zero_list, List.append_assoc]
      exact beneathFinding_of_empty hd rfl hw _ r
    | succ m =>
      -- the opening bracket takes one level, so one level less is left for the items
      refine finding_value_itemRow hw (fun e he => (hitems e he).starts) (fun e he r hr => ?_) r
      exact ih e he (hj _ (List.mem_map_of_mem he)) hr
  | @object members w hw hnames hvalues ih =>
    cases n with
    | zero =>
      obtain ⟨hd, hnil⟩ := hj
      obtain rfl := List.map_eq_nil_iff.mp hnil
      rw [List.cons_append, finding_value_zero_object, List.append_assoc]
      exact beneathFinding_of_empty hd rfl hw _ r
    | succ m =>
      refine finding_value_memberRow hw hnames (fun m hm => (hvalues m hm).starts)
        (fun m hm r hr => ?_) r
      have hmem : (m.key, m.value) ∈ members.map fun m => (m.key, m.value) :=
        List.mem_map_of_mem (f := fun m : Member => (m.key, m.value)) hm
      exact ih m hm (hj _ hmem) hr

theorem Padded.head?_chars_ne_mark {p : Padded} (h : Starts p.text) :
    p.chars.head? ≠ some (Char.ofNat 0xFEFF) := by
  rw [chars]
  cases hbefore : p.before with
  | nil => exact (h.append _).head?_ne_mark
  | cons c u =>
    have hblank : isBlank c = true := p.blanks_before c (by simp [hbefore])
    rintro ⟨⟩
    exact absurd hblank (by decide)

/-- A text that is JSON for a value is read as that value, with the entry that comes last for
each key. -/
theorem JsonText.verdict_eq {d : Dialect} {j : Json} {t : List Char} (h : JsonText d.numbers j t)
    (hj : d.Reaches d.depth j) : verdict d t = .ok j.merged := by
  obtain ⟨p, hp, rfl⟩ := h
  have hskip : skipBlanks p.chars = p.text ++ p.after := by
    have hchars := skipBlanks_chars hp.starts []
    rwa [List.append_nil, List.append_nil] at hchars
  have hfollows : Follows p.after := by
    have hblanks := Follows.of_blanks p.blanks_after follows_nil
    rwa [List.append_nil] at hblanks
  have hend : skipBlanks p.after = [] := by
    have hblanks := skipBlanks_append p.blanks_after []
    rwa [List.append_nil] at hblanks
  rw [Json.verdict_eq, if_neg (Padded.head?_chars_ne_mark hp.starts), hskip,
    hp.finding_value hj hfollows]
  simp only [hend, if_true]

end PaymentConnector.Json
