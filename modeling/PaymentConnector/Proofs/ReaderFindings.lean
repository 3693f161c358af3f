import PaymentConnector.Json.Reader

/-!
What the reader of JSON text finds: a part and the text after it, or the cause of a fault
without its place. Each step of the reader has one equation, which tells what it finds by
what the steps inside it find. Laws of the reader are proved from these equations.
-/

namespace PaymentConnector

@[simp] theorem Except.mapError_ok {ε ε' α : Type} (f : ε → ε') (a : α) :
    (Except.ok a).mapError f = .ok a := rfl

@[simp] theorem Except.mapError_error {ε ε' α : Type} (f : ε → ε') (e : ε) :
    (Except.error e : Except ε α).mapError f = .error (f e) := rfl

namespace Json

abbrev Finding (α : Type) := Except TextCause (α × List Char)

namespace Finding

variable {α β : Type}

/-- The same finding with another value in it. -/
def mapValue (f : α → β) (x : Finding α) : Finding β := x.map fun p => (f p.1, p.2)

@[simp] theorem mapValue_ok (f : α → β) (a : α) (r : List Char) :
    mapValue f (.ok (a, r)) = .ok (f a, r) := rfl

@[simp] theorem mapValue_error (f : α → β) (cause : TextCause) :
    mapValue f (.error cause) = .error cause := rfl

/-- Go on with the value that was found and the text after it. -/
def andThen (x : Finding α) (f : α → List Char → Finding β) : Finding β :=
  match x with
  | .ok (a, r) => f a r
  | .error cause => .error cause

@[simp] theorem andThen_ok (a : α) (r : List Char) (f : α → List Char → Finding β) :
    andThen (.ok (a, r)) f = f a r := rfl

@[simp] theorem andThen_error (cause : TextCause) (f : α → List Char → Finding β) :
    andThen (.error cause) f = .error cause := rfl

theorem mapValue_eq_ok_iff {f : α → β} {x : Finding α} {b : β} {r : List Char} :
    x.mapValue f = .ok (b, r) ↔ ∃ a, x = .ok (a, r) ∧ f a = b := by
  rcases x with cause | ⟨a, t⟩
  · simp
  · simp only [mapValue_ok, Except.ok.injEq, Prod.mk.injEq]
    constructor
    · rintro ⟨rfl, rfl⟩
      exact ⟨a, ⟨rfl, rfl⟩, rfl⟩
    · rintro ⟨a', ⟨rfl, rfl⟩, rfl⟩
      exact ⟨rfl, rfl⟩

theorem andThen_eq_ok_iff {f : α → List Char → Finding β} {x : Finding α} {p : β × List Char} :
    x.andThen f = .ok p ↔ ∃ a r, x = .ok (a, r) ∧ f a r = .ok p := by
  rcases x with cause | ⟨a, t⟩
  · simp
  · constructor
    · intro h
      exact ⟨a, t, rfl, h⟩
    · rintro ⟨a', r, heq, h⟩
      cases heq
      exact h

end Finding

/-- What a step finds. -/
def Step.finding {α : Type} {s : List Char} : Step α s → Finding α
  | .ok (a, r) => .ok (a, r.val)
  | .error e => .error e.cause

section

variable {α : Type} {s t : List Char}

theorem finding_cons (a : α) (h : t.length < s.length) (x : Step (List α) t) :
    (Step.cons a h x).finding = x.finding.mapValue (a :: ·) := by
  cases x <;> rfl

theorem finding_after (h : t.length ≤ s.length) (x : Step α t) :
    (Step.after h x).finding = x.finding := by
  cases x <;> rfl

end

/-! Strings -/

section

variable (start : Nat) {c : Char} {r : List Char}

theorem finding_pieces_nil : (pieces start []).finding = .error .unterminatedString := by
  rw [pieces]
  rfl

theorem finding_pieces_quote : (pieces start ('"' :: r)).finding = .ok ([], r) := by
  rw [pieces]
  rfl

theorem finding_pieces_backslash : (pieces start ['\\']).finding = .error .unterminatedString := by
  rw [pieces]
  rfl

theorem finding_pieces_unit {a b c d e : Char} :
    (pieces start ('\\' :: 'u' :: a :: b :: c :: d :: e :: r)).finding =
      match unitOf? a b c d with
      | some n => (pieces start (e :: r)).finding.mapValue (.unit n :: ·)
      | none => .error .invalidUnicodeEscape := by
  rw [pieces]
  cases unitOf? a b c d with
  | none => rfl
  | some n => exact finding_cons _ _ _

theorem finding_pieces_short (h : r.length ≤ 4) :
    (pieces start ('\\' :: 'u' :: r)).finding = .error .invalidUnicodeEscape := by
  rw [pieces]
  · rfl
  · intro a b c d e t
    rintro rfl
    simp only [List.length_cons] at h
    omega

/-- The number that so many hexadecimal digits stand for, after others, and the text after them. -/
def hexUnit : (digits value : Nat) → List Char → Option (Nat × List Char)
  | 0, value, r => some (value, r)
  | _ + 1, _, [] => none
  | k + 1, value, c :: r => (hexValue? c).bind fun digit => hexUnit k (value * 16 + digit) r

theorem length_of_hexUnit {k value n : Nat} {r t : List Char}
    (h : hexUnit k value r = some (n, t)) : t.length + k = r.length := by
  induction k generalizing value r with
  | zero =>
    cases h
    rfl
  | succ k ih =>
    cases r with
    | nil => exact absurd h (by simp [hexUnit])
    | cons c r =>
      obtain ⟨digit, -, hrest⟩ := Option.bind_eq_some_iff.mp h
      have hlength := ih hrest
      simp only [List.length_cons]
      omega

theorem hexUnit_four {a b c d : Char} (r : List Char) :
    hexUnit 4 0 (a :: b :: c :: d :: r) = (unitOf? a b c d).map fun n => (n, r) := by
  cases ha : hexValue? a <;> cases hb : hexValue? b <;> cases hc : hexValue? c <;>
    cases hd : hexValue? d <;> simp [hexUnit, unitOf?, ha, hb, hc, hd]

/-- A numbered unit has four digits and something after them. -/
theorem finding_pieces_numbered (r : List Char) :
    (pieces start ('\\' :: 'u' :: r)).finding =
      match hexUnit 4 0 r with
      | some (n, t) =>
        if t = [] then .error .invalidUnicodeEscape
        else (pieces start t).finding.mapValue (.unit n :: ·)
      | none => .error .invalidUnicodeEscape := by
  by_cases hshort : r.length ≤ 4
  · rw [finding_pieces_short start hshort]
    cases hunit : hexUnit 4 0 r with
    | none => rfl
    | some found =>
      obtain ⟨n, t⟩ := found
      have hlength := length_of_hexUnit hunit
      have hnil : t = [] := List.eq_nil_of_length_eq_zero (by omega)
      simp [hnil]
  · obtain ⟨a, b, c, d, e, t, rfl⟩ : ∃ a b c d e t, r = a :: b :: c :: d :: e :: t := by
      match r, hshort with
      | a :: b :: c :: d :: e :: t, _ => exact ⟨a, b, c, d, e, t, rfl⟩
      | [], h | [_], h | [_, _], h | [_, _, _], h | [_, _, _, _], h => simp at h
    rw [finding_pieces_unit, hexUnit_four]
    cases unitOf? a b c d with
    | none => rfl
    | some n => simp

theorem finding_pieces_escape (h : c ≠ 'u') :
    (pieces start ('\\' :: c :: r)).finding =
      match namedEscape? c with
      | some c => (pieces start r).finding.mapValue (.char c :: ·)
      | none => .error .invalidEscape := by
  rw [pieces]
  · cases namedEscape? c with
    | none => rfl
    | some c => exact finding_cons _ _ _
  · intro _ _ _ _ _ _ heq
    exact absurd heq h
  · intro heq
    exact absurd heq h

theorem finding_pieces_char (hquote : c ≠ '"') (hslash : c ≠ '\\') :
    (pieces start (c :: r)).finding =
      if c.toNat < 0x20 then .error .controlCharacter
      else (pieces start r).finding.mapValue (.char c :: ·) := by
  rw [pieces]
  · split
    · rfl
    · exact finding_cons _ _ _
  all_goals simp_all

end

theorem finding_stringBody (d : Dialect) (s : List Char) :
    (stringBody d s).finding =
      (pieces (s.length + 1) s).finding.andThen fun ps r =>
        match joinPieces d.repairSurrogates none ps with
        | some cs => .ok (String.ofList cs, r)
        | none => .error .loneSurrogate := by
  rw [stringBody]
  cases pieces (s.length + 1) s with
  | error e => rfl
  | ok p =>
    obtain ⟨ps, r⟩ := p
    simp only [Step.finding, Finding.andThen_ok]
    cases joinPieces d.repairSurrogates none ps <;> rfl

/-! Numbers and words -/

/-- A number that is short enough where its characters are counted is so everywhere. -/
theorem NumberLimit.not_isExceeded {negative isWhole : Bool} {k : Nat}
    (h : characters.isExceeded negative isWhole k = false) (l : NumberLimit) :
    l.isExceeded negative isWhole k = false := by
  cases l with
  | characters => exact h
  | digits =>
    simp only [isExceeded, length, beq_self_eq_true, Bool.or_true, Bool.true_and] at h
    simp only [isExceeded, length, Bool.and_eq_false_iff]
    have hle := of_decide_eq_false h
    exact Or.inr (decide_eq_false (by omega))

/-- A number without its sign, told by its whole part, its fraction and its exponent. -/
def unsignedFinding (l : NumberLimit) (negative : Bool) (s : List Char) : Finding Json :=
  let whole := wholePart s
  let frac := fraction whole.2
  let exp := exponent frac.2
  let isWhole := frac.1.isEmpty && exp.1.isNone
  if whole.1 = [] then .error .expectingValue
  else if l.isExceeded negative isWhole whole.1.length then
    .error (.tooManyDigits whole.1.length)
  else if isWhole then
    let n : Int := Nat.ofDigitChars 10 whole.1 0
    .ok (.int (if negative then -n else n), exp.2)
  else
    .ok (.float (.ofDecimal negative (Nat.ofDigitChars 10 (whole.1 ++ frac.1) 0)
      (exp.1.getD 0 - frac.1.length)), exp.2)

theorem finding_unsigned (l : NumberLimit) (negative : Bool) (s : List Char) :
    (unsigned l negative s).finding = unsignedFinding l negative s := by
  simp only [unsigned, unsignedFinding]
  split
  · rfl
  split
  · rfl
  split
  · rfl
  · rfl

theorem finding_number_minus (l : NumberLimit) (r : List Char) :
    (number l ('-' :: r)).finding = unsignedFinding l true r := by
  rw [number, ← finding_unsigned]
  cases unsigned l true r with
  | ok step => exact finding_after _ _
  | error e =>
    by_cases hcause : e.cause = .expectingValue
    · simp [hcause, fault, Step.finding]
    · simp [hcause, Step.finding]

theorem finding_number (l : NumberLimit) {s : List Char} (h : s.head? ≠ some '-') :
    (number l s).finding = unsignedFinding l false s := by
  rw [number]
  · exact finding_unsigned l false s
  · rintro r rfl
    simp at h

theorem length_of_word? {s r : List Char} {j : Json} (h : word? s = some (j, r)) :
    r.length < s.length := by
  obtain ⟨w, hw, hfound⟩ := List.exists_of_findSome?_eq_some h
  obtain ⟨text, value⟩ := w
  simp only [Option.ite_none_right_eq_some, Option.some.injEq, Prod.mk.injEq] at hfound
  obtain ⟨hhead, -, rfl⟩ := hfound
  have hlength := (List.isPrefixOf_iff_prefix.mp hhead).length_le
  have hnonempty : ∀ e ∈ words, 0 < e.1.length := by decide
  have hpos : 0 < text.length := hnonempty _ hw
  rw [String.length_toList] at hlength
  rw [List.length_drop]
  omega

theorem finding_scalar (l : NumberLimit) (s : List Char) :
    (scalar l s).finding =
      match word? s with
      | some found => .ok found
      | none => (number l s).finding := by
  rw [scalar]
  cases hword : word? s with
  | none => rfl
  | some found =>
    obtain ⟨j, r⟩ := found
    simp only [length_of_word? hword, dif_pos]
    rfl

/-! Lists and objects -/

/-- What is found after an item: the closing bracket, or a comma and more items. -/
def afterItem {α : Type} (close : Char) (more : List Char → Finding (List α)) (a : α)
    (r : List Char) : Finding (List α) :=
  match skipBlanks r with
  | [] => .error .expectingComma
  | c :: t =>
    if c = close then .ok ([a], t)
    else if c = ',' then (more (skipBlanks t)).mapValue (a :: ·)
    else .error .expectingComma

theorem afterItem_of_other {α : Type} {close : Char} {more : List Char → Finding (List α)} {a : α}
    {r : List Char} (hclose : ∀ t, skipBlanks r ≠ close :: t)
    (hcomma : ∀ t, skipBlanks r ≠ ',' :: t) :
    afterItem close more a r = .error .expectingComma := by
  unfold afterItem
  cases hr : skipBlanks r with
  | nil => rfl
  | cons c t =>
    have hne : c ≠ close := fun h => hclose t (h ▸ hr)
    have hne' : c ≠ ',' := fun h => hcomma t (h ▸ hr)
    simp only [hne, hne', if_false]

theorem finding_items (item : (s : List Char) → Step Json s) (s : List Char) :
    (items item s).finding =
      (item s).finding.andThen (afterItem ']' fun t => (items item t).finding) := by
  rw [items]
  cases item s with
  | error e => rfl
  | ok p =>
    obtain ⟨j, r, hr⟩ := p
    simp only [Step.finding.eq_1, Finding.andThen_ok]
    split
    · rename_i t ht
      simp [afterItem, ht, Step.finding]
    · rename_i t ht
      simp [afterItem, ht, finding_cons]
    · rename_i hclose hcomma
      exact (afterItem_of_other hclose hcomma).symm

/-- What is found after the name of an entry: a colon and the text of its value. -/
def afterName (key : String) (r : List Char) : Finding String :=
  match skipBlanks r with
  | ':' :: u => .ok (key, skipBlanks u)
  | _ => .error .expectingColon

theorem finding_name_quote (d : Dialect) (t : List Char) :
    (name d ('"' :: t)).finding = (stringBody d t).finding.andThen afterName := by
  rw [name]
  cases stringBody d t with
  | error e => rfl
  | ok p =>
    obtain ⟨key, r, hr⟩ := p
    simp only [Step.finding.eq_1, Finding.andThen_ok, afterName]
    split
    · rename_i u hu
      simp [hu, Step.finding]
    · rename_i hcolon
      split
      · rename_i u hu
        exact absurd hu (hcolon u)
      · rfl

theorem finding_name_other (d : Dialect) {s : List Char} (h : s.head? ≠ some '"') :
    (name d s).finding = .error .expectingName := by
  rw [name]
  · rfl
  · rintro t rfl
    simp at h

/-- What is found of one entry: its name and its value. -/
def entryFinding (d : Dialect) (item : (s : List Char) → Step Json s) (s : List Char) :
    Finding (String × Json) :=
  (name d s).finding.andThen fun key v => (item v).finding.mapValue (key, ·)

theorem finding_entries (d : Dialect) (item : (s : List Char) → Step Json s) (s : List Char) :
    (entries d item s).finding =
      (entryFinding d item s).andThen (afterItem '}' fun t => (entries d item t).finding) := by
  rw [entries, entryFinding]
  cases name d s with
  | error e => rfl
  | ok p =>
    obtain ⟨key, v, hv⟩ := p
    simp only [Step.finding.eq_1, Finding.andThen_ok]
    cases item v with
    | error e => rfl
    | ok p =>
      obtain ⟨j, r, hr⟩ := p
      simp only [Step.finding.eq_1, Finding.andThen_ok, Finding.mapValue_ok]
      split
      · rename_i t ht
        simp [afterItem, ht, Step.finding]
      · rename_i t ht
        simp [afterItem, ht, finding_cons]
      · rename_i hclose hcomma
        exact (afterItem_of_other hclose hcomma).symm

/-- A list or an object whose opening bracket has been read: the closing one, or items. -/
def afterOpening {α : Type} (close : Char) (more : List Char → Finding (List α))
    (make : List α → Json) (s : List Char) : Finding Json :=
  if (skipBlanks s).head? = some close then .ok (make [], (skipBlanks s).tail)
  else (more (skipBlanks s)).mapValue make

theorem finding_list (item : (s : List Char) → Step Json s) (s : List Char) :
    (list item s).finding =
      afterOpening ']' (fun t => (items item t).finding) .arr s := by
  rw [list]
  split
  · rename_i t ht
    simp [afterOpening, ht, Step.finding]
  · rename_i hclose
    have hc : (skipBlanks s).head? ≠ some ']' := by
      intro h
      obtain ⟨u, hu⟩ := List.head?_eq_some_iff.mp h
      exact hclose u hu
    simp only [afterOpening, hc, if_false]
    cases items item (skipBlanks s) <;> rfl

theorem finding_object (d : Dialect) (item : (s : List Char) → Step Json s) (s : List Char) :
    (object d item s).finding =
      afterOpening '}' (fun t => (entries d item t).finding)
        (fun es => .obj (Entries.ofList es)) s := by
  rw [object]
  split
  · rename_i t ht
    simp [afterOpening, ht, Step.finding, Entries.ofList]
  · rename_i hclose
    have hc : (skipBlanks s).head? ≠ some '}' := by
      intro h
      obtain ⟨u, hu⟩ := List.head?_eq_some_iff.mp h
      exact hclose u hu
    simp only [afterOpening, hc, if_false]
    cases entries d item (skipBlanks s) <;> rfl

/-! Values -/

theorem finding_value_quote (d : Dialect) (depth : Nat) (r : List Char) :
    (value d depth ('"' :: r)).finding = (stringBody d r).finding.mapValue .str := by
  rw [value]
  cases stringBody d r <;> rfl

/-- What is found of a list or an object that stands too deep. -/
def beneathFinding (d : Dialect) (close : Char) (empty : Json) (s : List Char) : Finding Json :=
  if d.emptyBeneath = true ∧ (skipBlanks s).head? = some close then
    .ok (empty, (skipBlanks s).tail)
  else .error .tooDeep

theorem finding_beneath (d : Dialect) (close : Char) (empty : Json) (s : List Char) :
    (beneath d close empty s).finding = beneathFinding d close empty s := by
  rw [beneath, beneathFinding]
  split
  · rename_i c t hskip
    simp only [hskip, List.head?_cons, Option.some.injEq, List.tail_cons]
    split <;> rfl
  · rename_i hskip
    rw [hskip, if_neg (by simp)]
    rfl

theorem beneathFinding_of_nothing {d : Dialect} (h : d.emptyBeneath = false) (close : Char)
    (empty : Json) (s : List Char) : beneathFinding d close empty s = .error .tooDeep := by
  rw [beneathFinding, h, if_neg (by simp)]

theorem finding_value_zero_list (d : Dialect) (r : List Char) :
    (value d 0 ('[' :: r)).finding = beneathFinding d ']' (.arr []) r := by
  rw [value, finding_after, finding_beneath]

theorem finding_value_zero_object (d : Dialect) (r : List Char) :
    (value d 0 ('{' :: r)).finding = beneathFinding d '}' (.obj []) r := by
  rw [value, finding_after, finding_beneath]

theorem finding_value_list (d : Dialect) (depth : Nat) (r : List Char) :
    (value d (depth + 1) ('[' :: r)).finding = (list (value d depth) r).finding := by
  rw [value]
  exact finding_after _ _

theorem finding_value_object (d : Dialect) (depth : Nat) (r : List Char) :
    (value d (depth + 1) ('{' :: r)).finding = (object d (value d depth) r).finding := by
  rw [value]
  exact finding_after _ _

theorem finding_value_scalar (d : Dialect) (depth : Nat) {s : List Char}
    (hquote : s.head? ≠ some '"') (hlist : s.head? ≠ some '[') (hobject : s.head? ≠ some '{') :
    (value d depth s).finding = (scalar d.numbers s).finding := by
  rw [value]
  all_goals
    intros
    simp_all

/-! Where findings end -/

theorem length_lt_of_finding {α : Type} {s : List Char} {x : Step α s} {a : α} {r : List Char}
    (h : x.finding = .ok (a, r)) : r.length < s.length := by
  cases x with
  | error e => exact absurd h (by simp [Step.finding])
  | ok p =>
    obtain ⟨a', r', hr⟩ := p
    cases h
    exact hr

theorem length_lt_of_entryFinding {d : Dialect} {item : (s : List Char) → Step Json s}
    {s r : List Char} {e : String × Json} (h : entryFinding d item s = .ok (e, r)) :
    r.length < s.length := by
  obtain ⟨key, v, hname, hvalue⟩ := Finding.andThen_eq_ok_iff.mp h
  obtain ⟨key', j⟩ := e
  obtain ⟨j', hitem, -⟩ := Finding.mapValue_eq_ok_iff.mp hvalue
  exact Nat.lt_trans (length_lt_of_finding hitem) (length_lt_of_finding hname)

/-- Induction over a row of parts: each part leaves a shorter text for the parts after it. -/
theorem row_induction {α : Type} {one : List Char → Finding α} {motive : List Char → Prop}
    (hone : ∀ s a r, one s = .ok (a, r) → r.length < s.length)
    (row : ∀ s, (∀ a r t, one s = .ok (a, r) → skipBlanks r = ',' :: t → motive (skipBlanks t)) →
      motive s) (s : List Char) : motive s := by
  generalize hn : s.length = n
  induction n using Nat.strongRecOn generalizing s with
  | ind n ih =>
    refine row s fun a r t hfound hcomma => ?_
    have hpart := hone s a r hfound
    have hblanks := length_skipBlanks_le r
    have hafter := length_skipBlanks_le t
    rw [hcomma, List.length_cons] at hblanks
    exact ih _ (by omega) _ rfl

/-- A value starts with a quote, with an opening bracket or with neither. -/
theorem value_cases (s : List Char) :
    (∃ r, s = '"' :: r) ∨ (∃ r, s = '[' :: r) ∨ (∃ r, s = '{' :: r) ∨
      s.head? ≠ some '"' ∧ s.head? ≠ some '[' ∧ s.head? ≠ some '{' := by
  cases s with
  | nil => simp
  | cons c r =>
    by_cases hquote : c = '"'
    · exact Or.inl ⟨r, by rw [hquote]⟩
    by_cases hlist : c = '['
    · exact Or.inr (Or.inl ⟨r, by rw [hlist]⟩)
    by_cases hobject : c = '{'
    · exact Or.inr (Or.inr (Or.inl ⟨r, by rw [hobject]⟩))
    · exact Or.inr (Or.inr (Or.inr (by simp [hquote, hlist, hobject])))

/-! Whole texts -/

/-- The value of a text, or the cause of its fault. -/
def verdict (d : Dialect) (s : List Char) : Except TextCause Json :=
  (read d s).mapError (·.cause)

theorem verdict_eq (d : Dialect) (s : List Char) :
    verdict d s =
      if s.head? = some (Char.ofNat 0xFEFF) then .error .byteOrderMark
      else
        match (value d d.depth (skipBlanks s)).finding with
        | .error cause => .error cause
        | .ok (j, r) => if skipBlanks r = [] then .ok j else .error .extraData := by
  rw [verdict, read]
  split
  · rfl
  · cases value d d.depth (skipBlanks s) with
    | error e => rfl
    | ok p =>
      obtain ⟨j, r, hr⟩ := p
      simp only [Step.finding]
      split
      · rename_i h
        simp [h]
      · rename_i h
        rw [if_neg h]
        rfl

end Json

end PaymentConnector
