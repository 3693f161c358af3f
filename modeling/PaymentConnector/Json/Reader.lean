import PaymentConnector.Json.Limit

/-!
JSON values from text. The grammar is strict, apart from the three names for
numbers that are not finite. Readers of the format differ in how deep they go, in
how long a number may be and in whether they take a half of a surrogate pair; a
`Dialect` says which.
Each step returns the text that is left, with a proof that it is shorter.
-/

namespace PaymentConnector.Json

/-- What may not be longer than `digitLimit`: the digits of a whole number, or the
characters of any number up to its fraction or its exponent, the sign among them. -/
inductive NumberLimit
  | digits
  | characters
  deriving DecidableEq, Repr

/-- `repairSurrogates` reads a lone half of a surrogate pair as the replacement
character; otherwise it is a fault. With `emptyBeneath` a list or an object may
stand one deeper than `depth` if it is empty. -/
structure Dialect where
  depth : Nat
  repairSurrogates : Bool
  numbers : NumberLimit
  emptyBeneath : Bool

inductive TextCause
  | byteOrderMark
  | expectingValue
  | expectingName
  | expectingColon
  | expectingComma
  | unterminatedString
  | controlCharacter
  | invalidEscape
  | invalidUnicodeEscape
  | loneSurrogate
  | extraData
  | tooDeep
  | tooManyDigits (count : Nat)
  deriving DecidableEq, Repr

/-- A fault stands `ahead` characters before the end of the text. -/
structure TextFault where
  cause : TextCause
  ahead : Nat
  deriving DecidableEq, Repr

abbrev Rest (s : List Char) := { r : List Char // r.length < s.length }

abbrev Step (α : Type) (s : List Char) := Except TextFault (α × Rest s)

def isBlank (c : Char) : Bool := c = ' ' || c = '\t' || c = '\n' || c = '\r'

def skipBlanks (s : List Char) : List Char := s.dropWhile isBlank

theorem length_skipBlanks_le (s : List Char) : (skipBlanks s).length ≤ s.length :=
  (List.dropWhile_sublist _).length_le

def fault {α : Type} (cause : TextCause) (s : List Char) : Except TextFault α :=
  .error ⟨cause, s.length⟩

/-- Part of a string: a character, or a 16-bit unit given by its number. -/
inductive Piece
  | char (c : Char)
  | unit (n : Nat)

def hexValue? (c : Char) : Option Nat :=
  if '0' ≤ c ∧ c ≤ '9' then some (c.toNat - '0'.toNat)
  else if 'a' ≤ c ∧ c ≤ 'f' then some (c.toNat - 'a'.toNat + 10)
  else if 'A' ≤ c ∧ c ≤ 'F' then some (c.toNat - 'A'.toNat + 10)
  else none

def unitOf? (a b c d : Char) : Option Nat := do
  let a ← hexValue? a
  let b ← hexValue? b
  let c ← hexValue? c
  let d ← hexValue? d
  return ((a * 16 + b) * 16 + c) * 16 + d

def namedEscape? (c : Char) : Option Char :=
  match c with
  | '"' => some '"'
  | '\\' => some '\\'
  | '/' => some '/'
  | 'b' => some (Char.ofNat 0x08)
  | 'f' => some (Char.ofNat 0x0C)
  | 'n' => some '\n'
  | 'r' => some '\r'
  | 't' => some '\t'
  | _ => none

def Step.cons {α : Type} {s t : List Char} (a : α) (h : t.length < s.length) :
    Step (List α) t → Step (List α) s
  | .ok (as, ⟨r, hr⟩) => .ok (a :: as, ⟨r, Nat.lt_trans hr h⟩)
  | .error e => .error e

/-- The pieces up to the closing quote. The fault of a string without one stands
`start` characters before the end. A numbered unit needs one character after it. -/
def pieces (start : Nat) (s : List Char) : Step (List Piece) s :=
  match h : s with
  | [] => .error ⟨.unterminatedString, start⟩
  | '"' :: r => .ok ([], ⟨r, by simp⟩)
  | '\\' :: [] => .error ⟨.unterminatedString, start⟩
  | '\\' :: 'u' :: a :: b :: c :: d :: e :: r =>
    match unitOf? a b c d with
    | some n => .cons (.unit n) (by simp) (pieces start (e :: r))
    | none => fault .invalidUnicodeEscape ('u' :: a :: b :: c :: d :: e :: r)
  | '\\' :: 'u' :: r => fault .invalidUnicodeEscape ('u' :: r)
  | '\\' :: c :: r =>
    match namedEscape? c with
    | some c => .cons (.char c) (by simp only [List.length_cons]; omega) (pieces start r)
    | none => fault .invalidEscape s
  | c :: r =>
    if c.toNat < 0x20 then fault .controlCharacter s
    else .cons (.char c) (by simp) (pieces start r)
termination_by s.length

def isHigh (n : Nat) : Bool := 0xD800 ≤ n && n < 0xDC00

def isLow (n : Nat) : Bool := 0xDC00 ≤ n && n < 0xE000

/-- What follows a half of a pair that stands alone. -/
def afterLone (repair : Bool) (rest : Option (List Char)) : Option (List Char) :=
  if repair then rest.map (Char.ofNat 0xFFFD :: ·) else none

/-- The characters of the pieces, after a first half `high` that waits for its
second one; `none` if a half of a pair stands alone. -/
def joinPieces (repair : Bool) : (high : Option Nat) → List Piece → Option (List Char)
  | none, [] => some []
  | some _, [] => afterLone repair (some [])
  | none, .char c :: rest => (joinPieces repair none rest).map (c :: ·)
  | some _, .char c :: rest => afterLone repair ((joinPieces repair none rest).map (c :: ·))
  | none, .unit n :: rest =>
    if isHigh n then joinPieces repair (some n) rest
    else if isLow n then afterLone repair (joinPieces repair none rest)
    else (joinPieces repair none rest).map (Char.ofNat n :: ·)
  | some high, .unit n :: rest =>
    if isLow n then
      let code := 0x10000 + (high - 0xD800) * 0x400 + (n - 0xDC00)
      (joinPieces repair none rest).map (Char.ofNat code :: ·)
    else if isHigh n then afterLone repair (joinPieces repair (some n) rest)
    else afterLone repair ((joinPieces repair none rest).map (Char.ofNat n :: ·))

/-- A string whose opening quote has been read. -/
def stringBody (d : Dialect) (s : List Char) : Step String s :=
  match pieces (s.length + 1) s with
  | .error e => .error e
  | .ok (ps, r) =>
    match joinPieces d.repairSurrogates none ps with
    | some cs => .ok (String.ofList cs, r)
    | none => .error ⟨.loneSurrogate, s.length + 1⟩

/-- The digits at the head of a text, and the rest of it. -/
def spanDigits (s : List Char) : List Char × List Char :=
  (s.takeWhile Char.isDigit, s.dropWhile Char.isDigit)

/-- The digits before the point: a lone zero, or digits that start with none. -/
def wholePart : List Char → List Char × List Char
  | '0' :: r => (['0'], r)
  | s => spanDigits s

/-- The digits after a point, if at least one follows it. -/
def fraction (s : List Char) : List Char × List Char :=
  match s with
  | '.' :: r => if (spanDigits r).1.isEmpty then ([], s) else spanDigits r
  | _ => ([], s)

/-- The sign of an exponent. -/
def exponentSign : List Char → Bool × List Char
  | '-' :: r => (true, r)
  | '+' :: r => (false, r)
  | r => (false, r)

/-- The power of ten after the mark of an exponent, if at least one digit follows. -/
def exponent (s : List Char) : Option Int × List Char :=
  match s with
  | e :: r =>
    let (negative, r) := exponentSign r
    let (ds, r) := spanDigits r
    if (e = 'e' ∨ e = 'E') ∧ !ds.isEmpty then
      let n : Int := Nat.ofDigitChars 10 ds 0
      (some (if negative then -n else n), r)
    else (none, s)
  | [] => (none, s)

theorem length_spanDigits (s : List Char) :
    (spanDigits s).1.length + (spanDigits s).2.length = s.length := by
  simp only [spanDigits]
  rw [← List.length_append, List.takeWhile_append_dropWhile]

theorem length_wholePart (s : List Char) :
    (wholePart s).1.length + (wholePart s).2.length = s.length := by
  unfold wholePart
  split
  · simp; omega
  · exact length_spanDigits _

theorem length_fraction_le (s : List Char) : (fraction s).2.length ≤ s.length := by
  unfold fraction
  split
  · rename_i r
    have := length_spanDigits r
    split
    · simp
    · simp; omega
  · simp

theorem length_exponentSign_le (s : List Char) : (exponentSign s).2.length ≤ s.length := by
  unfold exponentSign
  split <;> simp

theorem length_exponent_le (s : List Char) : (exponent s).2.length ≤ s.length := by
  unfold exponent
  split
  · rename_i e r
    have h1 := length_exponentSign_le r
    have h2 := length_spanDigits (exponentSign r).2
    dsimp only
    split
    · simp; omega
    · simp
  · simp

/-- How long a number is that has so many digits before its fraction or exponent. -/
def NumberLimit.length (l : NumberLimit) (negative : Bool) (digits : Nat) : Nat :=
  match l with
  | .digits => digits
  | .characters => digits + negative.toNat

/-- A number that is not whole may be as long as it likes where digits are counted. -/
def NumberLimit.isExceeded (l : NumberLimit) (negative isWhole : Bool) (digits : Nat) : Bool :=
  (isWhole || l == .characters) && digitLimit < l.length negative digits

/-- A number without its sign: a whole one has no fraction and no exponent. -/
def unsigned (l : NumberLimit) (negative : Bool) (s : List Char) : Step Json s :=
  let whole := wholePart s
  let frac := fraction whole.2
  let exp := exponent frac.2
  let isWhole := frac.1.isEmpty && exp.1.isNone
  if h : whole.1 = [] then fault .expectingValue s
  else if l.isExceeded negative isWhole whole.1.length then
    fault (.tooManyDigits whole.1.length) s
  else
    have hw := length_wholePart s
    have hf := length_fraction_le whole.2
    have he := length_exponent_le frac.2
    have hn : whole.1.length ≠ 0 := by simpa using h
    let rest : Rest s := ⟨exp.2, by simp only [whole, frac, exp] at *; omega⟩
    if isWhole then
      let n : Int := Nat.ofDigitChars 10 whole.1 0
      .ok (.int (if negative then -n else n), rest)
    else
      let digits := Nat.ofDigitChars 10 (whole.1 ++ frac.1) 0
      .ok (.float (.ofDecimal negative digits (exp.1.getD 0 - frac.1.length)), rest)

def Step.after {α : Type} {s t : List Char} (h : t.length ≤ s.length) : Step α t → Step α s
  | .ok (a, ⟨r, hr⟩) => .ok (a, ⟨r, Nat.lt_of_lt_of_le hr h⟩)
  | .error e => .error e

def number (l : NumberLimit) (s : List Char) : Step Json s :=
  match s with
  | '-' :: r =>
    match unsigned l true r with
    | .ok step => Step.after (by simp) (.ok step)
    | .error e => if e.cause = .expectingValue then fault .expectingValue ('-' :: r) else .error e
  | s => unsigned l false s

/-- The values that are written as words. -/
def words : List (String × Json) :=
  [("null", .null), ("true", .bool true), ("false", .bool false), ("NaN", .float .notANumber),
   ("Infinity", .float (.infinite false)), ("-Infinity", .float (.infinite true))]

def word? (s : List Char) : Option (Json × List Char) :=
  words.findSome? fun (w, j) => if w.toList.isPrefixOf s then some (j, s.drop w.length) else none

/-- A value that is no list, object or string. -/
def scalar (l : NumberLimit) (s : List Char) : Step Json s :=
  match word? s with
  | some (j, r) => if h : r.length < s.length then .ok (j, ⟨r, h⟩) else fault .expectingValue s
  | none => number l s

/-- The items of a list up to its closing bracket. -/
def items (item : (s : List Char) → Step Json s) (s : List Char) : Step (List Json) s :=
  match item s with
  | .error e => .error e
  | .ok (j, ⟨r, hr⟩) =>
    have hb := length_skipBlanks_le r
    match h : skipBlanks r with
    | ']' :: t => .ok ([j], ⟨t, by simp [h] at hb; omega⟩)
    | ',' :: t =>
      have ht := length_skipBlanks_le t
      have hs : (skipBlanks t).length < s.length := by simp [h] at hb; omega
      .cons j hs (items item (skipBlanks t))
    | t => fault .expectingComma t
termination_by s.length

/-- The name of an entry and the colon after it, with the blanks around. -/
def name (d : Dialect) (s : List Char) : Step String s :=
  match s with
  | '"' :: t =>
    match stringBody d t with
    | .error e => .error e
    | .ok (key, ⟨r, hr⟩) =>
      have hb := length_skipBlanks_le r
      match h : skipBlanks r with
      | ':' :: u =>
        have hu := length_skipBlanks_le u
        .ok (key, ⟨skipBlanks u, by simp [h] at hb; simp; omega⟩)
      | u => fault .expectingColon u
  | s => fault .expectingName s

/-- The entries of an object up to its closing brace. -/
def entries (d : Dialect) (item : (s : List Char) → Step Json s) (s : List Char) :
    Step (List (String × Json)) s :=
  match name d s with
  | .error e => .error e
  | .ok (key, ⟨v, hv⟩) =>
    match item v with
    | .error e => .error e
    | .ok (j, ⟨r, hr⟩) =>
      have hb := length_skipBlanks_le r
      match h : skipBlanks r with
      | '}' :: t => .ok ([(key, j)], ⟨t, by simp [h] at hb; omega⟩)
      | ',' :: t =>
        have ht := length_skipBlanks_le t
        have hs : (skipBlanks t).length < s.length := by simp [h] at hb; omega
        .cons (key, j) hs (entries d item (skipBlanks t))
      | t => fault .expectingComma t
termination_by s.length

/-- A list whose opening bracket has been read. -/
def list (item : (s : List Char) → Step Json s) (s : List Char) : Step Json s :=
  have hb := length_skipBlanks_le s
  match h : skipBlanks s with
  | ']' :: t => .ok (.arr [], ⟨t, by simp [h] at hb; omega⟩)
  | t =>
    match items item t with
    | .ok (js, ⟨r, hr⟩) => .ok (.arr js, ⟨r, by rw [h] at hb; omega⟩)
    | .error e => .error e

/-- An object whose opening brace has been read. -/
def object (d : Dialect) (item : (s : List Char) → Step Json s) (s : List Char) : Step Json s :=
  have hb := length_skipBlanks_le s
  match h : skipBlanks s with
  | '}' :: t => .ok (.obj [], ⟨t, by simp [h] at hb; omega⟩)
  | t =>
    match entries d item t with
    | .ok (es, ⟨r, hr⟩) => .ok (.obj (Entries.ofList es), ⟨r, by rw [h] at hb; omega⟩)
    | .error e => .error e

/-- A list or an object that stands too deep, after its opening bracket. -/
def beneath (d : Dialect) (close : Char) (empty : Json) (s : List Char) : Step Json s :=
  have hb := length_skipBlanks_le s
  match h : skipBlanks s with
  | c :: t =>
    if d.emptyBeneath ∧ c = close then .ok (empty, ⟨t, by simp [h] at hb; omega⟩)
    else fault .tooDeep s
  | [] => fault .tooDeep s

/-- A value in which lists and objects stand inside one another at most `depth` deep. -/
def value (d : Dialect) : (depth : Nat) → (s : List Char) → Step Json s
  | _, '"' :: r =>
    match stringBody d r with
    | .ok (s, rest) => Step.after (by simp) (.ok (.str s, rest))
    | .error e => .error e
  | 0, '[' :: r => Step.after (by simp) (beneath d ']' (.arr []) r)
  | 0, '{' :: r => Step.after (by simp) (beneath d '}' (.obj []) r)
  | depth + 1, '[' :: r => Step.after (by simp) (list (value d depth) r)
  | depth + 1, '{' :: r => Step.after (by simp) (object d (value d depth) r)
  | _, s => scalar d.numbers s

/-- The value that a whole text stands for. -/
def read (d : Dialect) (s : List Char) : Except TextFault Json :=
  if s.head? = some (Char.ofNat 0xFEFF) then fault .byteOrderMark s
  else
    match value d d.depth (skipBlanks s) with
    | .error e => .error e
    | .ok (j, ⟨r, _⟩) =>
      match skipBlanks r with
      | [] => .ok j
      | t => fault .extraData t

end PaymentConnector.Json
