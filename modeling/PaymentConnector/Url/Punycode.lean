import PaymentConnector.Text.Composed
import PaymentConnector.Text.Fields

/-!
Labels in ASCII for labels in other scripts. The characters of ASCII come first; the
others are then put in one by one, in the order of their code points and of their
places. Each insertion is told by its distance from the one before, counted through all
places of all code points between; distances are written in digits whose range follows
the distances seen so far.
-/

namespace PaymentConnector.Url.Punycode

open Text

/-- A character put into a text, before the character at `place`. -/
structure Insertion where
  code : Nat
  place : Nat
  deriving DecidableEq, Repr

/-- The last insertion that makes a text: its greatest character, where it last stands. -/
def lastInsertion? : List Char → Option Insertion
  | [] => none
  | c :: rest =>
    match lastInsertion? rest with
    | none => if isAscii c then none else some ⟨c.toNat, 0⟩
    | some i => if i.code < c.toNat then some ⟨c.toNat, 0⟩ else some ⟨i.code, i.place + 1⟩

/-- The last `count` insertions that make a text. -/
def insertions : (count : Nat) → List Char → List Insertion
  | 0, _ => []
  | count + 1, s =>
    match lastInsertion? s with
    | none => []
    | some i => insertions count (s.eraseIdx i.place) ++ [i]

def insert (s : List Char) (i : Insertion) : List Char := s.insertIdx i.place (Char.ofNat i.code)

/-- The least insertion that may come next, and the length of the text so far. -/
structure Cursor where
  code : Nat
  place : Nat
  length : Nat

def Cursor.start (length : Nat) : Cursor := ⟨0x80, 0, length⟩

def Cursor.after (c : Cursor) (i : Insertion) : Cursor := ⟨i.code, i.place + 1, c.length + 1⟩

def Cursor.distance (c : Cursor) (i : Insertion) : Nat :=
  (i.code - c.code) * (c.length + 1) + i.place - c.place

def Cursor.locate (c : Cursor) (distance : Nat) : Insertion :=
  let total := c.place + distance
  ⟨c.code + total / (c.length + 1), total % (c.length + 1)⟩

def distances (c : Cursor) : List Insertion → List Nat
  | [] => []
  | i :: rest => c.distance i :: distances (c.after i) rest

/-! Digits -/

def digitChar (d : Nat) : Char :=
  Char.ofNat (if d < 26 then 'a'.toNat + d else '0'.toNat + (d - 26))

def digitValue? (c : Char) : Option Nat :=
  if 'a' ≤ c ∧ c ≤ 'z' then some (c.toNat - 'a'.toNat)
  else if '0' ≤ c ∧ c ≤ '9' then some (c.toNat - '0'.toNat + 26)
  else none

/-- Digits below this end a number; `k` grows by 36 from one digit to the next. -/
def threshold (bias k : Nat) : Nat := max 1 (min 26 (k - bias))

/-- Divide by 35 until 455 is reached, and count by 36. -/
def damped (delta : Nat) : Nat × Nat :=
  if 455 < delta then
    let (rest, k) := damped (delta / 35)
    (rest, k + 36)
  else (delta, 0)
termination_by delta
decreasing_by omega

/-- The bias after a number; `length` counts the characters up to it. -/
def adapt (delta length : Nat) (first : Bool) : Nat :=
  let scaled := if first then delta / 700 else delta / 2
  let (rest, k) := damped (scaled + scaled / length)
  k + 36 * rest / (rest + 38)

def writeNumber (bias k n : Nat) : List Char :=
  let t := threshold bias k
  if n < t then [digitChar n]
  else digitChar (t + (n - t) % (36 - t)) :: writeNumber bias (k + 36) ((n - t) / (36 - t))
termination_by n
decreasing_by
  have : 1 ≤ threshold bias k := by unfold threshold; omega
  exact Nat.lt_of_le_of_lt (Nat.div_le_self _ _) (by omega)

/-- What the digits depend on: the bias, the length so far, and whether none came yet. -/
structure Scale where
  bias : Nat
  length : Nat
  first : Bool

def Scale.start (length : Nat) : Scale := ⟨72, length, true⟩

def Scale.after (s : Scale) (n : Nat) : Scale :=
  ⟨adapt n (s.length + 1) s.first, s.length + 1, false⟩

def writeNumbers (s : Scale) : List Nat → List Char
  | [] => []
  | n :: rest => writeNumber s.bias 36 n ++ writeNumbers (s.after n) rest

/-- A number of which some digits have been read. -/
structure Partial where
  value : Nat
  weight : Nat
  k : Nat

def Partial.empty : Partial := ⟨0, 1, 36⟩

def readNumbers (s : Scale) (p : Partial) : List Char → Option (List Nat)
  | [] => if p.k = 36 then some [] else none
  | c :: rest => do
    let d ← digitValue? c
    let t := threshold s.bias p.k
    let n := p.value + d * p.weight
    if d < t then
      let numbers ← readNumbers (s.after n) .empty rest
      return n :: numbers
    else readNumbers s ⟨n, p.weight * (36 - t), p.k + 36⟩ rest

/-! Labels -/

def delimiter : Char := '-'

def encode (s : List Char) : List Char :=
  let basic := s.filter isAscii
  let numbers := distances (.start basic.length) (insertions (s.countP (!isAscii ·)) s)
  basic ++ (if basic.isEmpty then [] else [delimiter]) ++ writeNumbers (.start basic.length) numbers

/-- Put characters in at distances; none may lie beyond the last code point, or be half
of a surrogate pair. -/
def insertAt (c : Cursor) (s : List Char) : List Nat → Option (List Char)
  | [] => some s
  | n :: rest =>
    let i := c.locate n
    if i.code.isValidChar then insertAt (c.after i) (insert s i) rest else none

/-- The characters of ASCII, and the digits after the last delimiter. A delimiter in
front of everything counts as a digit, which it is not. -/
def splitBasic (s : List Char) : List Char × List Char :=
  match cutAroundLast (· = delimiter) s with
  | some (b :: basic, digits) => (b :: basic, digits)
  | _ => ([], s)

def decode (s : List Char) : Option (List Char) := do
  let (basic, digits) := splitBasic s
  if !basic.all isAscii then none
  else
    let numbers ← readNumbers (.start basic.length) .empty digits
    insertAt (.start basic.length) basic numbers

end PaymentConnector.Url.Punycode
