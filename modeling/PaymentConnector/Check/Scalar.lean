import PaymentConnector.Check.Basic
import PaymentConnector.Json.Reader
import PaymentConnector.Text.Blank
import PaymentConnector.Text.Fields

/-!
Readers of single values. Whole numbers and truth values are read leniently from
several spellings; strings are not.
-/

namespace PaymentConnector

open Text

def readString : Reader String
  | .str s => .ok s
  | _ => .fail .notString

def readDictionary : Reader Object
  | .obj o => .ok o
  | _ => .fail (.notObject .dictionary)

def splitSign : List Char → Bool × List Char
  | '-' :: r => (true, r)
  | '+' :: r => (false, r)
  | r => (false, r)

/-- What follows zeros and underscores, the last one of which is given: nonzero digits, or
a second sign. A point keeps the character before it, and so does the end. -/
def afterZero? (last : Char) : List Char → Option (List Char)
  | [] => some [last]
  | '.' :: rest => some (last :: '.' :: rest)
  | c :: rest =>
    if c = '0' ∨ c = '_' then afterZero? c rest
    else if c.isDigit ∨ c = '-' then some (c :: rest)
    else none

/-- A text that starts with a digit, without leading zeros. -/
def dropLeadingZeros? : List Char → Option (List Char)
  | '0' :: rest => afterZero? '0' rest
  | c :: rest => if c.isDigit then some (c :: rest) else none
  | [] => none

/-- The part before a point that is followed by zeros only; any other text as it is. -/
def dropZeroFraction (s : List Char) : List Char :=
  match s.dropWhile (· ≠ '.') with
  | [] => s
  | _ :: zeros =>
    if zeros ≠ [] ∧ zeros.all (· = '0') then s.takeWhile (· ≠ '.') else s

/-- A text without its underscores, if each of them stands alone between other characters. -/
def dropUnderscores (s : List Char) : List Char :=
  let parts := fields (· = '_') s
  if parts.all (· ≠ []) then parts.flatten else s

/-- A whole number as JSON has it. -/
def integerOfNumeral (s : List Char) : Except Cause Int :=
  match Json.number .characters s with
  | .ok (.int n, ⟨[], _⟩) => .ok n
  | .ok _ => .error .integerText
  | .error e =>
    match e.cause with
    | .tooManyDigits _ => .error .integerSize
    | _ => .error .integerText

/-- A whole number written with blanks around it, a sign, leading zeros, single
underscores between digits and a fraction of zeros, each of which may be left out.
Underscores between leading zeros may stand in a row, and a minus sign after them. -/
def integerOfText (s : List Char) : Except Cause Int :=
  let (negative, body) := splitSign (trim isSpace s)
  match dropLeadingZeros? body with
  | none => .error .integerText
  | some rest =>
    let digits := dropUnderscores (dropZeroFraction rest)
    integerOfNumeral (if negative then '-' :: digits else digits)

/-- Whole numbers that come as fractional numbers are below this in magnitude. -/
def floatIntegerBound : Nat := Nat.pow 2 63

def integerOfFloat (x : Binary64) : Except Cause Int :=
  match x with
  | .finite .. =>
    match x.toInt? with
    | none => .error .fraction
    | some n => if n.natAbs < floatIntegerBound then .ok n else .error .integerSize
  | _ => .error .notFinite

def toInteger : Json → Except Cause Int
  | .int n => .ok n
  | .bool b => .ok (if b then 1 else 0)
  | .float x => integerOfFloat x
  | .str s => integerOfText s.toList
  | _ => .error .notInteger

def readInteger : Reader Int := fun j =>
  match toInteger j with
  | .ok n => .ok n
  | .error c => .fail c

/-- A whole number that is not negative. -/
def readNatural : Reader Nat := fun j =>
  match toInteger j with
  | .ok (.ofNat n) => .ok n
  | .ok (.negSucc _) => .fail .belowZero
  | .error c => .fail c

def trueWords : List String := ["1", "on", "t", "true", "y", "yes"]

def falseWords : List String := ["0", "off", "f", "false", "n", "no"]

def truthOf (n : Int) : Except Cause Bool :=
  if n = 0 then .ok false else if n = 1 then .ok true else .error .boolText

/-- A number counts as a truth value only if it is whole and within 64 bits. -/
def toBool : Json → Except Cause Bool
  | .bool b => .ok b
  | .int n =>
    if -(floatIntegerBound : Int) ≤ n ∧ n < floatIntegerBound then truthOf n else .error .notBool
  | .float x =>
    match integerOfFloat x with
    | .ok n => truthOf n
    | .error _ => .error .notBool
  | .str s =>
    let word := s.map Char.toLower
    if word ∈ falseWords then .ok false
    else if word ∈ trueWords then .ok true
    else .error .boolText
  | _ => .error .notBool

def readBool : Reader Bool := fun j =>
  match toBool j with
  | .ok b => .ok b
  | .error c => .fail c

end PaymentConnector
