import PaymentConnector.Text.Fields
import PaymentConnector.Text.Span

/-!
Addresses of four bytes. A host whose last label is a number must be such an
address: one to four numbers, each decimal, octal after a zero or hexadecimal
after `0x`, of which the last fills the bytes that are left.
-/

namespace PaymentConnector.Url.Ipv4

open Text

def valueIn (base : Nat) (digits : List Nat) : Nat := digits.foldl (fun n d => n * base + d) 0

/-- All digits of a text, if they are below the base. -/
def digitsIn? (base : Nat) (s : List Char) : Option (List Nat) :=
  s.mapM fun c => (hexDigit? c).bind fun d => if d < base then some d else none

/-- A number of any size. A bare `0x` is zero. -/
def number? : List Char → Option Nat
  | [] => none
  | '0' :: 'x' :: rest => (digitsIn? 16 rest).map (valueIn 16)
  | '0' :: 'X' :: rest => (digitsIn? 16 rest).map (valueIn 16)
  | '0' :: d :: rest => (digitsIn? 8 (d :: rest)).map (valueIn 8)
  | s => (digitsIn? 10 s).map (valueIn 10)

/-- The labels of a host; an empty one at the end does not count. -/
def labels (host : List Char) : List (List Char) :=
  let all := fields (· = '.') host
  if all.getLast? = some [] ∧ 1 < all.length then all.dropLast else all

def endsInNumber (host : List Char) : Bool :=
  match (labels host).getLast? with
  | some label => !label.isEmpty && (label.all Char.isDigit || (number? label).isSome)
  | none => false

/-- The address that one to four numbers stand for. -/
def ofNumbers? (numbers : List Nat) : Option Nat :=
  match numbers.reverse with
  | [] => none
  | last :: initial =>
    let count := initial.length
    if 3 < count ∨ 255 < initial.foldl max 0 ∨ Nat.pow 256 (4 - count) ≤ last then none
    else some (valueIn 256 initial.reverse * Nat.pow 256 (4 - count) + last)

def read? (host : List Char) : Option Nat :=
  ((labels host).mapM number?).bind ofNumbers?

/-- The four bytes in decimal, with points between them. -/
def text (n : Nat) : List Char :=
  let byte (i : Nat) : List Char := Nat.toDigits 10 (n / Nat.pow 256 i % 256)
  byte 3 ++ '.' :: byte 2 ++ '.' :: byte 1 ++ '.' :: byte 0

/-- A byte in decimal, without leading zeros. -/
def strictByte? (s : List Char) : Option Nat :=
  if s = [] ∨ !s.all Char.isDigit ∨ 3 < s.length ∨ (s.head? = some '0' ∧ s ≠ ['0']) then none
  else
    let n := Nat.ofDigitChars 10 s 0
    if n ≤ 255 then some n else none

/-- Exactly four bytes in decimal. -/
def readStrict? (s : List Char) : Option Nat :=
  match (fields (· = '.') s).mapM strictByte? with
  | some [a, b, c, d] => some (valueIn 256 [a, b, c, d])
  | _ => none

end PaymentConnector.Url.Ipv4
