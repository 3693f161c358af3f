/-!
Sets of code points as ascending closed spans. Long lists of spans are kept as
hexadecimal text: gaps and lengths in turn, from the code point zero on.
-/

namespace PaymentConnector.Text

abbrev Span := Nat × Nat

def Span.has (s : Span) (n : Nat) : Bool := s.1 ≤ n && n ≤ s.2

def inSpans (spans : List Span) (n : Nat) : Bool := spans.any (·.has n)

def hexDigit? (c : Char) : Option Nat :=
  if '0' ≤ c ∧ c ≤ '9' then some (c.toNat - '0'.toNat)
  else if 'a' ≤ c ∧ c ≤ 'f' then some (c.toNat - 'a'.toNat + 10)
  else if 'A' ≤ c ∧ c ≤ 'F' then some (c.toNat - 'A'.toNat + 10)
  else none

/-- The hexadecimal numbers of a text, separated by anything that is no digit. -/
def hexNumbers : List Char → Option Nat → List Nat
  | [], none => []
  | [], some n => [n]
  | c :: rest, pending =>
    match hexDigit? c, pending with
    | some d, none => hexNumbers rest (some d)
    | some d, some n => hexNumbers rest (some (16 * n + d))
    | none, none => hexNumbers rest none
    | none, some n => n :: hexNumbers rest none

def spansOfGaps (position : Nat) : List Nat → List Span
  | gap :: length :: rest =>
    let first := position + gap
    (first, first + length - 1) :: spansOfGaps (first + length) rest
  | _ => []

/-- The spans written in `lines`. -/
def decodeSpans (lines : List String) : List Span :=
  spansOfGaps 0 (lines.flatMap fun line => hexNumbers line.toList none)

end PaymentConnector.Text
