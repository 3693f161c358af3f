import PaymentConnector.Text.Blank
import PaymentConnector.Text.DecimalDigit

/-!
Whole numbers as arguments. Blanks may stand around the number, a sign before it and
single underscores between its digits; the digits may be of any script.
-/

namespace PaymentConnector.CommandLine

open Text

/-- The values of digits with single underscores between them. -/
def digitValues? : List Char → Option (List Nat)
  | [] => none
  | [c] => (digitValue? c).map ([·])
  | c :: '_' :: rest => do
    let d ← digitValue? c
    let ds ← digitValues? rest
    return d :: ds
  | c :: rest => do
    let d ← digitValue? c
    let ds ← digitValues? rest
    return d :: ds

def magnitude (digits : List Nat) : Nat := digits.foldl (fun n d => 10 * n + d) 0

/-- The most digits of a number. -/
def digitLimit : Nat := 4300

def natural? (s : List Char) : Option Nat := do
  let digits ← digitValues? s
  if digits.length ≤ digitLimit then some (magnitude digits) else none

def integer? (s : List Char) : Option Int :=
  match trim isSpace s with
  | '-' :: rest => (natural? rest).map fun n => -(n : Int)
  | '+' :: rest => (natural? rest).map fun n => (n : Int)
  | rest => (natural? rest).map fun n => (n : Int)

end PaymentConnector.CommandLine
