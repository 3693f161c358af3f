import PaymentConnector.Json.Limit
import PaymentConnector.Json.Printer

/-!
A JSON value as it stands inside a message or a decimal text field: a string as it
is, other values by their names, and strings inside lists and objects in quotes.
Too long a whole number, also one inside a list or an object, has no such text.
-/

namespace PaymentConnector.Json

open Text

/-- The decimal text of a whole number. -/
def numeral (n : Int) : Except Limit String :=
  if digitLimit < (Nat.toDigits 10 n.natAbs).length then .error .digits
  else .ok (String.ofList (intText n))

mutual

def inner : Json → Except Limit String
  | null => .ok "None"
  | bool b => .ok (if b then "True" else "False")
  | int n => numeral n
  | float x => .ok x.text
  | str s => .ok (quoted s)
  | arr items => do return "[" ++ String.intercalate ", " (← innerItems items) ++ "]"
  | obj entries => do
    return "\x7b" ++ String.intercalate ", " (← innerEntries entries) ++ "\x7d"

def innerItems : List Json → Except Limit (List String)
  | [] => .ok []
  | j :: rest => do return (← inner j) :: (← innerItems rest)

def innerEntries : List (String × Json) → Except Limit (List String)
  | [] => .ok []
  | (k, j) :: rest => do return (quoted k ++ ": " ++ (← inner j)) :: (← innerEntries rest)

end

def display : Json → Except Limit String
  | str s => .ok s
  | j => inner j

/-- What stands for a value that has no text. -/
def unprintable : Json → String
  | arr _ => "<unprintable list object>"
  | obj _ => "<unprintable dict object>"
  | _ => "<unprintable int object>"

/-- The text of a value, or what stands for it. -/
def displayed (j : Json) : String :=
  match j.display with
  | .ok s => s
  | .error _ => j.unprintable

end PaymentConnector.Json
