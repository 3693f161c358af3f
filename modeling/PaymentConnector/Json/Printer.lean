import PaymentConnector.Json
import PaymentConnector.Number.Shortest
import PaymentConnector.Text.Quoted

/-!
JSON text from values, in ASCII. `Json.compact` keeps everything on one line;
`Json.indented` puts each item of a nonempty list or object on a line of its own,
two blanks deeper than its parent.
-/

namespace PaymentConnector.Json

open Text

def escapeUnit (n : Nat) : List Char := '\\' :: 'u' :: hexPadded 4 n

/-- Characters beyond the basic plane are written as a pair of surrogates. -/
def escapeCode (n : Nat) : List Char :=
  if n < 0x10000 then escapeUnit n
  else escapeUnit (0xD800 + (n - 0x10000) / 0x400) ++ escapeUnit (0xDC00 + (n - 0x10000) % 0x400)

def escapeChar (c : Char) : List Char :=
  if c = '"' then ['\\', '"']
  else if c = '\\' then ['\\', '\\']
  else if c = '\n' then ['\\', 'n']
  else if c = '\r' then ['\\', 'r']
  else if c = '\t' then ['\\', 't']
  else if c.toNat = 0x0C then ['\\', 'f']
  else if c.toNat = 0x08 then ['\\', 'b']
  else if 0x20 ≤ c.toNat ∧ c.toNat ≤ 0x7E then [c]
  else escapeCode c.toNat

def stringText (s : String) : List Char := '"' :: s.toList.flatMap escapeChar ++ ['"']

def intText (n : Int) : List Char :=
  if n < 0 then '-' :: Nat.toDigits 10 n.natAbs else Nat.toDigits 10 n.natAbs

def floatText : Binary64 → List Char
  | .infinite negative => (if negative then "-Infinity" else "Infinity").toList
  | .notANumber => "NaN".toList
  | x => x.text.toList

/-- The pieces with a separator between them. -/
def joinWith (separator : List Char) : List (List Char) → List Char
  | [] => []
  | [piece] => piece
  | piece :: rest => piece ++ separator ++ joinWith separator rest

mutual

def compact : Json → List Char
  | null => "null".toList
  | bool b => (if b then "true" else "false").toList
  | int n => intText n
  | float x => floatText x
  | str s => stringText s
  | arr items => '[' :: joinWith [',', ' '] (compactItems items) ++ [']']
  | obj entries => '{' :: joinWith [',', ' '] (compactEntries entries) ++ ['}']

def compactItems : List Json → List (List Char)
  | [] => []
  | j :: rest => compact j :: compactItems rest

def compactEntries : List (String × Json) → List (List Char)
  | [] => []
  | (k, j) :: rest => (stringText k ++ ':' :: ' ' :: compact j) :: compactEntries rest

end

def newline (depth : Nat) : List Char := '\n' :: List.replicate (2 * depth) ' '

/-- A nonempty list or object whose items stand on lines of their own. -/
def block (left right : Char) (depth : Nat) (items : List (List Char)) : List Char :=
  if items.isEmpty then [left, right]
  else left :: newline (depth + 1) ++ joinWith (',' :: newline (depth + 1)) items
    ++ newline depth ++ [right]

mutual

def indented (depth : Nat) : Json → List Char
  | null => "null".toList
  | bool b => (if b then "true" else "false").toList
  | int n => intText n
  | float x => floatText x
  | str s => stringText s
  | arr items => block '[' ']' depth (indentedItems (depth + 1) items)
  | obj entries => block '{' '}' depth (indentedEntries (depth + 1) entries)

def indentedItems (depth : Nat) : List Json → List (List Char)
  | [] => []
  | j :: rest => indented depth j :: indentedItems depth rest

def indentedEntries (depth : Nat) : List (String × Json) → List (List Char)
  | [] => []
  | (k, j) :: rest => (stringText k ++ ':' :: ' ' :: indented depth j) :: indentedEntries depth rest

end

end PaymentConnector.Json
