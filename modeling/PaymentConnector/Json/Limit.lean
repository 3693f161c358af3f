import PaymentConnector.Json

/-!
What can be written. A whole number has a text only up to so many digits. A dump shows
the values of a dictionary as they are, apart from numbers that are not finite, and goes
only so many levels down into each of them.
-/

namespace PaymentConnector

namespace Json

/-- The longest number that is read or written. -/
def digitLimit : Nat := 4300

/-- The most levels that a dump goes through in one value. -/
def levelLimit : Nat := 255

/-- What a value may exceed when it is written. -/
inductive Limit
  | digits
  | nesting
  deriving DecidableEq, Repr

def Limit.message : Limit → String
  | digits =>
    "Exceeds the limit (4300 digits) for integer string conversion; "
      ++ "use sys.set_int_max_str_digits() to increase the limit"
  | nesting => "Circular reference detected (depth exceeded)"

mutual

/-- The levels of a value: an empty list or object has one, as a value that is neither. -/
def levels : Json → Nat
  | arr items => itemsLevels items + 1
  | obj entries => entriesLevels entries + 1
  | null => 1
  | bool _ => 1
  | int _ => 1
  | float _ => 1
  | str _ => 1

def itemsLevels : List Json → Nat
  | [] => 0
  | j :: rest => max (levels j) (itemsLevels rest)

def entriesLevels : List (String × Json) → Nat
  | [] => 0
  | (_, j) :: rest => max (levels j) (entriesLevels rest)

end

mutual

/-- The value with a null for every number that is not finite. -/
def finite : Json → Json
  | arr items => arr (finiteItems items)
  | obj entries => obj (finiteEntries entries)
  | float (.infinite _) => null
  | float .notANumber => null
  | float (.finite negative significand exponent) =>
    float (.finite negative significand exponent)
  | null => null
  | bool b => bool b
  | int n => int n
  | str s => str s

def finiteItems : List Json → List Json
  | [] => []
  | j :: rest => finite j :: finiteItems rest

def finiteEntries : List (String × Json) → List (String × Json)
  | [] => []
  | (key, j) :: rest => (key, finite j) :: finiteEntries rest

end

end Json

namespace Object

/-- The dictionary as a dump shows it. -/
def tree (o : Object) : Json := (Json.obj o).finite

/-- A dump gets to the bottom of every value. -/
def isShallow (o : Object) : Bool := o.all fun (_, j) => j.levels ≤ Json.levelLimit

end Object

/-- The dump of something that holds dictionaries. -/
def Json.dumpOf (dictionaries : List Object) (tree : Json) : Except Json.Limit Json :=
  if dictionaries.all Object.isShallow then .ok tree else .error .nesting

end PaymentConnector
