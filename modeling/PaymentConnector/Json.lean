import PaymentConnector.Entries
import PaymentConnector.Number.Binary64

/-!
JSON values. Whole numbers and fractional numbers are kept apart, and an object
keeps its entries in the order in which their keys first arrived.
-/

namespace PaymentConnector

inductive Json
  | null
  | bool (b : Bool)
  | int (n : Int)
  | float (x : Binary64)
  | str (s : String)
  | arr (items : List Json)
  | obj (entries : List (String × Json))

abbrev Object := List (String × Json)

namespace Object

def get? (o : Object) (key : String) : Option Json := o.lookup key

end Object

namespace Json

def ofOption {α : Type} (write : α → Json) : Option α → Json
  | some a => write a
  | none => null

end Json

end PaymentConnector
