import PaymentConnector.Payment.Status
import PaymentConnector.Check.Scalar

/-!
A form that sends the customer to another site: an address without its query, and
the fields that the query held.
-/

namespace PaymentConnector

structure RedirectForm where
  endpoint : String
  method : HttpMethod
  fields : List (String × String)
  deriving DecidableEq

namespace RedirectForm

/-- Entries whose values are all strings; every other value is a fault of its own. -/
def readEntries : Object → Checked (List (String × String))
  | [] => .ok []
  | (key, j) :: rest =>
    (fun s entries => (key, s) :: entries) <$> (readString j).under key <*> readEntries rest

def readFields : Reader (List (String × String)) := .object .dictionary readEntries

def read : Reader RedirectForm :=
  .model "RedirectForm" fun o =>
    mk <$> o.required "endpoint" readString
      <*> o.required "method" (Vocabulary.read HttpMethod)
      <*> o.defaulted "form_fields" [] readFields

def dump (f : RedirectForm) : Json :=
  .obj [
    ("endpoint", .str f.endpoint),
    ("method", .ofToken f.method),
    ("form_fields", .obj (f.fields.map fun (key, value) => (key, .str value)))]

end RedirectForm

end PaymentConnector
