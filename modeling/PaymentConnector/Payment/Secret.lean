import PaymentConnector.Check.Scalar

/-!
Text that must not show. A dump shows a mask in its place; only the fields of a
request that are meant for it reveal it.
-/

namespace PaymentConnector

structure Secret where
  reveal : String
  deriving DecidableEq

namespace Secret

def mask : String := "**********"

def masked (s : Secret) : String := if s.reveal = "" then "" else mask

def dump (s : Secret) : Json := .str s.masked

/-- The text itself, for the requests that carry it. -/
def wire (s : Secret) : Json := .str s.reveal

def read : Reader Secret
  | .str s => .ok ⟨s⟩
  | _ => .fail .notString

end Secret

end PaymentConnector
