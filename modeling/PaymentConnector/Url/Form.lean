import PaymentConnector.Entries
import PaymentConnector.Text.Fields
import PaymentConnector.Url.Percent

/-!
Form fields from a query: parts between ampersands, each a name and a value around
the first equals sign. A plus sign stands for a blank, and bytes that are no
character are replaced.
-/

namespace PaymentConnector.Url.Form

open Text

def decodeText (s : List Char) : String :=
  String.ofList (Utf8.decodeLenient (percentDecode (s.map fun c => if c = '+' then ' ' else c)))

def decodeField (s : List Char) : String × String :=
  match cutAround (· = '=') s with
  | some (name, value) => (decodeText name, decodeText value)
  | none => (decodeText s, "")

/-- All fields in order; a part without any character is none. -/
def pairs (query : List Char) : List (String × String) :=
  ((fields (· = '&') query).filter (!·.isEmpty)).map decodeField

/-- The fields by name. -/
def read (query : List Char) : List (String × String) := Entries.ofList (pairs query)

end PaymentConnector.Url.Form
