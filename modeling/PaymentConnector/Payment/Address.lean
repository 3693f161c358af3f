import PaymentConnector.Payment.Secret
import PaymentConnector.Text.Upper

/-!
Billing addresses. The country is kept in capitals, and the full name is the first
and the last name with the blanks around them removed.
-/

namespace PaymentConnector

open Text

structure Address where
  firstName : Option Secret
  lastName : Option Secret
  line1 : Option Secret
  line2 : Option Secret
  city : Option String
  state : Option Secret
  zip : Option Secret
  country : Option String
  deriving DecidableEq

namespace Address

def read : Reader Address :=
  .model "AddressDetails" fun o =>
    mk <$> o.optional "first_name" Secret.read
      <*> o.optional "last_name" Secret.read
      <*> o.optional "line1" Secret.read
      <*> o.optional "line2" Secret.read
      <*> o.optional "city" readString
      <*> o.optional "state" Secret.read
      <*> o.optional "zip" Secret.read
      <*> (o.optional "country" readString).map (·.map upper)

def dump (a : Address) : Json :=
  .obj [
    ("first_name", .ofOption Secret.dump a.firstName),
    ("last_name", .ofOption Secret.dump a.lastName),
    ("line1", .ofOption Secret.dump a.line1),
    ("line2", .ofOption Secret.dump a.line2),
    ("city", .ofOption .str a.city),
    ("state", .ofOption Secret.dump a.state),
    ("zip", .ofOption Secret.dump a.zip),
    ("country", .ofOption .str a.country)]

def nameText (part : Option Secret) : List Char :=
  match part with
  | some s => s.reveal.toList
  | none => []

def fullNameChars (a : Address) : List Char :=
  trim isBlank (nameText a.firstName ++ ' ' :: nameText a.lastName)

/-- The full name, unless it is blank. -/
def fullName (a : Address) : Option Secret :=
  if a.fullNameChars.isEmpty then none else some ⟨String.ofList a.fullNameChars⟩

end Address

/-- An address with the ways to reach the payer. -/
structure Contact where
  address : Option Address
  email : Option Secret
  phone : Option Secret
  deriving DecidableEq

namespace Contact

def read : Reader Contact :=
  .model "Address" fun o =>
    mk <$> o.optional "address" Address.read
      <*> o.optional "email" Secret.read
      <*> o.optional "phone" Secret.read

def dump (c : Contact) : Json :=
  .obj [
    ("address", .ofOption Address.dump c.address),
    ("email", .ofOption Secret.dump c.email),
    ("phone", .ofOption Secret.dump c.phone)]

end Contact

end PaymentConnector
