import PaymentConnector.Connector.Settings
import PaymentConnector.Payment.Error
import PaymentConnector.Payment.Status

/-!
The connectors that can be asked for by name. There is one; letter case does not
matter in its name.
-/

namespace PaymentConnector

/-- A name that no connector has. -/
structure UnknownConnector where
  name : String
  deriving DecidableEq, Repr

def UnknownConnector.message (e : UnknownConnector) : String :=
  "Provider not supported: " ++ e.name

structure Connector where
  id : String
  settings : Settings
  unit : CurrencyUnit
  deriving DecidableEq, Repr

namespace Connector

def ofName (name : String) (settings : Settings) : Except UnknownConnector Connector :=
  if name.map Char.toLower = connectorId then .ok ⟨connectorId, settings, .minor⟩
  else .error ⟨name⟩

def health (c : Connector) : Json := .obj [("ok", .bool true), ("provider", .str c.id)]

end Connector

end PaymentConnector
