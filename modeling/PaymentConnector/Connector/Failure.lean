import PaymentConnector.Json.Limit
import PaymentConnector.Payment.Error
import PaymentConnector.Url.Split

/-!
Why a call to the connector fails: an error of the connector, data that a check
refused, an address that cannot be taken apart, or a value that cannot be written.
-/

namespace PaymentConnector

inductive Failure
  | refused (e : ConnectorError)
  | invalid (faults : List Fault)
  | address (f : Url.SplitFault)
  | limit (l : Json.Limit)
  deriving DecidableEq, Repr

/-- A checked value, or the failure that its faults are. -/
def Checked.orFail {α : Type} : Checked α → Except Failure α
  | .ok a => .ok a
  | .failed faults => .error (.invalid faults)

/-- A result of an accessor, or the failure that its error is. -/
def orRefuse {α : Type} : Except ConnectorError α → Except Failure α
  | .ok a => .ok a
  | .error e => .error (.refused e)

/-- What was written, or the failure that its limit is. -/
def orExceed {α : Type} : Except Json.Limit α → Except Failure α
  | .ok a => .ok a
  | .error l => .error (.limit l)

end PaymentConnector
