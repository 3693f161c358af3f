import PaymentConnector.Payment.Call

/-!
Errors of a connector, and the accessors of a call that fail with them. An error
names the connector if the connector itself raised it.
-/

namespace PaymentConnector

inductive RequiredField
  | billingAddress
  | billingCountry
  | returnUrl
  deriving DecidableEq, Repr

def RequiredField.path : RequiredField → String
  | billingAddress => "billing.address"
  | billingCountry => "billing.address.country"
  | returnUrl => "return_url"

inductive ErrorCause
  | missingField (field : RequiredField)
  | unsupportedMethod
  | missingTransactionId
  | noSignatureKey
  | unreadable (model : String)
  deriving DecidableEq, Repr

structure ConnectorError where
  cause : ErrorCause
  connector : Option String
  deriving DecidableEq, Repr

/-- The name of the connector in messages. -/
def connectorName : String := "Dlocal"

/-- The name by which the connector is asked for. -/
def connectorId : String := "dlocal"

def ErrorCause.message : ErrorCause → String
  | missingField field => "Missing required field: " ++ field.path
  | unsupportedMethod => "Selected payment method through " ++ connectorName
  | missingTransactionId => "Missing connector transaction ID"
  | noSignatureKey => "Failed to obtain authentication type"
  | unreadable model => "Failed to deserialize " ++ model

/-- An error that no connector is named for. -/
def ErrorCause.unnamed (c : ErrorCause) : ConnectorError := ⟨c, none⟩

def ErrorCause.named (c : ErrorCause) : ConnectorError := ⟨c, some connectorName⟩

def Envelope.billingAddress (e : Envelope) : Except ConnectorError Address :=
  match e.billingAddress? with
  | some a => .ok a
  | none => .error (ErrorCause.missingField .billingAddress).unnamed

/-- A text that must be there and not be empty. -/
def requireText (field : RequiredField) : Option String → Except ConnectorError String
  | some s => if s = "" then .error (ErrorCause.missingField field).unnamed else .ok s
  | none => .error (ErrorCause.missingField field).unnamed

def Address.requireCountry (a : Address) : Except ConnectorError String :=
  requireText .billingCountry a.country

def AuthorizeData.requireReturnUrl (d : AuthorizeData) : Except ConnectorError String :=
  requireText .returnUrl d.returnUrl

def ResourceId.requireTransactionId (r : ResourceId) : Except ConnectorError String :=
  match r.transactionId? with
  | some id => .ok id
  | none => .error ErrorCause.missingTransactionId.unnamed

end PaymentConnector
