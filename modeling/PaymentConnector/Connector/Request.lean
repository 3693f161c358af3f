import PaymentConnector.Connector.Failure
import PaymentConnector.Json.Display
import PaymentConnector.Log
import PaymentConnector.Wire.Document
import PaymentConnector.Wire.Request

/-!
Requests to the connector, built from calls. An amount may be given in place of that
of the request; only authorizations and refunds heed it. A text for an amount is
read when a payment is authorized, and sent as it is when one is refunded. A refund
fails for an amount that has no text.
-/

namespace PaymentConnector

/-- Whether the amount is captured together with the authorization. -/
def CaptureMethod.isAutomatic : CaptureMethod → Bool
  | automatic => true
  | sequentialAutomatic => true
  | manual => false
  | manualMultiple => false
  | scheduled => false

/-- The connector wants a word for the truth value. -/
def captureFlag (m : Option CaptureMethod) : String :=
  if m.any CaptureMethod.isAutomatic then "true" else "false"

/-- The methods that the connector is known not to take. -/
def unsupportedMethods : List MethodKind :=
  [.other .cardRedirect, .other .wallet, .other .payLater, .other .bankRedirect,
   .other .bankDebit, .other .bankTransfer, .other .crypto, .other .mandatePayment,
   .other .reward, .other .realTimePayment, .other .mobilePayment, .other .upi, .other .voucher,
   .other .giftCard, .other .openBanking, .other .cardToken, .other .networkToken,
   .other .cardDetailsForNetworkTransactionId]

/-- The records of a refused method; it is an error if the connector does not know of it. -/
def rejectionLog (kind : MethodKind) : List LogRecord :=
  let rejected : LogRecord :=
    ⟨.warning, .requests, "Rejecting payment method " ++ token kind ++ " for " ++ connectorName⟩
  if kind ∈ unsupportedMethods then [rejected]
  else
    [⟨.error, .requests,
      "Payment method " ++ token kind ++ " is not classified for " ++ connectorName⟩, rejected]

/-- The given amount, or that of the request where null is given. -/
def amountOr (own : Nat) : Json → Json
  | .null => .int own
  | given => given

namespace Call

def cardBody (c : Call .authorize) (card : Card) : Wire.Card where
  holderName := c.envelope.billingName?.getD ⟨""⟩
  number := card.number
  code := card.code
  expiryMonth := card.expiryMonth
  expiryYear := card.expiryYear
  capture := captureFlag c.request.captureMethod
  installmentsId := c.request.mandate.bind (·.mandateId)
  installments := c.request.mandate.map fun _ => "1"

def payerBody (c : Call .authorize) (address : Address) (country : String) : Wire.Payer where
  name := address.fullName
  email := c.request.email
  document := ⟨Wire.documentFor country⟩

def threeDsDemand (c : Call .authorize) : Option Wire.ThreeDsDemand :=
  match c.envelope.authentication with
  | .threeDs => some ⟨true⟩
  | .noThreeDs => none

/-- The card of a payment; every other method is refused. -/
def requireCard (c : Call .authorize) : Except ConnectorError Card :=
  match c.request.method.instrument with
  | .card card => .ok card
  | .other _ => .error ErrorCause.unsupportedMethod.named

def paymentBody (c : Call .authorize) (amount : Json) : Except Failure Wire.PaymentRequest := do
  let address ← orRefuse c.envelope.billingAddress
  let country ← orRefuse address.requireCountry
  let card ← orRefuse c.requireCard
  let callback ← orRefuse c.request.requireReturnUrl
  let minor ← ((readInteger (amountOr c.request.amount amount)).under "amount").orFail
  return {
    amount := minor
    currency := c.request.currency
    country
    methodId := .card
    methodFlow := .direct
    payer := c.payerBody address country
    card := some (c.cardBody card)
    orderId := c.envelope.reference
    threeDs := c.threeDsDemand
    callbackUrl := some callback
    description := c.envelope.description }

def captureBody (c : Call .capture) : Wire.CaptureRequest where
  authorizationId := c.request.transactionId
  amount := c.request.amount
  currency := c.request.currency
  orderId := c.envelope.reference

def cancelBody (c : Call .void) : Wire.CancelRequest := ⟨c.request.transactionId⟩

def syncBody (c : Call .psync) : Except Failure Wire.SyncRequest :=
  match c.request.transactionId.transactionId? with
  | some id => .ok ⟨id⟩
  | none => .error (.refused ErrorCause.missingTransactionId.named)

def refundBody (c : Call .refund) (amount : Json) : Except Failure Wire.RefundRequest := do
  let text ← orExceed (amountOr c.request.amount amount).display
  return {
    amount := text
    paymentId := c.request.transactionId
    currency := c.request.currency
    id := c.request.refundId }

/-- The connector's name of the refund, or the merchant's where there is none. -/
def refundSyncBody (c : Call .rsync) : Wire.RefundSyncRequest :=
  match c.request.connectorRefundId with
  | some id => if id = "" then ⟨c.request.refundId⟩ else ⟨id⟩
  | none => ⟨c.request.refundId⟩

/-- The body of the request that a call makes. -/
def body : {flow : Flow} → Call flow → Json → Except Failure flow.Body
  | .authorize, c, amount => c.paymentBody amount
  | .capture, c, _ => .ok c.captureBody
  | .void, c, _ => .ok c.cancelBody
  | .psync, c, _ => c.syncBody
  | .refund, c, amount => c.refundBody amount
  | .rsync, c, _ => .ok c.refundSyncBody

/-- Authorizations leave a record: of a request that was built, or of a method refused. -/
def bodyLog : {flow : Flow} → Call flow → Except Failure flow.Body → List LogRecord
  | .authorize, _, .ok body =>
    [⟨.debug, .requests,
      "Built " ++ connectorName ++ " payments request for order " ++ body.orderId⟩]
  | .authorize, c, .error (.refused ⟨.unsupportedMethod, _⟩) =>
    rejectionLog c.request.method.instrument.kind
  | _, _, _ => []

/-- Build the request of a call. -/
def build {flow : Flow} (c : Call flow) (amount : Json) : Logged (Except Failure flow.Body) :=
  ⟨c.body amount, c.bodyLog (c.body amount)⟩

end Call

end PaymentConnector
