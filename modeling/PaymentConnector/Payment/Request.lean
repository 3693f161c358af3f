import PaymentConnector.Payment.Identifier
import PaymentConnector.Payment.Method
import PaymentConnector.Text.Upper

/-!
What each flow asks for. Amounts are whole numbers of minor units, and currencies
are kept in capitals.
-/

namespace PaymentConnector

open Text

/-- A currency has three characters before they are turned into capitals. -/
def readCurrency : Reader String := fun j =>
  (readString j).andThen fun s =>
    if s.length = 3 then .ok (upper s) else .fail (.rule .currencyLength)

structure AuthorizeData where
  amount : Nat
  currency : String
  method : PaymentMethod
  captureMethod : Option CaptureMethod
  email : Option Secret
  mandate : Option Mandate
  returnUrl : Option String

namespace AuthorizeData

def read : Reader AuthorizeData :=
  .model "PaymentsAuthorizeData" fun o =>
    mk <$> o.required "amount" readNatural
      <*> o.required "currency" readCurrency
      <*> o.required "payment_method_data" PaymentMethod.read
      <*> o.optional "capture_method" (Vocabulary.read CaptureMethod)
      <*> o.optional "email" Secret.read
      <*> o.optional "mandate_id" Mandate.read
      <*> o.optional "router_return_url" readString

def tree (d : AuthorizeData) : Json :=
  .obj [
    ("amount", .int d.amount),
    ("currency", .str d.currency),
    ("payment_method_data", d.method.tree),
    ("capture_method", .ofOption .ofToken d.captureMethod),
    ("email", .ofOption Secret.dump d.email),
    ("mandate_id", .ofOption Mandate.dump d.mandate),
    ("router_return_url", .ofOption .str d.returnUrl)]

end AuthorizeData

structure CaptureData where
  amount : Nat
  currency : String
  transactionId : String
  deriving DecidableEq

namespace CaptureData

def read : Reader CaptureData :=
  .model "PaymentsCaptureData" fun o =>
    mk <$> o.required "amount_to_capture" readNatural
      <*> o.required "currency" readCurrency
      <*> o.required "connector_transaction_id" readString

def dump (d : CaptureData) : Json :=
  .obj [
    ("amount_to_capture", .int d.amount),
    ("currency", .str d.currency),
    ("connector_transaction_id", .str d.transactionId)]

end CaptureData

structure CancelData where
  transactionId : String
  reason : Option String
  deriving DecidableEq

namespace CancelData

def read : Reader CancelData :=
  .model "PaymentsCancelData" fun o =>
    mk <$> o.required "connector_transaction_id" readString
      <*> o.optional "cancellation_reason" readString

def dump (d : CancelData) : Json :=
  .obj [
    ("connector_transaction_id", .str d.transactionId),
    ("cancellation_reason", .ofOption .str d.reason)]

end CancelData

structure SyncData where
  transactionId : ResourceId
  deriving DecidableEq

namespace SyncData

def read : Reader SyncData :=
  .model "PaymentsSyncData" fun o => mk <$> o.required "connector_transaction_id" ResourceId.read

def dump (d : SyncData) : Json := .obj [("connector_transaction_id", d.transactionId.dump)]

end SyncData

structure RefundData where
  refundId : String
  transactionId : String
  amount : Nat
  currency : String
  connectorRefundId : Option String
  reason : Option String
  deriving DecidableEq

namespace RefundData

def read : Reader RefundData :=
  .model "RefundsData" fun o =>
    mk <$> o.required "refund_id" readString
      <*> o.required "connector_transaction_id" readString
      <*> o.required "refund_amount" readNatural
      <*> o.required "currency" readCurrency
      <*> o.optional "connector_refund_id" readString
      <*> o.optional "reason" readString

def dump (d : RefundData) : Json :=
  .obj [
    ("refund_id", .str d.refundId),
    ("connector_transaction_id", .str d.transactionId),
    ("refund_amount", .int d.amount),
    ("currency", .str d.currency),
    ("connector_refund_id", .ofOption .str d.connectorRefundId),
    ("reason", .ofOption .str d.reason)]

end RefundData

end PaymentConnector
