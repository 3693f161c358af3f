import PaymentConnector.Payment.Secret
import PaymentConnector.Payment.Flow

/-!
The bodies that requests carry. A dump shows every field, with a null for what is
absent; the wire form leaves what is absent out. Both reveal the secrets that the
connector needs.
-/

namespace PaymentConnector

/-- An object of the fields that are there. -/
def Json.present (fields : List (String × Option Json)) : Json :=
  .obj (fields.filterMap fun (key, value) => value.map (key, ·))

namespace Wire

inductive MethodId
  | card
  deriving DecidableEq, Repr

instance : Vocabulary MethodId where
  name := "PaymentMethodId"
  all := [.card]
  token
    | .card => "CARD"

inductive MethodFlow
  | direct
  | redirect
  deriving DecidableEq, Repr

instance : Vocabulary MethodFlow where
  name := "PaymentMethodFlow"
  all := [.direct, .redirect]
  token
    | .direct => "DIRECT"
    | .redirect => "REDIRECT"

structure Payer where
  name : Option Secret
  email : Option Secret
  document : Secret
  deriving DecidableEq

namespace Payer

def read : Reader Payer :=
  .model "Payer" fun o =>
    mk <$> o.optional "name" Secret.read
      <*> o.optional "email" Secret.read
      <*> o.required "document" Secret.read

def dump (p : Payer) : Json :=
  .obj [
    ("name", .ofOption Secret.wire p.name),
    ("email", .ofOption Secret.wire p.email),
    ("document", p.document.wire)]

def wire (p : Payer) : Json :=
  .present [
    ("name", p.name.map Secret.wire),
    ("email", p.email.map Secret.wire),
    ("document", some p.document.wire)]

end Payer

structure Card where
  holderName : Secret
  number : Secret
  code : Secret
  expiryMonth : Secret
  expiryYear : Secret
  capture : String
  installmentsId : Option String
  installments : Option String
  deriving DecidableEq

namespace Card

def read : Reader Card :=
  .model "Card" fun o =>
    mk <$> o.required "holder_name" Secret.read
      <*> o.required "number" Secret.read
      <*> o.required "cvv" Secret.read
      <*> o.required "expiration_month" Secret.read
      <*> o.required "expiration_year" Secret.read
      <*> o.required "capture" readString
      <*> o.optional "installments_id" readString
      <*> o.optional "installments" readString

def dump (c : Card) : Json :=
  .obj [
    ("holder_name", c.holderName.wire),
    ("number", c.number.wire),
    ("cvv", c.code.wire),
    ("expiration_month", c.expiryMonth.wire),
    ("expiration_year", c.expiryYear.wire),
    ("capture", .str c.capture),
    ("installments_id", .ofOption .str c.installmentsId),
    ("installments", .ofOption .str c.installments)]

def wire (c : Card) : Json :=
  .present [
    ("holder_name", some c.holderName.wire),
    ("number", some c.number.wire),
    ("cvv", some c.code.wire),
    ("expiration_month", some c.expiryMonth.wire),
    ("expiration_year", some c.expiryYear.wire),
    ("capture", some (.str c.capture)),
    ("installments_id", c.installmentsId.map .str),
    ("installments", c.installments.map .str)]

end Card

/-- Whether the connector has to ask for 3-D Secure. -/
structure ThreeDsDemand where
  force : Bool
  deriving DecidableEq

namespace ThreeDsDemand

def read : Reader ThreeDsDemand :=
  .model "ThreeDSecureReqData" fun o => mk <$> o.required "force" readBool

def dump (d : ThreeDsDemand) : Json := .obj [("force", .bool d.force)]

def wire (d : ThreeDsDemand) : Json := .present [("force", some (.bool d.force))]

end ThreeDsDemand

structure PaymentRequest where
  amount : Int
  currency : String
  country : String
  methodId : MethodId
  methodFlow : MethodFlow
  payer : Payer
  card : Option Card
  orderId : String
  threeDs : Option ThreeDsDemand
  callbackUrl : Option String
  description : Option String
  deriving DecidableEq

namespace PaymentRequest

def read : Reader PaymentRequest :=
  .model "DlocalPaymentsRequest" fun o =>
    mk <$> o.required "amount" readInteger
      <*> o.required "currency" readString
      <*> o.required "country" readString
      <*> o.defaulted "payment_method_id" .card (Vocabulary.read MethodId)
      <*> o.defaulted "payment_method_flow" .direct (Vocabulary.read MethodFlow)
      <*> o.required "payer" Payer.read
      <*> o.optional "card" Card.read
      <*> o.required "order_id" readString
      <*> o.optional "three_dsecure" ThreeDsDemand.read
      <*> o.optional "callback_url" readString
      <*> o.optional "description" readString

def dump (r : PaymentRequest) : Json :=
  .obj [
    ("amount", .int r.amount),
    ("currency", .str r.currency),
    ("country", .str r.country),
    ("payment_method_id", .ofToken r.methodId),
    ("payment_method_flow", .ofToken r.methodFlow),
    ("payer", r.payer.dump),
    ("card", .ofOption Card.dump r.card),
    ("order_id", .str r.orderId),
    ("three_dsecure", .ofOption ThreeDsDemand.dump r.threeDs),
    ("callback_url", .ofOption .str r.callbackUrl),
    ("description", .ofOption .str r.description)]

def wire (r : PaymentRequest) : Json :=
  .present [
    ("amount", some (.int r.amount)),
    ("currency", some (.str r.currency)),
    ("country", some (.str r.country)),
    ("payment_method_id", some (.ofToken r.methodId)),
    ("payment_method_flow", some (.ofToken r.methodFlow)),
    ("payer", some r.payer.wire),
    ("card", r.card.map Card.wire),
    ("order_id", some (.str r.orderId)),
    ("three_dsecure", r.threeDs.map ThreeDsDemand.wire),
    ("callback_url", r.callbackUrl.map .str),
    ("description", r.description.map .str)]

end PaymentRequest

structure SyncRequest where
  authorizationId : String
  deriving DecidableEq

namespace SyncRequest

def read : Reader SyncRequest :=
  .model "DlocalPaymentsSyncRequest" fun o => mk <$> o.required "authz_id" readString

def dump (r : SyncRequest) : Json := .obj [("authz_id", .str r.authorizationId)]

def wire (r : SyncRequest) : Json := .present [("authz_id", some (.str r.authorizationId))]

end SyncRequest

structure CaptureRequest where
  authorizationId : String
  amount : Int
  currency : String
  orderId : String
  deriving DecidableEq

namespace CaptureRequest

def read : Reader CaptureRequest :=
  .model "DlocalPaymentsCaptureRequest" fun o =>
    mk <$> o.required "authorization_id" readString
      <*> o.required "amount" readInteger
      <*> o.required "currency" readString
      <*> o.required "order_id" readString

def dump (r : CaptureRequest) : Json :=
  .obj [
    ("authorization_id", .str r.authorizationId),
    ("amount", .int r.amount),
    ("currency", .str r.currency),
    ("order_id", .str r.orderId)]

def wire (r : CaptureRequest) : Json :=
  .present [
    ("authorization_id", some (.str r.authorizationId)),
    ("amount", some (.int r.amount)),
    ("currency", some (.str r.currency)),
    ("order_id", some (.str r.orderId))]

end CaptureRequest

structure CancelRequest where
  cancelId : String
  deriving DecidableEq

namespace CancelRequest

def read : Reader CancelRequest :=
  .model "DlocalPaymentsCancelRequest" fun o => mk <$> o.required "cancel_id" readString

def dump (r : CancelRequest) : Json := .obj [("cancel_id", .str r.cancelId)]

def wire (r : CancelRequest) : Json := .present [("cancel_id", some (.str r.cancelId))]

end CancelRequest

structure RefundRequest where
  amount : String
  paymentId : String
  currency : String
  id : String
  deriving DecidableEq

namespace RefundRequest

def read : Reader RefundRequest :=
  .model "DlocalRefundRequest" fun o =>
    mk <$> o.required "amount" readString
      <*> o.required "payment_id" readString
      <*> o.required "currency" readString
      <*> o.required "id" readString

def dump (r : RefundRequest) : Json :=
  .obj [
    ("amount", .str r.amount),
    ("payment_id", .str r.paymentId),
    ("currency", .str r.currency),
    ("id", .str r.id)]

def wire (r : RefundRequest) : Json :=
  .present [
    ("amount", some (.str r.amount)),
    ("payment_id", some (.str r.paymentId)),
    ("currency", some (.str r.currency)),
    ("id", some (.str r.id))]

end RefundRequest

structure RefundSyncRequest where
  refundId : String
  deriving DecidableEq

namespace RefundSyncRequest

def read : Reader RefundSyncRequest :=
  .model "DlocalRefundsSyncRequest" fun o => mk <$> o.required "refund_id" readString

def dump (r : RefundSyncRequest) : Json := .obj [("refund_id", .str r.refundId)]

def wire (r : RefundSyncRequest) : Json := .present [("refund_id", some (.str r.refundId))]

end RefundSyncRequest

end Wire

namespace Flow

/-- The body that a request of a flow carries. -/
abbrev Body : Flow → Type
  | authorize => Wire.PaymentRequest
  | capture => Wire.CaptureRequest
  | void => Wire.CancelRequest
  | psync => Wire.SyncRequest
  | refund => Wire.RefundRequest
  | rsync => Wire.RefundSyncRequest

def wireBody : (flow : Flow) → flow.Body → Json
  | authorize => Wire.PaymentRequest.wire
  | capture => Wire.CaptureRequest.wire
  | void => Wire.CancelRequest.wire
  | psync => Wire.SyncRequest.wire
  | refund => Wire.RefundRequest.wire
  | rsync => Wire.RefundSyncRequest.wire

end Flow

end PaymentConnector
