import PaymentConnector.Check.Scalar
import PaymentConnector.Json.Reader
import PaymentConnector.Log
import PaymentConnector.Payment.Error
import PaymentConnector.Text.Utf8
import PaymentConnector.Url.Reader
import PaymentConnector.Wire.Status

/-!
The payloads that the connector answers with. A payload comes as a value, as JSON
text or as the bytes of such text. One that does not match its schema is an error,
with one warning in the log that tells the number of faults.
-/

namespace PaymentConnector

def readUrl : Reader Url
  | .str s =>
    match Url.read s.toList with
    | .ok u => .ok u
    | .error e => .fail (.url e)
  | _ => .fail .notUrl

def Url.dump (u : Url) : Json := .str (String.ofList u.text)

namespace Wire

/-- What a 3-D Secure check led to. -/
structure ThreeDsResult where
  redirectUrl : Option Url
  deriving DecidableEq

namespace ThreeDsResult

def name : String := "ThreeDSecureResData"

def read : Reader ThreeDsResult :=
  .model name fun o => mk <$> o.optional "redirect_url" readUrl

def dump (r : ThreeDsResult) : Json := .obj [("redirect_url", .ofOption Url.dump r.redirectUrl)]

end ThreeDsResult

/-- The status of a payload; one that is absent counts as pending. -/
def readStatus (o : Object) : Checked PaymentStatus :=
  o.defaulted "status" .pending (Vocabulary.read PaymentStatus)

structure PaymentResponse where
  status : PaymentStatus
  id : String
  threeDs : Option ThreeDsResult
  orderId : Option String
  deriving DecidableEq

namespace PaymentResponse

def name : String := "DlocalPaymentsResponse"

def read : Reader PaymentResponse :=
  .model name fun o =>
    mk <$> readStatus o
      <*> o.required "id" readString
      <*> o.optional "three_dsecure" ThreeDsResult.read
      <*> o.optional "order_id" readString

def dump (r : PaymentResponse) : Json :=
  .obj [
    ("status", .ofToken r.status),
    ("id", .str r.id),
    ("three_dsecure", .ofOption ThreeDsResult.dump r.threeDs),
    ("order_id", .ofOption .str r.orderId)]

end PaymentResponse

structure SyncResponse where
  status : PaymentStatus
  id : String
  orderId : Option String
  deriving DecidableEq

namespace SyncResponse

def name : String := "DlocalPaymentsSyncResponse"

def read : Reader SyncResponse :=
  .model name fun o =>
    mk <$> readStatus o
      <*> o.required "id" readString
      <*> o.optional "order_id" readString

def dump (r : SyncResponse) : Json :=
  .obj [
    ("status", .ofToken r.status),
    ("id", .str r.id),
    ("order_id", .ofOption .str r.orderId)]

end SyncResponse

structure CaptureResponse where
  status : PaymentStatus
  id : String
  orderId : Option String
  deriving DecidableEq

namespace CaptureResponse

def name : String := "DlocalPaymentsCaptureResponse"

def read : Reader CaptureResponse :=
  .model name fun o =>
    mk <$> readStatus o
      <*> o.required "id" readString
      <*> o.optional "order_id" readString

def dump (r : CaptureResponse) : Json :=
  .obj [
    ("status", .ofToken r.status),
    ("id", .str r.id),
    ("order_id", .ofOption .str r.orderId)]

end CaptureResponse

structure CancelResponse where
  status : PaymentStatus
  orderId : String
  deriving DecidableEq

namespace CancelResponse

def name : String := "DlocalPaymentsCancelResponse"

def read : Reader CancelResponse :=
  .model name fun o => mk <$> readStatus o <*> o.required "order_id" readString

def dump (r : CancelResponse) : Json :=
  .obj [("status", .ofToken r.status), ("order_id", .str r.orderId)]

end CancelResponse

structure RefundResponse where
  id : String
  status : RefundToken
  deriving DecidableEq

namespace RefundResponse

def name : String := "RefundResponse"

def read : Reader RefundResponse :=
  .model name fun o =>
    mk <$> o.required "id" readString
      <*> o.defaulted "status" .pending (Vocabulary.read RefundToken)

def dump (r : RefundResponse) : Json :=
  .obj [("id", .str r.id), ("status", .ofToken r.status)]

end RefundResponse

structure ErrorPayload where
  code : Int
  message : String
  param : Option String
  deriving DecidableEq

namespace ErrorPayload

def name : String := "DlocalErrorResponse"

def read : Reader ErrorPayload :=
  .model name fun o =>
    mk <$> o.required "code" readInteger
      <*> o.required "message" readString
      <*> o.optional "param" readString

def dump (p : ErrorPayload) : Json :=
  .obj [
    ("code", .int p.code),
    ("message", .str p.message),
    ("param", .ofOption .str p.param)]

end ErrorPayload

/-- A payload as it arrived. -/
inductive Payload
  | value (j : Json)
  | bytes (b : List UInt8)

namespace Payload

/-- Payload text is read strictly, and not deeper than this. -/
def dialect : Json.Dialect := ⟨200, false, .characters, true⟩

/-- The faults of a value that is not even an object. -/
def malformed {α : Type} : Checked α := .fail (.notObject .dictionary)

def readText {α : Type} (read : Reader α) (text : List Char) : Checked α :=
  match Json.read dialect text with
  | .ok j => read j
  | .error _ => malformed

/-- A value that is a string holds text; any other value than an object is malformed. -/
def read {α : Type} (read : Reader α) : Payload → Checked α
  | value (.obj o) => read (.obj o)
  | value (.str s) => readText read s.toList
  | value _ => malformed
  | bytes b =>
    match Text.Utf8.decode b with
    | .ok text => readText read text
    | .error _ => malformed

/-- A payload that matches its schema, or an error with a warning. -/
def parse {α : Type} (name : String) (reader : Reader α) (p : Payload) :
    Logged (Except ConnectorError α) :=
  match p.read reader with
  | .ok a => .pure (.ok a)
  | .failed faults => do
    .tell .warning .payloads
      ("Failed to deserialize " ++ name ++ ": " ++ toString faults.length ++ " error(s)")
    return .error (ErrorCause.unreadable name).named

end Payload

end Wire

end PaymentConnector
