import PaymentConnector.Json.Limit
import PaymentConnector.Payment.Identifier
import PaymentConnector.Payment.RedirectForm

/-!
What a connector answered: about a payment, about a refund, or that it failed.
-/

namespace PaymentConnector

structure PaymentReply where
  resource : ResourceId
  redirection : Option RedirectForm
  mandateReference : Option Object
  connectorMetadata : Option Object
  networkTransactionId : Option String
  referenceId : Option String
  incrementalAllowed : Option Bool
  charges : Option Object

namespace PaymentReply

def name : String := "TransactionResponse"

def read : Reader PaymentReply :=
  .model name fun o =>
    mk <$> o.required "resource_id" ResourceId.read
      <*> o.optional "redirection_data" RedirectForm.read
      <*> o.optional "mandate_reference" readDictionary
      <*> o.optional "connector_metadata" readDictionary
      <*> o.optional "network_txn_id" readString
      <*> o.optional "connector_response_reference_id" readString
      <*> o.optional "incremental_authorization_allowed" readBool
      <*> o.optional "charges" readDictionary

/-- The dictionaries that are there. -/
def dictionaries (r : PaymentReply) : List Object :=
  r.mandateReference.toList ++ r.connectorMetadata.toList ++ r.charges.toList

/-- What a dump shows if it gets to the bottom of the dictionaries. -/
def tree (r : PaymentReply) : Json :=
  .obj [
    ("resource_id", r.resource.dump),
    ("redirection_data", .ofOption RedirectForm.dump r.redirection),
    ("mandate_reference", .ofOption Object.tree r.mandateReference),
    ("connector_metadata", .ofOption Object.tree r.connectorMetadata),
    ("network_txn_id", .ofOption .str r.networkTransactionId),
    ("connector_response_reference_id", .ofOption .str r.referenceId),
    ("incremental_authorization_allowed", .ofOption .bool r.incrementalAllowed),
    ("charges", .ofOption Object.tree r.charges)]

/-- The reply of a connector that named a transaction, with the order that it is for. -/
def ofTransaction (id : String) (order : Option String) (redirection : Option RedirectForm) :
    PaymentReply :=
  ⟨.ofTransaction id, redirection, none, none, none, order, none, none⟩

end PaymentReply

structure RefundReply where
  connectorRefundId : String
  status : RefundStatus
  deriving DecidableEq

namespace RefundReply

def name : String := "RefundsResponseData"

def read : Reader RefundReply :=
  .model name fun o =>
    mk <$> o.required "connector_refund_id" readString
      <*> o.required "refund_status" (Vocabulary.read RefundStatus)

def dump (r : RefundReply) : Json :=
  .obj [("connector_refund_id", .str r.connectorRefundId), ("refund_status", .ofToken r.status)]

end RefundReply

structure ErrorReply where
  code : String
  message : String
  reason : Option String
  statusCode : Int
  attemptStatus : Option AttemptStatus
  transactionId : Option String
  deriving DecidableEq

namespace ErrorReply

def name : String := "ErrorResponse"

def read : Reader ErrorReply :=
  .model name fun o =>
    mk <$> o.required "code" readString
      <*> o.required "message" readString
      <*> o.optional "reason" readString
      <*> o.required "status_code" readInteger
      <*> o.optional "attempt_status" (Vocabulary.read AttemptStatus)
      <*> o.optional "connector_transaction_id" readString

def dump (r : ErrorReply) : Json :=
  .obj [
    ("code", .str r.code),
    ("message", .str r.message),
    ("reason", .ofOption .str r.reason),
    ("status_code", .int r.statusCode),
    ("attempt_status", .ofOption .ofToken r.attemptStatus),
    ("connector_transaction_id", .ofOption .str r.transactionId)]

end ErrorReply

end PaymentConnector
