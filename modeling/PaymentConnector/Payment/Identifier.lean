import PaymentConnector.Payment.Secret
import PaymentConnector.Vocabulary

/-!
Identifiers: what a connector calls a transaction, and what a mandate is called on
both sides.
-/

namespace PaymentConnector

inductive ResourceKind
  | connectorTransactionId
  | encodedData
  | noResponseId
  deriving DecidableEq, Repr

instance : Vocabulary ResourceKind where
  name := "ResponseIdKind"
  all :=
    [.connectorTransactionId, .encodedData, .noResponseId]
  token
    | .connectorTransactionId => "connector_transaction_id"
    | .encodedData => "encoded_data"
    | .noResponseId => "no_response_id"

structure ResourceId where
  kind : ResourceKind
  value : Option String
  deriving DecidableEq

namespace ResourceId

def read : Reader ResourceId :=
  .model "ResponseId" fun o =>
    mk <$> o.defaulted "kind" .noResponseId (Vocabulary.read ResourceKind)
      <*> o.optional "value" readString

def dump (r : ResourceId) : Json :=
  .obj [("kind", .ofToken r.kind), ("value", .ofOption .str r.value)]

def ofTransaction (id : String) : ResourceId := ⟨.connectorTransactionId, some id⟩

/-- The connector's name of the transaction, if there is one and it is not empty. -/
def transactionId? (r : ResourceId) : Option String :=
  match r.kind, r.value with
  | .connectorTransactionId, some id => if id = "" then none else some id
  | _, _ => none

end ResourceId

structure Mandate where
  mandateId : Option String
  connectorMandateId : Option String
  deriving DecidableEq

namespace Mandate

def read : Reader Mandate :=
  .model "MandateIds" fun o =>
    mk <$> o.optional "mandate_id" readString
      <*> o.optional "connector_mandate_id" readString

def dump (m : Mandate) : Json :=
  .obj [("mandate_id", .ofOption .str m.mandateId),
    ("connector_mandate_id", .ofOption .str m.connectorMandateId)]

end Mandate

end PaymentConnector
