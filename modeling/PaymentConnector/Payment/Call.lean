import PaymentConnector.Payment.Address
import PaymentConnector.Payment.Credentials
import PaymentConnector.Payment.Fit

/-!
One call to a connector: an envelope that every flow shares, the request of the
flow, and what the connector answered, if it has. A dump of a call hides its
secrets, and fails where a dictionary in the call is nested too deep.
-/

namespace PaymentConnector

structure Envelope where
  merchantId : String
  paymentId : String
  attemptId : String
  connector : String
  status : AttemptStatus
  authentication : Authentication
  credentials : Credentials
  description : Option String
  returnUrl : Option String
  billing : Option Contact
  reference : String
  deriving DecidableEq

namespace Envelope

def read (o : Object) : Checked Envelope :=
  mk <$> o.required "merchant_id" readString
    <*> o.required "payment_id" readString
    <*> o.required "attempt_id" readString
    <*> o.required "connector" readString
    <*> o.defaulted "status" .started (Vocabulary.read AttemptStatus)
    <*> o.defaulted "auth_type" .noThreeDs (Vocabulary.read Authentication)
    <*> o.required "connector_auth_type" Credentials.read
    <*> o.optional "description" readString
    <*> o.optional "return_url" readString
    <*> o.optional "billing" Contact.read
    <*> o.required "connector_request_reference_id" readString

def dumpEntries (e : Envelope) : Object :=
  [("merchant_id", .str e.merchantId),
   ("payment_id", .str e.paymentId),
   ("attempt_id", .str e.attemptId),
   ("connector", .str e.connector),
   ("status", .ofToken e.status),
   ("auth_type", .ofToken e.authentication),
   ("connector_auth_type", e.credentials.dump),
   ("description", .ofOption .str e.description),
   ("return_url", .ofOption .str e.returnUrl),
   ("billing", .ofOption Contact.dump e.billing),
   ("connector_request_reference_id", .str e.reference)]

/-- The billing address, if there is one. -/
def billingAddress? (e : Envelope) : Option Address := e.billing.bind (·.address)

/-- The full name of the billing address, if there is one and it is not blank. -/
def billingName? (e : Envelope) : Option Secret := e.billingAddress?.bind (·.fullName)

end Envelope

/-- What a connector answered: the reply of the flow, or an error. -/
inductive Outcome (ρ : Type)
  | reply (r : ρ)
  | error (e : ErrorReply)

namespace Outcome

/-- Faults of both readings are told where an object can be read in neither way. -/
def read (flow : Flow) (origin : Origin) : Reader (Outcome flow.Reply) := fun j =>
  match flow.readReply j, ErrorReply.read j with
  | .ok r, .failed _ => .ok (reply r)
  | .failed _, .ok e => .ok (error e)
  | .ok r, .ok e =>
    if (ErrorReply.fit origin j).better (flow.fitReply origin j) then .ok (error e)
    else .ok (reply r)
  | .failed fs, .failed gs =>
    .failed (fs.map (Fault.under flow.replyName) ++ gs.map (Fault.under ErrorReply.name))

def dictionaries (flow : Flow) : Outcome flow.Reply → List Object
  | reply r => flow.replyDictionaries r
  | error _ => []

def tree (flow : Flow) : Outcome flow.Reply → Json
  | reply r => flow.replyTree r
  | error e => e.dump

end Outcome

structure Call (flow : Flow) where
  envelope : Envelope
  request : flow.Request
  response : Option (Outcome flow.Reply)

namespace Call

variable {flow : Flow}

def recordName (flow : Flow) : String :=
  "RouterData[" ++ flow.requestName ++ ", " ++ flow.replyName ++ "]"

def read (flow : Flow) (origin : Origin) : Reader (Call flow) :=
  .model (recordName flow) fun o =>
    mk <$> Envelope.read o
      <*> o.required "request" flow.readRequest
      <*> o.optional "response" (Outcome.read flow origin)

/-- The dictionaries of the request and of the response. -/
def dictionaries (c : Call flow) : List Object :=
  flow.requestDictionaries c.request ++ (c.response.map (Outcome.dictionaries flow)).getD []

/-- What a dump shows if it gets to the bottom of the dictionaries. -/
def tree (c : Call flow) : Json :=
  .obj (c.envelope.dumpEntries ++ [
    ("request", flow.requestTree c.request),
    ("response", .ofOption (Outcome.tree flow) c.response)])

def dump (c : Call flow) : Except Json.Limit Json := Json.dumpOf c.dictionaries c.tree

/-- The same call with another answer. -/
def answer (c : Call flow) (response : Outcome flow.Reply) : Call flow :=
  { c with response := some response }

/-- The same call at another status. -/
def moveTo (c : Call flow) (status : AttemptStatus) : Call flow :=
  { c with envelope := { c.envelope with status := status } }

end Call

end PaymentConnector
