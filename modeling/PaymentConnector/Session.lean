import PaymentConnector.Connector.AccessKeys
import PaymentConnector.Connector.Endpoint
import PaymentConnector.Connector.Request
import PaymentConnector.Connector.Response

/-!
Sessions: the calls about one payment, one after another. A session has one call at
hand, and calls that were put aside under names. A step that fails leaves the session
as it was. The next call takes its envelope from the call at hand, and may take
identifiers from the response.
-/

namespace PaymentConnector

/-- A call of some flow. -/
structure AnyCall where
  flow : Flow
  call : Call flow

def AnyCall.dump (c : AnyCall) : Except Json.Limit Json := c.call.dump

/-- A request body of some flow. -/
structure AnyBody where
  flow : Flow
  body : flow.Body

/-- The identifiers that a request takes from the response before it. -/
structure Links where
  transaction : Bool
  refund : Bool
  deriving DecidableEq, Repr

inductive Step
  | load (flow : Flow) (data : Json)
  | build (amount : Json)
  | respond (payload : Wire.Payload)
  | respondError (payload : Wire.Payload) (statusCode : Json)
  | next (flow : Flow) (request : Json) (links : Links)
  | keys
  | reload
  | save (name : String)
  | restore (name : String)

inductive StepFault
  | nothingLoaded
  | noPaymentReply
  | noRefundReply
  | failed (f : Failure)
  deriving DecidableEq, Repr

/-- The message of a fault that is the session's own. -/
def StepFault.message? : StepFault → Option String
  | nothingLoaded => some "nothing loaded"
  | noPaymentReply => some ("no " ++ PaymentReply.name)
  | noRefundReply => some ("no " ++ RefundReply.name)
  | failed _ => none

/-- What a step that succeeds shows. -/
inductive StepResult
  | call (c : AnyCall)
  | request (b : AnyBody)
  | keys (k : AccessKeys)
  | done

namespace Outcome

def paymentReply? : {flow : Flow} → Outcome flow.Reply → Option PaymentReply
  | .authorize, .reply r => some r
  | .capture, .reply r => some r
  | .void, .reply r => some r
  | .psync, .reply r => some r
  | _, _ => none

def refundReply? : {flow : Flow} → Outcome flow.Reply → Option RefundReply
  | .refund, .reply r => some r
  | .rsync, .reply r => some r
  | _, _ => none

end Outcome

namespace AnyCall

def read (flow : Flow) (origin : Origin) : Reader AnyCall := fun j =>
  (Call.read flow origin j).map (mk flow)

def paymentReply (c : AnyCall) : Except StepFault PaymentReply :=
  match c.call.response.bind Outcome.paymentReply? with
  | some r => .ok r
  | none => .error .noPaymentReply

def refundReply (c : AnyCall) : Except StepFault RefundReply :=
  match c.call.response.bind Outcome.refundReply? with
  | some r => .ok r
  | none => .error .noRefundReply

/-- The transaction that the response names. -/
def transactionId (c : AnyCall) : Except StepFault String := do
  let reply ← c.paymentReply
  match reply.resource.requireTransactionId with
  | .ok id => .ok id
  | .error e => .error (.failed (.refused e))

end AnyCall

/-- A reference to a transaction, in the form that requests of a flow hold. -/
def Flow.transactionReference (flow : Flow) (id : String) : Json :=
  match flow with
  | .psync => (ResourceId.ofTransaction id).dump
  | _ => .str id

/-- An object with one more entry; other values stay as they are. -/
def Json.withEntry (j : Json) (key : String) (value : Json) : Json :=
  match j with
  | .obj entries => .obj (Entries.put entries key value)
  | j => j

/-- A request with the identifiers that it takes from the response. -/
def AnyCall.linked (c : AnyCall) (flow : Flow) (links : Links) (request : Json) :
    Except StepFault Json := do
  let request ← if links.transaction then
      c.transactionId.map fun id =>
        request.withEntry "connector_transaction_id" (flow.transactionReference id)
    else .ok request
  if links.refund then
    c.refundReply.map fun r => request.withEntry "connector_refund_id" (.str r.connectorRefundId)
  else .ok request

/-- The call that follows: the same envelope, another request, no response. -/
def AnyCall.next (c : AnyCall) (flow : Flow) (request : Json) : Checked AnyCall :=
  ((flow.readRequest request).under "request").map fun r => ⟨flow, c.call.envelope, r, none⟩

structure Session where
  current : Option AnyCall
  saved : List (String × AnyCall)

namespace Session

def empty : Session := ⟨none, []⟩

/-- The session with another call at hand. -/
def goTo (s : Session) (c : AnyCall) : StepResult × Session :=
  (.call c, { s with current := some c })

/-- The same session. -/
def stay (s : Session) (r : StepResult) : StepResult × Session := (r, s)

/-- The result of a step, or the fault that a failure is. -/
def orFault {α : Type} : Except Failure α → Except StepFault α
  | .ok a => .ok a
  | .error f => .error (.failed f)

def onCurrent {α : Type} (s : Session) (f : AnyCall → Logged (Except StepFault α)) :
    Logged (Except StepFault α) :=
  match s.current with
  | some c => f c
  | none => .pure (.error .nothingLoaded)

/-- Go to a call that was read, unless there are faults in it. -/
def enter (s : Session) (c : Checked AnyCall) : Except StepFault (StepResult × Session) :=
  orFault (c.map s.goTo).orFail

/-- What a step shows, and the session after it; nothing but a load works on no call. -/
def attempt (s : Session) : Step → Logged (Except StepFault (StepResult × Session))
  | .load flow data => .pure (s.enter (AnyCall.read flow .value data))
  | .build amount => s.onCurrent fun c =>
    (c.call.build amount).map fun r => orFault (r.map fun body => s.stay (.request ⟨c.flow, body⟩))
  | .respond payload => s.onCurrent fun c =>
    (c.call.respond payload).map fun r => orFault (r.map fun call => s.goTo ⟨c.flow, call⟩)
  | .respondError payload code => s.onCurrent fun c =>
    (c.call.respondError payload code).map fun r =>
      orFault (r.map fun call => s.goTo ⟨c.flow, call⟩)
  | .next flow request links => s.onCurrent fun c =>
    .pure ((c.linked flow links request).bind fun linked => s.enter (c.next flow linked))
  | .keys => s.onCurrent fun c =>
    .pure (orFault ((orRefuse (AccessKeys.ofCredentials c.call.envelope.credentials)).map
      fun k => s.stay (.keys k)))
  | .reload => s.onCurrent fun c =>
    .pure ((orFault (orExceed c.dump)).bind fun j => s.enter (AnyCall.read c.flow .value j))
  | .save name => s.onCurrent fun c =>
    .pure (.ok (.done, { s with saved := Entries.put s.saved name c }))
  | .restore name => s.onCurrent fun _ =>
    match s.saved.lookup name with
    | some c => .pure (.ok (s.goTo c))
    | none => .pure (.error .nothingLoaded)

/-- One step. -/
def step (s : Session) (t : Step) : Logged (Except StepFault StepResult × Session) :=
  (s.attempt t).map fun
    | .ok (r, after) => (.ok r, after)
    | .error e => (.error e, s)

/-- The steps in order, with a result for each. -/
def run (s : Session) : List Step → Logged (List (Except StepFault StepResult))
  | [] => .pure []
  | t :: rest =>
    (s.step t).andThen fun (r, after) => (run after rest).map (r :: ·)

end Session

end PaymentConnector
