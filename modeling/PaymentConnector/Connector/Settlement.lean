import PaymentConnector.Connector.Failure
import PaymentConnector.Payment.Redirect
import PaymentConnector.Wire.Response

/-!
What the connector's answer means for a call. A settlement holds the status that the
attempt moves to, if it moves, the reply, and a note for the log. It depends on
the answer alone.
-/

namespace PaymentConnector

structure Settlement (flow : Flow) where
  status : Option AttemptStatus
  reply : flow.Reply
  note : String

namespace Wire

/-- The form that sends the customer to the 3-D Secure check, if there is one. -/
def PaymentResponse.redirection (r : PaymentResponse) :
    Except Url.SplitFault (Option RedirectForm) :=
  match r.threeDs.bind (·.redirectUrl) with
  | none => .ok none
  | some url => (RedirectForm.ofAddress url.text .get).map some

def PaymentResponse.note (r : PaymentResponse) (redirected : Bool) : String :=
  connectorName ++ " payment " ++ r.id ++ " is " ++ token r.status
    ++ " -> " ++ token r.status.attempt ++ (if redirected then " (3DS redirect)" else "")

def PaymentResponse.settle (r : PaymentResponse) :
    Except Url.SplitFault (Settlement .authorize) :=
  r.redirection.map fun redirection =>
    ⟨some r.status.attempt, .ofTransaction r.id r.orderId redirection, r.note redirection.isSome⟩

def SyncResponse.settle (r : SyncResponse) : Settlement .psync :=
  ⟨some r.status.attempt, .ofTransaction r.id r.orderId none,
    connectorName ++ " payment " ++ r.id ++ " synced as " ++ token r.status.attempt⟩

def CaptureResponse.settle (r : CaptureResponse) : Settlement .capture :=
  ⟨some r.status.attempt, .ofTransaction r.id r.orderId none,
    connectorName ++ " capture " ++ r.id ++ " is " ++ token r.status.attempt⟩

/-- A cancellation has no identifier of its own; that of the order stands for it. -/
def CancelResponse.settle (r : CancelResponse) : Settlement .void :=
  ⟨some r.status.attempt, .ofTransaction r.orderId (some r.orderId) none,
    connectorName ++ " cancel for order " ++ r.orderId ++ " is " ++ token r.status.attempt⟩

def RefundResponse.reply (r : RefundResponse) : RefundReply := ⟨r.id, r.status.refund⟩

def RefundResponse.note (r : RefundResponse) : String :=
  connectorName ++ " refund " ++ r.id ++ " is " ++ token r.status.refund

end Wire

namespace Flow

/-- The payload that answers a request of a flow. -/
abbrev Answer : Flow → Type
  | authorize => Wire.PaymentResponse
  | capture => Wire.CaptureResponse
  | void => Wire.CancelResponse
  | psync => Wire.SyncResponse
  | refund => Wire.RefundResponse
  | rsync => Wire.RefundResponse

def answerName : Flow → String
  | authorize => Wire.PaymentResponse.name
  | capture => Wire.CaptureResponse.name
  | void => Wire.CancelResponse.name
  | psync => Wire.SyncResponse.name
  | refund => Wire.RefundResponse.name
  | rsync => Wire.RefundResponse.name

def readAnswer : (flow : Flow) → Reader flow.Answer
  | authorize => Wire.PaymentResponse.read
  | capture => Wire.CaptureResponse.read
  | void => Wire.CancelResponse.read
  | psync => Wire.SyncResponse.read
  | refund => Wire.RefundResponse.read
  | rsync => Wire.RefundResponse.read

/-- A refund leaves the attempt where it is. -/
def settle : (flow : Flow) → flow.Answer → Except Url.SplitFault (Settlement flow)
  | authorize, r => r.settle
  | capture, r => .ok r.settle
  | void, r => .ok r.settle
  | psync, r => .ok r.settle
  | refund, r => .ok ⟨none, r.reply, r.note⟩
  | rsync, r => .ok ⟨none, r.reply, r.note⟩

end Flow

/-- The call after a settlement: nothing but status and answer changes. -/
def Call.settle {flow : Flow} (c : Call flow) (s : Settlement flow) : Call flow :=
  (match s.status with
    | some status => c.moveTo status
    | none => c).answer (.reply s.reply)

end PaymentConnector
