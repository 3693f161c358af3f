import PaymentConnector.Payment.Reply
import PaymentConnector.Payment.Request

/-!
The flows of a payment. A flow fixes what its request holds and what its reply is
about; the two refund flows share both.
-/

namespace PaymentConnector

inductive Flow
  | authorize
  | capture
  | void
  | psync
  | refund
  | rsync
  deriving DecidableEq, Repr

instance : Vocabulary Flow where
  name := "ConnectorFlow"
  all :=
    [.authorize, .capture, .void, .psync, .refund, .rsync]
  token
    | .authorize => "authorize"
    | .capture => "capture"
    | .void => "void"
    | .psync => "psync"
    | .refund => "refund"
    | .rsync => "rsync"

namespace Flow

abbrev Request : Flow → Type
  | authorize => AuthorizeData
  | capture => CaptureData
  | void => CancelData
  | psync => SyncData
  | refund => RefundData
  | rsync => RefundData

abbrev Reply : Flow → Type
  | refund => RefundReply
  | rsync => RefundReply
  | _ => PaymentReply

def readRequest : (flow : Flow) → Reader flow.Request
  | authorize => AuthorizeData.read
  | capture => CaptureData.read
  | void => CancelData.read
  | psync => SyncData.read
  | refund => RefundData.read
  | rsync => RefundData.read

/-- The dictionaries in a request. -/
def requestDictionaries : (flow : Flow) → flow.Request → List Object
  | authorize, d => [d.method.details]
  | _, _ => []

def requestTree : (flow : Flow) → flow.Request → Json
  | authorize => AuthorizeData.tree
  | capture => CaptureData.dump
  | void => CancelData.dump
  | psync => SyncData.dump
  | refund => RefundData.dump
  | rsync => RefundData.dump

/-- The name of the record that holds a request. -/
def requestName : Flow → String
  | authorize => "PaymentsAuthorizeData"
  | capture => "PaymentsCaptureData"
  | void => "PaymentsCancelData"
  | psync => "PaymentsSyncData"
  | refund => "RefundsData"
  | rsync => "RefundsData"

def replyName : Flow → String
  | refund => RefundReply.name
  | rsync => RefundReply.name
  | _ => PaymentReply.name

def readReply : (flow : Flow) → Reader flow.Reply
  | authorize => PaymentReply.read
  | capture => PaymentReply.read
  | void => PaymentReply.read
  | psync => PaymentReply.read
  | refund => RefundReply.read
  | rsync => RefundReply.read

/-- The dictionaries in a reply. -/
def replyDictionaries : (flow : Flow) → flow.Reply → List Object
  | authorize => PaymentReply.dictionaries
  | capture => PaymentReply.dictionaries
  | void => PaymentReply.dictionaries
  | psync => PaymentReply.dictionaries
  | refund => fun _ => []
  | rsync => fun _ => []

def replyTree : (flow : Flow) → flow.Reply → Json
  | authorize => PaymentReply.tree
  | capture => PaymentReply.tree
  | void => PaymentReply.tree
  | psync => PaymentReply.tree
  | refund => RefundReply.dump
  | rsync => RefundReply.dump

end Flow

end PaymentConnector
