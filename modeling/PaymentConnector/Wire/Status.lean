import PaymentConnector.Payment.Status

/-!
The status tokens of the connector and what they mean.
-/

namespace PaymentConnector.Wire

inductive PaymentStatus
  | authorized
  | paid
  | verified
  | cancelled
  | pending
  | rejected
  deriving DecidableEq, Repr

instance : Vocabulary PaymentStatus where
  name := "DlocalPaymentStatus"
  all := [.authorized, .paid, .verified, .cancelled, .pending, .rejected]
  token
    | .authorized => "AUTHORIZED"
    | .paid => "PAID"
    | .verified => "VERIFIED"
    | .cancelled => "CANCELLED"
    | .pending => "PENDING"
    | .rejected => "REJECTED"

def PaymentStatus.attempt : PaymentStatus → AttemptStatus
  | authorized => .authorized
  | verified => .authorized
  | paid => .charged
  | pending => .authenticationPending
  | cancelled => .voided
  | rejected => .authenticationFailed

inductive RefundToken
  | success
  | pending
  | rejected
  | cancelled
  deriving DecidableEq, Repr

instance : Vocabulary RefundToken where
  name := "DlocalRefundStatus"
  all := [.success, .pending, .rejected, .cancelled]
  token
    | .success => "SUCCESS"
    | .pending => "PENDING"
    | .rejected => "REJECTED"
    | .cancelled => "CANCELLED"

def RefundToken.refund : RefundToken → RefundStatus
  | success => .success
  | pending => .pending
  | rejected => .manualReview
  | cancelled => .failure

end PaymentConnector.Wire
