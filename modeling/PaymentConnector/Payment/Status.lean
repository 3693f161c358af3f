import PaymentConnector.Vocabulary

/-!
The canonical vocabulary of payments: where an attempt and a refund stand, when an
amount is captured, and whether the holder is authenticated.
-/

namespace PaymentConnector

/-- Where a single payment attempt stands. -/
inductive AttemptStatus
  | started
  | authenticationFailed
  | routerDeclined
  | authenticationPending
  | authenticationSuccessful
  | authorized
  | authorizationFailed
  | charged
  | authorizing
  | voided
  | voidInitiated
  | voidFailed
  | captureInitiated
  | captureFailed
  | partialCharged
  | autoRefunded
  | unresolved
  | pending
  | failure
  deriving DecidableEq, Repr

instance : Vocabulary AttemptStatus where
  name := "AttemptStatus"
  all :=
    [.started, .authenticationFailed, .routerDeclined, .authenticationPending,
     .authenticationSuccessful, .authorized, .authorizationFailed, .charged, .authorizing,
     .voided, .voidInitiated, .voidFailed, .captureInitiated, .captureFailed, .partialCharged,
     .autoRefunded, .unresolved, .pending, .failure]
  token
    | .started => "started"
    | .authenticationFailed => "authentication_failed"
    | .routerDeclined => "router_declined"
    | .authenticationPending => "authentication_pending"
    | .authenticationSuccessful => "authentication_successful"
    | .authorized => "authorized"
    | .authorizationFailed => "authorization_failed"
    | .charged => "charged"
    | .authorizing => "authorizing"
    | .voided => "voided"
    | .voidInitiated => "void_initiated"
    | .voidFailed => "void_failed"
    | .captureInitiated => "capture_initiated"
    | .captureFailed => "capture_failed"
    | .partialCharged => "partial_charged"
    | .autoRefunded => "auto_refunded"
    | .unresolved => "unresolved"
    | .pending => "pending"
    | .failure => "failure"

inductive RefundStatus
  | failure
  | manualReview
  | pending
  | success
  | transactionFailure
  deriving DecidableEq, Repr

instance : Vocabulary RefundStatus where
  name := "RefundStatus"
  all :=
    [.failure, .manualReview, .pending, .success, .transactionFailure]
  token
    | .failure => "failure"
    | .manualReview => "manual_review"
    | .pending => "pending"
    | .success => "success"
    | .transactionFailure => "transaction_failure"

inductive CaptureMethod
  | automatic
  | manual
  | manualMultiple
  | scheduled
  | sequentialAutomatic
  deriving DecidableEq, Repr

instance : Vocabulary CaptureMethod where
  name := "CaptureMethod"
  all :=
    [.automatic, .manual, .manualMultiple, .scheduled, .sequentialAutomatic]
  token
    | .automatic => "automatic"
    | .manual => "manual"
    | .manualMultiple => "manual_multiple"
    | .scheduled => "scheduled"
    | .sequentialAutomatic => "sequential_automatic"

/-- Whether the payment goes through 3-D Secure. -/
inductive Authentication
  | threeDs
  | noThreeDs
  deriving DecidableEq, Repr

instance : Vocabulary Authentication where
  name := "AuthenticationType"
  all :=
    [.threeDs, .noThreeDs]
  token
    | .threeDs => "three_ds"
    | .noThreeDs => "no_three_ds"

/-- The unit in which amounts are given. -/
inductive CurrencyUnit
  | minor
  | base
  deriving DecidableEq, Repr

instance : Vocabulary CurrencyUnit where
  name := "CurrencyUnit"
  all :=
    [.minor, .base]
  token
    | .minor => "minor"
    | .base => "base"

inductive HttpMethod
  | get
  | post
  deriving DecidableEq, Repr

instance : Vocabulary HttpMethod where
  name := "HttpMethod"
  all :=
    [.get, .post]
  token
    | .get => "GET"
    | .post => "POST"

end PaymentConnector
