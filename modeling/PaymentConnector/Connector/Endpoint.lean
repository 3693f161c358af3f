import PaymentConnector.Connector.Settings
import PaymentConnector.Wire.Request

/-!
Where a request goes. Identifiers of transactions and refunds stand in the path as
they are.
-/

namespace PaymentConnector

structure Endpoint where
  method : HttpMethod
  url : String
  deriving DecidableEq, Repr

namespace Flow

/-- The method and the path below the base. -/
def route : (flow : Flow) → flow.Body → HttpMethod × String
  | authorize, _ => (.post, "secure_payments")
  | capture, _ => (.post, "payments")
  | void, body => (.post, "payments/" ++ body.cancelId ++ "/cancel")
  | psync, body => (.get, "payments/" ++ body.authorizationId ++ "/status")
  | refund, _ => (.post, "refunds")
  | rsync, body => (.get, "refunds/" ++ body.refundId ++ "/status")

end Flow

def Settings.endpoint (s : Settings) {flow : Flow} (body : flow.Body) : Endpoint :=
  let (method, path) := flow.route body
  ⟨method, s.baseUrl ++ path⟩

/-- A request as it is handed to the transport. -/
def Settings.requestDump (s : Settings) {flow : Flow} (body : flow.Body) : Json :=
  let endpoint := s.endpoint body
  .obj [
    ("method", .ofToken endpoint.method),
    ("url", .str endpoint.url),
    ("body", flow.wireBody body)]

end PaymentConnector
