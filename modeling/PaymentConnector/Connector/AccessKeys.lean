import PaymentConnector.Payment.Error

/-!
The three keys with which requests to the connector are signed. Only credentials of
the signature kind hold all of them.
-/

namespace PaymentConnector

structure AccessKeys where
  login : Secret
  transactionKey : Secret
  secret : Secret
  deriving DecidableEq

namespace AccessKeys

def ofCredentials : Credentials → Except ConnectorError AccessKeys
  | .signatureKey apiKey key1 apiSecret => .ok ⟨apiKey, key1, apiSecret⟩
  | _ => .error ErrorCause.noSignatureKey.named

/-- The keys under the names of the headers that they go into. -/
def entries (k : AccessKeys) : List (String × Secret) :=
  [("x_login", k.login), ("x_trans_key", k.transactionKey), ("secret", k.secret)]

def dump (k : AccessKeys) : Json := .obj (k.entries.map fun (name, s) => (name, s.dump))

/-- The keys themselves, for whoever signs. -/
def wire (k : AccessKeys) : Json := .obj (k.entries.map fun (name, s) => (name, s.wire))

end AccessKeys

end PaymentConnector
