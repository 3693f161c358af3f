import PaymentConnector.Payment.Secret
import PaymentConnector.Vocabulary
import PaymentConnector.Json.Display

/-!
The credentials of a merchant at a connector. Their kind is told by a tag; each
kind has keys of its own.
-/

namespace PaymentConnector

inductive CredentialKind
  | headerKey
  | bodyKey
  | signatureKey
  | multiAuthKey
  | noKey
  deriving DecidableEq, Repr

instance : Vocabulary CredentialKind where
  name := "auth_type"
  all := [.headerKey, .bodyKey, .signatureKey, .multiAuthKey, .noKey]
  token
    | .headerKey => "header_key"
    | .bodyKey => "body_key"
    | .signatureKey => "signature_key"
    | .multiAuthKey => "multi_auth_key"
    | .noKey => "no_key"

/-- The name of the record that holds credentials of a kind. -/
def CredentialKind.recordName : CredentialKind → String
  | headerKey => "HeaderKey"
  | bodyKey => "BodyKey"
  | signatureKey => "SignatureKey"
  | multiAuthKey => "MultiAuthKey"
  | noKey => "NoKey"

inductive Credentials
  | headerKey (apiKey : Secret)
  | bodyKey (apiKey key1 : Secret)
  | signatureKey (apiKey key1 apiSecret : Secret)
  | multiAuthKey (apiKey key1 apiSecret key2 : Secret)
  | noKey
  deriving DecidableEq

namespace Credentials

def kind : Credentials → CredentialKind
  | headerKey _ => .headerKey
  | bodyKey _ _ => .bodyKey
  | signatureKey _ _ _ => .signatureKey
  | multiAuthKey _ _ _ _ => .multiAuthKey
  | noKey => .noKey

def tagKey : String := "auth_type"

/-- A tag that may be left out, but may not be another one. -/
def readTag (kind : CredentialKind) (o : Object) : Checked Unit :=
  o.defaulted tagKey () fun
    | .str s => if s = token kind then .ok () else .fail (.notLiteral (token kind))
    | _ => .fail (.notLiteral (token kind))

def readKeys (o : Object) : CredentialKind → Checked Credentials
  | .headerKey => headerKey <$> o.required "api_key" Secret.read
  | .bodyKey => bodyKey <$> o.required "api_key" Secret.read <*> o.required "key1" Secret.read
  | .signatureKey =>
    signatureKey <$> o.required "api_key" Secret.read <*> o.required "key1" Secret.read
      <*> o.required "api_secret" Secret.read
  | .multiAuthKey =>
    multiAuthKey <$> o.required "api_key" Secret.read <*> o.required "key1" Secret.read
      <*> o.required "api_secret" Secret.read <*> o.required "key2" Secret.read
  | .noKey => .ok noKey

/-- Credentials of a known kind. -/
def readOf (kind : CredentialKind) : Reader Credentials :=
  .model kind.recordName fun o => (fun _ c => c) <$> readTag kind o <*> readKeys o kind

/-- Credentials of the kind that their tag tells; faults stand below the tag. -/
def read : Reader Credentials :=
  .object .tagged fun o =>
    match o.get? tagKey with
    | none => .fail (.tagMissing tagKey)
    | some (.str s) =>
      match Vocabulary.ofToken? CredentialKind s with
      | some kind => (readOf kind (.obj o)).under s
      | none => .fail (.tagUnknown tagKey s (Vocabulary.tokens CredentialKind))
    | some tag => .fail (.tagUnknown tagKey tag.displayed (Vocabulary.tokens CredentialKind))

def keys : Credentials → List (String × Secret)
  | headerKey a => [("api_key", a)]
  | bodyKey a k => [("api_key", a), ("key1", k)]
  | signatureKey a k s => [("api_key", a), ("key1", k), ("api_secret", s)]
  | multiAuthKey a k s l => [("api_key", a), ("key1", k), ("api_secret", s), ("key2", l)]
  | noKey => []

def dump (c : Credentials) : Json :=
  .obj ((tagKey, .ofToken c.kind) :: c.keys.map fun (key, s) => (key, s.dump))

end Credentials

end PaymentConnector
