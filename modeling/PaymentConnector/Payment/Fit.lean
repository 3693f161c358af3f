import PaymentConnector.Payment.Flow

/-!
How well an object fits a reply. A stored reply bears no tag, so where an object can
be read in two ways the better fit decides: more known keys filled first, then the
more literal reading.
-/

namespace PaymentConnector

/-- How a value was taken: converted, taken for what any value is taken for, or as it is. -/
inductive Literalness
  | converted
  | loose
  | literal
  deriving DecidableEq, Repr

def Literalness.rank : Literalness → Nat
  | converted => 0
  | loose => 1
  | literal => 2

def Literalness.meet (a b : Literalness) : Literalness := if a.rank ≤ b.rank then a else b

structure Fit where
  filled : Nat
  literalness : Literalness
  deriving DecidableEq, Repr

namespace Fit

def empty : Fit := ⟨0, .literal⟩

def join (a b : Fit) : Fit := ⟨a.filled + b.filled, a.literalness.meet b.literalness⟩

def better (a b : Fit) : Bool :=
  if a.filled = b.filled then b.literalness.rank < a.literalness.rank else b.filled < a.filled

def ofLiteralness (l : Literalness) : Fit := ⟨0, l⟩

/-- The fit of an object: each known key that is there, and the fit of its value. A
null stands for an absent value and is literal. -/
def fields (o : Object) (known : List (String × (Json → Fit))) : Fit :=
  known.foldl (fun total (key, fit) =>
    match o.get? key with
    | none => total
    | some .null => total.join ⟨1, .literal⟩
    | some j => total.join ((fit j).join ⟨1, .literal⟩)) empty

def object (known : List (String × (Json → Fit))) : Json → Fit
  | .obj o => fields o known
  | _ => empty

/-- A string inside JSON text may stand for other things than text. -/
def text (origin : Origin) (_ : Json) : Fit :=
  ofLiteralness (if origin = .text then .loose else .literal)

def token (_ : Json) : Fit := ofLiteralness .converted

def integer : Json → Fit
  | .int _ => ofLiteralness .literal
  | _ => ofLiteralness .converted

def truth : Json → Fit
  | .bool _ => ofLiteralness .literal
  | _ => ofLiteralness .converted

def dictionary : Json → Fit
  | .obj [] => ofLiteralness .literal
  | _ => ofLiteralness .loose

def textDictionary (origin : Origin) : Json → Fit
  | .obj [] => ofLiteralness .literal
  | j => text origin j

end Fit

def ResourceId.fit (origin : Origin) : Json → Fit :=
  Fit.object [("kind", Fit.token), ("value", Fit.text origin)]

def RedirectForm.fit (origin : Origin) : Json → Fit :=
  Fit.object [
    ("endpoint", Fit.text origin),
    ("method", Fit.token),
    ("form_fields", Fit.textDictionary origin)]

def PaymentReply.fit (origin : Origin) : Json → Fit :=
  Fit.object [
    ("resource_id", ResourceId.fit origin),
    ("redirection_data", RedirectForm.fit origin),
    ("mandate_reference", Fit.dictionary),
    ("connector_metadata", Fit.dictionary),
    ("network_txn_id", Fit.text origin),
    ("connector_response_reference_id", Fit.text origin),
    ("incremental_authorization_allowed", Fit.truth),
    ("charges", Fit.dictionary)]

def RefundReply.fit (origin : Origin) : Json → Fit :=
  Fit.object [("connector_refund_id", Fit.text origin), ("refund_status", Fit.token)]

def ErrorReply.fit (origin : Origin) : Json → Fit :=
  Fit.object [
    ("code", Fit.text origin),
    ("message", Fit.text origin),
    ("reason", Fit.text origin),
    ("status_code", Fit.integer),
    ("attempt_status", Fit.token),
    ("connector_transaction_id", Fit.text origin)]

def Flow.fitReply : Flow → Origin → Json → Fit
  | refund => RefundReply.fit
  | rsync => RefundReply.fit
  | _ => PaymentReply.fit

end PaymentConnector
