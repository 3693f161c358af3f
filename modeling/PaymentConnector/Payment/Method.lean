import PaymentConnector.Json.Limit
import PaymentConnector.Payment.Secret
import PaymentConnector.Payment.Status

/-!
Payment methods. A card brings its details with it; of every other method only its
kind is known. Both may carry attributes as they were given.
-/

namespace PaymentConnector

structure Card where
  number : Secret
  expiryMonth : Secret
  expiryYear : Secret
  code : Secret
  holderName : Option Secret
  network : Option String
  deriving DecidableEq

namespace Card

def read : Reader Card :=
  .model "CardDetails" fun o =>
    mk <$> o.required "card_number" Secret.read
      <*> o.required "card_exp_month" Secret.read
      <*> o.required "card_exp_year" Secret.read
      <*> o.required "card_cvc" Secret.read
      <*> o.optional "card_holder_name" Secret.read
      <*> o.optional "card_network" readString

def dump (c : Card) : Json :=
  .obj [
    ("card_number", c.number.dump),
    ("card_exp_month", c.expiryMonth.dump),
    ("card_exp_year", c.expiryYear.dump),
    ("card_cvc", c.code.dump),
    ("card_holder_name", .ofOption Secret.dump c.holderName),
    ("card_network", .ofOption .str c.network)]

end Card

/-- The methods other than a card. -/
inductive OtherMethod
  | cardRedirect
  | wallet
  | payLater
  | bankRedirect
  | bankDebit
  | bankTransfer
  | crypto
  | mandatePayment
  | reward
  | realTimePayment
  | mobilePayment
  | upi
  | voucher
  | giftCard
  | openBanking
  | cardToken
  | networkToken
  | cardDetailsForNetworkTransactionId
  deriving DecidableEq, Repr

instance : Vocabulary OtherMethod where
  name := "PaymentMethodType"
  all :=
    [.cardRedirect, .wallet, .payLater, .bankRedirect, .bankDebit, .bankTransfer, .crypto,
     .mandatePayment, .reward, .realTimePayment, .mobilePayment, .upi, .voucher, .giftCard,
     .openBanking, .cardToken, .networkToken, .cardDetailsForNetworkTransactionId]
  token
    | .cardRedirect => "card_redirect"
    | .wallet => "wallet"
    | .payLater => "pay_later"
    | .bankRedirect => "bank_redirect"
    | .bankDebit => "bank_debit"
    | .bankTransfer => "bank_transfer"
    | .crypto => "crypto"
    | .mandatePayment => "mandate_payment"
    | .reward => "reward"
    | .realTimePayment => "real_time_payment"
    | .mobilePayment => "mobile_payment"
    | .upi => "upi"
    | .voucher => "voucher"
    | .giftCard => "gift_card"
    | .openBanking => "open_banking"
    | .cardToken => "card_token"
    | .networkToken => "network_token"
    | .cardDetailsForNetworkTransactionId => "card_details_for_network_transaction_id"

/-- The kind of a payment method. -/
inductive MethodKind
  | card
  | other (m : OtherMethod)
  deriving DecidableEq, Repr

instance : Vocabulary MethodKind where
  name := "PaymentMethodType"
  all := .card :: (Vocabulary.all : List OtherMethod).map .other
  token
    | .card => "card"
    | .other m => token m

inductive Instrument
  | card (c : Card)
  | other (m : OtherMethod)
  deriving DecidableEq

structure PaymentMethod where
  instrument : Instrument
  details : Object

namespace Instrument

def kind : Instrument → MethodKind
  | card _ => .card
  | other m => .other m

def card? : Instrument → Option Card
  | card c => some c
  | other _ => none

/-- Card details come with the card method and with no other. -/
def of (kind : MethodKind) (details : Option Card) : Checked Instrument :=
  match kind, details with
  | .card, some c => .ok (card c)
  | .card, none => .fail (.rule .cardRequired)
  | .other m, none => .ok (other m)
  | .other m, some _ => .fail (.rule (.cardNotAllowed (token m)))

end Instrument

namespace PaymentMethod

def readFields (o : Object) : Checked (MethodKind × Option Card × Object) :=
  (fun kind card details => (kind, card, details))
    <$> o.required "type" (Vocabulary.read MethodKind)
    <*> o.optional "card" Card.read
    <*> o.defaulted "details" [] readDictionary

def read : Reader PaymentMethod :=
  .model "PaymentMethodData" fun o =>
    (readFields o).andThen fun (kind, card, details) =>
      (Instrument.of kind card).map (⟨·, details⟩)

/-- What a dump shows if it gets to the bottom of the details. -/
def tree (p : PaymentMethod) : Json :=
  .obj [
    ("type", .ofToken p.instrument.kind),
    ("card", .ofOption Card.dump p.instrument.card?),
    ("details", p.details.tree)]

end PaymentMethod

end PaymentConnector
