import PaymentConnector.Connector.Request
import PaymentConnector.Proofs.DisplayedValues
import PaymentConnector.Proofs.InputParts
import PaymentConnector.Proofs.ReadValues

/-!
Which requests are refused. An authorization is checked for its address, its country,
its method, its address to return to and its amount, in this order, and the first
check that fails is told. A payment is asked about by the name of its transaction, and
a refund is sent with the text of its amount, which too long a number has not. No other
request is refused, and no refusal is logged as an error.
-/

namespace PaymentConnector

theorem Except.bind_eq_ok_iff {ε α β : Type} {x : Except ε α} {f : α → Except ε β} {b : β} :
    (x >>= f) = .ok b ↔ ∃ a, x = .ok a ∧ f a = .ok b := by
  cases x <;> simp [bind, Except.bind]

theorem Except.map_eq_ok_iff {ε α β : Type} {f : α → β} {x : Except ε α} {b : β} :
    x.map f = .ok b ↔ ∃ a, x = .ok a ∧ f a = b := by
  cases x <;> simp [Except.map]

theorem Except.bind_eq_error_iff {ε α β : Type} {x : Except ε α} {f : α → Except ε β} {e : ε} :
    (x >>= f) = .error e ↔ x = .error e ∨ ∃ a, x = .ok a ∧ f a = .error e := by
  cases x <;> simp [bind, Except.bind]

/-! Checks of single parts -/

/-- There is no text, or an empty one. -/
def Lacks (text : Option String) : Prop := text = none ∨ text = some ""

theorem exists_of_not_lacks {text : Option String} (h : ¬ Lacks text) : ∃ s, text = some s := by
  cases text with
  | none => exact absurd (Or.inl rfl) h
  | some s => exact ⟨s, rfl⟩

theorem requireText_eq_ok_iff {field : RequiredField} {text : Option String} {s : String} :
    orRefuse (requireText field text) = .ok s ↔ text = some s ∧ ¬ Lacks text := by
  cases text with
  | none => simp [requireText, orRefuse, Lacks]
  | some t =>
    by_cases ht : t = ""
    · simp [requireText, orRefuse, Lacks, ht]
    · simp [requireText, orRefuse, Lacks, ht]

theorem requireText_eq_error_iff {field : RequiredField} {text : Option String} {f : Failure} :
    orRefuse (requireText field text) = .error f ↔
      Lacks text ∧ f = .refused ⟨.missingField field, none⟩ := by
  cases text with
  | none => simp [requireText, orRefuse, Lacks, ErrorCause.unnamed, eq_comm]
  | some t =>
    by_cases ht : t = ""
    · simp [requireText, orRefuse, Lacks, ErrorCause.unnamed, ht, eq_comm]
    · simp [requireText, orRefuse, Lacks, ht]

theorem ResourceId.transactionId?_eq_none_iff {r : ResourceId} :
    r.transactionId? = none ↔ r.kind ≠ .connectorTransactionId ∨ Lacks r.value := by
  obtain ⟨kind, value⟩ := r
  cases kind <;> cases value <;> simp [transactionId?, Lacks]

namespace Envelope

variable {e : Envelope}

theorem billingAddress_eq_ok_iff {a : Address} :
    orRefuse e.billingAddress = .ok a ↔ e.billingAddress? = some a := by
  unfold billingAddress
  cases e.billingAddress? <;> simp [orRefuse]

theorem billingAddress_eq_error_iff {f : Failure} :
    orRefuse e.billingAddress = .error f ↔
      e.billingAddress? = none ∧ f = .refused ⟨.missingField .billingAddress, none⟩ := by
  unfold billingAddress
  cases e.billingAddress? <;> simp [orRefuse, ErrorCause.unnamed, eq_comm]

end Envelope

theorem orExceed_eq_ok_iff {α : Type} {x : Except Json.Limit α} {a : α} :
    orExceed x = .ok a ↔ x = .ok a := by
  cases x <;> simp [orExceed]

theorem orExceed_eq_error_iff {α : Type} {x : Except Json.Limit α} {f : Failure} :
    orExceed x = .error f ↔ ∃ l, x = .error l ∧ f = .limit l := by
  cases x <;> simp [orExceed, eq_comm]

theorem amountOr_of_ne_null {own : Nat} {amount : Json} (h : amount ≠ .null) :
    amountOr own amount = amount := by
  unfold amountOr
  split
  · contradiction
  · rfl

theorem readAmount_eq_ok_iff {own : Nat} {amount : Json} {n : Int} :
    ((readInteger (amountOr own amount)).under "amount").orFail = .ok n ↔
      toInteger (amountOr own amount) = .ok n := by
  unfold readInteger
  cases toInteger (amountOr own amount) <;>
    simp [Checked.fail, Checked.under, Checked.orFail]

theorem readAmount_eq_error_iff {own : Nat} {amount : Json} {f : Failure} :
    ((readInteger (amountOr own amount)).under "amount").orFail = .error f ↔
      amount ≠ .null ∧ ∃ cause, toInteger amount = .error cause ∧
        f = .invalid [⟨["amount"], cause⟩] := by
  by_cases hnull : amount = .null
  · simp [hnull, amountOr, readInteger, toInteger, Checked.under, Checked.orFail]
  · rw [amountOr_of_ne_null hnull, readInteger]
    cases toInteger amount <;>
      simp [hnull, Checked.fail, Checked.under, Checked.orFail, Fault.under, eq_comm]

namespace Call

theorem requireCard_eq_ok_iff {c : Call .authorize} {card : Card} :
    orRefuse c.requireCard = .ok card ↔ c.request.method.instrument = .card card := by
  unfold requireCard
  cases c.request.method.instrument <;> simp [orRefuse]

theorem requireCard_eq_error_iff {c : Call .authorize} {f : Failure} :
    orRefuse c.requireCard = .error f ↔
      c.request.method.instrument.kind ≠ .card ∧
        f = .refused ⟨.unsupportedMethod, some "Dlocal"⟩ := by
  unfold requireCard
  cases c.request.method.instrument <;>
    simp [orRefuse, Instrument.kind, ErrorCause.named, connectorName, eq_comm]

/-! Whole requests -/

/-- Why the request of a call is refused. Each reason supposes that none before it applies. -/
inductive Refuses : {flow : Flow} → Call flow → Json → Failure → Prop
  | address {c : Call .authorize} {amount : Json}
      (haddress : c.envelope.billingAddress? = none) :
      Refuses c amount (.refused ⟨.missingField .billingAddress, none⟩)
  | country {c : Call .authorize} {amount : Json} {a : Address}
      (haddress : c.envelope.billingAddress? = some a)
      (hcountry : Lacks a.country) :
      Refuses c amount (.refused ⟨.missingField .billingCountry, none⟩)
  | method {c : Call .authorize} {amount : Json} {a : Address}
      (haddress : c.envelope.billingAddress? = some a)
      (hcountry : ¬ Lacks a.country)
      (hmethod : c.request.method.instrument.kind ≠ .card) :
      Refuses c amount (.refused ⟨.unsupportedMethod, some "Dlocal"⟩)
  | returnUrl {c : Call .authorize} {amount : Json} {a : Address}
      (haddress : c.envelope.billingAddress? = some a)
      (hcountry : ¬ Lacks a.country)
      (hmethod : c.request.method.instrument.kind = .card)
      (hreturn : Lacks c.request.returnUrl) :
      Refuses c amount (.refused ⟨.missingField .returnUrl, none⟩)
  | amount {c : Call .authorize} {amount : Json} {a : Address} {cause : Cause}
      (haddress : c.envelope.billingAddress? = some a)
      (hcountry : ¬ Lacks a.country)
      (hmethod : c.request.method.instrument.kind = .card)
      (hreturn : ¬ Lacks c.request.returnUrl)
      (hgiven : amount ≠ .null)
      (hamount : toInteger amount = .error cause) :
      Refuses c amount (.invalid [⟨["amount"], cause⟩])
  | transaction {c : Call .psync} {amount : Json}
      (hid : c.request.transactionId.kind ≠ .connectorTransactionId ∨
        Lacks c.request.transactionId.value) :
      Refuses c amount (.refused ⟨.missingTransactionId, some "Dlocal"⟩)
  | overlong {c : Call .refund} {amount : Json}
      (hlong : ¬ (amountOr c.request.amount amount).NumbersFit .digits) :
      Refuses c amount (.limit .digits)

theorem paymentBody_eq_error_iff {c : Call .authorize} {amount : Json} {f : Failure} :
    c.paymentBody amount = .error f ↔ Refuses c amount f := by
  simp only [paymentBody, Except.bind_eq_error_iff, Envelope.billingAddress_eq_ok_iff,
    Envelope.billingAddress_eq_error_iff, Address.requireCountry, requireText_eq_ok_iff,
    requireText_eq_error_iff, requireCard_eq_ok_iff, requireCard_eq_error_iff,
    AuthorizeData.requireReturnUrl, readAmount_eq_error_iff]
  constructor
  · intro h
    -- each alternative is the failure of one check, after the success of those before it
    rcases h with ⟨haddress, rfl⟩ | ⟨a, haddress, h⟩
    · exact .address haddress
    rcases h with ⟨hcountry, rfl⟩ | ⟨_, ⟨-, hcountry⟩, h⟩
    · exact .country haddress hcountry
    rcases h with ⟨hmethod, rfl⟩ | ⟨card, hcard, h⟩
    · exact .method haddress hcountry hmethod
    have hmethod := Instrument.kind_eq_card_iff.mpr ⟨card, hcard⟩
    rcases h with ⟨hreturn, rfl⟩ | ⟨_, ⟨-, hreturn⟩, h⟩
    · exact .returnUrl haddress hcountry hmethod hreturn
    rcases h with ⟨hgiven, cause, hamount, rfl⟩ | ⟨_, -, hbuilt⟩
    · exact .amount haddress hcountry hmethod hreturn hgiven hamount
    · cases hbuilt
  · intro h
    cases h with
    | address haddress => exact Or.inl ⟨haddress, rfl⟩
    | country haddress hcountry => exact Or.inr ⟨_, haddress, Or.inl ⟨hcountry, rfl⟩⟩
    | method haddress hcountry hmethod =>
      obtain ⟨s, hs⟩ := exists_of_not_lacks hcountry
      exact Or.inr ⟨_, haddress, Or.inr ⟨s, ⟨hs, hcountry⟩, Or.inl ⟨hmethod, rfl⟩⟩⟩
    | returnUrl haddress hcountry hmethod hreturn =>
      obtain ⟨s, hs⟩ := exists_of_not_lacks hcountry
      obtain ⟨card, hcard⟩ := Instrument.kind_eq_card_iff.mp hmethod
      exact Or.inr ⟨_, haddress, Or.inr ⟨s, ⟨hs, hcountry⟩, Or.inr ⟨card, hcard,
        Or.inl ⟨hreturn, rfl⟩⟩⟩⟩
    | amount haddress hcountry hmethod hreturn hgiven hamount =>
      obtain ⟨s, hs⟩ := exists_of_not_lacks hcountry
      obtain ⟨card, hcard⟩ := Instrument.kind_eq_card_iff.mp hmethod
      obtain ⟨u, hu⟩ := exists_of_not_lacks hreturn
      exact Or.inr ⟨_, haddress, Or.inr ⟨s, ⟨hs, hcountry⟩, Or.inr ⟨card, hcard,
        Or.inr ⟨u, ⟨hu, hreturn⟩, Or.inl ⟨hgiven, _, hamount, rfl⟩⟩⟩⟩⟩

theorem syncBody_eq_error_iff {c : Call .psync} {amount : Json} {f : Failure} :
    c.syncBody = .error f ↔ Refuses c amount f := by
  have hid : c.request.transactionId.transactionId? = none ↔
      c.request.transactionId.kind ≠ .connectorTransactionId ∨
        Lacks c.request.transactionId.value :=
    ResourceId.transactionId?_eq_none_iff
  unfold syncBody
  constructor
  · intro h
    cases hfound : c.request.transactionId.transactionId? with
    | none =>
      rw [hfound] at h
      obtain rfl : _ = f := Except.error.inj h
      exact .transaction (hid.mp hfound)
    | some id =>
      rw [hfound] at h
      cases h
  · intro h
    cases h with
    | transaction hrefused =>
      rw [hid.mpr hrefused]
      rfl

theorem refundBody_eq_error_iff {c : Call .refund} {amount : Json} {f : Failure} :
    c.refundBody amount = .error f ↔ Refuses c amount f := by
  have hwritten := Json.writtenIf_display (amountOr c.request.amount amount)
  simp only [refundBody, Except.bind_eq_error_iff, orExceed_eq_error_iff, hwritten.eq_error_iff]
  constructor
  · rintro (⟨l, ⟨hlong, rfl⟩, rfl⟩ | ⟨_, -, hbuilt⟩)
    · exact .overlong hlong
    · cases hbuilt
  · intro h
    cases h with
    | overlong hlong => exact Or.inl ⟨.digits, ⟨hlong, rfl⟩, rfl⟩

theorem of_refundBody {c : Call .refund} {amount : Json} {b : Wire.RefundRequest}
    (h : c.refundBody amount = .ok b) :
    ∃ text, (amountOr c.request.amount amount).display = .ok text ∧
      b =
        { amount := text
          paymentId := c.request.transactionId
          currency := c.request.currency
          id := c.request.refundId } := by
  simp only [refundBody, Except.bind_eq_ok_iff, orExceed_eq_ok_iff] at h
  obtain ⟨text, htext, hbody⟩ := h
  exact ⟨text, htext, (Except.ok.inj hbody).symm⟩

theorem body_eq_error_iff {flow : Flow} {c : Call flow} {amount : Json} {f : Failure} :
    c.body amount = .error f ↔ Refuses c amount f := by
  cases flow with
  | authorize => exact paymentBody_eq_error_iff
  | psync => exact syncBody_eq_error_iff
  | refund => exact refundBody_eq_error_iff
  | _ =>
    constructor
    · intro h
      cases h
    · intro h
      cases h

/-- A refused method is one that the connector knows of. -/
theorem rejectionLog_of_ne_card {kind : MethodKind} (h : kind ≠ .card) :
    rejectionLog kind = [⟨.warning, .requests,
      "Rejecting payment method " ++ token kind ++ " for " ++ connectorName⟩] := by
  have hknown : kind ∈ unsupportedMethods := by
    cases kind with
    | card => contradiction
    | other m => cases m <;> decide
  simp only [rejectionLog, hknown, if_true]

theorem level_ne_error_of_mem_log {flow : Flow} {c : Call flow} {amount : Json} {r : LogRecord}
    (hr : r ∈ (c.build amount).log) : r.level ≠ .error := by
  cases flow with
  | authorize =>
    rw [build] at hr
    cases hbody : c.body amount with
    | ok b =>
      rw [hbody] at hr
      obtain rfl := List.mem_singleton.mp hr
      simp
    | error f =>
      rw [hbody] at hr
      cases body_eq_error_iff.mp hbody with
      | method haddress hcountry hmethod =>
        simp only [bodyLog, rejectionLog_of_ne_card hmethod] at hr
        obtain rfl := List.mem_singleton.mp hr
        simp
      | _ => simp [bodyLog] at hr
  | _ => simp [build, bodyLog] at hr

/-- The request of a call that was read is refused for the first reason that applies, and
built if none does. Nothing is logged as an error, and the input of a payment by card
has the card. -/
theorem build_of_read {flow : Flow} {origin : Origin} {j : Json} {c : Call flow}
    (h : read flow origin j = .ok c) (amount : Json) :
    (∀ f, (c.build amount).value = .error f ↔ Refuses c amount f) ∧
      ((∃ b, (c.build amount).value = .ok b) ↔ ¬ ∃ f, Refuses c amount f) ∧
      (∀ r ∈ (c.build amount).log, r.level ≠ .error) ∧
      ∀ kind, flow.methodKind? c.request = some kind →
        j.at? ["request", "payment_method_data", "type"] = some (.ofToken kind) ∧
          (kind = .card ↔ ∃ k card, j.at? ["request", "payment_method_data", "card"] = some k ∧
            k ≠ .null ∧ Card.read k = .ok card) := by
  refine ⟨fun f => body_eq_error_iff, ?_, fun r => level_ne_error_of_mem_log, ?_⟩
  · constructor
    · rintro ⟨b, hb⟩ ⟨f, hf⟩
      have hbody : c.body amount = .ok b := hb
      rw [body_eq_error_iff.mpr hf] at hbody
      cases hbody
    · intro hnone
      cases hbody : c.body amount with
      | ok b => exact ⟨b, hbody⟩
      | error f => exact absurd ⟨f, body_eq_error_iff.mp hbody⟩ hnone
  · intro kind hkind
    cases flow with
    | authorize =>
      obtain rfl : c.request.method.instrument.kind = kind := Option.some.inj hkind
      obtain ⟨m, hmethod, hpath⟩ := method_of_read h
      obtain ⟨htype, hcard⟩ := PaymentMethod.of_read hmethod
      simp only [hpath, Json.at?_singleton, Instrument.kind_eq_card_iff,
        ← Instrument.card?_eq_some_iff, hcard]
      exact ⟨htype, exists_comm⟩
    | _ => cases hkind

/-- The input of an authorization by wallet, with neither a billing address nor an address to
return to. -/
def unbilledInput : Json :=
  .obj [
    ("merchant_id", .str "m"),
    ("payment_id", .str "p"),
    ("attempt_id", .str "a"),
    ("connector", .str "dlocal"),
    ("connector_auth_type", .obj [("auth_type", .str "no_key")]),
    ("connector_request_reference_id", .str "r"),
    ("request", .obj [
      ("amount", .int 5),
      ("currency", .str "usd"),
      ("payment_method_data", .obj [("type", .str "wallet")])])]

def unbilled : Call .authorize where
  envelope :=
    { merchantId := "m"
      paymentId := "p"
      attemptId := "a"
      connector := "dlocal"
      status := .started
      authentication := .noThreeDs
      credentials := .noKey
      description := none
      returnUrl := none
      billing := none
      reference := "r" }
  request :=
    { amount := 5
      currency := "USD"
      method := ⟨.other .wallet, []⟩
      captureMethod := none
      email := none
      mandate := none
      returnUrl := none }
  response := none

theorem unbilled_refused : (unbilled.build (.str "five")).value =
    .error (.refused ⟨.missingField .billingAddress, none⟩) := by
  have hread : read .authorize .value unbilledInput = .ok unbilled := rfl
  exact ((build_of_read hread (.str "five")).1 _).mpr (.address rfl)

/-- The input of a refund of that amount. -/
def repaymentInput (amount : Nat) : Json :=
  .obj [
    ("merchant_id", .str "m"),
    ("payment_id", .str "p"),
    ("attempt_id", .str "a"),
    ("connector", .str "dlocal"),
    ("connector_auth_type", .obj [("auth_type", .str "no_key")]),
    ("connector_request_reference_id", .str "r"),
    ("request", .obj [
      ("refund_id", .str "f"),
      ("connector_transaction_id", .str "t"),
      ("refund_amount", .int amount),
      ("currency", .str "usd")])]

def repayment (amount : Nat) : Call .refund where
  envelope :=
    { merchantId := "m"
      paymentId := "p"
      attemptId := "a"
      connector := "dlocal"
      status := .started
      authentication := .noThreeDs
      credentials := .noKey
      description := none
      returnUrl := none
      billing := none
      reference := "r" }
  request := ⟨"f", "t", amount, "USD", none, none⟩
  response := none

theorem repayment_refused_of_overlong {amount : Nat} (h : ¬ Json.FitsDigits amount) :
    ((repayment amount).build .null).value = .error (.limit .digits) := by
  refine body_eq_error_iff.mpr (.overlong fun hfits => h ?_)
  exact Json.NumbersFit.int_iff.mp hfits

/-- A refund is refused for an amount with one digit more than is written; and no authorization
is refused for an amount with two underscores behind a leading zero. -/
theorem overlongRepayment_refused :
    (∃ c, read .refund .value (repaymentInput (Json.leastOfLength (Json.digitLimit + 1))) = .ok c ∧
      (c.build .null).value = .error (.limit .digits)) ∧
      ∀ (c : Call .authorize) (faults : List Fault),
        (c.build (.str "0__1")).value ≠ .error (.invalid faults) := by
  refine ⟨⟨repayment _, rfl, repayment_refused_of_overlong Json.not_fitsDigits_leastOfLength⟩,
    fun c faults hfaults => ?_⟩
  have hbody : c.body (.str "0__1") = .error (.invalid faults) := hfaults
  cases body_eq_error_iff.mp hbody with
  | amount _ _ _ _ _ hamount =>
    have htaken : toInteger (.str "0__1") = .ok 1 := rfl
    rw [htaken] at hamount
    cases hamount

end Call

end PaymentConnector
