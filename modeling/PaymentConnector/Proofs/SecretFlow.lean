import PaymentConnector.Connector.Endpoint
import PaymentConnector.Connector.Request
import PaymentConnector.Connector.Response
import PaymentConnector.Proofs.HiddenCalls

/-!
Where the secrets of a call go. The public part of a request body is what is left when
the fields meant for secrets are emptied. A call and the same call with its secrets hidden
have the same public bodies, the same endpoints, the same log and the same answers to
every payload, so two calls that hide to the same call cannot be told apart but by
the fields meant for secrets. Credentials reach not even those.
-/

namespace PaymentConnector

namespace Json

/-- An object without some of its keys. -/
def without (keys : List String) : Json → Json
  | obj o => obj (o.filter fun e => !keys.contains e.1)
  | j => j

/-- A request body without the fields that are meant for secrets. -/
def openPart : Json → Json :=
  alter [
    ("payer", without ["name", "email"]),
    ("card", without ["holder_name", "number", "cvv", "expiration_month", "expiration_year"])]

theorem without_present (keys : List String) (fields : List (String × Option Json)) :
    (present fields).without keys = present (fields.filter fun e => !keys.contains e.1) := by
  simp only [present, without, obj.injEq]
  induction fields with
  | nil => rfl
  | cons e rest ih =>
    obtain ⟨key, value⟩ := e
    cases value with
    | none => by_cases hkey : keys.contains key <;> simp_all
    | some j => by_cases hkey : keys.contains key <;> simp_all

theorem alter_present (cs : Changes) (fields : List (String × Option Json)) :
    (present fields).alter cs =
      present (fields.map fun e => (e.1, e.2.map (Object.change cs e.1))) := by
  simp only [present, alter, obj.injEq, Object.alter]
  induction fields with
  | nil => rfl
  | cons e rest ih =>
    obtain ⟨key, value⟩ := e
    cases value with
    | none => simpa using ih
    | some j => simpa using ih

end Json

namespace Wire

/-- The card of a request with its secret fields emptied. -/
def Card.publicPart (c : Card) : Card :=
  { c with
    holderName := ⟨""⟩
    number := ⟨""⟩
    code := ⟨""⟩
    expiryMonth := ⟨""⟩
    expiryYear := ⟨""⟩ }

def Payer.publicPart (p : Payer) : Payer := ⟨none, none, p.document⟩

def PaymentRequest.publicPart (r : PaymentRequest) : PaymentRequest :=
  { r with
    payer := r.payer.publicPart
    card := r.card.map Card.publicPart }

theorem Payer.without_wire_publicPart (p : Payer) :
    p.publicPart.wire.without ["name", "email"] = p.wire.without ["name", "email"] := by
  rw [wire, wire, Json.without_present, Json.without_present]
  rfl

theorem Card.without_wire_publicPart (c : Card) :
    c.publicPart.wire.without
        ["holder_name", "number", "cvv", "expiration_month", "expiration_year"] =
      c.wire.without ["holder_name", "number", "cvv", "expiration_month", "expiration_year"] := by
  rw [wire, wire, Json.without_present, Json.without_present]
  rfl

theorem PaymentRequest.openPart_wire_publicPart (r : PaymentRequest) :
    r.publicPart.wire.openPart = r.wire.openPart := by
  rw [wire, wire, Json.openPart, Json.alter_present, Json.alter_present]
  simp [publicPart, Object.change, List.lookup_cons, Payer.without_wire_publicPart,
    Card.without_wire_publicPart, Function.comp_def]

end Wire

namespace Flow

/-- The public part of a request body. Only authorizations carry secrets. -/
def publicBody : (flow : Flow) → flow.Body → flow.Body
  | authorize => Wire.PaymentRequest.publicPart
  | capture => id
  | void => id
  | psync => id
  | refund => id
  | rsync => id

theorem openPart_wireBody_publicBody (flow : Flow) (b : flow.Body) :
    (flow.wireBody (flow.publicBody b)).openPart = (flow.wireBody b).openPart := by
  cases flow with
  | authorize => exact Wire.PaymentRequest.openPart_wire_publicPart b
  | _ => rfl

theorem endpoint_publicBody (flow : Flow) (s : Settings) (b : flow.Body) :
    s.endpoint (flow.publicBody b) = s.endpoint b := by
  cases flow <;> rfl

end Flow

namespace Call

variable {flow : Flow}

theorem settle_hidden (c : Call flow) (s : Settlement flow) :
    c.hidden.settle s = (c.settle s).hidden := by
  unfold settle
  cases s.status <;> rfl

theorem dump_settle_congr {c c' : Call flow} (h : c.hidden = c'.hidden) (s : Settlement flow) :
    (c.settle s).dump = (c'.settle s).dump := by
  rw [← dump_hidden (c.settle s), ← dump_hidden (c'.settle s), ← settle_hidden, ← settle_hidden, h]

theorem billingAddress_hidden (e : Envelope) :
    e.hidden.billingAddress = e.billingAddress.map Address.hidden := by
  have hfound : e.hidden.billingAddress? = e.billingAddress?.map Address.hidden := by
    unfold Envelope.billingAddress?
    cases hbilling : e.billing with
    | none => simp [Envelope.hidden, hbilling]
    | some b => simp [Envelope.hidden, hbilling, Contact.hidden]
  rw [Envelope.billingAddress, Envelope.billingAddress, hfound]
  cases e.billingAddress? <;> rfl

theorem requireCard_hidden (c : Call .authorize) :
    c.hidden.requireCard = c.requireCard.map Card.hidden := by
  unfold requireCard
  cases hinstrument : c.request.method.instrument with
  | card card => simp [hidden, Flow.hideRequest, AuthorizeData.hidden, PaymentMethod.hidden,
      hinstrument, Instrument.hidden, Except.map]
  | other m => simp [hidden, Flow.hideRequest, AuthorizeData.hidden, PaymentMethod.hidden,
      hinstrument, Instrument.hidden, Except.map]

theorem paymentBody_hidden (c : Call .authorize) (amount : Json) :
    (c.hidden.paymentBody amount).map Wire.PaymentRequest.publicPart =
      (c.paymentBody amount).map Wire.PaymentRequest.publicPart := by
  have haddress : c.hidden.envelope.billingAddress = _ := billingAddress_hidden c.envelope
  rw [paymentBody, paymentBody, haddress, requireCard_hidden]
  -- what each check sees is the same on both sides, so the first that fails is the same
  cases c.envelope.billingAddress with
  | error e => rfl
  | ok a =>
    have hcountry : a.hidden.requireCountry = a.requireCountry := rfl
    simp only [Except.map, orRefuse, bind, Except.bind, hcountry]
    cases a.requireCountry with
    | error e => rfl
    | ok country =>
      cases c.requireCard with
      | error e => rfl
      | ok card =>
        have hreturn : c.hidden.request.requireReturnUrl = c.request.requireReturnUrl := rfl
        have hamount : c.hidden.request.amount = c.request.amount := rfl
        simp only [hreturn, hamount]
        cases c.request.requireReturnUrl with
        | error e => rfl
        | ok url =>
          cases (readInteger (amountOr c.request.amount amount)).under "amount" with
          | ok minor => rfl
          | failed faults => rfl

/-- Hiding the secrets of a call leaves the public part of its request as it is. -/
theorem body_hidden (c : Call flow) (amount : Json) :
    (c.hidden.body amount).map flow.publicBody = (c.body amount).map flow.publicBody := by
  cases flow with
  | authorize => exact paymentBody_hidden c amount
  | _ => rfl

theorem bodyLog_hidden (c : Call flow) (r : Except Failure flow.Body) :
    c.hidden.bodyLog r = c.bodyLog r := by
  cases flow with
  | authorize =>
    have hkind : c.hidden.request.method.instrument.kind = c.request.method.instrument.kind :=
      c.request.method.instrument.kind_hidden
    cases r with
    | ok b => rfl
    | error f =>
      cases f with
      | refused e =>
        obtain ⟨cause, connector⟩ := e
        cases cause with
        | unsupportedMethod => simp only [bodyLog, hkind]
        | _ => rfl
      | _ => rfl
  | _ => rfl

theorem bodyLog_publicBody (c : Call flow) (r : Except Failure flow.Body) :
    c.bodyLog (r.map flow.publicBody) = c.bodyLog r := by
  cases flow with
  | authorize =>
    cases r with
    | ok b => rfl
    | error f => rfl
  | _ => rfl

theorem body_hideCredentials (c : Call flow) (amount : Json) :
    c.hideCredentials.body amount = c.body amount := by
  cases flow with
  | authorize => rfl
  | _ => rfl

theorem bodyLog_hideCredentials (c : Call flow) (r : Except Failure flow.Body) :
    c.hideCredentials.bodyLog r = c.bodyLog r := by
  cases flow with
  | authorize =>
    cases r with
    | ok b => rfl
    | error f =>
      cases f with
      | refused e =>
        obtain ⟨cause, connector⟩ := e
        cases cause <;> rfl
      | _ => rfl
  | _ => rfl

/-- The keys of a call's credentials play no part in its request. -/
theorem build_hideCredentials (c : Call flow) (amount : Json) :
    c.hideCredentials.build amount = c.build amount := by
  rw [build, build, body_hideCredentials, bodyLog_hideCredentials]

theorem respond_congr_of_hidden_eq {c c' : Call flow} (h : c.hidden = c'.hidden)
    (payload : Wire.Payload) :
    (c.respond payload).log = (c'.respond payload).log ∧
      (c.respond payload).value.map dump = (c'.respond payload).value.map dump := by
  refine ⟨rfl, ?_⟩
  simp only [respond, Logged.map]
  cases (flow.answer payload).value with
  | error f => rfl
  | ok s => exact congrArg Except.ok (dump_settle_congr h s)

theorem map_body_congr_of_hidden_eq {β : Type} {c c' : Call flow} (h : c.hidden = c'.hidden)
    (amount : Json) {f : flow.Body → β} (hf : ∀ b, f (flow.publicBody b) = f b) :
    (c.body amount).map f = (c'.body amount).map f := by
  have hbody : (c.body amount).map flow.publicBody = (c'.body amount).map flow.publicBody := by
    rw [← body_hidden c, ← body_hidden c', h]
  have hfactor (r : Except Failure flow.Body) : r.map f = (r.map flow.publicBody).map f := by
    cases r with
    | error e => rfl
    | ok b => exact congrArg Except.ok (hf b).symm
  rw [hfactor, hbody, ← hfactor]

theorem bodyLog_congr_of_hidden_eq {c c' : Call flow} (h : c.hidden = c'.hidden) (amount : Json) :
    c.bodyLog (c.body amount) = c'.bodyLog (c'.body amount) := by
  calc c.bodyLog (c.body amount)
      = c.hidden.bodyLog ((c.body amount).map flow.publicBody) := by
        rw [bodyLog_hidden, bodyLog_publicBody]
    _ = c'.hidden.bodyLog ((c'.body amount).map flow.publicBody) := by
        rw [← body_hidden c, ← body_hidden c', h]
    _ = c'.bodyLog (c'.body amount) := by
        rw [bodyLog_hidden, bodyLog_publicBody]

/-- Two inputs that differ in nothing but texts at secret places, none of which is empty in
one input alone, are read as calls that show the same dump, settle every payload
alike with the same log, and build requests that differ in nothing but the fields meant
for secrets. If they differ in the keys of their credentials alone, they build
the same requests. -/
theorem agree_of_hideSecrets_eq {flow : Flow} {origin : Origin} {j j' : Json} {c c' : Call flow}
    (hc : read flow origin j = .ok c) (hc' : read flow origin j' = .ok c')
    (hsame : j.hideSecrets = j'.hideSecrets) :
    c.dump = c'.dump ∧
      (∀ payload : Wire.Payload,
        (c.respond payload).log = (c'.respond payload).log ∧
        (c.respond payload).value.map dump = (c'.respond payload).value.map dump) ∧
      (∀ amount : Json,
        (c.build amount).log = (c'.build amount).log ∧
        (∀ s : Settings, (c.build amount).value.map (s.endpoint ·) =
          (c'.build amount).value.map (s.endpoint ·)) ∧
        (c.build amount).value.map (fun b => (flow.wireBody b).openPart) =
          (c'.build amount).value.map (fun b => (flow.wireBody b).openPart)) ∧
      (j.hideCredentials = j'.hideCredentials →
        ∀ amount : Json, c.build amount = c'.build amount) := by
  have hhidden : c.hidden = c'.hidden := by
    have h := congrArg (read flow origin) hsame
    rw [read_hideSecrets, read_hideSecrets, hc, hc'] at h
    exact Checked.ok.inj h
  refine ⟨?_, respond_congr_of_hidden_eq hhidden, ?_, ?_⟩
  · rw [← dump_hidden c, ← dump_hidden c', hhidden]
  · intro amount
    refine ⟨bodyLog_congr_of_hidden_eq hhidden amount, ?_, ?_⟩
    · intro s
      exact map_body_congr_of_hidden_eq hhidden amount (flow.endpoint_publicBody s)
    · exact map_body_congr_of_hidden_eq hhidden amount flow.openPart_wireBody_publicBody
  · intro hkeys amount
    have hcalls : c.hideCredentials = c'.hideCredentials := by
      have h := congrArg (read flow origin) hkeys
      rw [read_hideCredentials, read_hideCredentials, hc, hc'] at h
      exact Checked.ok.inj h
    rw [← build_hideCredentials c, ← build_hideCredentials c', hcalls]

/-- The input of an authorization by a customer of that name, with that card and that key. -/
def purchaseInput (name number key : String) : Json :=
  .obj [
    ("merchant_id", .str "m"),
    ("payment_id", .str "p"),
    ("attempt_id", .str "a"),
    ("connector", .str "dlocal"),
    ("connector_auth_type", .obj [("auth_type", .str "header_key"), ("api_key", .str key)]),
    ("billing", .obj [
      ("address", .obj [("first_name", .str name), ("country", .str "br")])]),
    ("connector_request_reference_id", .str "r"),
    ("request", .obj [
      ("amount", .int 5),
      ("currency", .str "usd"),
      ("payment_method_data", .obj [
        ("type", .str "card"),
        ("card", .obj [
          ("card_number", .str number),
          ("card_exp_month", .str "10"),
          ("card_exp_year", .str "2030"),
          ("card_cvc", .str "123")])]),
      ("router_return_url", .str "u")])]

def purchase (name number key : String) : Call .authorize where
  envelope :=
    { merchantId := "m"
      paymentId := "p"
      attemptId := "a"
      connector := "dlocal"
      status := .started
      authentication := .noThreeDs
      credentials := .headerKey ⟨key⟩
      description := none
      returnUrl := none
      billing :=
        some ⟨some ⟨some ⟨name⟩, none, none, none, none, none, none, some "BR"⟩, none, none⟩
      reference := "r" }
  request :=
    { amount := 5
      currency := "USD"
      method := ⟨.card ⟨⟨number⟩, ⟨"10"⟩, ⟨"2030"⟩, ⟨"123"⟩, none, none⟩, []⟩
      captureMethod := none
      email := none
      mandate := none
      returnUrl := some "u" }
  response := none

theorem purchases_agree :
    (purchase "Ana" "4111" "k").dump = (purchase "Eva" "5500" "l").dump ∧
      ∀ amount : Json, ((purchase "Ana" "4111" "k").build amount).log =
        ((purchase "Eva" "5500" "l").build amount).log := by
  have hagree := agree_of_hideSecrets_eq
    (show read .authorize .value (purchaseInput "Ana" "4111" "k") = .ok (purchase "Ana" "4111" "k")
      from rfl)
    (show read .authorize .value (purchaseInput "Eva" "5500" "l") = .ok (purchase "Eva" "5500" "l")
      from rfl)
    rfl
  exact ⟨hagree.1, fun amount => (hagree.2.2.1 amount).1⟩

end Call

end PaymentConnector
