import PaymentConnector.Proofs.RequestRefusals
import PaymentConnector.Proofs.TrimmedTexts

/-!
What the body of an authorization holds. A field that is absent is left out, so no null
shows at any depth, and every field comes from one part of the call: the document from the
country alone, the name from the first and the last name unless both are blank, and a single
installment from a mandate, whatever the mandate holds.
-/

namespace PaymentConnector

open Text

namespace Json

/-- There is no null in a value, at any depth. -/
inductive NullFree : Json → Prop
  | bool (b : Bool) : NullFree (bool b)
  | int (n : Int) : NullFree (int n)
  | float (x : Binary64) : NullFree (float x)
  | str (s : String) : NullFree (str s)
  | arr {items : List Json} (h : ∀ j ∈ items, NullFree j) : NullFree (arr items)
  | obj {entries : List (String × Json)} (h : ∀ e ∈ entries, NullFree e.2) :
      NullFree (obj entries)

theorem nullFree_present {fields : List (String × Option Json)}
    (h : ∀ e ∈ fields, ∀ j, e.2 = some j → NullFree j) : NullFree (present fields) := by
  apply NullFree.obj
  intro e he
  obtain ⟨field, hfield, hvalue⟩ := List.mem_filterMap.mp he
  obtain ⟨j, hj, rfl⟩ := Option.map_eq_some_iff.mp hvalue
  exact h field hfield j hj

end Json

/-! The document of a country -/

namespace Wire

/-- The document for each country that expects one of its own form. -/
def documents : List (String × String) :=
  [("BR", "91483309223"), ("ZA", "2001014800086"), ("BD", "1234567890001"),
   ("GT", "1234567890001"), ("HN", "1234567890001"), ("PK", "1234567890001"),
   ("SN", "1234567890001"), ("TH", "1234567890001"), ("CR", "123456789"), ("SV", "123456789"),
   ("VN", "123456789"), ("DO", "12345678901"), ("NG", "12345678901"), ("EG", "12345678901112"),
   ("GH", "1234567890111123"), ("ID", "1234567890111123"), ("RW", "1234567890111123"),
   ("UG", "1234567890111123"), ("IN", "NHSTP6374G"), ("CI", "CA124356789"),
   ("JP", "123456789012"), ("MY", "123456789012"), ("PH", "123456789012"),
   ("NI", "1234567890111A"), ("TZ", "12345678912345678900")]

theorem lookup_map_pair (countries : List String) (document country : String) :
    (countries.map (·, document)).lookup country =
      if countries.contains country then some document else none := by
  induction countries with
  | nil => rfl
  | cons first rest ih =>
    rw [List.map_cons, List.lookup_cons, ih, List.contains_cons]
    cases country == first <;> rfl

theorem lookup_flatMap_pairs (groups : List (List String × String)) (country : String) :
    (groups.flatMap fun group => group.1.map (·, group.2)).lookup country =
      (groups.find? fun group => group.1.contains country).map (·.2) := by
  induction groups with
  | nil => rfl
  | cons group rest ih =>
    rw [List.flatMap_cons, List.lookup_append, lookup_map_pair, ih, List.find?_cons]
    cases group.1.contains country <;> rfl

theorem documentFor_eq (country : String) :
    documentFor country = (documents.lookup country).getD "12345678" := by
  have hspread : documents = documentGroups.flatMap fun group => group.1.map (·, group.2) := rfl
  rw [hspread, lookup_flatMap_pairs, documentFor]
  cases documentGroups.find? fun group => group.1.contains country with
  | none => rfl
  | some group => rfl

/-! No null in a body -/

theorem Payer.nullFree_wire (p : Payer) : p.wire.NullFree := by
  apply Json.nullFree_present
  simp [Secret.wire, Json.NullFree.str]

theorem Card.nullFree_wire (c : Card) : c.wire.NullFree := by
  apply Json.nullFree_present
  simp [Secret.wire, Json.NullFree.str]

theorem ThreeDsDemand.nullFree_wire (d : ThreeDsDemand) : d.wire.NullFree := by
  apply Json.nullFree_present
  simp [Json.NullFree.bool]

theorem PaymentRequest.nullFree_wire (r : PaymentRequest) : r.wire.NullFree := by
  apply Json.nullFree_present
  simp [Json.ofToken, Json.NullFree.int, Json.NullFree.str, Payer.nullFree_wire,
    Card.nullFree_wire, ThreeDsDemand.nullFree_wire]

end Wire

/-! The parts of a body -/

namespace Address

/-- There is no full name just when the first and the last name are both blank. -/
theorem fullName_eq_none_iff {a : Address} :
    a.fullName = none ↔
      (∀ ch ∈ nameText a.firstName, isBlank ch = true) ∧
        ∀ ch ∈ nameText a.lastName, isBlank ch = true := by
  have hspace : isBlank ' ' = true := by decide
  have hblank : a.fullName = none ↔ a.fullNameChars = [] := by
    unfold fullName
    cases a.fullNameChars <;> simp
  rw [hblank, fullNameChars, trim_eq_nil_iff, List.forall_mem_append, List.forall_mem_cons]
  simp only [hspace, true_and]

/-- The name is the first and the last name with no blanks around them, and there is none just
when both are blank. -/
structure Names (a : Address) (name : Option String) : Prop where
  none_iff : name = none ↔ (∀ ch ∈ nameText a.firstName, isBlank ch = true) ∧
    ∀ ch ∈ nameText a.lastName, isBlank ch = true
  toList_eq : ∀ s, name = some s →
    s.toList = trim isBlank (nameText a.firstName ++ ' ' :: nameText a.lastName)

theorem names_fullName (a : Address) : a.Names (a.fullName.map (·.reveal)) where
  none_iff := by rw [Option.map_eq_none_iff, fullName_eq_none_iff]
  toList_eq := by
    intro s hs
    obtain ⟨secret, hsecret, rfl⟩ := Option.map_eq_some_iff.mp hs
    unfold fullName at hsecret
    split at hsecret
    · cases hsecret
    · obtain rfl := Option.some.inj hsecret
      exact String.toList_ofList

end Address

theorem captureFlag_eq (m : Option CaptureMethod) :
    captureFlag m =
      if m = some .automatic ∨ m = some .sequentialAutomatic then "true" else "false" := by
  cases m with
  | none => rfl
  | some method => cases method <;> rfl

namespace Call

theorem of_paymentBody {c : Call .authorize} {amount : Json} {b : Wire.PaymentRequest}
    (h : c.paymentBody amount = .ok b) :
    ∃ a country card callback minor,
      c.envelope.billingAddress? = some a ∧
      a.country = some country ∧
      c.request.method.instrument = .card card ∧
      c.request.returnUrl = some callback ∧
      toInteger (amountOr c.request.amount amount) = .ok minor ∧
      b =
        { amount := minor
          currency := c.request.currency
          country
          methodId := .card
          methodFlow := .direct
          payer := c.payerBody a country
          card := some (c.cardBody card)
          orderId := c.envelope.reference
          threeDs := c.threeDsDemand
          callbackUrl := some callback
          description := c.envelope.description } := by
  simp only [paymentBody, Except.bind_eq_ok_iff, Envelope.billingAddress_eq_ok_iff,
    Address.requireCountry, requireText_eq_ok_iff, requireCard_eq_ok_iff,
    AuthorizeData.requireReturnUrl, readAmount_eq_ok_iff] at h
  obtain ⟨a, ha, country, ⟨hcountry, -⟩, card, hcard, callback, ⟨hcallback, -⟩, minor, hminor,
    hbody⟩ := h
  exact ⟨a, country, card, callback, minor, ha, hcountry, hcard, hcallback, hminor,
    (Except.ok.inj hbody).symm⟩

/-- The wire form of an authorization, told key by key. -/
def authorizationJson (c : Call .authorize) (minor : Int) (country callback : String)
    (name : Option String) (card : Card) : Json :=
  .present [
    ("amount", some (.int minor)),
    ("currency", some (.str c.request.currency)),
    ("country", some (.str country)),
    ("payment_method_id", some (.str "CARD")),
    ("payment_method_flow", some (.str "DIRECT")),
    ("payer", some (.present [
      ("name", name.map .str),
      ("email", c.request.email.map fun email => .str email.reveal),
      ("document", some (.str ((Wire.documents.lookup country).getD "12345678")))])),
    ("card", some (.present [
      ("holder_name", some (.str (name.getD ""))),
      ("number", some (.str card.number.reveal)),
      ("cvv", some (.str card.code.reveal)),
      ("expiration_month", some (.str card.expiryMonth.reveal)),
      ("expiration_year", some (.str card.expiryYear.reveal)),
      ("capture", some (.str
        (if c.request.captureMethod = some .automatic ∨
            c.request.captureMethod = some .sequentialAutomatic
          then "true" else "false"))),
      ("installments_id", (c.request.mandate.bind (·.mandateId)).map .str),
      ("installments", if c.request.mandate.isSome then some (.str "1") else none)])),
    ("order_id", some (.str c.envelope.reference)),
    ("three_dsecure",
      if c.envelope.authentication = .threeDs then some (.obj [("force", .bool true)]) else none),
    ("callback_url", some (.str callback)),
    ("description", c.envelope.description.map .str)]

theorem wire_of_paymentBody {c : Call .authorize} {amount : Json} {b : Wire.PaymentRequest}
    (h : c.paymentBody amount = .ok b) :
    ∃ a country card callback minor,
      c.envelope.billingAddress? = some a ∧
      a.country = some country ∧
      c.request.method.instrument = .card card ∧
      c.request.returnUrl = some callback ∧
      toInteger (amountOr c.request.amount amount) = .ok minor ∧
      b.wire = c.authorizationJson minor country callback (a.fullName.map (·.reveal)) card := by
  obtain ⟨a, country, card, callback, minor, ha, hcountry, hcard, hcallback, hminor, rfl⟩ :=
    of_paymentBody h
  refine ⟨a, country, card, callback, minor, ha, hcountry, hcard, hcallback, hminor, ?_⟩
  -- the holder of the card and the payer have their name from the same address
  have hname : c.envelope.billingName? = a.fullName := by
    rw [Envelope.billingName?, ha, Option.bind_some]
  have hholder : (a.fullName.getD ⟨""⟩).reveal = (a.fullName.map (·.reveal)).getD "" := by
    cases a.fullName <;> rfl
  have hthreeDs : c.threeDsDemand.map Wire.ThreeDsDemand.wire =
      if c.envelope.authentication = .threeDs then some (.obj [("force", .bool true)])
      else none := by
    unfold threeDsDemand
    cases c.envelope.authentication <;> rfl
  have hinstallments : (c.request.mandate.map fun _ => "1").map Json.str =
      if c.request.mandate.isSome then some (.str "1") else none := by
    cases c.request.mandate <;> rfl
  simp only [Wire.PaymentRequest.wire, Wire.Payer.wire, Wire.Card.wire, payerBody, cardBody,
    authorizationJson, Option.map_some, Option.map_map, Secret.wire, hname, hholder, hthreeDs,
    hinstallments, captureFlag_eq, Wire.documentFor_eq]
  rfl

/-- The body of an authorization that was read has no null at any depth, and is told by the
call: the country in capitals, the amount that was given unless it was null, and the
full name of the payer unless it is blank. -/
theorem wire_of_read {origin : Origin} {j : Json} {c : Call .authorize} {amount : Json}
    {b : Wire.PaymentRequest} (h : read .authorize origin j = .ok c)
    (hbuilt : (c.build amount).value = .ok b) :
    b.wire.NullFree ∧ ∃ address country card callback minor name,
      b.wire = c.authorizationJson minor country callback name card ∧
      c.envelope.billingAddress? = some address ∧
      address.Names name ∧
      (∃ t, j.at? ["billing", "address", "country"] = some (.str t) ∧ country = upper t) ∧
      c.request.method.instrument = .card card ∧
      c.request.returnUrl = some callback ∧
      (amount = .null → minor = c.request.amount) ∧
      (amount ≠ .null → toInteger amount = .ok minor) := by
  obtain ⟨a, country, card, callback, minor, ha, hcountry, hcard, hcallback, hminor, hwire⟩ :=
    wire_of_paymentBody hbuilt
  have hplace := country_of_read h ha hcountry
  have hown : amount = .null → minor = c.request.amount := by
    rintro rfl
    exact (Except.ok.inj hminor).symm
  have hgiven : amount ≠ .null → toInteger amount = .ok minor := by
    intro hnull
    rwa [amountOr_of_ne_null hnull] at hminor
  exact ⟨b.nullFree_wire, a, country, card, callback, minor, _, hwire, ha, a.names_fullName,
    hplace, hcard, hcallback, hown, hgiven⟩

/-- The input of an authorization in Brazil by a payer with a blank name and an empty mandate. -/
def mandateInput : Json :=
  .obj [
    ("merchant_id", .str "m"),
    ("payment_id", .str "p"),
    ("attempt_id", .str "a"),
    ("connector", .str "dlocal"),
    ("auth_type", .str "three_ds"),
    ("connector_auth_type", .obj [("auth_type", .str "no_key")]),
    ("billing", .obj [
      ("address", .obj [("first_name", .str " "), ("country", .str "br")])]),
    ("connector_request_reference_id", .str "r"),
    ("request", .obj [
      ("amount", .int 5),
      ("currency", .str "brl"),
      ("payment_method_data", .obj [
        ("type", .str "card"),
        ("card", .obj [
          ("card_number", .str "4111"),
          ("card_exp_month", .str "10"),
          ("card_exp_year", .str "2030"),
          ("card_cvc", .str "123")])]),
      ("mandate_id", .obj []),
      ("router_return_url", .str "u")])]

def mandatePayment : Call .authorize where
  envelope :=
    { merchantId := "m"
      paymentId := "p"
      attemptId := "a"
      connector := "dlocal"
      status := .started
      authentication := .threeDs
      credentials := .noKey
      description := none
      returnUrl := none
      billing :=
        some ⟨some ⟨some ⟨" "⟩, none, none, none, none, none, none, some "BR"⟩, none, none⟩
      reference := "r" }
  request :=
    { amount := 5
      currency := "BRL"
      method := ⟨.card ⟨⟨"4111"⟩, ⟨"10"⟩, ⟨"2030"⟩, ⟨"123"⟩, none, none⟩, []⟩
      captureMethod := none
      email := none
      mandate := some ⟨none, none⟩
      returnUrl := some "u" }
  response := none

def mandateBody : Wire.PaymentRequest where
  amount := 12
  currency := "BRL"
  country := "BR"
  methodId := .card
  methodFlow := .direct
  payer := ⟨none, none, ⟨"91483309223"⟩⟩
  card := some ⟨⟨""⟩, ⟨"4111"⟩, ⟨"123"⟩, ⟨"10"⟩, ⟨"2030"⟩, "false", none, some "1"⟩
  orderId := "r"
  threeDs := some ⟨true⟩
  callbackUrl := some "u"
  description := none

theorem mandateBody_wire : mandateBody.wire.NullFree ∧ ∃ minor country callback name card,
    mandateBody.wire = mandatePayment.authorizationJson minor country callback name card ∧
      toInteger (.str " +12.0") = .ok minor := by
  have hread : read .authorize .value mandateInput = .ok mandatePayment := rfl
  have hbuilt : (mandatePayment.build (.str " +12.0")).value = .ok mandateBody := rfl
  obtain ⟨hfree, -, country, card, callback, minor, name, hwire, -, -, -, -, -, -, hminor⟩ :=
    wire_of_read hread hbuilt
  exact ⟨hfree, minor, country, callback, name, card, hwire, hminor (by simp)⟩

end Call

end PaymentConnector
