import PaymentConnector.Payment.Call
import PaymentConnector.Proofs.CheckedFields
import PaymentConnector.Proofs.SettledCapitals

/-!
Where the parts of a call come from. A call is read from an object, and each part from the
value at its path. Countries and currencies come from texts that are turned into
capitals, and a payment method is a card just when the input holds one.
-/

namespace PaymentConnector

open Text

namespace Json

/-- The value at a key of an object. -/
def get? : Json → String → Option Json
  | obj o, key => Object.get? o key
  | _, _ => none

/-- The value at the end of a path of keys. -/
def at? : Json → List String → Option Json
  | j, [] => some j
  | j, key :: path => (j.get? key).bind fun k => k.at? path

theorem at?_cons {j k : Json} {key : String} (h : j.get? key = some k) (path : List String) :
    j.at? (key :: path) = k.at? path := by
  rw [at?, h, Option.bind_some]

theorem at?_singleton {j : Json} {key : String} : j.at? [key] = j.get? key := by
  rw [at?]
  cases j.get? key <;> rfl

end Json

theorem Reader.object_eq_ok_iff {α : Type} {shape : Shape} {fields : Object → Checked α}
    {j : Json} {a : α} :
    Reader.object shape fields j = .ok a ↔ ∃ o, j = .obj o ∧ fields o = .ok a := by
  cases j <;> simp [Reader.object, Checked.fail]

theorem Object.optional_eq_ok_some_iff {α : Type} {o : Object} {key : String} {read : Reader α}
    {a : α} :
    o.optional key read = .ok (some a) ↔ ∃ j, o.get? key = some j ∧ j ≠ .null ∧ read j = .ok a := by
  rw [optional_eq_ok_iff]
  constructor
  · rintro (⟨-, hnone⟩ | ⟨j, b, hget, hnull, hread, hsome⟩)
    · exact absurd hnone (by simp)
    · exact ⟨j, hget, hnull, (Option.some.inj hsome).symm ▸ hread⟩
  · rintro ⟨j, hget, hnull, hread⟩
    exact Or.inr ⟨j, a, hget, hnull, hread, rfl⟩

/-! Vocabularies -/

namespace Vocabulary

instance : Lawful AttemptStatus := ⟨by intro a; cases a <;> rfl⟩

instance : Lawful RefundStatus := ⟨by intro a; cases a <;> rfl⟩

instance : Lawful CaptureMethod := ⟨by intro a; cases a <;> rfl⟩

instance : Lawful Authentication := ⟨by intro a; cases a <;> rfl⟩

instance : Lawful HttpMethod := ⟨by intro a; cases a <;> rfl⟩

instance : Lawful ResourceKind := ⟨by intro a; cases a <;> rfl⟩

instance : Lawful CredentialKind := ⟨by intro a; cases a <;> rfl⟩

instance : Lawful MethodKind where
  ofToken?_token
    | .card => rfl
    | .other m => by cases m <;> rfl

end Vocabulary

/-! Addresses -/

theorem Address.country_of_read {j : Json} {a : Address} {s : String} (h : read j = .ok a)
    (hs : a.country = some s) : ∃ t, j.at? ["country"] = some (.str t) ∧ s = upper t := by
  obtain ⟨o, rfl, hfields⟩ := Reader.object_eq_ok_iff.mp h
  simp only [Checked.map_eq_map, Checked.seq_eq_app, Checked.app_eq_ok_iff,
    Checked.map_eq_ok_iff] at hfields
  obtain ⟨-, _, ⟨-, _, ⟨-, _, ⟨-, _, ⟨-, _, ⟨-, _, ⟨-, _, ⟨_, -, rfl⟩, -, rfl⟩, -, rfl⟩, -, rfl⟩,
    -, rfl⟩, -, rfl⟩, -, rfl⟩, ⟨country, hcountry, rfl⟩, rfl⟩ := hfields
  obtain ⟨t, rfl, rfl⟩ := Option.map_eq_some_iff.mp hs
  obtain ⟨k, hget, -, hread⟩ := Object.optional_eq_ok_some_iff.mp hcountry
  obtain rfl := readString_eq_ok_iff.mp hread
  exact ⟨t, Json.at?_cons (j := .obj o) hget [], rfl⟩

theorem Contact.address_of_read {j : Json} {c : Contact} {a : Address} (h : read j = .ok c)
    (ha : c.address = some a) : ∃ k, j.get? "address" = some k ∧ Address.read k = .ok a := by
  obtain ⟨o, rfl, hfields⟩ := Reader.object_eq_ok_iff.mp h
  simp only [Checked.map_eq_map, Checked.seq_eq_app, Checked.app_eq_ok_iff,
    Checked.map_eq_ok_iff] at hfields
  obtain ⟨-, _, ⟨-, _, ⟨address, haddress, rfl⟩, -, rfl⟩, -, rfl⟩ := hfields
  obtain rfl : address = some a := ha
  obtain ⟨k, hget, -, hread⟩ := Object.optional_eq_ok_some_iff.mp haddress
  exact ⟨k, hget, hread⟩

theorem Envelope.billing_of_read {o : Object} {e : Envelope} {b : Contact} (h : read o = .ok e)
    (hb : e.billing = some b) :
    ∃ k, (Json.obj o).get? "billing" = some k ∧ Contact.read k = .ok b := by
  simp only [read, Checked.map_eq_map, Checked.seq_eq_app, Checked.app_eq_ok_iff,
    Checked.map_eq_ok_iff] at h
  obtain ⟨-, _, ⟨-, billing, ⟨-, _, ⟨-, _, ⟨-, _, ⟨-, _, ⟨-, _, ⟨-, _, ⟨-, _, ⟨-, _, ⟨_, -, rfl⟩,
    -, rfl⟩, -, rfl⟩, -, rfl⟩, -, rfl⟩, -, rfl⟩, -, rfl⟩, -, rfl⟩, -, rfl⟩, hbilling, rfl⟩,
    -, rfl⟩ := h
  obtain rfl : billing = some b := hb
  obtain ⟨k, hget, -, hread⟩ := Object.optional_eq_ok_some_iff.mp hbilling
  exact ⟨k, hget, hread⟩

/-! Requests -/

theorem upper_of_readCurrency {j : Json} {s : String} (h : readCurrency j = .ok s) :
    upper s = s := by
  unfold readCurrency at h
  cases hj : readString j with
  | failed faults => simp [hj, Checked.andThen] at h
  | ok t =>
    simp only [hj, Checked.andThen] at h
    split at h
    · rw [← Checked.ok.inj h, upper_upper]
    · simp [Checked.fail] at h

theorem upper_of_required {o : Object} {key s : String}
    (h : o.required key readCurrency = .ok s) : upper s = s := by
  obtain ⟨j, -, hread⟩ := Object.required_eq_ok_iff.mp h
  exact upper_of_readCurrency hread

/-- The currency and the method of an authorization, each from its key. -/
theorem AuthorizeData.of_read {j : Json} {d : AuthorizeData} (h : read j = .ok d) :
    ∃ o : Object, j = .obj o ∧ o.required "currency" readCurrency = .ok d.currency ∧
      o.required "payment_method_data" PaymentMethod.read = .ok d.method := by
  obtain ⟨o, rfl, hfields⟩ := Reader.object_eq_ok_iff.mp h
  simp only [Checked.map_eq_map, Checked.seq_eq_app, Checked.app_eq_ok_iff,
    Checked.map_eq_ok_iff] at hfields
  obtain ⟨-, _, ⟨-, _, ⟨-, _, ⟨-, _, ⟨-, method, ⟨-, currency, ⟨_, -, rfl⟩, hcurrency, rfl⟩,
    hmethod, rfl⟩, -, rfl⟩, -, rfl⟩, -, rfl⟩, -, rfl⟩ := hfields
  exact ⟨o, rfl, hcurrency, hmethod⟩

theorem CaptureData.upper_currency {j : Json} {d : CaptureData} (h : read j = .ok d) :
    upper d.currency = d.currency := by
  obtain ⟨o, rfl, hfields⟩ := Reader.object_eq_ok_iff.mp h
  simp only [Checked.map_eq_map, Checked.seq_eq_app, Checked.app_eq_ok_iff,
    Checked.map_eq_ok_iff] at hfields
  obtain ⟨-, _, ⟨-, currency, ⟨_, -, rfl⟩, hcurrency, rfl⟩, -, rfl⟩ := hfields
  exact upper_of_required hcurrency

theorem RefundData.upper_currency {j : Json} {d : RefundData} (h : read j = .ok d) :
    upper d.currency = d.currency := by
  obtain ⟨o, rfl, hfields⟩ := Reader.object_eq_ok_iff.mp h
  simp only [Checked.map_eq_map, Checked.seq_eq_app, Checked.app_eq_ok_iff,
    Checked.map_eq_ok_iff] at hfields
  obtain ⟨-, _, ⟨-, _, ⟨-, currency, ⟨-, _, ⟨-, _, ⟨_, -, rfl⟩, -, rfl⟩, -, rfl⟩, hcurrency, rfl⟩,
    -, rfl⟩, -, rfl⟩ := hfields
  exact upper_of_required hcurrency

namespace Flow

/-- The currency of a request, in the flows whose requests have one. -/
def currency? : (flow : Flow) → flow.Request → Option String
  | authorize, r => some r.currency
  | capture, r => some r.currency
  | void, _ => none
  | psync, _ => none
  | refund, r => some r.currency
  | rsync, r => some r.currency

/-- The kind of the method that a request names, in the flow whose requests name one. -/
def methodKind? : (flow : Flow) → flow.Request → Option MethodKind
  | authorize, r => some r.method.instrument.kind
  | _, _ => none

theorem upper_currency (flow : Flow) {j : Json} {r : flow.Request} {s : String}
    (h : flow.readRequest j = .ok r) (hs : flow.currency? r = some s) : upper s = s := by
  cases flow with
  | authorize =>
    obtain ⟨o, -, hcurrency, -⟩ := AuthorizeData.of_read h
    obtain rfl : r.currency = s := Option.some.inj hs
    exact upper_of_required hcurrency
  | capture =>
    obtain rfl : r.currency = s := Option.some.inj hs
    exact CaptureData.upper_currency h
  | void => exact absurd hs (by simp [currency?])
  | psync => exact absurd hs (by simp [currency?])
  | refund =>
    obtain rfl : r.currency = s := Option.some.inj hs
    exact RefundData.upper_currency h
  | rsync =>
    obtain rfl : r.currency = s := Option.some.inj hs
    exact RefundData.upper_currency h

end Flow

/-! Payment methods -/

theorem Instrument.kind_eq_card_iff {i : Instrument} : i.kind = .card ↔ ∃ card, i = .card card := by
  cases i <;> simp [kind]

theorem Instrument.card?_eq_some_iff {i : Instrument} {card : Card} :
    i.card? = some card ↔ i = .card card := by
  cases i <;> simp [card?]

theorem Instrument.of_eq_ok_iff {kind : MethodKind} {details : Option Card} {i : Instrument} :
    of kind details = .ok i ↔ i.kind = kind ∧ i.card? = details := by
  cases kind <;> cases details <;> cases i <;>
    simp [of, Instrument.kind, card?, Checked.fail, eq_comm]

/-- A payment method is of the kind that the input tells, and it is a card just when the input
has the details of one. -/
theorem PaymentMethod.of_read {j : Json} {p : PaymentMethod} (h : read j = .ok p) :
    j.get? "type" = some (.ofToken p.instrument.kind) ∧
      ∀ card, p.instrument.card? = some card ↔
        ∃ k, j.get? "card" = some k ∧ k ≠ .null ∧ Card.read k = .ok card := by
  obtain ⟨o, rfl, hfields⟩ := Reader.object_eq_ok_iff.mp h
  rcases (readFields o).eq_ok_or_failed with ⟨⟨kind, card, details⟩, hparts⟩ | ⟨faults, hfaults⟩
  · rw [hparts, Checked.andThen, Checked.map_eq_ok_iff] at hfields
    obtain ⟨instrument, hinstrument, rfl⟩ := hfields
    simp only [readFields, Checked.map_eq_map, Checked.seq_eq_app, Checked.app_eq_ok_iff,
      Checked.map_eq_ok_iff] at hparts
    obtain ⟨-, _, ⟨-, _, ⟨_, hkind, rfl⟩, hcard, rfl⟩, -, hmk⟩ := hparts
    obtain ⟨rfl, rfl, -⟩ := Prod.mk.inj hmk
    obtain ⟨rfl, rfl⟩ := Instrument.of_eq_ok_iff.mp hinstrument
    constructor
    · obtain ⟨k, hget, hread⟩ := Object.required_eq_ok_iff.mp hkind
      obtain rfl := Vocabulary.read_eq_ok_iff.mp hread
      exact hget
    · intro card
      have hsome : Object.optional o "card" Card.read = .ok (some card) ↔ _ :=
        Object.optional_eq_ok_some_iff
      rwa [hcard, Checked.ok.injEq] at hsome
  · simp [hfaults, Checked.andThen] at hfields

/-! Calls -/

namespace Call

variable {flow : Flow} {origin : Origin} {j : Json} {c : Call flow}

theorem of_read (h : read flow origin j = .ok c) :
    ∃ o : Object, j = .obj o ∧ Envelope.read o = .ok c.envelope ∧
      ∃ k, j.get? "request" = some k ∧ flow.readRequest k = .ok c.request := by
  obtain ⟨o, rfl, hfields⟩ := Reader.object_eq_ok_iff.mp h
  simp only [Checked.map_eq_map, Checked.seq_eq_app, Checked.app_eq_ok_iff,
    Checked.map_eq_ok_iff] at hfields
  obtain ⟨-, _, ⟨-, _, ⟨envelope, henvelope, rfl⟩, hrequest, rfl⟩, -, rfl⟩ := hfields
  exact ⟨o, rfl, henvelope, Object.required_eq_ok_iff.mp hrequest⟩

/-- The country of a call is the text at its place in the input, in capitals. -/
theorem country_of_read (h : read flow origin j = .ok c) {a : Address}
    (ha : c.envelope.billingAddress? = some a) {s : String} (hs : a.country = some s) :
    ∃ t, j.at? ["billing", "address", "country"] = some (.str t) ∧ s = upper t := by
  obtain ⟨o, rfl, henvelope, -⟩ := of_read h
  obtain ⟨b, hb, hba⟩ := Option.bind_eq_some_iff.mp ha
  obtain ⟨k, hk, hcontact⟩ := Envelope.billing_of_read henvelope hb
  obtain ⟨l, hl, haddress⟩ := Contact.address_of_read hcontact hba
  obtain ⟨t, ht, rfl⟩ := Address.country_of_read haddress hs
  refine ⟨t, ?_, rfl⟩
  rw [Json.at?_cons hk, Json.at?_cons hl, ht]

theorem method_of_read {c : Call .authorize} (h : read .authorize origin j = .ok c) :
    ∃ m, PaymentMethod.read m = .ok c.request.method ∧
      ∀ path, j.at? ("request" :: "payment_method_data" :: path) = m.at? path := by
  obtain ⟨-, -, -, k, hk, hrequest⟩ := of_read h
  obtain ⟨r, rfl, -, hrequired⟩ := AuthorizeData.of_read hrequest
  obtain ⟨m, hm, hmethod⟩ := Object.required_eq_ok_iff.mp hrequired
  refine ⟨m, hmethod, fun path => ?_⟩
  rw [Json.at?_cons hk, Json.at?_cons (j := .obj r) hm]

end Call

end PaymentConnector
