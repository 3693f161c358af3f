import PaymentConnector.Proofs.AuthorizationBodies

/-!
The name on an authorization. The payer and the holder of the card have the first and the
last name of the billing address with no blanks around them; where both are blank the payer has
no name and the holder an empty one. Blanks put around the two names change nothing.
-/

namespace PaymentConnector

open Text

namespace Json

/-- The characters of the text at the end of a path of keys; a text that is not there has none. -/
def charsAt (j : Json) (path : List String) : List Char :=
  match j.at? path with
  | some (str s) => s.toList
  | _ => []

theorem charsAt_cons {j k : Json} {key : String} (h : j.get? key = some k) (path : List String) :
    j.charsAt (key :: path) = k.charsAt path := by
  rw [charsAt, charsAt, at?_cons h]

end Json

/-! The names of an address -/

namespace Address

theorem nameText_of_optional {o : Object} {key : String} {part : Option Secret}
    (h : o.optional key Secret.read = .ok part) : nameText part = (Json.obj o).charsAt [key] := by
  have hat : (Json.obj o).at? [key] = o.get? key := Json.at?_singleton
  rcases Object.optional_eq_ok_iff.mp h with ⟨hvoid, rfl⟩ | ⟨j, secret, hget, -, hread, rfl⟩
  · rcases hvoid with hnone | hnull
    · rw [Json.charsAt, hat, hnone]
      rfl
    · rw [Json.charsAt, hat, hnull]
      rfl
  · cases j with
    | str s =>
      obtain rfl : (⟨s⟩ : Secret) = secret := Checked.ok.inj hread
      rw [Json.charsAt, hat, hget]
      rfl
    | _ => cases hread

theorem names_of_read {j : Json} {a : Address} (h : read j = .ok a) :
    nameText a.firstName = j.charsAt ["first_name"] ∧
      nameText a.lastName = j.charsAt ["last_name"] := by
  obtain ⟨o, rfl, hfields⟩ := Reader.object_eq_ok_iff.mp h
  simp only [Checked.map_eq_map, Checked.seq_eq_app, Checked.app_eq_ok_iff,
    Checked.map_eq_ok_iff] at hfields
  obtain ⟨-, _, ⟨-, _, ⟨-, _, ⟨-, _, ⟨-, _, ⟨-, _, ⟨-, last, ⟨first, hfirst, rfl⟩, hlast, rfl⟩,
    -, rfl⟩, -, rfl⟩, -, rfl⟩, -, rfl⟩, -, rfl⟩, -, rfl⟩ := hfields
  exact ⟨nameText_of_optional hfirst, nameText_of_optional hlast⟩

/-- Another address differs only by blanks before the first name and after the last; a name that
is not there may become a blank one. -/
structure Pads (a a' : Address) : Prop where
  first : ∃ w, Within isBlank w ∧ nameText a'.firstName = w ++ nameText a.firstName
  last : ∃ w, Within isBlank w ∧ nameText a'.lastName = nameText a.lastName ++ w
  rest : a' = { a with firstName := a'.firstName, lastName := a'.lastName }

theorem Pads.fullName_eq {a a' : Address} (h : a.Pads a') : a'.fullName = a.fullName := by
  obtain ⟨w, hw, hfirst⟩ := h.first
  obtain ⟨w', hw', hlast⟩ := h.last
  have hchars : a'.fullNameChars = a.fullNameChars := by
    have hwide : w ++ nameText a.firstName ++ ' ' :: (nameText a.lastName ++ w') =
        w ++ (nameText a.firstName ++ ' ' :: nameText a.lastName) ++ w' := by simp
    rw [fullNameChars, hfirst, hlast, hwide, trim_append hw hw']
    rfl
  rw [fullName, fullName, hchars]

theorem Pads.country_eq {a a' : Address} (h : a.Pads a') : a'.country = a.country := by
  rw [h.rest]

end Address

namespace Envelope

/-- The same envelope, with a billing address in place of its own. -/
def billedTo (e : Envelope) (a : Address) : Envelope :=
  { e with billing := e.billing.map fun contact => { contact with address := some a } }

theorem billingAddress?_billedTo {e : Envelope} {a : Address} (h : e.billingAddress? = some a)
    (a' : Address) : (e.billedTo a').billingAddress? = some a' := by
  obtain ⟨contact, hcontact, -⟩ := Option.bind_eq_some_iff.mp h
  rw [billingAddress?, billedTo, hcontact]
  rfl

end Envelope

/-! The name in a body -/

namespace Wire

/-- A body tells a name made of a first and a last part. The payer has one just when there is a
character in them that is no blank; it is the two parts, with a space between them, less the
blanks at the ends, and the holder of the card has the same or else the empty one. -/
structure TellsName (first last : List Char) (body : Json) : Prop where
  isSome_iff : (body.at? ["payer", "name"]).isSome ↔
    ∃ ch, (ch ∈ first ∨ ch ∈ last) ∧ isBlank ch = false
  holder : body.at? ["card", "holder_name"] =
    some ((body.at? ["payer", "name"]).getD (.str ""))
  name : ∀ n, body.at? ["payer", "name"] = some n →
    ∃ t, n = .str (String.ofList t) ∧ Trimmed isBlank t ∧
      ∃ w w', Within isBlank w ∧ Within isBlank w' ∧ first ++ ' ' :: last = w ++ t ++ w'

end Wire

namespace Call

theorem payerName_authorizationJson (c : Call .authorize) (minor : Int)
    (country callback : String) (name : Option String) (card : Card) :
    (c.authorizationJson minor country callback name card).at? ["payer", "name"] =
      name.map .str := by
  cases name with
  | some s => rfl
  | none => cases hemail : c.request.email <;> simp [authorizationJson, hemail] <;> rfl

theorem holderName_authorizationJson (c : Call .authorize) (minor : Int)
    (country callback : String) (name : Option String) (card : Card) :
    (c.authorizationJson minor country callback name card).at? ["card", "holder_name"] =
      some (.str (name.getD "")) := rfl

theorem tellsName_of_names {a : Address} {name : Option String} (h : a.Names name)
    (c : Call .authorize) (minor : Int) (country callback : String) (card : Card) :
    Wire.TellsName (Address.nameText a.firstName) (Address.nameText a.lastName)
      (c.authorizationJson minor country callback name card) where
  isSome_iff := by
    rw [payerName_authorizationJson, Option.isSome_map, Option.isSome_iff_ne_none, Ne, h.none_iff,
      ← List.forall_mem_append]
    simp
  holder := by
    rw [payerName_authorizationJson, holderName_authorizationJson]
    cases name <;> rfl
  name := by
    intro n hn
    rw [payerName_authorizationJson] at hn
    obtain ⟨s, rfl, rfl⟩ := Option.map_eq_some_iff.mp hn
    have hs := h.toList_eq s rfl
    refine ⟨s.toList, by rw [String.ofList_toList], ?_, ?_⟩
    · rw [hs]
      exact trimmed_trim isBlank _
    · rw [hs]
      exact exists_append_trim isBlank _

theorem names_of_read {flow : Flow} {origin : Origin} {j : Json} {c : Call flow}
    (h : read flow origin j = .ok c) {a : Address} (ha : c.envelope.billingAddress? = some a) :
    Address.nameText a.firstName = j.charsAt ["billing", "address", "first_name"] ∧
      Address.nameText a.lastName = j.charsAt ["billing", "address", "last_name"] := by
  obtain ⟨o, rfl, henvelope, -⟩ := of_read h
  obtain ⟨b, hb, hba⟩ := Option.bind_eq_some_iff.mp ha
  obtain ⟨k, hk, hcontact⟩ := Envelope.billing_of_read henvelope hb
  obtain ⟨l, hl, haddress⟩ := Contact.address_of_read hcontact hba
  simp only [Json.charsAt_cons hk, Json.charsAt_cons hl]
  exact Address.names_of_read haddress

/-- The same call, billed to another address. -/
def billedTo {flow : Flow} (c : Call flow) (a : Address) : Call flow :=
  { c with envelope := c.envelope.billedTo a }

theorem bodyLog_billedTo (c : Call .authorize) (a : Address)
    (r : Except Failure Wire.PaymentRequest) : (c.billedTo a).bodyLog r = c.bodyLog r := by
  cases r with
  | ok b => rfl
  | error f =>
    cases f with
    | refused e =>
      obtain ⟨cause, connector⟩ := e
      cases cause <;> rfl
    | _ => rfl

theorem paymentBody_billedTo {c : Call .authorize} {a a' : Address}
    (ha : c.envelope.billingAddress? = some a) (hpads : a.Pads a') (amount : Json) :
    (c.billedTo a').paymentBody amount = c.paymentBody amount := by
  have ha' : (c.billedTo a').envelope.billingAddress? = some a' :=
    c.envelope.billingAddress?_billedTo ha a'
  have hname : (c.billedTo a').envelope.billingName? = c.envelope.billingName? := by
    rw [Envelope.billingName?, Envelope.billingName?, ha, ha', Option.bind_some, Option.bind_some,
      hpads.fullName_eq]
  have hcard : (c.billedTo a').cardBody = c.cardBody := by
    funext card
    rw [cardBody, cardBody, hname]
    rfl
  have hpayer : (c.billedTo a').payerBody a' = c.payerBody a := by
    funext country
    rw [payerBody, payerBody, hpads.fullName_eq]
    rfl
  have hcountry : a'.requireCountry = a.requireCountry := by
    rw [Address.requireCountry, Address.requireCountry, hpads.country_eq]
  have haddress : orRefuse c.envelope.billingAddress = .ok a := by
    rw [Envelope.billingAddress, ha]
    rfl
  have haddress' : orRefuse (c.billedTo a').envelope.billingAddress = .ok a' := by
    rw [Envelope.billingAddress, ha']
    rfl
  rw [paymentBody, paymentBody, haddress, haddress', hcard]
  simp only [bind, Except.bind, hcountry, hpayer]
  rfl

theorem build_billedTo {c : Call .authorize} {a a' : Address}
    (ha : c.envelope.billingAddress? = some a) (hpads : a.Pads a') (amount : Json) :
    (c.billedTo a').build amount = c.build amount := by
  have hbody : (c.billedTo a').body amount = c.body amount := paymentBody_billedTo ha hpads amount
  rw [build, build, hbody, bodyLog_billedTo]

/-- The name in the body of an authorization is told by the first and the last name of the
input, and no blanks before the one or after the other change what is built. -/
theorem tellsName_of_read {origin : Origin} {j : Json} {c : Call .authorize} {amount : Json}
    {b : Wire.PaymentRequest} (h : read .authorize origin j = .ok c)
    (hbuilt : (c.build amount).value = .ok b) :
    Wire.TellsName (j.charsAt ["billing", "address", "first_name"])
        (j.charsAt ["billing", "address", "last_name"]) b.wire ∧
      ∃ a, c.envelope.billingAddress? = some a ∧
        ∀ a', a.Pads a' → (c.billedTo a').build amount = c.build amount := by
  obtain ⟨a, country, card, callback, minor, ha, -, -, -, -, hwire⟩ := wire_of_paymentBody hbuilt
  obtain ⟨hfirst, hlast⟩ := names_of_read h ha
  refine ⟨?_, a, ha, fun a' hpads => build_billedTo ha hpads amount⟩
  rw [hwire, ← hfirst, ← hlast]
  exact tellsName_of_names a.names_fullName c minor country callback card

/-- The input of an authorization by a payer with a first and a last name. -/
def namedInput (first last : String) : Json :=
  match mandateInput with
  | .obj o => .obj (Entries.put o "billing" (.obj [
      ("address", .obj [("first_name", .str first), ("last_name", .str last),
        ("country", .str "br")])]))
  | j => j

/-- A call whose payer has a first and a last name. -/
def namedPayment (first last : String) : Call .authorize :=
  mandatePayment.billedTo ⟨some ⟨first⟩, some ⟨last⟩, none, none, none, none, none, some "BR"⟩

def namedBody (name : String) : Wire.PaymentRequest :=
  { mandateBody with
    payer := { mandateBody.payer with name := some ⟨name⟩ }
    card := mandateBody.card.map fun card => { card with holderName := ⟨name⟩ } }

/-- An ideographic space before the first name and a line separator after the last are no part
of the name, the two spaces inside are; a tab and a file separator outside change nothing. -/
theorem spacedName_told :
    Wire.TellsName "\u3000Ana".toList "da  Silva\u2028".toList (namedBody "Ana da  Silva").wire ∧
      (namedPayment "\t\u3000Ana" "da  Silva\u2028\x1c").build (.int 12) =
        (namedPayment "\u3000Ana" "da  Silva\u2028").build (.int 12) := by
  have hread : read .authorize .value (namedInput "\u3000Ana" "da  Silva\u2028") =
    .ok (namedPayment "\u3000Ana" "da  Silva\u2028") := rfl
  have hbuilt : ((namedPayment "\u3000Ana" "da  Silva\u2028").build (.int 12)).value =
    .ok (namedBody "Ana da  Silva") := rfl
  obtain ⟨htold, a, ha, hpadded⟩ := tellsName_of_read hread hbuilt
  obtain rfl := Option.some.inj ha
  have htab : Within isBlank ['\t'] := by decide
  have hseparator : Within isBlank ['\x1c'] := by decide
  refine ⟨htold, hpadded ⟨some ⟨"\t\u3000Ana"⟩, some ⟨"da  Silva\u2028\x1c"⟩, none, none, none,
    none, none, some "BR"⟩ ?_⟩
  exact ⟨⟨_, htab, rfl⟩, ⟨_, hseparator, rfl⟩, rfl⟩

end Call

end PaymentConnector
