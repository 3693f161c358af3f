import PaymentConnector.Proofs.HiddenSecrets

/-!
Hiding the secrets of requests, credentials and whole calls. Hiding the input of a call
and then reading it gives the call with its secrets hidden. The input may also have
nothing but its credentials hidden; then nothing else of the call changes.
-/

namespace PaymentConnector

variable {cs : Changes} {o : Object} {key : String}

namespace Credentials

def hidden : Credentials → Credentials
  | headerKey a => headerKey a.hidden
  | bodyKey a k => bodyKey a.hidden k.hidden
  | signatureKey a k s => signatureKey a.hidden k.hidden s.hidden
  | multiAuthKey a k s l => multiAuthKey a.hidden k.hidden s.hidden l.hidden
  | noKey => noKey

theorem readKeys_alter (o : Object) (kind : CredentialKind) :
    readKeys (o.alter [("api_key", Json.hideText), ("key1", Json.hideText),
      ("api_secret", Json.hideText), ("key2", Json.hideText)]) kind =
        (readKeys o kind).map hidden := by
  cases kind with
  | noKey => rfl
  | _ =>
    simp (disch := simp [List.lookup_cons]) only [readKeys, Object.required_hideText,
      Checked.map_eq_map, Checked.seq_eq_app, Checked.map_map, Checked.map_app, Checked.app_map]
    rfl

theorem readOf_hideKeys (kind : CredentialKind) (j : Json) :
    readOf kind (Json.hideKeys j) = (readOf kind j).map hidden := by
  apply Reader.object_alter
  intro o
  simp (disch := simp [tagKey]) only [readTag, Object.defaulted_alter_other, readKeys_alter,
    Checked.map_eq_map, Checked.seq_eq_app, Checked.map_map, Checked.map_app, Checked.app_map]

theorem read_hideKeys (j : Json) : read (Json.hideKeys j) = (read j).map hidden := by
  apply Reader.object_alter
  intro o
  rw [Object.get?_alter_other (by simp [tagKey])]
  cases o.get? tagKey with
  | none => rfl
  | some tag =>
    cases tag with
    | str s =>
      cases hkind : Vocabulary.ofToken? CredentialKind s with
      | none => simp only [hkind]; rfl
      | some kind =>
        simp only [hkind]
        exact (congrArg (Checked.under s) (readOf_hideKeys kind (.obj o))).trans
          (Checked.map_under _ _ _).symm
    | _ => rfl

theorem required_hideKeys (h : cs.lookup key = some Json.hideKeys) :
    (o.alter cs).required key read = (o.required key read).map hidden :=
  Object.required_alter h read_hideKeys

theorem kind_hidden (c : Credentials) : c.hidden.kind = c.kind := by
  cases c <;> rfl

theorem dump_hidden (c : Credentials) : c.hidden.dump = c.dump := by
  cases c <;> simp [dump, hidden, kind, keys, Secret.dump_hidden]

end Credentials

namespace AuthorizeData

def hidden (d : AuthorizeData) : AuthorizeData :=
  { d with
    method := d.method.hidden
    email := d.email.map Secret.hidden }

theorem read_hideRequest (j : Json) : read (Json.hideRequest j) = (read j).map hidden := by
  apply Reader.object_alter
  intro o
  simp (disch := simp [List.lookup_cons]) only [PaymentMethod.required_hideMethod,
    Object.optional_hideText, Object.required_alter_other, Object.optional_alter_other,
    Checked.map_eq_map, Checked.seq_eq_app, Checked.map_map, Checked.map_app, Checked.app_map]
  rfl

theorem tree_hidden (d : AuthorizeData) : d.hidden.tree = d.tree := by
  simp only [tree, hidden, PaymentMethod.tree_hidden, Json.ofOption_map Secret.dump_hidden]

end AuthorizeData

namespace Flow

/-- Of all requests, only those for an authorization hold secrets. -/
def hideRequest : (flow : Flow) → flow.Request → flow.Request
  | authorize => AuthorizeData.hidden
  | capture => id
  | void => id
  | psync => id
  | refund => id
  | rsync => id

theorem readRequest_hideRequest (flow : Flow) (j : Json) :
    flow.readRequest (Json.hideRequest j) = (flow.readRequest j).map flow.hideRequest := by
  cases flow with
  | authorize => exact AuthorizeData.read_hideRequest j
  | _ =>
    apply Reader.object_alter
    intro o
    simp (disch := simp) only [Object.required_alter_other, Object.optional_alter_other,
      hideRequest, Checked.map_id]

theorem required_hideRequest (flow : Flow) (h : cs.lookup key = some Json.hideRequest) :
    (o.alter cs).required key flow.readRequest =
      (o.required key flow.readRequest).map flow.hideRequest :=
  Object.required_alter h flow.readRequest_hideRequest

theorem requestTree_hideRequest (flow : Flow) (r : flow.Request) :
    flow.requestTree (flow.hideRequest r) = flow.requestTree r := by
  cases flow with
  | authorize => exact AuthorizeData.tree_hidden r
  | _ => rfl

theorem requestDictionaries_hideRequest (flow : Flow) (r : flow.Request) :
    flow.requestDictionaries (flow.hideRequest r) = flow.requestDictionaries r := by
  cases flow <;> rfl

end Flow

namespace Envelope

def hideCredentials (e : Envelope) : Envelope := { e with credentials := e.credentials.hidden }

def hidden (e : Envelope) : Envelope :=
  { e with
    credentials := e.credentials.hidden
    billing := e.billing.map Contact.hidden }

theorem read_alter_credentials (o : Object) :
    read (o.alter [("connector_auth_type", Json.hideKeys)]) = (read o).map hideCredentials := by
  simp (disch := simp [List.lookup_cons]) only [read, Credentials.required_hideKeys,
    Object.required_alter_other, Object.optional_alter_other, Object.defaulted_alter_other,
    Checked.map_eq_map, Checked.seq_eq_app, Checked.map_map, Checked.map_app, Checked.app_map]
  rfl

theorem read_alter_secrets (o : Object) :
    read (o.alter [("connector_auth_type", Json.hideKeys), ("billing", Json.hideContact),
      ("request", Json.hideRequest)]) = (read o).map hidden := by
  simp (disch := simp [List.lookup_cons]) only [read, Credentials.required_hideKeys,
    Contact.optional_hideContact,
    Object.required_alter_other, Object.optional_alter_other, Object.defaulted_alter_other,
    Checked.map_eq_map, Checked.seq_eq_app, Checked.map_map, Checked.map_app, Checked.app_map]
  rfl

theorem dumpEntries_hidden (e : Envelope) : e.hidden.dumpEntries = e.dumpEntries := by
  simp only [dumpEntries, hidden, Credentials.dump_hidden, Json.ofOption_map Contact.dump_hidden]

end Envelope

namespace Call

variable {flow : Flow}

def hideCredentials (c : Call flow) : Call flow := { c with envelope := c.envelope.hideCredentials }

def hidden (c : Call flow) : Call flow :=
  { c with
    envelope := c.envelope.hidden
    request := flow.hideRequest c.request }

theorem read_hideCredentials (flow : Flow) (origin : Origin) (j : Json) :
    read flow origin (Json.hideCredentials j) = (read flow origin j).map hideCredentials := by
  apply Reader.object_alter
  intro o
  simp (disch := simp) only [Envelope.read_alter_credentials, Object.required_alter_other,
    Object.optional_alter_other, Checked.map_eq_map, Checked.seq_eq_app, Checked.map_map,
    Checked.map_app]
  rfl

/-- Hiding the secrets of an input is hiding those of the call that is read from it. -/
theorem read_hideSecrets (flow : Flow) (origin : Origin) (j : Json) :
    read flow origin (Json.hideSecrets j) = (read flow origin j).map hidden := by
  apply Reader.object_alter
  intro o
  simp (disch := simp [List.lookup_cons]) only [Envelope.read_alter_secrets,
    Flow.required_hideRequest, Object.optional_alter_other,
    Checked.map_eq_map, Checked.seq_eq_app, Checked.map_map, Checked.map_app, Checked.app_map]
  rfl

theorem dump_hidden (c : Call flow) : c.hidden.dump = c.dump := by
  simp only [dump, dictionaries, tree, hidden, Envelope.dumpEntries_hidden,
    Flow.requestTree_hideRequest, Flow.requestDictionaries_hideRequest]

end Call

end PaymentConnector
