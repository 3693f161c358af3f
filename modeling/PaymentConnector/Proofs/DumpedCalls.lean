import PaymentConnector.Proofs.DumpedFields

/-!
Reading the dump of a call. A call that was read has its country and its currency in
capitals, and capitals stay as they are when they are turned into capitals again. So
its dump, if there is one, is read as the same call with its secrets hidden, if the currency
still has three characters, and the dump of that call is the same once more. There is no dump
just where a dictionary in the call is nested too deep.
-/

namespace PaymentConnector

open Text

/-! Requests -/

/-- A currency that stays as it is when it is read. -/
structure IsCurrency (s : String) : Prop where
  length : s.length = 3
  upper : upper s = s

theorem IsCurrency.read {s : String} (h : IsCurrency s) : readCurrency (.str s) = .ok s := by
  simp [readCurrency, Checked.andThen, h.length, h.upper]

namespace AuthorizeData

/-- What is read from a dump of the request. -/
def restored (d : AuthorizeData) : AuthorizeData :=
  { d with
    method := d.method.restored
    email := d.email.map Secret.hidden }

theorem read_tree {d : AuthorizeData} (h : IsCurrency d.currency) :
    read d.tree = .ok d.restored := by
  simp [read, tree, Reader.model, Reader.object, h.read, restored]

theorem tree_restored (d : AuthorizeData) : d.restored.tree = d.tree := by
  simp only [tree, restored, PaymentMethod.tree_restored, Json.ofOption_map Secret.dump_hidden]

end AuthorizeData

namespace CaptureData

theorem read_dump {d : CaptureData} (h : IsCurrency d.currency) : read d.dump = .ok d := by
  simp [read, dump, Reader.model, Reader.object, h.read]

end CaptureData

namespace CancelData

theorem read_dump (d : CancelData) : read d.dump = .ok d := by
  simp [read, dump, Reader.model, Reader.object]

end CancelData

namespace SyncData

theorem read_dump (d : SyncData) : read d.dump = .ok d := by
  simp [read, dump, Reader.model, Reader.object]

end SyncData

namespace RefundData

theorem read_dump {d : RefundData} (h : IsCurrency d.currency) : read d.dump = .ok d := by
  simp [read, dump, Reader.model, Reader.object, h.read]

end RefundData

namespace Flow

/-- What is read from a dump of a request. -/
def restoredRequest : (flow : Flow) → flow.Request → flow.Request
  | authorize => AuthorizeData.restored
  | capture => id
  | void => id
  | psync => id
  | refund => id
  | rsync => id

/-- What is read from a dump of a reply. -/
def restoredReply : (flow : Flow) → flow.Reply → flow.Reply
  | authorize => PaymentReply.restored
  | capture => PaymentReply.restored
  | void => PaymentReply.restored
  | psync => PaymentReply.restored
  | refund => id
  | rsync => id

theorem readRequest_requestTree (flow : Flow) {r : flow.Request}
    (h : ∀ s, flow.currency? r = some s → IsCurrency s) :
    flow.readRequest (flow.requestTree r) = .ok (flow.restoredRequest r) := by
  cases flow with
  | authorize => exact AuthorizeData.read_tree (h r.currency rfl)
  | capture => exact CaptureData.read_dump (h r.currency rfl)
  | void => exact CancelData.read_dump r
  | psync => exact SyncData.read_dump r
  | refund => exact RefundData.read_dump (h r.currency rfl)
  | rsync => exact RefundData.read_dump (h r.currency rfl)

theorem requestTree_restoredRequest (flow : Flow) (r : flow.Request) :
    flow.requestTree (flow.restoredRequest r) = flow.requestTree r := by
  cases flow with
  | authorize => exact AuthorizeData.tree_restored r
  | _ => rfl

theorem requestDictionaries_restoredRequest (flow : Flow) (r : flow.Request) :
    flow.requestDictionaries (flow.restoredRequest r) =
      (flow.requestDictionaries r).map Object.shown := by
  cases flow <;> rfl

theorem readReply_replyTree (flow : Flow) (r : flow.Reply) :
    flow.readReply (flow.replyTree r) = .ok (flow.restoredReply r) := by
  cases flow with
  | refund => exact RefundReply.read_dump r
  | rsync => exact RefundReply.read_dump r
  | _ => exact PaymentReply.read_tree r

theorem replyTree_restoredReply (flow : Flow) (r : flow.Reply) :
    flow.replyTree (flow.restoredReply r) = flow.replyTree r := by
  cases flow with
  | refund => rfl
  | rsync => rfl
  | _ => exact PaymentReply.tree_restored r

theorem replyDictionaries_restoredReply (flow : Flow) (r : flow.Reply) :
    flow.replyDictionaries (flow.restoredReply r) =
      (flow.replyDictionaries r).map Object.shown := by
  cases flow with
  | refund => rfl
  | rsync => rfl
  | _ => exact PaymentReply.dictionaries_restored r

theorem methodKind?_restoredRequest (flow : Flow) (r : flow.Request) :
    flow.methodKind? (flow.restoredRequest r) = flow.methodKind? r := by
  cases flow with
  | authorize => exact congrArg some r.method.instrument.kind_hidden
  | _ => rfl

theorem exists_readReply_error (flow : Flow) (e : ErrorReply) :
    ∃ faults, flow.readReply e.dump = .failed faults := by
  cases flow with
  | refund => exact ⟨_, RefundReply.read_dump_error e⟩
  | rsync => exact ⟨_, RefundReply.read_dump_error e⟩
  | _ => exact ⟨_, PaymentReply.read_dump_error e⟩

end Flow

namespace Outcome

/-- What is read from a dump of an outcome. -/
def restored (flow : Flow) : Outcome flow.Reply → Outcome flow.Reply
  | reply r => reply (flow.restoredReply r)
  | error e => error e

/-- An outcome is restored as the kind of outcome that it is, wherever its dump comes from. -/
theorem restores_tree (flow : Flow) (origin : Origin) (x : Outcome flow.Reply) :
    Restores (read flow origin) (tree flow x) (restored flow x) := by
  -- the dump of either kind lacks a key that the other kind must have, so their fit is never asked
  cases x with
  | reply r =>
    constructor
    · cases flow <;> simp [tree, Flow.replyTree, PaymentReply.tree, RefundReply.dump]
    · simp only [read, tree, restored, flow.readReply_replyTree, ErrorReply.read_replyTree]
  | error e =>
    constructor
    · simp [tree, ErrorReply.dump]
    · obtain ⟨faults, hfaults⟩ := flow.exists_readReply_error e
      simp only [read, tree, restored, hfaults, ErrorReply.read_dump]

theorem tree_restored (flow : Flow) (x : Outcome flow.Reply) :
    tree flow (restored flow x) = tree flow x := by
  cases x with
  | reply r => exact flow.replyTree_restoredReply r
  | error e => rfl

theorem dictionaries_restored (flow : Flow) (x : Outcome flow.Reply) :
    dictionaries flow (restored flow x) = (dictionaries flow x).map Object.shown := by
  cases x with
  | reply r => exact flow.replyDictionaries_restoredReply r
  | error e => rfl

end Outcome

/-! Calls -/

namespace Envelope

def InCapitals (e : Envelope) : Prop := ∀ b, e.billing = some b → b.InCapitals

theorem read_dumpEntries_append {e : Envelope} (h : e.InCapitals) (o : Object) :
    read (e.dumpEntries ++ o) = .ok e.hidden := by
  have hbilling {o : Object} {key : String} :
      Object.optional ((key, Json.ofOption Contact.dump e.billing) :: o) key Contact.read =
        .ok (e.billing.map Contact.hidden) :=
    Object.optional_cons_ofOption fun b hb => Contact.restores_dump (h b hb)
  simp [read, dumpEntries, hbilling, hidden]

end Envelope

namespace Call

variable {flow : Flow}

/-- The country and the currency of a call are their own forms in capitals. -/
structure InCapitals (c : Call flow) : Prop where
  country : c.envelope.InCapitals
  currency : ∀ s, flow.currency? c.request = some s → upper s = s

/-- What is read from a dump of the call. -/
def restored (c : Call flow) : Call flow where
  envelope := c.envelope.hidden
  request := flow.restoredRequest c.request
  response := c.response.map (Outcome.restored flow)

theorem tree_restored (c : Call flow) : c.restored.tree = c.tree := by
  simp only [tree, restored, Envelope.dumpEntries_hidden, flow.requestTree_restoredRequest,
    Json.ofOption_map (Outcome.tree_restored flow)]

theorem dictionaries_restored (c : Call flow) :
    c.restored.dictionaries = c.dictionaries.map Object.shown := by
  have hresponse : ((c.response.map (Outcome.restored flow)).map
      (Outcome.dictionaries flow)).getD [] =
        ((c.response.map (Outcome.dictionaries flow)).getD []).map Object.shown := by
    cases c.response with
    | none => rfl
    | some x => exact Outcome.dictionaries_restored flow x
  simp only [dictionaries, restored, flow.requestDictionaries_restoredRequest, hresponse,
    List.map_append]

/-- What is read from a dump has the same dump, or none if there was none. -/
theorem dump_restored (c : Call flow) : c.restored.dump = c.dump := by
  simp only [dump, tree_restored, dictionaries_restored, Json.dumpOf_map_shown]

theorem read_tree {c : Call flow} (h : c.InCapitals) (origin : Origin)
    (hlength : ∀ s, flow.currency? c.request = some s → s.length = 3) :
    read flow origin c.tree = .ok c.restored := by
  have hrequest := flow.readRequest_requestTree fun s hs => ⟨hlength s hs, h.currency s hs⟩
  have hresponse {o : Object} {key : String} :
      Object.optional ((key, Json.ofOption (Outcome.tree flow) c.response) :: o) key
        (Outcome.read flow origin) = .ok (c.response.map (Outcome.restored flow)) :=
    Object.optional_cons_ofOption fun x _ => Outcome.restores_tree flow origin x
  have henvelope := Envelope.read_dumpEntries_append h.country
  -- the keys of the envelope stand before these two, and none of them has the name of either
  have hrest {α : Type} {read : Reader α} {key : String} {o : Object}
      (hkey : key = "request" ∨ key = "response") :
      Object.required (c.envelope.dumpEntries ++ o) key read = o.required key read ∧
        Object.optional (c.envelope.dumpEntries ++ o) key read = o.optional key read := by
    rcases hkey with rfl | rfl <;> simp [Envelope.dumpEntries]
  simp [read, tree, Reader.model, Reader.object, henvelope, hrest, hrequest, hresponse, restored]

theorem inCapitals_of_read {origin : Origin} {j : Json} {c : Call flow}
    (h : read flow origin j = .ok c) : c.InCapitals := by
  obtain ⟨o, rfl, henvelope, k, -, hrequest⟩ := of_read h
  refine ⟨?_, fun s => flow.upper_currency hrequest⟩
  intro b hb a ha s hs
  obtain ⟨jb, -, hcontact⟩ := Envelope.billing_of_read henvelope hb
  obtain ⟨ja, -, haddress⟩ := Contact.address_of_read hcontact ha
  obtain ⟨t, -, rfl⟩ := Address.country_of_read haddress hs
  exact upper_upper t

/-- There is a dump just where no value in a dictionary has too many levels. -/
theorem exists_dump_iff {c : Call flow} :
    (∃ k, c.dump = .ok k) ↔ ∀ o ∈ c.dictionaries, ∀ e ∈ o, e.2.levels ≤ Json.levelLimit := by
  simp only [dump, Json.dumpOf_eq_ok_iff, exists_and_left, exists_eq', and_true,
    Object.isShallow_iff]

/-- A dump is read as a call that dumps the same, whose answer, credentials and method
are of the same kinds, and that lacks nothing but its secrets and the numbers in its dictionaries
that are not finite. There is a dump unless a dictionary is nested too deep. -/
theorem read_dump_of_read {origin : Origin} {j : Json} {c : Call flow}
    (h : read flow origin j = .ok c)
    (hlength : ∀ s, flow.currency? c.request = some s → s.length = 3) (again : Origin) :
    ((∃ k, c.dump = .ok k) ↔ ∀ o ∈ c.dictionaries, ∀ e ∈ o, e.2.levels ≤ Json.levelLimit) ∧
      ∀ k, c.dump = .ok k →
        ∃ c', read flow again k = .ok c' ∧ c'.dump = .ok k ∧ c' = c.restored ∧
          c'.response = c.response.map (Outcome.restored flow) ∧
          c'.envelope.credentials.kind = c.envelope.credentials.kind ∧
          flow.methodKind? c'.request = flow.methodKind? c.request := by
  refine ⟨exists_dump_iff, fun k hk => ?_⟩
  obtain ⟨-, rfl⟩ := Json.dumpOf_eq_ok_iff.mp hk
  refine ⟨c.restored, read_tree (inCapitals_of_read h) again hlength, ?_, rfl, rfl, ?_, ?_⟩
  · rw [dump_restored, hk]
  · exact c.envelope.credentials.kind_hidden
  · exact flow.methodKind?_restoredRequest c.request

/-- The input of an authorization in Germany, spelled by its last letter, that was refused. -/
def refusedInput : Json :=
  .obj [
    ("merchant_id", .str "m"),
    ("payment_id", .str "p"),
    ("attempt_id", .str "a"),
    ("connector", .str "dlocal"),
    ("connector_auth_type", .obj [("auth_type", .str "header_key"), ("api_key", .str "k")]),
    ("billing", .obj [("address", .obj [("country", .str "ß")])]),
    ("connector_request_reference_id", .str "r"),
    ("request", .obj [
      ("amount", .int 5),
      ("currency", .str "usd"),
      ("payment_method_data", .obj [("type", .str "wallet")]),
      ("email", .str "e")]),
    ("response", .obj [
      ("code", .str "1"),
      ("message", .str "refused"),
      ("status_code", .int 402)])]

def refused : Call .authorize where
  envelope :=
    { merchantId := "m"
      paymentId := "p"
      attemptId := "a"
      connector := "dlocal"
      status := .started
      authentication := .noThreeDs
      credentials := .headerKey ⟨"k"⟩
      description := none
      returnUrl := none
      billing := some ⟨some ⟨none, none, none, none, none, none, none, some "SS"⟩, none, none⟩
      reference := "r" }
  request :=
    { amount := 5
      currency := "USD"
      method := ⟨.other .wallet, []⟩
      captureMethod := none
      email := some ⟨"e"⟩
      mandate := none
      returnUrl := none }
  response := some (.error ⟨"1", "refused", none, 402, none, none⟩)

theorem refused_restored :
    ∃ c, refused.dump = .ok refused.tree ∧ read .authorize .text refused.tree = .ok c ∧
      c.dump = .ok refused.tree ∧
      c.response = some (.error ⟨"1", "refused", none, 402, none, none⟩) := by
  have hdump : refused.dump = .ok refused.tree := rfl
  obtain ⟨-, hrestored⟩ := read_dump_of_read
    (show read .authorize .value refusedInput = .ok refused from rfl)
    (by intro s hs; obtain rfl := Option.some.inj hs; rfl) .text
  obtain ⟨c, hread, hsame, -, hresponse, -⟩ := hrestored refused.tree hdump
  exact ⟨c, hdump, hread, hsame, hresponse⟩

/-- The same input without its answer, with lists inside one another among the details. -/
def deepInput : Json :=
  .obj [
    ("merchant_id", .str "m"),
    ("payment_id", .str "p"),
    ("attempt_id", .str "a"),
    ("connector", .str "dlocal"),
    ("connector_auth_type", .obj [("auth_type", .str "no_key")]),
    ("connector_request_reference_id", .str "r"),
    ("request", .obj [
      ("amount", .int 5),
      ("currency", .str "usd"),
      ("payment_method_data", .obj [
        ("type", .str "wallet"),
        ("details", .obj [("x", .nested Json.levelLimit)])])])]

/-- A call whose details are nested too deep is read, but it cannot be dumped. -/
theorem deepDetails_not_dumped :
    ∃ c : Call .authorize, read .authorize .value deepInput = .ok c ∧
      (∀ s, Flow.authorize.currency? c.request = some s → s.length = 3) ∧
      c.dump = .error .nesting := by
  refine ⟨_, rfl, ?_, Json.dumpOf_of_deep List.mem_cons_self List.mem_cons_self ?_⟩
  · intro s hs
    obtain rfl := Option.some.inj hs
    rfl
  · rw [Json.depth_nested]
    exact Nat.lt_succ_self _

end Call

end PaymentConnector
