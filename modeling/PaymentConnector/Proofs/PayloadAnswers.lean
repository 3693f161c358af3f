import PaymentConnector.Connector.Response
import PaymentConnector.Proofs.CheckedFields
import PaymentConnector.Proofs.DisplayedValues
import PaymentConnector.Proofs.SplitUrls

/-!
What can come of a payload. One that matches the schema of its flow always leads to a
settlement: the address of a redirect is the text of a URL that was read, so it can be
split. Any other payload is unreadable, and nothing else can go wrong.
-/

namespace PaymentConnector

/-- The text of every URL that can be read can be split, and becomes a redirect form. -/
theorem Url.exists_split_of_read {s : List Char} {u : Url} (h : Url.read s = .ok u) :
    ∃ parts, Url.Parts.split u.text = .ok parts ∧
      ∀ method, RedirectForm.ofAddress u.text method = .ok (RedirectForm.ofParts parts method) := by
  have hsplit := (normal_of_read h).split_text
  refine ⟨_, hsplit, fun method => ?_⟩
  rw [RedirectForm.ofAddress, hsplit]
  rfl

theorem read_of_readUrl {j : Json} {u : Url} (h : readUrl j = .ok u) :
    ∃ s, j = .str s ∧ Url.read s.toList = .ok u := by
  unfold readUrl at h
  split at h
  · rename_i s
    split at h
    · rename_i v hv
      exact ⟨s, rfl, Checked.ok.inj h ▸ hv⟩
    · simp [Checked.fail] at h
  · simp [Checked.fail] at h

namespace Wire

theorem Payload.exists_of_read {α : Type} {reader : Reader α} {p : Payload} {a : α}
    (h : p.read reader = .ok a) : ∃ j, reader j = .ok a := by
  have htext {text : List Char} (h : readText reader text = .ok a) : ∃ j, reader j = .ok a := by
    unfold readText at h
    split at h
    · exact ⟨_, h⟩
    · simp [malformed, Checked.fail] at h
  unfold read at h
  split at h
  · exact ⟨_, h⟩
  · exact htext h
  · simp [malformed, Checked.fail] at h
  · split at h
    · exact htext h
    · simp [malformed, Checked.fail] at h

/-- What a payload of an authorization is read from, key by key. -/
theorem PaymentResponse.read_obj_eq_ok_iff {o : Object} {r : PaymentResponse} :
    read (.obj o) = .ok r ↔
      readStatus o = .ok r.status ∧ o.required "id" readString = .ok r.id ∧
        o.optional "three_dsecure" ThreeDsResult.read = .ok r.threeDs ∧
          o.optional "order_id" readString = .ok r.orderId := by
  simp only [read, Reader.model, Reader.object, Checked.map_eq_map, Checked.seq_eq_app,
    Checked.app_eq_ok_iff, Checked.map_eq_ok_iff]
  constructor
  · rintro ⟨-, orderId, ⟨-, threeDs, ⟨-, id, ⟨status, hstatus, rfl⟩, hid, rfl⟩, hthree, rfl⟩,
      horder, rfl⟩
    exact ⟨hstatus, hid, hthree, horder⟩
  · rintro ⟨hstatus, hid, hthree, horder⟩
    exact ⟨_, _, ⟨_, _, ⟨_, _, ⟨_, hstatus, rfl⟩, hid, rfl⟩, hthree, rfl⟩, horder, rfl⟩

theorem ErrorPayload.required_code_of_read {o : Object} {e : ErrorPayload}
    (h : read (.obj o) = .ok e) : o.required "code" readInteger = .ok e.code := by
  simp only [read, Reader.model, Reader.object, Checked.map_eq_map, Checked.seq_eq_app,
    Checked.app_eq_ok_iff, Checked.map_eq_ok_iff] at h
  obtain ⟨-, _, ⟨-, _, ⟨code, hcode, rfl⟩, -, rfl⟩, -, rfl⟩ := h
  exact hcode

theorem ThreeDsResult.exists_of_read {j : Json} {t : ThreeDsResult} (h : read j = .ok t) :
    ∃ o : Object, j = .obj o ∧ o.optional "redirect_url" readUrl = .ok t.redirectUrl := by
  cases j with
  | obj o =>
    obtain ⟨url, hurl, rfl⟩ := Checked.map_eq_ok_iff.mp h
    exact ⟨o, rfl, hurl⟩
  | _ => simp [read, Reader.model, Reader.object, Checked.fail] at h

/-- The address of a redirect was read from a text. -/
theorem ThreeDsResult.exists_of_redirectUrl {j : Json} {t : ThreeDsResult} {u : Url}
    (h : read j = .ok t) (hu : t.redirectUrl = some u) : ∃ s, Url.read s = .ok u := by
  obtain ⟨d, -, hurl⟩ := exists_of_read h
  rw [hu] at hurl
  rcases Object.optional_eq_ok_iff.mp hurl with ⟨-, hnone⟩ | ⟨k, v, -, -, hread, heq⟩
  · cases hnone
  · obtain rfl := Option.some.inj heq
    obtain ⟨s, -, hs⟩ := read_of_readUrl hread
    exact ⟨s.toList, hs⟩

theorem PaymentResponse.exists_of_redirectUrl {j : Json} {r : PaymentResponse} {u : Url}
    (h : read j = .ok r) (hu : r.threeDs.bind (·.redirectUrl) = some u) :
    ∃ s, Url.read s = .ok u := by
  cases j with
  | obj o =>
    obtain ⟨-, -, hthree, -⟩ := read_obj_eq_ok_iff.mp h
    obtain ⟨t, ht, htu⟩ := Option.bind_eq_some_iff.mp hu
    rw [ht] at hthree
    rcases Object.optional_eq_ok_iff.mp hthree with ⟨-, hnone⟩ | ⟨j, t', -, -, hread, heq⟩
    · cases hnone
    · obtain rfl := Option.some.inj heq
      exact ThreeDsResult.exists_of_redirectUrl hread htu
  | _ => simp [read, Reader.model, Reader.object, Checked.fail] at h

/-- The redirect form that the address of a URL becomes. -/
def redirectForm (u : Url) : RedirectForm := .ofParts (Url.Parts.cutParts u.text) .get

theorem PaymentResponse.ofAddress_of_redirectUrl {j : Json} {r : PaymentResponse} {u : Url}
    (h : read j = .ok r) (hu : r.threeDs.bind (·.redirectUrl) = some u) :
    RedirectForm.ofAddress u.text .get = .ok (redirectForm u) := by
  obtain ⟨s, hs⟩ := exists_of_redirectUrl h hu
  rw [RedirectForm.ofAddress, (Url.normal_of_read hs).split_text]
  rfl

theorem PaymentResponse.redirection_of_read {j : Json} {r : PaymentResponse}
    (h : read j = .ok r) :
    r.redirection = .ok ((r.threeDs.bind (·.redirectUrl)).map redirectForm) := by
  unfold redirection
  cases hu : r.threeDs.bind (·.redirectUrl) with
  | none => rfl
  | some u => simp [ofAddress_of_redirectUrl h hu, Except.map]

theorem PaymentResponse.redirectForm_map_ok {j : Json} {r : PaymentResponse}
    (h : read j = .ok r) :
    ((r.threeDs.bind (·.redirectUrl)).map redirectForm).map .ok =
      (r.threeDs.bind (·.redirectUrl)).map fun u => RedirectForm.ofAddress u.text .get := by
  cases hu : r.threeDs.bind (·.redirectUrl) with
  | none => rfl
  | some u => simp [ofAddress_of_redirectUrl h hu]

end Wire

namespace Flow

/-- Every answer that was read can be settled. -/
theorem exists_settle (flow : Flow) {j : Json} {a : flow.Answer} (h : flow.readAnswer j = .ok a) :
    ∃ s, flow.settle a = .ok s := by
  cases flow with
  | authorize =>
    have hredirection := Wire.PaymentResponse.redirection_of_read h
    simp only [settle, Wire.PaymentResponse.settle, hredirection]
    exact ⟨_, rfl⟩
  | _ => exact ⟨_, rfl⟩

/-- The record that tells of a payload that cannot be read. -/
def unreadableRecord (flow : Flow) (faults : List Fault) : LogRecord :=
  ⟨.warning, .payloads,
    "Failed to deserialize " ++ flow.answerName ++ ": " ++ toString faults.length ++ " error(s)"⟩

/-- The error that a payload is for a flow when it cannot be read. -/
def unreadable (flow : Flow) : Failure := .refused (ErrorCause.unreadable flow.answerName).named

theorem answer_of_failed (flow : Flow) {p : Wire.Payload} {faults : List Fault}
    (h : p.read flow.readAnswer = .failed faults) :
    flow.answer p = ⟨.error flow.unreadable, [flow.unreadableRecord faults]⟩ := by
  unfold answer Wire.Payload.parse
  rw [h]
  rfl

theorem answer_of_ok (flow : Flow) {p : Wire.Payload} {a : flow.Answer} {s : Settlement flow}
    (h : p.read flow.readAnswer = .ok a) (hs : flow.settle a = .ok s) :
    flow.answer p = ⟨.ok s, [⟨.info, .responses, s.note⟩]⟩ := by
  simp [answer, Wire.Payload.parse, h, hs, Logged.andThen, Logged.pure]

theorem answer_cases (flow : Flow) (p : Wire.Payload) :
    (∃ s, flow.answer p = ⟨.ok s, [⟨.info, .responses, s.note⟩]⟩) ∨
      ∃ faults, flow.answer p = ⟨.error flow.unreadable, [flow.unreadableRecord faults]⟩ := by
  rcases (p.read flow.readAnswer).eq_ok_or_failed with ⟨a, ha⟩ | ⟨faults, hfaults⟩
  · obtain ⟨j, hj⟩ := Wire.Payload.exists_of_read ha
    obtain ⟨s, hs⟩ := flow.exists_settle hj
    exact Or.inl ⟨s, flow.answer_of_ok ha hs⟩
  · exact Or.inr ⟨faults, flow.answer_of_failed hfaults⟩

end Flow

/-! Errors -/

namespace ErrorReply

variable {p : Wire.Payload} {statusCode : Json} {e : Wire.ErrorPayload}

/-- What becomes of an error, with the status code that came with it. -/
def withStatus (e : Wire.ErrorPayload) (statusCode : Json) : Except Failure ErrorReply :=
  (((readInteger statusCode).under "status_code").map (ofError e)).orFail

theorem withStatus_int (e : Wire.ErrorPayload) (n : Int) :
    withStatus e (.int n) = .ok (ofError e n) := rfl

/-- An error is noted if its code and the status code have a text. -/
theorem writtenIf_note (e : Wire.ErrorPayload) (statusCode : Json) :
    Json.WrittenIf (Json.FitsDigits e.code ∧ statusCode.NumbersFit .digits)
      (note e statusCode) :=
  (Json.writtenIf_numeral e.code).bind fun _ => (Json.writtenIf_display statusCode).map

theorem ofPayload_of_noted {text : String} (h : p.read Wire.ErrorPayload.read = .ok e)
    (hnote : note e statusCode = .ok text) :
    ofPayload p statusCode = ⟨withStatus e statusCode, [⟨.warning, .connector, text⟩]⟩ := by
  unfold ofPayload Wire.Payload.parse
  rw [h]
  simp only [Logged.andThen, Logged.pure, hnote]
  rfl

theorem ofPayload_of_limit {l : Json.Limit} (h : p.read Wire.ErrorPayload.read = .ok e)
    (hnote : note e statusCode = .error l) :
    ofPayload p statusCode = .pure (.error (.limit l)) := by
  unfold ofPayload Wire.Payload.parse
  rw [h]
  simp only [Logged.andThen, Logged.pure, hnote]
  rfl

theorem ofPayload_of_failed {faults : List Fault}
    (h : p.read Wire.ErrorPayload.read = .failed faults) :
    ofPayload p statusCode =
      ⟨.error (.refused ⟨.unreadable "DlocalErrorResponse", some "Dlocal"⟩),
        [⟨.warning, .payloads, "Failed to deserialize " ++ Wire.ErrorPayload.name ++ ": " ++
          toString faults.length ++ " error(s)"⟩]⟩ := by
  unfold ofPayload Wire.Payload.parse
  rw [h]
  rfl

end ErrorReply

/-- The call after a settlement, all of it. -/
theorem Call.settle_eq {flow : Flow} (c : Call flow) (s : Settlement flow) :
    c.settle s =
      { envelope := { c.envelope with status := s.status.getD c.envelope.status }
        request := c.request
        response := some (.reply s.reply) } := by
  unfold settle
  cases s.status <;> rfl

/-- Whatever the payload, a call is answered or the connector calls the payload unreadable.
In particular, the address of a redirect never stands in the way: the text of every URL
that can be read can be split and becomes a redirect form. -/
theorem Call.respond_ok_or_unreadable {flow : Flow} (c : Call flow) :
    (∀ p : Wire.Payload,
      (∃ c' : Call flow, (c.respond p).value = .ok c') ∨
        (c.respond p).value =
          .error (.refused ⟨.unreadable flow.answerName, some "Dlocal"⟩)) ∧
      ∀ (s : List Char) (u : Url), Url.read s = .ok u →
        (∃ parts, Url.Parts.split u.text = .ok parts) ∧
          ∀ method, ∃ form, RedirectForm.ofAddress u.text method = .ok form := by
  constructor
  · intro p
    rcases flow.answer_cases p with ⟨s, hs⟩ | ⟨faults, hfaults⟩
    · exact Or.inl ⟨c.settle s, by rw [respond, hs]; rfl⟩
    · exact Or.inr (by rw [respond, hfaults]; rfl)
  · intro s u hu
    obtain ⟨parts, hsplit, hform⟩ := Url.exists_split_of_read hu
    exact ⟨⟨parts, hsplit⟩, fun method => ⟨_, hform method⟩⟩

end PaymentConnector
