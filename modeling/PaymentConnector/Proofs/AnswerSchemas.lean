import PaymentConnector.Proofs.PayloadAnswers

/-!
The schemas of the connector's answers, told key by key, and what an answer that fits
its schema says about a call. The tables of status tokens are those of the connector's
documentation. A payload is taken in just when it fits the schema of its flow, and the
call after it is the one that the schema tells of.
-/

namespace PaymentConnector

namespace Object

variable {o : Object} {key : String}

/-- The text at a key, if there is one. -/
def text? (o : Object) (key : String) : Option String :=
  match o.get? key with
  | some (.str s) => some s
  | _ => none

def HasText (o : Object) (key : String) : Prop := ∃ s, o.get? key = some (.str s)

def MayHaveText (o : Object) (key : String) : Prop := o.IsVoid key ∨ o.HasText key

theorem text?_eq_some_iff {s : String} : o.text? key = some s ↔ o.get? key = some (.str s) := by
  unfold text?
  split
  · rename_i t h
    simp [h]
  · rename_i h
    simpa using h s

theorem text?_of_isVoid (h : o.IsVoid key) : o.text? key = none := by
  unfold text?
  rcases h with h | h
  · rw [h]
  · rw [h]

theorem required_text_eq_ok_iff {s : String} :
    o.required key readString = .ok s ↔ o.text? key = some s := by
  simp [required_eq_ok_iff, readString_eq_ok_iff, text?_eq_some_iff]

theorem exists_required_text : (∃ s, o.required key readString = .ok s) ↔ o.HasText key := by
  simp [required_text_eq_ok_iff, text?_eq_some_iff, HasText]

theorem optional_text_eq_ok_iff {a : Option String} :
    o.optional key readString = .ok a ↔ o.MayHaveText key ∧ a = o.text? key := by
  rw [optional_eq_ok_iff]
  constructor
  · rintro (⟨hvoid, rfl⟩ | ⟨j, s, hget, -, hread, rfl⟩)
    · exact ⟨Or.inl hvoid, (text?_of_isVoid hvoid).symm⟩
    · obtain rfl := readString_eq_ok_iff.mp hread
      exact ⟨Or.inr ⟨s, hget⟩, (text?_eq_some_iff.mpr hget).symm⟩
  · rintro ⟨hvoid | ⟨s, hget⟩, rfl⟩
    · exact Or.inl ⟨hvoid, text?_of_isVoid hvoid⟩
    · exact Or.inr ⟨.str s, s, hget, by simp, rfl, text?_eq_some_iff.mpr hget⟩

theorem exists_optional_text :
    (∃ a, o.optional key readString = .ok a) ↔ o.MayHaveText key := by
  simp [optional_text_eq_ok_iff]

/-! Status tokens -/

/-- The token of a status; where there is none, it counts as pending. -/
def statusToken (o : Object) : String := (o.text? "status").getD "PENDING"

/-- There is no status, or it is one of the tokens in a table. -/
def HasStatus {β : Type} (table : List (String × β)) (o : Object) : Prop :=
  o.get? "status" = none ∨
    ∃ s ∈ table.map Prod.fst, o.get? "status" = some (.str s)

/-- The URL at the key of a redirect inside the result of a 3-D Secure check. -/
def redirectUrl? (o : Object) : Option Url :=
  match o.get? "three_dsecure" with
  | some (.obj d) => (text? d "redirect_url").bind fun s => (Url.read s.toList).toOption
  | _ => none

/-- There is no such result, or it has no redirect or one to a URL that can be read. -/
def MayRedirect (o : Object) : Prop :=
  o.IsVoid "three_dsecure" ∨
    ∃ d : Object, o.get? "three_dsecure" = some (.obj d) ∧
      (d.IsVoid "redirect_url" ∨
        ∃ s u, d.get? "redirect_url" = some (.str s) ∧ Url.read s.toList = .ok u)

end Object

/-- What each payment status of the connector means for an attempt. -/
def paymentTable : List (String × AttemptStatus) :=
  [("AUTHORIZED", .authorized), ("VERIFIED", .authorized), ("PAID", .charged),
   ("PENDING", .authenticationPending), ("CANCELLED", .voided),
   ("REJECTED", .authenticationFailed)]

/-- What each refund status of the connector means for a refund. -/
def refundTable : List (String × RefundStatus) :=
  [("SUCCESS", .success), ("PENDING", .pending), ("REJECTED", .manualReview),
   ("CANCELLED", .failure)]

namespace Flow

/-- The schema of the answers in a flow. -/
def Accepts : Flow → Object → Prop
  | authorize, o =>
    o.HasText "id" ∧ o.HasStatus paymentTable ∧ o.MayHaveText "order_id" ∧ o.MayRedirect
  | capture, o => o.HasText "id" ∧ o.HasStatus paymentTable ∧ o.MayHaveText "order_id"
  | psync, o => o.HasText "id" ∧ o.HasStatus paymentTable ∧ o.MayHaveText "order_id"
  | void, o => o.HasText "order_id" ∧ o.HasStatus paymentTable
  | refund, o => o.HasText "id" ∧ o.HasStatus refundTable
  | rsync, o => o.HasText "id" ∧ o.HasStatus refundTable

end Flow

/-- What an answer says about a payment: the status it moves to and the reply, which names
the transaction by the text at `idKey` and nothing else but the order and the redirect. -/
structure PaymentReported (o : Object) (idKey : String) (url : Option Url)
    (status : AttemptStatus) (r : PaymentReply) : Prop where
  status : paymentTable.lookup o.statusToken = some status
  id : o.HasText idKey
  resource : r.resource = ⟨.connectorTransactionId, o.text? idKey⟩
  reference : r.referenceId = o.text? "order_id"
  redirection : r.redirection.map .ok = url.map fun u => RedirectForm.ofAddress u.text .get
  mandate : r.mandateReference = none
  metadata : r.connectorMetadata = none
  network : r.networkTransactionId = none
  incremental : r.incrementalAllowed = none
  charges : r.charges = none

structure RefundReported (o : Object) (r : RefundReply) : Prop where
  id : o.text? "id" = some r.connectorRefundId
  status : refundTable.lookup o.statusToken = some r.status

/-- What an answer in a flow says: the status after the one before, and the reply. -/
def Flow.Reported : (flow : Flow) → Object → (before after : AttemptStatus) → flow.Reply → Prop
  | authorize, o, _, after, r => PaymentReported o "id" o.redirectUrl? after r
  | capture, o, _, after, r => PaymentReported o "id" none after r
  | psync, o, _, after, r => PaymentReported o "id" none after r
  | void, o, _, after, r => PaymentReported o "order_id" none after r
  | refund, o, before, after, r => after = before ∧ RefundReported o r
  | rsync, o, before, after, r => after = before ∧ RefundReported o r

/-! Reading the parts of an answer -/

namespace Vocabulary

instance : Lawful Wire.PaymentStatus := ⟨by intro a; cases a <;> rfl⟩

instance : Lawful Wire.RefundToken := ⟨by intro a; cases a <;> rfl⟩

theorem token_injective {α : Type} [Vocabulary α] [Lawful α] {a b : α}
    (h : token a = token b) : a = b := by
  have ha := Lawful.ofToken?_token a
  rw [h, Lawful.ofToken?_token b] at ha
  exact (Option.some.inj ha).symm

/-- A table has the tokens of a vocabulary, each with its meaning. -/
structure Tabulates {α β : Type} [Vocabulary α] (table : List (String × β)) (meaning : α → β) :
    Prop where
  lookup_token : ∀ a, table.lookup (token a) = some (meaning a)
  mem_keys_iff : ∀ s, s ∈ table.map Prod.fst ↔ ∃ a : α, token a = s

theorem tabulates_paymentTable : Tabulates paymentTable Wire.PaymentStatus.attempt where
  lookup_token a := by cases a <;> rfl
  mem_keys_iff s := by
    constructor
    · intro h
      simp only [paymentTable, List.map_cons, List.map_nil, List.mem_cons, List.not_mem_nil,
        or_false] at h
      rcases h with rfl | rfl | rfl | rfl | rfl | rfl
      · exact ⟨.authorized, rfl⟩
      · exact ⟨.verified, rfl⟩
      · exact ⟨.paid, rfl⟩
      · exact ⟨.pending, rfl⟩
      · exact ⟨.cancelled, rfl⟩
      · exact ⟨.rejected, rfl⟩
    · rintro ⟨a, rfl⟩
      cases a <;> decide

theorem tabulates_refundTable : Tabulates refundTable Wire.RefundToken.refund where
  lookup_token a := by cases a <;> rfl
  mem_keys_iff s := by
    constructor
    · intro h
      simp only [refundTable, List.map_cons, List.map_nil, List.mem_cons, List.not_mem_nil,
        or_false] at h
      rcases h with rfl | rfl | rfl | rfl
      · exact ⟨.success, rfl⟩
      · exact ⟨.pending, rfl⟩
      · exact ⟨.rejected, rfl⟩
      · exact ⟨.cancelled, rfl⟩
    · rintro ⟨a, rfl⟩
      cases a <;> decide

end Vocabulary

namespace Object

open Vocabulary (Lawful Tabulates)

variable {α β : Type} [Vocabulary α] [Lawful α] {table : List (String × β)} {meaning : α → β}
variable {o : Object}

theorem statusToken_of_none (h : o.get? "status" = none) : o.statusToken = "PENDING" := by
  simp [statusToken, text?, h]

theorem statusToken_of_some {s : String} (h : o.get? "status" = some (.str s)) :
    o.statusToken = s := by
  simp [statusToken, text?, h]

/-- A status is read just when it is absent or in the table, and then under its token. -/
theorem defaulted_status_eq_ok_iff (htable : Tabulates table meaning) {pending a : α}
    (hpending : token pending = "PENDING") :
    o.defaulted "status" pending (Vocabulary.read α) = .ok a ↔
      o.HasStatus table ∧ o.statusToken = token a := by
  rw [defaulted_eq_ok_iff]
  constructor
  · rintro (⟨hnone, rfl⟩ | ⟨j, hget, hread⟩)
    · exact ⟨Or.inl hnone, (statusToken_of_none hnone).trans hpending.symm⟩
    · obtain rfl := Vocabulary.read_eq_ok_iff.mp hread
      exact ⟨Or.inr ⟨token a, (htable.mem_keys_iff _).mpr ⟨a, rfl⟩, hget⟩,
        statusToken_of_some hget⟩
  · rintro ⟨hnone | ⟨s, -, hget⟩, htoken⟩
    · rw [statusToken_of_none hnone, ← hpending] at htoken
      exact Or.inl ⟨hnone, (Vocabulary.token_injective htoken).symm⟩
    · rw [statusToken_of_some hget] at htoken
      exact Or.inr ⟨.str s, hget, Vocabulary.read_eq_ok_iff.mpr (congrArg Json.str htoken)⟩

theorem exists_defaulted_status (htable : Tabulates table meaning) {pending : α}
    (hpending : token pending = "PENDING") :
    (∃ a, o.defaulted "status" pending (Vocabulary.read α) = .ok a) ↔ o.HasStatus table := by
  simp only [defaulted_status_eq_ok_iff htable hpending]
  constructor
  · rintro ⟨-, h, -⟩
    exact h
  · intro h
    rcases h with hnone | ⟨s, hs, hget⟩
    · exact ⟨pending, Or.inl hnone, (statusToken_of_none hnone).trans hpending.symm⟩
    · obtain ⟨a, rfl⟩ := (htable.mem_keys_iff s).mp hs
      exact ⟨a, Or.inr ⟨token a, hs, hget⟩, statusToken_of_some hget⟩

theorem lookup_statusToken (htable : Tabulates table meaning) {pending a : α}
    (hpending : token pending = "PENDING")
    (h : o.defaulted "status" pending (Vocabulary.read α) = .ok a) :
    table.lookup o.statusToken = some (meaning a) := by
  rw [((defaulted_status_eq_ok_iff htable hpending).mp h).2, htable.lookup_token]

theorem readUrl_str_eq_ok_iff {s : String} {u : Url} :
    readUrl (.str s) = .ok u ↔ Url.read s.toList = .ok u := by
  cases h : Url.read s.toList with
  | ok v => simp [readUrl, h]
  | error e => simp [readUrl, h, Checked.fail]

theorem exists_optional_url {key : String} :
    (∃ u, o.optional key readUrl = .ok u) ↔
      o.IsVoid key ∨ ∃ s u, o.get? key = some (.str s) ∧ Url.read s.toList = .ok u := by
  constructor
  · rintro ⟨u, hu⟩
    rcases optional_eq_ok_iff.mp hu with ⟨hvoid, -⟩ | ⟨j, v, hget, -, hread, -⟩
    · exact Or.inl hvoid
    · obtain ⟨s, rfl, hs⟩ := read_of_readUrl hread
      exact Or.inr ⟨s, v, hget, hs⟩
  · rintro (hvoid | ⟨s, u, hget, hread⟩)
    · exact ⟨none, optional_of_isVoid hvoid⟩
    · refine ⟨some u, optional_eq_ok_iff.mpr (Or.inr ⟨.str s, u, hget, by simp, ?_, rfl⟩)⟩
      exact readUrl_str_eq_ok_iff.mpr hread

theorem exists_optional_threeDs :
    (∃ t, o.optional "three_dsecure" Wire.ThreeDsResult.read = .ok t) ↔ o.MayRedirect := by
  constructor
  · rintro ⟨t, ht⟩
    rcases optional_eq_ok_iff.mp ht with ⟨hvoid, -⟩ | ⟨j, v, hget, -, hread, -⟩
    · exact Or.inl hvoid
    · obtain ⟨d, rfl, hurl⟩ := Wire.ThreeDsResult.exists_of_read hread
      exact Or.inr ⟨d, hget, exists_optional_url.mp ⟨_, hurl⟩⟩
  · rintro (hvoid | ⟨d, hget, hurl⟩)
    · exact ⟨none, optional_of_isVoid hvoid⟩
    · obtain ⟨u, hu⟩ := exists_optional_url.mpr hurl
      have hread : Wire.ThreeDsResult.read (.obj d) = .ok ⟨u⟩ :=
        Checked.map_eq_ok_iff.mpr ⟨u, hu, rfl⟩
      exact ⟨some ⟨u⟩, optional_eq_ok_iff.mpr (Or.inr ⟨.obj d, ⟨u⟩, hget, by simp, hread, rfl⟩)⟩

/-- The URL of a redirect is the one that is read with the result. -/
theorem redirectUrl?_eq {t : Option Wire.ThreeDsResult}
    (h : o.optional "three_dsecure" Wire.ThreeDsResult.read = .ok t) :
    t.bind (·.redirectUrl) = o.redirectUrl? := by
  unfold redirectUrl?
  rcases optional_eq_ok_iff.mp h with ⟨hnone | hnull, rfl⟩ | ⟨j, v, hget, -, hread, rfl⟩
  · rw [hnone]
    rfl
  · rw [hnull]
    rfl
  · obtain ⟨d, rfl, hurl⟩ := Wire.ThreeDsResult.exists_of_read hread
    rw [hget]
    rcases optional_eq_ok_iff.mp hurl with ⟨hvoid, hnone⟩ | ⟨k, u, hk, -, hu, hsome⟩
    · simp [text?_of_isVoid hvoid, hnone]
    · obtain ⟨s, rfl, hs⟩ := read_of_readUrl hu
      simp [text?_eq_some_iff.mpr hk, hs, hsome, Except.toOption]

theorem exists_readStatus : (∃ s, Wire.readStatus o = .ok s) ↔ o.HasStatus paymentTable :=
  exists_defaulted_status Vocabulary.tabulates_paymentTable rfl

theorem lookup_of_readStatus {s : Wire.PaymentStatus} (h : Wire.readStatus o = .ok s) :
    paymentTable.lookup o.statusToken = some s.attempt :=
  lookup_statusToken Vocabulary.tabulates_paymentTable rfl h

theorem exists_refundStatus :
    (∃ s, o.defaulted "status" Wire.RefundToken.pending (Vocabulary.read Wire.RefundToken) =
      .ok s) ↔ o.HasStatus refundTable :=
  exists_defaulted_status Vocabulary.tabulates_refundTable rfl

end Object

/-! Answers -/

theorem paymentReported_ofTransaction {o : Object} {idKey id : String} {order : Option String}
    {redirection : Option RedirectForm} {url : Option Url} {status : Wire.PaymentStatus}
    (hstatus : Wire.readStatus o = .ok status) (hid : o.text? idKey = some id)
    (horder : o.text? "order_id" = order)
    (hredirection : redirection.map .ok = url.map fun u => RedirectForm.ofAddress u.text .get) :
    PaymentReported o idKey url status.attempt (.ofTransaction id order redirection) where
  status := Object.lookup_of_readStatus hstatus
  id := ⟨id, Object.text?_eq_some_iff.mp hid⟩
  resource := by rw [hid]; rfl
  reference := horder.symm
  redirection := hredirection
  mandate := rfl
  metadata := rfl
  network := rfl
  incremental := rfl
  charges := rfl

namespace Flow

/-- Two kinds of answers have a status, an identifier and an order, and differ in name only. -/
theorem exists_statusIdOrder {γ : Type} (o : Object)
    (make : Wire.PaymentStatus → String → Option String → γ) :
    (∃ r, (make <$> Wire.readStatus o <*> o.required "id" readString
      <*> o.optional "order_id" readString) = .ok r) ↔
        o.HasText "id" ∧ o.HasStatus paymentTable ∧ o.MayHaveText "order_id" := by
  simp only [Checked.map_eq_map, Checked.seq_eq_app, Checked.exists_app_eq_ok_iff,
    Checked.exists_map_eq_ok_iff, Object.exists_required_text, Object.exists_optional_text,
    Object.exists_readStatus, and_assoc, and_left_comm]

theorem of_statusIdOrder {γ : Type} {o : Object}
    {make : Wire.PaymentStatus → String → Option String → γ} {r : γ}
    (h : (make <$> Wire.readStatus o <*> o.required "id" readString
      <*> o.optional "order_id" readString) = .ok r) :
    ∃ status id order, Wire.readStatus o = .ok status ∧ o.text? "id" = some id ∧
      o.text? "order_id" = order ∧ make status id order = r := by
  simp only [Checked.map_eq_map, Checked.seq_eq_app, Checked.app_eq_ok_iff,
    Checked.map_eq_ok_iff] at h
  obtain ⟨-, order, ⟨-, id, ⟨status, hstatus, rfl⟩, hid, rfl⟩, horder, rfl⟩ := h
  exact ⟨status, id, order, hstatus, Object.required_text_eq_ok_iff.mp hid,
    (Object.optional_text_eq_ok_iff.mp horder).2.symm, rfl⟩

theorem exists_readPayment (o : Object) :
    (∃ r, Wire.PaymentResponse.read (.obj o) = .ok r) ↔ authorize.Accepts o := by
  simp only [Wire.PaymentResponse.read, Reader.model, Reader.object, Checked.map_eq_map,
    Checked.seq_eq_app, Checked.exists_app_eq_ok_iff, Checked.exists_map_eq_ok_iff,
    Object.exists_required_text, Object.exists_optional_text, Object.exists_optional_threeDs,
    Object.exists_readStatus, Accepts]
  constructor
  · rintro ⟨⟨⟨hstatus, hid⟩, hthree⟩, horder⟩
    exact ⟨hid, hstatus, horder, hthree⟩
  · rintro ⟨hid, hstatus, horder, hthree⟩
    exact ⟨⟨⟨hstatus, hid⟩, hthree⟩, horder⟩

theorem exists_readCancel (o : Object) :
    (∃ r, Wire.CancelResponse.read (.obj o) = .ok r) ↔ void.Accepts o := by
  simp only [Wire.CancelResponse.read, Reader.model, Reader.object, Checked.map_eq_map,
    Checked.seq_eq_app, Checked.exists_app_eq_ok_iff, Checked.exists_map_eq_ok_iff,
    Object.exists_required_text, Object.exists_readStatus, Accepts, and_comm]

theorem exists_readRefund (o : Object) :
    (∃ r, Wire.RefundResponse.read (.obj o) = .ok r) ↔
      o.HasText "id" ∧ o.HasStatus refundTable := by
  simp only [Wire.RefundResponse.read, Reader.model, Reader.object, Checked.map_eq_map,
    Checked.seq_eq_app, Checked.exists_app_eq_ok_iff, Checked.exists_map_eq_ok_iff,
    Object.exists_required_text, Object.exists_refundStatus]

/-- The schema of a flow accepts what the flow can read. -/
theorem exists_readAnswer_iff (flow : Flow) (o : Object) :
    (∃ a, flow.readAnswer (.obj o) = .ok a) ↔ flow.Accepts o := by
  cases flow with
  | authorize => exact exists_readPayment o
  | capture => exact exists_statusIdOrder o Wire.CaptureResponse.mk
  | void => exact exists_readCancel o
  | psync => exact exists_statusIdOrder o Wire.SyncResponse.mk
  | refund => exact exists_readRefund o
  | rsync => exact exists_readRefund o

theorem reported_refund {o : Object} {r : Wire.RefundResponse}
    (h : Wire.RefundResponse.read (.obj o) = .ok r) : RefundReported o r.reply := by
  simp only [Wire.RefundResponse.read, Reader.model, Reader.object, Checked.map_eq_map,
    Checked.seq_eq_app, Checked.app_eq_ok_iff, Checked.map_eq_ok_iff] at h
  obtain ⟨-, status, ⟨id, hid, rfl⟩, hstatus, rfl⟩ := h
  exact ⟨Object.required_text_eq_ok_iff.mp hid,
    Object.lookup_statusToken Vocabulary.tabulates_refundTable rfl hstatus⟩

/-- The settlement of an answer is what the schema says about it. -/
theorem reported_of_settle (flow : Flow) {o : Object} {a : flow.Answer} {s : Settlement flow}
    (ha : flow.readAnswer (.obj o) = .ok a) (hs : flow.settle a = .ok s) (before : AttemptStatus) :
    flow.Reported o before (s.status.getD before) s.reply := by
  cases flow with
  | authorize =>
    obtain ⟨hstatus, hid, hthree, horder⟩ := Wire.PaymentResponse.read_obj_eq_ok_iff.mp ha
    have hredirection := Wire.PaymentResponse.redirection_of_read ha
    have hforms := Wire.PaymentResponse.redirectForm_map_ok ha
    rw [Object.redirectUrl?_eq hthree] at hredirection hforms
    simp only [settle, Wire.PaymentResponse.settle, hredirection] at hs
    obtain rfl := Except.ok.inj hs
    exact paymentReported_ofTransaction hstatus (Object.required_text_eq_ok_iff.mp hid)
      (Object.optional_text_eq_ok_iff.mp horder).2.symm hforms
  | capture =>
    obtain ⟨status, id, order, hstatus, hid, horder, rfl⟩ := of_statusIdOrder ha
    obtain rfl := Except.ok.inj hs
    exact paymentReported_ofTransaction hstatus hid horder rfl
  | void =>
    simp only [readAnswer, Wire.CancelResponse.read, Reader.model, Reader.object,
      Checked.map_eq_map, Checked.seq_eq_app, Checked.app_eq_ok_iff, Checked.map_eq_ok_iff] at ha
    obtain ⟨-, order, ⟨status, hstatus, rfl⟩, horder, rfl⟩ := ha
    obtain rfl := Except.ok.inj hs
    exact paymentReported_ofTransaction hstatus (Object.required_text_eq_ok_iff.mp horder)
      (Object.required_text_eq_ok_iff.mp horder) rfl
  | psync =>
    obtain ⟨status, id, order, hstatus, hid, horder, rfl⟩ := of_statusIdOrder ha
    obtain rfl := Except.ok.inj hs
    exact paymentReported_ofTransaction hstatus hid horder rfl
  | refund =>
    obtain rfl := Except.ok.inj hs
    exact ⟨rfl, reported_refund ha⟩
  | rsync =>
    obtain rfl := Except.ok.inj hs
    exact ⟨rfl, reported_refund ha⟩

end Flow

/-- An object is taken in just when it fits the schema of the flow. If it does not, it is
unreadable, which one warning tells. If it does, status and response of the call
become what the schema says, and nothing else of the call changes. -/
theorem Call.respond_object {flow : Flow} (c : Call flow) (o : Object) :
    ((c.respond (.value (.obj o))).value =
        .error (.refused ⟨.unreadable flow.answerName, some "Dlocal"⟩) ↔ ¬ flow.Accepts o) ∧
      (¬ flow.Accepts o → ∃ count : Nat,
        (c.respond (.value (.obj o))).log =
          [⟨.warning, .payloads, "Failed to deserialize " ++ flow.answerName ++ ": "
            ++ toString count ++ " error(s)"⟩]) ∧
      (flow.Accepts o → ∃ status reply,
        flow.Reported o c.envelope.status status reply ∧
          (c.respond (.value (.obj o))).value = .ok
            { envelope := { c.envelope with status := status }
              request := c.request
              response := some (.reply reply) }) := by
  have hread : Wire.Payload.read flow.readAnswer (.value (.obj o)) = flow.readAnswer (.obj o) := rfl
  rcases (flow.readAnswer (.obj o)).eq_ok_or_failed with ⟨a, ha⟩ | ⟨faults, hfaults⟩
  · have haccepts := (flow.exists_readAnswer_iff o).mp ⟨a, ha⟩
    obtain ⟨s, hs⟩ := flow.exists_settle ha
    have hanswer := flow.answer_of_ok (hread.trans ha) hs
    have hvalue : (c.respond (.value (.obj o))).value = .ok (c.settle s) := by
      rw [respond, hanswer]
      rfl
    refine ⟨?_, fun h => absurd haccepts h, fun _ => ?_⟩
    · simp [hvalue, haccepts]
    · exact ⟨_, _, flow.reported_of_settle ha hs c.envelope.status, by rw [hvalue, settle_eq]⟩
  · have hrejects : ¬ flow.Accepts o := by
      intro h
      obtain ⟨a, ha⟩ := (flow.exists_readAnswer_iff o).mpr h
      rw [hfaults] at ha
      exact absurd ha (by simp)
    have hanswer := flow.answer_of_failed (hread.trans hfaults)
    refine ⟨?_, fun _ => ⟨faults.length, ?_⟩, fun h => absurd h hrejects⟩
    · simp only [hrejects, not_false_eq_true, iff_true]
      rw [respond, hanswer]
      rfl
    · rw [respond, hanswer]
      rfl

end PaymentConnector
