import PaymentConnector.Connector.Request
import PaymentConnector.Proofs.AnswerSchemas
import PaymentConnector.Proofs.CarriedObjects

/-!
Identifiers that answers hand back, in the calls that follow. What an answer about a payment
names can be asked about in the next call under the same name, and so can what an answer
about a refund names. An empty name counts as none: nothing can be asked about a payment
without a name, and a refund without a name is asked about under the merchant's own.
-/

namespace PaymentConnector

/-- The payment of a reply can be asked about as `id`, unless that is empty. -/
def PaymentReply.FollowedUp (r : PaymentReply) (id : String) : Prop :=
  ∀ (sync : Call .psync) (amount : Json), sync.request.transactionId = r.resource →
    (id ≠ "" → (sync.build amount).value = .ok ⟨id⟩) ∧
      (id = "" → (sync.build amount).value =
        .error (.refused ⟨.missingTransactionId, some "Dlocal"⟩))

/-- The refund of a reply is asked about as `id`, or under the merchant's name if that is empty. -/
def RefundReply.FollowedUp (r : RefundReply) (id : String) : Prop :=
  ∀ (sync : Call .rsync) (amount : Json),
    sync.request.connectorRefundId = some r.connectorRefundId →
      (id ≠ "" → (sync.build amount).value = .ok ⟨id⟩) ∧
        (id = "" → (sync.build amount).value = .ok ⟨sync.request.refundId⟩)

namespace Flow

/-- The key at which an answer names what it is about. -/
def idKey : Flow → String
  | void => "order_id"
  | _ => "id"

/-- What a reply is about is asked for as `id` in the next call. -/
def FollowedUp : (flow : Flow) → flow.Reply → String → Prop
  | authorize => PaymentReply.FollowedUp
  | capture => PaymentReply.FollowedUp
  | void => PaymentReply.FollowedUp
  | psync => PaymentReply.FollowedUp
  | refund => RefundReply.FollowedUp
  | rsync => RefundReply.FollowedUp

end Flow

namespace Call

theorem syncBody_of_resource {sync : Call .psync} {id : String}
    (h : sync.request.transactionId = ⟨.connectorTransactionId, some id⟩) :
    sync.syncBody =
      if id = "" then .error (.refused ErrorCause.missingTransactionId.named) else .ok ⟨id⟩ := by
  unfold syncBody
  rw [h]
  by_cases hid : id = ""
  · simp [ResourceId.transactionId?, hid]
  · simp [ResourceId.transactionId?, hid]

theorem refundSyncBody_of_connectorRefundId {sync : Call .rsync} {id : String}
    (h : sync.request.connectorRefundId = some id) :
    sync.refundSyncBody = ⟨if id = "" then sync.request.refundId else id⟩ := by
  unfold refundSyncBody
  rw [h]
  by_cases hid : id = ""
  · simp [hid]
  · simp [hid]

end Call

theorem PaymentReply.followedUp {r : PaymentReply} {id : String}
    (h : r.resource = ⟨.connectorTransactionId, some id⟩) : r.FollowedUp id := by
  intro sync amount hsync
  have hbody := Call.syncBody_of_resource (hsync.trans h)
  constructor
  · intro hid
    rw [if_neg hid] at hbody
    exact hbody
  · intro hid
    rw [if_pos hid] at hbody
    exact hbody

theorem RefundReply.followedUp (r : RefundReply) : r.FollowedUp r.connectorRefundId := by
  intro sync amount hsync
  have hbody := Call.refundSyncBody_of_connectorRefundId hsync
  constructor
  · intro hid
    rw [if_neg hid] at hbody
    exact congrArg Except.ok hbody
  · intro hid
    rw [if_pos hid] at hbody
    exact congrArg Except.ok hbody

namespace Flow

theorem exists_followedUp_of_payment {o : Object} {key : String} {url : Option Url}
    {status : AttemptStatus} {r : PaymentReply} (h : PaymentReported o key url status r) :
    ∃ id, o.text? key = some id ∧ r.FollowedUp id := by
  obtain ⟨id, hid⟩ := h.id
  have htext := Object.text?_eq_some_iff.mpr hid
  exact ⟨id, htext, PaymentReply.followedUp (h.resource.trans (by rw [htext]))⟩

/-- What an answer says about a call is followed up under the name at the key of its flow. -/
theorem exists_followedUp_of_reported (flow : Flow) {o : Object} {before after : AttemptStatus}
    {r : flow.Reply} (h : flow.Reported o before after r) :
    ∃ id, o.text? flow.idKey = some id ∧ flow.FollowedUp r id := by
  cases flow with
  | authorize => exact exists_followedUp_of_payment h
  | capture => exact exists_followedUp_of_payment h
  | void => exact exists_followedUp_of_payment h
  | psync => exact exists_followedUp_of_payment h
  | refund => exact ⟨_, h.2.id, RefundReply.followedUp r⟩
  | rsync => exact ⟨_, h.2.id, RefundReply.followedUp r⟩

end Flow

namespace Call

/-- A response that is taken in carries an identifier, and the next call asks for that very
identifier if it is made with what the reply names, unless the identifier is empty. -/
theorem exists_followedUp_of_respond {flow : Flow} (c : Call flow) {p : Wire.Payload}
    {c' : Call flow} (h : (c.respond p).value = .ok c') :
    ∃ o id reply, p.object? = some o ∧ o.text? flow.idKey = some id ∧
      c'.response = some (.reply reply) ∧ flow.FollowedUp reply id := by
  obtain ⟨o, a, s, ho, ha, hs, rfl⟩ := respond_eq_ok_iff_of_object.mp h
  have hreported := flow.reported_of_settle ha hs c.envelope.status
  obtain ⟨id, hid, hfollowed⟩ := flow.exists_followedUp_of_reported hreported
  exact ⟨o, id, s.reply, ho, hid, by rw [settle_eq], hfollowed⟩

/-- The question about a payment under a name. -/
def inquiry (resource : ResourceId) : Call .psync where
  envelope := cancellation.envelope
  request := ⟨resource⟩
  response := none

/-- The question about a refund that the connector has a name for, or has none. -/
def refundInquiry (connectorRefundId : Option String) : Call .rsync where
  envelope := cancellation.envelope
  request := ⟨"own", "t", 5, "USD", connectorRefundId, none⟩
  response := none

theorem cancellation_followedUp :
    (cancellation.respond (.value (.obj cancelled))).value = .ok cancelledCall ∧
      ∃ reply : PaymentReply, cancelledCall.response = some (.reply reply) ∧
        ((inquiry reply.resource).build .null).value = .ok ⟨"Ärger\n\"🂡\""⟩ := by
  have hrespond : (cancellation.respond (.value (.obj cancelled))).value = .ok cancelledCall := rfl
  obtain ⟨o, id, reply, ho, hid, hreply, hfollowed⟩ :=
    cancellation.exists_followedUp_of_respond hrespond
  obtain rfl : cancelled = o := Option.some.inj ho
  obtain rfl : "Ärger\n\"🂡\"" = id := Option.some.inj hid
  exact ⟨hrespond, reply, hreply, (hfollowed (inquiry reply.resource) .null rfl).1 (by decide)⟩

/-- An answer with an empty identifier. -/
def unnamedAnswer : Wire.Payload := .value (.obj [("id", .str "")])

/-- An empty identifier is taken in, but the next call does not ask for it. -/
theorem unnamedAnswer_notFollowedUp :
    (∃ c' reply, ((inquiry (.ofTransaction "t")).respond unnamedAnswer).value = .ok c' ∧
        c'.response = some (.reply reply) ∧
        ((inquiry reply.resource).build .null).value =
          .error (.refused ⟨.missingTransactionId, some "Dlocal"⟩)) ∧
      ∃ c' reply, ((refundInquiry none).respond unnamedAnswer).value = .ok c' ∧
        c'.response = some (.reply reply) ∧
        ((refundInquiry (some reply.connectorRefundId)).build .null).value = .ok ⟨"own"⟩ := by
  exact ⟨⟨_, _, rfl, rfl, rfl⟩, _, _, rfl, rfl, rfl⟩

end Call

end PaymentConnector
