import PaymentConnector.Proofs.InputParts

/-!
Requests, key by key. What a request is read from is told for each of its fields apart, so that
one field can be replaced and the others stay.
-/

namespace PaymentConnector

theorem AuthorizeData.read_obj_eq_ok_iff {o : Object} {d : AuthorizeData} :
    read (.obj o) = .ok d ↔
      o.required "amount" readNatural = .ok d.amount ∧
        o.required "currency" readCurrency = .ok d.currency ∧
        o.required "payment_method_data" PaymentMethod.read = .ok d.method ∧
        o.optional "capture_method" (Vocabulary.read CaptureMethod) = .ok d.captureMethod ∧
        o.optional "email" Secret.read = .ok d.email ∧
        o.optional "mandate_id" Mandate.read = .ok d.mandate ∧
        o.optional "router_return_url" readString = .ok d.returnUrl := by
  simp only [read, Reader.model, Reader.object, Checked.map_eq_map, Checked.seq_eq_app,
    Checked.app_eq_ok_iff, Checked.map_eq_ok_iff]
  constructor
  · rintro ⟨-, returnUrl, ⟨-, mandate, ⟨-, email, ⟨-, capture, ⟨-, method, ⟨-, currency,
      ⟨amount, hamount, rfl⟩, hcurrency, rfl⟩, hmethod, rfl⟩, hcapture, rfl⟩, hemail, rfl⟩,
      hmandate, rfl⟩, hreturn, rfl⟩
    exact ⟨hamount, hcurrency, hmethod, hcapture, hemail, hmandate, hreturn⟩
  · rintro ⟨hamount, hcurrency, hmethod, hcapture, hemail, hmandate, hreturn⟩
    exact ⟨_, _, ⟨_, _, ⟨_, _, ⟨_, _, ⟨_, _, ⟨_, _, ⟨_, hamount, rfl⟩, hcurrency, rfl⟩, hmethod,
      rfl⟩, hcapture, rfl⟩, hemail, rfl⟩, hmandate, rfl⟩, hreturn, rfl⟩

theorem CaptureData.read_obj_eq_ok_iff {o : Object} {d : CaptureData} :
    read (.obj o) = .ok d ↔
      o.required "amount_to_capture" readNatural = .ok d.amount ∧
        o.required "currency" readCurrency = .ok d.currency ∧
        o.required "connector_transaction_id" readString = .ok d.transactionId := by
  simp only [read, Reader.model, Reader.object, Checked.map_eq_map, Checked.seq_eq_app,
    Checked.app_eq_ok_iff, Checked.map_eq_ok_iff]
  constructor
  · rintro ⟨-, id, ⟨-, currency, ⟨amount, hamount, rfl⟩, hcurrency, rfl⟩, hid, rfl⟩
    exact ⟨hamount, hcurrency, hid⟩
  · rintro ⟨hamount, hcurrency, hid⟩
    exact ⟨_, _, ⟨_, _, ⟨_, hamount, rfl⟩, hcurrency, rfl⟩, hid, rfl⟩

theorem RefundData.read_obj_eq_ok_iff {o : Object} {d : RefundData} :
    read (.obj o) = .ok d ↔
      o.required "refund_id" readString = .ok d.refundId ∧
        o.required "connector_transaction_id" readString = .ok d.transactionId ∧
        o.required "refund_amount" readNatural = .ok d.amount ∧
        o.required "currency" readCurrency = .ok d.currency ∧
        o.optional "connector_refund_id" readString = .ok d.connectorRefundId ∧
        o.optional "reason" readString = .ok d.reason := by
  simp only [read, Reader.model, Reader.object, Checked.map_eq_map, Checked.seq_eq_app,
    Checked.app_eq_ok_iff, Checked.map_eq_ok_iff]
  constructor
  · rintro ⟨-, reason, ⟨-, connectorId, ⟨-, currency, ⟨-, amount, ⟨-, transaction,
      ⟨refund, hrefund, rfl⟩, htransaction, rfl⟩, hamount, rfl⟩, hcurrency, rfl⟩, hconnector, rfl⟩,
      hreason, rfl⟩
    exact ⟨hrefund, htransaction, hamount, hcurrency, hconnector, hreason⟩
  · rintro ⟨hrefund, htransaction, hamount, hcurrency, hconnector, hreason⟩
    exact ⟨_, _, ⟨_, _, ⟨_, _, ⟨_, _, ⟨_, _, ⟨_, hrefund, rfl⟩, htransaction, rfl⟩, hamount, rfl⟩,
      hcurrency, rfl⟩, hconnector, rfl⟩, hreason, rfl⟩

end PaymentConnector
