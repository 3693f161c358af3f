import PaymentConnector.Proofs.AuthorizationBodies
import PaymentConnector.Proofs.WritableDumps

/-!
Requests that can be written. A request holds no fractional number, and its whole numbers come
from the call and from the amount that was given. So the request of a call that can be dumped is
written as a text that stands for it and for nothing else.
-/

namespace PaymentConnector

open Json

variable {n : Nat}

namespace Json

/-- A value that is written as a text that stands for it: it is writable, and has no fractional
number, whose digits are chosen by the writer. -/
structure Plain (n : Nat) (j : Json) : Prop where
  writable : j.Writable n
  floatFree : j.FloatFree

namespace Plain

@[simp] theorem bool (b : Bool) : (Json.bool b).Plain n := by
  refine ⟨.bool b, fun x hx => ?_⟩
  simp at hx

@[simp] theorem str (s : String) : (Json.str s).Plain n := by
  refine ⟨.str s, fun x hx => ?_⟩
  simp at hx

theorem int {i : Int} (h : FitsDigits i) : (Json.int i).Plain n := by
  refine ⟨Writable.int_iff.mpr h, fun x hx => ?_⟩
  simp at hx

theorem obj {entries : List (String × Json)} (hkeys : (entries.map Prod.fst).Nodup)
    (h : ∀ e ∈ entries, e.2.Plain n) : (Json.obj entries).Plain (n + 1) := by
  refine ⟨Writable.obj_iff.mpr ⟨hkeys, fun e he => (h e he).writable⟩, fun x hx => ?_⟩
  rcases Part.obj_iff.mp hx with heq | ⟨e, he, hpart⟩
  · exact absurd heq (by simp)
  · exact (h e he).floatFree x hpart

theorem mono {m : Nat} {j : Json} (h : j.Plain n) (hle : n ≤ m) : j.Plain m :=
  ⟨h.writable.mono hle, h.floatFree⟩

/-- Fields that are there keep the order of the keys. -/
theorem keys_present (fields : List (String × Option Json)) :
    ((fields.filterMap fun (key, value) => value.map (key, ·)).map Prod.fst).Sublist
      (fields.map Prod.fst) := by
  induction fields with
  | nil => exact .slnil
  | cons e fields ih =>
    obtain ⟨key, value⟩ := e
    cases value with
    | none => exact ih.cons key
    | some j => exact ih.cons_cons key

theorem present {fields : List (String × Option Json)} (hkeys : (fields.map Prod.fst).Nodup)
    (h : ∀ e ∈ fields, ∀ j ∈ e.2, j.Plain n) : (Json.present fields).Plain (n + 1) := by
  apply obj
  · exact hkeys.sublist (keys_present fields)
  · intro e he
    obtain ⟨field, hfield, hvalue⟩ := List.mem_filterMap.mp he
    obtain ⟨j, hj, rfl⟩ := Option.map_eq_some_iff.mp hvalue
    exact h field hfield j hj

end Plain

end Json

namespace Wire

theorem Payer.plain_wire (p : Payer) : p.wire.Plain (n + 1) := by
  apply Plain.present
  · simp
  · simp [Secret.wire]

theorem Card.plain_wire (c : Card) : c.wire.Plain (n + 1) := by
  apply Plain.present
  · simp
  · simp [Secret.wire]

theorem ThreeDsDemand.plain_wire (d : ThreeDsDemand) : d.wire.Plain (n + 1) := by
  apply Plain.present
  · simp
  · simp

theorem PaymentRequest.plain_wire {r : PaymentRequest} (h : FitsDigits r.amount) :
    r.wire.Plain (n + 2) := by
  apply Plain.present
  · simp
  · simp [ofToken, Plain.int h, Payer.plain_wire, Card.plain_wire, ThreeDsDemand.plain_wire]

theorem CaptureRequest.plain_wire {r : CaptureRequest} (h : FitsDigits r.amount) :
    r.wire.Plain (n + 1) := by
  apply Plain.present
  · simp
  · simp [Plain.int h]

theorem RefundRequest.plain_wire (r : RefundRequest) : r.wire.Plain (n + 1) := by
  apply Plain.present
  · simp
  · simp

theorem CancelRequest.plain_wire (r : CancelRequest) : r.wire.Plain (n + 1) := by
  apply Plain.present
  · simp
  · simp

theorem SyncRequest.plain_wire (r : SyncRequest) : r.wire.Plain (n + 1) := by
  apply Plain.present
  · simp
  · simp

theorem RefundSyncRequest.plain_wire (r : RefundSyncRequest) : r.wire.Plain (n + 1) := by
  apply Plain.present
  · simp
  · simp

end Wire

theorem AuthorizeData.fitsDigits_amount {d : AuthorizeData} (h : d.tree.Writable n) :
    FitsDigits d.amount :=
  Writable.int_iff.mp (h.of_get? (show Object.get? _ "amount" = _ from rfl))

theorem CaptureData.fitsDigits_amount {d : CaptureData} (h : d.dump.Writable n) :
    FitsDigits d.amount :=
  Writable.int_iff.mp (h.of_get? (show Object.get? _ "amount_to_capture" = _ from rfl))

theorem RefundData.fitsDigits_amount {d : RefundData} (h : d.dump.Writable n) :
    FitsDigits d.amount :=
  Writable.int_iff.mp (h.of_get? (show Object.get? _ "refund_amount" = _ from rfl))

/-- Neither the amount of a request nor one that is given is too long. -/
theorem numbersFit_amountOr {own : Nat} {amount : Json} (hown : FitsDigits own)
    (hamount : amount.NumbersFit .digits) : (amountOr own amount).NumbersFit .digits := by
  unfold amountOr
  split
  · exact NumbersFit.int_iff.mpr hown
  · exact hamount

namespace Call

variable {flow : Flow} {c : Call flow} {amount : Json}

/-- The body of a call that can be shown is plain, whatever amount is given. -/
theorem plain_wireBody {b : flow.Body} (hc : c.tree.Writable (n + 4))
    (hamount : amount.NumbersFit .digits) (h : (c.build amount).value = .ok b) :
    (flow.wireBody b).Plain (n + 2) := by
  have hrequest := (writable_tree_iff.mp hc).1
  cases flow with
  | authorize =>
    obtain ⟨a, country, card, callback, minor, -, -, -, -, hminor, rfl⟩ := of_paymentBody h
    have hfits := numbersFit_amountOr (AuthorizeData.fitsDigits_amount hrequest) hamount
    exact Wire.PaymentRequest.plain_wire (fitsDigits_of_toInteger hfits hminor)
  | capture =>
    obtain rfl := Except.ok.inj h
    exact Wire.CaptureRequest.plain_wire (CaptureData.fitsDigits_amount hrequest)
  | void => exact Wire.CancelRequest.plain_wire b
  | psync => exact Wire.SyncRequest.plain_wire b
  | refund => exact Wire.RefundRequest.plain_wire b
  | rsync => exact Wire.RefundSyncRequest.plain_wire b

/-- A call that can be shown is not refused for too long an amount. -/
theorem Refuses.ne_limit {f : Failure} (h : Refuses c amount f) (hc : c.tree.Writable (n + 4))
    (hamount : amount.NumbersFit .digits) (l : Limit) : f ≠ .limit l := by
  have hrequest := (writable_tree_iff.mp hc).1
  cases h with
  | overlong hlong =>
    exact absurd (numbersFit_amountOr (RefundData.fitsDigits_amount hrequest) hamount) hlong
  | _ => simp

end Call

theorem Settings.plain_requestDump (s : Settings) {flow : Flow} {b : flow.Body}
    (h : (flow.wireBody b).Plain (n + 2)) : (s.requestDump b).Plain (n + 3) := by
  apply Plain.obj
  · simp
  · simp [ofToken, h]

end PaymentConnector
