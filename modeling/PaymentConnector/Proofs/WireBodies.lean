import PaymentConnector.Proofs.DumpedFields
import PaymentConnector.Wire.Request

/-!
Bodies and their dumps. The wire form of every record of a request is its dump without
the entries that hold null, at every depth. Reading the wire form gives the record back
with its secrets, and each kind of record has a key that no other kind has, so a wire
form tells both the kind and the record.
-/

namespace PaymentConnector

namespace Json

mutual

/-- A value without the entries of its objects that hold null, at every depth. -/
def withoutNulls : Json → Json
  | arr items => arr (itemsWithoutNulls items)
  | obj entries => obj (entriesWithoutNulls entries)
  | j => j

def itemsWithoutNulls : List Json → List Json
  | [] => []
  | j :: rest => withoutNulls j :: itemsWithoutNulls rest

def entriesWithoutNulls : List (String × Json) → List (String × Json)
  | [] => []
  | (_, null) :: rest => entriesWithoutNulls rest
  | (key, j) :: rest => (key, withoutNulls j) :: entriesWithoutNulls rest

end

theorem entriesWithoutNulls_cons {key : String} {j : Json} {rest : List (String × Json)}
    (h : j ≠ null) :
    entriesWithoutNulls ((key, j) :: rest) = (key, j.withoutNulls) :: entriesWithoutNulls rest := by
  cases j with
  | null => contradiction
  | _ => rfl

/-- An object of all fields, with a null for what is not there. -/
def shown (fields : List (String × Option Json)) : Json :=
  .obj (fields.map fun (key, value) => (key, value.getD null))

theorem ofOption_eq_getD {α : Type} (write : α → Json) (x : Option α) :
    ofOption write x = (x.map write).getD null := by
  cases x <;> rfl

/-- Without its nulls, an object of all fields is one of the fields that are there. -/
theorem withoutNulls_shown {fields : List (String × Option Json)}
    (h : ∀ e ∈ fields, e.2 ≠ some null) :
    (shown fields).withoutNulls =
      present (fields.map fun (key, value) => (key, value.map withoutNulls)) := by
  simp only [shown, withoutNulls, present, obj.injEq]
  induction fields with
  | nil => rfl
  | cons e rest ih =>
    obtain ⟨hfirst, hrest⟩ := List.forall_mem_cons.mp h
    obtain ⟨key, value⟩ := e
    cases value with
    | none => simpa [entriesWithoutNulls] using ih hrest
    | some j =>
      have hj : j ≠ null := fun hnull => hfirst (congrArg some hnull)
      simpa [entriesWithoutNulls_cons hj] using ih hrest

end Json

namespace Object

variable {α β : Type} {key other : String} {read : Reader α} {fields : List (String × Option Json)}

/-- The entries of the fields that are there. -/
def ofPresent (fields : List (String × Option Json)) : Object :=
  fields.filterMap fun (key, value) => value.map (key, ·)

theorem present_eq (fields : List (String × Option Json)) :
    Json.present fields = .obj (ofPresent fields) := rfl

@[simp] theorem ofPresent_cons_some {j : Json} :
    ofPresent ((key, some j) :: fields) = (key, j) :: ofPresent fields := rfl

@[simp] theorem ofPresent_cons_none : ofPresent ((key, none) :: fields) = ofPresent fields := rfl

@[simp] theorem get?_ofPresent_nil : get? (ofPresent []) key = none := by
  simp [ofPresent, get?]

@[simp] theorem get?_ofPresent_other {x : Option Json} (h : key ≠ other) :
    get? (ofPresent ((other, x) :: fields)) key = get? (ofPresent fields) key := by
  cases x with
  | none => rfl
  | some j => rw [ofPresent_cons_some, get?_cons_other h]

@[simp] theorem required_ofPresent_other {x : Option Json} (h : key ≠ other) :
    required (ofPresent ((other, x) :: fields)) key read =
      required (ofPresent fields) key read := by
  rw [required, required, get?_ofPresent_other h]

@[simp] theorem optional_ofPresent_other {x : Option Json} (h : key ≠ other) :
    optional (ofPresent ((other, x) :: fields)) key read =
      optional (ofPresent fields) key read := by
  rw [optional, optional, get?_ofPresent_other h]

@[simp] theorem defaulted_ofPresent_other {x : Option Json} {value : α} (h : key ≠ other) :
    defaulted (ofPresent ((other, x) :: fields)) key value read =
      defaulted (ofPresent fields) key value read := by
  rw [defaulted, defaulted, get?_ofPresent_other h]

/-- An optional field that is left out is read as absent, if no later field has its name. -/
theorem optional_ofPresent_map {write : α → Json} {x : Option α}
    (h : ∀ a, Restores read (write a) a) (hkey : get? (ofPresent fields) key = none) :
    optional (ofPresent ((key, x.map write) :: fields)) key read = .ok x := by
  cases x with
  | none => exact optional_of_isVoid (Or.inl hkey)
  | some a =>
    obtain ⟨hnull, hread⟩ := h a
    rw [Option.map_some, ofPresent_cons_some, optional_of_get? get?_cons_self hnull, hread]
    rfl

@[simp] theorem optional_ofPresent_text {x : Option String}
    (hkey : get? (ofPresent fields) key = none) :
    optional (ofPresent ((key, x.map .str) :: fields)) key readString = .ok x :=
  optional_ofPresent_map (fun _ => ⟨by simp, rfl⟩) hkey

end Object

@[simp] theorem readBool_bool (b : Bool) : readBool (.bool b) = .ok b := rfl

namespace Secret

theorem restores_wire (s : Secret) : Restores read s.wire s := ⟨by simp [wire], rfl⟩

@[simp] theorem read_wire (s : Secret) : read s.wire = .ok s := rfl

@[simp] theorem withoutNulls_wire (s : Secret) : s.wire.withoutNulls = s.wire := rfl

@[simp] theorem optional_ofPresent_secret {fields : List (String × Option Json)} {key : String}
    {x : Option Secret} (hkey : (Object.ofPresent fields).get? key = none) :
    (Object.ofPresent ((key, x.map wire) :: fields)).optional key read = .ok x :=
  Object.optional_ofPresent_map restores_wire hkey

end Secret

/-! The parts of an authorization -/

namespace Wire

open Json (present shown withoutNulls withoutNulls_shown)

instance : Vocabulary.Lawful MethodId := ⟨by intro a; cases a; rfl⟩

instance : Vocabulary.Lawful MethodFlow := ⟨by intro a; cases a <;> rfl⟩

namespace Payer

theorem withoutNulls_dump (p : Payer) : p.dump.withoutNulls = p.wire := by
  have hdump : p.dump = shown [
      ("name", p.name.map Secret.wire),
      ("email", p.email.map Secret.wire),
      ("document", some p.document.wire)] := by
    simp [dump, shown, Json.ofOption_eq_getD]
  rw [hdump, withoutNulls_shown (by simp [Secret.wire])]
  simp [wire, Function.comp_def]

theorem restores_wire (p : Payer) : Restores read p.wire p where
  ne_null := by simp [wire, present]
  read_eq := by simp [read, wire, Object.present_eq, Reader.model, Reader.object]

end Payer

namespace Card

theorem withoutNulls_dump (c : Card) : c.dump.withoutNulls = c.wire := by
  have hdump : c.dump = shown [
      ("holder_name", some c.holderName.wire),
      ("number", some c.number.wire),
      ("cvv", some c.code.wire),
      ("expiration_month", some c.expiryMonth.wire),
      ("expiration_year", some c.expiryYear.wire),
      ("capture", some (.str c.capture)),
      ("installments_id", c.installmentsId.map .str),
      ("installments", c.installments.map .str)] := by
    simp [dump, shown, Json.ofOption_eq_getD]
  rw [hdump, withoutNulls_shown (by simp [Secret.wire])]
  simp [wire, withoutNulls, Function.comp_def]

theorem restores_wire (c : Card) : Restores read c.wire c where
  ne_null := by simp [wire, present]
  read_eq := by simp [read, wire, Object.present_eq, Reader.model, Reader.object]

end Card

namespace ThreeDsDemand

theorem withoutNulls_dump (d : ThreeDsDemand) : d.dump.withoutNulls = d.wire := rfl

theorem restores_wire (d : ThreeDsDemand) : Restores read d.wire d := ⟨by simp [wire, present], rfl⟩

end ThreeDsDemand

namespace PaymentRequest

theorem withoutNulls_dump (r : PaymentRequest) : r.dump.withoutNulls = r.wire := by
  have hdump : r.dump = shown [
      ("amount", some (.int r.amount)),
      ("currency", some (.str r.currency)),
      ("country", some (.str r.country)),
      ("payment_method_id", some (.ofToken r.methodId)),
      ("payment_method_flow", some (.ofToken r.methodFlow)),
      ("payer", some r.payer.dump),
      ("card", r.card.map Card.dump),
      ("order_id", some (.str r.orderId)),
      ("three_dsecure", r.threeDs.map ThreeDsDemand.dump),
      ("callback_url", r.callbackUrl.map .str),
      ("description", r.description.map .str)] := by
    simp [dump, shown, Json.ofOption_eq_getD]
  rw [hdump, withoutNulls_shown (by simp [Json.ofToken, Payer.dump, Card.dump, ThreeDsDemand.dump])]
  simp [wire, withoutNulls, Json.ofToken, Function.comp_def, Payer.withoutNulls_dump,
    Card.withoutNulls_dump, ThreeDsDemand.withoutNulls_dump]

theorem read_wire (r : PaymentRequest) : read r.wire = .ok r := by
  have hcard {fields : List (String × Option Json)} {key : String}
      (hkey : (Object.ofPresent fields).get? key = none) :
      (Object.ofPresent ((key, r.card.map Card.wire) :: fields)).optional key Card.read =
        .ok r.card :=
    Object.optional_ofPresent_map Card.restores_wire hkey
  have hthreeDs {fields : List (String × Option Json)} {key : String}
      (hkey : (Object.ofPresent fields).get? key = none) :
      (Object.ofPresent ((key, r.threeDs.map ThreeDsDemand.wire) :: fields)).optional key
        ThreeDsDemand.read = .ok r.threeDs :=
    Object.optional_ofPresent_map ThreeDsDemand.restores_wire hkey
  simp [read, wire, Object.present_eq, Reader.model, Reader.object, hcard, hthreeDs,
    (Payer.restores_wire r.payer).read_eq]

end PaymentRequest

/-! Every record -/

/-- The records that requests are made of. -/
inductive Record
  | payment
  | payer
  | card
  | threeDs
  | capture
  | cancel
  | sync
  | refund
  | refundSync
  deriving DecidableEq

namespace Record

abbrev Value : Record → Type
  | payment => PaymentRequest
  | payer => Payer
  | card => Card
  | threeDs => ThreeDsDemand
  | capture => CaptureRequest
  | cancel => CancelRequest
  | sync => SyncRequest
  | refund => RefundRequest
  | refundSync => RefundSyncRequest

def read : (r : Record) → Reader r.Value
  | payment => PaymentRequest.read
  | payer => Payer.read
  | card => Card.read
  | threeDs => ThreeDsDemand.read
  | capture => CaptureRequest.read
  | cancel => CancelRequest.read
  | sync => SyncRequest.read
  | refund => RefundRequest.read
  | refundSync => RefundSyncRequest.read

def dump : (r : Record) → r.Value → Json
  | payment => PaymentRequest.dump
  | payer => Payer.dump
  | card => Card.dump
  | threeDs => ThreeDsDemand.dump
  | capture => CaptureRequest.dump
  | cancel => CancelRequest.dump
  | sync => SyncRequest.dump
  | refund => RefundRequest.dump
  | refundSync => RefundSyncRequest.dump

def wire : (r : Record) → r.Value → Json
  | payment => PaymentRequest.wire
  | payer => Payer.wire
  | card => Card.wire
  | threeDs => ThreeDsDemand.wire
  | capture => CaptureRequest.wire
  | cancel => CancelRequest.wire
  | sync => SyncRequest.wire
  | refund => RefundRequest.wire
  | refundSync => RefundSyncRequest.wire

theorem withoutNulls_dump (r : Record) (m : r.Value) :
    (r.dump m).withoutNulls = r.wire m := by
  cases r with
  | payment => exact PaymentRequest.withoutNulls_dump m
  | payer => exact Payer.withoutNulls_dump m
  | card => exact Card.withoutNulls_dump m
  | _ => rfl

theorem read_wire (r : Record) (m : r.Value) : r.read (r.wire m) = .ok m := by
  cases r with
  | payment => exact PaymentRequest.read_wire m
  | payer => exact (Payer.restores_wire m).read_eq
  | card => exact (Card.restores_wire m).read_eq
  | _ => rfl

/-- A key that every wire form of a record has, and no wire form of another record. -/
def mark : Record → String
  | payment => "payment_method_id"
  | payer => "document"
  | card => "holder_name"
  | threeDs => "force"
  | capture => "authorization_id"
  | cancel => "cancel_id"
  | sync => "authz_id"
  | refund => "payment_id"
  | refundSync => "refund_id"

/-- The kind of record that a value has the mark of. -/
def of? : Json → Option Record
  | .obj o =>
    [payment, payer, card, threeDs, capture, cancel, sync, refund, refundSync].find? fun r =>
      (Object.get? o r.mark).isSome
  | _ => none

theorem of?_wire (r : Record) (m : r.Value) : of? (r.wire m) = some r := by
  cases r with
  | payment => simp [of?, wire, PaymentRequest.wire, Object.present_eq, mark]
  | payer => simp [of?, wire, Payer.wire, Object.present_eq, mark]
  | card => simp [of?, wire, Card.wire, Object.present_eq, mark]
  | _ => rfl

/-- The wire form of a record is its dump without nulls, and is read as the same record with
its secrets. So no other record, of whatever kind, has the same wire form. -/
theorem wire_faithful (r : Record) (m : r.Value) :
    r.wire m = (r.dump m).withoutNulls ∧
      r.read (r.wire m) = .ok m ∧
      ∀ (r' : Record) (m' : r'.Value), r'.wire m' = r.wire m →
        (⟨r', m'⟩ : (r : Record) × r.Value) = ⟨r, m⟩ := by
  refine ⟨(r.withoutNulls_dump m).symm, r.read_wire m, ?_⟩
  intro r' m' hwire
  have hkind : some r' = some r := by rw [← of?_wire r' m', hwire, of?_wire]
  obtain rfl := Option.some.inj hkind
  have hread : Checked.ok m' = .ok m := by rw [← read_wire r' m', hwire, read_wire]
  rw [Checked.ok.inj hread]

end Record

end Wire

end PaymentConnector
