import PaymentConnector.Proofs.AnswerSchemas
import PaymentConnector.Proofs.DumpedFields
import PaymentConnector.Proofs.StableUrls

/-!
Answers read again from their dumps. Every part of an answer but the address of a redirect is read
from the dump as it is. The address is dumped as the text of its URL, so the answer is read again
just if the URL is read from its text as itself, and a call is then answered as before.
-/

namespace PaymentConnector

/-! The address of a redirect -/

theorem readUrl_dump_eq_ok_iff {u v : Url} : readUrl u.dump = .ok v ↔ Url.read u.text = .ok v := by
  rw [Url.dump, Object.readUrl_str_eq_ok_iff, String.toList_ofList]

/-- An optional field is read as what the value that it may hold is read as. -/
theorem Object.optional_cons_ofOption_eq_ok_iff {α β : Type} {o : Object} {key : String}
    {read : Reader α} {write : β → Json} (hwrite : ∀ b, write b ≠ .null) {x : Option β}
    {y : Option α} :
    Object.optional ((key, Json.ofOption write x) :: o) key read = .ok y ↔
      (x = none ∧ y = none) ∨ ∃ b a, x = some b ∧ read (write b) = .ok a ∧ y = some a := by
  cases x with
  | none =>
    have hvoid : Object.IsVoid ((key, Json.ofOption write none) :: o) key := Or.inr get?_cons_self
    rw [optional_of_isVoid hvoid]
    simp [eq_comm]
  | some b =>
    rw [Json.ofOption, optional_of_get? get?_cons_self (hwrite b)]
    simp [Checked.map_eq_ok_iff, Checked.under_eq_ok_iff, @eq_comm _ y]

namespace Wire

/-- The kinds of payloads that have a schema: the answers to payments, to enquiries, captures,
cancellations and refunds, the payloads that tell of an error, and the results of 3-D Secure
checks. -/
inductive Schema
  | payment
  | sync
  | capture
  | cancel
  | refund
  | error
  | threeDs
  deriving DecidableEq

namespace Schema

abbrev Value : Schema → Type
  | payment => PaymentResponse
  | sync => SyncResponse
  | capture => CaptureResponse
  | cancel => CancelResponse
  | refund => RefundResponse
  | error => ErrorPayload
  | threeDs => ThreeDsResult

def name : Schema → String
  | payment => PaymentResponse.name
  | sync => SyncResponse.name
  | capture => CaptureResponse.name
  | cancel => CancelResponse.name
  | refund => RefundResponse.name
  | error => ErrorPayload.name
  | threeDs => ThreeDsResult.name

def read : (k : Schema) → Reader k.Value
  | payment => PaymentResponse.read
  | sync => SyncResponse.read
  | capture => CaptureResponse.read
  | cancel => CancelResponse.read
  | refund => RefundResponse.read
  | error => ErrorPayload.read
  | threeDs => ThreeDsResult.read

def dump : (k : Schema) → k.Value → Json
  | payment => PaymentResponse.dump
  | sync => SyncResponse.dump
  | capture => CaptureResponse.dump
  | cancel => CancelResponse.dump
  | refund => RefundResponse.dump
  | error => ErrorPayload.dump
  | threeDs => ThreeDsResult.dump

/-- The result of a 3-D Secure check in a payload, or that the payload is. -/
def threeDs? : (k : Schema) → k.Value → Option ThreeDsResult
  | payment, r => r.threeDs
  | threeDs, r => some r
  | _, _ => none

/-- The address that a payload redirects to. -/
def redirectUrl (k : Schema) (m : k.Value) : Option Url := (k.threeDs? m).bind (·.redirectUrl)

/-- The same payload with another address to redirect to, if it has one. -/
def withUrl : (k : Schema) → k.Value → Url → k.Value
  | payment, r, u => { r with threeDs := some ⟨some u⟩ }
  | threeDs, _, u => ⟨some u⟩
  | _, m, _ => m

def parse (k : Schema) (p : Payload) : Logged (Except ConnectorError k.Value) :=
  p.parse k.name k.read

end Schema

end Wire

/-- The schema of the answers in a flow. -/
def Flow.schema : Flow → Wire.Schema
  | authorize => .payment
  | capture => .capture
  | void => .cancel
  | psync => .sync
  | refund => .refund
  | rsync => .refund

namespace Wire

theorem ThreeDsResult.read_dump_eq_ok_iff {r r' : ThreeDsResult} :
    read r.dump = .ok r' ↔
      (r.redirectUrl = none ∧ r' = r) ∨
        ∃ u v, r.redirectUrl = some u ∧ Url.read u.text = .ok v ∧ r' = ⟨some v⟩ := by
  have hread : read r.dump = .ok r' ↔
      Object.optional [("redirect_url", Json.ofOption Url.dump r.redirectUrl)] "redirect_url"
        readUrl = .ok r'.redirectUrl := by
    simp only [read, dump, Reader.model, Reader.object, Checked.map_eq_map, Checked.map_eq_ok_iff]
    constructor
    · rintro ⟨url, hurl, rfl⟩
      exact hurl
    · intro hurl
      exact ⟨_, hurl, rfl⟩
  rw [hread, Object.optional_cons_ofOption_eq_ok_iff fun u => by simp [Url.dump]]
  obtain ⟨url⟩ := r
  obtain ⟨url'⟩ := r'
  simp only [readUrl_dump_eq_ok_iff, mk.injEq]
  refine or_congr_left (and_congr_right fun hnone => ?_)
  rw [hnone]

theorem PaymentResponse.read_dump_eq_ok_iff {r r' : PaymentResponse} :
    read r.dump = .ok r' ↔
      (r.threeDs = none ∧ r' = r) ∨
        ∃ t t', r.threeDs = some t ∧ ThreeDsResult.read t.dump = .ok t' ∧
          r' = { r with threeDs := some t' } := by
  have hthree {o : Object} :
      Object.optional (("three_dsecure", Json.ofOption ThreeDsResult.dump r.threeDs) :: o)
        "three_dsecure" ThreeDsResult.read = .ok r'.threeDs ↔ _ :=
    Object.optional_cons_ofOption_eq_ok_iff fun t => by simp [ThreeDsResult.dump]
  rw [dump, read_obj_eq_ok_iff]
  obtain ⟨status, id, three, order⟩ := r
  obtain ⟨status', id', three', order'⟩ := r'
  simp only at hthree
  simp only [readStatus, Object.defaulted_cons_self, Vocabulary.read_ofToken, Checked.under_ok]
  simp only [ne_eq, String.reduceEq, not_false_eq_true, Object.required_cons_other,
    Object.required_cons_self, Object.optional_cons_other, readString_str, Checked.under_ok, hthree,
    Object.optional_cons_text, Checked.ok.injEq, mk.injEq]
  constructor
  · rintro ⟨rfl, rfl, ⟨rfl, rfl⟩ | ⟨t, t', rfl, hread, rfl⟩, rfl⟩
    · exact Or.inl ⟨rfl, rfl, rfl, rfl, rfl⟩
    · exact Or.inr ⟨t, t', rfl, hread, rfl, rfl, rfl, rfl⟩
  · rintro (⟨rfl, rfl, rfl, rfl, rfl⟩ | ⟨t, t', rfl, hread, rfl, rfl, rfl, rfl⟩)
    · exact ⟨rfl, rfl, Or.inl ⟨rfl, rfl⟩, rfl⟩
    · exact ⟨rfl, rfl, Or.inr ⟨t, t', rfl, hread, rfl⟩, rfl⟩

namespace Schema

theorem redirectUrl_withUrl {k : Schema} {m : k.Value} {u : Url} (h : k.redirectUrl m = some u)
    (v : Url) : k.redirectUrl (k.withUrl m v) = some v := by
  cases k <;> first | rfl | cases h

theorem withUrl_self {k : Schema} {m : k.Value} {u : Url} (h : k.redirectUrl m = some u) :
    k.withUrl m u = m := by
  cases k with
  | payment =>
    obtain ⟨t, ht, hu⟩ := Option.bind_eq_some_iff.mp h
    obtain ⟨url⟩ := t
    obtain rfl : url = some u := hu
    obtain ⟨status, id, three, order⟩ := m
    obtain rfl : three = some ⟨some u⟩ := ht
    rfl
  | threeDs =>
    obtain ⟨url⟩ := m
    obtain rfl : url = some u := h
    rfl
  | _ => rfl

theorem withUrl_eq_self_iff {k : Schema} {m : k.Value} {u v : Url}
    (h : k.redirectUrl m = some u) : m = k.withUrl m v ↔ v = u := by
  constructor
  · intro hself
    have hv := redirectUrl_withUrl h v
    rw [← hself, h] at hv
    exact (Option.some.inj hv).symm
  · rintro rfl
    exact (withUrl_self h).symm

/-- A payload that cannot redirect is read from its dump as itself. -/
theorem read_dump_of_redirectless {k : Schema} (hpayment : k ≠ .payment) (hthree : k ≠ .threeDs)
    (m : k.Value) : k.read (k.dump m) = .ok m := by
  cases k with
  | payment => exact absurd rfl hpayment
  | sync => simp [read, dump, SyncResponse.read, SyncResponse.dump, Reader.model, Reader.object,
      readStatus]
  | capture => simp [read, dump, CaptureResponse.read, CaptureResponse.dump, Reader.model,
      Reader.object, readStatus]
  | cancel => simp [read, dump, CancelResponse.read, CancelResponse.dump, Reader.model,
      Reader.object, readStatus]
  | refund => simp [read, dump, RefundResponse.read, RefundResponse.dump, Reader.model,
      Reader.object]
  | error => simp [read, dump, ErrorPayload.read, ErrorPayload.dump, Reader.model, Reader.object]
  | threeDs => exact absurd rfl hthree

/-- A payload is read from its dump with the URL that the text of its own is read as. -/
theorem read_dump_eq_ok_iff {k : Schema} {m m' : k.Value} :
    k.read (k.dump m) = .ok m' ↔
      (k.redirectUrl m = none ∧ m' = m) ∨
        ∃ u v, k.redirectUrl m = some u ∧ Url.read u.text = .ok v ∧ m' = k.withUrl m v := by
  cases k with
  | payment =>
    refine PaymentResponse.read_dump_eq_ok_iff.trans ?_
    obtain ⟨status, id, three, order⟩ := m
    cases three with
    | none => simp [redirectUrl, threeDs?]
    | some t =>
      obtain ⟨url⟩ := t
      cases url with
      | none => simp [redirectUrl, threeDs?, ThreeDsResult.read_dump_eq_ok_iff]
      | some u =>
        simp [redirectUrl, threeDs?, ThreeDsResult.read_dump_eq_ok_iff, withUrl]
  | threeDs => exact ThreeDsResult.read_dump_eq_ok_iff
  | _ =>
    rw [read_dump_of_redirectless (by decide) (by decide)]
    simp [redirectUrl, threeDs?, eq_comm]

/-! Payloads and their dumps -/

variable {k : Schema} {p : Payload} {m m' : k.Value}

theorem parse_of_read (h : p.read k.read = .ok m) : k.parse p = .pure (.ok m) := by
  rw [parse, Payload.parse, h]

theorem parse_value_eq_ok_iff : (k.parse p).value = .ok m ↔ p.read k.read = .ok m := by
  rcases (p.read k.read).eq_ok_or_failed with ⟨a, ha⟩ | ⟨faults, hfaults⟩
  · rw [parse_of_read ha, ha]
    simp [Logged.pure]
  · rw [parse, Payload.parse, hfaults]
    simp only [reduceCtorEq, iff_false]
    intro h
    cases h

theorem parse_eq_pure_iff : k.parse p = .pure (.ok m) ↔ p.read k.read = .ok m := by
  refine ⟨fun h => parse_value_eq_ok_iff.mp ?_, parse_of_read⟩
  rw [h]
  rfl

/-- A dump is an object, so it is read as it is. -/
theorem read_value_dump (k : Schema) (m : k.Value) :
    Payload.read k.read (.value (k.dump m)) = k.read (k.dump m) := by
  cases k <;> rfl

/-- The address of a redirect was read from a text. -/
theorem exists_of_redirectUrl {u : Url} (h : p.read k.read = .ok m)
    (hu : k.redirectUrl m = some u) : ∃ s, Url.read s = .ok u := by
  obtain ⟨j, hj⟩ := Payload.exists_of_read h
  cases k with
  | payment => exact PaymentResponse.exists_of_redirectUrl hj hu
  | threeDs => exact ThreeDsResult.exists_of_redirectUrl hj hu
  | _ => cases hu

/-- Dumped and read again, a payload keeps all but the URL that it redirects to, and the text of
that is read as the URL that it is settled to. -/
theorem read_dump_settled_iff (h : p.read k.read = .ok m) :
    k.read (k.dump m) = .ok m' ↔
      (k.redirectUrl m = none ∧ m' = m) ∨
        ∃ u, k.redirectUrl m = some u ∧ u.Decodable ∧ m' = k.withUrl m u.settled := by
  rw [read_dump_eq_ok_iff]
  refine or_congr_right ⟨?_, ?_⟩
  · rintro ⟨u, v, hu, hv, rfl⟩
    obtain ⟨s, hs⟩ := exists_of_redirectUrl h hu
    obtain ⟨hlabels, rfl⟩ := (Url.read_text hs).eq_ok_iff.mp hv
    exact ⟨u, hu, hlabels, rfl⟩
  · rintro ⟨u, hu, hlabels, rfl⟩
    obtain ⟨s, hs⟩ := exists_of_redirectUrl h hu
    exact ⟨u, u.settled, hu, (Url.read_text hs).ok hlabels, rfl⟩

theorem read_dump_self_iff (h : p.read k.read = .ok m) :
    k.read (k.dump m) = .ok m ↔ ∀ u, k.redirectUrl m = some u → u.Stable := by
  rw [read_dump_eq_ok_iff]
  cases hu : k.redirectUrl m with
  | none => simp
  | some u =>
    obtain ⟨s, hs⟩ := exists_of_redirectUrl h hu
    simp [withUrl_eq_self_iff hu, Url.read_text_eq_iff hs]

theorem exists_read_dump_iff (h : p.read k.read = .ok m) :
    (∃ m', k.read (k.dump m) = .ok m') ↔ ∀ u, k.redirectUrl m = some u → u.Decodable := by
  simp only [read_dump_settled_iff h]
  cases hu : k.redirectUrl m with
  | none => simp
  | some u => simp

end Schema

end Wire

/-- Calls are answered alike by payloads that are parsed alike. -/
theorem Call.respond_congr {flow : Flow} (c : Call flow) {p q : Wire.Payload}
    (h : flow.schema.parse p = flow.schema.parse q) : c.respond p = c.respond q := by
  have hparse : p.parse flow.answerName flow.readAnswer =
      q.parse flow.answerName flow.readAnswer := by
    cases flow <;> exact h
  rw [respond, respond, Flow.answer, Flow.answer, hparse]

namespace Wire.Schema

/-- A payment that redirects to an address with an empty segment in its path. -/
def redirected : PaymentResponse := ⟨.pending, "t", some ⟨some Call.redirectUrl⟩, none⟩

/-- The result of a 3-D Secure check that redirects to an address. -/
def redirectTo (address : String) : Payload := .value (.obj [("redirect_url", .str address)])

/-- A redirect to a file on a drive, and on a host or on this computer. -/
def redirectedToDrive (host : Option Url.Host) : ThreeDsResult where
  redirectUrl := some
    { scheme := "file".toList
      authority := some (Url.fileAuthority host)
      path := .segments ["C:".toList, ['x']]
      query := none
      fragment := none }

end Wire.Schema

end PaymentConnector
