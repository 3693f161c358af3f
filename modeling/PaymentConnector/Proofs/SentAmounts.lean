import PaymentConnector.Proofs.AuthorizationBodies
import PaymentConnector.Proofs.RequestFields
import PaymentConnector.Proofs.WholeNumberTexts

/-!
Amounts on their way into the wire. Every flow that moves money takes just the values for its
amount that denote a natural number, and sends that number: as it is when a payment is
authorized or captured, as its numeral when one is refunded. A number that is given with the
call is sent instead, zero too, except when a payment is captured. A refund fails for too long a
number, which has no numeral.
-/

namespace PaymentConnector

/-! One field replaced -/

namespace Object

variable {α : Type} {o : Object} {key other : String} {v : Json} {read : Reader α}

theorem get?_put :
    get? (Entries.put o key v) other = if other = key then some v else o.get? other :=
  Entries.lookup_put o key v other

theorem required_put_self_eq_ok_iff {a : α} :
    required (Entries.put o key v) key read = .ok a ↔ read v = .ok a := by
  rw [required_eq_ok_iff, get?_put, if_pos rfl]
  simp

theorem required_put_other (h : other ≠ key) :
    required (Entries.put o key v) other read = o.required other read := by
  rw [required, required, get?_put, if_neg h]

theorem optional_put_other (h : other ≠ key) :
    optional (Entries.put o key v) other read = o.optional other read := by
  rw [optional, optional, get?_put, if_neg h]

end Object

/-! Amounts of requests -/

namespace Flow

/-- The key of a request under which the amount stands that is sent. -/
def amountKey? : Flow → Option String
  | authorize => some "amount"
  | capture => some "amount_to_capture"
  | refund => some "refund_amount"
  | _ => none

/-- The same request with another amount. -/
def withAmount : (flow : Flow) → Nat → flow.Request → flow.Request
  | authorize, n, r => { r with amount := n }
  | capture, n, r => { r with amount := n }
  | refund, n, r => { r with amount := n }
  | rsync, n, r => { r with amount := n }
  | void, _, r => r
  | psync, _, r => r

theorem denotes_zero_iff {n : Nat} : (Json.int 0).Denotes n ↔ n = 0 := by
  rw [← readNatural_eq_ok_iff]
  simpa [readNatural, toInteger] using eq_comm

theorem readAuthorize_put_eq_ok_iff {o : Object} {v : Json} {d : AuthorizeData} :
    AuthorizeData.read (.obj (Entries.put o "amount" v)) = .ok d ↔
      ∃ (n : Nat) (d₀ : AuthorizeData), v.Denotes n ∧
        AuthorizeData.read (.obj (Entries.put o "amount" (.int 0))) = .ok d₀ ∧
          d = { d₀ with amount := n } := by
  simp only [AuthorizeData.read_obj_eq_ok_iff, Object.required_put_self_eq_ok_iff,
    Object.required_put_other (show "currency" ≠ "amount" by decide),
    Object.required_put_other (show "payment_method_data" ≠ "amount" by decide),
    Object.optional_put_other (show "capture_method" ≠ "amount" by decide),
    Object.optional_put_other (show "email" ≠ "amount" by decide),
    Object.optional_put_other (show "mandate_id" ≠ "amount" by decide),
    Object.optional_put_other (show "router_return_url" ≠ "amount" by decide),
    readNatural_eq_ok_iff, denotes_zero_iff]
  constructor
  · rintro ⟨hamount, hrest⟩
    exact ⟨d.amount, { d with amount := 0 }, hamount, ⟨rfl, hrest⟩, rfl⟩
  · rintro ⟨n, d₀, hv, ⟨-, hrest⟩, rfl⟩
    exact ⟨hv, hrest⟩

theorem readCapture_put_eq_ok_iff {o : Object} {v : Json} {d : CaptureData} :
    CaptureData.read (.obj (Entries.put o "amount_to_capture" v)) = .ok d ↔
      ∃ (n : Nat) (d₀ : CaptureData), v.Denotes n ∧
        CaptureData.read (.obj (Entries.put o "amount_to_capture" (.int 0))) = .ok d₀ ∧
          d = { d₀ with amount := n } := by
  simp only [CaptureData.read_obj_eq_ok_iff, Object.required_put_self_eq_ok_iff,
    Object.required_put_other (show "currency" ≠ "amount_to_capture" by decide),
    Object.required_put_other (show "connector_transaction_id" ≠ "amount_to_capture" by decide),
    readNatural_eq_ok_iff, denotes_zero_iff]
  constructor
  · rintro ⟨hamount, hrest⟩
    exact ⟨d.amount, { d with amount := 0 }, hamount, ⟨rfl, hrest⟩, rfl⟩
  · rintro ⟨n, d₀, hv, ⟨-, hrest⟩, rfl⟩
    exact ⟨hv, hrest⟩

theorem readRefund_put_eq_ok_iff {o : Object} {v : Json} {d : RefundData} :
    RefundData.read (.obj (Entries.put o "refund_amount" v)) = .ok d ↔
      ∃ (n : Nat) (d₀ : RefundData), v.Denotes n ∧
        RefundData.read (.obj (Entries.put o "refund_amount" (.int 0))) = .ok d₀ ∧
          d = { d₀ with amount := n } := by
  simp only [RefundData.read_obj_eq_ok_iff, Object.required_put_self_eq_ok_iff,
    Object.required_put_other (show "refund_id" ≠ "refund_amount" by decide),
    Object.required_put_other (show "connector_transaction_id" ≠ "refund_amount" by decide),
    Object.required_put_other (show "currency" ≠ "refund_amount" by decide),
    Object.optional_put_other (show "connector_refund_id" ≠ "refund_amount" by decide),
    Object.optional_put_other (show "reason" ≠ "refund_amount" by decide),
    readNatural_eq_ok_iff, denotes_zero_iff]
  constructor
  · rintro ⟨hid, htransaction, hamount, hrest⟩
    exact ⟨d.amount, { d with amount := 0 }, hamount, ⟨hid, htransaction, rfl, hrest⟩, rfl⟩
  · rintro ⟨n, d₀, hv, ⟨hid, htransaction, -, hrest⟩, rfl⟩
    exact ⟨hid, htransaction, hv, hrest⟩

/-- A value is taken for an amount just if it denotes a natural number, and the request is then
the one for zero with that number in it. -/
theorem readRequest_put_eq_ok_iff (flow : Flow) {key : String} (hkey : flow.amountKey? = some key)
    (o : Object) (v : Json) (r : flow.Request) :
    flow.readRequest (.obj (Entries.put o key v)) = .ok r ↔
      ∃ (n : Nat) (r₀ : flow.Request), v.Denotes n ∧
        flow.readRequest (.obj (Entries.put o key (.int 0))) = .ok r₀ ∧
          r = flow.withAmount n r₀ := by
  cases flow with
  | authorize =>
    obtain rfl : "amount" = key := Option.some.inj hkey
    exact readAuthorize_put_eq_ok_iff
  | capture =>
    obtain rfl : "amount_to_capture" = key := Option.some.inj hkey
    exact readCapture_put_eq_ok_iff
  | refund =>
    obtain rfl : "refund_amount" = key := Option.some.inj hkey
    exact readRefund_put_eq_ok_iff
  | void => exact absurd hkey (by simp [amountKey?])
  | psync => exact absurd hkey (by simp [amountKey?])
  | rsync => exact absurd hkey (by simp [amountKey?])

/-- A flow can send the number: only a refund has to write it, and cannot if it is too long. -/
def CanSend : Flow → Int → Prop
  | refund, n => Json.FitsDigits n
  | _, _ => True

/-- What a flow sends for the amount of a request and one that may be given with the call. -/
inductive Sends : Flow → (own : Nat) → (given : Option Int) → Json → Prop
  | authorize (own : Nat) (given : Option Int) : Sends authorize own given (.int (given.getD own))
  | capture (own : Nat) (given : Option Int) : Sends capture own given (.int own)
  | refund {own : Nat} {given : Option Int} {s : String}
      (hs : IsNumeral (given.getD own) s.toList) : Sends refund own given (.str s)

/-- The amount of a request is recovered from what is sent. -/
theorem Sends.eq {flow : Flow} {n m : Nat} {sent : Json} (h : flow.Sends n none sent)
    (h' : flow.Sends m none sent) : n = m := by
  cases h with
  | authorize => cases h'; rfl
  | capture => cases h'; rfl
  | refund hs =>
    cases h' with
    | refund hs' => exact Int.ofNat_inj.mp (hs.eq hs')

end Flow

/-! Requests that are sent -/

namespace Call

/-- Everything is there that the request of a call needs. -/
def Complete : {flow : Flow} → Call flow → Prop
  | .authorize, c =>
    (∃ a, c.envelope.billingAddress? = some a ∧ ¬ Lacks a.country) ∧
      c.request.method.instrument.kind = .card ∧ ¬ Lacks c.request.returnUrl
  | .psync, c =>
    c.request.transactionId.kind = .connectorTransactionId ∧ ¬ Lacks c.request.transactionId.value
  | _, _ => True

theorem amountOr_ofOption (own : Nat) (given : Option Int) :
    amountOr own (.ofOption .int given) = .int (given.getD own) := by
  cases given <;> rfl

section

variable {flow : Flow} {c : Call flow} {n : Nat} {r₀ : flow.Request} {given : Option Int}

/-- A request that lacks nothing is refused for nothing but a number that cannot be sent. -/
theorem Refuses.eq_limit (hc : c.request = flow.withAmount n r₀) {f : Failure}
    (h : Refuses c (.ofOption .int given) f) (hcomplete : c.Complete) :
    f = .limit .digits ∧ ¬ flow.CanSend (given.getD n) := by
  cases h with
  | address haddress =>
    obtain ⟨⟨a, ha, -⟩, -⟩ := hcomplete
    rw [haddress] at ha
    cases ha
  | country haddress hlacks =>
    obtain ⟨⟨a, ha, hcountry⟩, -⟩ := hcomplete
    obtain rfl := Option.some.inj (haddress.symm.trans ha)
    exact absurd hlacks hcountry
  | method _ _ hmethod => exact absurd hcomplete.2.1 hmethod
  | returnUrl _ _ _ hreturn => exact absurd hreturn hcomplete.2.2
  | amount _ _ _ _ hgiven hcause =>
    cases given with
    | none => exact absurd rfl hgiven
    | some k => cases hcause
  | transaction hid =>
    exact (hid.elim (fun h => h hcomplete.1) hcomplete.2).elim
  | overlong hlong =>
    rw [hc, amountOr_ofOption, Json.NumbersFit.int_iff] at hlong
    exact ⟨rfl, hlong⟩

theorem complete_of_not_refuses {amount : Json}
    (h : ∀ f, ¬ Refuses c amount f) : c.Complete := by
  cases flow with
  | authorize =>
    cases haddress : c.envelope.billingAddress? with
    | none => exact absurd (.address haddress) (h _)
    | some a =>
      by_cases hcountry : Lacks a.country
      · exact absurd (.country haddress hcountry) (h _)
      by_cases hmethod : c.request.method.instrument.kind = .card
      · by_cases hreturn : Lacks c.request.returnUrl
        · exact absurd (.returnUrl haddress hcountry hmethod hreturn) (h _)
        · exact ⟨⟨a, haddress, hcountry⟩, hmethod, hreturn⟩
      · exact absurd (.method haddress hcountry hmethod) (h _)
  | psync =>
    constructor
    · by_contra hkind
      exact h _ (.transaction (Or.inl hkind))
    · intro hvalue
      exact h _ (.transaction (Or.inr hvalue))
  | _ => trivial

theorem canSend_of_not_refuses (hc : c.request = flow.withAmount n r₀)
    (h : ∀ f, ¬ Refuses c (.ofOption .int given) f) : flow.CanSend (given.getD n) := by
  cases flow with
  | refund =>
    by_contra hlong
    refine h _ (.overlong fun hfits => hlong ?_)
    rw [hc, amountOr_ofOption, Json.NumbersFit.int_iff] at hfits
    exact hfits
  | _ => trivial

/-- Just the complete calls become a request, whatever number may be given with them, if the
number can be sent. -/
theorem exists_build_eq_ok_iff (hc : c.request = flow.withAmount n r₀) :
    (∃ b, (c.build (.ofOption .int given)).value = .ok b) ↔
      c.Complete ∧ flow.CanSend (given.getD n) := by
  have hbuilt : (∃ b, (c.build (.ofOption .int given)).value = .ok b) ↔
      ∀ f, ¬ Refuses c (.ofOption .int given) f := by
    simp only [build, ← body_eq_error_iff]
    cases c.body (.ofOption .int given) <;> simp
  rw [hbuilt]
  constructor
  · exact fun h => ⟨complete_of_not_refuses h, canSend_of_not_refuses hc h⟩
  · rintro ⟨hcomplete, hsend⟩ f hrefuses
    exact (hrefuses.eq_limit hc hcomplete).2 hsend

/-- A complete call with a number that cannot be sent fails for that number. -/
theorem build_eq_limit (hc : c.request = flow.withAmount n r₀) (hcomplete : c.Complete)
    (hlong : ¬ flow.CanSend (given.getD n)) :
    (c.build (.ofOption .int given)).value = .error (.limit .digits) := by
  cases hvalue : (c.build (.ofOption .int given)).value with
  | ok b => exact absurd ((exists_build_eq_ok_iff hc).mp ⟨b, hvalue⟩).2 hlong
  | error f => rw [((body_eq_error_iff.mp hvalue).eq_limit hc hcomplete).1]

/-- The amount in a body is that which the flow sends. -/
theorem sends_of_build {key : String} (hkey : flow.amountKey? = some key)
    (hc : c.request = flow.withAmount n r₀) {b : flow.Body}
    (hb : (c.build (.ofOption .int given)).value = .ok b) :
    ∃ sent, (flow.wireBody b).get? "amount" = some sent ∧ flow.Sends n given sent := by
  cases flow with
  | authorize =>
    obtain ⟨a, country, card, callback, minor, -, -, -, -, hminor, rfl⟩ := of_paymentBody hb
    rw [hc, amountOr_ofOption] at hminor
    obtain rfl : given.getD n = minor := Except.ok.inj hminor
    exact ⟨_, rfl, .authorize n given⟩
  | capture =>
    obtain rfl : c.captureBody = b := Except.ok.inj hb
    refine ⟨_, rfl, ?_⟩
    rw [captureBody, hc]
    exact .capture n given
  | refund =>
    obtain ⟨text, htext, rfl⟩ := of_refundBody hb
    have hfits : Json.FitsDigits (given.getD n) := ((exists_build_eq_ok_iff hc).mp ⟨_, hb⟩).2
    have hown : (Flow.refund.withAmount n r₀).amount = n := rfl
    rw [hc, hown, amountOr_ofOption, Json.display_int hfits] at htext
    obtain rfl := Except.ok.inj htext
    exact ⟨_, rfl, .refund (isNumeral_iff.mpr String.toList_ofList)⟩
  | void => exact absurd hkey (by simp [Flow.amountKey?])
  | psync => exact absurd hkey (by simp [Flow.amountKey?])
  | rsync => exact absurd hkey (by simp [Flow.amountKey?])

end

end Call

/-- A value is accepted for the amount just if it denotes a natural number, in every flow that
sends one. Then a complete call sends that number, from which it is recovered, or the number that
is given instead; a capture sends its own one all the same. A refund fails if the number is too
long. -/
theorem Flow.amount_reaches_wire (flow : Flow) {key : String}
    (hkey : flow.amountKey? = some key) (o : Object) (v : Json) :
    (∀ r : flow.Request, flow.readRequest (.obj (Entries.put o key v)) = .ok r ↔
      ∃ (n : Nat) (r₀ : flow.Request), v.Denotes n ∧
        flow.readRequest (.obj (Entries.put o key (.int 0))) = .ok r₀ ∧
          r = flow.withAmount n r₀) ∧
      ∀ (r : flow.Request) (n : Nat), v.Denotes n →
        flow.readRequest (.obj (Entries.put o key v)) = .ok r →
          ∀ c : Call flow, c.request = r → ∀ given : Option Int,
            ((∃ b, (c.build (.ofOption .int given)).value = .ok b) ↔
              c.Complete ∧ flow.CanSend (given.getD n)) ∧
            (c.Complete → ¬ flow.CanSend (given.getD n) →
              (c.build (.ofOption .int given)).value = .error (.limit .digits)) ∧
              ∀ b, (c.build (.ofOption .int given)).value = .ok b →
                ∃ sent, (flow.wireBody b).get? "amount" = some sent ∧ flow.Sends n given sent ∧
                  (given = none → ∀ m, flow.Sends m none sent ↔ m = n) := by
  refine ⟨flow.readRequest_put_eq_ok_iff hkey o v, ?_⟩
  intro r n hn hr c hc given
  obtain ⟨n', r₀, hn', -, hr₀⟩ := (flow.readRequest_put_eq_ok_iff hkey o v r).mp hr
  obtain rfl : n' = n := Int.ofNat_inj.mp (hn'.eq hn)
  have hrequest : c.request = flow.withAmount n' r₀ := hc.trans hr₀
  refine ⟨Call.exists_build_eq_ok_iff hrequest, Call.build_eq_limit hrequest, fun b hb => ?_⟩
  obtain ⟨sent, hsent, hsends⟩ := Call.sends_of_build hkey hrequest hb
  refine ⟨sent, hsent, hsends, ?_⟩
  rintro rfl m
  constructor
  · intro hm
    exact hm.eq hsends
  · rintro rfl
    exact hsends

/-- The request of a refund, without its amount. -/
def refundInput : Object :=
  [("refund_id", .str "f"), ("connector_transaction_id", .str "t"), ("currency", .str "usd")]

/-- Twelve, spelled with a sign, leading zeros, an underscore and a fraction. -/
def twelve : Json := .str "\t+0_12.00 "

/-- A refund of zero is sent where zero is given, and one of twelve where nothing is. -/
theorem twelve_reaches_wire :
    Flow.refund.readRequest (.obj (Entries.put refundInput "refund_amount" twelve)) =
        .ok (Call.repayment 12).request ∧
      Flow.Sends .refund 12 (some 0) (.str "0") ∧ Flow.Sends .refund 12 none (.str "12") := by
  have hkey : Flow.amountKey? .refund = some "refund_amount" := rfl
  have hread : Flow.refund.readRequest (.obj (Entries.put refundInput "refund_amount" twelve)) =
      .ok (Call.repayment 12).request := rfl
  have htwelve : twelve.Denotes (12 : Nat) := toInteger_eq_ok_iff.mp rfl
  obtain ⟨-, hsent⟩ := Flow.amount_reaches_wire .refund hkey refundInput twelve
  have hcall := hsent _ 12 htwelve hread (Call.repayment 12) rfl
  obtain ⟨_, hzero, hsendsZero, -⟩ := (hcall (some 0)).2.2 ⟨"0", "t", "USD", "f"⟩ rfl
  obtain ⟨_, hown, hsendsOwn, -⟩ := (hcall none).2.2 ⟨"12", "t", "USD", "f"⟩ rfl
  obtain rfl := Option.some.inj hzero
  obtain rfl := Option.some.inj hown
  exact ⟨hread, hsendsZero, hsendsOwn⟩

/-- An amount with two underscores behind a leading zero is taken for a capture, and one with a
digit more than is written is taken for a refund but not sent. -/
theorem doubleUnderscore_taken :
    CaptureData.read (.obj [("amount_to_capture", .str "0__1"), ("currency", .str "usd"),
        ("connector_transaction_id", .str "t")]) = .ok ⟨1, "USD", "t"⟩ ∧
      ∃ n : Nat, Flow.refund.readRequest
          (.obj (Entries.put refundInput "refund_amount" (.int n))) =
            .ok (Call.repayment n).request ∧
        ((Call.repayment n).build .null).value = .error (.limit .digits) :=
  ⟨rfl, _, rfl, Call.repayment_refused_of_overlong Json.not_fitsDigits_leastOfLength⟩

end PaymentConnector
