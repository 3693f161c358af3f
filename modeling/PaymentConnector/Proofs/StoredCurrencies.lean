import PaymentConnector.Proofs.AuthorizationBodies
import PaymentConnector.Proofs.RequestFields

/-!
Currencies as they are kept and sent. A currency has three characters before it is turned into
capitals, and some characters have capitals of two or three. So what is kept has three
characters, and stays as it is when it is read once more, just if every character of the input
has a capital of one; otherwise it is longer, and it would not be taken a second time.
-/

namespace PaymentConnector

namespace Text

/-- The capital form of a character is a single one. -/
def OneCapital (c : Char) : Prop := (capital c.toNat).length = 1

instance (c : Char) : Decidable (OneCapital c) := inferInstanceAs (Decidable (_ = _))

theorem capital_ne_nil (n : Nat) : capital n ≠ [] := by
  have htable : ∀ e ∈ longCapitals, e.2 ≠ [] := by decide
  unfold capital
  split
  · rename_i letters hlookup
    obtain ⟨before, after, heq, -⟩ := List.lookup_eq_some_iff.mp hlookup
    exact htable (n, letters) (by simp [heq])
  · split
    · exact List.cons_ne_nil _ _
    · exact List.cons_ne_nil _ _

theorem length_upperChars_cons (c : Char) (s : List Char) :
    (upperChars (c :: s)).length = (capital c.toNat).length + (upperChars s).length := by
  simp [upperChars]

theorem length_le_upperChars (s : List Char) : s.length ≤ (upperChars s).length := by
  induction s with
  | nil => exact Nat.zero_le _
  | cons c s ih =>
    have hcapital := List.length_pos_iff.mpr (capital_ne_nil c.toNat)
    rw [length_upperChars_cons, List.length_cons]
    omega

/-- A text keeps its length in capitals just if each of its characters does. -/
theorem length_upperChars_eq_iff {s : List Char} :
    (upperChars s).length = s.length ↔ ∀ c ∈ s, OneCapital c := by
  induction s with
  | nil => simp [upperChars]
  | cons c s ih =>
    have hcapital := List.length_pos_iff.mpr (capital_ne_nil c.toNat)
    have hrest := length_le_upperChars s
    rw [length_upperChars_cons, List.length_cons, List.forall_mem_cons, ← ih, OneCapital]
    omega

theorem length_upper (s : String) : (upper s).length = (upperChars s.toList).length := by
  rw [upper, String.length_ofList]

theorem length_le_upper (s : String) : s.length ≤ (upper s).length := by
  rw [length_upper, ← String.length_toList]
  exact length_le_upperChars s.toList

theorem length_upper_eq_iff {s : String} :
    (upper s).length = s.length ↔ ∀ c ∈ s.toList, OneCapital c := by
  rw [length_upper, ← String.length_toList]
  exact length_upperChars_eq_iff

end Text

open Text

theorem readCurrency_str (s : String) :
    readCurrency (.str s) =
      if s.length = 3 then .ok (upper s) else .fail (.rule .currencyLength) := rfl

theorem readCurrency_eq_ok_iff {j : Json} {stored : String} :
    readCurrency j = .ok stored ↔ ∃ s, j = .str s ∧ s.length = 3 ∧ stored = upper s := by
  cases j with
  | str s =>
    rw [readCurrency_str]
    by_cases hlength : s.length = 3
    · simp [hlength, eq_comm]
    · simp [hlength, Checked.fail]
  | _ => simp [readCurrency, readString, Checked.andThen, Checked.fail]

/-- Reading a currency that was read before. -/
theorem readCurrency_upper (s : String) :
    readCurrency (.str (upper s)) =
      if (upper s).length = 3 then .ok (upper s) else .fail (.rule .currencyLength) := by
  rw [readCurrency_str, upper_upper]

namespace Flow

/-- The currency of a request is read from its key. -/
theorem readCurrency_of_readRequest (flow : Flow) {j : Json} {r : flow.Request} {stored : String}
    (h : flow.readRequest j = .ok r) (hs : flow.currency? r = some stored) :
    ∃ k, j.get? "currency" = some k ∧ readCurrency k = .ok stored := by
  cases flow with
  | authorize =>
    obtain ⟨o, rfl, -⟩ := Reader.object_eq_ok_iff.mp h
    obtain rfl : r.currency = stored := Option.some.inj hs
    exact Object.required_eq_ok_iff.mp (AuthorizeData.read_obj_eq_ok_iff.mp h).2.1
  | capture =>
    obtain ⟨o, rfl, -⟩ := Reader.object_eq_ok_iff.mp h
    obtain rfl : r.currency = stored := Option.some.inj hs
    exact Object.required_eq_ok_iff.mp (CaptureData.read_obj_eq_ok_iff.mp h).2.1
  | void => exact absurd hs (by simp [currency?])
  | psync => exact absurd hs (by simp [currency?])
  | refund =>
    obtain ⟨o, rfl, -⟩ := Reader.object_eq_ok_iff.mp h
    obtain rfl : r.currency = stored := Option.some.inj hs
    exact Object.required_eq_ok_iff.mp (RefundData.read_obj_eq_ok_iff.mp h).2.2.2.1
  | rsync =>
    obtain ⟨o, rfl, -⟩ := Reader.object_eq_ok_iff.mp h
    obtain rfl : r.currency = stored := Option.some.inj hs
    exact Object.required_eq_ok_iff.mp (RefundData.read_obj_eq_ok_iff.mp h).2.2.2.1

/-- The flows whose bodies carry a currency. -/
def sendsCurrency : Flow → Bool
  | authorize => true
  | capture => true
  | refund => true
  | _ => false

end Flow

/-- A body carries the currency of its request as it is kept. -/
theorem Call.get?_currency_of_build {flow : Flow} {c : Call flow} {amount : Json}
    {b : flow.Body} {stored : String} (hflow : flow.sendsCurrency = true)
    (hs : flow.currency? c.request = some stored) (hb : (c.build amount).value = .ok b) :
    (flow.wireBody b).get? "currency" = some (.str stored) := by
  cases flow with
  | authorize =>
    obtain ⟨a, country, card, callback, minor, -, -, -, -, -, rfl⟩ := of_paymentBody hb
    obtain rfl : c.request.currency = stored := Option.some.inj hs
    rfl
  | capture =>
    obtain rfl : c.captureBody = b := Except.ok.inj hb
    obtain rfl : c.request.currency = stored := Option.some.inj hs
    rfl
  | refund =>
    obtain ⟨text, -, rfl⟩ := of_refundBody hb
    obtain rfl : c.request.currency = stored := Option.some.inj hs
    rfl
  | void => exact absurd hflow (by decide)
  | psync => exact absurd hflow (by decide)
  | rsync => exact absurd hflow (by decide)

/-- What is kept, and sent, is the input in capitals. It has three characters and is read again
as itself just if each character of the input has a capital of one character; otherwise it is
longer and is not read again. -/
theorem Flow.stored_currency_of_readRequest (flow : Flow) {j : Json} {r : flow.Request}
    {stored : String} (h : flow.readRequest j = .ok r) (hs : flow.currency? r = some stored) :
    ∃ given, j.get? "currency" = some (.str given) ∧ given.length = 3 ∧ stored = upper given ∧
      ((∀ c ∈ given.toList, OneCapital c) →
        stored.length = 3 ∧ readCurrency (.str stored) = .ok stored) ∧
      ((¬ ∀ c ∈ given.toList, OneCapital c) →
        3 < stored.length ∧ readCurrency (.str stored) = .fail (.rule .currencyLength)) ∧
      ∀ (c : Call flow) (amount : Json) (b : flow.Body), flow.sendsCurrency = true →
        c.request = r → (c.build amount).value = .ok b →
          (flow.wireBody b).get? "currency" = some (.str stored) := by
  obtain ⟨k, hget, hread⟩ := flow.readCurrency_of_readRequest h hs
  obtain ⟨given, rfl, hlength, rfl⟩ := readCurrency_eq_ok_iff.mp hread
  refine ⟨given, hget, hlength, rfl, ?_, ?_, ?_⟩
  · intro hcapitals
    have hupper : (upper given).length = 3 := (length_upper_eq_iff.mpr hcapitals).trans hlength
    exact ⟨hupper, by rw [readCurrency_upper, if_pos hupper]⟩
  · intro hcapitals
    have hne : (upper given).length ≠ 3 := by
      intro hupper
      exact hcapitals (length_upper_eq_iff.mp (hupper.trans hlength.symm))
    have hle := length_le_upper given
    exact ⟨by omega, by rw [readCurrency_upper, if_neg hne]⟩
  · rintro c amount b hflow rfl hb
    exact c.get?_currency_of_build hflow hs hb

/-- The request of a capture in a currency. -/
def captureInput (currency : String) : Json :=
  .obj [
    ("amount_to_capture", .int 5),
    ("currency", .str currency),
    ("connector_transaction_id", .str "t")]

/-- A dotless i, a long s and a y with a diaeresis have capitals of one character each. -/
theorem dotless_currency_stored :
    CaptureData.read (captureInput "ıſÿ") = .ok ⟨5, "ISŸ", "t"⟩ ∧
      readCurrency (.str "ISŸ") = .ok "ISŸ" := by
  have hread : CaptureData.read (captureInput "ıſÿ") = .ok ⟨5, "ISŸ", "t"⟩ := rfl
  have hcapitals : "ıſÿ".toList.all (fun c => decide (OneCapital c)) = true := by decide
  obtain ⟨given, hgiven, -, -, hnormal, -⟩ :=
    Flow.stored_currency_of_readRequest .capture hread rfl
  obtain rfl : "ıſÿ" = given := Json.str.inj (Option.some.inj hgiven)
  exact ⟨hread, (hnormal (by simpa using hcapitals)).2⟩

/-- With a sharp s, four characters are kept, which are not read again. -/
theorem sharpS_currency_outgrows :
    CaptureData.read (captureInput "ßab") = .ok ⟨5, "SSAB", "t"⟩ ∧ "SSAB".length = 4 ∧
      CaptureData.read (captureInput "SSAB") =
        .failed [⟨["currency"], .rule .currencyLength⟩] := ⟨rfl, rfl, rfl⟩

end PaymentConnector
