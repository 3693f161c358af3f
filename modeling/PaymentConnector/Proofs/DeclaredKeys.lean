import PaymentConnector.Proofs.DeepTexts
import PaymentConnector.Proofs.TextAnswers

/-!
The keys that a response is read through. Two payloads whose objects agree on the keys of the
schema of a flow lead to the same outcome and the same records, whatever else is in them and in
whatever order it comes.
-/

namespace PaymentConnector

namespace Json

/-- The same value: equal, apart from the order in which the keys of objects come. -/
inductive Same : Json → Json → Prop
  | null : Same null null
  | bool (b : Bool) : Same (bool b) (bool b)
  | int (n : Int) : Same (int n) (int n)
  | float (x : Binary64) : Same (float x) (float x)
  | str (s : String) : Same (str s) (str s)
  | arr {items items' : List Json} (hlength : items.length = items'.length)
      (hitems : ∀ (i : Nat) (j j' : Json), items[i]? = some j → items'[i]? = some j' → Same j j') :
      Same (arr items) (arr items')
  | obj {o o' : Object} (hkeys : ∀ key, o.get? key = none ↔ o'.get? key = none)
      (hvalues : ∀ key j j', o.get? key = some j → o'.get? key = some j' → Same j j') :
      Same (obj o) (obj o')

theorem Same.refl (j : Json) : Same j j := by
  induction j using Json.treeInduction with
  | null => exact .null
  | bool b => exact .bool b
  | int n => exact .int n
  | float x => exact .float x
  | str s => exact .str s
  | arr items ih =>
    refine .arr rfl fun i j j' hj hj' => ?_
    obtain rfl := Option.some.inj (hj.symm.trans hj')
    exact ih j (List.mem_of_getElem? hj)
  | obj entries ih =>
    refine .obj (fun _ => Iff.rfl) fun key j j' hj hj' => ?_
    obtain rfl := Option.some.inj (hj.symm.trans hj')
    exact ih (key, j) (mem_of_get? hj)

theorem Same.null_iff {j j' : Json} (h : Same j j') : j = .null ↔ j' = .null := by
  cases h <;> simp

end Json

/-! Fields that agree -/

/-- A reader that does not see the order of keys. -/
def Reader.IgnoresOrder {α : Type} (read : Reader α) : Prop :=
  ∀ j j', Json.Same j j' → read j = read j'

theorem ignoresOrder_readString : readString.IgnoresOrder := by
  intro j j' h
  cases h <;> rfl

theorem ignoresOrder_vocabulary (α : Type) [Vocabulary α] :
    (Vocabulary.read α).IgnoresOrder := by
  intro j j' h
  cases h <;> rfl

theorem ignoresOrder_readUrl : readUrl.IgnoresOrder := by
  intro j j' h
  cases h <;> rfl

namespace Object

variable {α : Type} {o o' : Object} {key : String} {read : Reader α}

/-- Two objects agree on a key: neither has it, or both have it with the same value. -/
def AgreeAt (o o' : Object) (key : String) : Prop :=
  (o.get? key = none ∧ o'.get? key = none) ∨
    ∃ j j', o.get? key = some j ∧ o'.get? key = some j' ∧ j.Same j'

theorem AgreeAt.required_eq (h : o.AgreeAt o' key) (hread : read.IgnoresOrder) :
    o.required key read = o'.required key read := by
  unfold required
  rcases h with ⟨hnone, hnone'⟩ | ⟨j, j', hj, hj', hsame⟩
  · rw [hnone, hnone']
  · simp only [hj, hj', hread j j' hsame]

theorem AgreeAt.defaulted_eq (h : o.AgreeAt o' key) (hread : read.IgnoresOrder) (value : α) :
    o.defaulted key value read = o'.defaulted key value read := by
  unfold defaulted
  rcases h with ⟨hnone, hnone'⟩ | ⟨j, j', hj, hj', hsame⟩
  · rw [hnone, hnone']
  · simp only [hj, hj', hread j j' hsame]

theorem optional_eq_of_some {j j' : Json} (hj : o.get? key = some j) (hj' : o'.get? key = some j')
    (hnull : j = .null ↔ j' = .null) (hread : read j = read j') :
    o.optional key read = o'.optional key read := by
  by_cases h : j = .null
  · rw [optional_of_isVoid (Or.inr (h ▸ hj)), optional_of_isVoid (Or.inr (hnull.mp h ▸ hj'))]
  · rw [optional_of_get? hj h, optional_of_get? hj' (fun h' => h (hnull.mpr h')), hread]

theorem AgreeAt.optional_eq (h : o.AgreeAt o' key) (hread : read.IgnoresOrder) :
    o.optional key read = o'.optional key read := by
  rcases h with ⟨hnone, hnone'⟩ | ⟨j, j', hj, hj', hsame⟩
  · rw [optional_of_isVoid (Or.inl hnone), optional_of_isVoid (Or.inl hnone')]
  · exact optional_eq_of_some hj hj' hsame.null_iff (hread j j' hsame)

/-- Two objects agree on the result of a 3-D Secure check: on the whole of it, or on the address
that it redirects to. -/
def AgreeOnThreeDs (o o' : Object) : Prop :=
  o.AgreeAt o' "three_dsecure" ∨ ∃ d d' : Object, o.get? "three_dsecure" = some (.obj d) ∧
    o'.get? "three_dsecure" = some (.obj d') ∧ d.AgreeAt d' "redirect_url"

theorem readThreeDs_eq {d d' : Object} (h : d.AgreeAt d' "redirect_url") :
    Wire.ThreeDsResult.read (.obj d) = Wire.ThreeDsResult.read (.obj d') := by
  simp only [Wire.ThreeDsResult.read, Reader.model, Reader.object,
    h.optional_eq ignoresOrder_readUrl]

theorem ignoresOrder_readThreeDs : Wire.ThreeDsResult.read.IgnoresOrder := by
  intro j j' h
  cases h with
  | @obj o o' hkeys hvalues =>
    apply readThreeDs_eq
    cases hget : o.get? "redirect_url" with
    | none => exact Or.inl ⟨hget, (hkeys _).mp hget⟩
    | some j =>
      cases hget' : o'.get? "redirect_url" with
      | none =>
        rw [(hkeys _).mpr hget'] at hget
        cases hget
      | some j' => exact Or.inr ⟨j, j', hget, hget', hvalues _ j j' hget hget'⟩
  | _ => rfl

theorem AgreeOnThreeDs.optional_eq (h : o.AgreeOnThreeDs o') :
    o.optional "three_dsecure" Wire.ThreeDsResult.read =
      o'.optional "three_dsecure" Wire.ThreeDsResult.read := by
  rcases h with h | ⟨d, d', hd, hd', hurl⟩
  · exact h.optional_eq ignoresOrder_readThreeDs
  · exact optional_eq_of_some hd hd' (by simp) (readThreeDs_eq hurl)

end Object

/-! Answers that agree -/

namespace Flow

/-- The keys of the schema of a flow's answer, apart from the 3-D Secure check. -/
def answerKeys : Flow → List String
  | authorize => ["status", "id", "order_id"]
  | capture => ["status", "id", "order_id"]
  | psync => ["status", "id", "order_id"]
  | void => ["status", "order_id"]
  | refund => ["id", "status"]
  | rsync => ["id", "status"]

/-- Two objects agree on what the schema of a flow's answer declares. -/
structure Agree (flow : Flow) (o o' : Object) : Prop where
  keys : ∀ key ∈ flow.answerKeys, o.AgreeAt o' key
  threeDs : flow = authorize → o.AgreeOnThreeDs o'

section

variable {o o' : Object}

theorem readPayment_eq_of_agree (hstatus : o.AgreeAt o' "status") (hid : o.AgreeAt o' "id")
    (hthree : o.AgreeOnThreeDs o') (horder : o.AgreeAt o' "order_id") :
    Wire.PaymentResponse.read (.obj o) = Wire.PaymentResponse.read (.obj o') := by
  simp only [Wire.PaymentResponse.read, Reader.model, Reader.object, Wire.readStatus,
    hstatus.defaulted_eq (ignoresOrder_vocabulary _), hid.required_eq ignoresOrder_readString,
    hthree.optional_eq, horder.optional_eq ignoresOrder_readString]

/-- Two kinds of answers are read through the same three keys, and differ in name only. -/
theorem readStatusIdOrder_eq_of_agree {γ : Type}
    (make : Wire.PaymentStatus → String → Option String → γ) (hstatus : o.AgreeAt o' "status")
    (hid : o.AgreeAt o' "id") (horder : o.AgreeAt o' "order_id") :
    (make <$> Wire.readStatus o <*> o.required "id" readString
        <*> o.optional "order_id" readString) =
      (make <$> Wire.readStatus o' <*> o'.required "id" readString
        <*> o'.optional "order_id" readString) := by
  simp only [Wire.readStatus, hstatus.defaulted_eq (ignoresOrder_vocabulary _),
    hid.required_eq ignoresOrder_readString, horder.optional_eq ignoresOrder_readString]

theorem readCancel_eq_of_agree (hstatus : o.AgreeAt o' "status")
    (horder : o.AgreeAt o' "order_id") :
    Wire.CancelResponse.read (.obj o) = Wire.CancelResponse.read (.obj o') := by
  simp only [Wire.CancelResponse.read, Reader.model, Reader.object, Wire.readStatus,
    hstatus.defaulted_eq (ignoresOrder_vocabulary _), horder.required_eq ignoresOrder_readString]

theorem readRefund_eq_of_agree (hid : o.AgreeAt o' "id") (hstatus : o.AgreeAt o' "status") :
    Wire.RefundResponse.read (.obj o) = Wire.RefundResponse.read (.obj o') := by
  simp only [Wire.RefundResponse.read, Reader.model, Reader.object,
    hid.required_eq ignoresOrder_readString, hstatus.defaulted_eq (ignoresOrder_vocabulary _)]

theorem readAnswer_eq_of_agree (flow : Flow) (h : flow.Agree o o') :
    flow.readAnswer (.obj o) = flow.readAnswer (.obj o') := by
  have hkey (key : String) (hmem : key ∈ flow.answerKeys) := h.keys key hmem
  cases flow with
  | authorize =>
    exact readPayment_eq_of_agree (hkey "status" (by decide)) (hkey "id" (by decide))
      (h.threeDs rfl) (hkey "order_id" (by decide))
  | capture =>
    exact readStatusIdOrder_eq_of_agree Wire.CaptureResponse.mk (hkey "status" (by decide))
      (hkey "id" (by decide)) (hkey "order_id" (by decide))
  | psync =>
    exact readStatusIdOrder_eq_of_agree Wire.SyncResponse.mk (hkey "status" (by decide))
      (hkey "id" (by decide)) (hkey "order_id" (by decide))
  | void =>
    exact readCancel_eq_of_agree (hkey "status" (by decide)) (hkey "order_id" (by decide))
  | refund => exact readRefund_eq_of_agree (hkey "id" (by decide)) (hkey "status" (by decide))
  | rsync => exact readRefund_eq_of_agree (hkey "id" (by decide)) (hkey "status" (by decide))

end

end Flow

namespace Call

variable {flow : Flow} {p p' : Wire.Payload} {o o' : Object}

/-- A payload that holds an object leads where the object leads. -/
theorem respond_eq_of_holds (c : Call flow) (h : p.Holds o) :
    c.respond p = c.respond (.value (.obj o)) := by
  rw [respond, respond, Flow.answer, Flow.answer, h.parse_eq]

/-- The outcome and the records depend on the declared keys alone. -/
theorem respond_eq_of_agree (c : Call flow) (h : p.Holds o) (h' : p'.Holds o')
    (hagree : flow.Agree o o') : c.respond p = c.respond p' := by
  rw [c.respond_eq_of_holds h, c.respond_eq_of_holds h', respond, respond, Flow.answer, Flow.answer,
    Wire.Payload.parse, Wire.Payload.parse, (Wire.Payload.Holds.object o).read_eq,
    (Wire.Payload.Holds.object o').read_eq, flow.readAnswer_eq_of_agree hagree]

/-- The entries of an answer in which a key comes again. -/
def repeatedEntries : List (String × String) :=
  [("order_id", "o-0"), ("status", "CANCELLED"), ("order_id", "o-1")]

/-- The same answer in another order, with a key that no schema of cancellations declares. -/
def reorderedAnswer : Object :=
  [("id", .int 7), ("status", .str "CANCELLED"), ("order_id", .str "o-1")]

theorem reordered_respond_eq :
    cancellation.respond
        (.value (.str (String.ofList (Json.bareText (Json.plainMembers repeatedEntries))))) =
      cancellation.respond (.value (.obj reorderedAnswer)) := by
  have hplain : ∀ e ∈ repeatedEntries, Json.IsPlain e.1 ∧ Json.IsPlain e.2 := by decide
  refine cancellation.respond_eq_of_agree (Wire.Payload.holds_plainMembers hplain)
    (.object reorderedAnswer) ⟨?_, by simp⟩
  simp only [Flow.answerKeys, List.forall_mem_cons, List.not_mem_nil, false_implies, implies_true,
    and_true]
  exact ⟨Or.inr ⟨_, _, rfl, rfl, .refl _⟩, Or.inr ⟨_, _, rfl, rfl, .refl _⟩⟩

/-- The entries of an answer that tells of its order alone. -/
def orderEntries : List (String × String) := [("order_id", "o-1")]

def orderText : List Char := Json.bareText (Json.plainMembers orderEntries)

/-- The text of the same answer with lists under a key that no schema declares, too deep inside
one another. -/
def deepOrderText : List Char := Json.deepText orderEntries "x" 249

/-- The objects of two texts agree on all declared keys, and only one of them is taken in. -/
theorem deepOrderText_refused :
    Json.JsonText .characters (.obj [("order_id", .str "o-1")]) orderText ∧
      Json.JsonText .characters (.obj [("order_id", .str "o-1"), ("x", Json.nested 249)])
        deepOrderText ∧
      Flow.void.Agree [("order_id", .str "o-1")]
        [("order_id", .str "o-1"), ("x", Json.nested 249)] ∧
      (∃ c', (cancellation.respond (.value (.str (String.ofList orderText)))).value = .ok c') ∧
      ∀ c', (cancellation.respond (.value (.str (String.ofList deepOrderText)))).value ≠
        .ok c' := by
  have hplain : ∀ e ∈ orderEntries, Json.IsPlain e.1 ∧ Json.IsPlain e.2 := by decide
  have hkey : Json.IsPlain "x" := by decide
  refine ⟨Json.jsonText_plainMembers hplain, Json.jsonText_deepText hplain hkey 249,
    ⟨?_, by simp⟩, ?_, ?_⟩
  · simp only [Flow.answerKeys, List.forall_mem_cons, List.not_mem_nil, false_implies,
      implies_true, and_true]
    exact ⟨Or.inl ⟨rfl, rfl⟩, Or.inr ⟨_, _, rfl, rfl, .refl _⟩⟩
  · rw [orderText, cancellation.respond_eq_of_holds (Wire.Payload.holds_plainMembers hplain)]
    exact ⟨_, rfl⟩
  · intro c' hc'
    obtain ⟨o, -, -, ho, -⟩ := respond_eq_ok_iff_of_object.mp hc'
    exact Wire.Payload.not_holds_deepText hplain hkey (by decide) o
      (Wire.Payload.object?_eq_some_iff.mp ho)

end Call

end PaymentConnector
