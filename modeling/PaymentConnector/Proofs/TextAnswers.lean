import PaymentConnector.Connector.Response
import PaymentConnector.Proofs.AgreeingReaders
import PaymentConnector.Proofs.EncodedTexts
import PaymentConnector.Proofs.ReadTexts
import PaymentConnector.Proofs.WrittenTexts

/-!
Objects that arrive as text or as bytes. A schema reads the text that is written for an
object, and the bytes of that text, as it reads the object itself, if no number in it is too
long. So the call after a response does not depend on the form in which the response came, and
neither does an error reply; the records in the log are the same too. A number that is just
short enough to be written, but not together with its minus, is refused in a text.
-/

namespace PaymentConnector

open Text

namespace Json

/-- A text that is written for a value, on one line or on many. A value with a number that has
too many digits is not written. -/
inductive Written (j : Json) : List Char → Prop
  | onOneLine (h : j.NumbersFit .digits) : Written j j.compact
  | onLines (h : j.NumbersFit .digits) : Written j (j.indented 0)

theorem Written.verdict_eq {j : Json} {t : List Char} (h : Written j t) {d : Dialect}
    (hkeys : j.KeysDistinct) (hfree : j.FloatFree) (hnumbers : j.NumbersFit d.numbers)
    (hdepth : j.depth ≤ d.depth) : verdict d t = .ok j := by
  cases h with
  | onOneLine => exact layout_compact.verdict_write hkeys hnumbers hdepth hfree 0
  | onLines => exact layout_indented.verdict_write hkeys hnumbers hdepth hfree 0

/-- A text is refused where a number of its value is too long. -/
theorem Written.verdict_ne_ok {j : Json} {t : List Char} (h : Written j t) {d : Dialect}
    (hd : d.repairSurrogates = false) (hkeys : j.KeysDistinct) (hfree : j.FloatFree)
    (hlong : ¬ j.NumbersFit d.numbers) (v : Json) : verdict d t ≠ .ok v := by
  intro hread
  obtain ⟨k, hk, -, -⟩ := (verdict_eq_ok_iff hd).mp hread
  have hfits : j.NumbersFit .digits := by cases h <;> assumption
  -- a reader that counts digits finds the value, so no other value has this text
  have hwritten : verdict ⟨max j.depth k.depth, false, .digits, false⟩ t = .ok j :=
    h.verdict_eq hkeys hfree hfits (Nat.le_max_left _ _)
  have hspelled : verdict ⟨max j.depth k.depth, false, .digits, false⟩ t = .ok k.merged :=
    JsonText.verdict_eq hk.digits (Dialect.reaches_of_depth_le (Nat.le_max_right _ _))
  obtain ⟨p, hp, -⟩ := hk
  have hsame : j = k.merged := Except.ok.inj (hwritten.symm.trans hspelled)
  rw [hsame] at hlong
  exact hlong hp.numbersFit.merged

end Json

namespace Wire.Payload

/-- The forms in which an object arrives. -/
inductive Carries (o : Object) : Payload → Prop
  | value : Carries o (.value (.obj o))
  | text {t : List Char} (h : (Json.obj o).Written t) : Carries o (.value (.str (String.ofList t)))
  | bytes {t : List Char} (h : (Json.obj o).Written t) : Carries o (.bytes (Utf8.encode t))

section

variable {α : Type} {o : Object} {p : Payload}

theorem readText_of_verdict {j : Json} {t : List Char} (h : Json.verdict dialect t = .ok j)
    (reader : Reader α) : readText reader t = reader j := by
  rw [readText, Json.read_eq_ok_iff.mpr h]

theorem readText_of_refused {t : List Char} (h : ∀ v, Json.verdict dialect t ≠ .ok v)
    (reader : Reader α) : readText reader t = malformed := by
  rw [readText]
  cases hread : Json.read dialect t with
  | error f => rfl
  | ok j => exact absurd (Json.read_eq_ok_iff.mp hread) (h j)

theorem Carries.read_eq (h : p.Carries o) (hkeys : (Json.obj o).KeysDistinct)
    (hfree : (Json.obj o).FloatFree) (hnumbers : (Json.obj o).NumbersFit .characters)
    (hdepth : (Json.obj o).depth ≤ Json.commonDepth) (reader : Reader α) :
    p.read reader = reader (.obj o) := by
  have hdeep : (Json.obj o).depth ≤ dialect.depth := Nat.le_trans hdepth (by decide)
  cases h with
  | value => rfl
  | text h =>
    rw [read, String.toList_ofList]
    exact readText_of_verdict (h.verdict_eq hkeys hfree hnumbers hdeep) reader
  | bytes h =>
    rw [read, Utf8.decode_encode]
    exact readText_of_verdict (h.verdict_eq hkeys hfree hnumbers hdeep) reader

theorem Carries.parse_eq (h : p.Carries o) (hkeys : (Json.obj o).KeysDistinct)
    (hfree : (Json.obj o).FloatFree) (hnumbers : (Json.obj o).NumbersFit .characters)
    (hdepth : (Json.obj o).depth ≤ Json.commonDepth) (name : String) (reader : Reader α) :
    p.parse name reader = (Payload.value (.obj o)).parse name reader := by
  have hvalue : (Payload.value (.obj o)).read reader = reader (.obj o) := rfl
  rw [parse, parse, h.read_eq hkeys hfree hnumbers hdepth reader, hvalue]

end

end Wire.Payload

namespace Call

variable {flow : Flow}

/-- An object leads to the same call and the same records in whatever form it arrives, if no
number in it is too long for a text. -/
theorem respond_eq_of_carries (c : Call flow) {o : Object} {p : Wire.Payload}
    (hkeys : (Json.obj o).KeysDistinct) (hfree : (Json.obj o).FloatFree)
    (hnumbers : (Json.obj o).NumbersFit .characters)
    (hdepth : (Json.obj o).depth ≤ Json.commonDepth) (hp : p.Carries o) :
    c.respond p = c.respond (.value (.obj o)) ∧
      ∀ statusCode : Json,
        ErrorReply.ofPayload p statusCode = ErrorReply.ofPayload (.value (.obj o)) statusCode := by
  constructor
  · have hanswer : flow.answer p = flow.answer (.value (.obj o)) := by
      rw [Flow.answer, Flow.answer, hp.parse_eq hkeys hfree hnumbers hdepth]
    rw [respond, respond, hanswer]
  · intro statusCode
    rw [ErrorReply.ofPayload, ErrorReply.ofPayload, hp.parse_eq hkeys hfree hnumbers hdepth]

/-- A cancellation that waits for its answer. -/
def cancellation : Call .void where
  envelope :=
    { merchantId := "m"
      paymentId := "p"
      attemptId := "a"
      connector := "dlocal"
      status := .started
      authentication := .noThreeDs
      credentials := .noKey
      description := none
      returnUrl := none
      billing := none
      reference := "r" }
  request := ⟨"t", none⟩
  response := none

/-- An answer with nested values, characters that are escaped and a pair of surrogates. -/
def cancelled : Object :=
  [("status", .str "CANCELLED"),
   ("order_id", .str "Ärger\n\"🂡\""),
   ("tries", .arr [.int (-3), .obj [("\\", .null)], .arr []])]

/-- The cancellation after that answer. -/
def cancelledCall : Call .void :=
  cancellation.settle
    ⟨some .voided, .ofTransaction "Ärger\n\"🂡\"" (some "Ärger\n\"🂡\"") none, ""⟩

theorem keysDistinct_cancelled : (Json.obj cancelled).KeysDistinct := by
  intro o ho
  simp [cancelled] at ho
  rcases ho with rfl | rfl
  · decide
  · decide

theorem floatFree_cancelled : (Json.obj cancelled).FloatFree := by
  intro x hx
  simp [cancelled] at hx

theorem numbersFit_cancelled (l : Json.NumberLimit) : (Json.obj cancelled).NumbersFit l := by
  intro n hn
  simp [cancelled] at hn
  subst hn
  cases l <;> decide

theorem cancellation_respond_eq :
    cancellation.respond (.bytes (Utf8.encode ((Json.obj cancelled).indented 0))) =
        cancellation.respond (.value (.obj cancelled)) ∧
      (cancellation.respond (.value (.obj cancelled))).value = .ok cancelledCall := by
  have hagree := cancellation.respond_eq_of_carries keysDistinct_cancelled floatFree_cancelled
    (numbersFit_cancelled _) (by decide) (.bytes (.onLines (numbersFit_cancelled _)))
  exact ⟨hagree.1, rfl⟩

/-- An answer with a number behind a minus. -/
def signedAnswer (k : Nat) : Object := [("order_id", .str "o-1"), ("x", .int (-(k : Int)))]

theorem part_int_signedAnswer {k : Nat} {n : Int} :
    Json.Part (.int n) (.obj (signedAnswer k)) ↔ n = -(k : Int) := by
  simp [signedAnswer]

theorem keysDistinct_signedAnswer (k : Nat) : (Json.obj (signedAnswer k)).KeysDistinct := by
  intro o ho
  simp [signedAnswer] at ho
  rw [ho]
  simp

theorem floatFree_signedAnswer (k : Nat) : (Json.obj (signedAnswer k)).FloatFree := by
  intro x hx
  simp [signedAnswer] at hx

theorem depth_signedAnswer_le (k : Nat) :
    (Json.obj (signedAnswer k)).depth ≤ Json.commonDepth := by
  simp [signedAnswer, Json.depth, Json.entriesDepth, Json.commonDepth]

/-- A number with as many digits as are read is written behind a minus, but not read there. -/
theorem written_signedAnswer {k : Nat} (hk : (Nat.toDigits 10 k).length = Json.digitLimit)
    (hpos : 0 < k) :
    (Json.obj (signedAnswer k)).Written (Json.obj (signedAnswer k)).compact ∧
      ¬ (Json.obj (signedAnswer k)).NumbersFit .characters := by
  constructor
  · refine .onOneLine fun n hn => ?_
    rw [part_int_signedAnswer.mp hn]
    show (Nat.toDigits 10 (-(k : Int)).natAbs).length ≤ Json.digitLimit
    rw [Int.natAbs_neg, Int.natAbs_natCast, hk]
  · intro h
    have htakes := h _ (part_int_signedAnswer.mpr rfl)
    exact absurd hk (Nat.ne_of_lt ((Json.NumberLimit.takes_neg_iff hpos).mp htakes))

/-- Such an answer is taken as an object, and refused as the text that is written for it. -/
theorem signedAnswer_refused {k : Nat} (hk : (Nat.toDigits 10 k).length = Json.digitLimit)
    (hpos : 0 < k) :
    Wire.Payload.Carries (signedAnswer k)
        (.value (.str (String.ofList (Json.obj (signedAnswer k)).compact))) ∧
      (∃ c, (cancellation.respond (.value (.obj (signedAnswer k)))).value = .ok c) ∧
      (cancellation.respond
        (.value (.str (String.ofList (Json.obj (signedAnswer k)).compact)))).value =
          .error (.refused (ErrorCause.unreadable Flow.void.answerName).named) := by
  obtain ⟨hwritten, hlong⟩ := written_signedAnswer hk hpos
  have hrefused : ∀ v,
      Json.verdict Wire.Payload.dialect (Json.obj (signedAnswer k)).compact ≠ .ok v :=
    hwritten.verdict_ne_ok rfl (keysDistinct_signedAnswer k) (floatFree_signedAnswer k) hlong
  refine ⟨.text hwritten, ⟨_, rfl⟩, ?_⟩
  simp [respond, Flow.answer, Wire.Payload.parse, Wire.Payload.read, Flow.readAnswer,
    Wire.Payload.readText_of_refused hrefused, Wire.Payload.malformed, Checked.fail]
  rfl

/-- The answer with the least number of as many digits as are read. -/
def longAnswer : Object := signedAnswer (Json.leastOfLength Json.digitLimit)

theorem longAnswer_refused :
    ((Json.obj longAnswer).KeysDistinct ∧ (Json.obj longAnswer).FloatFree ∧
      (Json.obj longAnswer).depth ≤ Json.commonDepth) ∧
      Wire.Payload.Carries longAnswer
        (.value (.str (String.ofList (Json.obj longAnswer).compact))) ∧
      (∃ c, (cancellation.respond (.value (.obj longAnswer))).value = .ok c) ∧
      (cancellation.respond
        (.value (.str (String.ofList (Json.obj longAnswer).compact)))).value =
          .error (.refused (ErrorCause.unreadable Flow.void.answerName).named) :=
  ⟨⟨keysDistinct_signedAnswer _, floatFree_signedAnswer _, depth_signedAnswer_le _⟩,
    signedAnswer_refused (Json.length_leastOfLength (by decide)) (Json.leastOfLength_pos _)⟩

end Call

end PaymentConnector
