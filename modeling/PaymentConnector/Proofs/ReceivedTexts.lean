import PaymentConnector.Proofs.HeldTexts
import PaymentConnector.Proofs.PayloadAnswers
import PaymentConnector.Proofs.ReportResults
import PaymentConnector.Proofs.TextAnswers

/-!
Responses that the program reads, beside responses that the connector is handed as text. A
text is received as the object that it stands for, and in no other case. The program hands on
the value that it has read; so it takes what the connector takes, and besides that a text that
stands for a string, whose characters are read once more.
-/

namespace PaymentConnector

/-- The reader takes nothing but objects. -/
def Reader.TakesObjects {α : Type} (reader : Reader α) : Prop :=
  ∀ j a, reader j = .ok a → ∃ o, j = .obj o

theorem Reader.takesObjects_model {α : Type} (name : String) (fields : Object → Checked α) :
    (Reader.model name fields).TakesObjects := by
  intro j a h
  cases j with
  | obj o => exact ⟨o, rfl⟩
  | _ => exact absurd h (by simp [model, object, Checked.fail])

theorem Flow.takesObjects_readAnswer (flow : Flow) : flow.readAnswer.TakesObjects := by
  cases flow with
  | authorize => exact Reader.takesObjects_model _ _
  | capture => exact Reader.takesObjects_model _ _
  | void => exact Reader.takesObjects_model _ _
  | psync => exact Reader.takesObjects_model _ _
  | refund => exact Reader.takesObjects_model _ _
  | rsync => exact Reader.takesObjects_model _ _

theorem Wire.ErrorPayload.takesObjects_read : Wire.ErrorPayload.read.TakesObjects :=
  Reader.takesObjects_model _ _

namespace Wire.Payload

theorem covers_strictDialect : dialect.Covers Json.strictDialect :=
  ⟨rfl, by decide, rfl, Or.inl rfl⟩

section

variable {α : Type} {reader : Reader α} {a : α}

/-- A reader of objects takes a text for the object that it stands for. -/
theorem read_text_eq_ok_iff (hreader : reader.TakesObjects) {t : List Char} :
    (value (.str (String.ofList t))).read reader = .ok a ↔
      ∃ o, Json.verdict dialect t = .ok (.obj o) ∧ reader (.obj o) = .ok a := by
  rw [read, String.toList_ofList, readText]
  cases hread : Json.read dialect t with
  | error f =>
    have hverdict : Json.verdict dialect t = .error f.cause := by
      rw [Json.verdict, hread]
      rfl
    rw [hverdict]
    simp [malformed, Checked.fail]
  | ok j =>
    have hverdict := Json.read_eq_ok_iff.mp hread
    rw [hverdict]
    constructor
    · intro h
      obtain ⟨o, rfl⟩ := hreader j a h
      exact ⟨o, rfl, h⟩
    · rintro ⟨o, ho, h⟩
      rw [Except.ok.inj ho]
      exact h

theorem exists_of_read_value {j : Json} (h : (value j).read reader = .ok a) :
    (∃ o, j = .obj o) ∨ ∃ s, j = .str s := by
  cases j with
  | obj o => exact Or.inl ⟨o, rfl⟩
  | str s => exact Or.inr ⟨s, rfl⟩
  | _ => exact absurd h (by simp [read, malformed, Checked.fail])

end

end Wire.Payload

namespace Call

variable {flow : Flow} {c c' : Call flow} {p : Wire.Payload} {statusCode : Int}

theorem respond_eq_ok_iff :
    (c.respond p).value = .ok c' ↔
      ∃ a s, p.read flow.readAnswer = .ok a ∧ flow.settle a = .ok s ∧ c' = c.settle s := by
  rcases (p.read flow.readAnswer).eq_ok_or_failed with ⟨a, ha⟩ | ⟨faults, hfaults⟩
  · obtain ⟨j, hj⟩ := Wire.Payload.exists_of_read ha
    obtain ⟨s, hs⟩ := flow.exists_settle hj
    have hanswer : (c.respond p).value = .ok (c.settle s) := by
      rw [respond, flow.answer_of_ok ha hs]
      rfl
    rw [hanswer, ha]
    constructor
    · intro h
      exact ⟨a, s, rfl, hs, (Except.ok.inj h).symm⟩
    · rintro ⟨b, u, hb, hu, rfl⟩
      obtain rfl := Checked.ok.inj hb
      rw [hs] at hu
      rw [Except.ok.inj hu]
  · have hanswer : (c.respond p).value = .error flow.unreadable := by
      rw [respond, flow.answer_of_failed hfaults]
      rfl
    rw [hanswer, hfaults]
    simp

end Call

/-- An error has a code that is not too long, and came with a status code that is not. -/
def Wire.ErrorPayload.Noted (e : Wire.ErrorPayload) (statusCode : Int) : Prop :=
  Json.FitsDigits e.code ∧ Json.FitsDigits statusCode

theorem ErrorReply.writtenIf_note_int (e : Wire.ErrorPayload) (statusCode : Int) :
    Json.WrittenIf (e.Noted statusCode) (note e (.int statusCode)) := by
  refine (writtenIf_note e (.int statusCode)).congr ?_
  rw [Json.NumbersFit.int_iff]
  exact Iff.rfl

theorem ErrorReply.ofPayload_eq_ok_iff {p : Wire.Payload} {statusCode : Int} {e : ErrorReply} :
    (ErrorReply.ofPayload p (.int statusCode)).value = .ok e ↔
      ∃ a, p.read Wire.ErrorPayload.read = .ok a ∧ a.Noted statusCode ∧
        e = ofError a statusCode := by
  rcases (p.read Wire.ErrorPayload.read).eq_ok_or_failed with ⟨a, ha⟩ | ⟨faults, hfaults⟩
  · have hwritten := writtenIf_note_int a statusCode
    cases hnote : note a (.int statusCode) with
    | ok text =>
      have hnoted := hwritten.exists_iff.mp ⟨text, hnote⟩
      rw [ofPayload_of_noted ha hnote, withStatus_int, ha]
      simp [eq_comm, hnoted]
    | error l =>
      have hlong := (hwritten.eq_error_iff.mp hnote).1
      rw [ofPayload_of_limit ha hnote, ha]
      simp [Logged.pure, hlong]
  · rw [ofPayload_of_failed hfaults, hfaults]
    simp

namespace Call

variable {flow : Flow} {c c' : Call flow} {p p' : Wire.Payload} {statusCode : Int}

/-- What is received depends only on what the readers of objects take. -/
theorem Receives.of_read (h : c.Receives p statusCode c')
    (hread : ∀ (α : Type) (reader : Reader α), reader.TakesObjects → ∀ a,
      p.read reader = .ok a → p'.read reader = .ok a) : c.Receives p' statusCode c' := by
  cases h with
  | reply hstatus h =>
    obtain ⟨a, s, ha, hs, rfl⟩ := respond_eq_ok_iff.mp h
    have ha' := hread _ _ flow.takesObjects_readAnswer a ha
    exact .reply hstatus (respond_eq_ok_iff.mpr ⟨a, s, ha', hs, rfl⟩)
  | error hstatus h =>
    obtain ⟨a, ha, hnoted, rfl⟩ := ErrorReply.ofPayload_eq_ok_iff.mp h
    have ha' := hread _ _ Wire.ErrorPayload.takesObjects_read a ha
    exact .error hstatus (ErrorReply.ofPayload_eq_ok_iff.mpr ⟨a, ha', hnoted, rfl⟩)

theorem Receives.exists_read (h : c.Receives p statusCode c') :
    ∃ (α : Type) (reader : Reader α) (a : α), reader.TakesObjects ∧ p.read reader = .ok a := by
  cases h with
  | reply hstatus h =>
    obtain ⟨a, s, ha, -, -⟩ := respond_eq_ok_iff.mp h
    exact ⟨_, _, a, flow.takesObjects_readAnswer, ha⟩
  | error hstatus h =>
    obtain ⟨a, ha, -, -⟩ := ErrorReply.ofPayload_eq_ok_iff.mp h
    exact ⟨_, _, a, Wire.ErrorPayload.takesObjects_read, ha⟩

/-- A text is received as the object that it stands for. -/
theorem receives_text_iff {t : List Char} :
    c.Receives (.value (.str (String.ofList t))) statusCode c' ↔
      ∃ o, Json.verdict Wire.Payload.dialect t = .ok (.obj o) ∧
        c.Receives (.value (.obj o)) statusCode c' := by
  constructor
  · intro h
    obtain ⟨α, reader, a, hreader, ha⟩ := h.exists_read
    obtain ⟨o, ho, -⟩ := (Wire.Payload.read_text_eq_ok_iff hreader).mp ha
    refine ⟨o, ho, h.of_read fun α reader hreader a ha => ?_⟩
    obtain ⟨o', ho', ha'⟩ := (Wire.Payload.read_text_eq_ok_iff hreader).mp ha
    rw [ho] at ho'
    obtain rfl := Json.obj.inj (Except.ok.inj ho')
    exact ha'
  · rintro ⟨o, ho, h⟩
    exact h.of_read fun α reader hreader a ha =>
      (Wire.Payload.read_text_eq_ok_iff hreader).mpr ⟨o, ho, ha⟩

/-- A text is not received if it stands for a string. -/
theorem not_receives_of_string {t : List Char} {s : String}
    (h : Json.verdict Json.commonDialect t = .ok (.str s)) (c' : Call flow) :
    ¬ c.Receives (.value (.str (String.ofList t))) statusCode c' := by
  intro hreceives
  obtain ⟨o, ho, -⟩ := receives_text_iff.mp hreceives
  rw [Json.verdict_eq_str rfl h] at ho
  exact absurd (Except.ok.inj ho) (by simp)

/-- A text is not received if a number in it is too long. -/
theorem not_receives_of_tooManyDigits {t : List Char} {count : Nat}
    (h : Json.verdict Json.strictDialect t = .error (.tooManyDigits count)) (c' : Call flow) :
    ¬ c.Receives (.value (.str (String.ofList t))) statusCode c' := by
  intro hreceives
  have hrefused : Json.verdict Wire.Payload.dialect t = .error (.tooManyDigits count) :=
    Json.verdict_of_tooManyDigits Json.keepsLines_id Wire.Payload.covers_strictDialect rfl h
  obtain ⟨o, ho, -⟩ := receives_text_iff.mp hreceives
  rw [hrefused] at ho
  cases ho

theorem Receives.exists_of_value {j : Json} (h : c.Receives (.value j) statusCode c') :
    (∃ o, j = .obj o) ∨ ∃ s, j = .str s := by
  obtain ⟨α, reader, a, -, ha⟩ := h.exists_read
  exact Wire.Payload.exists_of_read_value ha

end Call

namespace CommandLine.Invocation

open Text

variable {i : Invocation} {sources : Sources} {flow : Flow}
  {data response : String} {statusCode : Int} {call : Call flow} {t : List Char}

/-- What is printed for a response is the dump of the call that receives the value of its
text. -/
theorem printed_parse_iff (environment : Option String)
    (hcommand : i.command = some (.parse flow data response statusCode))
    (hname : i.NamesConnector) (hcall : sources.readCall flow data = .ok call)
    (ht : (sources.after data).Holds response t) (horderly : Json.Orderly t)
    {output : List Char} :
    Printed (i.report sources environment) output ↔
      ∃ j c' k, Json.verdict Json.commonDialect t = .ok j ∧
        call.Receives (.value j) statusCode c' ∧ c'.dump = .ok k ∧
          output = k.indented 0 ++ ['\n'] := by
  have hreport : i.report sources environment = reportOf i.verbose
      (i.result sources environment (.parse flow data response statusCode)) := by
    rw [report, hcommand]
  rw [hreport, printed_reportOf_iff, result_value hname, Command.run]
  simp only [Command.runParse_eq_ok_iff, ht.readJson_eq_ok_iff horderly, hcall, Except.ok.injEq]
  constructor
  · rintro ⟨k, ⟨_, j, c', rfl, hj, hreceives, hdump⟩, rfl⟩
    exact ⟨j, c', k, hj, hreceives, hdump, rfl⟩
  · rintro ⟨j, c', k, hj, hreceives, hdump, rfl⟩
    exact ⟨k, ⟨call, j, c', rfl, hj, hreceives, hdump⟩, rfl⟩

/-- What a cancellation is read from. -/
def cancellationInput : Object :=
  [("merchant_id", .str "m"),
   ("payment_id", .str "p"),
   ("attempt_id", .str "a"),
   ("connector", .str "dlocal"),
   ("connector_auth_type", .obj [("auth_type", .str "no_key")]),
   ("connector_request_reference_id", .str "r"),
   ("request", .obj [("connector_transaction_id", .str "t")])]

/-- A cancellation in one file and its answer in another. -/
def answeredFiles (answer : List Char) : Sources :=
  .ofFiles
    [("call.json", Utf8.encode (Json.obj cancellationInput).compact),
     ("answer.json", Utf8.encode answer)] []

/-- The program is to apply the answer to the cancellation. -/
def applyAnswer : Invocation :=
  ⟨connectorId, none, false, some (.parse .void "call.json" "answer.json" 200)⟩

theorem holds_call (answer : List Char) :
    (answeredFiles answer).Holds "call.json" (Json.obj cancellationInput).compact :=
  .file (by decide) (by simp) rfl (Utf8.decode_encode _)

theorem holds_answer (answer : List Char) :
    ((answeredFiles answer).after "call.json").Holds "answer.json" answer :=
  .file (by decide) (by simp) rfl (Utf8.decode_encode _)

theorem verdict_cancellationInput :
    Json.verdict Json.commonDialect (Json.obj cancellationInput).compact =
      .ok (.obj cancellationInput) := by
  have hkeys : (Json.obj cancellationInput).KeysDistinct := by
    intro o ho
    simp [cancellationInput] at ho
    rcases ho with rfl | rfl | rfl
    · decide
    · decide
    · decide
  have hfree : (Json.obj cancellationInput).FloatFree := by
    intro x hx
    simp [cancellationInput] at hx
  have hnumbers : (Json.obj cancellationInput).NumbersFit .digits := by
    intro n hn
    simp [cancellationInput] at hn
  exact (Json.Written.onOneLine hnumbers).verdict_eq hkeys hfree hnumbers (by decide)

theorem readCall_answeredFiles (answer : List Char) :
    (answeredFiles answer).readCall .void "call.json" = .ok Call.cancellation := by
  have horderly := Json.Orderly.of_verdict verdict_cancellationInput
  exact ((holds_call answer).readCall_eq_ok_iff horderly).mpr
    ⟨_, verdict_cancellationInput, rfl⟩

theorem namesConnector_applyAnswer : applyAnswer.NamesConnector :=
  String.toList_injective (by simp [applyAnswer, connectorId])

theorem cancellation_receives :
    Call.cancellation.Receives (.value (.obj Call.cancelled)) 200 Call.cancelledCall :=
  .reply (by decide) rfl

/-- The characters of an answer. -/
def answerText : List Char := (Json.obj Call.cancelled).compact

theorem verdict_answerText {d : Json.Dialect} (hd : Json.commonDepth ≤ d.depth) :
    Json.verdict d answerText = .ok (.obj Call.cancelled) :=
  (Json.Written.onOneLine (Call.numbersFit_cancelled _)).verdict_eq Call.keysDistinct_cancelled
    Call.floatFree_cancelled (Call.numbersFit_cancelled _) (Nat.le_trans (by decide) hd)

/-- The text of a string that holds the characters of an answer. -/
def quotedAnswer : List Char := Json.stringText (String.ofList answerText)

theorem verdict_quotedAnswer (d : Json.Dialect) :
    Json.verdict d quotedAnswer = .ok (.str (String.ofList answerText)) :=
  (Json.IsText.string _).verdict_eq (Nat.zero_le _)

/-- The program takes an answer inside quotes; the connector refuses its text. -/
theorem quotedAnswer_printed :
    Json.Moderate quotedAnswer ∧
      (answeredFiles quotedAnswer).readCall .void "call.json" = .ok Call.cancellation ∧
      ((answeredFiles quotedAnswer).after "call.json").Holds "answer.json" quotedAnswer ∧
      (∃ output, Printed (applyAnswer.report (answeredFiles quotedAnswer) none) output) ∧
      ∀ c', ¬ Call.cancellation.Receives (.value (.str (String.ofList quotedAnswer))) 200 c' := by
  have hinner : Call.cancellation.Receives (.value (.str (String.ofList answerText))) 200
      Call.cancelledCall :=
    Call.receives_text_iff.mpr ⟨_, verdict_answerText (by decide), cancellation_receives⟩
  refine ⟨.of_verdict (verdict_quotedAnswer _), readCall_answeredFiles _, holds_answer _,
    ⟨Call.cancelledCall.tree.indented 0 ++ ['\n'], ?_⟩, ?_⟩
  · exact (printed_parse_iff none rfl namesConnector_applyAnswer (readCall_answeredFiles _)
      (holds_answer _) (.of_verdict (verdict_quotedAnswer _))).mpr
        ⟨_, _, _, verdict_quotedAnswer _, hinner, rfl, rfl⟩
  · exact Call.not_receives_of_string (verdict_quotedAnswer _)

/-- The program takes a response as the connector takes its text, if the text stands for no
string and no number in it is too long. A text that stands for a string is refused by the
connector; the program takes it as the connector takes the characters of that string. A text
with too long a number is refused by the connector too; the program takes it for its value if
only digits count. What is taken is printed unless it is nested too deep. -/
theorem printed_parse_iff_receives (environment : Option String)
    (hcommand : i.command = some (.parse flow data response statusCode))
    (hname : i.NamesConnector) (hcall : sources.readCall flow data = .ok call)
    (ht : (sources.after data).Holds response t) (horderly : Json.Orderly t) :
    (Json.Moderate t → (∀ s, Json.verdict Json.commonDialect t ≠ .ok (.str s)) → ∀ output,
      (Printed (i.report sources environment) output ↔
        ∃ c' k, call.Receives (.value (.str (String.ofList t))) statusCode c' ∧
          c'.dump = .ok k ∧ output = k.indented 0 ++ ['\n'])) ∧
      (∀ s, Json.verdict Json.commonDialect t = .ok (.str s) →
        (∀ c', ¬ call.Receives (.value (.str (String.ofList t))) statusCode c') ∧
          ∀ output, (Printed (i.report sources environment) output ↔
            ∃ c' k, call.Receives (.value (.str s)) statusCode c' ∧
              c'.dump = .ok k ∧ output = k.indented 0 ++ ['\n'])) ∧
      ∀ count, Json.verdict Json.strictDialect t = .error (.tooManyDigits count) →
        (∀ c', ¬ call.Receives (.value (.str (String.ofList t))) statusCode c') ∧
          ∀ output, (Printed (i.report sources environment) output ↔
            ∃ j c' k, Json.verdict Json.commonDialect t = .ok j ∧
              call.Receives (.value j) statusCode c' ∧
              c'.dump = .ok k ∧ output = k.indented 0 ++ ['\n']) := by
  have hprinted {output : List Char} : Printed (i.report sources environment) output ↔
      ∃ j c' k, Json.verdict Json.commonDialect t = .ok j ∧
        call.Receives (.value j) statusCode c' ∧ c'.dump = .ok k ∧
          output = k.indented 0 ++ ['\n'] :=
    printed_parse_iff environment hcommand hname hcall ht horderly
  refine ⟨fun hmoderate hstring output => ?_, fun s hs => ?_, fun count hcount => ?_⟩
  · have hverdict : Json.verdict Wire.Payload.dialect t = Json.verdict Json.commonDialect t :=
      (hmoderate.verdict_eq Json.keepsLines_id Wire.Payload.covers_strictDialect).trans
        hmoderate.verdict_commonDialect.symm
    rw [hprinted]
    constructor
    · rintro ⟨j, c', k, hj, hreceives, hdump, rfl⟩
      rcases hreceives.exists_of_value with ⟨o, rfl⟩ | ⟨s, rfl⟩
      · exact ⟨c', k, Call.receives_text_iff.mpr ⟨o, hverdict.trans hj, hreceives⟩, hdump, rfl⟩
      · exact absurd hj (hstring s)
    · rintro ⟨c', k, hreceives, hdump, rfl⟩
      obtain ⟨o, ho, hobject⟩ := Call.receives_text_iff.mp hreceives
      exact ⟨.obj o, c', k, hverdict.symm.trans ho, hobject, hdump, rfl⟩
  · refine ⟨Call.not_receives_of_string hs, fun output => ?_⟩
    rw [hprinted]
    constructor
    · rintro ⟨j, c', k, hj, hreceives, hdump, rfl⟩
      rw [hs] at hj
      obtain rfl := Except.ok.inj hj
      exact ⟨c', k, hreceives, hdump, rfl⟩
    · rintro ⟨c', k, hreceives, hdump, rfl⟩
      exact ⟨.str s, c', k, hs, hreceives, hdump, rfl⟩
  · exact ⟨Call.not_receives_of_tooManyDigits hcount, fun output => hprinted⟩

theorem cancellation_printed :
    Printed (applyAnswer.report (answeredFiles answerText) none)
        (Call.cancelledCall.tree.indented 0 ++ ['\n']) ∧
      Call.cancelledCall.dump = .ok Call.cancelledCall.tree ∧
      Call.cancellation.Receives (.value (.str (String.ofList answerText))) 200
        Call.cancelledCall := by
  have hverdict {d : Json.Dialect} (hd : Json.commonDepth ≤ d.depth) :
      Json.verdict d answerText = .ok (.obj Call.cancelled) := verdict_answerText hd
  have hdump : Call.cancelledCall.dump = .ok Call.cancelledCall.tree := rfl
  have hreceives :=
    Call.receives_text_iff.mpr ⟨_, hverdict (by decide), cancellation_receives⟩
  have hprinted := printed_parse_iff_receives none rfl namesConnector_applyAnswer
    (readCall_answeredFiles answerText) (holds_answer answerText)
    (.of_verdict (hverdict (Nat.le_refl _)))
  refine ⟨(hprinted.1 (.of_verdict (hverdict (Nat.le_refl _))) (fun s hs => ?_) _).mpr
    ⟨_, _, hreceives, hdump, rfl⟩, hdump, hreceives⟩
  rw [hverdict (Nat.le_refl _)] at hs
  exact absurd (Except.ok.inj hs) (by simp)

end CommandLine.Invocation

end PaymentConnector
