import PaymentConnector.Proofs.ToldTroubles
import PaymentConnector.Proofs.WrittenTexts

/-!
The program ends well or tells of one error. It ends well just when the texts that stand behind
its arguments yield a result; then the output is a line break after a text in ASCII, which is
read back as the result unless the result holds fractional numbers. Otherwise there is no
output. One kind of text ends the program without a report: a whole number with more digits
than are read.
-/

namespace PaymentConnector

open Text

namespace CommandLine

namespace Invocation

variable {i : Invocation} {sources : Sources} {environment : Option String} {command : Command}
  {j : Json}

/-- What an invocation of the connector yields: the request of the call that a text stands for,
or the dump of that call after the response that another text stands for, if there is one. -/
inductive Yields (i : Invocation) (sources : Sources) (environment : Option String) :
    Command → Except Json.Limit Json → Prop
  | request {flow : Flow} {data : String} {amount : Option Int} {t : List Char} {k : Json}
      {call : Call flow} {body : flow.Body} (hname : i.NamesConnector)
      (ht : sources.Holds data t) (hk : Json.verdict Json.commonDialect t = .ok k)
      (hcall : Call.read flow .value k = .ok call)
      (hbody : (call.build (.ofOption .int amount)).value = .ok body) :
      Yields i sources environment (.build flow data amount)
        (.ok ((i.settings environment).requestDump body))
  | answered {flow : Flow} {data response : String} {statusCode : Int} {t t' : List Char}
      {k k' : Json} {call call' : Call flow} (hname : i.NamesConnector)
      (ht : sources.Holds data t) (hk : Json.verdict Json.commonDialect t = .ok k)
      (hcall : Call.read flow .value k = .ok call)
      (ht' : (sources.after data).Holds response t')
      (hk' : Json.verdict Json.commonDialect t' = .ok k')
      (hreceives : call.Receives (.value k') statusCode call') :
      Yields i sources environment (.parse flow data response statusCode) call'.dump

variable {x : Except Json.Limit Json}

/-- What an invocation yields is its result. -/
theorem Yields.result_eq (h : i.Yields sources environment command x) (hx : x = .ok j) :
    (i.result sources environment command).value = .ok j := by
  cases h with
  | request hname ht hk hcall hbody =>
    have hread := (ht.readCall_eq_ok_iff (Json.Orderly.of_verdict hk)).mpr ⟨_, hk, hcall⟩
    rw [result_value hname]
    exact Command.runBuild_eq_ok_iff.mpr ⟨_, _, hread, hbody, (Except.ok.inj hx).symm⟩
  | answered hname ht hk hcall ht' hk' hreceives =>
    have hread := (ht.readCall_eq_ok_iff (Json.Orderly.of_verdict hk)).mpr ⟨_, hk, hcall⟩
    have hread' := (ht'.readJson_eq_ok_iff (Json.Orderly.of_verdict hk')).mpr hk'
    rw [result_value hname]
    exact Command.runParse_eq_ok_iff.mpr ⟨_, _, _, hread, hread', hreceives, hx⟩

theorem yields_of_result (h : command.Offered sources)
    (hresult : (i.result sources environment command).value = .ok j) :
    i.Yields sources environment command (.ok j) := by
  by_cases hname : i.NamesConnector
  · rw [result_value hname] at hresult
    cases command with
    | build flow data amount =>
      obtain ⟨call, body, hcall, hbody, rfl⟩ := Command.runBuild_eq_ok_iff.mp hresult
      obtain ⟨t, k, ht, hk, hread⟩ := Sources.Offers.exists_of_readCall h hcall
      exact .request hname ht hk hread hbody
    | parse flow data response statusCode =>
      obtain ⟨hdata, hresponse⟩ := h
      obtain ⟨call, k', call', hcall, hk', hreceives, hdump⟩ :=
        Command.runParse_eq_ok_iff.mp hresult
      obtain ⟨t, k, ht, hk, hread⟩ := hdata.exists_of_readCall hcall
      rw [← hdump]
      rcases hresponse.readJson_cases with ⟨t', l, ht', hl, hread'⟩ | ⟨trouble, hread', -⟩
      · rw [hread'] at hk'
        obtain rfl := Except.ok.inj hk'
        exact .answered hname ht hk hread ht' hl hreceives
      · rw [hread'] at hk'
        exact absurd hk' (by simp)
  · rw [result_of_unknown hname] at hresult
    exact absurd hresult (by simp)

namespace Yields

/-- A request is plain: there is no fractional number in it. -/
theorem exists_plain {flow : Flow} {data : String} {amount : Option Int}
    (h : i.Yields sources environment (.build flow data amount) x)
    (hfit : (Command.build flow data amount).NumbersFit) :
    ∃ j, x = .ok j ∧ j.Plain resultDepth := by
  cases h with
  | request hname ht hk hcall hbody =>
    have hbodyPlain := Call.plain_wireBody (writable_tree_of_verdict hk hcall)
      (Command.numbersFit_amount hfit) hbody
    exact ⟨_, rfl, (Settings.plain_requestDump _ hbodyPlain).mono (by decide)⟩

/-- Everything that is yielded can be written; in particular, no dump fails. -/
theorem exists_writable (h : i.Yields sources environment command x)
    (hfit : command.NumbersFit) : ∃ j, x = .ok j ∧ j.Writable resultDepth := by
  cases command with
  | build flow data amount =>
    obtain ⟨j, hj, hplain⟩ := h.exists_plain hfit
    exact ⟨j, hj, hplain.writable⟩
  | parse flow data response statusCode =>
    cases h with
    | answered hname ht hk hcall ht' hk' hreceives =>
      have hshown := hreceives.writable_tree hfit (writable_tree_of_verdict hk hcall)
      exact ⟨_, Call.dump_of_writable_tree hshown (by decide), hshown⟩

end Yields

end Invocation

/-! Reports -/

namespace Report

/-- The report shows a value: there is no alarm, and the output is a line break after a text in
ASCII, which readers take for the value, up to fractional numbers. No number in the value is too
long where digits count; other readers take the text if none is too long for them. -/
structure Shows (r : Report) (j : Json) : Prop where
  exit : r.exit = 0
  quiet : alarms r.log = []
  numbersFit : j.NumbersFit .digits
  output : ∃ text, r.output = text ++ ['\n'] ∧ Json.AsciiText text ∧
    ∀ d : Json.Dialect, resultDepth ≤ d.depth → j.NumbersFit d.numbers →
      ∃ j', Json.verdict d text = .ok j' ∧ (j.FloatFree → j' = j)

/-- The report tells of one error and shows nothing. -/
structure Fails (r : Report) : Prop where
  exit : r.exit = 1
  output : r.output = []
  alarm : ∃ message, alarms r.log = [⟨.error, .commandLine, message⟩]

end Report

namespace Invocation

variable {i : Invocation} {sources : Sources} {command : Command}

theorem exists_shows (environment : Option String) {j : Json} (hcommand : i.command = some command)
    (hresult : (i.result sources environment command).value = .ok j)
    (hj : j.Writable resultDepth) :
    ∃ r, i.report sources environment = .ok r ∧ r.Shows j := by
  obtain ⟨log, hreport, hquiet⟩ := reportOf_of_ok i.verbose hresult silent_result
  refine ⟨_, by rw [report, hcommand]; exact hreport, rfl, hquiet, hj.numbersFit, _, rfl, ?_, ?_⟩
  · exact Json.layout_indented.asciiText hj.keysDistinct hj.numbersFit 0
  · intro d hd hnumbers
    have hdepth := Nat.le_trans hj.depth_le hd
    exact Json.layout_indented.exists_verdict hj.keysDistinct hnumbers hdepth 0

theorem exists_fails (environment : Option String) {trouble : Trouble}
    (hcommand : i.command = some command)
    (hresult : (i.result sources environment command).value = .error trouble)
    (htold : trouble.IsTold) : ∃ r, i.report sources environment = .ok r ∧ r.Fails := by
  obtain ⟨log, message, hreport, halarm⟩ :=
    reportOf_of_isTold i.verbose hresult htold silent_result
  exact ⟨_, by rw [report, hcommand]; exact hreport, rfl, rfl, message, halarm⟩

/-- Whatever the arguments and the texts behind them, the program shows what the invocation
yields, or it tells of one error where the invocation yields nothing. A request is shown as it
is, since there are no fractional numbers in it. -/
theorem report_shows_or_fails {arguments : List String} (environment : Option String)
    (hread : read arguments = .ok i) (hcommand : i.command = some command)
    (hoffered : command.Offered sources) :
    ∃ r, i.report sources environment = .ok r ∧
      ((∃ j, i.Yields sources environment command (.ok j) ∧ r.Shows j ∧
        ∀ flow data amount, command = .build flow data amount → j.FloatFree) ∨
      ((∀ x, ¬ i.Yields sources environment command x) ∧ r.Fails)) := by
  have hfit : command.NumbersFit := numbersFit_of_read hread hcommand
  cases hresult : (i.result sources environment command).value with
  | ok j =>
    have hyields := yields_of_result hoffered hresult
    obtain ⟨j', hj', hwritable⟩ := hyields.exists_writable hfit
    obtain rfl := Except.ok.inj hj'
    obtain ⟨r, hreport, hshows⟩ := exists_shows environment hcommand hresult hwritable
    refine ⟨r, hreport, Or.inl ⟨j, hyields, hshows, ?_⟩⟩
    rintro flow data amount rfl
    obtain ⟨j', hj', hplain⟩ := hyields.exists_plain hfit
    obtain rfl := Except.ok.inj hj'
    exact hplain.floatFree
  | error trouble =>
    obtain ⟨r, hreport, hfails⟩ :=
      exists_fails environment hcommand hresult (isTold_result hoffered hfit hresult)
    refine ⟨r, hreport, Or.inr ⟨fun x hyields => ?_, hfails⟩⟩
    -- what is yielded would be the result, but the result is trouble
    obtain ⟨j, hx, -⟩ := hyields.exists_writable hfit
    rw [hyields.result_eq hx] at hresult
    exact absurd hresult (by simp)

/-- The arguments that ask for the answer to be applied to the cancellation. -/
def applyArguments : List String :=
  ["parse", "void", "--router-data", "call.json", "--response", "answer.json"]

theorem cancellation_shown :
    read applyArguments = .ok applyAnswer ∧
      ∃ r j, applyAnswer.report (answeredFiles answerText) none = .ok r ∧
        applyAnswer.Yields (answeredFiles answerText) none
          (.parse .void "call.json" "answer.json" 200) (.ok j) ∧ r.Shows j := by
  have hcall := verdict_cancellationInput
  have hanswer : Json.verdict Json.commonDialect answerText = .ok (.obj Call.cancelled) :=
    verdict_answerText (Nat.le_refl _)
  have hoffered : (Command.parse .void "call.json" "answer.json" 200).Offered
      (answeredFiles answerText) := by
    constructor
    · exact .text (holds_call _) (Json.Orderly.of_verdict hcall) (by simp [hcall])
    · exact .text (holds_answer _) (Json.Orderly.of_verdict hanswer) (by simp [hanswer])
  have hread : read applyArguments = .ok applyAnswer := rfl
  obtain ⟨r, hreport, ⟨j, hyields, hshows, -⟩ | ⟨hnone, -⟩⟩ :=
    report_shows_or_fails none hread rfl hoffered
  · exact ⟨hread, r, j, hreport, hyields, hshows⟩
  · exact absurd (.answered namesConnector_applyAnswer (holds_call _) hcall rfl (holds_answer _)
      hanswer cancellation_receives) (hnone _)

/-- A whole number with one digit more than is read. -/
def overlongNumber : List Char := List.replicate (Json.digitLimit + 1) '1'

def overlongFiles : Sources := .ofFiles [("call.json", Utf8.encode overlongNumber)] []

def buildCancellation : Invocation :=
  ⟨connectorId, none, false, some (.build .void "call.json" none)⟩

theorem verdict_overlongNumber (d : Json.Dialect) :
    Json.verdict d overlongNumber = .error (.tooManyDigits (Json.digitLimit + 1)) := by
  have hlength : overlongNumber.length = Json.digitLimit + 1 := List.length_replicate
  have hwhole : Json.IsWhole overlongNumber := by
    refine ⟨by simp [overlongNumber], fun c hc => ?_, Or.inr ?_⟩
    · rw [List.eq_of_mem_replicate hc]
      rfl
    · rw [overlongNumber, List.replicate_succ]
      simp
  have hlong : ¬ d.numbers.Admits false true overlongNumber := by
    intro hshort
    have hle := Json.NumberLimit.admits_whole_iff.mp hshort
    have hdigits := d.numbers.digits_le_length false overlongNumber.length
    omega
  rw [hwhole.verdict_eq_error hlong, hlength]

/-- A file with an overlong number ends the program without a report. -/
theorem overlongNumber_escapes :
    read ["build", "void", "--router-data", "call.json"] = .ok buildCancellation ∧
      overlongFiles.Holds "call.json" overlongNumber ∧ Json.Orderly overlongNumber ∧
      buildCancellation.report overlongFiles none =
        .error (.number (Json.digitLimit + 1)) := by
  have hverdict := verdict_overlongNumber Json.commonDialect
  have hholds : overlongFiles.Holds "call.json" overlongNumber :=
    .file (by decide) (by simp) rfl (Utf8.decode_encode _)
  have hname : buildCancellation.NamesConnector :=
    String.toList_injective (by simp [buildCancellation, connectorId])
  have hresult :
      (buildCancellation.result overlongFiles none (.build .void "call.json" none)).value =
        .error (.escaped (.number (Json.digitLimit + 1))) := by
    rw [result_value hname, Command.run, Command.runBuild, Sources.readCall,
      hholds.readJson_of_tooManyDigits hverdict]
    rfl
  have hreport : buildCancellation.report overlongFiles none = reportOf false
      (buildCancellation.result overlongFiles none (.build .void "call.json" none)) := rfl
  refine ⟨rfl, hholds, ⟨by simp [hverdict], by simp [hverdict]⟩, ?_⟩
  rw [hreport, reportOf, hresult]
  rfl

end Invocation

end CommandLine

end PaymentConnector
