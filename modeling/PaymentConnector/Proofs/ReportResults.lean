import PaymentConnector.CommandLine.Report
import PaymentConnector.Proofs.ReaderFindings

/-!
When a command gives a result, and which one. A request is built from the call that a source
holds; a response is applied to that call. The program prints the result, indented and on lines
of its own, and prints nothing where there is none.
-/

namespace PaymentConnector

namespace Call

variable {flow : Flow}

/-- The call after a response, by the status that the response came with. -/
inductive Receives (c : Call flow) (p : Wire.Payload) (statusCode : Int) : Call flow → Prop
  | reply {c' : Call flow} (hstatus : statusCode < firstErrorStatus)
      (h : (c.respond p).value = .ok c') : Receives c p statusCode c'
  | error {e : ErrorReply} (hstatus : firstErrorStatus ≤ statusCode)
      (h : (ErrorReply.ofPayload p (.int statusCode)).value = .ok e) :
      Receives c p statusCode (c.answer (.error e))

theorem receive_eq_ok_iff {c c' : Call flow} {p : Wire.Payload} {statusCode : Int} :
    (c.receive p statusCode).value = .ok c' ↔ c.Receives p statusCode c' := by
  unfold receive
  by_cases hstatus : firstErrorStatus ≤ statusCode
  · rw [if_pos hstatus, respondError, Logged.map]
    constructor
    · intro h
      cases hreply : (ErrorReply.ofPayload p (.int statusCode)).value with
      | error f =>
        rw [hreply] at h
        exact absurd h (by simp [Except.map])
      | ok e =>
        rw [hreply] at h
        obtain rfl := Except.ok.inj h
        exact .error hstatus hreply
    · intro h
      cases h with
      | reply hlow => exact absurd hstatus (by omega)
      | error _ h =>
        rw [h]
        rfl
  · rw [if_neg hstatus]
    constructor
    · intro h
      exact .reply (by omega) h
    · intro h
      cases h with
      | reply _ h => exact h
      | error hhigh => exact absurd hhigh hstatus

end Call

namespace CommandLine

namespace Command

variable {sources : Sources} {settings : Settings} {flow : Flow} {data response : String} {j : Json}

theorem runBuild_eq_ok_iff {amount : Option Int} :
    (runBuild sources settings flow data amount).value = .ok j ↔
      ∃ (call : Call flow) (body : flow.Body), sources.readCall flow data = .ok call ∧
        (call.build (.ofOption .int amount)).value = .ok body ∧
          j = settings.requestDump body := by
  unfold runBuild
  cases hcall : sources.readCall flow data with
  | error t => simp [Logged.pure]
  | ok call =>
    cases hbody : (call.build (.ofOption .int amount)).value with
    | error f => simp [Logged.map, hbody, Except.map]
    | ok body => simp [Logged.map, hbody, Except.map, eq_comm]

theorem runParse_eq_ok_iff {statusCode : Int} :
    (runParse sources flow data response statusCode).value = .ok j ↔
      ∃ (call : Call flow) (k : Json) (c' : Call flow), sources.readCall flow data = .ok call ∧
        (sources.after data).readJson response = .ok k ∧
          call.Receives (.value k) statusCode c' ∧ c'.dump = .ok j := by
  unfold runParse
  cases hcall : sources.readCall flow data with
  | error t => simp [Logged.pure]
  | ok call =>
    cases hread : (sources.after data).readJson response with
    | error t => simp [Logged.pure]
    | ok k =>
      simp only [← Call.receive_eq_ok_iff]
      cases hreceive : (call.receive (.value k) statusCode).value with
      | error f => simp [Logged.map, hreceive, Except.bind]
      | ok c' =>
        cases hdump : c'.dump with
        | error l => simp [Logged.map, hreceive, Except.bind, hdump, orExceed]
        | ok shown => simp [Logged.map, hreceive, Except.bind, hdump, orExceed]

end Command

namespace Invocation

/-- The settings that an invocation chooses. -/
def settings (i : Invocation) (environment : Option String) : Settings :=
  (Settings.choose i.baseUrl environment).value

/-- The name is that of the connector, in some case. -/
def NamesConnector (i : Invocation) : Prop := i.connector.map Char.toLower = connectorId

variable {i : Invocation} {sources : Sources} {environment : Option String} {command : Command}

theorem result_value (h : i.NamesConnector) :
    (i.result sources environment command).value =
      (command.run sources (i.settings environment)).value := by
  have hname : i.connector.map Char.toLower = connectorId := h
  simp only [result, Logged.andThen, Connector.ofName, hname, if_true]
  rfl

theorem result_of_unknown (h : ¬ i.NamesConnector) :
    (i.result sources environment command).value =
      .error (.unknownConnector ⟨i.connector⟩) := by
  have hname : ¬ i.connector.map Char.toLower = connectorId := h
  simp only [result, Logged.andThen, Connector.ofName, hname, if_false]
  rfl

end Invocation

/-- The program ends well, with that output. -/
def Printed (r : Except Escape Report) (output : List Char) : Prop :=
  ∃ log, r = .ok ⟨0, output, log⟩

theorem printed_reportOf_iff {verbose : Bool} {r : Logged (Except Trouble Json)}
    {output : List Char} :
    Printed (Invocation.reportOf verbose r) output ↔
      ∃ j, r.value = .ok j ∧ output = j.indented 0 ++ ['\n'] := by
  unfold Invocation.reportOf Printed
  cases hvalue : r.value with
  | ok j =>
    constructor
    · rintro ⟨log, h⟩
      obtain ⟨-, houtput, -⟩ := Report.mk.inj (Except.ok.inj h)
      exact ⟨j, rfl, houtput.symm⟩
    · rintro ⟨k, hk, rfl⟩
      obtain rfl := Except.ok.inj hk
      exact ⟨_, rfl⟩
  | error t =>
    constructor
    · rintro ⟨log, h⟩
      cases htold : t.told with
      | error e => simp [htold, Except.map] at h
      | ok message => simp [htold, Except.map] at h
    · rintro ⟨k, hk, -⟩
      exact absurd hk (by simp)

end CommandLine

end PaymentConnector
