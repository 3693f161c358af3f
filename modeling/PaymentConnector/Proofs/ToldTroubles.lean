import PaymentConnector.Proofs.PlainRequests

/-!
Troubles that the program tells. Where every input is an orderly text or a file that cannot be
read, whatever goes wrong is caught and told, unless a number in a text has more digits than are
read: what was read can be written again, so no limit is met later. The program tells it in one
record of its own; nothing on the way there leaves such a record.
-/

namespace PaymentConnector

/-! Failures -/

namespace Call

variable {flow : Flow} {c : Call flow} {f : Failure}

theorem Refuses.ne_address {amount : Json} (h : Refuses c amount f) (fault : Url.SplitFault) :
    f ≠ .address fault := by
  cases h <;> simp

end Call

/-- An error is noted and answered, or it is refused, or it cannot be noted. -/
theorem ErrorReply.ofPayload_cases (p : Wire.Payload) (statusCode : Int) :
    (∃ e message,
      ofPayload p (.int statusCode) = ⟨.ok e, [⟨.warning, .connector, message⟩]⟩) ∨
      (∃ e message,
        ofPayload p (.int statusCode) =
          ⟨.error (.refused e), [⟨.warning, .payloads, message⟩]⟩) ∨
      ∃ a, p.read Wire.ErrorPayload.read = .ok a ∧ ¬ a.Noted statusCode ∧
        ofPayload p (.int statusCode) = .pure (.error (.limit .digits)) := by
  rcases (p.read Wire.ErrorPayload.read).eq_ok_or_failed with ⟨a, ha⟩ | ⟨faults, hfaults⟩
  · cases hnote : note a (.int statusCode) with
    | ok text => exact Or.inl ⟨ofError a statusCode, text, ofPayload_of_noted ha hnote⟩
    | error l =>
      obtain ⟨hlong, rfl⟩ := (writtenIf_note_int a statusCode).eq_error_iff.mp hnote
      exact Or.inr (Or.inr ⟨a, ha, hlong, ofPayload_of_limit ha hnote⟩)
  · exact Or.inr (Or.inl ⟨_, _, ofPayload_of_failed hfaults⟩)

/-- The code of an error is not too long if no number in the payload is. -/
theorem Wire.ErrorPayload.fitsDigits_code {j : Json} {a : ErrorPayload}
    (hj : j.NumbersFit .digits) (h : (Payload.value j).read read = .ok a) :
    Json.FitsDigits a.code := by
  have hobject {o : Object} (ho : (Json.obj o).NumbersFit .digits) (h : read (.obj o) = .ok a) :
      Json.FitsDigits a.code := by
    obtain ⟨v, hv, hread⟩ := Object.required_eq_ok_iff.mp (required_code_of_read h)
    exact fitsDigits_of_readInteger
      (Json.NumbersFit.obj_iff.mp ho _ (Json.mem_of_get? hv)) hread
  rcases Payload.exists_of_read_value h with ⟨o, rfl⟩ | ⟨s, rfl⟩
  · exact hobject hj h
  · rw [← String.ofList_toList (s := s), Payload.read_text_eq_ok_iff takesObjects_read] at h
    obtain ⟨o, ho, hread⟩ := h
    exact hobject (fun n hn => (Json.numbersFit_of_verdict rfl ho n hn).fitsDigits) hread

/-! Records of other parts -/

/-- No record in the log is the program's own. -/
def Silent (log : List LogRecord) : Prop := ∀ r ∈ log, r.source ≠ .commandLine

namespace Silent

theorem nil : Silent [] := fun _ hr => absurd hr List.not_mem_nil

theorem append {log log' : List LogRecord} (h : Silent log) (h' : Silent log') :
    Silent (log ++ log') := List.forall_mem_append.mpr ⟨h, h'⟩

theorem singleton {level : LogLevel} {source : LogSource} {message : String}
    (h : source ≠ .commandLine) : Silent [⟨level, source, message⟩] :=
  List.forall_mem_singleton.mpr h

theorem shown {log : List LogRecord} (h : Silent log) (verbose : Bool) :
    Silent (LogRecord.shown verbose log) := fun r hr => h r (List.mem_filter.mp hr).1

end Silent

theorem Settings.silent_choose (argument environment : Option String) :
    Silent (choose argument environment).log := by
  unfold choose
  split
  · exact .nil
  · exact .singleton (by simp)

theorem Call.silent_build {flow : Flow} (c : Call flow) (amount : Json) :
    Silent (c.build amount).log := by
  have hrejection (kind : MethodKind) : Silent (rejectionLog kind) := by
    unfold rejectionLog
    split
    · exact .singleton (by simp)
    · exact .append (.singleton (by simp)) (.singleton (by simp))
  unfold build bodyLog
  split
  · exact .singleton (by simp)
  · exact hrejection _
  · exact .nil

/-- A response is applied, or refused by the connector, or tells of an error that cannot be
noted; no other part of the program tells of it. -/
theorem Call.receive_cases {flow : Flow} (c : Call flow) (p : Wire.Payload) (statusCode : Int) :
    Silent (c.receive p statusCode).log ∧
      ((∃ c', (c.receive p statusCode).value = .ok c') ∨
        (∃ e, (c.receive p statusCode).value = .error (.refused e)) ∨
        ∃ a, p.read Wire.ErrorPayload.read = .ok a ∧ ¬ a.Noted statusCode) := by
  unfold receive
  split
  · rcases ErrorReply.ofPayload_cases p statusCode with
      ⟨e, message, he⟩ | ⟨e, message, he⟩ | ⟨a, ha, hlong, he⟩
    · rw [respondError, he]
      exact ⟨.singleton (by simp), Or.inl ⟨_, rfl⟩⟩
    · rw [respondError, he]
      exact ⟨.singleton (by simp), Or.inr (Or.inl ⟨e, rfl⟩)⟩
    · rw [respondError, he]
      exact ⟨.nil, Or.inr (Or.inr ⟨a, ha, hlong⟩)⟩
  · rcases flow.answer_cases p with ⟨s, hs⟩ | ⟨faults, hfaults⟩
    · rw [respond, hs]
      exact ⟨.singleton (by simp), Or.inl ⟨_, rfl⟩⟩
    · rw [respond, hfaults]
      exact ⟨.singleton (by simp), Or.inr (Or.inl ⟨_, rfl⟩)⟩

namespace CommandLine

/-- The program catches the trouble and tells of it. -/
def Trouble.IsTold (t : Trouble) : Prop := ∃ message, t.told = .ok message

theorem Trouble.isTold_ofFailure (flow : Flow) {f : Failure}
    (haddress : ∀ fault, f ≠ .address fault) (hlimit : ∀ l, f ≠ .limit l) :
    (ofFailure flow f).IsTold := by
  cases f with
  | refused e => exact ⟨_, rfl⟩
  | invalid faults => exact ⟨_, rfl⟩
  | address fault => exact absurd rfl (haddress fault)
  | limit l => exact absurd rfl (hlimit l)

namespace Sources

/-- What stands behind an argument: an orderly text, in which no number has more digits than are
read, or a file that cannot be read. -/
inductive Offers (s : Sources) (path : String) : Prop
  | text {t : List Char} (ht : s.Holds path t) (horderly : Json.Orderly t)
      (hdigits : ∀ count, Json.verdict Json.commonDialect t ≠ .error (.tooManyDigits count))
  | nothing {f : FileFault} (hpath : path ≠ inputPath) (hnul : path.contains '\x00' = false)
      (hfile : s.file (tidyPath path) = .error f)

theorem isTold_textTrouble {t text : List Char} {f : Json.TextFault} (horderly : Json.Orderly t)
    (hdigits : ∀ count, Json.verdict Json.commonDialect t ≠ .error (.tooManyDigits count))
    (hf : Json.verdict Json.commonDialect t = .error f.cause) : (textTrouble text f).IsTold := by
  unfold textTrouble
  split
  · rename_i count hcause
    exact absurd (hcause ▸ hf) (hdigits count)
  · rename_i hcause
    exact absurd (hcause ▸ hf) horderly.notTooDeep
  · exact ⟨_, rfl⟩

/-- A number with too many digits is not caught. -/
theorem Holds.readJson_of_tooManyDigits {s : Sources} {path : String} {t : List Char} {count : Nat}
    (ht : s.Holds path t)
    (hcount : Json.verdict Json.commonDialect t = .error (.tooManyDigits count)) :
    s.readJson path = .error (.escaped (.number count)) := by
  have horderly : Json.Orderly t := by
    constructor
    · simp [hcount]
    · simp [hcount]
  rcases ht.readJson_cases horderly with ⟨j, hj, -⟩ | ⟨text, f, hf, hread⟩
  · rw [hcount] at hj
    exact absurd hj (by simp)
  · rw [hcount] at hf
    rw [hread, textTrouble, ← Except.error.inj hf]

/-- What an argument offers is read as the value of a text that the source holds, or the program
tells why not. -/
theorem Offers.readJson_cases {s : Sources} {path : String} (h : s.Offers path) :
    (∃ t j, s.Holds path t ∧ Json.verdict Json.commonDialect t = .ok j ∧
      s.readJson path = .ok j) ∨
      ∃ trouble, s.readJson path = .error trouble ∧ trouble.IsTold := by
  cases h with
  | text ht horderly hdigits =>
    rcases ht.readJson_cases horderly with ⟨j, hj, hread⟩ | ⟨text, f, hf, hread⟩
    · exact Or.inl ⟨_, j, ht, hj, hread⟩
    · exact Or.inr ⟨_, hread, isTold_textTrouble horderly hdigits hf⟩
  | @nothing f hpath hnul hfile =>
    have htext : s.readText path = .error (.unreadable (f.message (tidyPath path))) := by
      simp only [readText, hpath, if_false, readFile, hnul, Bool.false_eq_true, hfile]
    have hread : s.readJson path = .error (.unreadable (f.message (tidyPath path))) := by
      rw [readJson, htext]
      rfl
    exact Or.inr ⟨_, hread, _, rfl⟩

theorem Offers.isTold_readCall {s : Sources} {path : String} (h : s.Offers path) {flow : Flow}
    {trouble : Trouble} (hcall : s.readCall flow path = .error trouble) : trouble.IsTold := by
  unfold readCall at hcall
  rcases h.readJson_cases with ⟨t, j, -, -, hread⟩ | ⟨other, hread, htold⟩
  · rw [hread] at hcall
    cases hj : Call.read flow .value j with
    | ok call => simp [bind, Except.bind, hj, Checked.orFail] at hcall
    | failed faults =>
      simp only [bind, Except.bind, hj, Checked.orFail, Except.mapError_error,
        Except.error.injEq] at hcall
      subst hcall
      exact Trouble.isTold_ofFailure flow (by simp) (by simp)
  · rw [hread] at hcall
    obtain rfl := Except.error.inj hcall
    exact htold

/-- A call that is read from what an argument offers is that of the text that stands there. -/
theorem Offers.exists_of_readCall {s : Sources} {path : String} (h : s.Offers path) {flow : Flow}
    {call : Call flow} (hcall : s.readCall flow path = .ok call) :
    ∃ t k, s.Holds path t ∧ Json.verdict Json.commonDialect t = .ok k ∧
      Call.read flow .value k = .ok call := by
  rcases h.readJson_cases with ⟨t, k, ht, hk, -⟩ | ⟨trouble, hread, -⟩
  · obtain ⟨k', hk', hread⟩ :=
      (ht.readCall_eq_ok_iff (Json.Orderly.of_verdict hk)).mp hcall
    exact ⟨t, k', ht, hk', hread⟩
  · rw [readCall, hread] at hcall
    exact absurd hcall (by simp [bind, Except.bind])

end Sources

/-- No result is deeper than this. -/
def resultDepth : Nat := Json.commonDepth + 3

theorem writable_tree_of_verdict {t : List Char} {k : Json} {flow : Flow} {call : Call flow}
    (hk : Json.verdict Json.commonDialect t = .ok k) (hcall : Call.read flow .value k = .ok call) :
    call.tree.Writable resultDepth :=
  Call.writable_tree_of_read (Json.writable_of_verdict rfl hk) hcall

theorem Sources.Offers.writable_tree {s : Sources} {path : String} (h : s.Offers path)
    {flow : Flow} {call : Call flow} (hcall : s.readCall flow path = .ok call) :
    call.tree.Writable resultDepth := by
  obtain ⟨t, k, -, hk, hread⟩ := h.exists_of_readCall hcall
  exact writable_tree_of_verdict hk hread

namespace Command

variable {sources : Sources} {settings : Settings} {flow : Flow} {data response : String}
  {trouble : Trouble}

theorem numbersFit_amount {amount : Option Int}
    (hfit : (build flow data amount).NumbersFit) :
    (Json.ofOption .int amount).NumbersFit .digits := by
  cases amount with
  | none => exact .of_depth_eq_zero rfl fun _ h => nomatch h
  | some n => exact Json.NumbersFit.int_iff.mpr (hfit n rfl)

/-- Every trouble of a build is told. -/
theorem isTold_runBuild {amount : Option Int} (hdata : sources.Offers data)
    (hfit : (build flow data amount).NumbersFit)
    (h : (runBuild sources settings flow data amount).value = .error trouble) :
    trouble.IsTold := by
  unfold runBuild at h
  cases hcall : sources.readCall flow data with
  | error t =>
    rw [hcall] at h
    obtain rfl := Except.error.inj h
    exact hdata.isTold_readCall hcall
  | ok call =>
    rw [hcall] at h
    cases hbody : (call.build (.ofOption .int amount)).value with
    | ok body => simp [Logged.map, hbody, Except.map] at h
    | error f =>
      simp only [Logged.map, hbody, Except.map, Except.mapError_error,
        Except.error.injEq] at h
      subst h
      -- no request is refused for an address, and this one is not too long
      have hrefused := Call.body_eq_error_iff.mp hbody
      exact Trouble.isTold_ofFailure flow hrefused.ne_address
        (hrefused.ne_limit (hdata.writable_tree hcall) (numbersFit_amount hfit))

/-- Every trouble with a response is told. -/
theorem isTold_runParse {statusCode : Int} (hdata : sources.Offers data)
    (hresponse : (sources.after data).Offers response)
    (hfit : (parse flow data response statusCode).NumbersFit)
    (h : (runParse sources flow data response statusCode).value = .error trouble) :
    trouble.IsTold := by
  unfold runParse at h
  cases hcall : sources.readCall flow data with
  | error t =>
    rw [hcall] at h
    obtain rfl := Except.error.inj h
    exact hdata.isTold_readCall hcall
  | ok call =>
    rw [hcall] at h
    rcases hresponse.readJson_cases with ⟨t, j, -, hj, hread⟩ | ⟨t, hread, htold⟩
    · rw [hread] at h
      rcases (call.receive_cases (.value j) statusCode).2 with
        ⟨c', hreceived⟩ | ⟨e, hrefused⟩ | ⟨a, ha, hlong⟩
      · have hshown := (Call.receive_eq_ok_iff.mp hreceived).writable_tree hfit
          (hdata.writable_tree hcall)
        have hdump : c'.dump = .ok c'.tree := Call.dump_of_writable_tree hshown (by decide)
        simp [Logged.map, hreceived, Except.bind, hdump, orExceed] at h
      · simp only [Logged.map, hrefused, Except.bind, Except.mapError_error,
          Except.error.injEq] at h
        subst h
        exact Trouble.isTold_ofFailure flow (by simp) (by simp)
      · have hnumbers := (Json.writable_of_verdict rfl hj).numbersFit
        exact absurd ⟨Wire.ErrorPayload.fitsDigits_code hnumbers ha, hfit⟩ hlong
    · rw [hread] at h
      obtain rfl := Except.error.inj h
      exact htold

theorem silent_run (sources : Sources) (settings : Settings) (command : Command) :
    Silent (command.run sources settings).log := by
  cases command with
  | build flow data amount =>
    simp only [run, runBuild]
    split
    · exact .nil
    · exact Call.silent_build _ _
  | parse flow data response statusCode =>
    simp only [run, runParse]
    split
    · exact .nil
    · split
      · exact .nil
      · exact (Call.receive_cases _ _ _).1

/-- The arguments of a command that texts stand behind, with the sources as they are when each is
read. -/
def Offered (sources : Sources) : Command → Prop
  | .build _ data _ => sources.Offers data
  | .parse _ data response _ => sources.Offers data ∧ (sources.after data).Offers response

theorem isTold_run {command : Command} (h : command.Offered sources) (hfit : command.NumbersFit)
    (htrouble : (command.run sources settings).value = .error trouble) : trouble.IsTold := by
  cases command with
  | build flow data amount => exact isTold_runBuild h hfit htrouble
  | parse flow data response statusCode => exact isTold_runParse h.1 h.2 hfit htrouble

end Command

namespace Invocation

variable {i : Invocation} {sources : Sources} {environment : Option String} {command : Command}

theorem isTold_result (h : command.Offered sources) (hfit : command.NumbersFit)
    {trouble : Trouble}
    (htrouble : (i.result sources environment command).value = .error trouble) :
    trouble.IsTold := by
  by_cases hname : i.NamesConnector
  · rw [result_value hname] at htrouble
    exact Command.isTold_run h hfit htrouble
  · rw [result_of_unknown hname] at htrouble
    obtain rfl := Except.error.inj htrouble
    exact ⟨_, rfl⟩

theorem silent_result : Silent (i.result sources environment command).log := by
  refine .append (Settings.silent_choose _ _) ?_
  dsimp only
  split
  · exact .nil
  · exact Command.silent_run _ _ _

end Invocation

/-! Reports -/

/-- The errors that the program itself tells of. -/
def alarms (log : List LogRecord) : List LogRecord :=
  log.filter fun r => r.level = .error ∧ r.source = .commandLine

theorem alarms_of_silent {log : List LogRecord} (h : Silent log) : alarms log = [] := by
  rw [alarms, List.filter_eq_nil_iff]
  intro r hr
  simp [h r hr]

namespace Invocation

variable (verbose : Bool) {r : Logged (Except Trouble Json)}

/-- A result is reported without an alarm. -/
theorem reportOf_of_ok {j : Json} (h : r.value = .ok j) (hlog : Silent r.log) :
    ∃ log, reportOf verbose r = .ok ⟨0, j.indented 0 ++ ['\n'], log⟩ ∧ alarms log = [] := by
  rw [reportOf, h]
  exact ⟨_, rfl, alarms_of_silent (hlog.shown verbose)⟩

/-- Trouble that is told is reported with one alarm and no output. -/
theorem reportOf_of_isTold {trouble : Trouble} (h : r.value = .error trouble)
    (htold : trouble.IsTold) (hlog : Silent r.log) :
    ∃ log message, reportOf verbose r = .ok ⟨1, [], log⟩ ∧
      alarms log = [⟨.error, .commandLine, message⟩] := by
  obtain ⟨message, hmessage⟩ := htold
  have hshown := alarms_of_silent (hlog.shown verbose)
  rw [reportOf, h]
  simp only [hmessage, Except.map]
  refine ⟨_, message, rfl, ?_⟩
  rw [alarms, List.filter_append, ← alarms, hshown]
  rfl

end Invocation

end CommandLine

end PaymentConnector
