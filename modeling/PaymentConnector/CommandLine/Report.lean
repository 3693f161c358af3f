import PaymentConnector.CommandLine.Invocation
import PaymentConnector.CommandLine.Source
import PaymentConnector.Connector.Endpoint
import PaymentConnector.Connector.Registry
import PaymentConnector.Connector.Request
import PaymentConnector.Connector.Response
import PaymentConnector.Json.Fault

/-!
What the program does with an invocation. It ends with a report: an exit code, the
output, and the log. Input that cannot be read, data that a check refuses and errors
of the connector are told in the log and end with code 1. A few faults are not caught
and end the program without a report.
-/

namespace PaymentConnector.CommandLine

open Text

/-- A fault that the program does not catch. -/
inductive Escape
  | encoding (f : Utf8.Fault)
  | nulInPath
  | number (digits : Nat)
  | nesting
  | address (f : Url.SplitFault)
  | limit (l : Json.Limit)
  deriving DecidableEq, Repr

def Escape.message : Escape → String
  | encoding f => f.message
  | nulInPath => "embedded null byte"
  | number digits => (Json.TextCause.tooManyDigits digits).message
  | nesting => "maximum recursion depth exceeded while decoding a JSON document"
  | address f => f.message
  | limit l => l.message

/-- Why a command gives no result. -/
inductive Trouble
  | unknownConnector (e : UnknownConnector)
  | unreadable (message : String)
  | invalid (count : Nat)
  | refused (flow : Flow) (e : ConnectorError)
  | escaped (e : Escape)
  deriving DecidableEq, Repr

/-- What the log says of trouble that the program catches. -/
def Trouble.told : Trouble → Except Escape String
  | unknownConnector e => .ok e.message
  | unreadable message => .ok ("Could not read input: " ++ message)
  | invalid count =>
    .ok ("Invalid router data: " ++ toString count ++ " validation error(s)")
  | refused flow e => .ok (token flow ++ " failed: " ++ e.cause.message)
  | escaped e => .error e

def Trouble.ofFailure (flow : Flow) : Failure → Trouble
  | .refused e => refused flow e
  | .invalid faults => invalid faults.length
  | .address f => escaped (.address f)
  | .limit l => escaped (.limit l)

/-- Input is read deeply, and halves of surrogate pairs are repaired. -/
def dialect : Json.Dialect := ⟨990, true, .digits, false⟩

namespace Sources

def readFile (s : Sources) (path : String) : Except Trouble (List Char) :=
  if path.contains '\x00' then .error (.escaped .nulInPath)
  else
    match s.file (tidyPath path) with
    | .error f => .error (.unreadable (f.message (tidyPath path)))
    | .ok bytes =>
      match Utf8.decode bytes with
      | .ok text => .ok (unifyBreaks text)
      | .error f => .error (.escaped (.encoding f))

def readText (s : Sources) (path : String) : Except Trouble (List Char) :=
  if path = inputPath then .ok s.input else s.readFile path

/-- The trouble that a fault in a text is. -/
def textTrouble (text : List Char) (f : Json.TextFault) : Trouble :=
  match f.cause with
  | .tooManyDigits count => .escaped (.number count)
  | .tooDeep => .escaped .nesting
  | _ => .unreadable (f.message text)

def readJson (s : Sources) (path : String) : Except Trouble Json := do
  let text ← s.readText path
  (Json.read dialect text).mapError (textTrouble text)

def readCall (s : Sources) (flow : Flow) (path : String) : Except Trouble (Call flow) := do
  let j ← s.readJson path
  ((Call.read flow .value j).orFail).mapError (Trouble.ofFailure flow)

end Sources

namespace Command

def runBuild (sources : Sources) (settings : Settings) (flow : Flow) (data : String)
    (amount : Option Int) : Logged (Except Trouble Json) :=
  match sources.readCall flow data with
  | .error t => .pure (.error t)
  | .ok call =>
    (call.build (.ofOption .int amount)).map fun r =>
      (r.map fun body => settings.requestDump body).mapError (Trouble.ofFailure flow)

def runParse (sources : Sources) (flow : Flow) (data response : String) (statusCode : Int) :
    Logged (Except Trouble Json) :=
  match sources.readCall flow data with
  | .error t => .pure (.error t)
  | .ok call =>
    match (sources.after data).readJson response with
    | .error t => .pure (.error t)
    | .ok j =>
      (call.receive (.value j) statusCode).map fun r =>
        (r.bind fun c => orExceed c.dump).mapError (Trouble.ofFailure flow)

def run (sources : Sources) (settings : Settings) : Command → Logged (Except Trouble Json)
  | .build flow data amount => runBuild sources settings flow data amount
  | .parse flow data response statusCode => runParse sources flow data response statusCode

end Command

structure Report where
  exit : Nat
  output : List Char
  log : List LogRecord

namespace Invocation

/-- The connector is looked up before anything is read. -/
def result (i : Invocation) (sources : Sources) (environment : Option String)
    (command : Command) : Logged (Except Trouble Json) :=
  (Settings.choose i.baseUrl environment).andThen fun settings =>
    match Connector.ofName i.connector settings with
    | .error e => .pure (.error (.unknownConnector e))
    | .ok connector => command.run sources connector.settings

/-- The report of a result: the output ends with a line feed. -/
def reportOf (verbose : Bool) (r : Logged (Except Trouble Json)) : Except Escape Report :=
  match r.value with
  | .ok j => .ok ⟨0, j.indented 0 ++ ['\n'], LogRecord.shown verbose r.log⟩
  | .error t =>
    t.told.map fun message =>
      ⟨1, [], LogRecord.shown verbose r.log ++ [⟨.error, .commandLine, message⟩]⟩

/-- An invocation without a command does nothing, and ends with code 1. -/
def report (i : Invocation) (sources : Sources) (environment : Option String) :
    Except Escape Report :=
  match i.command with
  | none => .ok ⟨1, [], []⟩
  | some command => reportOf i.verbose (i.result sources environment command)

end Invocation

end PaymentConnector.CommandLine
