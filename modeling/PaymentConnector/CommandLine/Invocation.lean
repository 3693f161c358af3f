import PaymentConnector.CommandLine.Numeral
import PaymentConnector.CommandLine.Option
import PaymentConnector.Payment.Error
import PaymentConnector.Payment.Flow

/-!
What the arguments of the program ask for: to build a request, or to apply a
response. Arguments that cannot be understood are refused, and so are arguments that
are left over; a wish for help comes before whatever is wrong after it.
-/

namespace PaymentConnector.CommandLine

inductive Command
  | build (flow : Flow) (data : String) (amount : Option Int)
  | parse (flow : Flow) (data response : String) (statusCode : Int)
  deriving DecidableEq, Repr

structure Invocation where
  connector : String
  baseUrl : Option String
  verbose : Bool
  command : Option Command
  deriving DecidableEq, Repr

inductive Refusal
  | help
  | usage
  deriving DecidableEq, Repr

namespace Command

inductive Key
  | help
  | data
  | amount
  | response
  | statusCode
  deriving DecidableEq, Repr

inductive Verb
  | build
  | parse
  deriving DecidableEq, Repr

def Verb.ofName? (name : List Char) : Option Verb :=
  if name = "build".toList then some .build
  else if name = "parse".toList then some .parse
  else none

def commonWords : List (List Char × Key) :=
  [("--help".toList, .help), ("--router-data".toList, .data)]

def Verb.words : Verb → List (List Char × Key)
  | build => [("--amount".toList, .amount)]
  | parse => [("--response".toList, .response), ("--status-code".toList, .statusCode)]

def Verb.grammar (v : Verb) : Grammar Key where
  letters := [('h', .help)]
  words := commonWords ++ v.words
  takesValue key := key ≠ .help
  place := .argument

/-- The arguments of a command, as far as they are read. -/
structure Draft where
  flow : Option Flow
  data : Option String
  amount : Option Int
  response : Option String
  statusCode : Int
  stray : Bool

def okStatus : Int := 200

def Draft.empty : Draft := ⟨none, none, none, none, okStatus, false⟩

def readInt (text : List Char) : Except Refusal Int :=
  match integer? text with
  | some n => .ok n
  | none => .error .usage

/-- An option that is given again replaces what it said before. -/
def Draft.setValue (d : Draft) (text : List Char) : Key → Except Refusal Draft
  | .help => .error .usage
  | .data => .ok { d with data := some (String.ofList text) }
  | .response => .ok { d with response := some (String.ofList text) }
  | .amount => (readInt text).map fun n => { d with amount := some n }
  | .statusCode => (readInt text).map fun n => { d with statusCode := n }

def Draft.take (d : Draft) : Event Key → Except Refusal Draft
  | .flag _ => .error .help
  | .value key text => d.setValue text key
  | .argument text =>
    match Vocabulary.ofToken? Flow (String.ofList text) with
    | some flow => .ok { d with flow := some flow }
    | none => .error .usage
  | .command _ _ => .error .usage
  | .stray => .ok { d with stray := true }
  | .broken => .error .usage

/-- The command that a draft without leftovers makes, if nothing is missing. -/
def Draft.finish (d : Draft) (v : Verb) : Except Refusal Command :=
  match d.stray, v, d.flow, d.data, d.response with
  | false, .build, some flow, some data, _ => .ok (.build flow data d.amount)
  | false, .parse, some flow, some data, some response =>
    .ok (.parse flow data response d.statusCode)
  | _, _, _, _, _ => .error .usage

def read (v : Verb) (arguments : List (List Char)) : Except Refusal Command := do
  let draft ← (v.grammar.read arguments).foldlM Draft.take Draft.empty
  draft.finish v

end Command

namespace Invocation

inductive Key
  | help
  | verbose
  | connector
  | baseUrl
  deriving DecidableEq, Repr

def grammar : Grammar Key where
  letters := [('h', .help), ('v', .verbose)]
  words :=
    [("--help".toList, .help), ("--connector".toList, .connector),
     ("--base-url".toList, .baseUrl), ("--verbose".toList, .verbose)]
  takesValue
    | .help => false
    | .verbose => false
    | .connector => true
    | .baseUrl => true
  place := .command

structure Draft where
  invocation : Invocation
  stray : Bool

def Draft.empty : Draft := ⟨⟨connectorId, none, false, none⟩, false⟩

def Draft.setValue (d : Draft) (text : List Char) : Key → Except Refusal Draft
  | .connector => .ok { d with invocation.connector := String.ofList text }
  | .baseUrl => .ok { d with invocation.baseUrl := some (String.ofList text) }
  | _ => .error .usage

def Draft.setFlag (d : Draft) : Key → Except Refusal Draft
  | .help => .error .help
  | .verbose => .ok { d with invocation.verbose := true }
  | _ => .error .usage

def Draft.take (d : Draft) : Event Key → Except Refusal Draft
  | .flag key => d.setFlag key
  | .value key text => d.setValue text key
  | .argument _ => .error .usage
  | .command name arguments =>
    match Command.Verb.ofName? name with
    | some verb => (Command.read verb arguments).map fun c =>
      { d with invocation.command := some c }
    | none => .error .usage
  | .stray => .ok { d with stray := true }
  | .broken => .error .usage

def read (arguments : List String) : Except Refusal Invocation := do
  let draft ← (grammar.read (arguments.map String.toList)).foldlM Draft.take Draft.empty
  if draft.stray then .error .usage else .ok draft.invocation

end Invocation

end PaymentConnector.CommandLine
