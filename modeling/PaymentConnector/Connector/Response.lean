import PaymentConnector.Connector.Settlement
import PaymentConnector.Json.Printer

/-!
Responses of the connector, applied to calls. A payload that does not fit its
schema changes nothing. A payload that tells of an error becomes an error reply,
with the HTTP status that it came with.
-/

namespace PaymentConnector

/-- The settlement that a payload leads to, with a note of it in the log. -/
def Flow.answer (flow : Flow) (p : Wire.Payload) : Logged (Except Failure (Settlement flow)) :=
  (p.parse flow.answerName flow.readAnswer).andThen fun
    | .error e => .pure (.error (.refused e))
    | .ok a =>
      match flow.settle a with
      | .error f => .pure (.error (.address f))
      | .ok s => ⟨.ok s, [⟨.info, .responses, s.note⟩]⟩

/-- The call after the connector's response. -/
def Call.respond {flow : Flow} (c : Call flow) (p : Wire.Payload) :
    Logged (Except Failure (Call flow)) :=
  (flow.answer p).map (·.map c.settle)

namespace ErrorReply

def integerText (n : Int) : String := String.ofList (Json.intText n)

def note (e : Wire.ErrorPayload) (statusCode : Json) : Except Json.Limit String := do
  return connectorId ++ " returned error " ++ (← Json.numeral e.code) ++ " (HTTP "
    ++ (← statusCode.display) ++ "): " ++ e.message

def ofError (e : Wire.ErrorPayload) (statusCode : Int) : ErrorReply where
  code := integerText e.code
  message := e.message
  reason := e.param
  statusCode := statusCode
  attemptStatus := none
  transactionId := none

/-- The payload is looked at before the status code, and noted before it is answered. -/
def ofPayload (p : Wire.Payload) (statusCode : Json) : Logged (Except Failure ErrorReply) :=
  (p.parse Wire.ErrorPayload.name Wire.ErrorPayload.read).andThen fun
    | .error e => .pure (.error (.refused e))
    | .ok e =>
      match note e statusCode with
      | .error l => .pure (.error (.limit l))
      | .ok text =>
        ⟨(((readInteger statusCode).under "status_code").map (ofError e)).orFail,
          [⟨.warning, .connector, text⟩]⟩

end ErrorReply

/-- The call after a response that tells of an error; its status stays. -/
def Call.respondError {flow : Flow} (c : Call flow) (p : Wire.Payload) (statusCode : Json) :
    Logged (Except Failure (Call flow)) :=
  (ErrorReply.ofPayload p statusCode).map (·.map fun e => c.answer (.error e))

/-- HTTP statuses from here on tell of an error. -/
def firstErrorStatus : Int := 400

/-- The call after a response that came with an HTTP status. -/
def Call.receive {flow : Flow} (c : Call flow) (p : Wire.Payload) (statusCode : Int) :
    Logged (Except Failure (Call flow)) :=
  if firstErrorStatus ≤ statusCode then c.respondError p (.int statusCode) else c.respond p

end PaymentConnector
