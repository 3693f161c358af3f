import PaymentConnector.Proofs.AnswerSchemas
import PaymentConnector.Proofs.DeepTexts
import PaymentConnector.Proofs.ReceivedTexts
import PaymentConnector.Proofs.WholeNumberTexts

/-!
Payloads that tell of an error. Such a payload holds an object with a code, a message and perhaps
a parameter; the status code that comes with it is looked at only then. Both codes are noted
first, which fails for too long a number. In the reply the code is the numeral of the number that
it denotes, and a payload with that numeral leads to the same reply.
-/

namespace PaymentConnector

open Wire (ErrorPayload)

/-- The error that an object tells of: a number, a message and perhaps a parameter. -/
structure Object.TellsError (o : Object) (e : ErrorPayload) : Prop where
  code : ∃ v, o.get? "code" = some v ∧ v.Denotes e.code
  message : o.text? "message" = some e.message
  mayHaveParam : o.MayHaveText "param"
  param : e.param = o.text? "param"

theorem Wire.ErrorPayload.read_obj_eq_ok_iff {o : Object} {e : ErrorPayload} :
    read (.obj o) = .ok e ↔ o.TellsError e := by
  have hcode : o.required "code" readInteger = .ok e.code ↔
      ∃ v, o.get? "code" = some v ∧ v.Denotes e.code := by
    simp only [Object.required_eq_ok_iff, readInteger_eq_ok_iff]
  simp only [read, Reader.model, Reader.object, Checked.map_eq_map, Checked.seq_eq_app,
    Checked.app_eq_ok_iff, Checked.map_eq_ok_iff]
  constructor
  · rintro ⟨-, param, ⟨-, message, ⟨code, hc, rfl⟩, hmessage, rfl⟩, hparam, rfl⟩
    obtain ⟨hmay, htext⟩ := Object.optional_text_eq_ok_iff.mp hparam
    exact ⟨hcode.mp hc, Object.required_text_eq_ok_iff.mp hmessage, hmay, htext⟩
  · rintro ⟨hc, hmessage, hmay, htext⟩
    exact ⟨_, _, ⟨_, _, ⟨_, hcode.mpr hc, rfl⟩, Object.required_text_eq_ok_iff.mpr hmessage, rfl⟩,
      Object.optional_text_eq_ok_iff.mpr ⟨hmay, htext⟩, rfl⟩

theorem Wire.Payload.read_error_eq_ok_iff {p : Payload} {e : ErrorPayload} :
    p.read ErrorPayload.read = .ok e ↔ ∃ o, p.Holds o ∧ o.TellsError e := by
  simp only [read_eq_ok_iff ErrorPayload.takesObjects_read, object?_eq_some_iff,
    ErrorPayload.read_obj_eq_ok_iff]

/-- The numeral of a code denotes the code, so it tells of the same error. -/
theorem Object.TellsError.of_numeral {o o' : Object} {e : ErrorPayload} {code : String}
    (h : o.TellsError e) (hcode : IsNumeral e.code code.toList)
    (hfits : Json.NumberLimit.characters.Takes e.code)
    (hget : o'.get? "code" = some (.str code)) (hmessage : o'.text? "message" = o.text? "message")
    (hmay : o'.MayHaveText "param") (hparam : o'.text? "param" = o.text? "param") :
    o'.TellsError e := by
  have hdenotes := hcode.denotes hfits
  rw [String.ofList_toList] at hdenotes
  exact ⟨⟨_, hget, hdenotes⟩, hmessage.trans h.message, hmay, h.param.trans hparam.symm⟩

namespace ErrorReply

variable {p : Wire.Payload} {statusCode : Json} {e : ErrorPayload}

theorem withStatus_of_denotes {n : Int} (h : statusCode.Denotes n) :
    withStatus e statusCode = .ok (ofError e n) := by
  rw [withStatus, readInteger_eq_ok_iff.mpr h]
  rfl

theorem withStatus_eq_invalid_iff :
    (∃ cause, withStatus e statusCode = .error (.invalid [⟨["status_code"], cause⟩])) ↔
      ¬ ∃ n, statusCode.Denotes n := by
  constructor
  · rintro ⟨cause, hcause⟩ ⟨n, hn⟩
    rw [withStatus_of_denotes hn] at hcause
    cases hcause
  · intro h
    rw [withStatus, readInteger]
    cases hn : toInteger statusCode with
    | ok n => exact absurd ⟨n, toInteger_eq_ok_iff.mp hn⟩ h
    | error cause => exact ⟨cause, rfl⟩

/-- A payload is refused just if it tells of no error, whatever the status code is. -/
theorem value_ofPayload_eq_refused_iff :
    (ofPayload p statusCode).value =
        .error (.refused ⟨.unreadable "DlocalErrorResponse", some "Dlocal"⟩) ↔
      ∀ e, p.read ErrorPayload.read ≠ .ok e := by
  rcases (p.read ErrorPayload.read).eq_ok_or_failed with ⟨e, he⟩ | ⟨faults, hfaults⟩
  · rw [he]
    constructor
    · intro h
      cases hnote : note e statusCode with
      | ok text =>
        rw [ofPayload_of_noted he hnote, withStatus] at h
        cases hstatus : readInteger statusCode <;>
          simp [hstatus, Checked.under, Checked.map, Checked.orFail] at h
      | error l =>
        rw [ofPayload_of_limit he hnote] at h
        cases h
    · intro h
      exact absurd rfl (h e)
  · simp [ofPayload_of_failed hfaults, hfaults]

/-- An error that can be noted is answered with the status code. -/
theorem value_ofPayload (he : p.read ErrorPayload.read = .ok e)
    (hcode : Json.FitsDigits e.code) (hstatus : statusCode.NumbersFit .digits) :
    (ofPayload p statusCode).value = withStatus e statusCode := by
  obtain ⟨text, hnote⟩ := (writtenIf_note e statusCode).ok ⟨hcode, hstatus⟩
  rw [ofPayload_of_noted he hnote]

/-- An error that cannot be noted is not answered, and nothing is told of it. -/
theorem ofPayload_eq_limit_iff (he : p.read ErrorPayload.read = .ok e) :
    ofPayload p statusCode = .pure (.error (.limit .digits)) ↔
      ¬ (Json.FitsDigits e.code ∧ statusCode.NumbersFit .digits) := by
  have hwritten := writtenIf_note e statusCode
  constructor
  · rintro h ⟨hcode, hstatus⟩
    have hvalue := value_ofPayload he hcode hstatus
    rw [h, withStatus] at hvalue
    cases hinteger : readInteger statusCode <;>
      simp [hinteger, Logged.pure, Checked.under, Checked.map, Checked.orFail] at hvalue
  · intro hlong
    exact ofPayload_of_limit he (hwritten.tooLong hlong)

/-- The entries of an error whose code is twelve, spelled with a sign and a fraction. -/
def twelveEntries : List (String × String) := [("code", " +0_12.00 "), ("message", "m")]

def twelvePayload : Wire.Payload :=
  .value (.str (String.ofList (Json.bareText (Json.plainMembers twelveEntries))))

/-- The same error with the numeral of its code. -/
def twelveObject : Object := [("param", .null), ("message", .str "m"), ("code", .str "12")]

/-- The entries of an error of code one. -/
def oneEntries : List (String × String) := [("code", "1"), ("message", "m")]

/-- The text of such an error, with lists under another key that are too deep inside one
another. -/
def deepErrorText : List Char := Json.deepText oneEntries "x" 249

end ErrorReply

end PaymentConnector
