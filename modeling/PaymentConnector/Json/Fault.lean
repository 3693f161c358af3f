import PaymentConnector.Json.Reader

/-!
Messages for faults in JSON text. A place is given by line and column, both from
one, and by the number of characters before it.
-/

namespace PaymentConnector.Json

def TextCause.message : TextCause → String
  | byteOrderMark => "Unexpected UTF-8 BOM (decode using utf-8-sig)"
  | expectingValue => "Expecting value"
  | expectingName => "Expecting property name enclosed in double quotes"
  | expectingColon => "Expecting ':' delimiter"
  | expectingComma => "Expecting ',' delimiter"
  | unterminatedString => "Unterminated string starting at"
  | controlCharacter => "Invalid control character at"
  | invalidEscape => "Invalid \\escape"
  | invalidUnicodeEscape => "Invalid \\uXXXX escape"
  | loneSurrogate => "Invalid surrogate pair"
  | extraData => "Extra data"
  | tooDeep => "Nesting too deep"
  | tooManyDigits count =>
    "Exceeds the limit (4300 digits) for integer string conversion: value has "
      ++ toString count ++ " digits; use sys.set_int_max_str_digits() to increase the limit"

def placeText (before : List Char) : String :=
  let line := before.count '\n' + 1
  let column := (before.reverse.takeWhile (· ≠ '\n')).length + 1
  "line " ++ toString line ++ " column " ++ toString column
    ++ " (char " ++ toString before.length ++ ")"

/-- The message with its place in the text. Too long a number has no place. -/
def TextFault.message (f : TextFault) (text : List Char) : String :=
  match f.cause with
  | .tooManyDigits _ => f.cause.message
  | cause => cause.message ++ ": " ++ placeText (text.take (text.length - f.ahead))

end PaymentConnector.Json
