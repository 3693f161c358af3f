import PaymentConnector.Url.Fault

/-!
Faults found while data is checked. A fault has a path of keys and a cause; each
cause has a short kind and a message. A value that came as JSON text is described
in the words of that format.
-/

namespace PaymentConnector

/-- How a value reached the check: as a value, or inside JSON text. -/
inductive Origin
  | value
  | text
  deriving DecidableEq, Repr

/-- What was expected where something other than an object was found. -/
inductive Shape
  | model (name : String)
  | dictionary
  | tagged
  deriving DecidableEq, Repr

/-- Rules on values whose fields are fine one by one. -/
inductive Rule
  | currencyLength
  | cardRequired
  | cardNotAllowed (method : String)
  deriving DecidableEq, Repr

def Rule.message : Rule → String
  | currencyLength => "currency must be a three-letter ISO 4217 code"
  | cardRequired => "card details are required for the card payment method"
  | cardNotAllowed method => "card details are not allowed for " ++ method

inductive Cause
  | missing
  | notString
  | notObject (shape : Shape)
  | notInteger
  | integerText
  | integerSize
  | fraction
  | notFinite
  | belowZero
  | notBool
  | boolText
  | notListed (tokens : List String)
  | notLiteral (token : String)
  | tagMissing (key : String)
  | tagUnknown (key tag : String) (tags : List String)
  | notUrl
  | url (f : Url.Fault)
  | rule (r : Rule)
  deriving DecidableEq, Repr

def apostrophes (token : String) : String := "'" ++ token ++ "'"

/-- The tokens in apostrophes, with "or" before the last one. -/
def alternatives : List String → String
  | [] => ""
  | [a] => apostrophes a
  | [a, b] => apostrophes a ++ " or " ++ apostrophes b
  | a :: rest => apostrophes a ++ ", " ++ alternatives rest

namespace Cause

def kind : Cause → String
  | missing => "missing"
  | notString => "string_type"
  | notObject (.model _) => "model_type"
  | notObject .dictionary => "dict_type"
  | notObject .tagged => "model_attributes_type"
  | notInteger => "int_type"
  | integerText => "int_parsing"
  | integerSize => "int_parsing_size"
  | fraction => "int_from_float"
  | notFinite => "finite_number"
  | belowZero => "greater_than_equal"
  | notBool => "bool_type"
  | boolText => "bool_parsing"
  | notListed _ => "enum"
  | notLiteral _ => "literal_error"
  | tagMissing _ => "union_tag_not_found"
  | tagUnknown _ _ _ => "union_tag_invalid"
  | notUrl => "url_type"
  | url _ => "url_parsing"
  | rule _ => "value_error"

def shapeMessage : Origin → Shape → String
  | .text, _ => "Input should be an object"
  | .value, .model name => "Input should be a valid dictionary or instance of " ++ name
  | .value, .dictionary => "Input should be a valid dictionary"
  | .value, .tagged => "Input should be a valid dictionary or object to extract fields from"

def message (origin : Origin) : Cause → String
  | missing => "Field required"
  | notString => "Input should be a valid string"
  | notObject shape => shapeMessage origin shape
  | notInteger => "Input should be a valid integer"
  | integerText => "Input should be a valid integer, unable to parse string as an integer"
  | integerSize => "Unable to parse input string as an integer, exceeded maximum size"
  | fraction => "Input should be a valid integer, got a number with a fractional part"
  | notFinite => "Input should be a finite number"
  | belowZero => "Input should be greater than or equal to 0"
  | notBool => "Input should be a valid boolean"
  | boolText => "Input should be a valid boolean, unable to interpret input"
  | notListed tokens => "Input should be " ++ alternatives tokens
  | notLiteral token => "Input should be " ++ apostrophes token
  | tagMissing key => "Unable to extract tag using discriminator " ++ apostrophes key
  | tagUnknown key tag tags =>
    "Input tag '" ++ tag ++ "' found using " ++ apostrophes key
      ++ " does not match any of the expected tags: "
      ++ String.intercalate ", " (tags.map apostrophes)
  | notUrl => "URL input should be a string or URL"
  | url f => "Input should be a valid URL, " ++ f.message
  | rule r => "Value error, " ++ r.message

end Cause

structure Fault where
  path : List String
  cause : Cause
  deriving DecidableEq, Repr

def Fault.under (key : String) (f : Fault) : Fault := ⟨key :: f.path, f.cause⟩

end PaymentConnector
