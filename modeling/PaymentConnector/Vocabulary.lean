import PaymentConnector.Check.Basic
import PaymentConnector.Text.Quoted

/-!
Closed sets of tokens. A vocabulary lists its members in order and writes each as
a token; reading accepts those tokens and nothing else.
-/

namespace PaymentConnector

class Vocabulary (α : Type) where
  name : String
  all : List α
  token : α → String

export Vocabulary (token)

namespace Vocabulary

variable (α : Type) [Vocabulary α]

def tokens : List String := (all (α := α)).map token

def ofToken? (s : String) : Option α := (all (α := α)).find? fun a => token a == s

/-- A text that is no token of a vocabulary. -/
structure UnknownToken where
  text : String
  vocabulary : String
  deriving DecidableEq, Repr

def UnknownToken.message (e : UnknownToken) : String :=
  Text.quoted e.text ++ " is not a valid " ++ e.vocabulary

def lookup (s : String) : Except UnknownToken α :=
  match ofToken? α s with
  | some a => .ok a
  | none => .error ⟨s, name α⟩

def read : Reader α
  | .str s =>
    match ofToken? α s with
    | some a => .ok a
    | none => .fail (.notListed (tokens α))
  | _ => .fail (.notListed (tokens α))

end Vocabulary

def Json.ofToken {α : Type} [Vocabulary α] (a : α) : Json := .str (token a)

end PaymentConnector
