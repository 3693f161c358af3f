import PaymentConnector.Log

/-!
Settings of the connector. The base of its addresses comes from an argument, else
from the environment, else it is the sandbox; an empty text counts as absent.
-/

namespace PaymentConnector

structure Settings where
  baseUrl : String
  deriving DecidableEq, Repr

namespace Settings

def sandbox : String := "https://sandbox.dlocal.com/"

/-- The environment variable that may hold a base. -/
def environmentKey : String := "DLOCAL_BASE_URL"

def withSlash (base : String) : String :=
  if base.toList.getLast? = some '/' then base else base ++ "/"

/-- A text that is there and not empty. -/
def given? : Option String → Option String
  | some s => if s = "" then none else some s
  | none => none

def ofBase (base : String) : Settings := ⟨withSlash base⟩

/-- The settings without an argument. -/
def ofEnvironment (environment : Option String) : Settings :=
  ofBase ((given? environment).getD sandbox)

/-- Settings that come from an argument leave no record. -/
def choose (argument environment : Option String) : Logged Settings :=
  match given? argument with
  | some base => .pure (ofBase base)
  | none =>
    let settings := ofEnvironment environment
    ⟨settings, [⟨.debug, .settings, "Using connector base URL " ++ settings.baseUrl⟩]⟩

end Settings

end PaymentConnector
