/-!
Log records, kept beside the result that they tell of.
-/

namespace PaymentConnector

inductive LogLevel
  | debug
  | info
  | warning
  | error
  deriving DecidableEq, Repr

def LogLevel.name : LogLevel → String
  | debug => "DEBUG"
  | info => "INFO"
  | warning => "WARNING"
  | error => "ERROR"

/-- The part of the program that a record comes from. -/
inductive LogSource
  | settings
  | requests
  | payloads
  | responses
  | connector
  | commandLine
  deriving DecidableEq, Repr

def LogSource.name : LogSource → String
  | settings => "dlocal_connector.config"
  | requests => "dlocal_connector.connectors.dlocal.requests"
  | payloads => "dlocal_connector.connectors.dlocal.models"
  | responses => "dlocal_connector.connectors.dlocal.responses"
  | connector => "dlocal_connector.connectors.dlocal.connector"
  | commandLine => "dlocal_connector.cli"

structure LogRecord where
  level : LogLevel
  source : LogSource
  message : String
  deriving DecidableEq, Repr

/-- The records that show, with those for debugging or without. -/
def LogRecord.shown (verbose : Bool) (log : List LogRecord) : List LogRecord :=
  log.filter fun r => verbose || r.level ≠ .debug

/-- A value and the records made on the way to it. -/
structure Logged (α : Type) where
  value : α
  log : List LogRecord

namespace Logged

variable {α β : Type}

def pure (a : α) : Logged α := ⟨a, []⟩

def map (f : α → β) (x : Logged α) : Logged β := ⟨f x.value, x.log⟩

def andThen (x : Logged α) (f : α → Logged β) : Logged β :=
  let y := f x.value
  ⟨y.value, x.log ++ y.log⟩

instance : Monad Logged where
  pure := pure
  bind := andThen

def tell (level : LogLevel) (source : LogSource) (message : String) : Logged Unit :=
  ⟨(), [⟨level, source, message⟩]⟩

end Logged

end PaymentConnector
