import PaymentConnector.Check.Fault
import PaymentConnector.Json

/-!
Checked values. A check that fails tells all faults, in the order of the fields;
two checks side by side fail with the faults of both. A reader turns a JSON value
into a checked value.
-/

namespace PaymentConnector

inductive Checked (α : Type)
  | ok (value : α)
  | failed (faults : List Fault)

namespace Checked

variable {α β : Type}

def map (f : α → β) : Checked α → Checked β
  | ok a => ok (f a)
  | failed fs => failed fs

/-- Apply a checked function to a checked argument, and keep the faults of both. -/
def app (f : Checked (α → β)) (x : Unit → Checked α) : Checked β :=
  match f, x () with
  | ok f, ok a => ok (f a)
  | ok _, failed fs => failed fs
  | failed fs, ok _ => failed fs
  | failed fs, failed gs => failed (fs ++ gs)

instance : Applicative Checked where
  map := map
  pure := ok
  seq := app

/-- A check on a value that is fine so far. -/
def andThen (x : Checked α) (f : α → Checked β) : Checked β :=
  match x with
  | ok a => f a
  | failed fs => failed fs

def fail (c : Cause) : Checked α := failed [⟨[], c⟩]

/-- The same check, with its faults below a key. -/
def under (key : String) : Checked α → Checked α
  | ok a => ok a
  | failed fs => failed (fs.map (Fault.under key))

def toOption : Checked α → Option α
  | ok a => some a
  | failed _ => none

end Checked

abbrev Reader (α : Type) := Json → Checked α

namespace Object

variable {α : Type}

/-- A field that must be there. -/
def required (o : Object) (key : String) (read : Reader α) : Checked α :=
  match o.get? key with
  | none => .failed [⟨[key], .missing⟩]
  | some j => (read j).under key

/-- A field that may be absent or null. -/
def optional (o : Object) (key : String) (read : Reader α) : Checked (Option α) :=
  match o.get? key with
  | none => .ok none
  | some .null => .ok none
  | some j => ((read j).under key).map some

/-- A field that has a value of its own when it is absent. -/
def defaulted (o : Object) (key : String) (value : α) (read : Reader α) : Checked α :=
  match o.get? key with
  | none => .ok value
  | some j => (read j).under key

end Object

/-- Read the fields of an object; `shape` says what was expected instead of other values. -/
def Reader.object {α : Type} (shape : Shape) (fields : Object → Checked α) : Reader α
  | .obj o => fields o
  | _ => .fail (.notObject shape)

def Reader.model {α : Type} (name : String) (fields : Object → Checked α) : Reader α :=
  Reader.object (.model name) fields

end PaymentConnector
