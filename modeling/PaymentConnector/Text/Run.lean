import PaymentConnector.Text.Span

/-!
Maps between characters, as runs. A run holds characters at equal distances, and so
are their images. Long lists of runs, pairs and classes are kept as hexadecimal text;
the place of each is its distance from the one before.
-/

namespace PaymentConnector.Text

/-- `count` characters from `first` on, `step` apart, with images from `target` on. -/
structure Run where
  first : Nat
  count : Nat
  step : Nat
  target : Nat

def Run.has (r : Run) (n : Nat) : Bool :=
  r.first ≤ n && n < r.first + r.count * r.step && (n - r.first) % r.step == 0

def Run.image (r : Run) (n : Nat) : Nat := n - r.first + r.target

/-- The image of a character in the first run that has it. -/
def imageIn? (runs : List Run) (n : Nat) : Option Nat := (runs.find? (·.has n)).map (·.image n)

def runsOfGaps (position : Nat) : List Nat → List Run
  | gap :: count :: step :: target :: rest =>
    ⟨position + gap, count, step, target⟩ :: runsOfGaps (position + gap) rest
  | _ => []

def decodeRuns (lines : List String) : List Run :=
  runsOfGaps 0 (lines.flatMap fun line => hexNumbers line.toList none)

/-- A character and the two that it is made of. -/
structure Pair where
  whole : Nat
  first : Nat
  second : Nat

def pairsOfGaps (position : Nat) : List Nat → List Pair
  | gap :: first :: second :: rest =>
    ⟨position + gap, first, second⟩ :: pairsOfGaps (position + gap) rest
  | _ => []

def decodePairs (lines : List String) : List Pair :=
  pairsOfGaps 0 (lines.flatMap fun line => hexNumbers line.toList none)

/-- A span whose members are of one class. -/
structure ClassSpan where
  span : Span
  value : Nat

def classesOfGaps (position : Nat) : List Nat → List ClassSpan
  | gap :: length :: value :: rest =>
    let first := position + gap
    ⟨(first, first + length - 1), value⟩ :: classesOfGaps (first + length) rest
  | _ => []

def decodeClasses (lines : List String) : List ClassSpan :=
  classesOfGaps 0 (lines.flatMap fun line => hexNumbers line.toList none)

/-- The class of a character; zero if it is in no span. -/
def classIn (classes : List ClassSpan) (n : Nat) : Nat :=
  match classes.find? (·.span.has n) with
  | some c => c.value
  | none => 0

end PaymentConnector.Text
