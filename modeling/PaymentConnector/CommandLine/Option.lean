import PaymentConnector.Text.DecimalDigit
import PaymentConnector.Text.Fields

/-!
Options among the arguments of a command. A letter stands behind one hyphen and takes
no value; letters may share a hyphen. A word stands behind two hyphens, may be cut
short where one word alone begins so, and has its value after an equals sign or in
the next argument. Two hyphens alone end the options. What looks like a negative
number, or has a blank in it, is no option unless it is a known one.
-/

namespace PaymentConnector.CommandLine

open Text

/-- What may stand among the options: one argument, or a command with all that follows. -/
inductive Place
  | argument
  | command
  deriving DecidableEq, Repr

structure Grammar (κ : Type) where
  letters : List (Char × κ)
  words : List (List Char × κ)
  takesValue : κ → Bool
  place : Place

/-- An option as it was written. -/
inductive Sense (κ : Type)
  | letters (key : κ) (joined : List Char)
  | word (key : κ) (value : Option (List Char))
  | unknown

inductive Token (κ : Type)
  | argument (text : List Char)
  | option (text : List Char) (sense : Sense κ)
  | separator

def Token.text {κ : Type} : Token κ → List Char
  | argument text => text
  | option text _ => text
  | separator => ['-', '-']

/-- What the arguments say, one after another. After `broken` nothing is read. -/
inductive Event (κ : Type)
  | flag (key : κ)
  | value (key : κ) (text : List Char)
  | argument (text : List Char)
  | command (name : List Char) (arguments : List (List Char))
  | stray
  | broken

/-- The place among the options: free, awaiting its argument after a separator, just
filled, or closed. -/
inductive Slot
  | free
  | awaiting
  | filled
  | closed
  deriving DecidableEq, Repr

/-- The place once something else has been read. -/
def Slot.pass : Slot → Slot
  | filled => closed
  | slot => slot

/-- A minus sign and digits, perhaps with a point among them or before them. -/
def isNegativeNumber (s : List Char) : Bool :=
  let isDigit c := (digitValue? c).isSome
  match s with
  | '-' :: rest =>
    let body := if rest.getLast? = some '\n' then rest.dropLast else rest
    match cutAround (· = '.') body with
    | none => !body.isEmpty && body.all isDigit
    | some (whole, decimals) => whole.all isDigit && !decimals.isEmpty && decimals.all isDigit
  | _ => false

namespace Grammar

variable {κ : Type} (g : Grammar κ)

def letter? (c : Char) : Option κ := g.letters.lookup c

/-- The words that a shortened name may stand for. -/
def wordsFrom (name : List Char) : List κ :=
  (g.words.filter fun w => name.isPrefixOf w.1).map Prod.snd

/-- What is no known option: an argument, or an option that nobody knows. -/
def unlisted (text : List Char) : Token κ :=
  if isNegativeNumber text || text.contains ' ' then .argument text else .option text .unknown

def nameAndValue (text : List Char) : List Char × Option (List Char) :=
  match cutAround (· = '=') text with
  | some (name, value) => (name, some value)
  | none => (text, none)

/-- Nothing if more than one option is meant. -/
def wordToken? (text : List Char) : Option (Token κ) :=
  let (name, value) := nameAndValue text
  match g.words.lookup name with
  | some key => some (.option text (.word key value))
  | none =>
    match g.wordsFrom name with
    | [] => some (unlisted text)
    | [key] => some (.option text (.word key value))
    | _ => none

def token? : List Char → Option (Token κ)
  | '-' :: '-' :: rest => g.wordToken? ('-' :: '-' :: rest)
  | '-' :: c :: joined =>
    match g.letter? c with
    | some key => some (.option ('-' :: c :: joined) (.letters key joined))
    | none => some (unlisted ('-' :: c :: joined))
  | text => some (.argument text)

def tokens? : List (List Char) → Option (List (Token κ))
  | [] => some []
  | ['-', '-'] :: rest => some (.separator :: rest.map .argument)
  | text :: rest => do
    let t ← g.token? text
    let ts ← tokens? rest
    return t :: ts

/-- Letters behind one hyphen; nothing if another hyphen or an equals sign is among them. -/
def lettersFrom (key : κ) : List Char → Option (List (Event κ))
  | [] => some [.flag key]
  | c :: rest =>
    if c = '-' || c = '=' then none
    else match g.letter? c with
      | none => some [.flag key, .stray]
      | some next => (lettersFrom next rest).map (.flag key :: ·)

/-- The events of the tokens. Where one argument has its place, the separator may stand
right before or right after it. -/
def events (slot : Slot) : List (Token κ) → List (Event κ)
  | [] => if slot = .awaiting then [.stray] else []
  | .argument text :: rest =>
    if slot = .free ∧ g.place = .command then [.command text (rest.map Token.text)]
    else if slot = .free ∨ slot = .awaiting then .argument text :: events .filled rest
    else .stray :: events .closed rest
  | .separator :: rest =>
    if slot = .free ∧ g.place = .argument then events .awaiting rest
    else if slot = .filled then events .closed rest
    else .stray :: events .closed rest
  | .option _ .unknown :: rest => .stray :: events slot.pass rest
  | .option _ (.letters key joined) :: rest =>
    match g.lettersFrom key joined with
    | some flags => flags ++ events slot.pass rest
    | none => [.broken]
  | .option _ (.word key (some text)) :: rest =>
    if g.takesValue key then .value key text :: events slot.pass rest else [.broken]
  | .option _ (.word key none) :: .argument text :: rest =>
    if g.takesValue key then .value key text :: events slot.pass rest
    else .flag key :: events slot.pass (.argument text :: rest)
  | .option _ (.word key none) :: rest =>
    if g.takesValue key then [.broken] else .flag key :: events slot.pass rest

def read (arguments : List (List Char)) : List (Event κ) :=
  match g.tokens? arguments with
  | some tokens => g.events .free tokens
  | none => [.broken]

end Grammar

end PaymentConnector.CommandLine
