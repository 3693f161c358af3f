import PaymentConnector.Url.Domain.Direction
import PaymentConnector.Url.Domain.Joiner
import PaymentConnector.Url.Domain.Mapping
import PaymentConnector.Url.Domain.Valid
import PaymentConnector.Url.Punycode

/-!
Domain names in ASCII. A name is first written in its usual way: in small letters,
composed, and without characters that do not count. Each label must then be valid;
a label that is not in ASCII is encoded behind a mark, and one that bears the mark
must be the encoding of a valid label that is not in ASCII.
-/

namespace PaymentConnector.Url.Domain

open Text

/-- How a character is written; nothing if it may not stand in a name. -/
def written? (c : Char) : Option (List Char) :=
  if isValid c then some [c]
  else if isIgnored c then some []
  else
    match mapped? c with
    | some cs => some cs
    | none => if (parts? c).isSome then some [c] else none

def writtenName? : List Char → Option (List Char)
  | [] => some []
  | c :: rest => do
    let cs ← written? c
    let ds ← writtenName? rest
    return cs ++ ds

/-- The mark of an encoded label. -/
def mark : List Char := ['x', 'n', '-', '-']

def isValidLabel (label : List Char) : Bool :=
  composed label == label && label.all isValid && !(label.head?.any isMark)
    && !mark.isPrefixOf label && joinersFit label

/-- Labels longer than this are not decoded. -/
def decodeLimit : Nat := 2000

/-- Labels longer than this are not encoded. -/
def encodeLimit : Nat := 1000

/-- A label as it is read and in ASCII. -/
structure Label where
  unicode : List Char
  ascii : List Char

def decodeLabel? (label : List Char) : Option Label :=
  let body := label.drop mark.length
  if decodeLimit < body.length then none
  else
    match Punycode.decode body with
    | some text =>
      if isValidLabel text && !text.all isAscii then some ⟨text, label⟩ else none
    | none => none

def encodeLabel? (label : List Char) : Option Label :=
  if !isValidLabel label then none
  else if label.all isAscii then some ⟨label, label⟩
  else if encodeLimit < label.length then none
  else some ⟨label, mark ++ Punycode.encode label⟩

def label? (label : List Char) : Option Label :=
  if mark.isPrefixOf label then decodeLabel? label else encodeLabel? label

def labels? : List (List Char) → Option (List Label)
  | [] => some []
  | l :: rest => do
    let label ← label? l
    let labels ← labels? rest
    return label :: labels

/-- Marks of other parts of an address, and characters that do not show. -/
def isBarred (c : Char) : Bool :=
  c.toNat ≤ 0x20 || c.toNat = 0x7F || "%#/:<>?@[\\]^|".toList.contains c

def keepDirections (labels : List Label) : Bool :=
  !(labels.any fun l => turnsAround l.unicode) || labels.all fun l => keepsDirection l.unicode

def joinLabels (labels : List Label) : List Char :=
  ['.'].intercalate (labels.map (·.ascii))

def toAscii? (s : List Char) : Option (List Char) := do
  let name ← writtenName? s
  let labels ← labels? (fields (· = '.') (composed name))
  let ascii := joinLabels labels
  if keepDirections labels && !ascii.any isBarred then some ascii else none

end PaymentConnector.Url.Domain
