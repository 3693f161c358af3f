import PaymentConnector.Text.Fields
import PaymentConnector.Url.Basic

/-!
Paths in normal form. A segment of one dot is left out and a segment of two dots takes
the segment before it along, also where a dot is written as an escape; either leaves
an empty segment at the end of a path. A drive letter is never taken along.
-/

namespace PaymentConnector.Url

/-- The schemes of the web and of files treat a backslash as a slash. -/
def isSlash (kind : SchemeKind) (c : Char) : Bool := c = '/' || (kind.isSpecial && c = '\\')

/-- One dot or its escape at the head of a text, and the text after it. -/
def dropDot? : List Char → Option (List Char)
  | '.' :: rest => some rest
  | '%' :: '2' :: 'e' :: rest => some rest
  | '%' :: '2' :: 'E' :: rest => some rest
  | _ => none

def isSingleDot (s : List Char) : Bool := dropDot? s = some []

def isDoubleDot (s : List Char) : Bool := (dropDot? s).bind dropDot? = some []

/-- A letter and a colon or a bar, and then nothing or a backslash. -/
def startsWithDrive : List Char → Bool
  | [c, d] => c.isAlpha && (d = ':' || d = '|')
  | c :: d :: '\\' :: _ => c.isAlpha && (d = ':' || d = '|')
  | _ => false

def isDrive (s : List Char) : Bool := s.length = 2 && startsWithDrive s

/-- The segments so far, the last one first, without the last one. -/
def dropSegment : List (List Char) → List (List Char)
  | [] => []
  | s :: rest => if startsWithDrive s then s :: rest else rest

/-- A drive letter as the first segment of a file path is written with a colon. -/
def settleSegment (kind : SchemeKind) (done : List (List Char)) (s : List Char) : List Char :=
  match s with
  | [c, _] => if kind = .file ∧ done = [] ∧ isDrive s then [c, ':'] else s
  | _ => s

/-- Settle the dots of a list of segments; `done` holds those before it, the last one first. -/
def settleSegments (kind : SchemeKind) (done : List (List Char)) :
    List (List Char) → List (List Char)
  | [] => done.reverse
  | [s] =>
    if isDoubleDot s then ([] :: dropSegment done).reverse
    else if isSingleDot s then ([] :: done).reverse
    else (settleSegment kind done s :: done).reverse
  | s :: rest =>
    if isDoubleDot s then settleSegments kind (dropSegment done) rest
    else if isSingleDot s then settleSegments kind done rest
    else settleSegments kind (settleSegment kind done s :: done) rest

/-- A path of a file does not start with empty segments. -/
def dropEmptyStart : List (List Char) → List (List Char)
  | [] :: s :: rest => dropEmptyStart (s :: rest)
  | parts => parts

/-- The settled segments of a path text whose leading slash has been read. -/
def settledSegments (kind : SchemeKind) (s : List Char) : List (List Char) :=
  settleSegments kind [] ((Text.fields (isSlash kind) s).map (percentEncode keepPath))

/-- The path of a text whose leading slash has been read. -/
def readSegments (kind : SchemeKind) (s : List Char) : UrlPath :=
  let settled := settledSegments kind s
  .segments (if kind = .file then dropEmptyStart settled else settled)

/-- A file path that starts with a drive letter has no host. -/
def namesDrive (s : List Char) : Bool :=
  match settledSegments .file s with
  | first :: _ => isDrive first
  | [] => false

/-- A text without the slash that it may start with. -/
def dropSlash (kind : SchemeKind) : List Char → List Char
  | [] => []
  | c :: rest => if isSlash kind c then rest else c :: rest

end PaymentConnector.Url
