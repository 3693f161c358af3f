import PaymentConnector.Text.Blank
import PaymentConnector.Url.Path

/-!
URLs from text. Blanks and controls around the text and line breaks anywhere are
dropped. The text is cut at the scheme, the query and the fragment; what is left
holds the authority and the path.
-/

namespace PaymentConnector.Url

open Text

/-- The text without controls and blanks around it and without tabs and line breaks. -/
def cleaned (s : List Char) : List Char :=
  (trim (·.toNat ≤ 0x20) s).filter fun c => !(c = '\t' || c = '\n' || c = '\r')

def isSchemeChar (c : Char) : Bool := c.isAlphanum || c = '+' || c = '-' || c = '.'

/-- The scheme in small letters and the text after its colon. -/
def cutScheme (s : List Char) : Option (List Char × List Char) :=
  match cutAround (· = ':') s with
  | some (c :: scheme, rest) =>
    if c.isAlpha ∧ scheme.all isSchemeChar then some ((c :: scheme).map Char.toLower, rest)
    else none
  | _ => none

/-- A text cut at its query and its fragment, without their marks. -/
structure Sections where
  body : List Char
  query : Option (List Char)
  fragment : Option (List Char)

def cutSections (s : List Char) : Sections :=
  let (beforeFragment, fragment) := match cutAround (· = '#') s with
    | some (before, after) => (before, some after)
    | none => (s, none)
  match cutAround (· = '?') beforeFragment with
  | some (body, query) => ⟨body, some query, fragment⟩
  | none => ⟨beforeFragment, none, fragment⟩

def Sections.isOnlyBody (s : Sections) : Bool := s.query.isNone && s.fragment.isNone

def readQuery (kind : SchemeKind) (s : List Char) : List Char :=
  percentEncode (if kind.isSpecial then keepSpecialQuery else keepQuery) s

/-- The user name and the password of a text before the last at sign. -/
def readUserinfo (s : List Char) : List Char × List Char :=
  match cutAround (· = ':') s with
  | some (name, password) => (percentEncode keepUserinfo name, percentEncode keepUserinfo password)
  | none => (percentEncode keepUserinfo s, [])

/-- The host and the text after it; a colon ends the host unless it stands in brackets. -/
def cutHost (inBrackets : Bool) : List Char → List Char × List Char
  | [] => ([], [])
  | c :: rest =>
    if c = ':' ∧ !inBrackets then ([], c :: rest)
    else
      let inside := if c = '[' then true else if c = ']' then false else inBrackets
      let (host, after) := cutHost inside rest
      (c :: host, after)

/-- A port and the text after it. A port that goes without saying is left out. -/
def readPort (scheme s : List Char) : Except Fault (Option Nat × List Char) :=
  let digits := s.takeWhile Char.isDigit
  let rest := s.dropWhile Char.isDigit
  let n := Nat.ofDigitChars 10 digits 0
  if 65535 < n ∨ (rest ≠ [] ∧ rest.head? ≠ some '\\') then .error .invalidPort
  else if digits = [] ∨ webPorts.lookup scheme = some n then .ok (none, rest)
  else .ok (some n, rest)

def readHost (kind : SchemeKind) (s : List Char) : Except Fault Host :=
  if kind.isSpecial then Host.readDomain s else Host.readPlain s

/-- An authority and what follows it. `ends` tells that the whole text ends with it. -/
def readAuthority (scheme : List Char) (kind : SchemeKind) (ends : Bool) (s : List Char) :
    Except Fault (Authority × List Char) :=
  let (userinfo, hostport) := (cutAroundLast (· = '@') s).getD ([], s)
  let closed : Bool := s = ['@'] ∧ !ends
  let (username, password) := readUserinfo userinfo
  let (hostText, after) := cutHost false hostport
  if closed then .error .emptyHost
  else if hostText = [] then
    if kind.isSpecial ∨ after ≠ [] ∨ username ≠ [] ∨ password ≠ [] then .error .emptyHost
    else .ok (⟨[], [], none, none⟩, [])
  else
    match readHost kind hostText with
    | .error e => .error e
    | .ok host =>
      match after with
      | ':' :: portText =>
        match readPort scheme portText with
        | .error e => .error e
        | .ok (port, rest) => .ok (⟨username, password, some host, port⟩, rest)
      | rest => .ok (⟨username, password, some host, none⟩, rest)

/-- The authority and the path of a text after two slashes. -/
def readHierarchy (scheme : List Char) (kind : SchemeKind) (onlyBody : Bool) (s : List Char) :
    Except Fault (Authority × UrlPath) :=
  let (authorityText, pathText) := cut (isSlash kind) s
  match readAuthority scheme kind (pathText = [] ∧ onlyBody) authorityText with
  | .error e => .error e
  | .ok (authority, rest) =>
    let pathText := rest ++ pathText
    if pathText = [] ∧ !kind.isSpecial then .ok (authority, .segments [])
    else .ok (authority, readSegments kind (dropSlash kind pathText))

def localHost : List Char := "localhost".toList

/-- The host of a file. This computer is no host, and a drive letter is part of the path. -/
def readFileHost (s : List Char) : Except Fault (Option Host) :=
  if s = [] then .ok none
  else
    match Host.readDomain s with
    | .error e => .error e
    | .ok (.name name) => .ok (if name = localHost then none else some (.name name))
    | .ok host => .ok (some host)

/-- The authority of a file. -/
def fileAuthority (host : Option Host) : Authority := ⟨[], [], host, none⟩

/-- A file whose path comes after its host. Without a host the slash before the path is read as
part of it, so a drive letter stays as it is; with one, a drive letter takes its place. -/
def fileOn (path : List Char) : Option Host → Authority × UrlPath
  | none => (fileAuthority none, readSegments .file path)
  | some host =>
    let path := dropSlash .file path
    (fileAuthority (if namesDrive path then none else some host), readSegments .file path)

def readFile (body : List Char) : Except Fault (Authority × UrlPath) :=
  let isSlash := isSlash .file
  let onDisk := (fileAuthority none, readSegments .file (dropSlash .file body))
  match body with
  | a :: b :: rest =>
    if isSlash a ∧ isSlash b then
      let (hostText, path) := cut isSlash rest
      if isDrive hostText then .ok (fileAuthority none, readSegments .file rest)
      else (readFileHost hostText).map (fileOn path)
    else .ok onDisk
  | _ => .ok onDisk

/-- The authority and the path of the text between the scheme and the query. -/
def readBody (scheme : List Char) (onlyBody : Bool) (body : List Char) :
    Except Fault (Option Authority × UrlPath) :=
  match schemeKind scheme with
  | .file => (readFile body).map fun (a, p) => (some a, p)
  | .web =>
    (readHierarchy scheme .web onlyBody (body.dropWhile (isSlash .web))).map
      fun (a, p) => (some a, p)
  | .other =>
    match body with
    | '/' :: '/' :: rest =>
      (readHierarchy scheme .other onlyBody rest).map fun (a, p) => (some a, p)
    | '/' :: rest => .ok (none, readSegments .other rest)
    | text => .ok (none, .plain (percentEncode keepPlain text))

/-- The URL that a text stands for. -/
def read (s : List Char) : Except Fault Url :=
  if s = [] then .error .emptyInput
  else
    match cutScheme (cleaned s) with
    | none => .error .relativeWithoutBase
    | some (scheme, rest) =>
      let sections := cutSections rest
      match readBody scheme sections.isOnlyBody sections.body with
      | .error e => .error e
      | .ok (authority, path) =>
        .ok {
          scheme, authority, path
          query := sections.query.map (readQuery (schemeKind scheme))
          fragment := sections.fragment.map (percentEncode keepFragment) }

end PaymentConnector.Url
