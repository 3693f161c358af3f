import PaymentConnector.Text.Quoted
import PaymentConnector.Url.Reader

/-!
Addresses cut into scheme, network location, path, query and fragment, and put
together again. Nothing is decoded or put into normal form. A network location with
brackets must hold an address in them, and none may hold a character that only looks
like one of the marks between the parts.
-/

namespace PaymentConnector.Url

open Text

structure Parts where
  scheme : List Char
  netloc : List Char
  path : List Char
  query : List Char
  fragment : List Char
  deriving DecidableEq, Repr

inductive SplitFault
  | misplacedBracket
  | notAnAddress (host : List Char)
  | fourBytesInBrackets
  | invalidFutureAddress
  | deceptive (netloc : List Char)
  deriving DecidableEq, Repr

def SplitFault.message : SplitFault → String
  | misplacedBracket => "Invalid IPv6 URL"
  | notAnAddress host =>
    quoted (String.ofList host) ++ " does not appear to be an IPv4 or IPv6 address"
  | fourBytesInBrackets => "An IPv4 address cannot be in brackets"
  | invalidFutureAddress => "IPvFuture address is invalid"
  | deceptive netloc =>
    "netloc '" ++ String.ofList netloc ++ "' contains invalid characters under NFKC normalization"

namespace Parts

/-- Characters that stand for others, among them a slash, a colon, an at sign, a number
sign or a question mark. -/
def lookalikes : List Nat :=
  [0x2047, 0x2048, 0x2049, 0x2100, 0x2101, 0x2105, 0x2106, 0x2A74, 0xFE13, 0xFE16, 0xFE55,
   0xFE56, 0xFE5F, 0xFE6B, 0xFF03, 0xFF0F, 0xFF1A, 0xFF1F, 0xFF20]

/-- An address of a later version: `v`, hexadecimal digits, a point and anything. -/
def isFutureAddress (host : List Char) : Bool :=
  match (host.drop 1).span fun c => (hexDigit? c).isSome with
  | (_ :: _, '.' :: _ :: _) => true
  | _ => false

/-- An address of eight groups, with the name of a zone after a percent sign or without. -/
def isZonedAddress (host : List Char) : Bool :=
  match cutAround (· = '%') host with
  | none => (Ipv6.read? host).isSome
  | some (address, zone) => (Ipv6.read? address).isSome && !zone.isEmpty && !zone.contains '%'

def checkAddress (host : List Char) : Except SplitFault Unit :=
  if host.head? = some 'v' then
    if isFutureAddress host then .ok () else .error .invalidFutureAddress
  else if (Ipv4.readStrict? host).isSome then .error .fourBytesInBrackets
  else if isZonedAddress host then .ok ()
  else .error (.notAnAddress host)

/-- The part of a network location after its last at sign. -/
def hostAndPort (netloc : List Char) : List Char :=
  match cutAroundLast (· = '@') netloc with
  | some (_, after) => after
  | none => netloc

def checkBrackets (netloc : List Char) : Except SplitFault Unit :=
  if netloc.contains '[' ≠ netloc.contains ']' then .error .misplacedBracket
  else if !netloc.contains '[' then .ok ()
  else
    match cutAround (· = '[') (hostAndPort netloc) with
    | some (_ :: _, _) => .error .misplacedBracket
    | some ([], bracketed) =>
      let (host, after) := cut (· = ']') bracketed
      match after with
      | [] => checkAddress host
      | [_] => checkAddress host
      | _ :: c :: _ => if c = ':' then checkAddress host else .error .misplacedBracket
    | none => checkAddress (cut (· = ':') (hostAndPort netloc)).1

def checkNetloc (netloc : List Char) : Except SplitFault Unit :=
  match checkBrackets netloc with
  | .error e => .error e
  | .ok _ =>
    if netloc.any (lookalikes.contains ·.toNat) then .error (.deceptive netloc) else .ok ()

/-- The text without controls and blanks before it and without tabs and line breaks. -/
def trimmed (s : List Char) : List Char :=
  (s.dropWhile (·.toNat ≤ 0x20)).filter fun c => !(c = '\t' || c = '\n' || c = '\r')

/-- The network location after two slashes, and the text after it. -/
def cutNetloc : List Char → List Char × List Char
  | '/' :: '/' :: rest => cut (fun c => c = '/' || c = '?' || c = '#') rest
  | s => ([], s)

/-- The parts of an address, with no check on them. -/
def cutParts (s : List Char) : Parts :=
  let (scheme, rest) := (cutScheme (trimmed s)).getD ([], trimmed s)
  let (netloc, rest) := cutNetloc rest
  let sections := cutSections rest
  { scheme, netloc
    path := sections.body
    query := sections.query.getD []
    fragment := sections.fragment.getD [] }

def split (s : List Char) : Except SplitFault Parts :=
  match checkNetloc (cutParts s).netloc with
  | .ok _ => .ok (cutParts s)
  | .error e => .error e

/-- The schemes whose addresses have two slashes even without a network location. -/
def slashedSchemes : List String :=
  ["ftp", "http", "gopher", "nntp", "telnet", "imap", "wais", "file", "mms", "https", "shttp",
   "snews", "prospero", "rtsp", "rtsps", "rtspu", "rsync", "svn", "svn+ssh", "sftp", "nfs",
   "git", "git+ssh", "ws", "wss"]

def isSlashed (scheme : List Char) : Bool := slashedSchemes.any (·.toList = scheme)

/-- The network location with its slashes, and the path. -/
def hierarchyText (p : Parts) : List Char :=
  if p.netloc ≠ [] ∨ (isSlashed p.scheme ∧ !(['/', '/'].isPrefixOf p.path)) then
    let path := if p.path = [] ∨ p.path.head? = some '/' then p.path else '/' :: p.path
    '/' :: '/' :: p.netloc ++ path
  else p.path

def join (p : Parts) : List Char :=
  (if p.scheme = [] then [] else p.scheme ++ [':']) ++ p.hierarchyText
    ++ (if p.query = [] then [] else '?' :: p.query)
    ++ (if p.fragment = [] then [] else '#' :: p.fragment)

end Parts

end PaymentConnector.Url
