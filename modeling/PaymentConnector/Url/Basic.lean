import PaymentConnector.Url.Host

/-!
URLs in normal form: a scheme in small letters, an authority for most URLs, a path
in segments or in one piece, and optionally a query and a fragment.
-/

namespace PaymentConnector

structure Authority where
  username : List Char
  password : List Char
  host : Option Url.Host
  port : Option Nat
  deriving DecidableEq, Repr

namespace Authority

def userinfoText (a : Authority) : List Char :=
  if a.username = [] ∧ a.password = [] then []
  else a.username ++ (if a.password = [] then [] else ':' :: a.password) ++ ['@']

def hostText (a : Authority) : List Char :=
  match a.host with
  | some h => h.text
  | none => []

def portText (a : Authority) : List Char :=
  match a.port with
  | some n => ':' :: Nat.toDigits 10 n
  | none => []

def text (a : Authority) : List Char := a.userinfoText ++ a.hostText ++ a.portText

end Authority

inductive UrlPath
  | plain (text : List Char)
  | segments (parts : List (List Char))
  deriving DecidableEq, Repr

def UrlPath.text : UrlPath → List Char
  | plain s => s
  | segments parts => parts.flatMap ('/' :: ·)

structure Url where
  scheme : List Char
  authority : Option Authority
  path : UrlPath
  query : Option (List Char)
  fragment : Option (List Char)
  deriving DecidableEq, Repr

namespace Url

/-- Which rules hold for a URL: those of the web, those of files, or the plain ones. -/
inductive SchemeKind
  | web
  | file
  | other
  deriving DecidableEq, Repr

def SchemeKind.isSpecial : SchemeKind → Bool
  | other => false
  | _ => true

/-- The schemes of the web and the ports that go without saying. -/
def webPorts : List (List Char × Nat) :=
  [("http".toList, 80), ("https".toList, 443), ("ws".toList, 80), ("wss".toList, 443),
   ("ftp".toList, 21)]

def schemeKind (scheme : List Char) : SchemeKind :=
  if scheme = "file".toList then .file
  else if (webPorts.lookup scheme).isSome then .web
  else .other

/-- What stands between the colon and the path. Without an authority, a path that
starts with an empty segment is set off, lest that segment be taken for one. -/
def leadText (u : Url) : List Char :=
  match u.authority, u.path with
  | some a, _ => '/' :: '/' :: a.text
  | none, .segments ([] :: _ :: _) => ['/', '.']
  | none, _ => []

def optionalText (mark : Char) : Option (List Char) → List Char
  | some s => mark :: s
  | none => []

def text (u : Url) : List Char :=
  u.scheme ++ ':' :: u.leadText ++ u.path.text ++ optionalText '?' u.query
    ++ optionalText '#' u.fragment

end Url

end PaymentConnector
