import PaymentConnector.Url.Domain
import PaymentConnector.Url.Fault
import PaymentConnector.Url.Ipv6
import PaymentConnector.Url.Percent

/-!
Hosts. The host of a web URL is a domain name, which is put into its ASCII form, or
an address; the host of any other URL is kept as it is, unless it is an address in
brackets.
-/

namespace PaymentConnector.Url

open Text

inductive Host
  | name (text : List Char)
  | ipv4 (address : Nat)
  | ipv6 (groups : List Nat)
  deriving DecidableEq, Repr

namespace Host

def text : Host → List Char
  | name s => s
  | ipv4 n => Ipv4.text n
  | ipv6 groups => '[' :: Ipv6.text groups ++ [']']

/-- An address in brackets, given from its opening bracket on. -/
def readBracketed (s : List Char) : Except Fault Host :=
  if s.getLast? = some ']' then
    match Ipv6.read? (s.drop 1).dropLast with
    | some groups => .ok (ipv6 groups)
    | none => .error .invalidIpv6
  else .error .invalidIpv6

/-- The host of a web URL. -/
def readDomain (s : List Char) : Except Fault Host :=
  if s.head? = some '[' then readBracketed s
  else
    match Utf8.decode (percentDecode s) with
    | .error _ => .error .invalidDomain
    | .ok decoded =>
      match Domain.toAscii? decoded with
      | none => .error .invalidDomain
      | some [] => .error .emptyHost
      | some ascii =>
        if Ipv4.endsInNumber ascii then
          match Ipv4.read? ascii with
          | some n => .ok (ipv4 n)
          | none => .error .invalidIpv4
        else .ok (name ascii)

def plainHostBarred (c : Char) : Bool :=
  c.toNat = 0 || "\t\n\r #/:<>?@[\\]^|".toList.contains c

/-- The host of a URL whose scheme is unknown. -/
def readPlain (s : List Char) : Except Fault Host :=
  if s.head? = some '[' then readBracketed s
  else if s.any plainHostBarred then .error .invalidDomainCharacter
  else .ok (name (percentEncode keepPlain s))

end Host

end PaymentConnector.Url
