import PaymentConnector.Text.Span
import PaymentConnector.Text.Utf8

/-!
Percent-encoding. Each part of a URL has its own set of characters that stay as they
are; the bytes of every other character are written as two hexadecimal digits. A
percent sign always stays, so what is encoded already is not encoded twice.
-/

namespace PaymentConnector.Url

open Text

def upperHexDigit (n : Nat) : Char :=
  if n < 10 then Char.ofNat ('0'.toNat + n) else Char.ofNat ('A'.toNat + (n - 10))

def encodeByte (b : UInt8) : List Char :=
  ['%', upperHexDigit (b.toNat / 16), upperHexDigit (b.toNat % 16)]

def percentEncode (keep : Char → Bool) (s : List Char) : List Char :=
  s.flatMap fun c => if keep c then [c] else (String.utf8EncodeChar c).flatMap encodeByte

/-- Everything but controls and characters outside ASCII. -/
def keepPlain (c : Char) : Bool := 0x20 ≤ c.toNat && c.toNat ≤ 0x7E

def keepFragment (c : Char) : Bool := keepPlain c && !(" \"<>`".toList.contains c)

def keepPath (c : Char) : Bool := keepFragment c && !("#?\x7b\x7d".toList.contains c)

def keepUserinfo (c : Char) : Bool := keepPath c && !("/:;=@[\\]^|".toList.contains c)

def keepQuery (c : Char) : Bool := keepPlain c && !(" \"#<>".toList.contains c)

def keepSpecialQuery (c : Char) : Bool := keepQuery c && c != '\''

/-- The bytes of a text with its escapes undone; a percent sign without two digits stays. -/
def percentDecode : List Char → List UInt8
  | [] => []
  | '%' :: a :: b :: rest =>
    match hexDigit? a, hexDigit? b with
    | some x, some y => UInt8.ofNat (16 * x + y) :: percentDecode rest
    | _, _ => 0x25 :: percentDecode (a :: b :: rest)
  | c :: rest => String.utf8EncodeChar c ++ percentDecode rest
termination_by s => s.length

end PaymentConnector.Url
