/-!
Characters from bytes. An automaton reads one byte at a time and yields whole
characters and defective runs; a defective run is the longest start of a character
that the bytes break off. Strict decoding stops at the first defect, lenient
decoding puts a replacement character for each.
-/

namespace PaymentConnector.Text.Utf8

inductive Defect
  | invalidStart
  | invalidContinuation
  | truncated
  deriving DecidableEq, Repr

def Defect.reason : Defect → String
  | invalidStart => "invalid start byte"
  | invalidContinuation => "invalid continuation byte"
  | truncated => "unexpected end of data"

inductive Piece
  | char (c : Char)
  | defect (d : Defect) (bytes : List UInt8)
  deriving DecidableEq, Repr

/-- Between characters, or inside one: the bytes read, the bytes still owed, the
bounds of the next byte and the bits collected. -/
inductive State
  | start
  | inside (read : List UInt8) (owed low high value : Nat)
  deriving DecidableEq, Repr

def first (b : UInt8) : List Piece × State :=
  let n := b.toNat
  if n < 0x80 then ([.char (Char.ofNat n)], .start)
  else if 0xC2 ≤ n ∧ n ≤ 0xDF then ([], .inside [b] 1 0x80 0xBF (n - 0xC0))
  else if n = 0xE0 then ([], .inside [b] 2 0xA0 0xBF 0)
  else if n = 0xED then ([], .inside [b] 2 0x80 0x9F 0xD)
  else if 0xE1 ≤ n ∧ n ≤ 0xEF then ([], .inside [b] 2 0x80 0xBF (n - 0xE0))
  else if n = 0xF0 then ([], .inside [b] 3 0x90 0xBF 0)
  else if n = 0xF4 then ([], .inside [b] 3 0x80 0x8F 4)
  else if 0xF1 ≤ n ∧ n ≤ 0xF3 then ([], .inside [b] 3 0x80 0xBF (n - 0xF0))
  else ([.defect .invalidStart [b]], .start)

def step : State → UInt8 → List Piece × State
  | .start, b => first b
  | .inside read owed low high value, b =>
    let n := b.toNat
    if low ≤ n ∧ n ≤ high then
      let value := value * 64 + (n - 0x80)
      if owed ≤ 1 then ([.char (Char.ofNat value)], .start)
      else ([], .inside (read ++ [b]) (owed - 1) 0x80 0xBF value)
    else
      let (pieces, state) := first b
      (.defect .invalidContinuation read :: pieces, state)

def pieces : State → List UInt8 → List Piece
  | .start, [] => []
  | .inside read _ _ _ _, [] => [.defect .truncated read]
  | state, b :: rest =>
    let (found, next) := step state b
    found ++ pieces next rest

/-- Where strict decoding stopped: the position of the first byte of the run. -/
structure Fault where
  position : Nat
  defect : Defect
  bytes : List UInt8
  deriving DecidableEq, Repr

def collect (position : Nat) : List Piece → Except Fault (List Char)
  | [] => .ok []
  | .char c :: rest => (collect (position + c.utf8Size) rest).map (c :: ·)
  | .defect d bytes :: _ => .error ⟨position, d, bytes⟩

def decode (bytes : List UInt8) : Except Fault (List Char) := collect 0 (pieces .start bytes)

def Piece.lenient : Piece → Char
  | .char c => c
  | .defect _ _ => Char.ofNat 0xFFFD

def decodeLenient (bytes : List UInt8) : List Char := (pieces .start bytes).map Piece.lenient

def encode (s : List Char) : List UInt8 := s.flatMap String.utf8EncodeChar

def hexByte (b : UInt8) : List Char :=
  let ds := Nat.toDigits 16 b.toNat
  if ds.length < 2 then '0' :: ds else ds

def Fault.message (f : Fault) : String :=
  let place := match f.bytes with
    | [b] => "byte 0x" ++ String.ofList (hexByte b) ++ " in position " ++ toString f.position
    | bytes => "bytes in position " ++ toString f.position ++ "-"
        ++ toString (f.position + bytes.length - 1)
  "'utf-8' codec can't decode " ++ place ++ ": " ++ f.defect.reason

end PaymentConnector.Text.Utf8
