import PaymentConnector.Text.Span

/-!
White space and trimming. `isSpace` is the white space of the character standard;
`isBlank` adds the four separators of files, groups, records and units.
-/

namespace PaymentConnector.Text

def spaceSpans : List Span :=
  [(0x09, 0x0D), (0x20, 0x20), (0x85, 0x85), (0xA0, 0xA0), (0x1680, 0x1680),
   (0x2000, 0x200A), (0x2028, 0x2029), (0x202F, 0x202F), (0x205F, 0x205F), (0x3000, 0x3000)]

def isSpace (c : Char) : Bool := inSpans spaceSpans c.toNat

def separators : Span := (0x1C, 0x1F)

def isBlank (c : Char) : Bool := isSpace c || separators.has c.toNat

/-- Drop the characters of a class from both ends. -/
def trim (p : Char → Bool) (s : List Char) : List Char :=
  ((s.dropWhile p).reverse.dropWhile p).reverse

end PaymentConnector.Text
