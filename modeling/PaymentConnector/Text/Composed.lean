import PaymentConnector.Text.CombiningClass
import PaymentConnector.Text.Decomposition

/-!
The composed form of text. Characters are taken apart, marks are put in the order of
their classes, and what can be joined is joined again, so that equivalent texts become
equal. Syllables of the Korean script are taken apart and joined by rule.
-/

namespace PaymentConnector.Text

namespace Syllable

def base : Nat := 0xAC00

def leadBase : Nat := 0x1100

def vowelBase : Nat := 0x1161

/-- One before the first tail; a syllable without a tail has this in its place. -/
def tailBase : Nat := 0x11A7

def leads : Nat := 19

def vowels : Nat := 21

def tails : Nat := 28

def count : Nat := leads * vowels * tails

def parts? (n : Nat) : Option (List Nat) :=
  if base ≤ n ∧ n < base + count then
    let i := n - base
    let lead := leadBase + i / (vowels * tails)
    let vowel := vowelBase + i % (vowels * tails) / tails
    if i % tails = 0 then some [lead, vowel] else some [lead, vowel, tailBase + i % tails]
  else none

/-- A lead and a vowel, or a syllable without a tail and a tail. -/
def joined? (a b : Nat) : Option Nat :=
  if leadBase ≤ a ∧ a < leadBase + leads ∧ vowelBase ≤ b ∧ b < vowelBase + vowels then
    some (base + ((a - leadBase) * vowels + (b - vowelBase)) * tails)
  else if base ≤ a ∧ a < base + count ∧ (a - base) % tails = 0
      ∧ tailBase < b ∧ b < tailBase + tails then
    some (a + (b - tailBase))
  else none

end Syllable

/-- Characters are taken apart at most this often. -/
def decompositionDepth : Nat := 4

/-- A character taken apart as far as possible, in that many steps. -/
def decomposed : (depth : Nat) → Char → List Char
  | 0, c => [c]
  | depth + 1, c =>
    match Syllable.parts? c.toNat with
    | some ns => ns.map Char.ofNat
    | none =>
      match parts? c with
      | some cs => cs.flatMap (decomposed depth)
      | none => [c]

/-- Put a character before a text, behind the marks of lower classes. -/
def placeMark (c : Char) : List Char → List Char
  | [] => [c]
  | d :: rest =>
    if 0 < combiningClass d ∧ combiningClass d < combiningClass c then d :: placeMark c rest
    else c :: d :: rest

def reordered : List Char → List Char
  | [] => []
  | c :: rest => placeMark c (reordered rest)

def joinedPair? (a b : Char) : Option Char :=
  match Syllable.joined? a.toNat b.toNat with
  | some n => some (Char.ofNat n)
  | none => joined? a b

/-- Join marks to the starter before them. A mark is out of reach if one of its class,
or of a higher one, stands between; `marks` are those between, the last one first. -/
def joinFrom (starter : Char) (marks : List Char) : List Char → List Char
  | [] => starter :: marks.reverse
  | c :: rest =>
    let reachable := match marks with
      | [] => true
      | m :: _ => combiningClass m < combiningClass c
    match if reachable then joinedPair? starter c else none with
    | some whole => joinFrom whole marks rest
    | none =>
      if combiningClass c = 0 then starter :: marks.reverse ++ joinFrom c [] rest
      else joinFrom starter (c :: marks) rest

/-- Marks before the first starter stay as they are. -/
def joinMarks : List Char → List Char
  | [] => []
  | c :: rest => if combiningClass c = 0 then joinFrom c [] rest else c :: joinMarks rest

def isAscii (c : Char) : Bool := c.toNat < 0x80

/-- Text in ASCII is in composed form. -/
def composed (s : List Char) : List Char :=
  if s.all isAscii then s
  else joinMarks (reordered (s.flatMap (decomposed decompositionDepth)))

end PaymentConnector.Text
