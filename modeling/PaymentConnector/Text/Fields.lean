/-!
Cutting text at separators.
-/

namespace PaymentConnector.Text

/-- The parts between the characters of a class; one more than there are such characters. -/
def fields (p : Char → Bool) : List Char → List (List Char)
  | [] => [[]]
  | c :: rest =>
    if p c then [] :: fields p rest
    else match fields p rest with
      | [] => [[c]]
      | f :: fs => (c :: f) :: fs

/-- The text before the first character of a class, and the text from there on. -/
def cut (p : Char → Bool) (s : List Char) : List Char × List Char :=
  (s.takeWhile (!p ·), s.dropWhile (!p ·))

/-- The text before and after the first character of a class. -/
def cutAround (p : Char → Bool) (s : List Char) : Option (List Char × List Char) :=
  match cut p s with
  | (_, []) => none
  | (before, _ :: after) => some (before, after)

/-- The text before and after the last character of a class. -/
def cutAroundLast (p : Char → Bool) (s : List Char) : Option (List Char × List Char) :=
  (cutAround p s.reverse).map fun (after, before) => (before.reverse, after.reverse)

end PaymentConnector.Text
