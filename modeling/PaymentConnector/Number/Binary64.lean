/-!
Binary floating-point numbers with 53 significant bits, as exact data.
A finite number is a significand times a power of two. A decimal is read by
exact integer arithmetic and rounded once, to nearest with ties to even.
-/

namespace PaymentConnector

/-- A finite number is `significand * 2 ^ exponent`, negated when `negative`. -/
inductive Binary64
  | finite (negative : Bool) (significand : Nat) (exponent : Int)
  | infinite (negative : Bool)
  | notANumber
  deriving DecidableEq, Repr

namespace Binary64

def leastExponent : Int := -1074

def greatestExponent : Int := 971

/-- The quotient rounded to nearest, ties to even. -/
def roundQuotient (num den : Nat) : Nat :=
  let q := num / den
  let twice := 2 * (num % den)
  if twice < den then q
  else if den < twice then q + 1
  else if q % 2 = 0 then q else q + 1

/-- `num / den` scaled down by `2 ^ e`, as a quotient of whole numbers. -/
def scaled (num den : Nat) (e : Int) : Nat × Nat :=
  (num * Nat.pow 2 (-e).toNat, den * Nat.pow 2 e.toNat)

/-- The exponent that leaves 53 bits before the point, or the least one. -/
def exponentFor (num den : Nat) : Int :=
  let guess := max leastExponent ((num.log2 : Int) - den.log2 - 52)
  let (n, d) := scaled num den guess
  if n / d < Nat.pow 2 52 then max leastExponent (guess - 1) else guess

/-- The number nearest to `num / den`. -/
def ofQuotient (negative : Bool) (num den : Nat) : Binary64 :=
  let e := exponentFor num den
  let (n, d) := scaled num den e
  let m := roundQuotient n d
  let (m, e) := if m = Nat.pow 2 53 then (Nat.pow 2 52, e + 1) else (m, e)
  if greatestExponent < e then infinite negative else finite negative m e

/-- The number nearest to `digits * 10 ^ exponent`. Exponents beyond the range
are answered from the number of digits alone. -/
def ofDecimal (negative : Bool) (digits : Nat) (exponent : Int) : Binary64 :=
  let size : Int := digits.log2
  if digits = 0 then finite negative 0 leastExponent
  else if 310 < exponent then infinite negative
  else if size + 3 * exponent < -1200 ∧ exponent < 0 then finite negative 0 leastExponent
  else ofQuotient negative (digits * Nat.pow 10 exponent.toNat) (Nat.pow 10 (-exponent).toNat)

/-- The whole number that a finite number denotes, if it denotes one. -/
def toInt? : Binary64 → Option Int
  | finite negative m e =>
    let unit := Nat.pow 2 (-e).toNat
    if m % unit = 0 then
      let n : Int := ((m / unit) * Nat.pow 2 e.toNat : Nat)
      some (if negative then -n else n)
    else none
  | infinite _ => none
  | notANumber => none

end Binary64

end PaymentConnector
