import PaymentConnector.Number.Binary64

/-!
The decimal text of a binary floating-point number: the fewest digits that read
back to the same number, the nearest such digits if there are several.
-/

namespace PaymentConnector

namespace Binary64

/-- The power of ten just above `num / den`: the least `k` with `num / den < 10 ^ k`. -/
def decimalScale (num den : Nat) : Int :=
  let below (k : Int) : Bool := num * Nat.pow 10 (-k).toNat < den * Nat.pow 10 k.toNat
  let guess : Int := ((num.log2 : Int) - den.log2) * 30103 / 100000 - 1
  match (List.range 5).find? fun (i : Nat) => below (guess + i) with
  | some i => guess + i
  | none => guess

/-- The decimal neighbours of `num / den` on the grid `10 ^ step`, the nearer one first. -/
def neighbours (num den : Nat) (step : Int) : List Nat :=
  let n := num * Nat.pow 10 (-step).toNat
  let d := den * Nat.pow 10 step.toNat
  let near := roundQuotient n d
  [near, if near = n / d then near + 1 else n / d]

/-- Drop trailing zeros into the exponent. -/
def stripZeros (digits : Nat) (exponent : Int) : Nat × Int :=
  if h : 0 < digits ∧ digits % 10 = 0 then stripZeros (digits / 10) (exponent + 1)
  else (digits, exponent)
termination_by digits
decreasing_by omega

/-- Digits and decimal exponent of a positive number. Seventeen digits always
suffice; all digits of the exact value would follow them. -/
def shortest (m : Nat) (e : Int) : Nat × Int :=
  let num := m * Nat.pow 2 e.toNat
  let den := Nat.pow 2 (-e).toNat
  let k := decimalScale num den
  let hit := (List.range 17).findSome? fun (i : Nat) =>
    let step := k - (i + 1)
    ((neighbours num den step).find? fun d =>
      ofDecimal false d step = finite false m e).map (·, step)
  match hit with
  | some (d, step) => stripZeros d step
  | none => (m * Nat.pow 2 e.toNat * Nat.pow 5 (-e).toNat, min e 0)

/-- Digits with the point placed: positional for leading exponents from -4 to 15,
otherwise one digit before the point and a signed exponent of at least two digits. -/
def layout (digits : Nat) (exponent : Int) : String :=
  let ds := Nat.toDigits 10 digits
  let lead : Int := exponent + ds.length - 1
  if lead < -4 ∨ 15 < lead then
    let mantissa := match ds with
      | [d] => [d]
      | d :: rest => d :: '.' :: rest
      | [] => []
    let size := Nat.toDigits 10 lead.natAbs
    let size := if size.length < 2 then '0' :: size else size
    String.ofList (mantissa ++ 'e' :: (if lead < 0 then '-' else '+') :: size)
  else if lead < 0 then
    String.ofList ('0' :: '.' :: (List.replicate (-lead - 1).toNat '0' ++ ds))
  else if 0 ≤ exponent then
    String.ofList (ds ++ List.replicate exponent.toNat '0' ++ ['.', '0'])
  else
    let cut := (lead + 1).toNat
    String.ofList (ds.take cut ++ '.' :: ds.drop cut)

/-- How a number is written: `12.0`, `-0.0`, `1e+20`, `inf`, `nan`. -/
def text : Binary64 → String
  | finite negative m e =>
    let body := if m = 0 then "0.0" else
      let (digits, exponent) := shortest m e
      layout digits exponent
    if negative then "-" ++ body else body
  | infinite negative => if negative then "-inf" else "inf"
  | notANumber => "nan"

end Binary64

end PaymentConnector
