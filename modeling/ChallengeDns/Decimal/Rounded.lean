import ChallengeDns.Decimal.Basic
/-!
# Rounded decimals

Numbers with a given number of digits behind the point, or with a given number of digits in all.
The decimal is the nearest one to the exact value; a tie goes to the even digit.
-/

namespace ChallengeDns.Decimal

/-- The whole number nearest to a ratio; a tie goes to the even one. -/
def Ratio.nearest (r : Ratio) : Nat :=
  let whole := r.floor
  let rest := r.num % r.den
  if 2 * rest < r.den then whole
  else if r.den < 2 * rest then whole + 1
  else if whole % 2 = 0 then whole else whole + 1

/-- Puts a point before the last `places` digits; with `point` it is there even if none follow. -/
def withPoint (places : Nat) (point : Bool) (digits : Text) : Text :=
  let whole := digits.take (digits.length - places)
  let fraction := digits.drop (digits.length - places)
  if fraction.isEmpty then whole ++ Text.when point "." else whole ++ "." ++ fraction

/-- A number with `places` digits behind the point. -/
def fixedText (places : Nat) (point : Bool) (r : Ratio) : Text :=
  withPoint places point (Text.padded (places + 1) (r.shift places).nearest)

/-- The first `places + 1` digits of a number and the exponent of the first one. -/
def leadingDigits (places : Nat) (r : Ratio) : Nat × Int :=
  if r.num = 0 then (0, 0)
  else
    let exponent := r.magnitude - 1
    let digits := (r.shift (places - exponent)).nearest
    if digits < Nat.pow 10 (places + 1) then (digits, exponent) else (digits / 10, exponent + 1)

/-- An exponent with its sign and at least two digits. -/
def exponentText (exponent : Int) : Text :=
  (if exponent < 0 then "e-" else "e+" : Text) ++ Text.padded 2 exponent.natAbs

/-- A number with one digit before the point, `places` behind it, and an exponent. -/
def scientificText (places : Nat) (point : Bool) (r : Ratio) : Text :=
  let (digits, exponent) := leadingDigits places r
  withPoint places point (Text.padded (places + 1) digits) ++ exponentText exponent

/-- The digits without the zeros at the end of what stands behind a point. -/
def dropZeros (t : Text) : Text :=
  if t.contains (.scalar '.') then
    let kept := (t.reverse.dropWhile (· = .scalar '0')).reverse
    if kept.getLast? = some (.scalar '.') then kept.dropLast else kept
  else t

/-- A number with `digits` digits: with an exponent if that is below -4 or not below the number of
digits.  Zeros at the end are dropped unless they are kept. -/
def generalText (digits : Nat) (keepZeros : Bool) (r : Ratio) : Text :=
  let digits := max digits 1
  let (leading, exponent) := leadingDigits (digits - 1) r
  let tidy (t : Text) : Text := if keepZeros then t else dropZeros t
  if exponent < -4 || (digits : Int) ≤ exponent then
    tidy (withPoint (digits - 1) keepZeros (Text.padded digits leading)) ++ exponentText exponent
  else tidy (fixedText ((digits : Int) - 1 - exponent).toNat keepZeros r)

end ChallengeDns.Decimal
