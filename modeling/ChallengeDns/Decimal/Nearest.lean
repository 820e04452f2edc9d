import ChallengeDns.Decimal.Rounded
/-!
# Nearest floating-point numbers

The floating-point number nearest to a decimal; of two that are equally near it is the one whose
last binary digit is zero.
-/

namespace ChallengeDns.Decimal

namespace Ratio

/-- `r * 2 ^ k`. -/
def scale (r : Ratio) (k : Int) : Ratio :=
  if k < 0 then ⟨r.num, r.den * Nat.pow 2 k.natAbs⟩ else ⟨r.num * Nat.pow 2 k.natAbs, r.den⟩

/-- The exponent of the greatest power of two that is not above a positive number. -/
def exponent (r : Ratio) : Int :=
  let guess : Int := (r.num.log2 : Int) - r.den.log2
  if r.lt (.binary 1 guess) then guess - 1 else guess

/-- The bits of the floating-point number nearest to a positive number.  It has 53 binary digits, or
as many as the least exponent leaves.  The exponent stands before the digits, and the first one of
53 digits adds to it; so does rounding up to a digit more.  Too large a number is infinite. -/
def nearestBits (r : Ratio) : Nat :=
  let q := max (r.exponent - 52) (-1074)
  min ((r.scale (-q)).nearest + (q + 1074).toNat * Nat.pow 2 52) (2047 * Nat.pow 2 52)

end Ratio

/-- The bits of the floating-point number nearest to `digits * 10 ^ exponent`. -/
def bits (digits : Nat) (exponent : Int) : Nat :=
  let size := ((Nat.toDigits 10 digits).length : Int) + exponent
  if digits = 0 || size < -330 then 0
  else if 310 < size then 2047 * Nat.pow 2 52
  else (Ratio.decimal digits exponent).nearestBits

/-- The floating-point number nearest to `digits * 10 ^ exponent`, or to its negative. -/
def toFloat (negative : Bool) (digits : Nat) (exponent : Int) : Float :=
  Float.ofBits (UInt64.ofNat ((if negative then Nat.pow 2 63 else 0) + bits digits exponent))

end ChallengeDns.Decimal
