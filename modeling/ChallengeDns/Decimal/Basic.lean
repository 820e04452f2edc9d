import ChallengeDns.Text.Basic
/-!
# Exact numbers

The exact value of a binary floating-point number.  It is `m * 2 ^ q` for natural numbers `m` and
integers `q`, so that every comparison with a decimal `d * 10 ^ k` is one of natural numbers.
-/

namespace ChallengeDns.Decimal

/-- A rational number that is not negative. -/
structure Ratio where
  num : Nat
  den : Nat

namespace Ratio

/-- `n * 2 ^ q`. -/
def binary (n : Nat) (q : Int) : Ratio :=
  if q < 0 then ⟨n, Nat.pow 2 q.natAbs⟩ else ⟨n * Nat.pow 2 q.natAbs, 1⟩

/-- `r * 10 ^ k`. -/
def shift (r : Ratio) (k : Int) : Ratio :=
  if k < 0 then ⟨r.num, r.den * Nat.pow 10 k.natAbs⟩ else ⟨r.num * Nat.pow 10 k.natAbs, r.den⟩

/-- `n * 10 ^ k`. -/
def decimal (n : Nat) (k : Int) : Ratio := shift ⟨n, 1⟩ k

def lt (a b : Ratio) : Bool := a.num * b.den < b.num * a.den

def distance (a b : Ratio) : Ratio :=
  ⟨max (a.num * b.den) (b.num * a.den) - min (a.num * b.den) (b.num * a.den), a.den * b.den⟩

def floor (r : Ratio) : Nat := r.num / r.den

/-- The number of digits before the decimal point, negative for zeros behind it. -/
def magnitude (r : Ratio) : Int := (Nat.toDigits 10 (r.shift 350).floor).length - 350

end Ratio

/-- The size of a binary floating-point number: `m * 2 ^ q`, and whether the next smaller number is
at half the usual distance. -/
structure Binary where
  m : Nat
  q : Int
  narrow : Bool

namespace Binary

def value (b : Binary) : Ratio := .binary b.m b.q

/-- The number with an exponent field and a fraction field of 52 bits; without an exponent the
fraction has no leading one. -/
def ofFields (exponent fraction : Nat) : Binary :=
  if exponent = 0 then ⟨fraction, -1074, false⟩
  else ⟨Nat.pow 2 52 + fraction, (exponent : Int) - 1075, fraction = 0 && 1 < exponent⟩

end Binary

/-- The size of a floating-point number: nothing for infinities and for what is no number. -/
inductive Size where
  | finite (b : Binary)
  | infinite
  | noNumber

/-- A floating-point number's sign and size. -/
def measure (x : Float) : Bool × Size :=
  let bits := x.toBits.toNat
  let exponent : Nat := bits / Nat.pow 2 52 % 2048
  let fraction : Nat := bits % Nat.pow 2 52
  (bits / Nat.pow 2 63 = 1,
    if exponent = 2047 then (if fraction = 0 then .infinite else .noNumber)
    else .finite (.ofFields exponent fraction))

end ChallengeDns.Decimal
