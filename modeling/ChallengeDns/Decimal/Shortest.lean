import ChallengeDns.Decimal.Basic
/-!
# Shortest decimals

The decimal text of a binary floating-point number with the fewest digits that reads back as the
same number, and of those the nearest to it.  A number `m * 2 ^ q` is what every decimal rounds to
that lies between its neighbours' midpoints; the search tries one digit, then two, and so on, each
time the two decimals of that many digits around the number.
-/

namespace ChallengeDns.Decimal

namespace Binary

/-- Whether a decimal rounds to the number; the midpoints do when `m` is even. -/
def rounds (b : Binary) (d : Ratio) : Bool :=
  let low := Ratio.binary (4 * b.m - if b.narrow then 1 else 2) (b.q - 2)
  let high := Ratio.binary (4 * b.m + 2) (b.q - 2)
  if b.m % 2 = 0 then !d.lt low && !high.lt d else low.lt d && d.lt high

/-- The decimal of `n` digits that rounds to the number and is nearest to it, with its exponent. -/
def withDigits? (b : Binary) (n : Nat) : Option (Nat × Int) :=
  let k := b.value.magnitude - n
  let d := (b.value.shift (-k)).floor
  let down := Ratio.decimal d k
  let up := Ratio.decimal (d + 1) k
  match b.rounds down, b.rounds up with
  | false, false => none
  | true, false => some (d, k)
  | false, true => some (d + 1, k)
  | true, true =>
    -- Both candidates round to the number: the nearer one wins, and then the even one.
    let below := b.value.distance down
    let above := b.value.distance up
    if below.lt above then some (d, k)
    else if above.lt below then some (d + 1, k)
    else if d % 2 = 0 then some (d, k) else some (d + 1, k)

/-- The shortest decimal, with its exponent; seventeen digits are always enough. -/
def shortest (b : Binary) : Nat × Int :=
  ((List.range 17).findSome? fun i => b.withDigits? (i + 1)).getD (b.m, 0)

end Binary

/-- How decimals are laid out: the greatest number of digits before the point, and of zeros behind
it, that are still written out; the least number of digits in an exponent. -/
structure Layout where
  leading : Int
  zeros : Int
  exponentDigits : Nat

/-- Numbers from 0.0001 up to below 10^16 are written out, with at least one digit behind the point;
others have an exponent of two digits or more with its sign. -/
def plain : Layout := ⟨16, -4, 2⟩

/-- A decimal `digits * 10 ^ k` laid out. -/
def Layout.text (l : Layout) (digits : Nat) (k : Int) : Text :=
  let all := Nat.toDigits 10 digits
  let kept := (all.reverse.dropWhile (· == '0')).reverse
  let kept := if kept.isEmpty then ['0'] else kept
  let point : Int := all.length + k
  if l.zeros < point && point ≤ l.leading then
    -- The point stands in front of all digits, or among or behind them.
    if point ≤ 0 then
      Text.ofChars ('0' :: '.' :: List.replicate point.natAbs '0' ++ kept)
    else
      let whole := kept.take point.natAbs
      let padded := whole ++ List.replicate (point.natAbs - whole.length) '0'
      let fraction := kept.drop point.natAbs
      Text.ofChars (padded ++ '.' :: (if fraction.isEmpty then ['0'] else fraction))
  else
    let exponent := point - 1
    let mantissa := kept.take 1 ++ (if kept.length = 1 then [] else '.' :: kept.drop 1)
    Text.ofChars (mantissa ++ ['e', if exponent < 0 then '-' else '+'])
      ++ Text.padded l.exponentDigits exponent.natAbs

/-- The shortest text of a floating-point number; the words for infinities and for what is no number
are given. -/
def text (infinity noNumber : Text) (x : Float) : Text :=
  let (negative, size) := measure x
  let sign := Text.when negative "-"
  match size with
  | .noNumber => noNumber
  | .infinite => sign ++ infinity
  | .finite b =>
    if b.m = 0 then sign ++ "0.0"
    else
      let (digits, k) := b.shortest
      sign ++ plain.text digits k

end ChallengeDns.Decimal
