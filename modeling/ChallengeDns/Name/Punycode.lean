import ChallengeDns.Text.Utf8
/-!
# Punycode

The ASCII form of a label with other characters (RFC 3492): the ASCII characters in their order, a
hyphen if there are any, and then the positions and values of the others as differences, written in
digits of base 36 with a bias that adapts to their size.
-/

namespace ChallengeDns.Punycode

/-- The octet for a digit: `a` to `z`, then `0` to `9`. -/
def digit (d : Nat) : UInt8 := if d < 26 then (97 + d).toUInt8 else (22 + d).toUInt8

/-- The threshold of the digit at position `k`, from 1 to 26. -/
def threshold (k bias : Nat) : Nat :=
  if k ≤ bias then 1 else if bias + 26 ≤ k then 26 else k - bias

/-- Divides a difference by 35 until it is at most 455 and counts the divisions in steps of 36. -/
def scale (delta k : Nat) : Nat × Nat :=
  if 455 < delta then scale (delta / 35) (k + 36) else (delta, k)
termination_by delta
decreasing_by exact Nat.div_lt_self (by omega) (by omega)

/-- The bias after a difference, when `count` code points have been written. -/
def adapt (delta count : Nat) (first : Bool) : Nat :=
  let d := if first then delta / 700 else delta / 2
  let (d, k) := scale (d + d / count) 0
  k + 36 * d / (d + 38)

/-- A difference in digits, least significant first. -/
def integer (bias k q : Nat) : Bytes :=
  let t := threshold k bias
  if q < t then [digit q]
  else if 0 < t && t ≤ 26 then
    digit (t + (q - t) % (36 - t)) :: integer bias (k + 36) ((q - t) / (36 - t))
  else [digit q]
termination_by q
decreasing_by
  rename_i h1 h2
  simp only [Bool.and_eq_true, decide_eq_true_eq] at h2
  calc (q - threshold k bias) / (36 - threshold k bias)
      ≤ q - threshold k bias := Nat.div_le_self _ _
    _ < q := by omega

/-- The state of the encoding: octets written, the difference so far, the bias, how many code points
have been written, and whether the next difference is the first. -/
structure State where
  written : Bytes
  delta : Nat
  bias : Nat
  count : Nat
  first : Bool

/-- Passes one code point of the label while those of value `m` are written. -/
def State.pass (m : Nat) (s : State) (c : Nat) : State :=
  if c < m then { s with delta := s.delta + 1 }
  else if c = m then
    { written := s.written ++ integer s.bias 36 s.delta
      delta := 0
      bias := adapt s.delta (s.count + 1) s.first
      count := s.count + 1
      first := false }
  else s

/-- Writes the code points of each value in turn; `n` is the least value not yet handled. -/
def write (codes : List Nat) : List Nat → Nat → State → State
  | [], _, s => s
  | m :: ms, n, s =>
    let s := { s with delta := s.delta + (m - n) * (s.count + 1) }
    let s := codes.foldl (State.pass m) s
    write codes ms (m + 1) { s with delta := s.delta + 1 }

/-- Inserts a number into a rising list without repeating it. -/
def insertOnce (n : Nat) : List Nat → List Nat
  | [] => [n]
  | m :: ms => if n < m then n :: m :: ms else if n = m then m :: ms else m :: insertOnce n ms

def encode (codes : List Nat) : Bytes :=
  let basic := codes.filter (· < 0x80)
  let values := (codes.filter (0x80 ≤ ·)).foldl (fun vs n => insertOnce n vs) []
  let start : State := ⟨[], 0, 72, basic.length, true⟩
  basic.map Nat.toUInt8 ++ (if basic.isEmpty then [] else [0x2D])
    ++ (write codes values 0x80 start).written

end ChallengeDns.Punycode
