import ChallengeDns.Text.Decomposition
/-!
# Compatibility normal form

`Text.normalize` replaces every character by its full compatibility decomposition, puts combining
marks into canonical order, and composes again what composes.  Hangul syllables are taken apart and
put together by arithmetic.
-/

namespace ChallengeDns.Normal

/-- The combining class of a code point; zero for one that combines with nothing before it. -/
def combiningClass (n : Nat) : Nat :=
  match CodeMap.combiningClasses.get? n with
  | some (k :: _) => k
  | _ => 0

/-- The full decomposition of a code point. -/
def decompose (n : Nat) : List Nat :=
  if 0xAC00 ≤ n && n < 0xD7A4 then
    let i := n - 0xAC00
    [0x1100 + i / 588, 0x1161 + i % 588 / 28]
      ++ (if i % 28 = 0 then [] else [0x11A7 + i % 28])
  else (CodeMap.decompositions.get? n).getD [n]

/-- Puts a mark behind those of a smaller or equal class that stand at the end of a reversed
sequence. -/
def insertMark (n k : Nat) : List (Nat × Nat) → List (Nat × Nat)
  | [] => [(n, k)]
  | (m, j) :: rest =>
    if k < j then (m, j) :: insertMark n k rest else (n, k) :: (m, j) :: rest

/-- The code points with their classes, marks in canonical order, last one first. -/
def orderMarks (codes : List Nat) : List (Nat × Nat) :=
  codes.foldl (fun acc n =>
    let k := combiningClass n
    if k = 0 then (n, 0) :: acc else insertMark n k acc) []

/-- The second and third of each pair, looked up by the second. -/
def lookUpPair (b : Nat) : List Nat → Option Nat
  | c :: r :: rest => if c = b then some r else lookUpPair b rest
  | _ => none

/-- The character that two others compose to. -/
def composePair (a b : Nat) : Option Nat :=
  if 0x1100 ≤ a && a < 0x1113 && 0x1161 ≤ b && b < 0x1176 then
    some (0xAC00 + ((a - 0x1100) * 21 + (b - 0x1161)) * 28)
  else if 0xAC00 ≤ a && a < 0xD7A4 && (a - 0xAC00) % 28 = 0 && 0x11A7 < b && b < 0x11C3 then
    some (a + (b - 0x11A7))
  else (CodeMap.compositions.get? a).bind (lookUpPair b)

/-- The state of the composition: what is finished, the last starter if there is one, and the marks
kept behind it with the class of the last of them; both lists have their last element first. -/
structure Composing where
  done : List Nat
  starter : Option Nat
  marks : List Nat
  last : Option Nat

/-- Everything that the state holds, in order. -/
def Composing.result (s : Composing) : List Nat :=
  s.done.reverse ++ s.starter.toList ++ s.marks.reverse

/-- One more code point: it joins the starter when nothing of its class or a higher one stands
between them and the two compose. -/
def Composing.step (s : Composing) (n k : Nat) : Composing :=
  let open? := match s.last with
    | none => true
    | some j => j < k
  let joined := if open? then s.starter.bind (composePair · n) else none
  match joined with
  | some r => { s with starter := some r }
  | none =>
    if k = 0 then
      let done := s.marks ++ s.starter.toList ++ s.done
      { done := done, starter := some n, marks := [], last := none }
    else { s with marks := n :: s.marks, last := some k }

/-- Composes a canonically ordered sequence. -/
def compose (codes : List (Nat × Nat)) : List Nat :=
  (codes.foldl (fun (s : Composing) (n, k) => s.step n k) ⟨[], none, [], none⟩).result

/-- The compatibility normal form of a sequence of code points. -/
def normalize (codes : List Nat) : List Nat :=
  compose (orderMarks (codes.flatMap decompose)).reverse

end ChallengeDns.Normal
