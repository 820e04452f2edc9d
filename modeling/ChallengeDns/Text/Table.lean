import ChallengeDns.Text.Basic
/-!
# Tables of code points

Properties of characters that no rule computes are kept as tables, written as text in hexadecimal:
ranges (`41-5a 5f`) for a set of code points, entries (`df=73.73`) for a map from code points to
sequences.  Both are in rising order, so that a look-up can halve the table at each step.
-/

namespace ChallengeDns

/-- Disjoint ranges of numbers in rising order, both ends included. -/
structure CodeRanges where
  ranges : Array (Nat × Nat)

/-- A map from numbers to sequences of numbers, by rising key. -/
structure CodeMap where
  entries : Array (Nat × List Nat)

namespace Table

/-- The value of a hexadecimal digit. -/
def hexDigit? (c : Char) : Option Nat :=
  if '0' ≤ c && c ≤ '9' then some (c.toNat - 48)
  else if 'a' ≤ c && c ≤ 'f' then some (c.toNat - 87)
  else if 'A' ≤ c && c ≤ 'F' then some (c.toNat - 55)
  else none

/-- The number that the hexadecimal digits among the characters write. -/
def hexNumber (cs : List Char) : Nat :=
  cs.foldl (fun n c => match hexDigit? c with
    | some d => n * 16 + d
    | none => n) 0

/-- The pieces between characters that satisfy `p`. -/
def pieces (p : Char → Bool) (cs : List Char) : List (List Char) :=
  let (last, rest) := cs.foldr (fun c (s : List Char × List (List Char)) =>
    if p c then ([], s.1 :: s.2) else (c :: s.1, s.2)) ([], [])
  last :: rest

/-- The words between blanks and line ends. -/
def words (s : String) : List (List Char) :=
  (pieces (fun c => c == ' ' || c == '\n') s.toList).filter (!·.isEmpty)

end Table

namespace CodeRanges

/-- Reads ranges, each written `first-last`, or `code` for a single one. -/
def read (s : String) : CodeRanges :=
  ⟨((Table.words s).map fun w =>
    match Table.pieces (· == '-') w with
    | [a, b] => (Table.hexNumber a, Table.hexNumber b)
    | _ => (Table.hexNumber w, Table.hexNumber w)).toArray⟩

/-- Looks for the range of `n` among those from `lo` up to `hi`. -/
def search (t : CodeRanges) (n lo hi : Nat) : Option (Nat × Nat) :=
  if lo < hi then
    let mid := (lo + hi) / 2
    match t.ranges[mid]? with
    | none => none
    | some (first, last) =>
      if n < first then search t n lo mid
      else if last < n then search t n (mid + 1) hi
      else some (first, last)
  else none
termination_by hi - lo

def range? (t : CodeRanges) (n : Nat) : Option (Nat × Nat) := t.search n 0 t.ranges.size

def contains (t : CodeRanges) (n : Nat) : Bool := (t.range? n).isSome

end CodeRanges

namespace CodeMap

/-- Reads entries, each written `key=value.value`; nothing after `=` is the empty sequence. -/
def read (s : String) : CodeMap :=
  ⟨((Table.words s).map fun w =>
    match Table.pieces (· == '=') w with
    | [k, []] => (Table.hexNumber k, [])
    | [k, v] => (Table.hexNumber k, (Table.pieces (· == '.') v).map Table.hexNumber)
    | _ => (Table.hexNumber w, [])).toArray⟩

/-- Looks for the entry of `n` among those from `lo` up to `hi`. -/
def search (t : CodeMap) (n lo hi : Nat) : Option (List Nat) :=
  if lo < hi then
    let mid := (lo + hi) / 2
    match t.entries[mid]? with
    | none => none
    | some (key, value) =>
      if n < key then search t n lo mid
      else if key < n then search t n (mid + 1) hi
      else some value
  else none
termination_by hi - lo

/-- The sequence that the map gives for `n`. -/
def get? (t : CodeMap) (n : Nat) : Option (List Nat) := t.search n 0 t.entries.size

end CodeMap

end ChallengeDns
