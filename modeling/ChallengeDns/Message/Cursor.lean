import ChallengeDns.Name.Basic
/-!
# Reading octets

A place in a message from which octets are read up to some stop.  Names may end with a pointer to an
earlier place; reading then goes on behind the furthest octet that was read.
-/

namespace ChallengeDns

/-- A place in a message. -/
structure Cursor where
  wire : Array UInt8
  position : Nat
  /-- The end of what was read so far. -/
  furthest : Nat
  /-- Where reading has to stop. -/
  stop : Nat

/-- Reading moves the place, or fails. -/
abbrev WireReader := StateT Cursor Option

namespace WireReader

def fail {α : Type} : WireReader α := fun _ => none

def require (condition : Bool) : WireReader Unit := if condition then pure () else fail

/-- The number of octets that are left. -/
def remaining : WireReader Nat := do
  let c ← get
  return c.stop - c.position

def octets (n : Nat) : WireReader Bytes := fun c =>
  if c.stop - c.position < n then none
  else
    let position := c.position + n
    some ((c.wire.extract c.position position).toList,
      { c with position := position, furthest := max c.furthest position })

def number (n : Nat) : WireReader Nat := do
  return (← octets n).foldl (fun m b => m * 256 + b.toNat) 0

def octet : WireReader Nat := number 1

def rest : WireReader Bytes := do octets (← remaining)

/-- Reads octets behind their number, which takes one octet. -/
def counted : WireReader Bytes := do octets (← octet)

/-- Reads exactly the next `n` octets with `body`. -/
def within {α : Type} (n : Nat) (body : WireReader α) : WireReader α := fun c =>
  if c.stop - c.position < n then none
  else match body { c with stop := c.position + n } with
    | none => none
    | some (a, d) => if d.position = d.stop then some (a, { d with stop := c.stop }) else none

/-- Reads with `body` as long as octets are left.  Each reading has to take some. -/
def many {α : Type} (body : WireReader α) : WireReader (List α) := fun c =>
  let rec go : Nat → Cursor → Option (List α × Cursor)
    | 0, c => some ([], c)
    | fuel + 1, c =>
      if c.position < c.stop then
        match body c with
        | none => none
        | some (a, d) => (go fuel d).map fun (as, e) => (a :: as, e)
      else some ([], c)
  go (c.stop - c.position) c

/-- Reads with `body` so many times. -/
def times {α : Type} (body : WireReader α) : Nat → WireReader (List α)
  | 0 => pure []
  | n + 1 => do return (← body) :: (← times body n)

/-- The labels from a position on and the end of what was read for them.  A pointer has to point
before the place where the labels started and before all earlier pointers. -/
def labelsFrom (c : Cursor) (bound position furthest : Nat) : Option (List Label × Nat) :=
  if _h : position < c.stop then
    match c.wire[position]? with
    | none => none
    | some count =>
      let n := count.toNat
      if n = 0 then some ([], max furthest (position + 1))
      else if n < 64 then
        if c.stop < position + 1 + n then none
        else
          let label := (c.wire.extract (position + 1) (position + 1 + n)).toList
          (labelsFrom c bound (position + 1 + n) (max furthest (position + 1 + n))).map
            fun (ls, f) => (label :: ls, f)
      -- The two highest bits mark a label or a pointer; the other two patterns have no meaning.
      else if n < 192 then none
      else if position + 1 < c.stop then
        match c.wire[position + 1]? with
        | none => none
        | some low =>
          let target := n % 64 * 256 + low.toNat
          if target < bound then labelsFrom c target target (max furthest (position + 2))
          else none
      else none
  else none
termination_by (bound, c.stop - position)

/-- Reads an absolute name. -/
def name : WireReader Name := fun c =>
  match labelsFrom c c.position c.position c.furthest with
  | none => none
  | some (labels, furthest) =>
    match Name.ofLabels labels true with
    | .error _ => none
    | .ok n => some (n, { c with position := furthest, furthest := furthest })

end WireReader

end ChallengeDns
