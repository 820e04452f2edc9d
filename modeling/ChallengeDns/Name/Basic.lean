import ChallengeDns.Text.Utf8
/-!
# Domain names

A name is a sequence of labels, each of 1 to 63 octets, and is absolute or relative to some origin.
Written with a length octet before each label, and a zero octet for the root of an absolute name, it
takes at most 255 octets.  These bounds are part of the type.

Names are the same when they differ in the case of ASCII letters only; `canonical` is the spelling
in lower case that stands for all of them.
-/

namespace ChallengeDns

abbrev Label := Bytes

/-- What is wrong with a name or its text. -/
inductive NameFault where
  | emptyLabel
  | labelTooLong
  | nameTooLong
  | badEscape
  | appendedToAbsolute
deriving DecidableEq

def NameFault.message : NameFault → Text
  | .emptyLabel => "A DNS label is empty."
  | .labelTooLong => "A DNS label is > 63 octets long."
  | .nameTooLong => "A DNS name is > 255 octets long."
  | .badEscape => "An escaped code in a text format of DNS name is invalid."
  | .appendedToAbsolute =>
    "An attempt was made to append anything other than the\n    empty name to an absolute DNS name."

namespace Name

/-- The octets that labels take, each with its length octet, and the root if there is one. -/
def wireLength (labels : List Label) (absolute : Bool) : Nat :=
  labels.foldr (fun l n => l.length + 1 + n) (if absolute then 1 else 0)

end Name

/-- A domain name. -/
structure Name where
  /-- The labels without the root. -/
  labels : List Label
  /-- Whether the root follows. -/
  absolute : Bool
  label_size : ∀ l ∈ labels, 0 < l.length ∧ l.length ≤ 63
  wire_size : Name.wireLength labels absolute ≤ 255
deriving DecidableEq

/-- An ASCII capital letter's octet in lower case, every other octet unchanged. -/
def lowerOctet (b : UInt8) : UInt8 := if 0x41 ≤ b && b ≤ 0x5A then b + 32 else b

namespace Name

/-- The name with the given labels, unless a bound is broken; a label that is too long is blamed
before the whole name, and the name before an empty label. -/
def ofLabels (labels : List Label) (absolute : Bool) : Except NameFault Name :=
  if h : ∀ l ∈ labels, l.length ≤ 63 then
    if hw : wireLength labels absolute ≤ 255 then
      if h0 : ∀ l ∈ labels, 0 < l.length then
        .ok ⟨labels, absolute, fun l hl => ⟨h0 l hl, h l hl⟩, hw⟩
      else .error .emptyLabel
    else .error .nameTooLong
  else .error .labelTooLong

def root : Name := ⟨[], true, by simp, by decide⟩

/-- Lower case for the labels of a name. -/
def lowerLabels (labels : List Label) : List Label := labels.map (·.map lowerOctet)

theorem wireLength_lowerLabels (labels : List Label) (absolute : Bool) :
    wireLength (lowerLabels labels) absolute = wireLength labels absolute := by
  simp only [wireLength, lowerLabels, List.foldr_map, List.length_map]

/-- The spelling in lower case. -/
def canonical (n : Name) : Name where
  labels := lowerLabels n.labels
  absolute := n.absolute
  label_size := by
    intro l hl
    obtain ⟨m, hm, rfl⟩ := List.mem_map.1 hl
    simpa using n.label_size m hm
  wire_size := by
    rw [wireLength_lowerLabels]
    exact n.wire_size

/-- Whether two names are the same but for the case of ASCII letters. -/
def same (m n : Name) : Bool := m.canonical == n.canonical

/-- `m` with `n` behind it; only the empty name may follow an absolute one. -/
def append (m n : Name) : Except NameFault Name :=
  if m.absolute then
    if n.labels.isEmpty && !n.absolute then .ok m else .error .appendedToAbsolute
  else ofLabels (m.labels ++ n.labels) n.absolute

/-- The labels with an empty one for the root. -/
def wireLabels (n : Name) : List Label := n.labels ++ if n.absolute then [[]] else []

end Name

/-- A finite map from names to values, in the order in which the names came. -/
abbrev NameMap (α : Type) := List (Name × α)

namespace NameMap

variable {α : Type}

/-- The value of a name, whatever its case. -/
def get? (m : NameMap α) (n : Name) : Option α :=
  (m.find? fun e => e.1.same n).map (·.2)

/-- Gives a name a new value; a name that is there keeps its place and its spelling. -/
def insert (m : NameMap α) (n : Name) (a : α) : NameMap α :=
  match m with
  | [] => [(n, a)]
  | e :: m => if e.1.same n then (e.1, a) :: m else e :: insert m n a

/-- The map that the entries build one after the other. -/
def ofEntries (entries : List (Name × α)) : NameMap α :=
  entries.foldl (fun m e => insert m e.1 e.2) []

end NameMap

/-- Adds a name to a set of names unless it is there in some case. -/
def insertName (n : Name) (names : List Name) : List Name :=
  if names.any (·.same n) then names else names ++ [n]

end ChallengeDns
