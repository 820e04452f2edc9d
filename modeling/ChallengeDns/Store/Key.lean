import ChallengeDns.Name.Reader
/-!
# Keys of the store

Values are kept under absolute names in lower case, so that all spellings of a name share them.
-/

namespace ChallengeDns

theorem lowerOctet_lowerOctet (b : UInt8) : lowerOctet (lowerOctet b) = lowerOctet b := by
  have h : ∀ n : Fin 256, lowerOctet (lowerOctet (UInt8.ofFin n)) = lowerOctet (UInt8.ofFin n) := by
    decide +kernel
  simpa using h b.toFin

namespace Name

theorem canonical_canonical (n : Name) : n.canonical.canonical = n.canonical := by
  have h (l : Label) : (l.map lowerOctet).map lowerOctet = l.map lowerOctet := by
    simp [List.map_map, Function.comp_def, lowerOctet_lowerOctet]
  simp only [canonical, lowerLabels, List.map_map, Function.comp_def, h]

/-- A name as a caller gives it: a name, or a text that is read as a relative one. -/
inductive Given where
  | name (n : Name)
  | text (t : Text)

/-- The name that is given. -/
def Given.read : Given → Except NameError Name
  | .name n => .ok n
  | .text t => Name.readRelative t

end Name

/-- A name under which values are kept. -/
structure Key where
  name : Name
  absolute : name.absolute = true
  lower : name.canonical = name
deriving DecidableEq

namespace Key

/-- The key of a name; only absolute names have one. -/
def ofName (n : Name) : Except NameError Key :=
  if h : n.absolute = true then .ok ⟨n.canonical, h, n.canonical_canonical⟩
  else .error (.notFullyQualified n.text)

def ofGiven (g : Name.Given) : Except NameError Key :=
  match g.read with
  | .ok n => ofName n
  | .error e => .error e

end Key

end ChallengeDns
