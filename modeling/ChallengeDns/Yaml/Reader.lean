import ChallengeDns.Yaml.Node
/-!
# Reading YAML

The value of a YAML text: `Yaml.read`.  Each node becomes a value by its tag.  Keys have to be
scalars; the entries of a mapping under a `<<` key come before its own ones, which win.
-/

namespace ChallengeDns.Yaml

namespace Node

mutual

/-- The text of a scalar; a mapping with a `=` key stands for the scalar there. -/
def scalarText? : Node → Option Text
  | .scalar _ t => some t
  | .mapping _ entries => valueText? entries
  | _ => none

/-- The text under the `=` key. -/
def valueText? : List (Node × Node) → Option Text
  | [] => none
  | (k, v) :: es => if k.tag = .value then v.scalarText? else valueText? es

end

/-- The key that a node is; only scalars are keys, and `=` is a text there. -/
def key (n : Node) : Except LoadError Scalar :=
  match n with
  | .scalar .value t => .ok (.text t)
  | _ =>
    match n.scalarText? with
    | some t => scalarOf n.tag t
    | none => .error .malformed

/-- The value of a mapping with a tag; `entries` are its entries in order. -/
def mappingValue (tag : Tag) (entries : List (Scalar × Value)) : Except LoadError Value :=
  let entries := Value.entriesOf entries
  match tag with
  | .map => .ok (.mapping entries)
  | .set => .ok (.set (entries.map (·.1)))
  | _ => .error .malformed

/-- What stands for a value inside itself: lists that stand deeper in each other than anything can
follow them. -/
def endless : Value := Nat.repeat (fun v => .list [v]) Value.maxDepth (.list [])

mutual

def value : Node → Except LoadError Value
  | .scalar tag t => (scalarOf tag t).map .scalar
  | .sequence tag items =>
    match tag with
    | .seq => (values items).map .list
    | .omap => (pairs items).map .list
    | .pairs => (pairs items).map .list
    | _ => .error .malformed
  | .mapping tag entries =>
    if tag = .map ∨ tag = .set then do
      let (merged, own) ← split entries
      mappingValue tag (merged ++ own)
    else match valueText? entries with
      | some t => (scalarOf tag t).map .scalar
      | none => .error .malformed
  | .loop => .ok endless

def values : List Node → Except LoadError (List Value)
  | [] => .ok []
  | n :: ns => do return (← n.value) :: (← values ns)

/-- The pairs that mappings of one entry each stand for. -/
def pairs : List Node → Except LoadError (List Value)
  | [] => .ok []
  | .mapping _ [(k, v)] :: ns => do return .pair (← k.value) (← v.value) :: (← pairs ns)
  | _ :: _ => .error .malformed

/-- The entries that a mapping takes from others, and its own ones. -/
def split : List (Node × Node) → Except LoadError (List (Scalar × Value) × List (Scalar × Value))
  | [] => .ok ([], [])
  | (k, v) :: es =>
    -- Entries from other mappings come first, so that own ones replace them.
    if k.tag = .merge then do
      let taken ← merged v
      let (more, own) ← split es
      return (taken ++ more, own)
    else do
      let k ← k.key
      let v ← v.value
      let (taken, own) ← split es
      return (taken, (k, v) :: own)

/-- The entries that a mapping takes from a mapping, or from a list of mappings of which the first
ones win. -/
def merged : Node → Except LoadError (List (Scalar × Value))
  | .mapping _ entries => do
    let (taken, own) ← split entries
    return taken ++ own
  | .sequence _ items => return (← mergedAll items).reverse.flatten
  | _ => .error .malformed

/-- The entries of mappings, each on its own. -/
def mergedAll : List Node → Except LoadError (List (List (Scalar × Value)))
  | [] => .ok []
  | .mapping _ entries :: ns => do
    let (taken, own) ← split entries
    return (taken ++ own) :: (← mergedAll ns)
  | _ :: _ => .error .malformed

end

end Node

/-- The value of a text; an empty one is null. -/
def read (text : Text) : Except LoadError Value := do
  match text.chars? with
  | none => throw .malformed
  | some cs =>
    match ← Node.ofText cs with
    | none => return .null
    | some root => root.value

end ChallengeDns.Yaml
