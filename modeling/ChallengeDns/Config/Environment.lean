import ChallengeDns.Data.Value
/-!
# Environment references

A text in the configuration may stand for a variable of the environment: `$` with the variable's
name in braces, and perhaps `:-` and a default before the closing brace.  References are resolved
once, in the order in which they stand; what comes in their place is not looked at again.
-/

namespace ChallengeDns

abbrev Environment := List (Text × Text)

namespace Environment

/-- The value of a variable; names are compared as octets. -/
def get? (env : Environment) (name : Text) : Except Text.EncodeError (Option Text) :=
  match Text.encodeKept? name with
  | none => .error (Text.encodeError (fun c => (Text.keptOctets? c).isNone) name)
  | some octets => .ok ((env.find? fun e => Text.encodeKept? e.1 == some octets).map (·.2))

end Environment

/-- A reference to a variable. -/
structure Reference where
  variableName : Text
  default : Option Text
deriving DecidableEq

namespace Reference

def openBrace : CodePoint := .scalar (Char.ofNat 0x7B)

def closeBrace : CodePoint := .scalar (Char.ofNat 0x7D)

/-- The text before a closing brace at the end; a line end may follow the brace. -/
def beforeBrace? (t : Text) : Option Text :=
  match t.reverse with
  | c :: rest =>
    if c = closeBrace then some rest.reverse
    else if c = .scalar '\n' then
      match rest with
      | d :: rest => if d = closeBrace then some rest.reverse else none
      | [] => none
    else none
  | [] => none

def read? (t : Text) : Option Reference :=
  match t with
  | .scalar '$' :: brace :: rest =>
    if brace ≠ openBrace then none
    else
      let name := rest.takeWhile fun c => c ≠ closeBrace ∧ c ≠ .scalar ':'
      if name.isEmpty then none
      else match rest.drop name.length with
        | .scalar ':' :: .scalar '-' :: fallback => (beforeBrace? fallback).map (⟨name, some ·⟩)
        | rest => if beforeBrace? rest = some [] then some ⟨name, none⟩ else none
  | _ => none

/-- A reference to a variable that is not set and has no default. -/
structure Unresolved where
  variableName : Text
  /-- Where the reference stands. -/
  place : Text
deriving DecidableEq

def Unresolved.message (u : Unresolved) : Text :=
  "Environment variable '$" ++ (openBrace :: u.variableName) ++ (closeBrace :: "' referenced at '")
    ++ u.place ++ "' is not set and has no default"

/-- What stops the resolution of references. -/
inductive Fault where
  /-- The name of a variable has no octets. -/
  | unencodable (e : Text.EncodeError)
  /-- A number in a place is too long to be shown. -/
  | oversizedNumber
  /-- A list or mapping stands too deep. -/
  | tooDeep
deriving DecidableEq

def Fault.message : Fault → Text
  | .unencodable e => e.message
  | .oversizedNumber => Scalar.oversized
  | .tooDeep => "maximum recursion depth exceeded in __instancecheck__"

/-- Why references cannot be resolved. -/
inductive Error where
  | unresolved (u : Unresolved)
  | fault (f : Fault)
deriving DecidableEq

/-- What a text stands for. -/
def resolveText (env : Environment) (place : Scalar) (t : Text) : Except Error Text :=
  match read? t with
  | none => .ok t
  | some r =>
    match env.get? r.variableName, r.default with
    | .error e, _ => .error (.fault (.unencodable e))
    | .ok (some value), _ => .ok value
    | .ok none, some fallback => .ok fallback
    | .ok none, none =>
      if place.isShown then .error (.unresolved ⟨r.variableName, place.plain⟩)
      else .error (.fault .oversizedNumber)

/-- The place of an entry; at the top it is the key itself. -/
def entryPlace (place key : Scalar) : Except Error Scalar :=
  if !place.holds then .ok key
  else if place.isShown && key.isShown then .ok (.text (place.plain ++ "." ++ key.plain))
  else .error (.fault .oversizedNumber)

def itemPlace (place : Scalar) (index : Nat) : Except Error Scalar :=
  if place.isShown then .ok (.text (place.plain ++ "[" ++ Text.ofNat index ++ "]"))
  else .error (.fault .oversizedNumber)

mutual

/-- The variables that a value refers to. -/
def names : Value → List Text
  | .scalar (.text t) => ((read? t).map Reference.variableName).toList
  | .list vs => namesInItems vs
  | .mapping es => namesInEntries es
  | _ => []

def namesInItems : List Value → List Text
  | [] => []
  | v :: vs => names v ++ namesInItems vs

def namesInEntries : List (Scalar × Value) → List Text
  | [] => []
  | (_, v) :: es => names v ++ namesInEntries es

end

/-- The room inside a list or mapping. -/
def inside : Nat → Except Error Nat
  | 0 => .error (.fault .tooDeep)
  | room + 1 => .ok room

mutual

/-- Resolves the references in a value; there is room for so many lists and mappings in each
other. -/
def resolve (env : Environment) (room : Nat) (place : Scalar) : Value → Except Error Value
  | .scalar (.text t) => (resolveText env place t).map Value.ofText
  | .list vs => (inside room).bind fun room => (resolveItems env room place 0 vs).map .list
  | .mapping es => (inside room).bind fun room => (resolveEntries env room place es).map .mapping
  | v => .ok v

def resolveItems (env : Environment) (room : Nat) (place : Scalar) (index : Nat) :
    List Value → Except Error (List Value)
  | [] => .ok []
  | v :: vs => do
    let v ← resolve env room (← itemPlace place index) v
    return v :: (← resolveItems env room place (index + 1) vs)

def resolveEntries (env : Environment) (room : Nat) (place : Scalar) :
    List (Scalar × Value) → Except Error (List (Scalar × Value))
  | [] => .ok []
  | (k, v) :: es => do
    let v ← resolve env room (← entryPlace place k) v
    return (k, v) :: (← resolveEntries env room place es)

end

end Reference

end ChallengeDns
