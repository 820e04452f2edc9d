import Mathlib
import ChallengeDns.Config.Environment

/-!
# Resolving references

Resolution goes through a value in the order in which it is written and stops where something is
wrong.  What it does can be told without that order: `errors` lists all that is wrong anywhere, and
`filled` puts every reference's value in its place.  The first error is the one that is reported;
without errors the filled value comes out.
-/
namespace ChallengeDns.Reference

variable {α β γ : Type}

/-- The result if nothing is wrong, and the first error otherwise. -/
def firstOf (errors : List Error) (a : α) : Except Error α :=
  match errors with
  | [] => .ok a
  | e :: _ => .error e

theorem firstOf_map (f : α → β) (errors : List Error) (a : α) :
    (firstOf errors a).map f = firstOf errors (f a) := by
  cases errors <;> rfl

/-- Two steps one after the other have the errors of both. -/
theorem firstOf_append (f : α → β → γ) (es es' : List Error) (a : α) (b : β) :
    firstOf (es ++ es') (f a b) =
      (firstOf es a).bind fun a => (firstOf es' b).bind fun b => .ok (f a b) := by
  cases es with
  | nil => cases es' <;> rfl
  | cons e es => rfl

variable (env : Environment)

/-- What a text stands for; a reference without a value stays as it is. -/
def filledText (t : Text) : Text :=
  match read? t with
  | none => t
  | some r =>
    match env.get? r.variableName, r.default with
    | .ok (some value), _ => value
    | .ok none, some fallback => fallback
    | _, _ => t

/-- What is wrong with a text. -/
def textErrors (place : Scalar) (t : Text) : List Error :=
  match resolveText env place t with
  | .ok _ => []
  | .error e => [e]

theorem resolveText_eq (place : Scalar) (t : Text) :
    resolveText env place t = firstOf (textErrors env place t) (filledText env t) := by
  unfold textErrors filledText resolveText
  cases read? t with
  | none => rfl
  | some r =>
    dsimp only
    cases env.get? r.variableName with
    | error e => rfl
    | ok value =>
      cases value with
      | some value => rfl
      | none =>
        cases r.default with
        | some fallback => rfl
        | none =>
          -- The place is only looked at where there is an error.
          dsimp only
          split <;> rfl

mutual

/-- A value with what its references stand for. -/
def filled : Value → Value
  | .scalar (.text t) => .ofText (filledText env t)
  | .list vs => .list (filledItems vs)
  | .mapping es => .mapping (filledEntries es)
  | v => v

/-- Items with what their references stand for. -/
def filledItems : List Value → List Value
  | [] => []
  | v :: vs => filled v :: filledItems vs

/-- Entries with what the references in their values stand for. -/
def filledEntries : List (Scalar × Value) → List (Scalar × Value)
  | [] => []
  | (k, v) :: es => (k, filled v) :: filledEntries es

end

/-- What is wrong with a step, or with what comes after it. -/
def errorsFrom (step : Except Error α) (errors : α → List Error) : List Error :=
  match step with
  | .ok a => errors a
  | .error e => [e]

mutual

/-- All that is wrong with the references in a value, in the order in which they stand. -/
def errors (room : Nat) (place : Scalar) : Value → List Error
  | .scalar (.text t) => textErrors env place t
  | .list vs => errorsFrom (inside room) fun room => itemErrors room place 0 vs
  | .mapping es => errorsFrom (inside room) fun room => entryErrors room place es
  | _ => []

/-- All that is wrong with the references in items from an index on. -/
def itemErrors (room : Nat) (place : Scalar) (index : Nat) : List Value → List Error
  | [] => []
  | v :: vs =>
    errorsFrom (itemPlace place index) (fun p => errors room p v) ++
      itemErrors room place (index + 1) vs

/-- All that is wrong with the references in the values of entries. -/
def entryErrors (room : Nat) (place : Scalar) : List (Scalar × Value) → List Error
  | [] => []
  | (k, v) :: es =>
    errorsFrom (entryPlace place k) (fun p => errors room p v) ++ entryErrors room place es

end

/-- A step that may fail is the first thing that can go wrong. -/
theorem bind_firstOf (step : Except Error α) {next : α → Except Error β} {errors : α → List Error}
    {b : β} (resolved : ∀ a, next a = firstOf (errors a) b) :
    step.bind next = firstOf (errorsFrom step errors) b := by
  cases step with
  | error e => rfl
  | ok a => exact resolved a

mutual

/-- Resolution reports the first error in the order of the text, and otherwise fills in all
references at once. -/
theorem resolve_eq (room : Nat) (place : Scalar) :
    ∀ v, resolve env room place v = firstOf (errors env room place v) (filled env v)
  | .scalar s => by
    cases s with
    | text t => rw [resolve, resolveText_eq, firstOf_map, errors, filled]
    | _ => rfl
  | .list vs => by
    rw [resolve, errors, filled]
    apply bind_firstOf
    intro room
    rw [resolveItems_eq room place 0 vs, firstOf_map]
  | .mapping es => by
    rw [resolve, errors, filled]
    apply bind_firstOf
    intro room
    rw [resolveEntries_eq room place es, firstOf_map]
  | .pair _ _ => rfl
  | .set _ => rfl

theorem resolveItems_eq (room : Nat) (place : Scalar) (index : Nat) :
    ∀ vs, resolveItems env room place index vs =
      firstOf (itemErrors env room place index vs) (filledItems env vs)
  | [] => rfl
  | v :: vs => by
    have first := bind_firstOf (itemPlace place index) fun p => resolve_eq room p v
    have rest := resolveItems_eq room place (index + 1) vs
    rw [resolveItems, itemErrors, filledItems, firstOf_append, ← first, ← rest]
    cases itemPlace place index <;> rfl

theorem resolveEntries_eq (room : Nat) (place : Scalar) :
    ∀ es, resolveEntries env room place es =
      firstOf (entryErrors env room place es) (filledEntries env es)
  | [] => rfl
  | (k, v) :: es => by
    have first := bind_firstOf (entryPlace place k) fun p => resolve_eq room p v
    have rest := resolveEntries_eq room place es
    rw [resolveEntries, entryErrors, filledEntries, firstOf_append (fun v es => (k, v) :: es),
      ← first, ← rest]
    cases entryPlace place k <;> rfl

end

end ChallengeDns.Reference
