import ChallengeDns.Data.Value
import ChallengeDns.Store.Key
/-!
# Records

The values that are published: for each key the newest two, newest first.  Two are enough for a name
and its wildcard, which share one challenge name.  Keys stand in the order in which they came.
-/

namespace ChallengeDns

/-- A published value: a text, or octets that no state file can hold. -/
inductive TxtValue where
  | text (t : Text)
  | octets (b : Bytes)
deriving DecidableEq

def TxtValue.toValue : TxtValue → Value
  | .text t => .ofText t
  | .octets b => .scalar (.bytes b)

/-- The values of one name, newest first. -/
structure History where
  values : List TxtValue
  bounded : values.length ≤ 2
deriving DecidableEq

namespace History

/-- How many values a name keeps. -/
def capacity : Nat := 2

/-- The first values of a list. -/
def ofList (values : List TxtValue) : History :=
  ⟨values.take capacity, List.length_take_le capacity values⟩

def empty : History := ofList []

/-- A new value in front; the oldest one makes room. -/
def push (v : TxtValue) (h : History) : History := ofList (v :: h.values)

end History

/-- Sets what a key holds; a key that is there keeps its place. -/
def assign (k : Key) (h : History) : List (Key × History) → List (Key × History)
  | [] => [(k, h)]
  | e :: es => if e.1 = k then (k, h) :: es else e :: assign k h es

theorem map_fst_assign (k : Key) (h : History) (es : List (Key × History)) :
    (assign k h es).map (·.1)
      = if k ∈ es.map (·.1) then es.map (·.1) else es.map (·.1) ++ [k] := by
  induction es with
  | nil => simp [assign]
  | cons e es ih =>
    by_cases he : e.1 = k
    · simp [assign, he]
    · have hk : ¬k = e.1 := fun hc => he hc.symm
      by_cases hm : k ∈ es.map (·.1) <;> simp_all [assign]

/-- What a store holds. -/
structure Records where
  entries : List (Key × History)
  distinct : (entries.map (·.1)).Nodup

namespace Records

def empty : Records := ⟨[], by simp⟩

/-- The values of a key, newest first. -/
def get (r : Records) (k : Key) : List TxtValue :=
  match r.entries.find? fun e => e.1 = k with
  | some e => e.2.values
  | none => []

def set (r : Records) (k : Key) (h : History) : Records where
  entries := assign k h r.entries
  distinct := by
    rw [map_fst_assign]
    split
    · exact r.distinct
    · rename_i hk
      rw [List.nodup_append]
      refine ⟨r.distinct, by simp, ?_⟩
      intro a ha b hb
      simp only [List.mem_singleton] at hb
      rintro rfl
      exact hk (hb ▸ ha)

def history (r : Records) (k : Key) : History :=
  match r.entries.find? fun e => e.1 = k with
  | some e => e.2
  | none => .empty

def put (r : Records) (k : Key) (v : TxtValue) : Records := r.set k ((r.history k).push v)

def size (r : Records) : Nat := r.entries.length

/-- The records that lists of values under names give; a later list replaces an earlier one. -/
def ofLists (lists : List (Key × List TxtValue)) : Records :=
  lists.foldl (fun r e => r.set e.1 (.ofList e.2)) .empty

/-- The records with their names as text. -/
def snapshot (r : Records) : List (Text × List TxtValue) :=
  r.entries.map fun e => (e.1.name.text, e.2.values)

end Records

end ChallengeDns
