import Mathlib
import ChallengeDns.Config.Loader
import ChallengeDns.Proofs.Data.Fallible

/-!
# One pass over a tree

Resolution visits every place of a tree once, in the order in which the tree is written, and puts in
the place of a text what the text stood for when it was read.  A position in the tree is the list of
the numbers of items and entries that lead to it; positions in the order of the text are in
lexicographic order.  The first position where something stops the pass decides what is reported: a
reference, a place that cannot be told, or a list or mapping for which there is no room left.
-/
namespace ChallengeDns

/-! ### Positions -/

namespace Value

/-- The values inside a value that resolution goes into. -/
def parts : Value → List Value
  | .list vs => vs
  | .mapping es => es.map (·.2)
  | _ => []

/-- What stands at a position. -/
def at? (v : Value) : List Nat → Option Value
  | [] => some v
  | i :: p => v.parts[i]?.bind fun w => w.at? p

theorem lt_itemsDepth_iff {vs : List Value} {n : Nat} :
    n < itemsDepth vs ↔ ∃ v ∈ vs, n < v.depth := by
  induction vs with
  | nil => simp [itemsDepth]
  | cons v vs ih => rw [itemsDepth, lt_max_iff, ih, List.exists_mem_cons_iff]

theorem entriesDepth_eq (es : List (Scalar × Value)) :
    entriesDepth es = itemsDepth (es.map (·.2)) := by
  induction es with
  | nil => rfl
  | cons e es ih => rw [entriesDepth, ih, List.map_cons, itemsDepth]

/-- A value is deep if a part of it is. -/
theorem succ_lt_depth_iff {v : Value} {n : Nat} :
    n + 1 < v.depth ↔ ∃ w ∈ v.parts, n < w.depth := by
  cases v with
  | list vs => rw [depth, Nat.add_lt_add_iff_right, lt_itemsDepth_iff, parts]
  | mapping es => rw [depth, Nat.add_lt_add_iff_right, entriesDepth_eq, lt_itemsDepth_iff, parts]
  | _ => simp [depth, parts]

theorem depth_part_le {v w : Value} {n i : Nat} (shallow : v.depth ≤ n + 1)
    (inside : v.parts[i]? = some w) : w.depth ≤ n := by
  by_contra deep
  have below := succ_lt_depth_iff.mpr ⟨w, List.mem_of_getElem? inside, Nat.lt_of_not_le deep⟩
  omega

theorem parts_of_flat {v : Value} (flat : v.depth = 0) : v.parts = [] := by
  cases v with
  | list vs => exact absurd flat (Nat.succ_ne_zero _)
  | mapping es => exact absurd flat (Nat.succ_ne_zero _)
  | _ => rfl

end Value

namespace Reference

variable {env : Environment} {room : Nat} {place : Scalar} {v w : Value} {p : List Nat}
  {e : Error}

/-! ### Parts and their places -/

/-- The parts of a value with their places, as far as these can be told. -/
def children (place : Scalar) : Value → List (Except Error Scalar × Value)
  | .list vs => vs.mapIdx fun i v => (itemPlace place i, v)
  | .mapping es => es.map fun e => (entryPlace place e.1, e.2)
  | _ => []

/-- Resolves a part at its place. -/
def visit (env : Environment) (room : Nat) (child : Except Error Scalar × Value) :
    Except Error Value :=
  child.1.bind fun q => resolve env room q child.2

/-- A value with other parts. -/
def rebuild : Value → List Value → Value
  | .list _, ws => .list ws
  | .mapping es, ws => .mapping ((es.map (·.1)).zip ws)
  | v, _ => v

theorem children_parts (place : Scalar) (v : Value) : (children place v).map (·.2) = v.parts := by
  cases v with
  | list vs =>
    refine List.ext_getElem? fun i => ?_
    simp [children, Value.parts]
  | mapping es => simp [children, Value.parts]
  | _ => rfl

/-- A part stands at the place of its item or of its entry. -/
theorem place_of_children {i : Nat} {c : Except Error Scalar}
    (inside : (children place v)[i]? = some (c, w)) :
    c = itemPlace place i ∨ ∃ es, v = .mapping es ∧ ∃ e ∈ es, c = entryPlace place e.1 := by
  cases v with
  | list vs =>
    obtain ⟨u, -, equal⟩ := Option.map_eq_some_iff.mp (List.getElem?_mapIdx ▸ inside)
    cases equal
    exact Or.inl rfl
  | mapping es =>
    obtain ⟨e, here, equal⟩ := Option.map_eq_some_iff.mp (List.getElem?_map ▸ inside)
    cases equal
    exact Or.inr ⟨es, rfl, e, List.mem_of_getElem? here, rfl⟩
  | _ => cases inside

theorem resolveItems_children (vs : List Value) (index : Nat) :
    resolveItems env room place index vs =
      (vs.mapIdx fun i v => (itemPlace place (index + i), v)).mapM (visit env room) := by
  induction vs generalizing index with
  | nil => rfl
  | cons v vs ih =>
    rw [resolveItems, List.mapIdx_cons, List.mapM_cons, ih]
    have shift (i : Nat) : index + 1 + i = index + (i + 1) := by omega
    simp only [shift, visit, Nat.add_zero]
    cases itemPlace place index <;> rfl

theorem resolveEntries_children (es : List (Scalar × Value)) :
    resolveEntries env room place es =
      ((es.map fun e => (entryPlace place e.1, e.2)).mapM (visit env room)).map fun ws =>
        (es.map (·.1)).zip ws := by
  induction es with
  | nil => rfl
  | cons e es ih =>
    obtain ⟨k, v⟩ := e
    rw [resolveEntries, List.map_cons, List.map_cons, mapM_except_cons, ih]
    simp only [visit]
    cases entryPlace place k with
    | error e => rfl
    | ok q =>
      cases first : resolve env room q v with
      | error e => simp [Except.bind, first, bind, Except.map]
      | ok w =>
        cases (es.map fun e => (entryPlace place e.1, e.2)).mapM (visit env room) <;>
          simp [Except.bind, first, bind, Except.map, pure, Except.pure]

/-- A value that is no text is resolved part by part if there is room for its parts. -/
theorem resolve_children (inner : ∀ t, v ≠ .ofText t) :
    resolve env (room + 1) place v =
      ((children place v).mapM (visit env room)).map (rebuild v) := by
  cases v with
  | scalar s =>
    cases s with
    | text t => exact absurd rfl (inner t)
    | _ => rfl
  | list vs =>
    simp only [resolve, inside, Except.bind]
    rw [resolveItems_children]
    simp only [Nat.zero_add]
    rfl
  | mapping es =>
    simp only [resolve, inside, Except.bind]
    rw [resolveEntries_children]
    simp only [children]
    cases (es.map fun e => (entryPlace place e.1, e.2)).mapM (visit env room) <;> rfl
  | pair a b => rfl
  | set ss => rfl

theorem resolve_flat (inner : ∀ t, v ≠ .ofText t) (flat : v.depth = 0) :
    resolve env room place v = .ok v := by
  cases v with
  | scalar s =>
    cases s with
    | text t => exact absurd rfl (inner t)
    | _ => rfl
  | list vs => exact absurd flat (Nat.succ_ne_zero _)
  | mapping es => exact absurd flat (Nat.succ_ne_zero _)
  | pair a b => rfl
  | set ss => rfl

/-- Without room, a list or mapping is not gone into. -/
theorem resolve_full (nests : 0 < v.depth) :
    resolve env 0 place v = .error (.fault .tooDeep) := by
  cases v with
  | list vs => rfl
  | mapping es => rfl
  | _ => exact absurd nests (Nat.lt_irrefl 0)

/-! ### What stops a pass -/

/-- What can be wrong with a text: the name of a variable has no octets, or the variable is missing
and the place of the reference is told, if it can be. -/
theorem resolveText_error {t : Text} (wrong : resolveText env place t = .error e) :
    ∃ r, read? t = some r ∧
      ((∃ f, env.get? r.variableName = .error f ∧ e = .fault (.unencodable f)) ∨
        (env.get? r.variableName = .ok none ∧ r.default = none ∧
          e = if place.isShown then .unresolved ⟨r.variableName, place.plain⟩
            else .fault .oversizedNumber)) := by
  unfold resolveText at wrong
  split at wrong
  · cases wrong
  · next r refers =>
    refine ⟨r, refers, ?_⟩
    split at wrong
    · next f bad =>
      cases wrong
      exact Or.inl ⟨f, bad, rfl⟩
    · cases wrong
    · cases wrong
    · next missing bare =>
      refine Or.inr ⟨missing, bare, ?_⟩
      split at wrong
      · next told =>
        cases wrong
        rw [if_pos told]
      · next hidden =>
        cases wrong
        rw [if_neg hidden]

/-- What stops the resolution of a value, and at which position: a text with a reference that has no
value, a list or mapping for which there is no room, or a part whose place cannot be told. -/
inductive Stop (env : Environment) : Nat → Scalar → Value → List Nat → Error → Prop
  | text {room : Nat} {place : Scalar} {t : Text} {e : Error}
      (wrong : resolveText env place t = .error e) : Stop env room place (.ofText t) [] e
  | deep {place : Scalar} {v : Value} (nests : 0 < v.depth) :
      Stop env 0 place v [] (.fault .tooDeep)
  | unplaced {room : Nat} {place : Scalar} {v w : Value} {i : Nat} {e : Error}
      (inside : (children place v)[i]? = some (.error e, w)) : Stop env (room + 1) place v [i] e
  | inner {room : Nat} {place q : Scalar} {v w : Value} {i : Nat} {p : List Nat} {e : Error}
      (inside : (children place v)[i]? = some (.ok q, w)) (stop : Stop env room q w p e) :
      Stop env (room + 1) place v (i :: p) e

/-- A pass is stopped at a position and nowhere before. -/
structure First (env : Environment) (room : Nat) (place : Scalar) (v : Value) (p : List Nat)
    (e : Error) : Prop where
  stop : Stop env room place v p e
  least : ∀ p' e', Stop env room place v p' e' → ¬p' < p

theorem Stop.unique {e' : Error} (stop : Stop env room place v p e)
    (stop' : Stop env room place v p e') : e = e' := by
  -- By induction on the first stop: at each step the other one goes the same way.
  induction stop generalizing e' with
  | text wrong =>
    cases stop' with
    | text wrong' => exact Except.error.inj (wrong.symm.trans wrong')
    | deep nests => exact absurd nests (Nat.lt_irrefl 0)
  | deep nests =>
    cases stop' with
    | text wrong => exact absurd nests (Nat.lt_irrefl 0)
    | deep nests' => rfl
  | unplaced inside =>
    cases stop' with
    | unplaced inside' =>
      cases inside.symm.trans inside'
      rfl
    | inner inside' stop' => simp [inside] at inside'
  | inner inside stop ih =>
    cases stop' with
    | unplaced inside' => simp [inside] at inside'
    | inner inside' stop' =>
      cases inside.symm.trans inside'
      exact ih stop'

/-- A value is a text, or resolved part by part. -/
theorem text_or_inner (v : Value) : (∃ t, v = .ofText t) ∨ ∀ t, v ≠ .ofText t := by
  by_cases text : ∃ t, v = .ofText t
  · exact Or.inl text
  · exact Or.inr fun t equal => text ⟨t, equal⟩

theorem parts_of_children {i : Nat} {c : Except Error Scalar}
    (inside : (children place v)[i]? = some (c, w)) : v.parts[i]? = some w := by
  rw [← children_parts place v, List.getElem?_map, inside]
  rfl

/-- A stop at the root is the first one. -/
theorem Stop.first (stop : Stop env room place v [] e) : First env room place v [] e :=
  ⟨stop, fun p' _ _ => List.not_lt_nil p'⟩

/-- What a pass over a value comes to: it is resolved and nothing stops the pass, or the first stop
is told. -/
def Settled (env : Environment) (room : Nat) (place : Scalar) (v : Value) : Prop :=
  (∃ w, resolve env room place v = .ok w ∧ ∀ p e, ¬Stop env room place v p e) ∨
    ∃ e p, resolve env room place v = .error e ∧ First env room place v p e

theorem settled_text (env : Environment) (room : Nat) (place : Scalar) (t : Text) :
    Settled env room place (.ofText t) := by
  unfold Settled
  rw [Value.ofText, resolve]
  cases found : resolveText env place t with
  | ok u =>
    refine Or.inl ⟨_, rfl, fun p e stop => ?_⟩
    cases stop with
    | text wrong => cases found.symm.trans wrong
    | deep nests => exact absurd nests (Nat.lt_irrefl 0)
    | unplaced inside => cases inside
    | inner inside => cases inside
  | error e => exact Or.inr ⟨e, [], rfl, (Stop.text found).first⟩

theorem settled_full (inner : ∀ t, v ≠ .ofText t) : Settled env 0 place v := by
  rcases Nat.eq_zero_or_pos v.depth with flat | nests
  · refine Or.inl ⟨v, resolve_flat inner flat, fun p e stop => ?_⟩
    cases stop with
    | text wrong => exact inner _ rfl
    | deep nests => omega
  · exact Or.inr ⟨_, [], resolve_full nests, (Stop.deep nests).first⟩

theorem Stop.exists_cons (inner : ∀ t, v ≠ .ofText t) (stop : Stop env (room + 1) place v p e) :
    ∃ i p', p = i :: p' := by
  cases stop with
  | text wrong => exact absurd rfl (inner _)
  | unplaced inside => exact ⟨_, _, rfl⟩
  | inner inside stop => exact ⟨_, _, rfl⟩

/-- The first stop in a part is the first one of all if nothing before the part stops the pass. -/
theorem First.of_part {i : Nat} (inner : ∀ t, v ≠ .ofText t)
    (stop : Stop env (room + 1) place v (i :: p) e)
    (least : ∀ p' e', Stop env (room + 1) place v (i :: p') e' → ¬p' < p)
    (free : ∀ j < i, ∀ p' e', ¬Stop env (room + 1) place v (j :: p') e') :
    First env (room + 1) place v (i :: p) e := by
  refine ⟨stop, fun p' e' stop' less => ?_⟩
  obtain ⟨j, p', rfl⟩ := stop'.exists_cons inner
  rcases List.cons_lt_cons_iff.mp less with earlier | ⟨rfl, behind⟩
  · exact free j earlier p' e' stop'
  · exact least p' e' stop' behind

/-- A value is resolved if nothing stops the pass, and the first stop is told otherwise. -/
theorem resolve_cases (env : Environment) (room : Nat) (place : Scalar) (v : Value) :
    Settled env room place v := by
  -- By induction on the room: inside of a value there is less of it.
  induction room generalizing place v with
  | zero =>
    obtain ⟨t, rfl⟩ | inner := text_or_inner v
    · exact settled_text env 0 place t
    · exact settled_full inner
  | succ room ih =>
    obtain ⟨t, rfl⟩ | inner := text_or_inner v
    · exact settled_text env (room + 1) place t
    -- A stop in a part keeps the part from being resolved.
    have blocked {i : Nat} {p : List Nat} {e : Error}
        (stop : Stop env (room + 1) place v (i :: p) e) :
        ∃ c, (children place v)[i]? = some c ∧ ∀ b, visit env room c ≠ .ok b := by
      cases stop with
      | unplaced inside => exact ⟨_, inside, nofun⟩
      | @inner _ _ q _ w _ _ _ inside stop =>
        refine ⟨_, inside, fun b done => ?_⟩
        rcases ih q w with ⟨_, _, free⟩ | ⟨_, _, wrong, _⟩
        · exact free _ _ stop
        · cases done.symm.trans wrong
    unfold Settled
    rw [resolve_children inner]
    rcases mapM_except_cases (visit env room) (children place v) with
      ⟨ws, done, related⟩ | ⟨i, c, e, inside, wrong, stopped, before⟩
    · refine Or.inl ⟨_, by rw [done]; rfl, fun p e stop => ?_⟩
      obtain ⟨i, p', rfl⟩ := stop.exists_cons inner
      obtain ⟨c, inside, stuck⟩ := blocked stop
      obtain ⟨w, _, visited⟩ := exists_mem_mapM_except done (List.mem_of_getElem? inside)
      exact stuck w visited
    · -- The parts before the first one that fails are resolved.
      have free : ∀ j < i, ∀ p' e', ¬Stop env (room + 1) place v (j :: p') e' := by
        intro j earlier p' e' stop
        obtain ⟨c, inside, stuck⟩ := blocked stop
        obtain ⟨b, visited⟩ := before j earlier c inside
        exact stuck b visited
      refine Or.inr ⟨e, ?_⟩
      rw [stopped]
      obtain ⟨q | q, w⟩ := c
      · cases wrong
        refine ⟨[i], rfl, .of_part inner (.unplaced inside) ?_ free⟩
        exact fun p' _ _ => List.not_lt_nil p'
      · rcases ih q w with ⟨_, done, _⟩ | ⟨_, p, failed, least⟩
        · cases done.symm.trans wrong
        · cases failed.symm.trans wrong
          refine ⟨i :: p, rfl, .of_part inner (.inner inside least.stop) ?_ free⟩
          intro p' e' stop'
          cases stop' with
          | unplaced inside' => simp [inside] at inside'
          | inner inside' stop' =>
            cases inside.symm.trans inside'
            exact least.least p' e' stop'

theorem resolve_ok_iff :
    (∃ w, resolve env room place v = .ok w) ↔ ∀ p e, ¬Stop env room place v p e := by
  rcases resolve_cases env room place v with ⟨w, done, free⟩ | ⟨e, p, wrong, first⟩
  · exact iff_of_true ⟨w, done⟩ free
  · rw [wrong]
    exact iff_of_false (by simp) fun free => free p e first.stop

theorem First.unique {p' : List Nat} {e' : Error} (first : First env room place v p e)
    (first' : First env room place v p' e') : e = e' := by
  have same : p = p' := by
    rcases lt_trichotomy p p' with less | same | less
    · exact absurd less (first'.least p e first.stop)
    · exact same
    · exact absurd less (first.least p' e' first'.stop)
  subst same
  exact first.stop.unique first'.stop

theorem resolve_error_iff :
    resolve env room place v = .error e ↔ ∃ p, First env room place v p e := by
  rcases resolve_cases env room place v with ⟨w, done, free⟩ | ⟨e', p, wrong, first⟩
  · rw [done]
    exact iff_of_false nofun fun ⟨p, first⟩ => free p e first.stop
  · rw [wrong]
    constructor
    · rintro ⟨⟩
      exact ⟨p, first⟩
    · rintro ⟨p', first'⟩
      rw [first.unique first']

/-! ### What comes out -/

/-- What a text stands for: itself, the value of a variable, or a default. -/
inductive StandsFor (env : Environment) : Text → Text → Prop
  | plain {t : Text} (free : read? t = none) : StandsFor env t t
  | set {t value : Text} {r : Reference} (refers : read? t = some r)
      (found : env.get? r.variableName = .ok (some value)) : StandsFor env t value
  | default {t value : Text} {r : Reference} (refers : read? t = some r)
      (missing : env.get? r.variableName = .ok none) (given : r.default = some value) :
      StandsFor env t value

theorem standsFor_of_resolveText {t u : Text} (resolved : resolveText env place t = .ok u) :
    StandsFor env t u := by
  unfold resolveText at resolved
  split at resolved
  · next free =>
    cases resolved
    exact .plain free
  · next r refers =>
    split at resolved
    · cases resolved
    · next value found =>
      cases resolved
      exact .set refers found
    · next fallback missing given =>
      cases resolved
      exact .default refers missing given
    · split at resolved <;> cases resolved

/-- What resolution does with what stands at a position, apart from the parts. -/
inductive Becomes (env : Environment) : Value → Value → Prop
  | text {t u : Text} (stands : StandsFor env t u) : Becomes env (.ofText t) (.ofText u)
  | list {vs ws : List Value} (count : vs.length = ws.length) : Becomes env (.list vs) (.list ws)
  | mapping {es fs : List (Scalar × Value)} (keys : es.map (·.1) = fs.map (·.1)) :
      Becomes env (.mapping es) (.mapping fs)
  | kept {v : Value} (scalar : ∀ t, v ≠ .ofText t) (list : ∀ vs, v ≠ .list vs)
      (mapping : ∀ es, v ≠ .mapping es) : Becomes env v v

theorem length_children (place : Scalar) (v : Value) :
    (children place v).length = v.parts.length := by
  rw [← children_parts place v, List.length_map]

/-- The parts of a value are exchanged one for one. -/
theorem parts_rebuild {ws : List Value} (count : v.parts.length = ws.length) :
    (rebuild v ws).parts = ws := by
  cases v with
  | list vs => rfl
  | mapping es =>
    rw [rebuild, Value.parts]
    exact List.map_snd_zip (by simpa [Value.parts] using count.ge)
  | _ => exact (List.length_eq_zero_iff.mp count.symm).symm

theorem becomes_rebuild {ws : List Value} (inner : ∀ t, v ≠ .ofText t)
    (count : v.parts.length = ws.length) : Becomes env v (rebuild v ws) := by
  cases v with
  | list vs => exact .list count
  | mapping es =>
    refine .mapping (List.map_fst_zip ?_).symm
    simpa [Value.parts] using count.le
  | _ => exact .kept inner nofun nofun

theorem rel_getElem? {α β : Type} {R : α → β → Prop} {xs : List α} {ys : List β}
    (related : List.Forall₂ R xs ys) (i : Nat) : Option.Rel R xs[i]? ys[i]? := by
  induction related generalizing i with
  | nil => exact .none
  | cons first _ ih =>
    cases i with
    | zero => exact .some first
    | succ i => exact ih i

theorem resolve_ok_text {t : Text} (done : resolve env room place (.ofText t) = .ok w) :
    ∃ u, w = .ofText u ∧ StandsFor env t u := by
  rw [Value.ofText, resolve] at done
  cases found : resolveText env place t with
  | error e => simp [found, Except.map] at done
  | ok u =>
    rw [found] at done
    cases done
    exact ⟨u, rfl, standsFor_of_resolveText found⟩

theorem resolve_ok_inner (inner : ∀ t, v ≠ .ofText t) (done : resolve env room place v = .ok w) :
    ∃ room' ws, w = rebuild v ws ∧
      List.Forall₂ (fun c w => visit env room' c = .ok w) (children place v) ws := by
  obtain ⟨room', done⟩ : ∃ room', resolve env (room' + 1) place v = .ok w := by
    cases room with
    | succ room => exact ⟨room, done⟩
    | zero =>
      rcases Nat.eq_zero_or_pos v.depth with flat | nests
      · -- A value without parts comes out as it is, however much room there is.
        rw [resolve_flat inner flat] at done
        exact ⟨0, (resolve_flat inner flat).trans done⟩
      · rw [resolve_full nests] at done
        cases done
  rw [resolve_children inner] at done
  cases all : (children place v).mapM (visit env room') with
  | error e => simp [all, Except.map] at done
  | ok ws =>
    rw [all] at done
    cases done
    exact ⟨room', ws, rfl, mapM_except_ok.mp all⟩

/-- At each position stands what becomes of the value there. -/
theorem resolve_becomes (done : resolve env room place v = .ok w) (p : List Nat) :
    Option.Rel (Becomes env) (v.at? p) (w.at? p) := by
  induction p generalizing room place v w with
  | nil =>
    refine .some ?_
    obtain ⟨t, rfl⟩ | inner := text_or_inner v
    · obtain ⟨u, rfl, stands⟩ := resolve_ok_text done
      exact .text stands
    · obtain ⟨_, ws, rfl, related⟩ := resolve_ok_inner inner done
      exact becomes_rebuild inner ((length_children place v).symm.trans related.length_eq)
  -- A text has no parts, neither before nor after.
  | cons i p ih =>
    obtain ⟨t, rfl⟩ | inner := text_or_inner v
    · obtain ⟨u, rfl, _⟩ := resolve_ok_text done
      exact .none
    · obtain ⟨_, ws, rfl, related⟩ := resolve_ok_inner inner done
      have count := (length_children place v).symm.trans related.length_eq
      rw [Value.at?, Value.at?, parts_rebuild count, ← children_parts place v, List.getElem?_map]
      have there := rel_getElem? related i
      generalize (children place v)[i]? = c, ws[i]? = x at there
      cases there with
      | none => exact .none
      | @some c x visited =>
        obtain ⟨q | q, u⟩ := c
        · cases visited
        · exact ih visited

/-! ### Trees without hazards -/

/-- A text at a position refers to a variable that is not set, and gives no default. -/
def Missing (env : Environment) (v : Value) (p : List Nat) (name : Text) : Prop :=
  ∃ t, v.at? p = some (.ofText t) ∧ read? t = some ⟨name, none⟩ ∧ env.get? name = .ok none

/-- Names of variables can be looked up, and keys can be shown in places. -/
structure Harmless (env : Environment) (v : Value) : Prop where
  names : ∀ p t r, v.at? p = some (.ofText t) → read? t = some r →
    ∃ found, env.get? r.variableName = .ok found
  keys : ∀ p es, v.at? p = some (.mapping es) → ∀ e ∈ es, e.1.isShown = true

theorem Harmless.part {i : Nat} (harmless : Harmless env v) (inside : v.parts[i]? = some w) :
    Harmless env w where
  names p t r here := harmless.names (i :: p) t r (by rw [Value.at?, inside]; exact here)
  keys p es here := harmless.keys (i :: p) es (by rw [Value.at?, inside]; exact here)

theorem itemPlace_shown (shown : place.isShown = true) (i : Nat) :
    ∃ q, itemPlace place i = .ok q ∧ q.isShown = true := by
  rw [itemPlace, if_pos shown]
  exact ⟨_, rfl, rfl⟩

theorem entryPlace_shown {key : Scalar} (shown : place.isShown = true)
    (shown' : key.isShown = true) : ∃ q, entryPlace place key = .ok q ∧ q.isShown = true := by
  unfold entryPlace
  split
  · exact ⟨key, rfl, shown'⟩
  · rw [shown, shown']
    exact ⟨_, rfl, rfl⟩

/-- The parts of a harmless tree have places. -/
theorem Harmless.placed {i : Nat} {c : Except Error Scalar} (harmless : Harmless env v)
    (shown : place.isShown = true) (inside : (children place v)[i]? = some (c, w)) :
    ∃ q, c = .ok q ∧ q.isShown = true := by
  rcases place_of_children inside with rfl | ⟨es, rfl, e, member, rfl⟩
  · exact itemPlace_shown shown i
  · exact entryPlace_shown shown (harmless.keys [] es rfl e member)

/-- A reference without a value and without a default is told with its place. -/
theorem resolveText_missing {t name : Text} (refers : read? t = some ⟨name, none⟩)
    (missing : env.get? name = .ok none) (shown : place.isShown = true) :
    resolveText env place t = .error (.unresolved ⟨name, place.plain⟩) := by
  rw [resolveText, refers]
  dsimp only
  rw [missing, if_pos shown]

theorem missing_of_resolveText {t : Text} (wrong : resolveText env place t = .error e)
    (named : ∀ r, read? t = some r → ∃ found, env.get? r.variableName = .ok found)
    (shown : place.isShown = true) :
    ∃ name, e = .unresolved ⟨name, place.plain⟩ ∧ read? t = some ⟨name, none⟩ ∧
      env.get? name = .ok none := by
  obtain ⟨⟨name, fallback⟩, refers, ⟨f, bad, -⟩ | ⟨missing, bare, told⟩⟩ := resolveText_error wrong
  · obtain ⟨found, known⟩ := named _ refers
    cases bad.symm.trans known
  · cases bare
    rw [if_pos shown] at told
    exact ⟨name, told, refers, missing⟩

/-- Nothing but a missing variable stops the pass over a harmless tree for which there is room. -/
theorem Stop.missing (stop : Stop env room place v p e) (shallow : v.depth ≤ room)
    (harmless : Harmless env v) (shown : place.isShown = true) :
    ∃ u, e = .unresolved u ∧ Missing env v p u.variableName := by
  induction stop with
  | @text room place t e wrong =>
    obtain ⟨name, told, refers, missing⟩ :=
      missing_of_resolveText wrong (fun r => harmless.names [] t r rfl) shown
    exact ⟨_, told, t, rfl, refers, missing⟩
  | deep nests => omega
  | unplaced inside =>
    obtain ⟨q, placed, -⟩ := harmless.placed shown inside
    cases placed
  | inner inside stop ih =>
    obtain ⟨q, placed, shown'⟩ := harmless.placed shown inside
    cases placed
    have here := parts_of_children inside
    obtain ⟨u, told, t, there, missing⟩ :=
      ih (Value.depth_part_le shallow here) (harmless.part here) shown'
    exact ⟨u, told, t, by rw [Value.at?, here]; exact there, missing⟩

theorem Missing.stop {name : Text} (missing : Missing env v p name) (shallow : v.depth ≤ room)
    (harmless : Harmless env v) (shown : place.isShown = true) :
    ∃ where', Stop env room place v p (.unresolved ⟨name, where'⟩) := by
  -- By induction on the position: the walk goes the same way and meets the same text.
  induction p generalizing room place v with
  | nil =>
    obtain ⟨t, here, refers, missing⟩ := missing
    cases here
    exact ⟨_, .text (resolveText_missing refers missing shown)⟩
  | cons i p ih =>
    obtain ⟨t, here, refers, missing⟩ := missing
    rw [Value.at?] at here
    obtain ⟨w, inside, there⟩ := Option.bind_eq_some_iff.mp here
    have part := inside
    rw [← children_parts place v, List.getElem?_map] at part
    obtain ⟨⟨c, w⟩, child, rfl⟩ := Option.map_eq_some_iff.mp part
    obtain ⟨q, rfl, shown'⟩ := harmless.placed shown child
    -- A value with parts needs room.
    cases room with
    | zero =>
      have flat := Nat.le_zero.mp shallow
      rw [Value.parts_of_flat flat] at inside
      cases inside
    | succ room =>
      obtain ⟨place', stop⟩ := ih ⟨t, there, refers, missing⟩
        (Value.depth_part_le shallow inside) (harmless.part inside) shown'
      exact ⟨place', .inner child stop⟩

section Harmless

variable (shallow : v.depth ≤ room) (harmless : Harmless env v) (shown : place.isShown = true)
include shallow harmless shown

/-- Stops and missing variables are at the same positions. -/
theorem free_iff_missing :
    (∀ p e, ¬Stop env room place v p e) ↔ ∀ p name, ¬Missing env v p name := by
  constructor
  · intro free p name missing
    obtain ⟨place', stop⟩ := missing.stop shallow harmless shown
    exact free p _ stop
  · intro free p e stop
    obtain ⟨u, -, missing⟩ := stop.missing shallow harmless shown
    exact free p _ missing

/-- The first stop is the first missing variable. -/
theorem First.missing (first : First env room place v p e) :
    ∃ u, e = .unresolved u ∧ Missing env v p u.variableName ∧
      ∀ p' name, Missing env v p' name → ¬p' < p := by
  obtain ⟨u, told, missing⟩ := first.stop.missing shallow harmless shown
  refine ⟨u, told, missing, fun p' name missing' => ?_⟩
  obtain ⟨place', stop⟩ := missing'.stop shallow harmless shown
  exact first.least p' _ stop

theorem exists_unresolved_iff :
    (∃ u, resolve env room place v = .error (.unresolved u)) ↔
      ∃ p name, Missing env v p name := by
  constructor
  · rintro ⟨u, wrong⟩
    obtain ⟨p, first⟩ := resolve_error_iff.mp wrong
    obtain ⟨u', -, missing, -⟩ := first.missing shallow harmless shown
    exact ⟨p, _, missing⟩
  · rintro ⟨p, name, missing⟩
    obtain ⟨place', stop⟩ := missing.stop shallow harmless shown
    rcases resolve_cases env room place v with ⟨_, _, free⟩ | ⟨e, p', wrong, first⟩
    · exact absurd stop (free _ _)
    · obtain ⟨u, rfl, -⟩ := first.missing shallow harmless shown
      exact ⟨u, wrong⟩

end Harmless

/-! ### Trees for which there is no room -/

theorem oversized_of_children {i : Nat}
    (inside : (children place v)[i]? = some (.error e, w)) : e = .fault .oversizedNumber := by
  rcases place_of_children inside with unplaced | ⟨es, -, f, -, unplaced⟩
  · unfold itemPlace at unplaced
    split at unplaced <;> cases unplaced
    rfl
  · unfold entryPlace at unplaced
    split at unplaced
    · cases unplaced
    · split at unplaced <;> cases unplaced
      rfl

theorem resolveText_ne_tooDeep {t : Text} : resolveText env place t ≠ .error (.fault .tooDeep) := by
  intro wrong
  obtain ⟨r, -, ⟨f, -, told⟩ | ⟨-, -, told⟩⟩ := resolveText_error wrong
  · cases told
  · split at told <;> cases told

/-- A list or mapping is too deep only in a value that is deeper than there is room. -/
theorem Stop.depth (stop : Stop env room place v p (.fault .tooDeep)) : room < v.depth := by
  generalize told : Error.fault .tooDeep = e at stop
  induction stop with
  | text wrong => exact absurd (told ▸ wrong) resolveText_ne_tooDeep
  | deep nests => exact nests
  | unplaced inside => cases told.trans (oversized_of_children inside)
  | inner inside stop ih =>
    have member := List.mem_of_getElem? (parts_of_children inside)
    exact Value.succ_lt_depth_iff.mpr ⟨_, member, ih told⟩

/-- A value that is deeper than there is room is not gone through to its end. -/
theorem exists_stop (deep : room < v.depth) : ∃ p e, Stop env room place v p e := by
  induction room generalizing place v with
  | zero => exact ⟨[], _, .deep deep⟩
  | succ room ih =>
    obtain ⟨w, member, below⟩ := Value.succ_lt_depth_iff.mp deep
    rw [← children_parts place v] at member
    obtain ⟨⟨c, w⟩, child, rfl⟩ := List.mem_map.mp member
    obtain ⟨i, inside⟩ := List.getElem?_of_mem child
    cases c with
    | error e => exact ⟨[i], e, .unplaced inside⟩
    | ok q =>
      obtain ⟨p, e, stop⟩ := @ih q w below
      exact ⟨i :: p, e, .inner inside stop⟩

end Reference

namespace Config

open Reference Value

section Outcomes

variable {env : Environment} {root : Value} (inner : ∀ s, root ≠ .scalar s)
include inner

theorem resolve_inner :
    resolve env root = match Reference.resolve env maxDepth (.text []) root with
      | .error (.unresolved u) => .error (.invalid [u.message])
      | .error (.fault f) => .error (.reference f)
      | .ok data => .ok data := by
  cases root with
  | scalar s => exact absurd rfl (inner s)
  | _ => rfl

theorem resolve_outcomes :
    (∀ out, resolve env root = .ok out ↔
      Reference.resolve env maxDepth (.text []) root = .ok out) ∧
    (∀ problems, resolve env root = .error (.invalid problems) ↔
      ∃ u : Unresolved, Reference.resolve env maxDepth (.text []) root = .error (.unresolved u) ∧
        problems = [u.message]) ∧
    (∀ f, resolve env root = .error (.reference f) ↔
      Reference.resolve env maxDepth (.text []) root = .error (.fault f)) := by
  rw [resolve_inner inner]
  cases Reference.resolve env maxDepth (.text []) root with
  | ok data => simp
  | error e => cases e <;> simp [eq_comm]

end Outcomes

/-- Resolution is one pass over a tree; a lone scalar is left alone.  What comes out has the shape
of the tree, and each text in it is what the text at its position stood for.  The first stop in the
order of the text decides what is reported otherwise, and the pass does not get through a tree that
is nested too deeply.  If there is room, names of variables can be looked up and keys can be shown,
the only stops are references to missing variables. -/
theorem resolve_single_pass (env : Environment) :
    (∀ s, resolve env (.scalar s) = .ok (.scalar s)) ∧
    ∀ root : Value, (∀ s, root ≠ .scalar s) →
    (∀ out, resolve env root = .ok out →
      ∀ p, Option.Rel (Becomes env) (root.at? p) (out.at? p)) ∧
    ((∃ out, resolve env root = .ok out) ↔ ∀ p e, ¬Stop env maxDepth (.text []) root p e) ∧
    (∀ problems, resolve env root = .error (.invalid problems) ↔
      ∃ p, ∃ u : Unresolved, First env maxDepth (.text []) root p (.unresolved u) ∧
        problems = [u.message]) ∧
    (∀ f, resolve env root = .error (.reference f) ↔
      ∃ p, First env maxDepth (.text []) root p (.fault f)) ∧
    (∀ p, Stop env maxDepth (.text []) root p (.fault .tooDeep) → maxDepth < root.depth) ∧
    (maxDepth < root.depth → ∃ p e, First env maxDepth (.text []) root p e) ∧
    (root.depth ≤ maxDepth → Harmless env root →
      ((∃ out, resolve env root = .ok out) ↔ ∀ p name, ¬Missing env root p name) ∧
      ((∃ problems, resolve env root = .error (.invalid problems)) ↔
        ∃ p name, Missing env root p name) ∧
      ∀ problems, resolve env root = .error (.invalid problems) →
        ∃ p, ∃ u : Unresolved, Missing env root p u.variableName ∧
          (∀ p' name, Missing env root p' name → ¬p' < p) ∧ problems = [u.message]) := by
  refine ⟨fun s => rfl, fun root inner => ?_⟩
  obtain ⟨succeeds, invalid, fault⟩ := @resolve_outcomes env root inner
  have succeeds' : (∃ out, resolve env root = .ok out) ↔
      ∀ p e, ¬Stop env maxDepth (.text []) root p e := by
    simp only [succeeds, Reference.resolve_ok_iff]
  refine ⟨fun out done => resolve_becomes ((succeeds out).mp done), succeeds', fun problems => ?_,
    fun f => ?_, fun p stop => stop.depth, fun deep => ?_, fun shallow harmless => ?_⟩
  · rw [invalid problems]
    simp only [resolve_error_iff]
    constructor
    · rintro ⟨u, ⟨p, first⟩, told⟩
      exact ⟨p, u, first, told⟩
    · rintro ⟨p, u, first, told⟩
      exact ⟨u, ⟨p, first⟩, told⟩
  · rw [fault f, resolve_error_iff]
  · -- Some stop keeps the pass from its end, so there is a first one.
    obtain ⟨p, e, stop⟩ := exists_stop deep
    rcases resolve_cases env maxDepth (.text []) root with ⟨_, _, free⟩ | ⟨e', p', _, first⟩
    · exact absurd stop (free p e)
    · exact ⟨p', e', first⟩
  -- Nothing but a missing variable can stop the pass now.
  · have shown : (Scalar.text []).isShown = true := rfl
    refine ⟨?_, ?_, fun problems wrong => ?_⟩
    · rw [succeeds', free_iff_missing shallow harmless shown]
    · rw [← exists_unresolved_iff shallow harmless shown]
      constructor
      · rintro ⟨problems, wrong⟩
        obtain ⟨u, stopped, -⟩ := (invalid problems).mp wrong
        exact ⟨u, stopped⟩
      · rintro ⟨u, stopped⟩
        exact ⟨_, (invalid _).mpr ⟨u, stopped, rfl⟩⟩
    · obtain ⟨u, stopped, told⟩ := (invalid problems).mp wrong
      obtain ⟨p, first⟩ := resolve_error_iff.mp stopped
      obtain ⟨u', same, missing, least⟩ := first.missing shallow harmless shown
      cases same
      exact ⟨p, u, missing, least, told⟩

/-! ### A value that looks like a reference -/

/-- The value of the variable looks like a reference. -/
def nestedEnvironment : Environment := [("A", "$\x7bB\x7d")]

/-- References in a list, in a key, and to a variable that is not set. -/
def referringRoot : Value :=
  .mapping [
    (.text "first", .list [.ofText "plain", .ofText "$\x7bA\x7d"]),
    (.text "$\x7bA\x7d", .ofText "$\x7bB:-fallback\x7d")]

def resolvedRoot : Value :=
  .mapping [
    (.text "first", .list [.ofText "plain", .ofText "$\x7bB\x7d"]),
    (.text "$\x7bA\x7d", .ofText "fallback")]

/-- The name of the variable holds half of a surrogate pair, so no variable has it. -/
def halfRoot : Value :=
  .mapping [(.text "first", .ofText (.scalar '$' :: openBrace :: .surrogate 0 :: [closeBrace]))]

theorem resolve_single_pass_sample :
    (∀ p, Option.Rel (Becomes nestedEnvironment) (referringRoot.at? p) (resolvedRoot.at? p)) ∧
      ∃ p f, First nestedEnvironment maxDepth (.text []) halfRoot p (.fault f) := by
  obtain ⟨-, inner⟩ := resolve_single_pass nestedEnvironment
  obtain ⟨becomes, -⟩ := inner referringRoot nofun
  obtain ⟨-, -, -, fault, -⟩ := inner halfRoot nofun
  obtain ⟨p, first⟩ := (fault _).mp rfl
  exact ⟨becomes resolvedRoot rfl, p, _, first⟩

end Config

end ChallengeDns
