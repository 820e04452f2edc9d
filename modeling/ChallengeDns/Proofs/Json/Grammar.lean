import Mathlib
import ChallengeDns.Proofs.Json.Machine
import ChallengeDns.Proofs.Json.Members

/-!
# Members as they are written

The machine keeps one value for each name of an object, but a text may write a name several times.
A syntax tree has all members of its text.  Every text that is read has a tree, and the value of an
object is that of its members: a name stays where it came first and has the value that came last.
-/
namespace ChallengeDns.Json

/-- A JSON text without its blanks. -/
inductive Tree where
  | scalar (s : Scalar)
  | array (items : List Tree)
  | object (members : List (Text × Tree))

namespace Tree

mutual

/-- The tokens that write a tree. -/
def tokens : Tree → List Token
  | .scalar s => [.scalar s]
  | .array items => .openArray :: (separated (itemTokens items) ++ [.closeArray])
  | .object members => .openObject :: (separated (membersTokens members) ++ [.closeObject])

def itemTokens : List Tree → List (List Token)
  | [] => []
  | t :: ts => tokens t :: itemTokens ts

def membersTokens : List (Text × Tree) → List (List Token)
  | [] => []
  | (name, t) :: ms => memberTokens (name, tokens t) :: membersTokens ms

end

mutual

/-- The value that a tree stands for. -/
def value : Tree → Value
  | .scalar s => .scalar s
  | .array items => .list (values items)
  | .object members => .mapping (Value.entriesOf (entries members))

def values : List Tree → List Value
  | [] => []
  | t :: ts => value t :: values ts

def entries : List (Text × Tree) → List (Scalar × Value)
  | [] => []
  | (name, t) :: ms => (.text name, value t) :: entries ms

end

end Tree

namespace Machine

/-- A run reads some tokens of its list and goes on with the others from a state. -/
def Passes (stop : Nat) (ts : List (Nat × Token)) (piece : List Token) (m : Machine) (v : Value) :
    Prop :=
  ∃ placed more, ts = placed ++ more ∧ placed.map (·.2) = piece ∧ m.run stop more = .ok v

section Runs

variable {stop : Nat} {ts : List (Nat × Token)} {m : Machine} {v : Value}

theorem Passes.nil (done : m.run stop ts = .ok v) : Passes stop ts [] m v :=
  ⟨[], ts, rfl, rfl, done⟩

theorem Passes.prepend (placed : List (Nat × Token)) {piece : List Token}
    (rest : Passes stop ts piece m v) :
    Passes stop (placed ++ ts) (placed.map (·.2) ++ piece) m v := by
  obtain ⟨placed', more, rfl, rfl, done⟩ := rest
  exact ⟨placed ++ placed', more, (List.append_assoc _ _ _).symm, List.map_append, done⟩

theorem Passes.cons {piece : List Token} {pos : Nat} {token : Token}
    (rest : Passes stop ts piece m v) : Passes stop ((pos, token) :: ts) (token :: piece) m v :=
  rest.prepend [(pos, token)]

theorem run_cons {pos : Nat} {token : Token} (done : m.run stop ((pos, token) :: ts) = .ok v) :
    ∃ n, m.step pos token = .ok n ∧ n.run stop ts = .ok v := by
  rw [run] at done
  cases next : m.step pos token with
  | error c => simp [next] at done
  | ok n =>
    rw [next] at done
    exact ⟨n, rfl, done⟩

variable {frames : List Frame}

/-- An array that has just been opened is closed, or its first item is read as any value. -/
theorem run_firstItem (done : run stop ⟨.array [] :: frames, .firstItem⟩ ts = .ok v) :
    Passes stop ts [.closeArray] (complete frames (.list [])) v ∨
      run stop ⟨.array [] :: frames, .value⟩ ts = .ok v := by
  cases ts with
  | nil => cases done
  | cons placed ts =>
    obtain ⟨pos, token⟩ := placed
    cases token with
    | closeArray => exact Or.inl (.cons (.nil done))
    | _ => exact Or.inr done

theorem run_name {es : List (Scalar × Value)} {key : Text}
    (done : run stop ⟨.object es key :: frames, .name⟩ ts = .ok v) :
    ∃ name p q rest, ts = (p, .scalar (.text name)) :: (q, .colon) :: rest ∧
      run stop ⟨.object es name :: frames, .value⟩ rest = .ok v := by
  -- A name takes two tokens: the text, and the colon behind it.
  cases ts with
  | nil => cases done
  | cons placed ts =>
    obtain ⟨p, token⟩ := placed
    obtain ⟨n, step, done⟩ := run_cons done
    change name (.object es key :: frames) p token = .ok n at step
    unfold name at step
    split at step
    · cases step
      cases ts with
      | nil => cases done
      | cons placed rest =>
        obtain ⟨q, token⟩ := placed
        obtain ⟨n, step, done⟩ := run_cons done
        cases token with
        | colon =>
          cases step
          exact ⟨_, p, q, rest, rfl, done⟩
        | _ => cases step
    · cases step
    · cases step

theorem run_firstName (done : run stop ⟨.object [] [] :: frames, .firstName⟩ ts = .ok v) :
    Passes stop ts [.closeObject] (complete frames (.mapping [])) v ∨
      run stop ⟨.object [] [] :: frames, .name⟩ ts = .ok v := by
  cases ts with
  | nil => cases done
  | cons placed ts =>
    obtain ⟨pos, token⟩ := placed
    cases token with
    | closeObject => exact Or.inl (.cons (.nil done))
    | _ => exact Or.inr done

end Runs

/-- Whatever a run reads of some tokens has trees: a value, the items of an array behind a first
one, and the members of an object behind a first one. -/
structure Parses (stop : Nat) (ts : List (Nat × Token)) : Prop where
  value : ∀ {frames v}, run stop ⟨frames, .value⟩ ts = .ok v →
    ∃ tree : Tree, Passes stop ts tree.tokens (complete frames tree.value) v
  items : ∀ {items frames v}, run stop ⟨.array items :: frames, .comma⟩ ts = .ok v →
    ∃ trees, Passes stop ts ((Tree.itemTokens trees).flatMap (.comma :: ·) ++ [.closeArray])
      (complete frames (.list (items.reverse ++ Tree.values trees))) v
  members : ∀ {es key frames v}, run stop ⟨.object es key :: frames, .comma⟩ ts = .ok v →
    ∃ members, Passes stop ts
      ((Tree.membersTokens members).flatMap (.comma :: ·) ++ [.closeObject])
      (complete frames (.mapping (Value.entriesOf (es.reverse ++ Tree.entries members)))) v

section Parsing

variable {stop : Nat} {ts : List (Nat × Token)} {v : Value} {frames : List Frame}
  (shorter : ∀ us : List (Nat × Token), us.length < ts.length → Parses stop us)
include shorter

-- A token has been read, so the value and what follows it are shorter than the whole.
theorem parses_item {rest : List (Nat × Token)} (less : rest.length < ts.length)
    {items : List Value}
    (done : run stop ⟨.array items :: frames, .value⟩ rest = .ok v) :
    ∃ tree trees, Passes stop rest
      (tree.tokens ++ ((Tree.itemTokens trees).flatMap (.comma :: ·) ++ [.closeArray]))
      (complete frames (.list (items.reverse ++ Tree.values (tree :: trees)))) v := by
  obtain ⟨tree, placed, more, rfl, tokens, done⟩ := (shorter rest less).value done
  rw [List.length_append] at less
  obtain ⟨trees, rest⟩ := (shorter more (by omega)).items done
  refine ⟨tree, trees, ?_⟩
  have all := rest.prepend placed
  rw [tokens] at all
  simpa [Tree.values] using all

theorem parses_member {rest : List (Nat × Token)} (less : rest.length < ts.length)
    {es : List (Scalar × Value)} {key : Text}
    (done : run stop ⟨.object es key :: frames, .name⟩ rest = .ok v) :
    ∃ member members, Passes stop rest
      (memberTokens (member.1, member.2.tokens) ++
        ((Tree.membersTokens members).flatMap (.comma :: ·) ++ [.closeObject]))
      (complete frames
        (.mapping (Value.entriesOf (es.reverse ++ Tree.entries (member :: members))))) v := by
  obtain ⟨name, p, q, rest, rfl, done⟩ := run_name done
  rw [List.length_cons, List.length_cons] at less
  obtain ⟨tree, placed, more, rfl, tokens, done⟩ := (shorter rest (by omega)).value done
  rw [List.length_append] at less
  obtain ⟨members, rest⟩ := (shorter more (by omega)).members done
  refine ⟨(name, tree), members, ?_⟩
  have all := rest.prepend ((p, .scalar (.text name)) :: (q, .colon) :: placed)
  rw [List.map_cons, List.map_cons, tokens] at all
  simpa [Tree.entries, memberTokens] using all

theorem parses_value (done : run stop ⟨frames, .value⟩ ts = .ok v) :
    ∃ tree : Tree, Passes stop ts tree.tokens (complete frames tree.value) v := by
  cases ts with
  | nil => cases done
  | cons placed ts =>
    obtain ⟨pos, token⟩ := placed
    obtain ⟨n, step, done⟩ := run_cons done
    change value frames pos token = .ok n at step
    -- A token is a value, or opens one whose parts are parsed from what follows.
    cases token with
    | scalar s =>
      cases step
      exact ⟨.scalar s, .cons (.nil done)⟩
    | openArray =>
      -- The array ends at once, or a first item and its successors follow.
      simp only [value] at step
      split at step <;> cases step
      rcases run_firstItem done with closed | done
      · exact ⟨.array [], closed.cons⟩
      · obtain ⟨tree, trees, rest⟩ := parses_item shorter (Nat.lt_succ_self _) done
        refine ⟨.array (tree :: trees), ?_⟩
        simpa [Tree.tokens, Tree.itemTokens, separated, Tree.value] using rest.cons
    | openObject =>
      simp only [value] at step
      split at step <;> cases step
      rcases run_firstName done with closed | done
      · exact ⟨.object [], closed.cons⟩
      · obtain ⟨member, members, rest⟩ := parses_member shorter (Nat.lt_succ_self _) done
        refine ⟨.object (member :: members), ?_⟩
        simpa [Tree.tokens, Tree.membersTokens, separated, Tree.value] using rest.cons
    | _ => cases step

theorem parses_items {items : List Value}
    (done : run stop ⟨.array items :: frames, .comma⟩ ts = .ok v) :
    ∃ trees, Passes stop ts ((Tree.itemTokens trees).flatMap (.comma :: ·) ++ [.closeArray])
      (complete frames (.list (items.reverse ++ Tree.values trees))) v := by
  cases ts with
  | nil => cases done
  | cons placed ts =>
    obtain ⟨pos, token⟩ := placed
    obtain ⟨n, step, done⟩ := run_cons done
    cases token with
    | comma =>
      cases step
      obtain ⟨tree, trees, rest⟩ := parses_item shorter (Nat.lt_succ_self _) done
      refine ⟨tree :: trees, ?_⟩
      simpa [Tree.itemTokens] using rest.cons
    | closeArray =>
      cases step
      refine ⟨[], .cons (.nil ?_)⟩
      simpa [closed, Tree.values] using done
    | _ => cases step

theorem parses_members {es : List (Scalar × Value)} {key : Text}
    (done : run stop ⟨.object es key :: frames, .comma⟩ ts = .ok v) :
    ∃ members, Passes stop ts
      ((Tree.membersTokens members).flatMap (.comma :: ·) ++ [.closeObject])
      (complete frames (.mapping (Value.entriesOf (es.reverse ++ Tree.entries members)))) v := by
  cases ts with
  | nil => cases done
  | cons placed ts =>
    obtain ⟨pos, token⟩ := placed
    obtain ⟨n, step, done⟩ := run_cons done
    cases token with
    | comma =>
      cases step
      obtain ⟨member, members, rest⟩ := parses_member shorter (Nat.lt_succ_self _) done
      refine ⟨member :: members, ?_⟩
      simpa [Tree.membersTokens] using rest.cons
    | closeObject =>
      cases step
      refine ⟨[], .cons (.nil ?_)⟩
      simpa [closed, Tree.entries] using done
    | _ => cases step

end Parsing

theorem parses (stop : Nat) (ts : List (Nat × Token)) : Parses stop ts := by
  -- By induction on the number of tokens; every construct reads one before its parts begin.
  induction size : ts.length using Nat.strong_induction_on generalizing ts with
  | _ n ih =>
    subst size
    have shorter (us : List (Nat × Token)) (less : us.length < ts.length) : Parses stop us :=
      ih us.length less us rfl
    exact ⟨parses_value shorter, parses_items shorter, parses_members shorter⟩

end Machine

/-- What is read is what some tree stands for, and its tokens are those of the text. -/
theorem exists_tree {t : Text} {v : Value} (read : Json.read t = .ok v) :
    ∃ tree : Tree, (tokens t).map (·.2) = tree.tokens ∧ tree.value = v := by
  unfold Json.read at read
  split at read
  · cases read
  unfold readAny at read
  cases done : Machine.start.run t.length (tokens t) with
  | error c => simp [done] at read
  | ok w =>
    rw [done, Except.ok.injEq] at read
    subst read
    obtain ⟨tree, placed, more, split, tokens, rest⟩ := (Machine.parses _ _).value done
    -- Nothing can follow the value of a whole text.
    cases more with
    | nil =>
      cases rest
      exact ⟨tree, by rw [split, List.append_nil, tokens], rfl⟩
    | cons first more =>
      obtain ⟨n, step, _⟩ := Machine.run_cons rest
      cases step

/-! ### The members of an object -/

theorem entries_eq (members : List (Text × Tree)) :
    Tree.entries members = (members.map fun m => (m.1, m.2.value)).map memberEntry := by
  induction members with
  | nil => rfl
  | cons m members ih =>
    rw [Tree.entries, ih]
    rfl

/-- A mapping that is read has members in its text, and their names are resolved. -/
theorem exists_members {t : Text} {es : List (Scalar × Value)}
    (read : Json.read t = .ok (.mapping es)) :
    ∃ members : List (Text × Tree), (tokens t).map (·.2) = (Tree.object members).tokens ∧
      es = (resolved (members.map fun m => (m.1, m.2.value))).map memberEntry := by
  obtain ⟨tree, written, value⟩ := exists_tree read
  cases tree with
  | object members =>
    rw [Tree.value, Value.mapping.injEq, entries_eq, entriesOf_memberEntry] at value
    exact ⟨members, written, value.symm⟩
  | scalar s => cases value
  | array items => cases value

end ChallengeDns.Json
