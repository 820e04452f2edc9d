import Mathlib
import ChallengeDns.Json.Reader
import ChallengeDns.Proofs.Json.Tokens

/-!
# The JSON machine

Runs of the machine over the tokens of arrays and objects.  Where a token stands matters to
complaints alone, so a run without complaints is told without positions.
-/
namespace ChallengeDns.Json

namespace Machine

/-- The machine goes from one state to another over some tokens, wherever these stand. -/
def Steps (m : Machine) (ts : List Token) (n : Machine) : Prop :=
  ∀ stop (placed more : List (Nat × Token)), placed.map (·.2) = ts →
    m.run stop (placed ++ more) = n.run stop more

theorem Steps.nil (m : Machine) : Steps m [] m := by
  intro stop placed more none
  rw [List.map_eq_nil_iff.mp none]
  rfl

theorem Steps.cons {m n k : Machine} {token : Token} {ts : List Token}
    (first : ∀ pos, m.step pos token = .ok n) (rest : Steps n ts k) :
    Steps m (token :: ts) k := by
  intro stop placed more tokens
  obtain ⟨p, ps, rfl, rfl, later⟩ := List.map_eq_cons_iff.mp tokens
  rw [List.cons_append, run, first]
  exact rest stop ps more later

theorem Steps.append {m n k : Machine} {ts us : List Token} (first : Steps m ts n)
    (second : Steps n us k) : Steps m (ts ++ us) k := by
  intro stop placed more tokens
  obtain ⟨ps, qs, rfl, left, right⟩ := List.map_eq_append_iff.mp tokens
  rw [List.append_assoc, first stop ps (qs ++ more) left]
  exact second stop qs more right

theorem Steps.one {m n : Machine} {token : Token} (step : ∀ pos, m.step pos token = .ok n) :
    Steps m [token] n := .cons step (.nil n)

end Machine

open Machine

/-- Some tokens stand for a value that is nested to some depth, as an item or elsewhere. -/
structure Denotes (ts : List Token) (v : Value) (depth : Nat) : Prop where
  value : ∀ frames, frames.length + depth ≤ maxDepth →
    Steps ⟨frames, .value⟩ ts (complete frames v)
  item : ∀ frames, frames.length + depth ≤ maxDepth →
    Steps ⟨frames, .firstItem⟩ ts (complete frames v)

theorem Denotes.scalar (s : Scalar) (depth : Nat) : Denotes [.scalar s] (.scalar s) depth := by
  constructor <;>
  · intro frames _
    exact .one fun _ => rfl

/-- Parts with commas between them. -/
def separated : List (List Token) → List Token
  | [] => []
  | part :: parts => part ++ parts.flatMap (.comma :: ·)

/-! ### Arrays -/

section Arrays

variable {depth : Nat} {parts : List (List Token)} {vs : List Value}

theorem steps_items {frames : List Frame} (room : frames.length + (depth + 1) ≤ maxDepth)
    (parse : List.Forall₂ (fun part v => Denotes part v depth) parts vs) (items : List Value) :
    Steps ⟨.array items :: frames, .comma⟩ (parts.flatMap (.comma :: ·))
      ⟨.array (vs.reverse ++ items) :: frames, .comma⟩ := by
  induction parse generalizing items with
  | nil => exact .nil _
  | @cons part v parts vs first _ ih =>
    have inside : (Frame.array items :: frames).length + depth ≤ maxDepth := by
      rw [List.length_cons]
      omega
    rw [List.flatMap_cons, List.cons_append, List.reverse_cons, List.append_assoc]
    -- A frame keeps its items in reverse, so the value behind the comma comes in front of them.
    refine .cons (n := ⟨.array items :: frames, .value⟩) (fun _ => rfl) ?_
    exact (first.value _ inside).append (ih (v :: items))

theorem steps_array {frames : List Frame} (room : frames.length + (depth + 1) ≤ maxDepth)
    (parse : List.Forall₂ (fun part v => Denotes part v depth) parts vs) :
    Steps ⟨.array [] :: frames, .firstItem⟩ (separated parts ++ [.closeArray])
      (complete frames (.list vs)) := by
  cases parse with
  | nil => exact .one fun _ => rfl
  | @cons part v parts vs first rest =>
    have inside : (Frame.array [] :: frames).length + depth ≤ maxDepth := by
      rw [List.length_cons]
      omega
    rw [separated, List.append_assoc]
    refine (first.item _ inside).append ((steps_items room rest [v]).append (.one fun _ => ?_))
    simp [step, closed]

theorem Denotes.list (parse : List.Forall₂ (fun part v => Denotes part v depth) parts vs) :
    Denotes (.openArray :: (separated parts ++ [.closeArray])) (.list vs) (depth + 1) := by
  constructor <;>
  · intro frames room
    refine .cons (fun _ => ?_) (steps_array room parse)
    exact if_neg (show ¬maxDepth ≤ frames.length by omega)

end Arrays

/-! ### Objects -/

def memberTokens (e : Text × List Token) : List Token := .scalar (.text e.1) :: .colon :: e.2

/-- The tokens of a member stand for an entry. -/
def DenotesEntry (depth : Nat) (e : Text × List Token) (entry : Scalar × Value) : Prop :=
  entry.1 = .text e.1 ∧ Denotes e.2 entry.2 depth

section Objects

variable {depth : Nat} {members : List (Text × List Token)} {entries : List (Scalar × Value)}

theorem steps_member {frames : List Frame} (room : frames.length + (depth + 1) ≤ maxDepth)
    {e : Text × List Token} {entry : Scalar × Value} (parse : DenotesEntry depth e entry)
    {awaited : Awaited} (named : awaited = .firstName ∨ awaited = .name)
    (before : List (Scalar × Value)) (key : Text) :
    Steps ⟨.object before key :: frames, awaited⟩ (memberTokens e)
      ⟨.object (entry :: before) e.1 :: frames, .comma⟩ := by
  obtain ⟨name, value⟩ := parse
  have inside : (Frame.object before e.1 :: frames).length + depth ≤ maxDepth := by
    rw [List.length_cons]
    omega
  refine .cons (n := ⟨.object before e.1 :: frames, .colon⟩) (fun _ => ?_)
    (.cons (n := ⟨.object before e.1 :: frames, .value⟩) (fun _ => rfl) ?_)
  · rcases named with rfl | rfl <;> rfl
  · have steps := value.value _ inside
    rwa [complete, ← name] at steps

theorem steps_members {frames : List Frame} (room : frames.length + (depth + 1) ≤ maxDepth)
    (parse : List.Forall₂ (DenotesEntry depth) members entries) (before : List (Scalar × Value))
    (key : Text) :
    ∃ last, Steps ⟨.object before key :: frames, .comma⟩
      (members.flatMap fun e => .comma :: memberTokens e)
      ⟨.object (entries.reverse ++ before) last :: frames, .comma⟩ := by
  induction parse generalizing before key with
  | nil => exact ⟨key, .nil _⟩
  | @cons e entry members entries first _ ih =>
    obtain ⟨last, rest⟩ := ih (entry :: before) e.1
    refine ⟨last, ?_⟩
    rw [List.flatMap_cons, List.cons_append, List.reverse_cons, List.append_assoc]
    refine .cons (n := ⟨.object before key :: frames, .name⟩) (fun _ => rfl) ?_
    exact (steps_member room first (Or.inr rfl) before key).append rest

theorem steps_object {frames : List Frame} (room : frames.length + (depth + 1) ≤ maxDepth)
    (parse : List.Forall₂ (DenotesEntry depth) members entries) :
    Steps ⟨.object [] [] :: frames, .firstName⟩
      (separated (members.map memberTokens) ++ [.closeObject])
      (complete frames (.mapping (Value.entriesOf entries))) := by
  cases parse with
  | nil => exact .one fun _ => rfl
  | @cons e entry members entries first rest =>
    obtain ⟨last, behind⟩ := steps_members room rest [entry] e.1
    rw [List.map_cons, separated, List.append_assoc, List.flatMap_map]
    refine (steps_member room first (Or.inl rfl) [] []).append (behind.append (.one fun _ => ?_))
    simp [step, closed]

/-- An object stands for the mapping of its members, of which the last one with a name counts. -/
theorem Denotes.mapping (parse : List.Forall₂ (DenotesEntry depth) members entries) :
    Denotes (.openObject :: (separated (members.map memberTokens) ++ [.closeObject]))
      (.mapping (Value.entriesOf entries)) (depth + 1) := by
  constructor <;>
  · intro frames room
    refine .cons (fun _ => ?_) (steps_object room parse)
    exact if_neg (show ¬maxDepth ≤ frames.length by omega)

end Objects

/-- A text is read as the value that its tokens stand for. -/
theorem read_of_denotes {t : Text} {ts : List Token} {v : Value} {depth : Nat}
    (lexes : Lexes t ts) (denotes : Denotes ts v depth) (shallow : depth ≤ maxDepth)
    (unmarked : t.head? ≠ some (.scalar '\uFEFF')) : Json.read t = .ok v := by
  obtain ⟨placed, tokens, read⟩ := lexes 0 []
  have run : Machine.start.run t.length (Json.tokens t) = .ok v := by
    have steps := denotes.value [] (by simpa using shallow) t.length placed [] tokens
    rw [List.append_nil] at read
    rw [Json.tokens, read]
    exact steps
  -- A byte order mark is the only thing that is looked at before the tokens.
  rw [Json.read, if_neg unmarked, readAny, run]

end ChallengeDns.Json
