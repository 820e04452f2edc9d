import Mathlib
import ChallengeDns.Json.Encoding
import ChallengeDns.Proofs.Json.Tokens

/-!
# Depth

Every frame of the machine has been opened by a token of its own.  So a text is refused for its
depth only if it opens more arrays and objects than may be nested, and it is refused if it begins
with more opening brackets than that.
-/
namespace ChallengeDns.Json

def Token.opens : Token → Bool
  | .openObject => true
  | .openArray => true
  | _ => false

/-- How many arrays and objects a text opens. -/
def openings (t : Text) : Nat := (tokens t).countP (·.2.opens)

namespace Complaint

def IsNested : Complaint → Prop
  | .nestedArray => True
  | .nestedObject => True
  | _ => False

end Complaint

namespace Machine

theorem length_complete (frames : List Frame) (v : Value) :
    (complete frames v).frames.length = frames.length := by
  cases frames with
  | nil => rfl
  | cons frame frames => cases frame <;> rfl

theorem value_frames {frames : List Frame} {pos : Nat} {token : Token} {m : Machine}
    (taken : value frames pos token = .ok m) :
    m.frames.length ≤ frames.length + if token.opens then 1 else 0 := by
  cases token with
  | scalar s =>
    cases taken
    rw [length_complete]
    exact Nat.le_add_right _ _
  | openArray =>
    simp only [value] at taken
    split at taken <;> cases taken
    exact le_refl _
  | openObject =>
    simp only [value] at taken
    split at taken <;> cases taken
    exact le_refl _
  | _ => cases taken

theorem value_nested {frames : List Frame} {pos : Nat} {token : Token} {c : Complaint}
    (nested : c.IsNested) (refused : value frames pos token = .error c) :
    token.opens = true ∧ maxDepth ≤ frames.length := by
  cases token with
  | openArray =>
    simp only [value] at refused
    split at refused
    next deep => exact ⟨rfl, deep⟩
    next => cases refused
  | openObject =>
    simp only [value] at refused
    split at refused
    next deep => exact ⟨rfl, deep⟩
    next => cases refused
  | scalar s => cases refused
  | _ =>
    cases refused
    cases nested

theorem name_frames {frames : List Frame} {pos : Nat} {token : Token} {m : Machine}
    (taken : name frames pos token = .ok m) : m.frames.length = frames.length := by
  unfold name at taken
  split at taken
  · split at taken <;> cases taken
    rfl
  · cases taken
  · cases taken

theorem name_nested {frames : List Frame} {pos : Nat} {token : Token} {c : Complaint}
    (refused : name frames pos token = .error c) : ¬c.IsNested := by
  unfold name at refused
  split at refused
  · split at refused <;> cases refused
    exact id
  · cases refused
    exact id
  · cases refused
    exact id

/-- A frame more takes a token that opens it. -/
theorem step_frames {m n : Machine} {pos : Nat} {token : Token} (taken : m.step pos token = .ok n) :
    n.frames.length ≤ m.frames.length + if token.opens then 1 else 0 := by
  obtain ⟨frames, awaited⟩ := m
  unfold step at taken
  -- Only a value opens a frame; everything else keeps the frames or closes the innermost one.
  cases awaited with
  | value => exact value_frames taken
  | firstItem =>
    dsimp only at taken
    split at taken
    · cases taken
      rw [length_complete, List.length_cons]
      omega
    · exact value_frames taken
  | firstName =>
    dsimp only at taken
    split at taken
    · cases taken
      rw [length_complete, List.length_cons]
      omega
    · rw [name_frames taken]
      exact Nat.le_add_right _ _
  | name =>
    rw [name_frames taken]
    exact Nat.le_add_right _ _
  | colon =>
    dsimp only at taken
    split at taken <;> cases taken
    exact Nat.le_add_right _ _
  | comma =>
    -- Behind a comma the frame stays open, and an end closes it.
    dsimp only at taken
    split at taken <;> cases taken
    · exact Nat.le_add_right _ _
    · exact Nat.le_add_right _ _
    · rw [length_complete, List.length_cons]
      omega
    · rw [length_complete, List.length_cons]
      omega
  | nothing v => cases taken

theorem step_nested {m : Machine} {pos : Nat} {token : Token} {c : Complaint} (nested : c.IsNested)
    (refused : m.step pos token = .error c) : token.opens = true ∧ maxDepth ≤ m.frames.length := by
  obtain ⟨frames, awaited⟩ := m
  unfold step at refused
  -- Only where a value may stand can something be opened, and so be refused for its depth.
  cases awaited with
  | value => exact value_nested nested refused
  | firstItem =>
    dsimp only at refused
    split at refused
    · cases refused
    · exact value_nested nested refused
  | firstName =>
    dsimp only at refused
    split at refused
    · cases refused
    · exact absurd nested (name_nested refused)
  | name => exact absurd nested (name_nested refused)
  | colon =>
    dsimp only at refused
    split at refused <;> cases refused
    cases nested
  | comma =>
    dsimp only at refused
    split at refused <;> cases refused
    cases nested
  | nothing v =>
    cases refused
    cases nested

theorem finish_nested {m : Machine} {pos : Nat} {c : Complaint}
    (refused : m.finish pos = .error c) : ¬c.IsNested := by
  unfold finish at refused
  split at refused <;> cases refused <;> exact id

theorem run_nested {stop : Nat} {m : Machine} {ts : List (Nat × Token)} {c : Complaint}
    (nested : c.IsNested) (refused : m.run stop ts = .error c) :
    maxDepth < m.frames.length + ts.countP (·.2.opens) := by
  -- By induction on the tokens; a token that opens something passes from the count to the frames.
  induction ts generalizing m with
  | nil => exact absurd nested (finish_nested refused)
  | cons placed ts ih =>
    obtain ⟨pos, token⟩ := placed
    rw [run] at refused
    rw [List.countP_cons]
    cases step : m.step pos token with
    | error d =>
      rw [step] at refused
      cases refused
      obtain ⟨opens, deep⟩ := step_nested nested step
      rw [opens, if_pos rfl]
      omega
    | ok n =>
      rw [step] at refused
      have more := ih refused
      have few := step_frames step
      dsimp only
      omega

end Machine

/-- A text that is nested too deeply opens more arrays and objects than may be nested. -/
theorem readAny_nested {t : Text} {e : ReadError} (refused : readAny t = .error e)
    (nested : e = .nestedArray ∨ e = .nestedObject) : maxDepth < openings t := by
  unfold readAny at refused
  split at refused
  · cases refused
  next c complaint =>
    cases refused
    have deep : c.IsNested := by
      cases c <;> first | trivial | (rcases nested with equal | equal <;> cases equal)
    have more := Machine.run_nested deep complaint
    rwa [show Machine.start.frames.length = 0 from rfl, Nat.zero_add] at more

theorem read_nested {t : Text} {e : ReadError} (refused : read t = .error e)
    (nested : e = .nestedArray ∨ e = .nestedObject) : maxDepth < openings t := by
  unfold read at refused
  split at refused
  · rcases nested with rfl | rfl <;> cases refused
  · exact readAny_nested refused nested

/-! ### Too many brackets -/

end ChallengeDns.Json
