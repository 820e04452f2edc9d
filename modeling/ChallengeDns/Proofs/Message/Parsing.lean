import Mathlib
import ChallengeDns.Message.Reader
import ChallengeDns.Proofs.Name.Canonical

/-!
# What has been read

A query that was read keeps the bounds that its reader checks: its names are absolute and its
questions are allowed for its kind.  Replies repeat the questions and rely on that.
-/
namespace ChallengeDns

namespace WireReader

variable {α β : Type}

theorem bind_some {body : WireReader α} {g : α → WireReader β} {c : Cursor} {r : β × Cursor} :
    (body >>= g) c = some r ↔ ∃ a d, body c = some (a, d) ∧ g a d = some r := by
  change (body c).bind (fun p => g p.1 p.2) = some r ↔ _
  rw [Option.bind_eq_some_iff]
  constructor
  · rintro ⟨⟨a, d⟩, first, second⟩
    exact ⟨a, d, first, second⟩
  · rintro ⟨a, d, first, second⟩
    exact ⟨(a, d), first, second⟩

theorem require_some {condition : Bool} {c : Cursor} {r : Unit × Cursor}
    (passed : require condition c = some r) : condition = true := by
  cases condition with
  | true => rfl
  | false => cases passed

theorem name_absolute {c d : Cursor} {n : Name} (read : name c = some (n, d)) :
    n.absolute = true := by
  unfold name at read
  split at read
  next => cases read
  next labels furthest _ =>
    cases made : Name.ofLabels labels true with
    | error f => simp [made] at read
    | ok m =>
      simp only [made, Option.some.injEq, Prod.mk.injEq] at read
      rw [← read.1]
      exact (Name.ofLabels_ok made).2

/-- Whatever holds of every reading holds of repeated ones. -/
theorem forall_times {body : WireReader α} {P : α → Prop}
    (each : ∀ {c d a}, body c = some (a, d) → P a) {n : Nat} {c d : Cursor} {as : List α}
    (read : times body n c = some (as, d)) : ∀ a ∈ as, P a := by
  induction n generalizing c as with
  | zero =>
    cases read
    exact nofun
  | succ n ih =>
    obtain ⟨a, _, first, read⟩ := bind_some.mp read
    obtain ⟨rest, _, others, read⟩ := bind_some.mp read
    cases read
    exact List.forall_mem_cons.mpr ⟨each first, ih others⟩

end WireReader

namespace Query

open WireReader

theorem question_absolute {c d : Cursor} {q : Question} (read : question c = some (q, d)) :
    q.name.absolute = true := by
  obtain ⟨n, _, named, read⟩ := bind_some.mp read
  obtain ⟨_, _, _, read⟩ := bind_some.mp read
  obtain ⟨_, _, _, read⟩ := bind_some.mp read
  cases read
  exact name_absolute named

theorem message_questions {c d : Cursor} {q : Query} (read : message c = some (q, d)) :
    (∀ question ∈ q.questions, question.name.absolute = true) ∧
      questionsAllowed q.opcode q.questions = true := by
  -- The header's six numbers come before the questions, three sections of records behind them.
  iterate 6 obtain ⟨_, _, _, read⟩ := bind_some.mp read
  obtain ⟨qs, _, questions, read⟩ := bind_some.mp read
  obtain ⟨_, _, allowed, read⟩ := bind_some.mp read
  iterate 5 obtain ⟨_, _, _, read⟩ := bind_some.mp read
  cases read
  exact ⟨forall_times question_absolute questions, require_some allowed⟩

/-- The questions of a query that was read. -/
theorem ofWire_questions {wire : Bytes} {q : Query} (parsed : ofWire? wire = some q) :
    (∀ question ∈ q.questions, question.name.absolute = true) ∧
      questionsAllowed q.opcode q.questions = true := by
  obtain ⟨⟨_, _⟩, read, rfl⟩ := Option.map_eq_some_iff.mp parsed
  exact message_questions read

theorem opcode_lt (q : Query) : q.opcode.code.toNat < 16 := by
  change (q.flags >>> 11 &&& 15).toNat < 16
  rw [UInt16.toNat_and]
  exact Nat.lt_succ_of_le Nat.and_le_right

end Query

end ChallengeDns
