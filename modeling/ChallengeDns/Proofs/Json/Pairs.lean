import Mathlib
import ChallengeDns.Proofs.Json.Strings

/-!
# Halves that are joined

JSON writes a character beyond the first plane as two halves.  So two halves that follow each other
in a text cannot be told from the character that they stand for, and are read as this character.
Nothing else in a text changes when it is written and read.
-/
namespace ChallengeDns

/-- The text with the character in the place of two halves that stand for it. -/
def Text.joined : Text → Text
  | [] => []
  | [c] => [c]
  | c :: d :: t =>
    if c.isHigh && d.isLow then
      (CodePoint.ofNat? (Json.joinSurrogates c.value d.value)).toList ++ joined t
    else c :: joined (d :: t)

namespace Text

theorem joined_apart {c d : CodePoint} (apart : (c.isHigh && d.isLow) = false) (t : Text) :
    joined (c :: d :: t) = c :: joined (d :: t) := by
  rw [joined, apart]
  rfl

theorem joined_cons {c : CodePoint} (other : c.isHigh = false) (t : Text) :
    joined (c :: t) = c :: joined t := by
  cases t with
  | nil => rfl
  | cons d t => exact joined_apart (by rw [other, Bool.false_and]) t

/-- Two halves stand for a character beyond the first plane. -/
theorem exists_pair {c d : CodePoint} (both : (c.isHigh && d.isLow) = true) :
    ∃ e : CodePoint, CodePoint.ofNat? (Json.joinSurrogates c.value d.value) = some e ∧
      0x10000 ≤ e.value ∧ e.isHigh = false ∧ ∀ t, joined (c :: d :: t) = e :: joined t := by
  rw [Bool.and_eq_true] at both
  have high := (CodePoint.isHigh_iff c).mp both.1
  have low := (CodePoint.isLow_iff d).mp both.2
  have range : 0x10000 ≤ Json.joinSurrogates c.value d.value ∧
      Json.joinSurrogates c.value d.value < 0x110000 := by
    unfold Json.joinSurrogates
    omega
  obtain ⟨e, known⟩ := CodePoint.exists_ofNat? range.2
  have value := CodePoint.value_of_ofNat? known
  refine ⟨e, known, by omega, ?_, fun t => ?_⟩
  · rw [← Bool.not_eq_true, CodePoint.isHigh_iff]
    omega
  · rw [joined, both.1, both.2, known]
    rfl

/-- Where no half follows another one, nothing is joined. -/
theorem joined_of_isJoined {t : Text} (apart : t.IsJoined) : t.joined = t := by
  induction t with
  | nil => rfl
  | cons c t ih =>
    cases t with
    | nil => rfl
    | cons d t =>
      obtain ⟨first, rest⟩ := List.isChain_cons_cons.mp apart
      rw [joined_apart, ih rest]
      rwa [← Bool.not_eq_true, Bool.and_eq_true]

/-- A text is as it was, or it has a character beyond the first plane now. -/
theorem joined_eq_or (t : Text) : t.joined = t ∨ ∃ c ∈ t.joined, 0x10000 ≤ c.value := by
  induction t with
  | nil => exact Or.inl rfl
  | cons c t ih =>
    cases t with
    | nil => exact Or.inl rfl
    | cons d t =>
      cases both : c.isHigh && d.isLow with
      | true =>
        obtain ⟨e, -, large, -, joined⟩ := exists_pair both
        rw [joined]
        exact Or.inr ⟨e, List.mem_cons_self, large⟩
      | false =>
        rw [joined_apart both]
        exact ih.imp (congrArg _) fun ⟨e, member, large⟩ =>
          ⟨e, List.mem_cons_of_mem _ member, large⟩

/-- No other text than itself is joined to a text in ASCII. -/
theorem eq_of_joined_ascii {t u : Text} (same : t.joined = u) (ascii : u.isAscii = true) :
    t = u := by
  rcases joined_eq_or t with equal | ⟨c, member, large⟩
  · exact equal.symm.trans same
  · rw [same] at member
    have small := List.all_eq_true.mp ascii c member
    simp only [CodePoint.isAscii, decide_eq_true_eq] at small
    omega

theorem joined_ascii {t : Text} (ascii : t.isAscii = true) : t.joined = t :=
  joined_of_isJoined (joined_of_ascii ascii)

end Text

namespace Json

theorem pushEscaped_half (acc : Text) {c d e : CodePoint} (low : d.isLow = true)
    (pair : CodePoint.ofNat? (joinSurrogates c.value d.value) = some e) :
    pushEscaped (c :: acc) (some c.value) d.value = (e :: acc, none) := by
  have range : (0xDC00 ≤ d.value && d.value < 0xE000) = true := low
  simp only [pushEscaped, range, pair]
  rfl

/-- Behind a code point a text is read as if both were joined. -/
theorem string_behind (start pos : Nat) (acc : Text) (c : CodePoint) (t rest : Text) :
    string start pos (c :: acc) (waiting c) .plain (t.flatMap stringPoint ++ .scalar '"' :: rest) =
      (.scalar (.text (acc.reverse ++ Text.joined (c :: t))),
        pos + (t.flatMap stringPoint).length + 1) := by
  -- By induction on the text; what was read last may be a half that waits for its other half.
  induction t generalizing pos acc c with
  | nil =>
    rw [List.flatMap_nil, List.nil_append, string, if_pos rfl, List.reverse_cons]
    rfl
  | cons d t ih =>
    rw [List.flatMap_cons, List.append_assoc, List.length_append, ← Nat.add_assoc pos]
    cases both : c.isHigh && d.isLow with
    | true =>
      -- The half that waits is replaced by the character.
      obtain ⟨e, pair, -, other, joined⟩ := Text.exists_pair both
      rw [Bool.and_eq_true] at both
      have bounds := (CodePoint.isLow_iff d).mp both.2
      have small : d.value < 65536 := by omega
      have none : waiting e = none := if_neg (by rw [other]; decide)
      have behind := ih (pos + 6) acc e
      rw [none, Text.joined_cons other] at behind
      rw [stringPoint_of_isLow both.2, string_unitEscape _ _ _ _ small (by simp), waiting,
        if_pos both.1, pushEscaped_half acc both.2 pair, joined, length_unitEscape small]
      exact behind
    | false =>
      have apart : (waiting c).isSome = true → ¬d.isLow = true := by
        intro half low
        unfold waiting at half
        split at half
        · next high => simp [high, low] at both
        · cases half
      rw [string_stringPoint _ _ _ apart (by simp), ih, Text.joined_apart both, List.reverse_cons,
        List.append_assoc]
      rfl

/-- A text is read up to its closing quote, with its halves joined. -/
theorem string_flatMap (start pos : Nat) (t rest : Text) :
    string start pos [] none .plain (t.flatMap stringPoint ++ .scalar '"' :: rest) =
      (.scalar (.text t.joined), pos + (t.flatMap stringPoint).length + 1) := by
  cases t with
  | nil =>
    rw [List.flatMap_nil, List.nil_append, string, if_pos rfl]
    rfl
  | cons c t =>
    have first : (none : Option Nat).isSome = true → ¬c.isLow = true :=
      fun half => absurd half Bool.false_ne_true
    rw [List.flatMap_cons, List.append_assoc, List.length_append, ← Nat.add_assoc pos,
      string_stringPoint _ _ _ first (by simp), string_behind]
    rfl

end Json

end ChallengeDns
