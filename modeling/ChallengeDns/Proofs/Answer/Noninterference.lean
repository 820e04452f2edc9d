import Mathlib
import ChallengeDns.Proofs.Answer.Publication

/-!
# What stays hidden

A store may hold values under names that nobody may publish under any more.  Answers do not depend
on them: the access table is asked before the store, and both take the spellings of a name for the
same name.
-/
namespace ChallengeDns

namespace Store

/-- Two stores give the same values for some names. -/
def AgreeOn (names : List Name) (s t : Store) : Prop :=
  ∀ n ∈ names, s.get (.name n) = t.get (.name n)

/-- A store does not tell spellings apart. -/
theorem get_same (s : Store) {m n : Name} (equal : m.same n = true) :
    s.get (.name m) = s.get (.name n) := by
  have alike := Name.same_absolute equal
  unfold get Key.ofGiven Name.Given.read
  cases absolute : m.absolute with
  | true =>
    obtain ⟨k, first⟩ := Key.ofName_of_absolute absolute
    obtain ⟨l, second⟩ := Key.ofName_of_absolute (alike.symm.trans absolute)
    simp only [first, second, (Key.eq_iff_same first second).mpr equal]
  | false =>
    -- A name that is not absolute has no key and thus no values.
    have first : Key.ofName m = .error (.notFullyQualified m.text) := by
      simp [Key.ofName, absolute]
    have second : Key.ofName n = .error (.notFullyQualified n.text) := by
      simp [Key.ofName, alike.symm.trans absolute]
    simp only [first, second]

end Store

namespace Authority

variable {a : Authority} {s t : Store}

theorem answerText_agree (agree : s.AgreeOn a.access.eligible t) (n : Name) :
    a.answerText (a.backing s) n = a.answerText (a.backing t) n := by
  unfold answerText
  cases eligible : a.access.isEligible n with
  | false => rfl
  | true =>
    obtain ⟨e, member, equal⟩ := List.any_eq_true.mp eligible
    have got : s.get (.name n) = t.get (.name n) := by
      rw [← s.get_same equal, ← t.get_same equal]
      exact agree e member
    simp only [backing, got]

theorem answerQuestion_agree (agree : s.AgreeOn a.access.eligible t) (question : Question) :
    a.answerQuestion (a.backing s) question = a.answerQuestion (a.backing t) question := by
  unfold answerQuestion
  rw [answerText_agree agree]
  rfl

theorem lookUp_agree (agree : s.AgreeOn a.access.eligible t) (q : Query) :
    a.lookUp (a.backing s) q = a.lookUp (a.backing t) q := by
  unfold lookUp
  cases q.questions with
  | nil => rfl
  | cons question more => simp only [answerQuestion_agree agree]

/-- A question for the texts of a name that is not eligible does not reach the store. -/
theorem lookUp_of_ineligible (b : Backing) {q : Query} {n : Name} (asks : AsksFor q n)
    (ineligible : a.access.isEligible n = false) : a.lookUp b q = .ok (.notFound, []) := by
  obtain ⟨question, more, questions, kind, rfl⟩ := asks.question
  unfold lookUp
  rw [if_neg (by simp [asks.standard, asks.notReply]), questions]
  simp [answerQuestion, kind, answerText, ineligible]

/-- Values under names that are not eligible do not interfere.  Stores that agree on the eligible
names give the same answer to every query, and the same reports about it; a name that is eligible in
no spelling is unknown whatever the store holds for it. -/
theorem ineligible_hidden (a : Authority) {s t : Store} (agree : s.AgreeOn a.access.eligible t) :
    (∀ q, a.answer s q = a.answer t q) ∧
    ∀ (u : Store) (q : Query) (n : Name), AsksFor q n →
      (∀ e ∈ a.access.eligible, e.same n = false) →
      let r := (a.answer u q).1
      r.code = .noSuchName ∧ r.authoritative = true ∧ r.answer = none := by
  constructor
  · intro q
    unfold answer respond
    rw [lookUp_agree agree]
  · intro u q n asks apart
    have ineligible : a.access.isEligible n = false := by
      rw [AccessControl.isEligible, List.any_eq_false]
      intro e member
      rw [apart e member]
      exact Bool.false_ne_true
    unfold answer respond
    rw [lookUp_of_ineligible _ asks ineligible]
    exact ⟨rfl, rfl, rfl⟩

/-! ### A value that was left behind -/

def sampleKey : Key := ⟨sampleName.canonical, by decide +kernel, sampleName.canonical_canonical⟩

/-- A name of the zone that no client may publish under. -/
def staleName : Name := (Name.readAbsolute "stale.example.com").toOption.getD .root

def staleKey : Key := ⟨staleName.canonical, by decide +kernel, staleName.canonical_canonical⟩

/-- The question for the texts of a name. -/
def textQuery (n : Name) : Query := ⟨1, 0, [⟨n, .txt, 1⟩], none⟩

def sampleRecords : Records := Records.empty.put sampleKey (.text sampleValue)

/-- The value is there in one of two stores, and nobody sees it. -/
theorem ineligible_hidden_sample :
    let a : Authority := ⟨sampleZone, ⟨[], []⟩, sampleAccess, ⟨⟨2024, 1, 1⟩, 0, 0, 0, 0, none⟩⟩
    let s := Store.memory sampleRecords
    let t := Store.memory (sampleRecords.put staleKey (.text "left"))
    s.get (.name staleName) ≠ t.get (.name staleName) ∧
      (∀ n, a.answer s (textQuery n) = a.answer t (textQuery n)) ∧
      (a.answer s (textQuery sampleName)).1.answer ≠ none ∧
      (a.answer t (textQuery staleName)).1.answer = none := by
  intro a s t
  have differ : s.get (.name staleName) ≠ t.get (.name staleName) := by decide +kernel
  have agree : s.AgreeOn a.access.eligible t := by
    unfold Store.AgreeOn
    decide +kernel
  have asks : AsksFor (textQuery staleName) staleName := ⟨rfl, ⟨_, _, rfl, rfl, rfl⟩, rfl⟩
  have apart : ∀ e ∈ a.access.eligible, e.same staleName = false := by decide +kernel
  obtain ⟨same, unknown⟩ := ineligible_hidden a agree
  have published : (a.answer s (textQuery sampleName)).1.answer ≠ none := by decide +kernel
  exact ⟨differ, fun n => same (textQuery n), published, (unknown t _ _ asks apart).2.2⟩

end Authority

end ChallengeDns
