import Mathlib
import ChallengeDns.Message.Writer

/-!
# The length of replies

A reply has one complete encoding.  Writing within a limit gives it if it is short enough, and
nothing otherwise: the room that is kept free for the extension never turns away a reply that would
have been short enough.
-/
namespace ChallengeDns

namespace Wire

theorem toNat_one {n : Nat} (small : n < 256) : n.toUInt8.toNat = n := by
  change (UInt8.ofNat n).toNat = n
  rw [UInt8.toNat_ofNat']
  omega

theorem toNat_two {n : Nat} (small : n < 65536) :
    (n / 256).toUInt8.toNat * 256 + n.toUInt8.toNat = n := by
  change (UInt8.ofNat (n / 256)).toNat * 256 + (UInt8.ofNat n).toNat = n
  rw [UInt8.toNat_ofNat', UInt8.toNat_ofNat']
  omega

/-- Two octets behind a number that was read so far. -/
theorem foldl_two {n : Nat} (small : n < 65536) (m : Nat) :
    (two n).foldl (fun m b => m * 256 + b.toNat) m = m * 65536 + n := by
  rw [two, List.foldl_cons, List.foldl_cons, List.foldl_nil, Nat.add_mul, Nat.mul_assoc,
    Nat.add_assoc, toNat_two small]

theorem length_header (r : Reply) : (header r).length = headerLength := rfl

/-- The data of each record that is written is part of what is written. -/
theorem fits_of_length_sequence {owner : Name} {kind : RecordType} {offset : Nat} {table : Suffixes}
    {ds : List RecordData}
    (short : (sequence (record owner kind) offset table ds).1.length < 65536) :
    ∀ d ∈ ds, fits d = true := by
  induction ds generalizing offset table with
  | nil => exact nofun
  | cons d ds ih =>
    simp only [sequence, List.length_append] at short
    rw [List.forall_mem_cons]
    constructor
    · cases d with
      | txt strings =>
        simp only [record, data, List.length_append] at short
        simp only [fits, decide_eq_true_eq]
        omega
      | _ => rfl
    · exact ih (Nat.lt_of_le_of_lt (Nat.le_add_left _ _) short)

end Wire

namespace Reply

def body (r : Reply) : Bytes :=
  r.questionOctets.1 ++
    r.answerOctets (Wire.headerLength + r.questionOctets.1.length) r.questionOctets.2

/-- The extension behind the body. -/
def ending (r : Reply) : Bytes :=
  match r.extension with
  | some e => Wire.extension (Wire.headerLength + r.body.length) e
  | none => []

def complete (r : Reply) : Bytes := Wire.header r ++ r.body ++ r.ending

theorem length_complete (r : Reply) :
    r.complete.length = Wire.headerLength + r.body.length + r.ending.length := by
  rw [complete, List.length_append, List.length_append, Wire.length_header]

/-- The room that is kept free for the extension is not more than it takes. -/
theorem reserved_le_length_ending (r : Reply) : r.reserved ≤ r.ending.length := by
  unfold reserved ending
  cases r.extension with
  | none => exact Nat.zero_le _
  | some e =>
    cases padded : e.padded with
    | false => simp [padded, Wire.extension, Wire.extensionLength, Wire.two, Wire.four]
    | true =>
      simp only [padded, Wire.extension, Wire.extensionLength, Wire.optionLength, Wire.two,
        Wire.four, if_true, List.length_append, List.length_cons, List.length_nil]
      omega

/-- A record can only be too long for its length where the complete reply is too long for any
message. -/
theorem fits_of_length_complete {r : Reply} (short : r.complete.length ≤ 65535) :
    ((r.answer.map (·.records)).getD []).any (!Wire.fits ·) = false := by
  rw [length_complete] at short
  cases answer : r.answer with
  | none => rfl
  | some a =>
    have part : (r.answerOctets (Wire.headerLength + r.questionOctets.1.length)
        r.questionOctets.2).length ≤ r.body.length := by
      rw [body, List.length_append]
      exact Nat.le_add_left _ _
    simp only [answerOctets, answer] at part
    have small := Nat.lt_of_le_of_lt part (show r.body.length < 65536 by omega)
    simpa using Wire.fits_of_length_sequence small

/-- The limit is looked at before and behind the answer and behind the extension. -/
theorem toWireWithin_eq (r : Reply) (limit : Nat) :
    r.toWireWithin limit =
      if clampLimit limit - r.reserved < Wire.headerLength + r.questionOctets.1.length then
        .error .tooBig
      else if ((r.answer.map (·.records)).getD []).any (!Wire.fits ·) then .error .oversizedRecord
      else if clampLimit limit - r.reserved < Wire.headerLength + r.body.length then .error .tooBig
      else if clampLimit limit < Wire.headerLength + r.body.length + r.ending.length then
        .error .tooBig
      else .ok r.complete := rfl

/-- Writing within a limit, for a reply whose records are short enough for their length. -/
theorem toWireWithin_of_fits {r : Reply}
    (fit : ((r.answer.map (·.records)).getD []).any (!Wire.fits ·) = false) (limit : Nat) :
    r.toWireWithin limit =
      if r.complete.length ≤ clampLimit limit then .ok r.complete else .error .tooBig := by
  -- Each of the earlier tests asks for less than the last one, which decides alone.
  have kept := r.reserved_le_length_ending
  have questions : r.questionOctets.1.length ≤ r.body.length := by
    rw [body, List.length_append]
    exact Nat.le_add_right _ _
  rw [toWireWithin_eq, fit, r.length_complete]
  by_cases enough : Wire.headerLength + r.body.length + r.ending.length ≤ clampLimit limit
  · rw [if_pos enough, if_neg (by omega), if_neg Bool.false_ne_true, if_neg (by omega),
      if_neg (by omega)]
  · rw [if_neg enough, if_neg Bool.false_ne_true, if_pos (Nat.lt_of_not_le enough)]
    simp only [ite_self]

/-- Writing within a limit, for a reply that is short enough for a message. -/
theorem toWireWithin_of_length_complete {r : Reply} (short : r.complete.length ≤ 65535)
    (limit : Nat) :
    r.toWireWithin limit =
      if r.complete.length ≤ clampLimit limit then .ok r.complete else .error .tooBig :=
  toWireWithin_of_fits (fits_of_length_complete short) limit

/-- What is written within a limit is the complete reply, and within the limit. -/
theorem toWireWithin_ok {r : Reply} {limit : Nat} {wire : Bytes}
    (written : r.toWireWithin limit = .ok wire) :
    wire = r.complete ∧ wire.length ≤ clampLimit limit := by
  cases fit : ((r.answer.map (·.records)).getD []).any (!Wire.fits ·) with
  | false =>
    rw [toWireWithin_of_fits fit] at written
    split at written
    next short =>
      cases written
      exact ⟨rfl, short⟩
    next => cases written
  | true =>
    rw [toWireWithin_eq, fit] at written
    split at written <;> cases written

/-! ### Replies without their answer -/

/-- The octets of a reply to a query that has no answer: header, questions and extension. -/
def echoLength (q : Query) : Nat := (toQuery q).complete.length

/-- A longer body is padded to no less than a shorter one. -/
theorem length_extension_mono {m n : Nat} (le : m ≤ n) (e : ReplyExtension) :
    m + (Wire.extension m e).length ≤ n + (Wire.extension n e).length := by
  cases padded : e.padded with
  | false =>
    simp only [Wire.extension, padded, Bool.false_eq_true, if_false, List.length_append]
    exact Nat.add_le_add_right le _
  | true =>
    simp only [Wire.extension, padded, if_true, List.length_append, List.length_replicate]
    change m + (1 + 2 + 2 + 4 + 2 + (2 + 2 + _)) ≤ n + (1 + 2 + 2 + 4 + 2 + (2 + 2 + _))
    simp only [Wire.block, Wire.extensionLength, Wire.optionLength]
    omega

/-- The answer only makes a reply longer. -/
theorem echoLength_le {r : Reply} {q : Query} (questions : r.questions = q.questions)
    (extension : r.extension = (toQuery q).extension) : echoLength q ≤ r.complete.length := by
  have same : (toQuery q).questionOctets = r.questionOctets := by
    rw [questionOctets, questionOctets, questions]
    rfl
  have shorter : (toQuery q).body.length ≤ r.body.length := by
    rw [body, body, List.length_append, List.length_append, same]
    exact Nat.add_le_add_left (Nat.zero_le _) _
  rw [echoLength, length_complete, length_complete, ending, ending, extension]
  cases (toQuery q).extension with
  | none => exact Nat.add_le_add_right (Nat.add_le_add_left shorter _) _
  | some e => exact length_extension_mono (Nat.add_le_add_left shorter _) e

theorem length_complete_of_bare {r : Reply} {q : Query} (questions : r.questions = q.questions)
    (extension : r.extension = (toQuery q).extension) (bare : r.answer = none) :
    r.complete.length = echoLength q := by
  have same : r.body = (toQuery q).body := by
    rw [body, body, answerOctets, answerOctets, bare, questionOctets, questionOctets, questions]
    rfl
  rw [echoLength, length_complete, length_complete, ending, ending, extension, same]

end Reply

namespace Wire

/-- Pointers only make names shorter. -/
theorem length_labels (offset : Nat) (table : Suffixes) (ls : List Label) :
    (labels offset table ls).1.length ≤ Name.wireLength ls true := by
  induction ls generalizing offset table with
  | nil => exact Nat.le_refl 1
  | cons l ls ih =>
    have rest : Name.wireLength (l :: ls) true = l.length + 1 + Name.wireLength ls true := rfl
    have root : 1 ≤ Name.wireLength ls true := by
      cases ls with
      | nil => exact Nat.le_refl 1
      | cons => simp [Name.wireLength]; omega
    unfold labels
    split
    · simp only [two, List.length_cons, List.length_nil]
      omega
    · have written := ih (offset + 1 + l.length) (if offset ≤ lastTarget then
        (Name.lowerLabels (l :: ls), offset) :: table else table)
      simp only [counted, List.length_append, List.length_cons]
      omega

theorem length_question {q : Question} (absolute : q.name.absolute = true) (offset : Nat)
    (table : Suffixes) : (question offset table q).1.length ≤ 259 := by
  have name := length_labels offset table q.name.labels
  have size := q.name.wire_size
  rw [absolute] at size
  simp only [question, Wire.name, two, List.length_append, List.length_cons, List.length_nil]
  omega

end Wire

namespace Reply

/-- One question leaves room in the first block. -/
theorem echoLength_of_single {q : Query} (absolute : ∀ question ∈ q.questions,
    question.name.absolute = true) (single : q.questions.length ≤ 1) :
    echoLength q ≤ Wire.block := by
  have questions : (toQuery q).body.length ≤ 259 := by
    rw [body, List.length_append]
    change (Wire.sequence Wire.question Wire.headerLength [] q.questions).1.length + 0 ≤ 259
    match asked : q.questions with
    | [] => exact Nat.zero_le _
    | [question] =>
      have size := Wire.length_question (absolute question (by simp [asked])) Wire.headerLength []
      simpa [Wire.sequence] using size
    | _ :: _ :: _ =>
      rw [asked] at single
      simp at single
  have header : Wire.headerLength = 12 := rfl
  rw [echoLength, length_complete, ending]
  cases (toQuery q).extension with
  | none =>
    simp only [Wire.block, List.length_nil]
    omega
  | some e =>
    refine Nat.le_trans (length_extension_mono (n := 271) (by omega) e) ?_
    -- Behind 271 octets the extension fits with its padding option, which fills the block.
    cases padded : e.padded <;> simp only [Wire.extension, padded] <;> decide +kernel

end Reply

end ChallengeDns
