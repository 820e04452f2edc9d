import Mathlib
import ChallengeDns.Proofs.Answer.Addresses
import ChallengeDns.Proofs.Text.Decoding

/-!
# Character strings

The record of a text holds its UTF-8 in character strings of 255 octets, the last one with what is
left.  Wherever the cuts fall, the octets give the text back, so texts are told apart by their
records, and records are kept once each as the texts are.
-/
namespace ChallengeDns

theorem Text.encode?_injective {t u : Text} {b : Bytes} (encoded : t.encode? = some b)
    (encoded' : u.encode? = some b) : t = u :=
  Except.ok.inj ((decode_ok_iff.mpr encoded).symm.trans (decode_ok_iff.mpr encoded'))

namespace Authority

/-! ### Cutting octets -/

/-- Pieces that hold octets: each but the last one is full, and one is empty only if there are no
octets. -/
structure Holds (size : Nat) (b : Bytes) (pieces : List Bytes) : Prop where
  whole : pieces.flatten = b
  bounded : ∀ piece ∈ pieces, piece.length ≤ size
  full : ∀ piece ∈ pieces.dropLast, piece.length = size
  filled : [] ∈ pieces → b = []
  one : pieces ≠ []

section Pieces

variable {size : Nat} (positive : 0 < size)

theorem full_of_mem_dropLast (b : Bytes) :
    ∀ piece ∈ (chunks size positive b).dropLast, piece.length = size := by
  induction b using chunks.induct size positive with
  | case1 b short =>
    rw [chunks, if_pos short, List.dropLast_singleton]
    exact List.forall_mem_nil _
  | case2 b long ih =>
    rw [chunks, if_neg long, List.dropLast_cons_of_ne_nil (chunks_ne_nil _ _ _),
      List.forall_mem_cons]
    exact ⟨List.length_take_of_le (Nat.le_of_not_le long), ih⟩

theorem filled_of_mem_chunks {b : Bytes} (empty : [] ∈ chunks size positive b) : b = [] := by
  induction b using chunks.induct size positive with
  | case1 b short =>
    rw [chunks, if_pos short] at empty
    exact (List.mem_singleton.mp empty).symm
  | case2 b long ih =>
    rw [chunks, if_neg long, List.mem_cons] at empty
    rcases empty with first | later
    · have taken := congrArg List.length first
      rw [List.length_nil, List.length_take] at taken
      omega
    · exact absurd (List.drop_eq_nil_iff.mp (ih later)) long

theorem holds_chunks (b : Bytes) : Holds size b (chunks size positive b) where
  whole := chunks_flatten size positive b
  bounded := length_le_of_mem_chunks size positive b
  full := full_of_mem_dropLast positive b
  filled := filled_of_mem_chunks positive
  one := chunks_ne_nil size positive b

/-- There is one way to cut octets into pieces. -/
theorem Holds.eq_chunks {b : Bytes} {pieces : List Bytes} (holds : Holds size b pieces) :
    pieces = chunks size positive b := by
  induction pieces generalizing b with
  | nil => exact absurd rfl holds.one
  | cons piece pieces ih =>
    obtain ⟨rfl, bounded, full, filled, -⟩ := holds
    rw [List.flatten_cons] at filled ⊢
    cases pieces with
    | nil =>
      rw [List.flatten_nil, List.append_nil, chunks, if_pos (bounded piece List.mem_cons_self)]
    | cons next pieces =>
      -- A full piece is not empty, so there are octets and the next piece is not empty either.
      have first : piece.length = size := full piece List.mem_cons_self
      have some : piece ++ (next :: pieces).flatten ≠ [] := by
        rintro none
        rw [(List.append_eq_nil_iff.mp none).1, List.length_nil] at first
        omega
      have nonempty : ∀ p ∈ piece :: next :: pieces, p ≠ [] := by
        rintro _ member rfl
        exact some (filled member)
      have behind : 0 < (next :: pieces).flatten.length := by
        have start := List.length_pos_of_ne_nil (nonempty next (by simp))
        rw [List.flatten_cons, List.length_append]
        omega
      have rest : Holds size (next :: pieces).flatten (next :: pieces) :=
        ⟨rfl, fun p member => bounded p (List.mem_cons_of_mem _ member),
          fun p member => full p (List.mem_cons_of_mem _ member),
          fun empty => absurd rfl (nonempty [] (List.mem_cons_of_mem _ empty)),
          List.cons_ne_nil _ _⟩
      rw [chunks, if_neg (by rw [List.length_append]; omega), List.take_left' first,
        List.drop_left' first, ← ih rest]

end Pieces

/-! ### Records of texts -/

theorem eq_of_textRecord {v w : TxtValue} {d : RecordData} (made : textRecord v = .ok d)
    (made' : textRecord w = .ok d) : v = w := by
  obtain ⟨t, b, rfl, encoded, rfl⟩ := textRecord_ok made
  obtain ⟨u, c, rfl, encoded', same⟩ := textRecord_ok made'
  have octets := congrArg List.flatten (RecordData.txt.inj same)
  rw [strings, strings, chunks_flatten, chunks_flatten] at octets
  subst octets
  rw [Text.encode?_injective encoded encoded']

theorem textRecord_told {v w : TxtValue} {d e : RecordData} (made : textRecord v = .ok d)
    (made' : textRecord w = .ok e) : v = w ↔ d = e := by
  constructor
  · rintro rfl
    exact Except.ok.inj (made.symm.trans made')
  · rintro rfl
    exact eq_of_textRecord made made'

theorem same_textRecord_iff {v w : TxtValue} {d e : RecordData} (made : textRecord v = .ok d)
    (made' : textRecord w = .ok e) : d.same e = true ↔ v = w := by
  obtain ⟨_, _, _, _, rfl⟩ := textRecord_ok made
  rw [RecordData.IsText.isPlain ⟨_, rfl⟩ e, beq_iff_eq, textRecord_told made made', eq_comm]

theorem dedupe_textRecords {values : List TxtValue} {records : List RecordData}
    (made : values.mapM textRecord = .ok records) :
    values.eraseDups.mapM textRecord = .ok (RecordData.dedupe records) := by
  have related := mapM_except_ok.mp made
  -- There are no names in these records, so none is spelled in two ways.
  have plain : ∀ d ∈ records, d.IsPlain := by
    intro d member
    obtain ⟨v, -, record⟩ := mem_mapM_except made member
    obtain ⟨_, _, _, _, rfl⟩ := textRecord_ok record
    exact RecordData.IsText.isPlain ⟨_, rfl⟩
  rw [RecordData.dedupe_of_plain plain]
  exact mapM_except_ok.mpr (rel_eraseDups (fun _ _ _ _ => textRecord_told) related)

theorem ending_txt {a : Authority} {b : Backing} {q : Query} {question : Question}
    {values : List TxtValue} {records : List RecordData} (poses : Poses q question)
    (asked : question.kind = .txt) (eligible : a.access.isEligible question.name = true)
    (held : b.values question.name = .ok values) (made : values.mapM textRecord = .ok records) :
    a.ending b q = (.authoritative, records) := by
  rw [ending_of_poses poses, answerQuestion_txt asked, answerText, if_pos eligible, held]
  simp only [bind, Except.bind, made]
  rfl

/-- Nothing is lost in records.  Every text with octets has a record whose character strings hold
them in the one way there is, and only the empty text has an empty string.  Records are the same
exactly if the values are.  So an answer keeps the record of each value, once and in the order in
which the values come first. -/
theorem textRecord_lossless :
    (∀ (t : Text) (b : Bytes), t.encode? = some b →
      ∃ pieces, textRecord (.text t) = .ok (.txt pieces) ∧ Holds 255 b pieces ∧
        ([] ∈ pieces → t = []) ∧ ∀ others, Holds 255 b others → others = pieces) ∧
    (∀ v w : TxtValue, Encodes v → Encodes w →
      ∃ d e, textRecord v = .ok d ∧ textRecord w = .ok e ∧ (d.same e = true ↔ v = w)) ∧
    ∀ values : List TxtValue, (∀ v ∈ values, Encodes v) →
      ∃ records, values.mapM textRecord = .ok records ∧
        values.eraseDups.mapM textRecord = .ok (RecordData.dedupe records) ∧
        ∀ (a : Authority) (b : Backing) (q : Query) (question : Question), Poses q question →
          question.kind = .txt → a.access.isEligible question.name = true →
          b.values question.name = .ok values →
          (a.respond b q).1.records = RecordData.dedupe records := by
  refine ⟨fun t b encoded => ?_, fun v w encodes encodes' => ?_, fun values encode => ?_⟩
  · have positive : 0 < 255 := by decide
    have made : textRecord (.text t) = .ok (.txt (strings b)) := by
      simp only [textRecord, encoded]
    refine ⟨strings b, made, holds_chunks positive b, fun empty => ?_,
      fun others holds => holds.eq_chunks positive⟩
    -- Only the empty text has an empty piece.
    cases filled_of_mem_chunks positive empty
    exact Text.encode?_injective encoded rfl
  · obtain ⟨d, made, -⟩ := textRecord_of_encodes encodes
    obtain ⟨e, made', -⟩ := textRecord_of_encodes encodes'
    exact ⟨d, e, made, made', same_textRecord_iff made made'⟩
  · obtain ⟨records, made, -⟩ := mapM_textRecord encode
    refine ⟨records, made, dedupe_textRecords made, ?_⟩
    intro a b q question poses asked eligible held
    exact records_of_ending poses (ending_txt poses asked eligible held made)

/-- The cut falls between the two octets of the last character. -/
def wideText : Text := List.replicate 128 (.scalar 'é')

/-- A text that is there twice, and one that differs from it in the last character. -/
def repeatedTexts : List Text := [wideText, wideText.dropLast ++ [.scalar 'e'], wideText]

theorem textRecord_lossless_sample :
    let values := repeatedTexts.map TxtValue.text
    let a : Authority := ⟨sampleZone, ⟨[], []⟩, sampleAccess, ⟨⟨2024, 1, 1⟩, 0, 0, 0, 0, none⟩⟩
    let b : Backing := ⟨fun _ => .ok values, .error (.outside [])⟩
    (∃ octets pieces, wideText.encode? = some octets ∧
      textRecord (.text wideText) = .ok (.txt pieces) ∧ Holds 255 octets pieces) ∧
    (values.take 2).mapM textRecord =
      .ok (a.respond b ⟨1, 0, [⟨sampleName, .txt, 1⟩], none⟩).1.records := by
  intro values a b
  have scalars : ∀ t ∈ repeatedTexts, t.chars?.isSome = true := by decide +kernel
  obtain ⟨octets, encoded⟩ := Text.exists_encode (scalars wideText List.mem_cons_self)
  have encode : ∀ v ∈ values, Encodes v := by
    refine List.forall_mem_map.mpr fun t member => ?_
    obtain ⟨b, encoded⟩ := Text.exists_encode (scalars t member)
    exact ⟨t, b, rfl, encoded⟩
  have eligible : a.access.isEligible sampleName = true := by decide +kernel
  have once : values.eraseDups = values.take 2 := by decide +kernel
  obtain ⟨cut, -, kept⟩ := textRecord_lossless
  obtain ⟨pieces, made, holds, -⟩ := cut wideText octets encoded
  obtain ⟨records, -, deduped, answered⟩ := kept values encode
  rw [once, ← answered a b _ _ (poses_only ⟨sampleName, .txt, 1⟩) rfl eligible rfl] at deduped
  exact ⟨⟨octets, pieces, encoded, made, holds⟩, deduped⟩

end Authority

end ChallengeDns
