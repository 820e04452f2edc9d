import Mathlib
import ChallengeDns.Proofs.Answer.Origin
import ChallengeDns.Proofs.Message.Parsing

/-!
# The envelope of a reply

Every query gets one reply, whatever it asks and whatever the store and the clock do.  The reply
repeats the query's header and questions, reports one of four results, and holds records only if
there is something to say.  A question ends in few ways; all of the envelope follows from them.
-/
namespace ChallengeDns

namespace RecordData

theorem same_refl (d : RecordData) : d.same d = true := by
  cases d <;> simp [same, Name.same_refl]

/-- Each record is kept, or one that holds the same data. -/
theorem exists_same_of_mem {ds : List RecordData} {d : RecordData} (member : d ∈ ds) :
    ∃ e ∈ dedupe ds, e.same d = true := by
  induction ds using List.reverseRecOn with
  | nil => cases member
  | append_singleton ds c ih =>
    rw [dedupe_concat]
    rcases List.mem_append.mp member with before | last
    · obtain ⟨e, kept, same⟩ := ih before
      split
      · exact ⟨e, kept, same⟩
      · exact ⟨e, List.mem_append_left _ kept, same⟩
    · cases List.mem_singleton.mp last
      split
      next known =>
        obtain ⟨e, kept, same⟩ := List.any_eq_true.mp known
        exact ⟨e, kept, same⟩
      next => exact ⟨d, by simp, same_refl d⟩

/-- No two kept records hold the same data. -/
theorem dedupe_pairwise (ds : List RecordData) :
    (dedupe ds).Pairwise fun d e => d.same e = false := by
  induction ds using List.reverseRecOn with
  | nil => exact .nil
  | append_singleton ds c ih =>
    rw [dedupe_concat]
    split
    next => exact ih
    next new =>
      rw [List.pairwise_append]
      refine ⟨ih, List.pairwise_singleton _ _, ?_⟩
      intro d kept e last
      cases List.mem_singleton.mp last
      by_contra same
      apply new
      exact List.any_eq_true.mpr ⟨d, kept, Bool.eq_true_of_not_eq_false same⟩

/-- The type of a record. -/
def kind : RecordData → RecordType
  | .a _ => .a
  | .aaaa _ => .aaaa
  | .ns _ => .ns
  | .soa .. => .soa
  | .txt _ => .txt

end RecordData

/-- Two backings differ at most in what they fail with. -/
structure Backing.Alike (b c : Backing) : Prop where
  values : ∀ n, (b.values n).toOption = (c.values n).toOption
  now : b.now.toOption = c.now.toOption

namespace Authority

/-- What a question can end in. -/
inductive Ends (question : Question) : Known → Prop
  | authoritative {ds : List RecordData} (known : question.kind ∈ answered)
      (kinds : ∀ d ∈ ds, d.kind = question.kind) : Ends question (.authoritative, ds)
  | notFound (known : question.kind ∈ answered) : Ends question (.notFound, [])
  | notImplemented (unknown : question.kind ∉ answered) : Ends question (.notImplemented, [])

section Questions

variable {a : Authority} {b : Backing} {question : Question} {known : Known}

theorem textRecord_kind {v : TxtValue} {d : RecordData} (made : textRecord v = .ok d) :
    d.kind = .txt := by
  obtain ⟨_, _, _, _, rfl⟩ := textRecord_ok made
  rfl

theorem answerText_ends (asked : question.kind = .txt)
    (found : a.answerText b question.name = .ok known) : Ends question known := by
  have answers : question.kind ∈ answered := by simp [asked, answered]
  unfold answerText at found
  split at found
  · obtain ⟨values, _, found⟩ := bind_except_ok.mp found
    obtain ⟨records, made, found⟩ := bind_except_ok.mp found
    cases found
    apply Ends.authoritative answers
    intro d member
    obtain ⟨v, _, record⟩ := mem_mapM_except made member
    rw [asked, textRecord_kind record]
  · cases found
    exact .notFound answers

theorem answerStart_ends (asked : question.kind = .soa)
    (found : a.answerStart b question.name = .ok known) : Ends question known := by
  have answers : question.kind ∈ answered := by simp [asked, answered]
  unfold answerStart at found
  split at found
  · obtain ⟨contact, _, found⟩ := bind_except_ok.mp found
    obtain ⟨now, _, found⟩ := bind_except_ok.mp found
    obtain ⟨serial, _, found⟩ := bind_except_ok.mp found
    cases found
    apply Ends.authoritative answers
    intro d member
    cases List.mem_singleton.mp member
    exact asked.symm
  · cases found
    exact .notFound answers

theorem answerAddresses_ends {record : Address → Except AnswerError (Option RecordData)}
    (answers : question.kind ∈ answered)
    (kinds : ∀ address d, record address = .ok (some d) → d.kind = question.kind)
    (found : a.answerAddresses question.name record = .ok known) : Ends question known := by
  have records := answerAddresses_ok found
  unfold answerAddresses at found
  split at found
  · cases found
    exact .notFound answers
  · obtain ⟨made, _, found⟩ := bind_except_ok.mp found
    cases found
    apply Ends.authoritative answers
    intro d member
    obtain ⟨_, address, _, _, step⟩ := records d member
    exact kinds address d step

theorem answerNameServers_ends (asked : question.kind = .ns) :
    Ends question (a.answerNameServers question.name) := by
  have answers : question.kind ∈ answered := by simp [asked, answered]
  unfold answerNameServers
  split
  · exact .notFound answers
  · apply Ends.authoritative answers
    intro d member
    obtain ⟨target, _, rfl⟩ := List.mem_map.mp member
    exact asked.symm

theorem v4Record_kind (address : Address) (d : RecordData)
    (made : v4Record address = .ok (some d)) : d.kind = .a := by
  cases address with
  | v4 bits =>
    cases (v4Record_v4 bits).symm.trans made
    rfl
  | v6 bits zone => cases made

theorem v6Record_kind (address : Address) (d : RecordData)
    (made : v6Record address = .ok (some d)) : d.kind = .aaaa := by
  cases address with
  | v4 bits => cases made
  | v6 bits zone =>
    cases zone with
    | none =>
      cases (v6Record_v6 bits).symm.trans made
      rfl
    | some zone => cases (v6Record_zoned bits zone).symm.trans made

/-- A question that has an answer ends in one of these ways. -/
theorem answerQuestion_ends (found : a.answerQuestion b question = .ok known) :
    Ends question known := by
  rcases kind_cases question.kind with asked | asked | asked | asked | asked | unknown
  · rw [answerQuestion_txt asked] at found
    exact answerText_ends asked found
  · rw [answerQuestion_soa asked] at found
    exact answerStart_ends asked found
  · rw [answerQuestion_a asked] at found
    exact answerAddresses_ends (by simp [asked, answered]) (asked ▸ v4Record_kind) found
  · rw [answerQuestion_aaaa asked] at found
    exact answerAddresses_ends (by simp [asked, answered]) (asked ▸ v6Record_kind) found
  · rw [answerQuestion_ns asked] at found
    cases found
    exact answerNameServers_ends asked
  · rw [answerQuestion_other unknown] at found
    cases found
    exact .notImplemented unknown

end Questions

/-! ### Queries -/

section Queries

variable (a : Authority) (b : Backing) (q : Query)

/-- The server does not do what a query asks for. -/
def Refused (q : Query) : Prop := q.opcode ≠ .query ∨ q.isReply = true

theorem lookUp_refused {q : Query} (refused : Refused q) :
    a.lookUp b q = .ok (.notImplemented, []) := by
  unfold lookUp
  rw [if_pos]
  simpa [Refused] using refused

theorem lookUp_standard {q : Query} (standard : ¬Refused q) :
    a.lookUp b q = match q.questions with
      | [] => .error .noQuestion
      | question :: _ => a.answerQuestion b question := by
  have answers : ¬(decide (q.opcode ≠ .query) || q.isReply) = true := by
    simpa [Refused] using standard
  exact if_neg answers

/-- How the answering of a query ends: an error is not told to the client. -/
def ending : Known := (a.lookUp b q).toOption.getD (.serverError, [])

theorem respond_reply : (a.respond b q).1 = replyWith q (a.ending b q) := by
  unfold respond ending
  cases a.lookUp b q <;> rfl

/-- What a query can end in. -/
inductive Ending (q : Query) : Known → Prop
  | refused (refused : Refused q) : Ending q (.notImplemented, [])
  | failed (standard : ¬Refused q)
      (answers : ∀ question more, q.questions = question :: more → question.kind ∈ answered) :
      Ending q (.serverError, [])
  | ended {question : Question} {more : List Question} {known : Known} (standard : ¬Refused q)
      (questions : q.questions = question :: more) (ends : Ends question known) : Ending q known

theorem ending_cases : Ending q (a.ending b q) := by
  unfold ending
  by_cases refused : Refused q
  · rw [lookUp_refused a b refused]
    exact .refused refused
  rw [lookUp_standard a b refused]
  cases questions : q.questions with
  | nil =>
    apply Ending.failed refused
    simp [questions]
  | cons question more =>
    dsimp only
    cases found : a.answerQuestion b question with
    | ok known => exact .ended refused questions (answerQuestion_ends found)
    | error e =>
      apply Ending.failed refused
      intro first others same
      cases questions.symm.trans same
      -- Nothing can go wrong with other types.
      by_contra unknown
      rw [answerQuestion_other unknown] at found
      cases found

end Queries

/-! ### What goes wrong outside -/

section Alike

variable (a : Authority) {b c : Backing}

theorem answerText_alike (alike : b.Alike c) (n : Name) :
    (a.answerText b n).toOption = (a.answerText c n).toOption := by
  unfold answerText
  split
  · rw [toOption_bind, toOption_bind, alike.values n]
  · rfl

theorem answerStart_alike (alike : b.Alike c) (n : Name) :
    (a.answerStart b n).toOption = (a.answerStart c n).toOption := by
  unfold answerStart
  split
  · rw [toOption_bind, toOption_bind]
    -- The contact is read before the clock is asked.
    refine congrArg _ (funext fun contact => ?_)
    rw [toOption_bind, toOption_bind, alike.now]
  · rfl

theorem answerQuestion_alike (alike : b.Alike c) (question : Question) :
    (a.answerQuestion b question).toOption = (a.answerQuestion c question).toOption := by
  rcases kind_cases question.kind with asked | asked | asked | asked | asked | unknown
  · rw [answerQuestion_txt asked, answerQuestion_txt asked, answerText_alike a alike]
  · rw [answerQuestion_soa asked, answerQuestion_soa asked, answerStart_alike a alike]
  · rw [answerQuestion_a asked, answerQuestion_a asked]
  · rw [answerQuestion_aaaa asked, answerQuestion_aaaa asked]
  · rw [answerQuestion_ns asked, answerQuestion_ns asked]
  · rw [answerQuestion_other unknown, answerQuestion_other unknown]

/-- A query ends in the same way whatever the store or the clock fails with. -/
theorem ending_alike (alike : b.Alike c) (q : Query) : a.ending b q = a.ending c q := by
  unfold ending
  by_cases refused : Refused q
  · rw [lookUp_refused a b refused, lookUp_refused a c refused]
  · rw [lookUp_standard a b refused, lookUp_standard a c refused]
    cases q.questions with
    | nil => rfl
    | cons question more =>
      dsimp only
      rw [answerQuestion_alike a alike question]

end Alike

/-! ### The envelope -/

/-- An answer is a set of records for the first question. -/
structure Answers (q : Query) (answer : Answer) : Prop where
  question : ∃ question more, q.questions = question :: more ∧ answer.owner = question.name ∧
    answer.kind = question.kind ∧ ∀ d ∈ answer.records, d.kind = question.kind
  filled : answer.records ≠ []
  distinct : answer.records.Pairwise fun d e => d.same e = false
  /-- Each record is written with the class of the internet, and may be kept for one second. -/
  labelled : ∀ d ∈ answer.records, ∀ offset table, ∃ content,
    (Wire.record answer.owner answer.kind offset table d).1 =
      (Wire.name offset table answer.owner).1 ++ (Wire.two answer.kind.code.toNat ++
        ([0, 1] ++ ([0, 0, 0, 1] ++ content)))

/-- What the header and the sections of a reply say. -/
structure Envelope (q : Query) (r : Reply) : Prop where
  id : r.id = q.id
  opcode : Opcode.ofFlags r.flags = q.opcode
  questions : r.questions = q.questions
  isReply : (r.flags &&& 0x8000 != 0) = true
  recursionDesired : (r.flags &&& 0x0100 != 0) = q.recursionDesired
  code : r.flags &&& 15 = r.code.code ∧
    r.code ∈ [ResponseCode.noError, .noSuchName, .notImplemented, .serverFailure]
  authoritative : (r.flags &&& 0x0400 != 0) = true ↔ r.code = .noError ∨ r.code = .noSuchName
  answer : ∀ answer, r.answer = some answer → r.code = .noError ∧ Answers q answer
  notImplemented : r.code = .notImplemented ↔ q.opcode ≠ .query ∨ q.isReply = true ∨
    ∃ question more, q.questions = question :: more ∧
      question.kind ∉ ([.txt, .soa, .a, .aaaa, .ns] : List RecordType)

section Replies

variable {q : Query} {known : Known}

theorem code_mem (o : Outcome) :
    o.code ∈ [ResponseCode.noError, .noSuchName, .notImplemented, .serverFailure] := by
  cases o <;> decide

theorem isAuthoritative_iff (o : Outcome) :
    o.isAuthoritative = true ↔ o.code = .noError ∨ o.code = .noSuchName := by
  cases o <;> decide

/-- Only an authoritative ending with records gives an answer. -/
theorem replyWith_answer {answer : Answer} (told : (replyWith q known).answer = some answer) :
    ∃ d ds question more, known = (.authoritative, d :: ds) ∧ q.questions = question :: more ∧
      answer = ⟨question.name, question.kind, RecordData.dedupe (d :: ds)⟩ := by
  unfold replyWith at told
  dsimp only at told
  split at told
  next d ds question more questions =>
    cases told
    exact ⟨d, ds, question, more, rfl, questions, rfl⟩
  next => cases told

theorem answers_of_ends {question : Question} {more : List Question} {d : RecordData}
    {ds : List RecordData} (questions : q.questions = question :: more)
    (ends : Ends question (.authoritative, d :: ds)) :
    Answers q ⟨question.name, question.kind, RecordData.dedupe (d :: ds)⟩ where
  question := by
    refine ⟨question, more, questions, rfl, rfl, ?_⟩
    intro e member
    cases ends with
    | authoritative _ kinds => exact kinds e (RecordData.mem_of_mem_dedupe member)
  filled := by
    obtain ⟨e, kept, _⟩ := RecordData.exists_same_of_mem (List.mem_cons_self (a := d) (l := ds))
    exact List.ne_nil_of_mem kept
  distinct := RecordData.dedupe_pairwise _
  labelled := by
    intro e _ offset table
    exact ⟨_, by simp only [Wire.record, List.append_assoc]; rfl⟩

theorem notImplemented_iff (ending : Ending q known) : known.1.code = .notImplemented ↔
    Refused q ∨ ∃ question more, q.questions = question :: more ∧ question.kind ∉ answered := by
  cases ending with
  | refused refused => exact iff_of_true rfl (Or.inl refused)
  | failed standard answers =>
    apply iff_of_false (by decide)
    rintro (refused | ⟨question, more, questions, unknown⟩)
    · exact standard refused
    · exact unknown (answers question more questions)
  | @ended question more _ standard questions ends =>
    have only : ∀ first others, q.questions = first :: others → first = question := by
      intro first others same
      cases questions.symm.trans same
      rfl
    cases ends with
    | notImplemented unknown => exact iff_of_true rfl (Or.inr ⟨_, _, questions, unknown⟩)
    | authoritative answers _ | notFound answers =>
      apply iff_of_false (by simp [Outcome.code])
      rintro (refused | ⟨first, others, same, unknown⟩)
      · exact standard refused
      · exact unknown (only first others same ▸ answers)

/-- What follows for the reply from what its query ends in. -/
theorem envelope_of_ending (ending : Ending q known) : Envelope q (replyWith q known) := by
  have fields := (replyWith q known).flags_fields q.opcode_lt
  obtain ⟨opcode, isReply, authoritative, _, recursionDesired, code⟩ := fields
  constructor
  · rfl
  · exact opcode
  · rfl
  · exact isReply
  · exact recursionDesired
  · exact ⟨code, code_mem known.1⟩
  · rw [authoritative]
    exact isAuthoritative_iff known.1
  · intro answer told
    obtain ⟨d, ds, question, more, rfl, questions, rfl⟩ := replyWith_answer told
    cases ending with
    | ended standard asked ends =>
      cases questions.symm.trans asked
      exact ⟨rfl, answers_of_ends questions ends⟩
  · rw [← or_assoc]
    exact notImplemented_iff ending

end Replies

/-- Whatever the store and the clock do, the reply to a query has the envelope of the query, and it
does not show what they fail with. -/
theorem respond_envelope (a : Authority) (b : Backing) (q : Query) :
    Envelope q (a.respond b q).1 ∧ ∀ c, b.Alike c → (a.respond c q).1 = (a.respond b q).1 := by
  constructor
  · rw [respond_reply]
    exact envelope_of_ending (ending_cases a b q)
  · intro c alike
    rw [respond_reply, respond_reply, ending_alike a alike q]

/-- A store and a clock that do not work. -/
def brokenBacking (e : AnswerError) : Backing := ⟨fun _ => .error e, .error e⟩

/-- An eligible name is asked for while nothing works; the client is not told what is wrong. -/
theorem respond_envelope_sample :
    let a : Authority := ⟨sampleZone, ⟨[], []⟩, sampleAccess, ⟨⟨2024, 1, 1⟩, 0, 0, 0, 0, none⟩⟩
    let q : Query := ⟨1, 0x0100, [⟨sampleName, .txt, 1⟩, ⟨sampleName, .a, 3⟩], none⟩
    let r := (a.respond (brokenBacking (.outside "the disk is full")) q).1
    Envelope q r ∧ r.code = .serverFailure ∧ r.answer = none ∧
      (a.respond (brokenBacking (.clock .outOfRange)) q).1 = r := by
  intro a q r
  obtain ⟨envelope, same⟩ :=
    respond_envelope a (brokenBacking (.outside "the disk is full")) q
  have failed : r.code = .serverFailure := by decide +kernel
  have empty : r.answer = none := by decide +kernel
  exact ⟨envelope, failed, empty, same _ ⟨fun _ => rfl, rfl⟩⟩

end Authority

end ChallengeDns
