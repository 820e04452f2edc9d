import Mathlib
import ChallengeDns.Answer.Authority
import ChallengeDns.Proofs.Config.Acceptance
import ChallengeDns.Proofs.Update.History

/-!
# What is published is answered

A value travels from the subdomain of an update to the key of the store and comes back under the
spelling of a question.  Whatever happens between, the question for an eligible name is answered
with the newest two values that the updates and the initial store left there.
-/
namespace ChallengeDns

theorem Text.exists_encode {t : Text} (scalars : t.chars?.isSome = true) :
    ∃ b, t.encode? = some b := by
  induction t with
  | nil => exact ⟨[], rfl⟩
  | cons c t ih =>
    cases c with
    | surrogate half => simp [chars?, CodePoint.char?] at scalars
    | scalar c =>
      have rest : (chars? t).isSome = true := by
        unfold chars? at scalars ⊢
        rw [List.mapM_cons] at scalars
        cases tail : t.mapM CodePoint.char? <;> simp [tail, CodePoint.char?] at scalars ⊢
      obtain ⟨b, encoded⟩ := ih rest
      exact ⟨utf8Char c ++ b, by rw [encode?, encoded]; rfl⟩

namespace Authority

theorem chunks_flatten (size : Nat) (h : 0 < size) (b : Bytes) :
    (chunks size h b).flatten = b := by
  induction b using chunks.induct size h with
  | case1 b short =>
    rw [chunks, if_pos short]
    exact List.flatten_singleton
  | case2 b long ih =>
    rw [chunks, if_neg long, List.flatten_cons, ih]
    exact List.take_append_drop size b

def Encodes (v : TxtValue) : Prop := ∃ t b, v = .text t ∧ t.encode? = some b

/-- The record of a value: its character strings hold the UTF-8 of the value. -/
def IsRecordOf (v : TxtValue) (d : RecordData) : Prop :=
  ∃ t b strings, v = .text t ∧ t.encode? = some b ∧ d = .txt strings ∧ strings.flatten = b

theorem textRecord_of_encodes {v : TxtValue} (encodes : Encodes v) :
    ∃ d, textRecord v = .ok d ∧ IsRecordOf v d := by
  obtain ⟨t, b, rfl, encoded⟩ := encodes
  refine ⟨.txt (strings b), ?_, t, b, strings b, rfl, encoded, rfl, ?_⟩
  · simp only [textRecord, encoded]
  · exact chunks_flatten 255 (by decide) b

theorem mapM_textRecord {values : List TxtValue} (encode : ∀ v ∈ values, Encodes v) :
    ∃ records, values.mapM textRecord = .ok records ∧
      List.Forall₂ IsRecordOf values records := by
  induction values with
  | nil => exact ⟨[], rfl, .nil⟩
  | cons v values ih =>
    obtain ⟨d, made, record⟩ := textRecord_of_encodes (encode v List.mem_cons_self)
    obtain ⟨records, done, rest⟩ := ih fun w member => encode w (List.mem_cons_of_mem v member)
    exact ⟨d :: records, by rw [mapM_except_cons, made, done]; rfl, .cons record rest⟩

end Authority

/-! ### Records once each -/

namespace RecordData

/-- No record but the record itself holds the same data; names are what spells one thing in many
ways. -/
def IsPlain (d : RecordData) : Prop := ∀ e : RecordData, d.same e = (e == d)

/-- Plain records are kept as equal things are. -/
theorem dedupe_of_plain {ds : List RecordData} (plain : ∀ d ∈ ds, d.IsPlain) :
    dedupe ds = ds.eraseDups := by
  -- Both go through the list with what they have kept; one keeps it in order, one in reverse.
  have step : ∀ kept : List RecordData, (∀ d ∈ kept, d.IsPlain) →
      ds.foldl (fun kept d => if kept.any (·.same d) then kept else kept ++ [d]) kept.reverse =
        List.eraseDupsBy.loop (· == ·) ds kept := by
    induction ds with
    | nil => exact fun kept _ => rfl
    | cons d ds ih =>
      intro kept keptPlain
      have seen : kept.reverse.any (·.same d) = kept.any (d == ·) := by
        rw [List.any_reverse, Bool.eq_iff_iff, List.any_eq_true, List.any_eq_true]
        refine exists_congr fun c => and_congr_right fun member => ?_
        rw [keptPlain c member d]
      rw [List.foldl_cons, seen, List.eraseDupsBy.loop]
      have rest := ih fun e member => plain e (List.mem_cons_of_mem d member)
      cases known : kept.any (d == ·) with
      | true => simpa using rest kept keptPlain
      | false =>
        have extended := rest (d :: kept)
          (List.forall_mem_cons.mpr ⟨plain d List.mem_cons_self, keptPlain⟩)
        simpa using extended
  exact step [] nofun

def IsText (d : RecordData) : Prop := ∃ strings, d = .txt strings

theorem IsText.isPlain {d : RecordData} (text : d.IsText) : d.IsPlain := by
  obtain ⟨strings, rfl⟩ := text
  exact fun e => Bool.beq_comm

end RecordData

namespace Authority

theorem IsRecordOf.isText {v : TxtValue} {d : RecordData} (record : IsRecordOf v d) :
    d.IsText := by
  obtain ⟨_, _, strings, _, _, rfl, _⟩ := record
  exact ⟨strings, rfl⟩

theorem forall_isText {values : List TxtValue} {records : List RecordData}
    (made : List.Forall₂ IsRecordOf values records) : ∀ d ∈ records, d.IsText := by
  induction made with
  | nil => exact nofun
  | cons record _ ih => exact List.forall_mem_cons.mpr ⟨record.isText, ih⟩

/-! ### Questions for texts -/

/-- A query whose first question asks for the texts of a name. -/
structure AsksFor (q : Query) (n : Name) : Prop where
  standard : q.opcode = .query
  question : ∃ question more, q.questions = question :: more ∧ question.kind = .txt ∧
    question.name = n
  notReply : q.isReply = false

theorem isEligible_of_mem {ac : AccessControl} {e n : Name} (member : e ∈ ac.eligible)
    (equal : e.same n = true) : ac.isEligible n = true :=
  List.any_eq_true.mpr ⟨e, member, equal⟩

/-- A question for an eligible name ends in the records of the values of its key. -/
theorem lookUp_of_eligible {a : Authority} {s : Store} {q : Query} {n : Name} {k : Key}
    {records : List RecordData} (asks : AsksFor q n) (eligible : a.access.isEligible n = true)
    (key : Key.ofName n = .ok k) (made : (s.records.get k).mapM textRecord = .ok records) :
    a.lookUp (a.backing s) q = .ok (.authoritative, records) := by
  obtain ⟨question, more, questions, kind, rfl⟩ := asks.question
  unfold lookUp
  rw [if_neg (by simp [asks.standard, asks.notReply]), questions]
  simp only [answerQuestion, if_pos kind, answerText, if_pos eligible]
  -- The store is asked with the spelling of the question; the key forgets its case.
  have got : s.get (.name question.name) = s.records.get k := by
    simp [Store.get, Key.ofGiven, Name.Given.read, key]
  simp only [backing, got, bind, Except.bind, made]
  rfl

theorem answer_of_lookUp {a : Authority} {s : Store} {q : Query} {n : Name}
    {records : List RecordData} (asks : AsksFor q n)
    (found : a.lookUp (a.backing s) q = .ok (.authoritative, records)) :
    let r := (a.answer s q).1
    r.code = .noError ∧ r.authoritative = true ∧
      r.answer = if records = [] then none else some ⟨n, .txt, RecordData.dedupe records⟩ := by
  obtain ⟨question, more, questions, kind, rfl⟩ := asks.question
  unfold answer respond
  rw [found]
  refine ⟨rfl, rfl, ?_⟩
  cases records with
  | nil => rfl
  | cons d ds => simp [replyWith, questions, kind]

/-- What is published is answered.  An accepted configuration gives a zone and an access control.
With them, behind any run of updates, a question for an eligible name in any spelling is answered
with the records of the newest two of the values that the run published under it and the values
that were there before; the name is known even if there are none. -/
theorem published_answered {root : Value} (accepted : Config.Accepted root) :
    (∃ zone access, Config.Gives root zone access) ∧
    ∀ a : Authority, Config.Gives root a.zone a.access →
    ∀ s : Store, (∀ k, ∀ v ∈ s.records.get k, Encodes v) →
    ∀ (calls : List Call) (q : Query) (n e : Name), AsksFor q n → e ∈ a.access.eligible →
      e.same n = true →
    ∃ k, Key.ofName n = .ok k ∧
      let values := (Gateway.published a.access n s calls ++ s.records.get k).take 2
      let r := (a.answer (Gateway.run a.access s calls) q).1
      r.code = .noError ∧ r.authoritative = true ∧
      ∃ records, values.mapM textRecord = .ok records ∧ List.Forall₂ IsRecordOf values records ∧
        r.answer = if values = [] then none else some ⟨n, .txt, records.eraseDups⟩ := by
  refine ⟨accepted.gives, ?_⟩
  intro a gives s initial calls q n e asks member equal
  -- Eligible names are absolute and so is any spelling of them, thus the question has a key.
  have absolute : n.absolute = true :=
    (Name.same_absolute equal).symm.trans (gives.eligible_absolute member)
  obtain ⟨k, key⟩ := Key.ofName_of_absolute absolute
  -- One value without a record would turn the reply into a failure, so all of them are looked at.
  have encode : ∀ v ∈ (Gateway.run a.access s calls).records.get k, Encodes v := by
    refine Gateway.run_records_forall ?_ a.access s initial calls k
    intro t scalars
    obtain ⟨b, encoded⟩ := Text.exists_encode scalars
    exact ⟨t, b, rfl, encoded⟩
  obtain ⟨records, made, related⟩ := mapM_textRecord encode
  obtain ⟨code, authoritative, answered⟩ :=
    answer_of_lookUp asks (lookUp_of_eligible asks (isEligible_of_mem member equal) key made)
  rw [Gateway.run_get a.access s calls key] at made related
  refine ⟨k, key, code, authoritative, records, made, related, ?_⟩
  -- The reply branches on the records, the statement on the values; there is one for each.
  have empty : records = [] ↔
      (Gateway.published a.access n s calls ++ s.records.get k).take 2 = [] := by
    rw [← List.length_eq_zero_iff, ← related.length_eq, List.length_eq_zero_iff]
  rw [answered, RecordData.dedupe_of_plain fun d member => (forall_isText related d member).isPlain]
  simp only [empty]

/-! ### A client and a stranger -/

/-- A configuration with one client. -/
def sampleRoot : Value :=
  .mapping [
    (.text "zone", .mapping [(.text "domain", .ofText "example.com"),
      (.text "ns_domain", .ofText "ns.example.com"),
      (.text "ns_admin", .ofText "hostmaster@example.com")]),
    (.text "acl", .mapping [(.text "192.0.2.0/24", .list [.ofText "_acme-challenge"])])]

def sampleZone : ZoneSettings :=
  (Settings.readZone (Config.sectionOf sampleRoot "zone")).toOption.getD ⟨.root, .root, []⟩

def sampleAccess : AccessControl :=
  ((Settings.readGrants sampleRoot).toOption.bind fun grants =>
    (AccessControl.ofGrants sampleZone.domain grants).toOption).getD ⟨.root, [], []⟩

/-- The client's name in the spelling of a question. -/
def sampleName : Name := (Name.readAbsolute "_ACME-Challenge.Example.COM").toOption.getD .root

def sampleValue : Text := List.replicate 43 (.scalar 'A')

/-- The same update from the client and from a stranger. -/
def sampleCalls : List Call :=
  ["192.0.2.7", "198.51.100.7"].map fun (client : String) =>
    ⟨.ofText client, .text "_acme-challenge", .ofText sampleValue, ⟨.present, false⟩⟩

/-- The value of the client alone is answered. -/
theorem published_answered_sample :
    let a : Authority := ⟨sampleZone, ⟨[], []⟩, sampleAccess, ⟨⟨2024, 1, 1⟩, 0, 0, 0, 0, none⟩⟩
    let s := Gateway.run sampleAccess (.memory .empty) sampleCalls
    ∃ records, List.Forall₂ IsRecordOf [.text sampleValue] records ∧
      (a.answer s ⟨1, 0, [⟨sampleName, .txt, 1⟩], none⟩).1.answer =
        some ⟨sampleName, .txt, records.eraseDups⟩ := by
  intro a s
  have accepted : Config.Accepted sampleRoot := ⟨_, rfl⟩
  have gives : Config.Gives sampleRoot a.zone a.access := ⟨rfl, _, rfl, rfl⟩
  have asks : AsksFor ⟨1, 0, [⟨sampleName, .txt, 1⟩], none⟩ sampleName :=
    ⟨rfl, ⟨_, _, rfl, rfl, rfl⟩, rfl⟩
  have eligible : ∃ e ∈ a.access.eligible, e.same sampleName = true := by decide +kernel
  have values : Gateway.published a.access sampleName (.memory .empty) sampleCalls =
      [.text sampleValue] := by decide +kernel
  obtain ⟨e, member, equal⟩ := eligible
  obtain ⟨k, _, _, _, records, _, related, answered⟩ :=
    (published_answered accepted).2 a gives (.memory .empty) nofun sampleCalls _ sampleName e asks
      member equal
  rw [values] at related answered
  exact ⟨records, related, answered⟩

end Authority

end ChallengeDns
