import Mathlib
import ChallengeDns.Proofs.Name.Canonical
import ChallengeDns.Proofs.Update.Run

/-!
# The history of a name

Which values a run of updates leaves under a name, told from the calls and their results alone.  A
value counts when its call reported success and also when the call could only not save it, since it
is in memory then.  The store holds the newest two of these values and of those that were there
before.
-/
namespace ChallengeDns

/-- A value that the gateway lets through. -/
def TxtValue.IsChallenge (v : TxtValue) : Prop :=
  ∃ t, v = .text t ∧ Challenge.validate (.ofText t) = .ok t

/-- Whether the subdomain of a call qualifies to a name, in some case. -/
def Call.qualifiesTo (ac : AccessControl) (c : Call) (n : Name) : Bool :=
  match c.subdomain.read with
  | .error _ => false
  | .ok sub =>
    match ac.qualify sub with
    | .error _ => false
    | .ok m => m.same n

namespace Gateway

/-- Whether a call with this result has put its value into memory. -/
def counts : Except UpdateError Text → Bool
  | .ok _ => true
  | .error e => e.isPersistence

/-- The value that a call with this result has published under a name, if it has. -/
def contribution (ac : AccessControl) (n : Name) (c : Call) (result : Except UpdateError Text) :
    List TxtValue :=
  if c.qualifiesTo ac n && counts result then (c.txt.text?.map TxtValue.text).toList else []

/-- The values that a run has published under a name, newest first. -/
def published (ac : AccessControl) (n : Name) (s : Store) : List Call → List TxtValue
  | [] => []
  | c :: calls =>
    let a := perform ac s c
    published ac n a.state calls ++ contribution ac n c a.result

theorem contribution_of_publishes {ac : AccessControl} {n : Name} {k l : Key} {c : Call}
    {v : TxtValue} {result : Except UpdateError Text} (key : Key.ofName n = .ok k)
    (publishes : c.Publishes ac l v) (counted : counts result = true) :
    contribution ac n c result = if l = k then [v] else [] := by
  obtain ⟨sub, m, t, read, qualified, made, txt, rfl⟩ := publishes
  have names : c.qualifiesTo ac n = m.same n := by
    simp [Call.qualifiesTo, read, qualified]
  -- Keys are compared where the definition compares names without case.
  have equal := Key.eq_iff_same made key
  unfold contribution
  rw [names, counted, Bool.and_true, txt]
  by_cases same : m.same n = true
  · rw [if_pos same, if_pos (equal.mpr same)]
    rfl
  · rw [if_neg same, if_neg fun keys => same (equal.mp keys)]

/-- One call puts its contribution in front of what the name had. -/
theorem perform_get (ac : AccessControl) (s : Store) (c : Call) {n : Name} {k : Key}
    (key : Key.ofName n = .ok k) :
    (perform ac s c).state.records.get k =
      (contribution ac n c (perform ac s c).result ++ s.records.get k).take 2 := by
  -- Saved or not, the value is in front of the history of its key.
  have put : ∀ p : Publication ac c, counts (perform ac s c).result = true →
      (perform ac s c).state.records = s.records.put p.key (.text p.value) →
      (perform ac s c).state.records.get k =
        (contribution ac n c (perform ac s c).result ++ s.records.get k).take 2 := by
    intro p counted records
    rw [records, contribution_of_publishes key p.publishes counted]
    by_cases here : p.key = k
    · rw [if_pos here, here, Records.get_put]
      rfl
    · rw [if_neg here, Records.get_eq, (Records.pushed_put _ _ _).others k (Ne.symm here),
        ← Records.get_eq, List.nil_append, Records.take_get]
  rcases perform_cases ac s c with
    ⟨e, result, refused, state⟩ | ⟨p, ⟨result, saved⟩ | ⟨e, result, persistence, unsaved⟩⟩
  · have none : contribution ac n c (perform ac s c).result = [] := by
      simp [contribution, result, counts, refused]
    rw [none, state, Store.under_records, List.nil_append, Records.take_get]
  · exact put p (by rw [result]; rfl) saved.records
  · exact put p (by rw [result]; exact persistence) unsaved.records

/-- Behind a run the store holds the newest two of the values that the run published and the values
that were there before. -/
theorem run_get (ac : AccessControl) (s : Store) (calls : List Call) {n : Name} {k : Key}
    (key : Key.ofName n = .ok k) :
    (run ac s calls).records.get k = (published ac n s calls ++ s.records.get k).take 2 := by
  induction calls generalizing s with
  | nil => exact (Records.take_get _ _).symm
  | cons c calls ih =>
    -- The first call cuts before the rest of the run does.
    rw [run, published, ih, perform_get ac s c key, Records.take_append_take, List.append_assoc]

/-- A run puts nothing into the records but challenges. -/
theorem run_forall {P : TxtValue → Prop} (challenges : ∀ v : TxtValue, v.IsChallenge → P v)
    (ac : AccessControl) (s : Store) (initial : ∀ k, ∀ v ∈ s.records.get k, P v)
    (calls : List Call) : ∀ k, ∀ v ∈ (run ac s calls).records.get k, P v := by
  induction calls generalizing s with
  | nil => exact initial
  | cons c calls ih =>
    refine ih _ ?_
    -- The values of the new records are the old ones and a text that has passed the validation.
    have put : ∀ p : Publication ac c, (perform ac s c).state.records =
        s.records.put p.key (.text p.value) →
        ∀ k, ∀ v ∈ (perform ac s c).state.records.get k, P v := by
      intro p records k v member
      rw [records] at member
      by_cases here : k = p.key
      · rw [here, Records.get_put] at member
        rcases List.mem_cons.mp (List.mem_of_mem_take member) with rfl | old
        · exact challenges _ ⟨p.value, rfl, p.valid⟩
        · exact initial _ v old
      · rw [Records.get_eq, (Records.pushed_put _ _ _).others k here, ← Records.get_eq] at member
        exact initial k v member
    rcases perform_cases ac s c with
      ⟨_, _, _, state⟩ | ⟨p, ⟨_, saved⟩ | ⟨_, _, _, unsaved⟩⟩
    · rw [state]
      exact initial
    · exact put p saved.records
    · exact put p unsaved.records

theorem run_isChallenge (ac : AccessControl) (s : Store)
    (initial : ∀ k, ∀ v ∈ s.records.get k, v.IsChallenge) (calls : List Call) :
    ∀ k, ∀ v ∈ (run ac s calls).records.get k, v.IsChallenge :=
  run_forall (fun _ challenge => challenge) ac s initial calls

/-- Every text that a run puts into the records can be encoded. -/
theorem run_records_forall {P : TxtValue → Prop} (texts : ∀ t : Text, t.chars?.isSome → P (.text t))
    (ac : AccessControl) (s : Store) (initial : ∀ k, ∀ v ∈ s.records.get k, P v)
    (calls : List Call) : ∀ k, ∀ v ∈ (run ac s calls).records.get k, P v := by
  refine run_forall ?_ ac s initial calls
  rintro _ ⟨t, rfl, valid⟩
  exact texts t (validate_ok valid).2

end Gateway

end ChallengeDns
