import Mathlib
import ChallengeDns.Proofs.Store.Records
import ChallengeDns.Store.Basic

/-!
# Saving

What one change does to a store with a state file.  The records change in any case.  Either the
file is replaced by the text of the new records, or it stays as it is and the change reports why.
-/
namespace ChallengeDns

/-- What has the name of a state file is the text of the records. -/
def StateFile.Holds (place : Place) (r : Records) : Prop :=
  ∃ text, StateFile.encode r = .ok text ∧ place = .file (Text.utf8 text)

namespace Disk

theorem write_ok_iff (d d' : Disk) (content : Bytes) :
    d.write content = .ok d' ↔ d.folder = .present ∧ d.blocked = false ∧ d.place ≠ .folder ∧
      d' = { d with place := .file content } := by
  unfold write
  cases d.folder with
  | missing => simp
  | notFolder => simp
  | present =>
    cases d.blocked with
    | true => simp
    | false =>
      by_cases folder : d.place = .folder
      · simp [folder]
      · simp [folder, eq_comm]

end Disk

namespace Store

/-- What has the name of the state file, if there is one. -/
def file (s : Store) : Option Place := s.disk.map Disk.place

theorem saveTo_ok_iff (r : Records) (d d' : Disk) :
    saveTo r d = .ok d' ↔ ∃ text, StateFile.encode r = .ok text ∧
      d.write (Text.utf8 text) = .ok d' := by
  unfold saveTo
  cases StateFile.encode r with
  | error e => simp
  | ok text => cases written : d.write (Text.utf8 text) <;> simp [written]

theorem saveTo_error {r : Records} {d : Disk} {e : StoreError} (failed : saveTo r d = .error e) :
    e.isPersistence = true := by
  unfold saveTo at failed
  cases encoded : StateFile.encode r with
  | error f =>
    simp only [encoded, Except.error.injEq] at failed
    subst failed
    rfl
  | ok text =>
    cases written : d.write (Text.utf8 text) with
    | error f =>
      simp only [encoded, written, Except.error.injEq] at failed
      subst failed
      rfl
    | ok d' => simp [encoded, written] at failed

/-- What comes of a change that reports success. -/
structure PutSaved (s : Store) (r : Records) (s' : Store) : Prop where
  records : s'.records = r
  memory : s.disk = none → s'.disk = none
  replaced : ∀ d, s.disk = some d → ∃ d', s'.disk = some d' ∧ saveTo r d = .ok d'

/-- What comes of a change that cannot be saved: it stands in memory, and the disk is untouched. -/
structure PutUnsaved (s : Store) (r : Records) (s' : Store) : Prop where
  records : s'.records = r
  untouched : s'.disk = s.disk

section Given

variable {s : Store} {n : Name} {v : TxtValue}

theorem put_keyed {k : Key} (keyed : Key.ofName n = .ok k) :
    s.put (.name n) v = ⟨(s.putKey k v).result.mapError .store, (s.putKey k v).state,
      (s.putKey k v).logs⟩ := by
  simp only [put, Key.ofGiven, Name.Given.read, keyed]

/-- Nothing is put under a name that has no key. -/
theorem put_unkeyed {e : NameError} (unkeyed : Key.ofName n = .error e) :
    s.put (.name n) v = ⟨.error (.name e), s, []⟩ := by
  simp only [put, Key.ofGiven, Name.Given.read, unkeyed]

end Given

theorem putKey_cases (s : Store) (k : Key) (v : TxtValue) :
    ((s.putKey k v).result = .ok () ∧ PutSaved s (s.records.put k v) (s.putKey k v).state) ∨
    ∃ e, (s.putKey k v).result = .error e ∧ e.isPersistence = true ∧
      PutUnsaved s (s.records.put k v) (s.putKey k v).state := by
  obtain ⟨r, disk⟩ := s
  -- A store without a disk has nothing to save.
  cases disk with
  | none =>
    left
    exact ⟨rfl, ⟨rfl, fun _ => rfl, nofun⟩⟩
  | some d =>
    unfold putKey save
    cases saved : saveTo (r.put k v) d with
    | error e =>
      right
      simp only [saved, Except.map]
      exact ⟨e, rfl, saveTo_error saved, ⟨rfl, rfl⟩⟩
    | ok d' =>
      left
      simp only [saved, Except.map, true_and]
      refine ⟨rfl, nofun, ?_⟩
      intro d₀ backed
      cases backed
      exact ⟨d', rfl, saved⟩

theorem PutSaved.holds {s s' : Store} {r : Records} (saved : PutSaved s r s') {place : Place}
    (named : s'.file = some place) : StateFile.Holds place s'.records := by
  obtain ⟨d', disk', rfl⟩ := Option.map_eq_some_iff.mp named
  cases backed : s.disk with
  | none => rw [saved.memory backed] at disk'; cases disk'
  | some d =>
    obtain ⟨d₁, disk₁, written⟩ := saved.replaced d backed
    obtain ⟨text, encoded, done⟩ := (saveTo_ok_iff r d d₁).mp written
    have equal : d₁ = d' := Option.some.inj (disk₁.symm.trans disk')
    obtain ⟨_, _, _, content⟩ := (Disk.write_ok_iff d d₁ _).mp done
    exact ⟨text, saved.records ▸ encoded, by rw [← equal, content]⟩

theorem PutSaved.file_isSome {s s' : Store} {r : Records} (saved : PutSaved s r s') :
    s'.file.isSome = s.file.isSome := by
  unfold file
  cases backed : s.disk with
  | none => rw [saved.memory backed]
  | some d =>
    obtain ⟨d', disk', _⟩ := saved.replaced d backed
    simp [disk']

end Store

end ChallengeDns
