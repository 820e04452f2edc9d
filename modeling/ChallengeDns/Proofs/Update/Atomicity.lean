import Mathlib
import ChallengeDns.Proofs.Update.Run

/-!
# Updates are all or nothing

Memory and disk part ways when a value cannot be saved, and meet again at the next call that
reports success.  What ties them together over a run is that the state file always holds the
records of the last such call.
-/
namespace ChallengeDns.Gateway

/-- The records behind the last call of a run that reported success. -/
def lastSaved (ac : AccessControl) (s : Store) : List Call → Option Records
  | [] => none
  | c :: calls =>
    let a := perform ac s c
    (lastSaved ac a.state calls).or (if a.result.isOk then some a.state.records else none)

/-- The state file holds the last records that were saved, if any were, and otherwise what it held
before the run. -/
def Reconciled (initial : Option Place) (saved : Option Records) (file : Option Place) : Prop :=
  match saved with
  | none => file = initial
  | some r => ∃ place, file = some place ∧ StateFile.Holds place r

theorem perform_error_file {ac : AccessControl} {s : Store} {c : Call} {e : UpdateError}
    (failed : (perform ac s c).result = .error e) : (perform ac s c).state.file = s.file := by
  rcases perform_cases ac s c with ⟨_, _, _, state⟩ | ⟨p, ⟨result, _⟩ | ⟨_, _, _, unsaved⟩⟩
  · rw [state, Store.under_file]
  · rw [failed] at result
    cases result
  · rw [← Store.under_file c.conditions s]
    unfold Store.file
    rw [unsaved.untouched]

theorem perform_refused_records {ac : AccessControl} {s : Store} {c : Call} {e : UpdateError}
    (failed : (perform ac s c).result = .error e) (refused : e.isPersistence = false) :
    (perform ac s c).state.records = s.records := by
  rcases perform_cases ac s c with ⟨_, _, _, state⟩ | ⟨p, ⟨result, _⟩ | ⟨_, result, store, _⟩⟩
  · rw [state, Store.under_records]
  · rw [failed] at result
    cases result
  · rw [failed] at result
    cases result
    rw [refused] at store
    cases store

/-- A call that only fails to save has put its value into the records. -/
theorem perform_unsaved_records {ac : AccessControl} {s : Store} {c : Call} {e : UpdateError}
    (failed : (perform ac s c).result = .error e) (persistence : e.isPersistence = true) :
    ∃ k v, c.Publishes ac k v ∧ Records.Pushed s.records (perform ac s c).state.records k v := by
  rcases perform_cases ac s c with ⟨_, result, refused, _⟩ | ⟨p, ⟨result, _⟩ | ⟨_, _, _, unsaved⟩⟩
  · rw [failed] at result
    cases result
    rw [persistence] at refused
    cases refused
  · rw [failed] at result
    cases result
  · exact ⟨p.key, .text p.value, p.publishes, unsaved.records ▸ Records.pushed_put _ _ _⟩

/-- A call that reports success has put its value into the records and has replaced the state file
by the text of all of them. -/
theorem perform_ok {ac : AccessControl} {s : Store} {c : Call} {t : Text}
    (done : (perform ac s c).result = .ok t) :
    (∃ k, c.Publishes ac k (.text t) ∧
      Records.Pushed s.records (perform ac s c).state.records k (.text t)) ∧
    (perform ac s c).state.file.isSome = s.file.isSome ∧
    ∀ place, (perform ac s c).state.file = some place →
      StateFile.Holds place (perform ac s c).state.records := by
  rcases perform_cases ac s c with ⟨_, result, _, _⟩ | ⟨p, ⟨result, saved⟩ | ⟨_, result, _, _⟩⟩
  · rw [done] at result
    cases result
  · rw [done] at result
    cases result
    have present := saved.file_isSome
    rw [Store.under_file] at present
    exact ⟨⟨p.key, p.publishes, saved.records ▸ Records.pushed_put _ _ _⟩, present,
      fun place named => saved.holds named⟩
  · rw [done] at result
    cases result

theorem perform_file_isSome (ac : AccessControl) (s : Store) (c : Call) :
    (perform ac s c).state.file.isSome = s.file.isSome := by
  cases result : (perform ac s c).result with
  | error e => rw [perform_error_file result]
  | ok t => exact (perform_ok result).2.1

theorem run_file_isSome (ac : AccessControl) (s : Store) (calls : List Call) :
    (run ac s calls).file.isSome = s.file.isSome := by
  induction calls generalizing s with
  | nil => rfl
  | cons c calls ih => exact (ih _).trans (perform_file_isSome ac s c)

theorem perform_ok_file {ac : AccessControl} {s : Store} {c : Call} {t : Text}
    (done : (perform ac s c).result = .ok t) (backed : s.file.isSome = true) :
    ∃ place, (perform ac s c).state.file = some place ∧
      StateFile.Holds place (perform ac s c).state.records := by
  obtain ⟨_, present, holds⟩ := perform_ok done
  obtain ⟨place, named⟩ := Option.isSome_iff_exists.mp (present.trans backed)
  exact ⟨place, named, holds place named⟩

/-- At every point of a run the state file holds the records of the last call that reported
success. -/
theorem run_reconciled (ac : AccessControl) (s : Store) (backed : s.file.isSome = true)
    (calls : List Call) :
    Reconciled s.file (lastSaved ac s calls) (run ac s calls).file := by
  induction calls generalizing s with
  | nil => rfl
  | cons c calls ih =>
    have later := ih _ ((perform_file_isSome ac s c).trans backed)
    simp only [lastSaved, run]
    cases saved : lastSaved ac (perform ac s c).state calls with
    | some r => simpa [Reconciled, saved] using later
    | none =>
      -- Nothing was saved behind this call, so the file is the one that it left.
      have kept : (run ac (perform ac s c).state calls).file = (perform ac s c).state.file := by
        simpa [Reconciled, saved] using later
      rw [kept]
      cases result : (perform ac s c).result with
      | error e => simpa [Reconciled, Except.isOk, Except.toBool] using perform_error_file result
      | ok t => simpa [Reconciled, Except.isOk, Except.toBool] using perform_ok_file result backed

/-- Updates over a state file, where any call may fail to save.  A refused call changes nothing.  A
call that cannot save leaves the state file as it is and puts its value in front of the history of
its name alone.  A call that reports success leaves the file with the text of everything that is in
memory.  So the file is at every point the text of the memory at the last success. -/
theorem update_atomic (ac : AccessControl) (r : Records) (d : Disk) (earlier : List Call)
    (c : Call) :
    let before := run ac ⟨r, some d⟩ earlier
    let a := perform ac before c
    (∀ e, a.result = .error e → e.isPersistence = false →
      a.state.records = before.records ∧ a.state.file = before.file) ∧
    (∀ e, a.result = .error e → e.isPersistence = true → a.state.file = before.file ∧
      ∃ k v, c.Publishes ac k v ∧ Records.Pushed before.records a.state.records k v) ∧
    (∀ t, a.result = .ok t →
      (∃ place, a.state.file = some place ∧ StateFile.Holds place a.state.records) ∧
      ∃ k, c.Publishes ac k (.text t) ∧ Records.Pushed before.records a.state.records k (.text t)) ∧
    Reconciled (some d.place) (lastSaved ac ⟨r, some d⟩ earlier) before.file := by
  intro before a
  -- The store that the call finds is the one behind the earlier calls, which still has its file.
  have backed : before.file.isSome = true := run_file_isSome ac ⟨r, some d⟩ earlier
  refine ⟨?_, ?_, ?_, run_reconciled ac ⟨r, some d⟩ rfl earlier⟩
  · intro e failed refused
    exact ⟨perform_refused_records failed refused, perform_error_file failed⟩
  · intro e failed persistence
    exact ⟨perform_error_file failed, perform_unsaved_records failed persistence⟩
  · intro t done
    exact ⟨perform_ok_file done backed, (perform_ok done).1⟩

/-! ### A folder that comes back -/

/-- An access control that lets one client publish under one name of the root. -/
def oneClient : AccessControl :=
  let host := (Network.read? "192.0.2.7").toList
  let name := (Name.readRelative "host").toOption.toList
  ⟨.root, host.map fun net => (net, name), []⟩

/-- An update from some address while the folder is in some condition. -/
def sampleCall (client : Text) (folder : Folder) (c : Char) : Call :=
  ⟨.ofText client, .text "host", .ofText (List.replicate 43 (.scalar c)), ⟨folder, false⟩⟩

/-- A value that could not be saved while the folder was missing is in the file after the next call
that reports success. -/
theorem update_atomic_sample :
    let calls := [sampleCall "192.0.2.7" .missing 'A', sampleCall "192.0.2.8" .present 'A']
    let before := run oneClient ⟨.empty, some ⟨"state", .missing, .absent, false⟩⟩ calls
    let a := perform oneClient before (sampleCall "192.0.2.7" .present 'Q')
    before.records.size = 1 ∧ before.file = some .absent ∧
      ∃ place, a.state.file = some place ∧ StateFile.Holds place a.state.records ∧
        a.state.records.snapshot.map (·.2) =
          [['Q', 'A'].map fun c => .text (List.replicate 43 (.scalar c))] := by
  intro calls before a
  obtain ⟨_, _, saved, _⟩ := update_atomic oneClient .empty ⟨"state", .missing, .absent, false⟩
    calls (sampleCall "192.0.2.7" .present 'Q')
  have done : a.result = .ok (List.replicate 43 (.scalar 'Q')) := by
    have saved : a.result.toOption = some (List.replicate 43 (.scalar 'Q')) := by decide +kernel
    cases result : a.result with
    | error e => simp [result, Except.toOption] at saved
    | ok t => simpa [result, Except.toOption] using saved
  obtain ⟨⟨place, named, holds⟩, _⟩ := saved _ done
  exact ⟨by decide +kernel, by decide +kernel, place, named, holds, by decide +kernel⟩

end ChallengeDns.Gateway
