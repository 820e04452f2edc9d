import Mathlib
import ChallengeDns.Proofs.Store.Saving
import ChallengeDns.Update.Gateway

/-!
# Runs of updates

A run is a sequence of calls of the gateway.  Between calls nobody touches the state file, but the
folder and the temporary file's name may come and go, so any single call may fail to save.

`perform_cases` says once what a call can do: it is refused and nothing changes, or its value is
put into the records, and then it is saved or not.
-/
namespace ChallengeDns

/-- What the file system allows while a call runs. -/
structure Conditions where
  folder : Folder
  blocked : Bool

structure Call where
  client : Value
  subdomain : Name.Given
  txt : Value
  conditions : Conditions

/-- The store while the file system is in some condition. -/
def Store.under (c : Conditions) (s : Store) : Store :=
  ⟨s.records, s.disk.map fun d => { d with folder := c.folder, blocked := c.blocked }⟩

@[simp] theorem Store.under_records (c : Conditions) (s : Store) :
    (s.under c).records = s.records := rfl

@[simp] theorem Store.under_file (c : Conditions) (s : Store) : (s.under c).file = s.file := by
  unfold file under
  cases s.disk <;> rfl

/-- Whether an update was put into memory and could not be saved. -/
def UpdateError.isPersistence : UpdateError → Bool
  | .store e => e.isPersistence
  | _ => false

/-- A call publishes a value under a key: its subdomain qualifies to a name with that key, and the
value is its text. -/
def Call.Publishes (ac : AccessControl) (c : Call) (k : Key) (v : TxtValue) : Prop :=
  ∃ sub n t, c.subdomain.read = .ok sub ∧ ac.qualify sub = .ok n ∧ Key.ofName n = .ok k ∧
    c.txt = .ofText t ∧ v = .text t

namespace Gateway

def perform (ac : AccessControl) (s : Store) (c : Call) : Attempt Store UpdateError Text :=
  update ac (s.under c.conditions) c.client c.subdomain c.txt

/-- The store behind the calls of a run. -/
def run (ac : AccessControl) (s : Store) : List Call → Store
  | [] => s
  | c :: calls => run ac (perform ac s c).state calls

theorem validate_ok {v : Value} {t : Text} (valid : Challenge.validate v = .ok t) :
    v = .ofText t ∧ t.chars?.isSome = true := by
  unfold Challenge.validate at valid
  split at valid
  next u =>
    cases chars : u.chars? with
    | none => simp [chars] at valid
    | some cs =>
      cases digest : Challenge.digest cs with
      | error f => simp [chars, digest, Except.map] at valid
      | ok bytes =>
        simp only [chars, digest, Except.map, Except.ok.injEq] at valid
        subst valid
        exact ⟨rfl, by rw [chars]; rfl⟩
  · cases valid

/-- What the gateway has seen to before it lets a value through. -/
theorem check_ok {ac : AccessControl} {client txt : Value} {subdomain : Name.Given}
    {accepted : Accepted} {logs : List LogEntry}
    (passed : check ac client subdomain txt = (.ok accepted, logs)) :
    ∃ address sub, Address.ofClient client = .ok address ∧ subdomain.read = .ok sub ∧
      ac.isPermitted address sub = true ∧ Challenge.validate txt = .ok accepted.value ∧
      ac.qualify sub = .ok accepted.name := by
  unfold check at passed
  -- Each check has to pass for the next one to be made.
  cases known : Address.ofClient client with
  | error e => simp [known] at passed
  | ok address =>
    cases read : subdomain.read with
    | error e => simp [known, read] at passed
    | ok sub =>
      cases permitted : ac.isPermitted address sub with
      | false => simp [known, read, permitted] at passed
      | true =>
        cases valid : Challenge.validate txt with
        | error f => simp [known, read, permitted, valid] at passed
        | ok value =>
          cases qualified : ac.qualify sub with
          | error e => simp [known, read, permitted, valid, qualified] at passed
          | ok n =>
            simp only [known, read, permitted, valid, qualified, if_true, Prod.mk.injEq,
              Except.ok.injEq] at passed
            obtain ⟨rfl, _⟩ := passed
            exact ⟨address, sub, rfl, rfl, permitted, rfl, qualified⟩

/-- The gateway asks for nothing else than what it has seen to. -/
theorem check_of {ac : AccessControl} {client txt : Value} {subdomain : Name.Given}
    {address : Address} {sub name : Name} {value : Text}
    (known : Address.ofClient client = .ok address) (read : subdomain.read = .ok sub)
    (permitted : ac.isPermitted address sub = true) (valid : Challenge.validate txt = .ok value)
    (qualified : ac.qualify sub = .ok name) :
    ∃ logs, check ac client subdomain txt = (.ok ⟨name, value⟩, logs) := by
  simp [check, known, read, permitted, valid, qualified]

/-- Why the checks refuse an update. -/
theorem check_refused {ac : AccessControl} {client txt : Value} {subdomain : Name.Given}
    {e : UpdateError} {logs : List LogEntry}
    (refused : check ac client subdomain txt = (.error e, logs)) :
    (∃ f shown, Address.ofClient client = .error f ∧ e = .address shown) ∨
    (∃ n, subdomain.read = .error n ∧ e = .name n) ∨
    ∃ sub, subdomain.read = .ok sub ∧ ((∃ a s, e = .forbidden a s) ∨ (∃ f, e = .challenge f) ∨
      ∃ n, ac.qualify sub = .error n ∧ e = .name n) := by
  unfold check at refused
  -- The checks come one after the other: the address, the name, the permission, the value, the name
  -- in the zone.
  cases known : Address.ofClient client with
  | error f =>
    simp only [known, Prod.mk.injEq, Except.error.injEq] at refused
    exact Or.inl ⟨f, _, rfl, refused.1.symm⟩
  | ok address =>
    right
    cases read : subdomain.read with
    | error n =>
      simp only [known, read, Prod.mk.injEq, Except.error.injEq] at refused
      exact Or.inl ⟨n, rfl, refused.1.symm⟩
    | ok sub =>
      refine Or.inr ⟨sub, rfl, ?_⟩
      simp only [known, read] at refused
      split at refused
      · split at refused
        next f _ =>
          cases refused
          exact Or.inr (Or.inl ⟨f, rfl⟩)
        next =>
          split at refused
          next n unqualified =>
            cases refused
            exact Or.inr (Or.inr ⟨n, unqualified, rfl⟩)
          next => cases refused
      · cases refused
        exact Or.inl ⟨_, _, rfl⟩

/-- The checks never blame the store. -/
theorem check_error {ac : AccessControl} {client txt : Value} {subdomain : Name.Given}
    {e : UpdateError} {logs : List LogEntry}
    (refused : check ac client subdomain txt = (.error e, logs)) : e.isPersistence = false := by
  rcases check_refused refused with ⟨_, _, _, rfl⟩ | ⟨_, _, rfl⟩ |
    ⟨_, _, ⟨_, _, rfl⟩ | ⟨_, rfl⟩ | ⟨_, _, rfl⟩⟩ <;> rfl

/-- An update is refused by its checks, or it is what putting the value under the name is. -/
theorem update_cases (ac : AccessControl) (s : Store) (client : Value) (subdomain : Name.Given)
    (txt : Value) :
    (∃ e logs, check ac client subdomain txt = (.error e, logs) ∧
      update ac s client subdomain txt = ⟨.error e, s, logs⟩) ∨
    ∃ accepted logs, check ac client subdomain txt = (.ok accepted, logs) ∧
      let put := s.put (.name accepted.name) (.text accepted.value)
      update ac s client subdomain txt =
        ⟨(put.result.map fun _ => accepted.value).mapError putError, put.state,
          logs ++ put.logs⟩ := by
  unfold update
  cases check ac client subdomain txt with
  | mk outcome logs =>
    cases outcome with
    | error e => exact Or.inl ⟨e, logs, rfl, rfl⟩
    | ok accepted => exact Or.inr ⟨accepted, logs, rfl, rfl⟩

/-- What a call publishes when its value gets through to the records. -/
structure Publication (ac : AccessControl) (c : Call) where
  key : Key
  value : Text
  publishes : c.Publishes ac key (.text value)
  valid : Challenge.validate (.ofText value) = .ok value

/-- Everything that a call can do. -/
theorem perform_cases (ac : AccessControl) (s : Store) (c : Call) :
    (∃ e, (perform ac s c).result = .error e ∧ e.isPersistence = false ∧
      (perform ac s c).state = s.under c.conditions) ∨
    ∃ p : Publication ac c,
      ((perform ac s c).result = .ok p.value ∧
        Store.PutSaved (s.under c.conditions) (s.records.put p.key (.text p.value))
          (perform ac s c).state) ∨
      ∃ e, (perform ac s c).result = .error e ∧ e.isPersistence = true ∧
        Store.PutUnsaved (s.under c.conditions) (s.records.put p.key (.text p.value))
          (perform ac s c).state := by
  unfold perform
  rcases update_cases ac (s.under c.conditions) c.client c.subdomain c.txt with
    ⟨e, logs, refused, done⟩ | ⟨accepted, logs, passed, done⟩
  · -- The checks have not seen the store, so a refusal leaves it alone.
    rw [done]
    exact Or.inl ⟨e, rfl, check_error refused, rfl⟩
  · rw [done]
    obtain ⟨_, sub, _, read, _, valid, qualified⟩ := check_ok passed
    obtain ⟨text, _⟩ := validate_ok valid
    cases keyed : Key.ofName accepted.name with
    | error e =>
      -- A name without a key is refused before anything is put.
      rw [Store.put_unkeyed keyed]
      exact Or.inl ⟨.name e, rfl, rfl, rfl⟩
    | ok k =>
      right
      refine ⟨⟨k, accepted.value, ⟨sub, _, _, read, qualified, keyed, text, rfl⟩, text ▸ valid⟩, ?_⟩
      rw [Store.put_keyed keyed]
      rcases Store.putKey_cases (s.under c.conditions) k (.text accepted.value) with
        ⟨result, saved⟩ | ⟨e, result, persistence, unsaved⟩
      · exact Or.inl ⟨by rw [result]; rfl, saved⟩
      · exact Or.inr ⟨.store e, by rw [result]; rfl, persistence, unsaved⟩

end Gateway

end ChallengeDns
