import Mathlib
import ChallengeDns.Config.Loader
import ChallengeDns.Proofs.Config.Acceptance

/-!
# Warnings

A configuration that is loaded can still be doubtful.  The warning of a contact that is no name
tells whether the start of the zone can be answered.
-/
namespace ChallengeDns

namespace Config

/-- The warning of a contact that is no name. -/
def contactWarning (e : NameError) : LogEntry :=
  warning ("zone.ns_admin cannot be used as an SOA contact (" ++ e.message ++ ") — "
    ++ "SOA queries will fail with SERVFAIL")

/-- What is loaded has passed the checks, whose warnings are logged. -/
theorem loadOctets_ok {env : Environment} {path : Text} {content : Bytes} {config : Config}
    {logs : List LogEntry} (loaded : loadOctets env path content = (.ok config, logs)) :
    ∃ warnings, check config.data = .ok ⟨[], warnings⟩ ∧ logs = warnings.map warning := by
  -- Each step of loading ends in an error or goes on to the next one.
  unfold loadOctets at loaded
  split at loaded
  · cases loaded
  unfold load at loaded
  split at loaded
  · cases loaded
  split at loaded
  · cases loaded
  next data _ =>
  unfold ofData at loaded
  split at loaded
  · cases loaded
  next findings checked =>
  dsimp only at loaded
  split at loaded
  next none =>
    split at loaded
    · cases loaded
      exact ⟨findings.warnings, by rw [checked, ← List.isEmpty_iff.mp none], rfl⟩
    · cases loaded
  next => cases loaded

section Contact

variable {root : Value} {warnings : List Text}

/-- An accepted configuration has a contact, and that is the one of its zone. -/
theorem Accepted.contact (accepted : Accepted root) {zone : ZoneSettings} {access : AccessControl}
    (gives : Gives root zone access) :
    filled? (sectionOf root "zone") "ns_admin" = some zone.contact := by
  have checks := (Check.all_nil_iff _).mp accepted.isClean.zone
  simp only [List.forall_mem_cons, Check.require_nil_iff] at checks
  obtain ⟨_, _, contact, _⟩ := checks
  obtain ⟨t, filled⟩ := Option.isSome_iff_exists.mp contact
  obtain ⟨_, _, required⟩ := readZone_ok gives.read
  cases (filled_some filled).symm.trans required
  exact filled

theorem warning_injective {t u : Text} (equal : warning t = warning u) : t = u := by
  simpa [warning] using equal

theorem contactWarning_begins {e : NameError} {t : Text} (equal : warning t = contactWarning e) :
    t.head? = some (.scalar 'z') := by
  cases warning_injective equal
  rfl

/-- The other warnings are about other parts of the configuration. -/
theorem otherWarnings_begin (root store : Value) :
    ∀ t ∈ warnGrants root ++ warnStatePath store, t.head? ≠ some (.scalar 'z') := by
  have grants : ∀ t ∈ warnGrants root, t.head? = some (.scalar 'a') := by
    intro t member
    unfold warnGrants at member
    split at member
    · cases List.mem_singleton.mp member
      rfl
    · cases member
  -- There is one warning about the path, and it begins with another letter.
  have path : ∀ t ∈ warnStatePath store, t = warnStatePath.warning := by
    intro t member
    unfold warnStatePath at member
    cases found : store.get? "state_path" with
    | none =>
      rw [found] at member
      exact List.mem_singleton.mp member
    | some v =>
      rw [found] at member
      exact List.mem_singleton.mp (List.mem_ite_nil_right.mp member).2
  intro t member
  rcases List.mem_append.mp member with first | second
  · rw [grants t first]
    decide
  · rw [path t second]
    decide

/-- Whoever loads a configuration is warned if its contact is no name, and not otherwise. -/
theorem contactWarning_iff (checked : check root = .ok ⟨[], warnings⟩) {t : Text}
    (contact : filled? (sectionOf root "zone") "ns_admin" = some t) :
    (∃ e, contactWarning e ∈ warnings.map warning) ↔ ¬∃ n, Contact.name t = .ok n := by
  -- The warning about the contact stands in front of all others.
  obtain ⟨sections, _, checked⟩ := bind_except_ok.mp checked
  obtain ⟨zoneProblems, _, checked⟩ := bind_except_ok.mp checked
  obtain ⟨contactWarnings, warned, checked⟩ := bind_except_ok.mp checked
  obtain ⟨problems, _, checked⟩ := bind_except_ok.mp checked
  simp only [pure, Except.pure, Except.ok.injEq, Findings.mk.injEq] at checked
  obtain ⟨_, rfl⟩ := checked
  simp only [warnContact, contact] at warned
  rw [List.append_assoc]
  cases read : Contact.name t with
  | ok n =>
    rw [read] at warned
    cases warned
    refine iff_of_false ?_ (not_not.mpr ⟨n, rfl⟩)
    rintro ⟨e, member⟩
    obtain ⟨w, other, equal⟩ := List.mem_map.mp member
    exact otherWarnings_begin _ _ w other (contactWarning_begins equal)
  | error e =>
    refine iff_of_true ⟨e, ?_⟩ nofun
    rw [read] at warned
    have told : contactWarnings = ["zone.ns_admin cannot be used as an SOA contact (" ++ e.message
        ++ ") — " ++ "SOA queries will fail with SERVFAIL"] := (Except.ok.inj warned).symm
    rw [told]
    exact List.mem_map.mpr ⟨_, List.mem_append_left _ (List.mem_singleton_self _), rfl⟩

end Contact

end Config

end ChallengeDns
