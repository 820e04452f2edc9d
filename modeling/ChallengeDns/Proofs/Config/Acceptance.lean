import Mathlib
import ChallengeDns.Config.Settings
import ChallengeDns.Proofs.Data.Fallible
import ChallengeDns.Proofs.Data.Values
import ChallengeDns.Proofs.Name.Canonical

/-!
# Accepted configurations

A configuration without problems has a zone and an access table that can be read and built: each
check that finds nothing says that the reading of the same field succeeds.
-/
namespace ChallengeDns

namespace Check

theorem all_nil_iff (cs : List Check) : all cs = .ok [] ↔ ∀ c ∈ cs, c = .ok [] := by
  induction cs with
  | nil => simp [all]
  | cons c cs ih =>
    rw [List.forall_mem_cons, ← ih]
    cases first : c with
    | error f => simp [all, bind, Except.bind]
    | ok problems =>
      cases rest : all cs with
      | error f => simp [all, bind, Except.bind, rest]
      | ok more => simp [all, bind, Except.bind, pure, Except.pure, rest]

theorem require_nil_iff (condition : Bool) (problem : Text) :
    require condition problem = .ok [] ↔ condition = true := by
  cases condition <;> simp [require]

theorem showing_ne_nil (v : Value) (problem : Text) : showing v problem ≠ .ok [] := by
  unfold showing
  split <;> simp

theorem requireOf_nil_iff (v : Value) (condition : Bool) (problem : Text) :
    requireOf v condition problem = .ok [] ↔ condition = true := by
  cases condition with
  | true => simp [requireOf]
  | false => simpa [requireOf] using showing_ne_nil v problem

theorem ofName_nil {α : Type} {label : Text} {r : Except NameError α} {next : α → Check}
    (clean : ofName label r next = .ok []) : ∃ a, r = .ok a ∧ next a = .ok [] := by
  cases r with
  | ok a => exact ⟨a, rfl, clean⟩
  | error e => simp [ofName] at clean

end Check

namespace Config

/-- The checks find no problem; there may be warnings. -/
def Accepted (root : Value) : Prop := ∃ warnings, check root = .ok ⟨[], warnings⟩

/-- No check finds a problem. -/
structure Clean (root : Value) : Prop where
  sections : ∀ key ∈ (["zone", "api", "dns", "logging", "store"] : List Text),
    checkSection root key = .ok []
  zone : checkZone (sectionOf root "zone") = .ok []
  listeners : checkListeners (sectionOf root "api") (sectionOf root "dns") = .ok []
  grants : checkGrants root (zoneDomain? (sectionOf root "zone")) = .ok []
  addresses : checkAddressTable root = .ok []
  nameServers : checkNameServerTable root = .ok []
  level : checkLevel (sectionOf root "logging") = .ok []
  format : checkFormat (sectionOf root "logging") = .ok []
  statePath : checkStatePath (sectionOf root "store") = .ok []

theorem Accepted.isClean {root : Value} (accepted : Accepted root) : Clean root := by
  obtain ⟨warnings, checked⟩ := accepted
  -- The groups of checks come one after the other, and no problem is dropped on the way.
  obtain ⟨sections, first, checked⟩ := bind_except_ok.mp checked
  obtain ⟨zoneProblems, zone, checked⟩ := bind_except_ok.mp checked
  obtain ⟨contactWarnings, _, checked⟩ := bind_except_ok.mp checked
  obtain ⟨problems, rest, checked⟩ := bind_except_ok.mp checked
  simp only [pure, Except.pure, Except.ok.injEq, Findings.mk.injEq,
    List.append_eq_nil_iff] at checked
  obtain ⟨⟨⟨rfl, rfl⟩, rfl⟩, _⟩ := checked
  have sections := (Check.all_nil_iff _).mp first
  rw [List.forall_mem_map] at sections
  have others := (Check.all_nil_iff _).mp rest
  simp only [List.forall_mem_cons] at others
  obtain ⟨listeners, grants, addresses, nameServers, level, format, statePath, _⟩ := others
  exact ⟨sections, zone, listeners, grants, addresses, nameServers, level, format, statePath⟩

theorem Accepted.checks {root : Value} (accepted : Accepted root) :
    checkZone (sectionOf root "zone") = .ok [] ∧
      checkGrants root (zoneDomain? (sectionOf root "zone")) = .ok [] ∧
      checkAddressTable root = .ok [] ∧ checkNameServerTable root = .ok [] := by
  have clean := accepted.isClean
  exact ⟨clean.zone, clean.grants, clean.addresses, clean.nameServers⟩

theorem Accepted.clean {root : Value} (accepted : Accepted root) :
    checkZone (sectionOf root "zone") = .ok [] ∧
      checkGrants root (zoneDomain? (sectionOf root "zone")) = .ok [] :=
  ⟨accepted.checks.1, accepted.checks.2.1⟩

/-! ### The zone -/

theorem filled_some {part : Value} {key t : Text} (filled : filled? part key = some t) :
    Settings.requiredText part key = .ok t := by
  obtain ⟨present, _⟩ := Option.filter_eq_some_iff.mp filled
  unfold Settings.requiredText
  rw [present]

theorem checkZoneName_clean {zone : Value} {key : Text} (filled : (filled? zone key).isSome = true)
    (clean : checkZoneName zone key = .ok []) :
    ∃ t n, filled? zone key = some t ∧ Settings.requiredText zone key = .ok t ∧
      Name.readAbsolute t = .ok n := by
  obtain ⟨t, some⟩ := Option.isSome_iff_exists.mp filled
  simp only [checkZoneName, some] at clean
  obtain ⟨n, read, _⟩ := Check.ofName_nil clean
  exact ⟨t, n, some, filled_some some, read⟩

/-- The zone is read with the domain that the access table was checked with. -/
theorem readZone_of_clean {zone : Value} (clean : checkZone zone = .ok []) :
    ∃ settings, Settings.readZone zone = .ok settings ∧
      zoneDomain? zone = some settings.domain := by
  have checks := (Check.all_nil_iff _).mp clean
  simp only [List.forall_mem_cons, Check.require_nil_iff] at checks
  obtain ⟨domain, nameServer, contact, domainName, nameServerName, _⟩ := checks
  obtain ⟨t, n, filled, required, read⟩ := checkZoneName_clean domain domainName
  obtain ⟨t', n', _, required', read'⟩ := checkZoneName_clean nameServer nameServerName
  obtain ⟨c, contact⟩ := Option.isSome_iff_exists.mp contact
  refine ⟨⟨n, n', c⟩, ?_, ?_⟩
  · simp [Settings.readZone, Settings.readName, required, required', filled_some contact, read,
      read', bind, Except.bind, pure, Except.pure, Except.mapError]
  · simp [zoneDomain?, filled, read, Except.toOption]

/-! ### The access table -/

/-- A subdomain that the checks let through: it is read as a relative name that can be qualified
with the domain. -/
def Suits (domain : Name) (t : Text) : Prop :=
  ∃ n k, Name.readRelative t = .ok n ∧ n.qualify domain = .ok k

theorem checkSubdomain_clean {domain : Name} {net : Scalar} {sub : Value}
    (clean : checkSubdomain (some domain) net sub = .ok []) :
    ∃ t, sub = .ofText t ∧ Suits domain t := by
  unfold checkSubdomain at clean
  cases text : sub.text? with
  | none =>
    simp only [text] at clean
    exact absurd clean (Check.showing_ne_nil _ _)
  | some t =>
    simp only [text] at clean
    obtain ⟨n, read, next⟩ := Check.ofName_nil clean
    cases absolute : n.absolute with
    | true => simp [absolute] at next
    | false =>
      simp only [absolute, Bool.false_eq_true, if_false] at next
      obtain ⟨k, qualified, _⟩ := Check.ofName_nil next
      exact ⟨t, Value.text?_eq_some.mp text, n, k, read, qualified⟩

theorem checkGrant_clean {domain : Name} {net : Scalar} {subdomains : Value}
    (clean : checkGrant (some domain) net subdomains = .ok []) :
    (Network.ofScalar? net).isSome = true ∧
      ∃ subs, subdomains = .list subs ∧ ∀ v ∈ subs, ∃ t, v = .ofText t ∧ Suits domain t := by
  have checks := (Check.all_nil_iff _).mp clean
  simp only [List.forall_mem_cons, Check.requireOf_nil_iff] at checks
  obtain ⟨network, items, _⟩ := checks
  refine ⟨network, ?_⟩
  cases subdomains with
  | list subs =>
    simp only [Value.items?, Check.all_nil_iff, List.forall_mem_map] at items
    exact ⟨subs, rfl, fun v inside => checkSubdomain_clean (items v inside)⟩
  | _ => simp [Value.items?] at items

theorem tableOf_fst (root : Value) (key what what' : Text) :
    (tableOf root key what).1 = (tableOf root key what').1 := by
  unfold tableOf
  split <;> rfl

/-- No entry of a clean table has problems. -/
theorem forall_entries_clean {root : Value} {key what : Text} {check : Scalar → Value → Check}
    (clean : Check.all (.ok (tableOf root key what).2 ::
      (tableOf root key what).1.map fun e => check e.1 e.2) = .ok []) :
    ∀ e ∈ (tableOf root key "").1, check e.1 e.2 = .ok [] := by
  rw [tableOf_fst root key "" what]
  intro e member
  have checks := (Check.all_nil_iff _).mp clean
  exact checks _ (List.mem_cons_of_mem _ (List.mem_map.mpr ⟨e, member, rfl⟩))

/-- Every entry of a clean access table can be read, and all its names suit the domain. -/
theorem readEntry_of_clean {domain : Name} {net : Scalar} {subdomains : Value}
    (clean : checkGrant (some domain) net subdomains = .ok []) :
    ∃ n names, Grants.readEntry net ((subdomains.items?.getD []).filterMap Value.text?) =
        .ok (n, names) ∧
      ∀ name ∈ names, ∃ k, name.qualify domain = .ok k := by
  obtain ⟨network, subs, rfl, items⟩ := checkGrant_clean clean
  obtain ⟨n, network⟩ := Option.isSome_iff_exists.mp network
  -- The reader passes over items that are no texts; here all items are texts that suit the domain.
  have suits : ∀ t ∈ subs.filterMap Value.text?, Suits domain t := by
    intro t member
    obtain ⟨v, inside, text⟩ := List.mem_filterMap.mp member
    obtain ⟨u, rfl, suits⟩ := items v inside
    cases text
    exact suits
  obtain ⟨names, read⟩ := exists_mapM_except (f := Name.readRelative) fun t member => by
    obtain ⟨m, _, read, _⟩ := suits t member
    exact ⟨m, read⟩
  refine ⟨n, names, by simp [Grants.readEntry, network, Value.items?, read], ?_⟩
  intro name member
  obtain ⟨t, inside, readName⟩ := mem_mapM_except read member
  obtain ⟨m, k, readName', qualified⟩ := suits t inside
  rw [readName, Except.ok.injEq] at readName'
  exact ⟨k, readName' ▸ qualified⟩

end Config

namespace Grants

/-- Granting adds no names but the ones that are granted. -/
theorem mem_grant {net : Network} {names : List Name} {grants : Grants} {g : Network × List Name}
    {n : Name} (member : g ∈ grant net names grants) (inside : n ∈ g.2) :
    n ∈ names ∨ ∃ h ∈ grants, n ∈ h.2 := by
  induction grants with
  | nil =>
    simp only [grant, List.mem_singleton] at member
    subst member
    left
    simpa using mem_of_mem_insertNames inside
  | cons e grants ih =>
    -- The network is here and takes the names, or it is further on.
    unfold grant at member
    split at member
    · rcases List.mem_cons.mp member with rfl | later
      · rcases mem_of_mem_insertNames inside with old | new
        · exact Or.inr ⟨e, List.mem_cons_self, old⟩
        · exact Or.inl new
      · exact Or.inr ⟨g, List.mem_cons_of_mem e later, inside⟩
    · rcases List.mem_cons.mp member with rfl | later
      · exact Or.inr ⟨g, List.mem_cons_self, inside⟩
      · rcases ih later with new | ⟨h, old, found⟩
        · exact Or.inl new
        · exact Or.inr ⟨h, List.mem_cons_of_mem e old, found⟩

theorem mem_grantAll {entries : List (Network × List Name)} {grants : Grants}
    {g : Network × List Name} {n : Name}
    (member : g ∈ entries.foldl (fun grants e => grant e.1 e.2 grants) grants)
    (inside : n ∈ g.2) : (∃ e ∈ entries, n ∈ e.2) ∨ ∃ h ∈ grants, n ∈ h.2 := by
  induction entries generalizing grants with
  | nil => exact Or.inr ⟨g, member, inside⟩
  | cons e entries ih =>
    rcases ih member with ⟨f, later, found⟩ | ⟨h, present, found⟩
    · exact Or.inl ⟨f, List.mem_cons_of_mem e later, found⟩
    · rcases mem_grant present found with new | old
      · exact Or.inl ⟨e, List.mem_cons_self, new⟩
      · exact Or.inr old

end Grants

namespace Config

/-- The access table of an accepted configuration is read, and the access control is built. -/
theorem readGrants_of_clean {root : Value} {domain : Name}
    (clean : checkGrants root (some domain) = .ok []) :
    ∃ grants access, Settings.readGrants root = .ok grants ∧
      AccessControl.ofGrants domain grants = .ok access := by
  -- The check describes a malformed table and the reader does not; the entries are the same.
  have entries : ∀ e ∈ (tableOf root "acl" "").1, checkGrant (some domain) e.1 e.2 = .ok [] :=
    forall_entries_clean clean
  let written := (tableOf root "acl" "").1.map fun e =>
    (e.1, (e.2.items?.getD []).filterMap Value.text?)
  have readable : ∀ w ∈ written, ∃ g, Grants.readEntry w.1 w.2 = .ok g ∧
      ∀ name ∈ g.2, ∃ k, name.qualify domain = .ok k := by
    intro w member
    obtain ⟨e, present, rfl⟩ := List.mem_map.mp member
    obtain ⟨n, names, read, suit⟩ := readEntry_of_clean (entries e present)
    exact ⟨(n, names), read, suit⟩
  obtain ⟨read, done⟩ := exists_mapM_except (f := fun w => Grants.readEntry w.1 w.2) fun w member =>
    (readable w member).imp fun _ => And.left
  let grants := read.foldl (fun grants e => Grants.grant e.1 e.2 grants) []
  -- Networks that are written twice are merged, so a name is traced back to where it was checked.
  have qualified : ∀ n ∈ grants.flatMap (·.2), ∃ k, n.qualify domain = .ok k := by
    intro n member
    obtain ⟨g, present, inside⟩ := List.mem_flatMap.mp member
    rcases Grants.mem_grantAll present inside with ⟨e, entry, found⟩ | ⟨h, absent, _⟩
    · obtain ⟨w, source, step⟩ := mem_mapM_except done entry
      obtain ⟨g', step', suit⟩ := readable w source
      rw [step, Except.ok.injEq] at step'
      exact suit n (step' ▸ found)
    · cases absent
  obtain ⟨names, all⟩ := exists_mapM_except (f := fun n => Name.qualify n domain) qualified
  refine ⟨grants, ⟨domain, grants, names.foldl (fun set n => insertName n set) []⟩, ?_, ?_⟩
  · unfold Settings.readGrants Grants.read
    change Except.mapError _ ((written.mapM fun w => Grants.readEntry w.1 w.2).bind _) = _
    rw [done]
    rfl
  · unfold AccessControl.ofGrants
    rw [all]
    rfl

/-- What a configuration gives a server: its zone, and the access control of its access table. -/
structure Gives (root : Value) (zone : ZoneSettings) (access : AccessControl) : Prop where
  read : Settings.readZone (sectionOf root "zone") = .ok zone
  built : ∃ grants, Settings.readGrants root = .ok grants ∧
    AccessControl.ofGrants zone.domain grants = .ok access

theorem Accepted.gives {root : Value} (accepted : Accepted root) :
    ∃ zone access, Gives root zone access := by
  obtain ⟨zoneClean, grantsClean⟩ := accepted.clean
  obtain ⟨zone, read, domain⟩ := readZone_of_clean zoneClean
  rw [domain] at grantsClean
  obtain ⟨grants, access, readGrants, built⟩ := readGrants_of_clean grantsClean
  exact ⟨zone, access, read, grants, readGrants, built⟩

theorem readName_absolute {t : Text} {n : Name} (read : Settings.readName t = .ok n) :
    n.absolute = true :=
  Name.readAbsolute_absolute (mapError_except_ok.mp read)

/-- The fields of the zone that are read. -/
theorem readZone_ok {part : Value} {zone : ZoneSettings} (read : Settings.readZone part = .ok zone) :
    (∃ t, Settings.requiredText part "domain" = .ok t ∧ Settings.readName t = .ok zone.domain) ∧
      (∃ t, Settings.requiredText part "ns_domain" = .ok t ∧
        Settings.readName t = .ok zone.nameServer) ∧
      Settings.requiredText part "ns_admin" = .ok zone.contact := by
  obtain ⟨first, required, rest⟩ := bind_except_ok.mp read
  obtain ⟨domain, name, rest⟩ := bind_except_ok.mp rest
  obtain ⟨second, required', rest⟩ := bind_except_ok.mp rest
  obtain ⟨nameServer, name', rest⟩ := bind_except_ok.mp rest
  obtain ⟨contact, contactText, rest⟩ := bind_except_ok.mp rest
  cases rest
  exact ⟨⟨first, required, name⟩, ⟨second, required', name'⟩, contactText⟩

theorem Gives.names_absolute {root : Value} {zone : ZoneSettings} {access : AccessControl}
    (gives : Gives root zone access) :
    zone.domain.absolute = true ∧ zone.nameServer.absolute = true := by
  obtain ⟨⟨_, _, domain⟩, ⟨_, _, nameServer⟩, _⟩ := readZone_ok gives.read
  exact ⟨readName_absolute domain, readName_absolute nameServer⟩

theorem Gives.domain_absolute {root : Value} {zone : ZoneSettings} {access : AccessControl}
    (gives : Gives root zone access) : zone.domain.absolute = true :=
  gives.names_absolute.1

/-- Every eligible name is absolute, so it has a key in the store. -/
theorem Gives.eligible_absolute {root : Value} {zone : ZoneSettings} {access : AccessControl}
    (gives : Gives root zone access) {n : Name} (eligible : n ∈ access.eligible) :
    n.absolute = true := by
  obtain ⟨grants, _, built⟩ := gives.built
  unfold AccessControl.ofGrants at built
  cases done : (grants.flatMap (·.2)).mapM (Name.qualify · zone.domain) with
  | error e => simp [done, bind, Except.bind] at built
  | ok names =>
    simp only [done, bind, Except.bind, pure, Except.pure, Except.ok.injEq] at built
    subst built
    rcases mem_of_mem_insertNames eligible with absent | member
    · cases absent
    · obtain ⟨sub, _, qualified⟩ := mem_mapM_except done member
      exact Name.qualify_absolute qualified gives.domain_absolute

end Config

end ChallengeDns
