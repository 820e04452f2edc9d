import Mathlib
import ChallengeDns.CommandLine.Start
import ChallengeDns.Proofs.Access.Table
import ChallengeDns.Proofs.Config.Tables
import ChallengeDns.Proofs.Data.Values

/-!
# Building from accepted configurations

The checks and the builders go through a configuration each in its own way.  The builders rely on
the shape of what they find: sections and tables that are mappings, lists of texts, names that fit
the zone, words that mean a level and a layout.  The checks see to all of it, so a server is built
from every accepted configuration whose store can be opened.
-/
namespace ChallengeDns

theorem Text.toUpper_ascii {c : Char} (ascii : (CodePoint.scalar c).isAscii = true) (rest : Text) :
    Text.toUpper (.scalar c :: rest) = .scalar c.toUpper :: Text.toUpper rest := by
  rw [Text.toUpper, List.flatMap_cons, CodePoint.toUpper, if_pos ascii]
  rfl

namespace LogLayout

theorem ofWord?_word (l : LogLayout) : ofWord? l.word = some l := by
  cases l <;> decide

end LogLayout

namespace Config

/-! ### Sections and tables -/

section Mappings

variable {root v : Value} {key : Text}

theorem section_mapping (clean : checkSection root key = .ok []) (found : root.get? key = some v)
    (holds : v.holds = true) : ∃ es, v = .mapping es := by
  unfold checkSection at clean
  rw [found] at clean
  cases v with
  | mapping es => exact ⟨es, rfl⟩
  | _ => simp [Check.require, holds] at clean

theorem table_mapping {what : Text} {checks : List Check}
    (clean : Check.all (.ok (tableOf root key what).2 :: checks) = .ok [])
    (found : root.get? key = some v) (holds : v.holds = true) : ∃ es, v = .mapping es := by
  have problems := (Check.all_nil_iff _).mp clean _ List.mem_cons_self
  unfold tableOf at problems
  rw [found] at problems
  cases v with
  | mapping es => exact ⟨es, rfl⟩
  | _ => simp [holds] at problems

end Mappings

def sectionKeys : List Text := ["zone", "api", "dns", "logging", "store"]

def tableKeys : List Text := ["acl", "addrs", "ns_records"]

/-- Where a section or a table is read, there is a mapping or nothing. -/
theorem Clean.mappings {root : Value} (clean : Clean root) {key : Text}
    (read : key ∈ sectionKeys ∨ key ∈ tableKeys) {v : Value} (found : root.get? key = some v)
    (holds : v.holds = true) : ∃ es, v = .mapping es := by
  rcases read with part | table
  · exact section_mapping (clean.sections key part) found holds
  · simp only [tableKeys, List.mem_cons, List.not_mem_nil, or_false] at table
    rcases table with rfl | rfl | rfl
    · exact table_mapping clean.grants found holds
    · exact table_mapping clean.addresses found holds
    · exact table_mapping clean.nameServers found holds

/-! ### Logging and the store -/

/-- A value that shows a level is a text: what shows any other value begins in another way. -/
theorem text_of_level {v : Value} (level : Text.toUpper v.text ∈ levels) : ∃ t, v = .ofText t := by
  rcases v.begins_text with text | infinite | ⟨c, start, rest, begins⟩
  · exact text
  · rw [infinite] at level
    exact absurd level (by decide)
  · -- No level starts like that, not even in lower case.
    have ascii : starts.all (fun c => (CodePoint.scalar c).isAscii) = true := by decide
    have other : starts.all (fun c => !(levels.map List.head?).contains
        (some (.scalar c.toUpper))) = true := by decide
    have apart := List.all_eq_true.mp other c start
    rw [begins, Text.toUpper_ascii (List.all_eq_true.mp ascii c start)] at level
    rw [Bool.not_eq_true', ← Bool.not_eq_true, List.contains_iff_mem] at apart
    exact absurd (List.mem_map.mpr ⟨_, level, rfl⟩) apart

/-- The words for the level and for the layout mean something. -/
theorem logging_of_clean {logging : Value} (level : checkLevel logging = .ok [])
    (format : checkFormat logging = .ok []) :
    ∃ t n layout, Settings.fieldOr logging "level" (.ofText "INFO") = .ofText t ∧
      LogLevel.ofName? (Text.toUpper t) = some n ∧
      Settings.fieldOr logging "format" (.ofText "text") = .ofText (LogLayout.word layout) := by
  have known := (Check.requireOf_nil_iff _ _ _).mp level
  rw [List.contains_iff_mem] at known
  obtain ⟨t, text⟩ := text_of_level known
  rw [text] at known
  have numbered : ∀ l ∈ levels, (LogLevel.ofName? l).isSome = true := by decide
  obtain ⟨n, number⟩ := Option.isSome_iff_exists.mp (numbered _ known)
  -- A layout that is left out is the usual one.
  have words : ∃ layout : LogLayout,
      (logging.get? "format").getD (.ofText "text") = .ofText layout.word := by
    unfold checkFormat at format
    split at format
    · cases format
    · cases format
    · have word := (Check.requireOf_nil_iff _ _ _).mp format
      simp only [Bool.or_eq_true, decide_eq_true_eq, Value.text?_eq_some] at word
      rcases word with text | json
      · exact ⟨.text, text⟩
      · exact ⟨.json, json⟩
  obtain ⟨layout, word⟩ := words
  exact ⟨t, n, layout, text, number, word⟩

theorem statePath_of_clean {store v : Value} (clean : checkStatePath store = .ok [])
    (found : store.get? "state_path" = some v) : v = .null ∨ ∃ t, v = .ofText t := by
  unfold checkStatePath at clean
  rw [found] at clean
  have fits := (Check.require_nil_iff _ _).mp clean
  split at fits
  · exact Or.inl rfl
  · obtain ⟨t, text⟩ := Option.isSome_iff_exists.mp fits
    exact Or.inr ⟨t, Value.text?_eq_some.mp text⟩

/-! ### Names -/

/-- A relative name for which there is room before the domain. -/
def FitsBefore (domain n : Name) : Prop :=
  n.absolute = false ∧ ∃ k, n.qualify domain = .ok k ∧ k.labels = n.labels ++ domain.labels ∧
    k.absolute = true ∧ Name.wireLength k.labels true ≤ 255

theorem fitsBefore_of_qualify {domain n k : Name} (absolute : domain.absolute = true)
    (qualified : n.qualify domain = .ok k) : FitsBefore domain n := by
  obtain ⟨relative, labels, root⟩ := Name.qualify_parts absolute qualified
  have size := k.wire_size
  rw [root] at size
  exact ⟨relative, k, qualified, labels, root, size⟩

def IsName (v : Value) : Prop :=
  ∃ t n, v = .ofText t ∧ Settings.readName t = .ok n ∧ n.absolute = true

theorem isName_of_readName {t : Text} {n : Name} (read : Settings.readName t = .ok n) :
    IsName (.ofText t) := ⟨t, n, rfl, read, readName_absolute read⟩

/-- A configuration has the shape that its builders rely on. -/
structure WellShaped (root : Value) (domain : Name) : Prop where
  mappings : ∀ key, key ∈ sectionKeys ∨ key ∈ tableKeys → ∀ v, root.get? key = some v →
    v.holds = true → ∃ es, v = .mapping es
  statePath : ∀ v, (sectionOf root "store").get? "state_path" = some v →
    v = .null ∨ ∃ t, v = .ofText t
  grants : ∀ e ∈ grantEntries root, (Network.ofScalar? e.1).isSome = true ∧
    ∃ subs, e.2 = .list subs ∧ ∀ v ∈ subs, ∃ t n, v = .ofText t ∧ Name.readRelative t = .ok n ∧
      FitsBefore domain n
  addresses : ∀ e ∈ (tableOf root "addrs" "").1, IsName (.scalar e.1) ∧
    ∃ vs, e.2 = .list vs ∧ ∀ v ∈ vs, (Address.ofValue? v).isSome = true
  nameServers : ∀ e ∈ (tableOf root "ns_records" "").1, IsName (.scalar e.1) ∧
    ∃ vs, e.2 = .list vs ∧ ∀ v ∈ vs, IsName v

theorem Clean.wellShaped {root : Value} (clean : Clean root) {domain : Name}
    (absolute : domain.absolute = true)
    (read : zoneDomain? (sectionOf root "zone") = some domain) : WellShaped root domain where
  mappings _ key _ found holds := clean.mappings key found holds
  statePath _ found := statePath_of_clean clean.statePath found
  grants := by
    intro e member
    have entries := clean.grants
    rw [read] at entries
    obtain ⟨network, subs, list, items⟩ := checkGrant_clean (forall_entries_clean entries e member)
    refine ⟨network, subs, list, fun v inside => ?_⟩
    obtain ⟨t, text, n, k, read, qualified⟩ := items v inside
    exact ⟨t, n, text, read, fitsBefore_of_qualify absolute qualified⟩
  addresses := by
    intro e member
    obtain ⟨⟨t, n, key, named⟩, vs, list, items⟩ :=
      entry_clean (forall_entries_clean clean.addresses e member)
    refine ⟨?_, vs, list, fun v inside => (Check.requireOf_nil_iff _ _ _).mp (items v inside)⟩
    rw [key]
    exact isName_of_readName named
  nameServers := by
    intro e member
    obtain ⟨⟨t, n, key, named⟩, vs, list, items⟩ :=
      entry_clean (forall_entries_clean clean.nameServers e member)
    refine ⟨?_, vs, list, fun v inside => ?_⟩
    · rw [key]
      exact isName_of_readName named
    · obtain ⟨u, m, rfl, target⟩ := checkName_clean (items v inside)
      exact isName_of_readName target

/-! ### Building -/

/-- Over a store that can be opened, a server is built if its grants can be. -/
theorem build_eq {s : Settings} {access : AccessControl}
    (built : AccessControl.ofGrants s.zone.domain s.grants = .ok access) (disk : Text → Disk) :
    (Server.build s disk).1 = ((Store.configured s.statePath disk).result.mapError .store).map
      fun store => ⟨s, access, ⟨store, .initial⟩⟩ := by
  unfold Server.build
  dsimp only
  rw [built]
  cases (Store.configured s.statePath disk).result <;> rfl

theorem readRecords_absolute {root : Value} {records : RecordSettings}
    (read : Settings.readRecords root = .ok records) :
    (∀ e ∈ records.addresses, e.1.absolute = true) ∧
      ∀ e ∈ records.nameServers, e.1.absolute = true := by
  obtain ⟨addresses, first, rest⟩ := bind_except_ok.mp read
  obtain ⟨nameServers, second, rest⟩ := bind_except_ok.mp rest
  cases rest
  exact ⟨fun e member => (forall_readTable first e member).1,
    fun e member => (forall_readTable second e member).1⟩

/-- Whatever passes the checks can be built.  The settings are read, the access control is made from
them, and then a server, unless the store cannot be opened; the server answers from what the
configuration says.  The log gets a level and a layout that the configuration names.  Wherever the
builders look into the configuration they find what they rely on: mappings, lists, texts, networks,
addresses and names.  All subdomains of the access table are relative and fit before the domain, and
all tables of answers have absolute names. -/
theorem accepted_builds {root : Value} (accepted : Accepted root) :
    ∃ s access, Settings.read root = .ok s ∧
      AccessControl.ofGrants s.zone.domain s.grants = .ok access ∧
      (∀ disk, (Server.build s disk).1 =
        ((Store.configured s.statePath disk).result.mapError .store).map
          fun store => ⟨s, access, ⟨store, .initial⟩⟩) ∧
      (∀ disk server logs, Server.build s disk = (.ok server, logs) →
        ∀ now, Configures root (server.authority now)) ∧
      (∃ t n layout, s.logging = ⟨.ofText t, .ofText (LogLayout.word layout)⟩ ∧
        LogLevel.ofName? (Text.toUpper t) = some n ∧
        CommandLine.policy s.logging = ⟨n, min n LogPolicy.accessBound, layout⟩) ∧
      WellShaped root s.zone.domain ∧
      (∀ g ∈ s.grants, ∀ n ∈ g.2, FitsBefore s.zone.domain n) ∧
      (∀ e ∈ s.records.addresses, e.1.absolute = true) ∧
      ∀ e ∈ s.records.nameServers, e.1.absolute = true := by
  -- Each section is clean on its own, so each part of the settings is read on its own.
  have clean := accepted.isClean
  obtain ⟨zone, readZone, domain⟩ := readZone_of_clean clean.zone
  have grantsClean := clean.grants
  rw [domain] at grantsClean
  obtain ⟨grants, access, readGrants, built⟩ := readGrants_of_clean grantsClean
  obtain ⟨records, readRecords⟩ := accepted.records
  obtain ⟨t, n, layout, level, number, format⟩ := logging_of_clean clean.level clean.format
  have gives : Gives root zone access := ⟨readZone, grants, readGrants, built⟩
  -- The listeners' settings are taken as they are; everything else has been read by now.
  let s : Settings := {
    zone := zone
    statePath := filled? (sectionOf root "store") "state_path"
    api := Settings.readApi (sectionOf root "api")
    dns := Settings.readDns (sectionOf root "dns")
    grants := grants
    records := records
    logging := ⟨.ofText t, .ofText layout.word⟩ }
  have read : Settings.read root = .ok s := by
    simp only [Settings.read, readZone, readGrants, readRecords, level, format, bind, Except.bind,
      pure, Except.pure, s]
  refine ⟨s, access, read, built, build_eq built, ?_, ?_, ?_, ?_, readRecords_absolute readRecords⟩
  · intro disk server logs done now
    exact configures_of_build read done now
  · refine ⟨t, n, layout, rfl, number, ?_⟩
    simp only [CommandLine.policy, LogPolicy.ofWords, s, Value.text, Scalar.plain, number,
      Option.getD_some, LogLayout.ofWord?_word]
  · exact clean.wellShaped gives.domain_absolute domain
  · intro g member m inside
    obtain ⟨names, qualified, _⟩ := bind_except_ok.mp built
    have listed := List.mem_flatMap.mpr ⟨g, member, inside⟩
    obtain ⟨k, _, step⟩ := exists_mem_mapM_except qualified listed
    exact fitsBefore_of_qualify gives.domain_absolute step

/-! ### Odd shapes -/

/-- Sections of the wrong kind that hold nothing, a network that is a number, one network in two
spellings, and a name in two cases. -/
def oddRoot : Value :=
  .mapping [
    (.text "zone", .mapping [(.text "domain", .ofText "example.com"),
      (.text "ns_domain", .ofText "ns.example.com"),
      (.text "ns_admin", .ofText "hostmaster@example.com")]),
    (.text "api", .list []),
    (.text "dns", .scalar (.bool false)),
    (.text "store", .ofText ""),
    (.text "logging", .mapping [(.text "level", .ofText "Warning"),
      (.text "format", .ofText "json")]),
    (.text "acl", .mapping [(.int 3221225985, .list [.ofText "test"]),
      (.text "192.0.2.1/32", .list [.ofText "TEST", .ofText "@"])]),
    (.text "addrs", .mapping [(.text "EXAMPLE.com", .list [.ofText "192.0.2.1"]),
      (.text "example.com", .list [.ofInt 3221225986, .scalar (.bool true)])])]

/-- The two entries for the network are one, and so are those for the name; the server keeps its
values in memory. -/
theorem accepted_builds_sample :
    ∃ s access, Settings.read oddRoot = .ok s ∧ s.grants.length = 1 ∧
      s.records.addresses.map (·.2.length) = [2] ∧
      CommandLine.policy s.logging = ⟨30, 20, .json⟩ ∧
      ∀ disk, (Server.build s disk).1 = .ok ⟨s, access, ⟨.memory .empty, .initial⟩⟩ := by
  have accepted : Accepted oddRoot := ⟨_, rfl⟩
  obtain ⟨s, access, read, _, build, _⟩ := accepted_builds accepted
  have known {α : Type} (f : Settings → α) (a : α)
      (found : (Settings.read oddRoot).toOption.map f = some a) : f s = a := by
    rw [read] at found
    exact Option.some.inj found
  have memory := known (·.statePath) none (by decide +kernel)
  refine ⟨s, access, read, known (·.grants.length) 1 (by decide +kernel),
    known (·.records.addresses.map (·.2.length)) [2] (by decide +kernel),
    known (CommandLine.policy ·.logging) ⟨30, 20, .json⟩ (by decide +kernel), fun disk => ?_⟩
  rw [build, memory]
  rfl

end Config

end ChallengeDns
