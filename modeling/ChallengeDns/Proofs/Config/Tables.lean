import Mathlib
import ChallengeDns.Proofs.Config.Acceptance
import ChallengeDns.Server.Basic

/-!
# Tables of records

The answers that do not change stand in two tables of the configuration.  They are checked entry by
entry and item by item, and read in the same way.
-/
namespace ChallengeDns

namespace NameMap

variable {α : Type}

variable {named : Name → Prop} {valued : α → Prop}

theorem forall_insert {m : NameMap α} (old : ∀ e ∈ m, named e.1 ∧ valued e.2) {n : Name} {a : α}
    (new : named n ∧ valued a) : ∀ e ∈ insert m n a, named e.1 ∧ valued e.2 := by
  induction m with
  | nil => simpa only [insert, List.forall_mem_singleton] using new
  | cons e m ih =>
    obtain ⟨first, rest⟩ := List.forall_mem_cons.mp old
    rw [insert]
    split
    · exact List.forall_mem_cons.mpr ⟨⟨first.1, new.2⟩, rest⟩
    · exact List.forall_mem_cons.mpr ⟨first, ih rest⟩

/-- A map has the names and the values of its entries and no others. -/
theorem forall_ofEntries (named : Name → Prop) (valued : α → Prop) {entries : List (Name × α)}
    (all : ∀ e ∈ entries, named e.1 ∧ valued e.2) :
    ∀ e ∈ ofEntries entries, named e.1 ∧ valued e.2 := by
  have step : ∀ m : NameMap α, (∀ e ∈ m, named e.1 ∧ valued e.2) →
      ∀ e ∈ entries.foldl (fun m e => insert m e.1 e.2) m, named e.1 ∧ valued e.2 := by
    induction entries with
    | nil => exact fun m old => old
    | cons e entries ih =>
      obtain ⟨first, rest⟩ := List.forall_mem_cons.mp all
      exact fun m old => ih rest (insert m e.1 e.2) (forall_insert old first)
  exact step [] nofun

theorem mem_of_get? {m : NameMap α} {n : Name} {a : α} (found : m.get? n = some a) :
    ∃ e ∈ m, e.2 = a := by
  obtain ⟨e, some, value⟩ := Option.map_eq_some_iff.mp found
  exact ⟨e, List.mem_of_find?_eq_some some, value⟩

end NameMap

namespace Config

open Settings

/-- An item of a list in a table. -/
structure Listed (root : Value) (key : Text) (e : Scalar × Value) (v : Value) : Prop where
  entry : e ∈ (tableOf root key "").1
  item : ∃ vs, e.2 = .list vs ∧ v ∈ vs

/-! ### What the checks say -/

theorem checkName_clean {label : Text} {v : Value} (clean : checkName label v = .ok []) :
    ∃ t n, v = .ofText t ∧ readName t = .ok n := by
  unfold checkName at clean
  split at clean
  next => exact absurd clean (Check.showing_ne_nil _ _)
  next t text =>
    obtain ⟨n, read, _⟩ := Check.ofName_nil clean
    exact ⟨t, n, Value.text?_eq_some.mp text, mapError_except_ok.mpr read⟩

/-- The key of an entry is the text of a name, and its value a list whose items are no problem. -/
theorem entry_clean {label problem : Text} {name : Scalar} {v : Value} {each : Value → Check}
    (clean : Check.all [checkName label (.scalar name),
      match v.items? with
      | none => .ok [problem]
      | some vs => .all (vs.map each)] = .ok []) :
    (∃ t n, name = .text t ∧ readName t = .ok n) ∧
      ∃ vs, v = .list vs ∧ ∀ i ∈ vs, each i = .ok [] := by
  have checks := (Check.all_nil_iff _).mp clean
  simp only [List.forall_mem_cons] at checks
  obtain ⟨named, items, _⟩ := checks
  obtain ⟨t, n, text, read⟩ := checkName_clean named
  cases text
  refine ⟨⟨t, n, rfl, read⟩, ?_⟩
  cases v with
  | list vs =>
    simp only [Value.items?, Check.all_nil_iff, List.forall_mem_map] at items
    exact ⟨vs, rfl, items⟩
  | _ => simp [Value.items?] at items

/-! ### Reading -/

theorem exists_readTable {α : Type} {root : Value} {key : Text}
    {item : Value → Except SettingsFault α}
    (readable : ∀ e ∈ (tableOf root key "").1, (∃ n, readName e.1.plain = .ok n) ∧
      ∀ v ∈ e.2.items?.getD [], ∃ a, item v = .ok a) :
    ∃ m, readTable root key item = .ok m := by
  obtain ⟨entries, read⟩ := exists_mapM_except (f := fun e : Scalar × Value => do
      let n ← readName e.1.plain
      return (n, ← (e.2.items?.getD []).mapM item)) fun e member => by
    obtain ⟨⟨n, named⟩, items⟩ := readable e member
    obtain ⟨as, done⟩ := exists_mapM_except items
    exact ⟨(n, as), by rw [named]; simp only [bind, Except.bind, done, pure, Except.pure]⟩
  exact ⟨.ofEntries entries, bind_except_ok.mpr ⟨entries, read, rfl⟩⟩

/-- What a table holds was read from it, under absolute names. -/
theorem forall_readTable {α : Type} {root : Value} {key : Text}
    {item : Value → Except SettingsFault α} {m : NameMap (List α)}
    (read : readTable root key item = .ok m) :
    ∀ e ∈ m, e.1.absolute = true ∧ ∀ a ∈ e.2, ∃ v, item v = .ok a := by
  obtain ⟨entries, done, made⟩ := bind_except_ok.mp read
  cases made
  refine NameMap.forall_ofEntries (·.absolute = true) (fun as => ∀ a ∈ as, ∃ v, item v = .ok a)
    fun e present => ?_
  obtain ⟨w, _, step⟩ := mem_mapM_except done present
  obtain ⟨n, name, step⟩ := bind_except_ok.mp step
  obtain ⟨as, items, step⟩ := bind_except_ok.mp step
  cases step
  refine ⟨readName_absolute name, fun a inside => ?_⟩
  obtain ⟨v, _, made⟩ := mem_mapM_except items inside
  exact ⟨v, made⟩

theorem Accepted.records {root : Value} (accepted : Accepted root) :
    ∃ records, readRecords root = .ok records := by
  obtain ⟨_, _, addressTable, nameServerTable⟩ := accepted.checks
  -- What the checks find clean is what the reader can read, entry by entry.
  have first : ∃ m, readTable root "addrs" readAddress = .ok m := by
    refine exists_readTable fun e member => ?_
    obtain ⟨⟨t, n, key, named⟩, vs, list, items⟩ :=
      entry_clean (forall_entries_clean addressTable e member)
    refine ⟨⟨n, by rw [key]; exact named⟩, fun v inside => ?_⟩
    rw [list] at inside
    have valid := (Check.requireOf_nil_iff _ _ _).mp (items v inside)
    obtain ⟨a, read⟩ := Option.isSome_iff_exists.mp valid
    exact ⟨a, by rw [readAddress, read]⟩
  have second : ∃ m, readTable root "ns_records" (fun v => readName v.text) = .ok m := by
    refine exists_readTable fun e member => ?_
    obtain ⟨⟨t, n, key, named⟩, vs, list, items⟩ :=
      entry_clean (forall_entries_clean nameServerTable e member)
    refine ⟨⟨n, by rw [key]; exact named⟩, fun v inside => ?_⟩
    rw [list] at inside
    obtain ⟨t, n, text, read⟩ := checkName_clean (items v inside)
    cases text
    exact ⟨n, read⟩
  obtain ⟨addresses, first⟩ := first
  obtain ⟨nameServers, second⟩ := second
  refine ⟨⟨addresses, nameServers⟩, bind_except_ok.mpr ⟨addresses, first, ?_⟩⟩
  exact bind_except_ok.mpr ⟨nameServers, second, rfl⟩

/-! ### Authorities -/

/-- An authority has its zone, its access control and its records from a configuration. -/
structure Configures (root : Value) (a : Authority) : Prop where
  gives : Gives root a.zone a.access
  records : readRecords root = .ok a.records

theorem Accepted.configures {root : Value} (accepted : Accepted root) (now : DateTime) :
    ∃ a, Configures root a ∧ a.now = now := by
  obtain ⟨zone, access, gives⟩ := accepted.gives
  obtain ⟨records, read⟩ := accepted.records
  exact ⟨⟨zone, records, access, now⟩, ⟨gives, read⟩, rfl⟩

/-- A server has the settings that it is built from, and the access control of their grants. -/
theorem build_ok {settings : Settings} {disk : Text → Disk} {server : Server} {logs : List LogEntry}
    (built : Server.build settings disk = (.ok server, logs)) : server.settings = settings ∧
      AccessControl.ofGrants settings.zone.domain settings.grants = .ok server.access := by
  unfold Server.build at built
  dsimp only at built
  cases opened : (Store.configured settings.statePath disk).result with
  | error e => simp [opened] at built
  | ok s =>
    cases made : AccessControl.ofGrants settings.zone.domain settings.grants with
    | error e => simp [opened, made] at built
    | ok access =>
      simp only [opened, made, Prod.mk.injEq, Except.ok.injEq] at built
      obtain ⟨rfl, _⟩ := built
      exact ⟨rfl, rfl⟩

/-- A server that is built from the settings in a configuration is configured by it. -/
theorem configures_of_build {root : Value} {settings : Settings} {disk : Text → Disk}
    {server : Server} {logs : List LogEntry} (settled : Settings.read root = .ok settings)
    (built : Server.build settings disk = (.ok server, logs)) (now : DateTime) :
    Configures root (server.authority now) := by
  obtain ⟨rfl, access⟩ := build_ok built
  obtain ⟨zone, readZone, rest⟩ := bind_except_ok.mp settled
  obtain ⟨grants, readGrants, rest⟩ := bind_except_ok.mp rest
  obtain ⟨records, readRecords, rest⟩ := bind_except_ok.mp rest
  have settings := Except.ok.inj rest
  simp only [← settings] at access
  refine ⟨⟨?_, grants, readGrants, ?_⟩, ?_⟩ <;> simp only [Server.authority, ← settings]
  · exact readZone
  · exact access
  · exact readRecords

/-- The tables of a configured authority are read from its configuration. -/
theorem Configures.tables {root : Value} {a : Authority} (configures : Configures root a) :
    readTable root "addrs" readAddress = .ok a.records.addresses ∧
      readTable root "ns_records" (fun v => readName v.text) = .ok a.records.nameServers := by
  obtain ⟨addresses, first, rest⟩ := bind_except_ok.mp configures.records
  obtain ⟨nameServers, second, rest⟩ := bind_except_ok.mp rest
  have records := Except.ok.inj rest
  rw [← records]
  exact ⟨first, second⟩

theorem Configures.targets_absolute {root : Value} {a : Authority} (configures : Configures root a)
    {n : Name} {targets : List Name} (found : a.records.nameServers.get? n = some targets) :
    ∀ target ∈ targets, target.absolute = true := by
  intro target inside
  obtain ⟨e, member, rfl⟩ := NameMap.mem_of_get? found
  obtain ⟨v, read⟩ := (forall_readTable configures.tables.2 e member).2 target inside
  exact readName_absolute read

end Config

end ChallengeDns
