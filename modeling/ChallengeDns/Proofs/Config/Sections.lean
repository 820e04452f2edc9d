import Mathlib
import ChallengeDns.Proofs.Config.Reporting

/-!
# Section by section

Problems in one section of the configuration never hide problems in another one.  Every check looks
at one section alone and reports in its name, and the access table's check looks at the zone's
domain besides.
-/
namespace ChallengeDns

namespace Check

/-- Whatever a check finds, it reports under a name. -/
def ReportsAs (name : Text) (c : Check) : Prop :=
  ∀ problems, c = .ok problems → ∀ p ∈ problems, name <+: p

section Combinators

variable {name label problem : Text}

theorem reportsAs_ok {problems : List Text} (named : ∀ p ∈ problems, name <+: p) :
    ReportsAs name (.ok problems) := by
  rintro _ ⟨⟩
  exact named

theorem reportsAs_nil : ReportsAs name (.ok []) := reportsAs_ok (List.forall_mem_nil _)

theorem reportsAs_error (f : CheckFault) : ReportsAs name (.error f) := nofun

theorem reportsAs_one (named : name <+: problem) : ReportsAs name (.ok [problem]) :=
  reportsAs_ok (List.forall_mem_singleton.mpr named)

theorem reportsAs_require {condition : Bool} (named : name <+: problem) :
    ReportsAs name (require condition problem) := by
  cases condition with
  | true => exact reportsAs_nil
  | false => exact reportsAs_one named

theorem reportsAs_showing {v : Value} (named : name <+: problem) :
    ReportsAs name (showing v problem) := by
  simp only [showing]
  split
  · exact reportsAs_one named
  · exact reportsAs_error _

theorem reportsAs_requireOf {v : Value} {condition : Bool} (named : name <+: problem) :
    ReportsAs name (requireOf v condition problem) := by
  cases condition with
  | true => exact reportsAs_nil
  | false => exact reportsAs_showing named

theorem reportsAs_ofName {α : Type} {r : Except NameError α} {next : α → Check}
    (named : name <+: label) (rest : ∀ a, ReportsAs name (next a)) :
    ReportsAs name (ofName label r next) := by
  cases r with
  | ok a => exact rest a
  | error e =>
    apply reportsAs_one
    apply List.prefix_append_of_prefix
    exact List.prefix_append_of_prefix named

theorem all_cons_ok {c : Check} {cs : List Check} {problems : List Text} :
    all (c :: cs) = .ok problems ↔
      ∃ first rest, c = .ok first ∧ all cs = .ok rest ∧ first ++ rest = problems := by
  cases c with
  | error f => simp [all, bind, Except.bind]
  | ok first => cases rest : all cs <;> simp [all, rest, bind, Except.bind, pure, Except.pure]

theorem all_append_ok {cs ds : List Check} {problems : List Text} :
    all (cs ++ ds) = .ok problems ↔
      ∃ first rest, all cs = .ok first ∧ all ds = .ok rest ∧ first ++ rest = problems := by
  induction cs generalizing problems with
  | nil => simp [all]
  | cons c cs ih =>
    simp only [List.cons_append, all_cons_ok, ih]
    constructor
    · rintro ⟨first, _, done, ⟨more, rest, others, last, rfl⟩, rfl⟩
      exact ⟨first ++ more, rest, ⟨first, more, done, others, rfl⟩, last, by simp⟩
    · rintro ⟨_, rest, ⟨first, more, done, others, rfl⟩, last, rfl⟩
      exact ⟨first, more ++ rest, done, ⟨more, rest, others, last, rfl⟩, by simp⟩

/-- No check suppresses what another one finds. -/
theorem all_ok_iff {cs : List Check} {problems : List Text} :
    all cs = .ok problems ↔
      ∃ reports, List.Forall₂ (fun c r => c = .ok r) cs reports ∧ problems = reports.flatten := by
  induction cs generalizing problems with
  | nil => simp [all, eq_comm]
  | cons c cs ih =>
    simp only [all_cons_ok, ih, List.forall₂_cons_left_iff]
    constructor
    · rintro ⟨first, _, done, ⟨reports, others, rfl⟩, rfl⟩
      exact ⟨first :: reports, ⟨first, reports, done, others, rfl⟩, rfl⟩
    · rintro ⟨_, ⟨first, reports, done, others, rfl⟩, rfl⟩
      exact ⟨first, reports.flatten, done, ⟨reports, others, rfl⟩, rfl⟩

/-- Whatever is reported was found by one of the checks. -/
theorem mem_all {cs : List Check} {problems : List Text} (done : all cs = .ok problems)
    {p : Text} (member : p ∈ problems) : ∃ c ∈ cs, ∃ report, c = .ok report ∧ p ∈ report := by
  induction cs generalizing problems with
  | nil =>
    cases done
    cases member
  | cons c cs ih =>
    obtain ⟨first, rest, one, others, rfl⟩ := all_cons_ok.mp done
    rcases List.mem_append.mp member with here | later
    · exact ⟨c, List.mem_cons_self, first, one, here⟩
    · obtain ⟨d, inside, found⟩ := ih others later
      exact ⟨d, List.mem_cons_of_mem c inside, found⟩

theorem reportsAs_all {cs : List Check} (named : ∀ c ∈ cs, ReportsAs name c) :
    ReportsAs name (all cs) := by
  intro problems done p member
  obtain ⟨c, inside, report, one, here⟩ := mem_all done member
  exact named c inside report one p here

end Combinators

/-- What is reported under a name comes from the checks that report under it. -/
theorem filter_reports {checks : List (Text × Check)} {problems : List Text} {key : Text}
    (named : ∀ e ∈ checks, ReportsAs e.1 e.2)
    (apart : ∀ e ∈ checks, ∀ p, e.1 <+: p → key <+: p → e.1 = key)
    (done : all (checks.map (·.2)) = .ok problems) :
    all ((checks.filter (·.1 = key)).map (·.2)) = .ok (problems.filter (key.isPrefixOf ·)) := by
  induction checks generalizing problems with
  | nil =>
    cases done
    rfl
  | cons e checks ih =>
    obtain ⟨first, rest, one, others, rfl⟩ := all_cons_ok.mp done
    obtain ⟨here, named⟩ := List.forall_mem_cons.mp named
    obtain ⟨alone, apart⟩ := List.forall_mem_cons.mp apart
    have later := ih named apart others
    have begins := here first one
    rw [List.filter_append]
    by_cases same : e.1 = key
    · -- Everything that this check finds is kept.
      have kept : first.filter (key.isPrefixOf ·) = first := by
        rw [List.filter_eq_self]
        intro p member
        exact List.isPrefixOf_iff_prefix.mpr (same ▸ begins p member)
      rw [List.filter_cons_of_pos (by simpa using same), List.map_cons, kept]
      exact all_cons_ok.mpr ⟨first, _, one, later, rfl⟩
    · -- A text under both names would make them one.
      have dropped : first.filter (key.isPrefixOf ·) = [] := by
        rw [List.filter_eq_nil_iff]
        intro p member starts
        exact same (alone p (begins p member) (List.isPrefixOf_iff_prefix.mp starts))
      rw [List.filter_cons_of_neg (by simpa using same), dropped]
      exact later

end Check

namespace Config

open Check

/-- The sections of a configuration. -/
def sectionNames : List Text :=
  ["zone", "api", "dns", "acl", "addrs", "ns_records", "logging", "store"]

/-- The problems whose text begins with the name of a section. -/
def problemsOf (key : Text) (f : Findings) : List Text :=
  f.problems.filter (key.isPrefixOf ·)

/-- Two configurations have the same section; for the access table, also the same domain. -/
structure Agree (key : Text) (root root' : Value) : Prop where
  data : root.get? key = root'.get? key
  domain : key = "acl" →
    (sectionOf root "zone").get? "domain" = (sectionOf root' "zone").get? "domain"

/-- A check that looks at one section and reports in its name. -/
structure Owned (key : Text) (c : Value → Check) : Prop where
  known : key ∈ sectionNames
  named : ∀ root, ReportsAs key (c root)
  -- Wherever two configurations agree, even the check that stops with a fault does the same.
  own : ∀ root root', Agree key root root' → c root = c root'

/-- A check of a section, whatever else the configuration holds. -/
def within (key : Text) (c : Value → Check) : Text × (Value → Check) :=
  (key, fun root => c (sectionOf root key))

def listenerChecks : List (Text × (Value → Check)) :=
  within "api" checkBind ::
    portFields.map (fun f => within f.1 (checkPort f.1 · f.2)) ++
    periodFields.map (fun f => within f.1 (checkPositive f.1 · f.2)) ++
    bindFields.map (fun f => within f.1 (checkAddress f.1 · f.2))

def tableChecks : List (Text × (Value → Check)) := [
  -- Qualifying the subdomains takes the domain from another section.
  ("acl", fun root => checkGrants root (zoneDomain? (sectionOf root "zone"))),
  ("addrs", checkAddressTable),
  ("ns_records", checkNameServerTable)]

/-- The checks in their order, each with its section. -/
def checks : List (Text × (Value → Check)) :=
  (["zone", "api", "dns", "logging", "store"] : List Text).map
      (fun key => (key, (checkSection · key))) ++
    within "zone" checkZone :: (listenerChecks ++ (tableChecks ++
    [within "logging" checkLevel, within "logging" checkFormat, within "store" checkStatePath]))

theorem check_problems {root : Value} {f : Findings} (checked : check root = .ok f) :
    all (checks.map fun e => e.2 root) = .ok f.problems := by
  obtain ⟨sections, first, checked⟩ := bind_except_ok.mp checked
  obtain ⟨zone, second, checked⟩ := bind_except_ok.mp checked
  obtain ⟨contact, _, checked⟩ := bind_except_ok.mp checked
  obtain ⟨rest, third, checked⟩ := bind_except_ok.mp checked
  cases checked
  -- The listeners are checked in a group of their own.
  obtain ⟨listeners, others, fourth, fifth, rfl⟩ := all_cons_ok.mp third
  have grouped := all_append_ok.mpr ⟨_, _, fourth, fifth, rfl⟩
  have zoned := all_cons_ok.mpr ⟨_, _, second, grouped, rfl⟩
  rw [List.append_assoc]
  exact all_append_ok.mpr ⟨_, _, first, zoned, rfl⟩

/-! ### Each check has its section -/

section Named

variable {name key : Text} {part : Value}

theorem named_checkSection (root : Value) : ReportsAs key (checkSection root key) := by
  simp only [checkSection]
  split
  · exact reportsAs_nil
  · apply reportsAs_require
    simp only [List.append_assoc]
    exact List.prefix_append key _
  · exact reportsAs_nil

theorem named_checkZone : ReportsAs "zone" (checkZone part) := by
  have readable (key : Text) : ReportsAs "zone" (checkZoneName part key) := by
    simp only [checkZoneName]
    split
    · exact reportsAs_nil
    · exact reportsAs_ofName (List.prefix_append_of_prefix (by decide)) fun _ => reportsAs_nil
  apply reportsAs_all
  simp only [List.forall_mem_cons]
  exact ⟨reportsAs_require (by decide), reportsAs_require (by decide),
    reportsAs_require (by decide), readable _, readable _, List.forall_mem_nil _⟩

theorem named_checkBind : ReportsAs "api" (checkBind part) := by
  simp only [checkBind, List.append_assoc]
  split
  · exact reportsAs_showing (List.prefix_append_of_prefix (by decide))
  · exact reportsAs_requireOf (List.prefix_append_of_prefix (by decide))

theorem named_field {fits : Value → Bool} {problem : Value → Text} :
    ReportsAs name (match part.get? key with
      | none => .ok []
      | some v => requireOf v (fits v) (name ++ problem v)) := by
  cases part.get? key with
  | none => exact reportsAs_nil
  | some v => exact reportsAs_requireOf (List.prefix_append name _)

theorem named_checkPort : ReportsAs name (checkPort name part key) := by
  simp only [checkPort, List.append_assoc]
  exact named_field

theorem named_checkPositive : ReportsAs name (checkPositive name part key) := by
  simp only [checkPositive, List.append_assoc]
  exact named_field

theorem named_checkAddress : ReportsAs name (checkAddress name part key) := by
  simp only [checkAddress, List.append_assoc]
  exact named_field

theorem named_checkLevel : ReportsAs "logging" (checkLevel part) := by
  simp only [checkLevel, List.append_assoc]
  exact reportsAs_requireOf (List.prefix_append_of_prefix (by decide))

theorem named_checkFormat : ReportsAs "logging" (checkFormat part) := by
  simp only [checkFormat, List.append_assoc]
  split
  · exact reportsAs_error _
  · exact reportsAs_error _
  · exact reportsAs_requireOf (List.prefix_append_of_prefix (by decide))

theorem named_checkStatePath : ReportsAs "store" (checkStatePath part) := by
  simp only [checkStatePath]
  split
  · exact reportsAs_nil
  · exact reportsAs_require (by decide)

end Named

section Tables

variable {root : Value} {name label : Text}

theorem named_checkName {v : Value} (labelled : name <+: label) :
    ReportsAs name (checkName label v) := by
  simp only [checkName, List.append_assoc]
  split
  · exact reportsAs_showing (List.prefix_append_of_prefix labelled)
  · exact reportsAs_ofName labelled fun _ => reportsAs_nil

theorem named_items {v : Value} {problem : Text} {each : Value → Check} (listed : name <+: problem)
    (items : ∀ i, ReportsAs name (each i)) :
    ReportsAs name (match v.items? with
      | none => .ok [problem]
      | some vs => all (vs.map each)) := by
  cases v.items? with
  | none => exact reportsAs_one listed
  | some vs => exact reportsAs_all (List.forall_mem_map.mpr fun i _ => items i)

theorem named_table {key what : Text} {each : Scalar × Value → Check}
    (entries : ∀ e, ReportsAs key (each e)) :
    ReportsAs key (all (.ok (tableOf root key what).2 :: (tableOf root key what).1.map each)) := by
  apply reportsAs_all
  refine List.forall_mem_cons.mpr ⟨reportsAs_ok ?_, List.forall_mem_map.mpr fun e _ => entries e⟩
  simp only [tableOf, List.append_assoc]
  split
  · exact List.forall_mem_nil _
  · split
    · exact List.forall_mem_singleton.mpr (List.prefix_append key _)
    · exact List.forall_mem_nil _
  · exact List.forall_mem_nil _

theorem named_checkSubdomain {domain : Option Name} {net : Scalar} {sub : Value} :
    ReportsAs "acl" (checkSubdomain domain net sub) := by
  -- What is shown of the network stands behind the name of the section.
  have label : Text.ofString "acl" <+: "acl['" ++ net.plain ++ "']" := by
    rw [List.append_assoc]
    exact List.prefix_append_of_prefix (by decide)
  have behind (t : Text) : Text.ofString "acl" <+: "acl['" ++ net.plain ++ "']" ++ t :=
    List.prefix_append_of_prefix label
  simp only [checkSubdomain]
  split
  · exact reportsAs_showing (List.prefix_append_of_prefix (behind _))
  · refine reportsAs_ofName label fun n => ?_
    split
    · exact reportsAs_one (List.prefix_append_of_prefix (List.prefix_append_of_prefix (behind _)))
    · split
      · exact reportsAs_nil
      · exact reportsAs_ofName label fun _ => reportsAs_nil

theorem named_checkGrants {domain : Option Name} : ReportsAs "acl" (checkGrants root domain) := by
  refine named_table fun e => ?_
  apply reportsAs_all
  simp only [List.append_assoc, List.forall_mem_cons]
  exact ⟨reportsAs_requireOf (List.prefix_append_of_prefix (by decide)),
    named_items (List.prefix_append_of_prefix (by decide)) fun _ => named_checkSubdomain,
    List.forall_mem_nil _⟩

theorem named_checkAddressTable : ReportsAs "addrs" (checkAddressTable root) := by
  refine named_table fun e => ?_
  apply reportsAs_all
  simp only [List.append_assoc, List.forall_mem_cons]
  exact ⟨named_checkName (List.prefix_append_of_prefix (by decide)),
    named_items (List.prefix_append_of_prefix (by decide)) fun _ =>
      reportsAs_requireOf (List.prefix_append_of_prefix (by decide)), List.forall_mem_nil _⟩

theorem named_checkNameServerTable : ReportsAs "ns_records" (checkNameServerTable root) := by
  refine named_table fun e => ?_
  apply reportsAs_all
  simp only [List.append_assoc, List.forall_mem_cons]
  exact ⟨named_checkName (List.prefix_append_of_prefix (by decide)),
    named_items (List.prefix_append_of_prefix (by decide)) fun _ =>
      named_checkName (List.prefix_append_of_prefix (by decide)), List.forall_mem_nil _⟩

end Tables

theorem sectionOf_congr {key : Text} {root root' : Value} (data : root.get? key = root'.get? key) :
    sectionOf root key = sectionOf root' key := by
  simp only [sectionOf, data]

theorem owned_within {key : Text} {c : Value → Check} (known : key ∈ sectionNames)
    (named : ∀ part, ReportsAs key (c part)) : Owned key (within key c).2 where
  known := known
  named _ := named _
  own _ _ agree := congrArg c (sectionOf_congr agree.data)

theorem owned_checkSection {key : Text} (known : key ∈ sectionNames) :
    Owned key (checkSection · key) where
  known := known
  named := named_checkSection
  own _ _ agree := by simp only [checkSection, agree.data]

theorem owned_listenerChecks : ∀ e ∈ listenerChecks, Owned e.1 e.2 := by
  have known {fields : List (Text × Text)} (all : ∀ f ∈ fields, f.1 ∈ sectionNames)
      {c : Text → Value → Text → Check}
      (named : ∀ name part key, ReportsAs name (c name part key)) :
      ∀ e ∈ fields.map (fun f => within f.1 (c f.1 · f.2)), Owned e.1 e.2 := by
    refine List.forall_mem_map.mpr fun f member => ?_
    exact owned_within (all f member) fun part => named f.1 part f.2
  simp only [listenerChecks, List.cons_append, List.forall_mem_cons, List.forall_mem_append]
  exact ⟨owned_within (by decide) fun _ => named_checkBind,
    ⟨known (by decide) fun _ _ _ => named_checkPort,
      known (by decide) fun _ _ _ => named_checkPositive⟩,
    known (by decide) fun _ _ _ => named_checkAddress⟩

theorem owned_tableChecks : ∀ e ∈ tableChecks, Owned e.1 e.2 := by
  have rows {key what : Text} {root root' : Value} (agree : Agree key root root') :
      tableOf root key what = tableOf root' key what := by
    simp only [tableOf, agree.data]
  simp only [tableChecks, List.forall_mem_cons]
  refine ⟨⟨by decide, fun _ => named_checkGrants, ?_⟩,
    ⟨by decide, fun _ => named_checkAddressTable, ?_⟩,
    ⟨by decide, fun _ => named_checkNameServerTable, ?_⟩, List.forall_mem_nil _⟩
  · intro root root' agree
    -- The domain is read from nothing but its field.
    simp only [checkGrants, zoneDomain?, filled?, rows agree, agree.domain rfl]
  · intro root root' agree
    simp only [checkAddressTable, rows agree]
  · intro root root' agree
    simp only [checkNameServerTable, rows agree]

theorem owned_checks : ∀ e ∈ checks, Owned e.1 e.2 := by
  have mappings : ∀ key ∈ (["zone", "api", "dns", "logging", "store"] : List Text),
      key ∈ sectionNames := by decide
  refine List.forall_mem_append.mpr ⟨?_, ?_⟩
  · exact List.forall_mem_map.mpr fun key member => owned_checkSection (mappings key member)
  simp only [List.forall_mem_append, List.forall_mem_cons]
  refine ⟨?_, owned_listenerChecks, owned_tableChecks, ?_, ?_, ?_, List.forall_mem_nil _⟩
  · exact owned_within (by decide) fun _ => named_checkZone
  · exact owned_within (by decide) fun _ => named_checkLevel
  · exact owned_within (by decide) fun _ => named_checkFormat
  · exact owned_within (by decide) fun _ => named_checkStatePath

/-! ### All together -/

theorem sectionNames_apart : ∀ m ∈ sectionNames, ∀ n ∈ sectionNames, m <+: n → m = n := by decide

/-- No text begins with the names of two sections. -/
theorem section_unique {m n p : Text} (left : m ∈ sectionNames) (right : n ∈ sectionNames)
    (first : m <+: p) (second : n <+: p) : m = n := by
  rcases List.prefix_or_prefix_of_prefix first second with shorter | longer
  · exact sectionNames_apart m left n right shorter
  · exact (sectionNames_apart n right m left longer).symm

section Checked

variable {root : Value} {f : Findings} (checked : check root = .ok f)

include checked

/-- What is reported for a section comes from its own checks. -/
theorem check_problemsOf {key : Text} (known : key ∈ sectionNames) :
    all ((checks.filter (·.1 = key)).map fun e => e.2 root) = .ok (problemsOf key f) := by
  have results : checks.map (fun e => e.2 root) =
      (checks.map fun e => (e.1, e.2 root)).map (·.2) := by simp
  have done := check_problems checked
  rw [results] at done
  have named : ∀ e ∈ checks.map fun e => (e.1, e.2 root), ReportsAs e.1 e.2 :=
    List.forall_mem_map.mpr fun e member => (owned_checks e member).named root
  have own := filter_reports named
    (List.forall_mem_map.mpr fun e member _ => section_unique (owned_checks e member).known known)
    done
  rw [List.filter_map, List.map_map] at own
  exact own

theorem problemsOf_congr {root' : Value} {f' : Findings} (checked' : check root' = .ok f')
    {key : Text} (known : key ∈ sectionNames) (agree : Agree key root root') :
    problemsOf key f = problemsOf key f' := by
  have same : (checks.filter (·.1 = key)).map (fun e => e.2 root) =
      (checks.filter (·.1 = key)).map fun e => e.2 root' := by
    refine List.map_congr_left fun e member => ?_
    obtain ⟨inside, name⟩ := List.mem_filter.mp member
    have name : e.1 = key := by simpa using name
    exact (owned_checks e inside).own root root' (name ▸ agree)
  have left := check_problemsOf checked known
  rw [same] at left
  exact Except.ok.inj (left.symm.trans (check_problemsOf checked' known))

/-- Every problem is reported for a section. -/
theorem exists_section {p : Text} (member : p ∈ f.problems) : ∃ key ∈ sectionNames, key <+: p := by
  obtain ⟨c, inside, report, one, here⟩ := mem_all (check_problems checked) member
  obtain ⟨e, listed, rfl⟩ := List.mem_map.mp inside
  have owned := owned_checks e listed
  exact ⟨e.1, owned.known, owned.named root report one p here⟩

end Checked

/-- The sections that are tables. -/
def tableNames : List Text := ["acl", "addrs", "ns_records"]

/-- The check of one entry of a table. -/
def checkEntry (domain : Option Name) (key : Text) (e : Scalar × Value) : Check :=
  if key = "acl" then checkGrant domain e.1 e.2
  else if key = "addrs" then checkAddresses e.1 e.2
  else checkNameServers e.1 e.2

/-- The problems of a table are the problems of its entries, each of which is checked for itself. -/
theorem problemsOf_entries {root : Value} {f : Findings} (checked : check root = .ok f) {key : Text}
    (table : key ∈ tableNames) {es : List (Scalar × Value)}
    (data : root.get? key = some (.mapping es)) :
    all (es.map (checkEntry (zoneDomain? (sectionOf root "zone")) key)) =
      .ok (problemsOf key f) := by
  have known : ∀ key ∈ tableNames, key ∈ sectionNames := by decide
  have own := check_problemsOf checked (known key table)
  have rows (what : Text) : tableOf root key what = (es, []) := by simp only [tableOf, data]
  -- A table has a single check, so what is reported for it is what that check finds.
  have single (c : Value → Check) (filtered : checks.filter (·.1 = key) = [(key, c)]) :
      c root = .ok (problemsOf key f) := by
    rw [filtered] at own
    obtain ⟨first, rest, one, none, whole⟩ := all_cons_ok.mp own
    cases none
    rw [List.append_nil] at whole
    exact whole ▸ one
  -- The check of the table as a whole finds nothing, since it is a mapping.
  have entries {each : Scalar × Value → Check} (problems : List Text)
      (done : all (.ok [] :: es.map each) = .ok problems) : all (es.map each) = .ok problems := by
    obtain ⟨_, rest, none, others, whole⟩ := all_cons_ok.mp done
    cases none
    exact whole ▸ others
  apply entries
  simp only [tableNames, List.mem_cons, List.not_mem_nil, or_false] at table
  rcases table with rfl | rfl | rfl
  · have done := single _ rfl
    simp only [checkGrants, rows] at done
    exact done
  · have done := single _ rfl
    simp only [checkAddressTable, rows] at done
    exact done
  · have done := single _ rfl
    simp only [checkNameServerTable, rows] at done
    exact done

/-- Problems in one section never hide problems in another one.  When the checks come to an end,
what they report for a section depends on that section alone, and for the access table on the zone's
domain besides: any two configurations that agree there are told the same.  What they report for a
table is what they report for each of its entries, one after the other.  Every problem is reported
for one section, so a configuration is accepted exactly when nothing is reported for any of them. -/
theorem sections_independent {root : Value} {f : Findings} (checked : check root = .ok f) :
    (∀ key ∈ sectionNames, ∀ root' f', check root' = .ok f' → Agree key root root' →
      problemsOf key f = problemsOf key f') ∧
    (∀ key ∈ tableNames, ∀ es, root.get? key = some (.mapping es) → ∃ reports,
      List.Forall₂ (fun e report =>
        checkEntry (zoneDomain? (sectionOf root "zone")) key e = .ok report) es reports ∧
      problemsOf key f = reports.flatten) ∧
    (∀ p ∈ f.problems, ∃! key, key ∈ sectionNames ∧ key <+: p) ∧
    (Accepted root ↔ ∀ key ∈ sectionNames, problemsOf key f = []) := by
  refine ⟨?_, ?_, ?_, ?_⟩
  · intro key known root' f' checked' agree
    exact problemsOf_congr checked checked' known agree
  · intro key table es data
    obtain ⟨reports, related, whole⟩ := all_ok_iff.mp (problemsOf_entries checked table data)
    exact ⟨reports, List.forall₂_map_left_iff.mp related, whole⟩
  · intro p member
    obtain ⟨key, known, named⟩ := exists_section checked member
    exact ⟨key, ⟨known, named⟩, fun other found => section_unique found.1 known found.2 named⟩
  · constructor
    · rintro ⟨warnings, clean⟩ key _
      cases checked.symm.trans clean
      rfl
    · intro clean
      -- Every problem belongs to a section, and no section has one.
      have none : f.problems = [] := by
        rw [List.eq_nil_iff_forall_not_mem]
        intro p member
        obtain ⟨key, known, named⟩ := exists_section checked member
        have kept : p ∈ problemsOf key f :=
          List.mem_filter.mpr ⟨member, List.isPrefixOf_iff_prefix.mpr named⟩
        rw [clean key known] at kept
        cases kept
      exact ⟨f.warnings, by rw [checked, ← none]⟩

/-- A table with one bad network and one bad list of subdomains. -/
def sampleTable : Scalar × Value :=
  (.text "acl", .mapping [(.text "lan", .list [.ofText "a"]), (.text "10.0.0.0/8", .ofText "b")])

/-- The problems of a table with a bad section beside it and alone. -/
theorem sections_independent_sample :
    ∃ f f', check (.mapping [sampleTable]) = .ok f ∧
      check (.mapping [(.text "api", .ofInt 5), sampleTable]) = .ok f' ∧
      f'.problems.length = f.problems.length + 1 ∧ problemsOf "acl" f' = problemsOf "acl" f ∧
      problemsOf "acl" f = ([
        "acl key 'lan' is not a valid network",
        "acl['10.0.0.0/8'] must be a list of subdomains"] : List Text) := by
  have problems (root : Value) (reported : List Text)
      (found : (check root).toOption.map Findings.problems = some reported) :
      ∃ f, check root = .ok f ∧ f.problems = reported := by
    cases checked : check root with
    | error e => simp [checked, Except.toOption] at found
    | ok f => exact ⟨f, rfl, by simpa [checked, Except.toOption] using found⟩
  let missing : List Text :=
    ["zone.domain is required", "zone.ns_domain is required", "zone.ns_admin is required",
      "acl key 'lan' is not a valid network", "acl['10.0.0.0/8'] must be a list of subdomains"]
  obtain ⟨f, checked, few⟩ := problems (.mapping [sampleTable]) missing (by decide +kernel)
  obtain ⟨f', checked', more⟩ := problems (.mapping [(.text "api", .ofInt 5), sampleTable])
    ("api must be a mapping (got int)" :: missing) (by decide +kernel)
  have agree : Agree "acl" (.mapping [(.text "api", .ofInt 5), sampleTable])
      (.mapping [sampleTable]) := by
    have other : Scalar.sameKey (.text "api") (.text "acl") = false := by decide
    constructor
    · simp [Value.get?, Value.lookup, other]
    · intro _
      cbv
  refine ⟨f, f', checked, checked', by rw [few, more]; rfl, ?_, ?_⟩
  · exact (sections_independent checked').1 "acl" (by decide) _ f checked agree
  · rw [problemsOf, few]
    decide

end Config

end ChallengeDns
