import Mathlib
import ChallengeDns.Config.Loader
import ChallengeDns.Proofs.Config.References
import ChallengeDns.Proofs.Config.Tables

/-!
# Configurations that are reported on

Whoever gives the server a bad configuration should get the list of its problems.  Two things keep
the checks from making it: a layout of the log that is a list or a mapping, and a number that is too
long for the message about it.  Before the checks, the resolution of references can stop where
nothing is reported.  Anything else that can be parsed is accepted or reported on.
-/
namespace ChallengeDns

namespace Check

/-- A check ends in no list of problems. -/
def Fails {α : Type} (c : Except CheckFault α) : Prop := ∃ f, c = .error f

section Combinators

variable {v : Value} {condition : Bool} {problem label : Text}

@[simp] theorem not_fails_ok {α : Type} (a : α) : ¬Fails (.ok a) := nofun

@[simp] theorem fails_error {α : Type} (f : CheckFault) : Fails (.error f : Except CheckFault α) :=
  ⟨f, rfl⟩

/-- If it does not matter what comes out of a step, the next one fails or does not fail anyway. -/
theorem fails_bind {α β : Type} {c : Except CheckFault α} {next : α → Except CheckFault β}
    {P : Prop} (rest : ∀ a, Fails (next a) ↔ P) : Fails (c >>= next) ↔ Fails c ∨ P := by
  cases c with
  | error f => simp [bind, Except.bind]
  | ok a => simpa [bind, Except.bind] using rest a

theorem all_fails_iff (cs : List Check) : Fails (all cs) ↔ ∃ c ∈ cs, Fails c := by
  induction cs with
  | nil => simp [all]
  | cons c cs ih =>
    rw [List.exists_mem_cons_iff, ← ih]
    cases first : c with
    | error f => simp [all, bind, Except.bind]
    | ok problems =>
      cases rest : all cs with
      | error f => simp [all, bind, Except.bind, rest]
      | ok more => simp [all, bind, Except.bind, pure, Except.pure, rest]

@[simp] theorem not_fails_require : ¬Fails (require condition problem) := nofun

@[simp] theorem showing_fails_iff : Fails (showing v problem) ↔ v.isShown = false := by
  unfold showing
  cases v.isShown <;> simp

@[simp] theorem requireOf_fails_iff :
    Fails (requireOf v condition problem) ↔ condition = false ∧ v.isShown = false := by
  unfold requireOf
  cases condition <;> simp

theorem ofName_fails_iff {α : Type} {r : Except NameError α} {next : α → Check} :
    Fails (ofName label r next) ↔ ∃ a, r = .ok a ∧ Fails (next a) := by
  cases r <;> simp [ofName]

/-- The items of a list are checked one by one; anything else is one problem. -/
theorem items_fails_iff {each : Value → Check} :
    Fails (match v.items? with
      | none => .ok [problem]
      | some vs => all (vs.map each)) ↔ ∃ vs, v = .list vs ∧ ∃ i ∈ vs, Fails (each i) := by
  cases v with
  | list vs => simp [Value.items?, all_fails_iff]
  | _ => simp [Value.items?]

end Combinators

end Check

namespace Config

open Check

/-! ### What keeps the checks from reporting -/

/-- The fields that hold ports. -/
def portFields : List (Text × Text) := [("api", "port"), ("dns", "udp_port"), ("dns", "tcp_port")]

/-- The fields that hold lengths of time. -/
def periodFields : List (Text × Text) :=
  [("api", "timeout_seconds"), ("api", "graceful_timeout_seconds"), ("dns", "tcp_timeout_seconds")]

/-- The fields that hold addresses of the responder. -/
def bindFields : List (Text × Text) := [("dns", "udp_bind"), ("dns", "tcp_bind")]

/-- A value that does not fit where it stands; the message about it shows it. -/
inductive Unfit (root : Value) : Value → Prop
  | bind {v : Value} (found : (sectionOf root "api").get? "bind" = some v)
      (unfit : ∀ a, Address.ofValue? v = some a → a.isLoopback = false ∧ a.isPrivate = false) :
      Unfit root v
  | port {field : Text × Text} {v : Value} (known : field ∈ portFields)
      (found : (sectionOf root field.1).get? field.2 = some v)
      (unfit : ∀ n, v.integer? = some n → n < 0 ∨ maxPort < n) : Unfit root v
  | period {field : Text × Text} {v : Value} (known : field ∈ periodFields)
      (found : (sectionOf root field.1).get? field.2 = some v)
      (unfit : ∀ n, v.integer? = some n → n ≤ 0) : Unfit root v
  | listener {field : Text × Text} {v : Value} (known : field ∈ bindFields)
      (found : (sectionOf root field.1).get? field.2 = some v)
      (unfit : Address.ofValue? v = none) : Unfit root v
  | network {e : Scalar × Value} (entry : e ∈ (tableOf root "acl" "").1)
      (unfit : Network.ofScalar? e.1 = none) : Unfit root (.scalar e.1)
  | subdomain {e : Scalar × Value} {v : Value} (listed : Listed root "acl" e v)
      (unfit : v.text? = none) : Unfit root v
  | owner {key : Text} {e : Scalar × Value} (table : key ∈ (["addrs", "ns_records"] : List Text))
      (entry : e ∈ (tableOf root key "").1) (unfit : (Value.scalar e.1).text? = none) :
      Unfit root (.scalar e.1)
  | address {e : Scalar × Value} {v : Value} (listed : Listed root "addrs" e v)
      (unfit : Address.ofValue? v = none) : Unfit root v
  | target {e : Scalar × Value} {v : Value} (listed : Listed root "ns_records" e v)
      (unfit : v.text? = none) : Unfit root v
  | level {v : Value} (found : (sectionOf root "logging").get? "level" = some v)
      (unfit : v.text.toUpper ∉ levels) : Unfit root v
  | format {v : Value} (found : (sectionOf root "logging").get? "format" = some v)
      (unfit : v ≠ .ofText "text" ∧ v ≠ .ofText "json") : Unfit root v

/-- The problems of a configuration cannot be told. -/
inductive Hazard (root : Value) : Prop
  | layout {v : Value} (found : (sectionOf root "logging").get? "format" = some v)
      (compound : (∃ vs, v = .list vs) ∨ ∃ es, v = .mapping es)
  | number {v : Value} (unfit : Unfit root v) (hidden : v.isShown = false)

/-! ### Section by section -/

section Sections

variable {root part : Value} {name key : Text}

theorem not_fails_checkSection : ¬Fails (checkSection root key) := by
  unfold checkSection
  split <;> simp

theorem not_fails_checkZoneName : ¬Fails (checkZoneName part key) := by
  unfold checkZoneName
  split <;> simp [ofName_fails_iff]

theorem not_fails_checkZone : ¬Fails (checkZone part) := by
  simp [checkZone, all_fails_iff, not_fails_checkZoneName]

theorem not_fails_warnContact : ¬Fails (warnContact part) := by
  unfold warnContact
  split
  · exact not_fails_ok _
  · split <;> exact not_fails_ok _

/-- A field that is not there cannot be wrong. -/
theorem field_fails_iff {fits : Value → Bool} {problem : Value → Text} :
    Fails (match part.get? key with
      | none => .ok []
      | some v => requireOf v (fits v) (problem v)) ↔
      ∃ v, part.get? key = some v ∧ fits v = false ∧ v.isShown = false := by
  cases part.get? key <;> simp

theorem checkBind_fails_iff :
    Fails (checkBind part) ↔ ∃ v, part.get? "bind" = some v ∧
      (∀ a, Address.ofValue? v = some a → a.isLoopback = false ∧ a.isPrivate = false) ∧
      v.isShown = false := by
  unfold checkBind
  -- The usual address is a text and can be shown.
  have usual : (Value.ofText "127.0.0.1").isShown = true := rfl
  cases part.get? "bind" with
  | none =>
    rw [Option.getD_none]
    dsimp only
    split <;> simp [usual]
  | some v =>
    rw [Option.getD_some]
    dsimp only
    split
    next other => simp [other]
    next a address => simp [address]

theorem checkPort_fails_iff :
    Fails (checkPort name part key) ↔ ∃ v, part.get? key = some v ∧
      (∀ n, v.integer? = some n → n < 0 ∨ maxPort < n) ∧ v.isShown = false := by
  unfold checkPort
  refine field_fails_iff.trans ?_
  refine exists_congr fun v => and_congr_right fun _ => and_congr_left fun _ => ?_
  cases v.integer? with
  | none => simp
  | some n =>
    simp
    omega

theorem checkPositive_fails_iff :
    Fails (checkPositive name part key) ↔ ∃ v, part.get? key = some v ∧
      (∀ n, v.integer? = some n → n ≤ 0) ∧ v.isShown = false := by
  unfold checkPositive
  refine field_fails_iff.trans ?_
  refine exists_congr fun v => and_congr_right fun _ => and_congr_left fun _ => ?_
  cases v.integer? <;> simp

theorem checkAddress_fails_iff :
    Fails (checkAddress name part key) ↔
      ∃ v, part.get? key = some v ∧ Address.ofValue? v = none ∧ v.isShown = false := by
  unfold checkAddress
  refine field_fails_iff.trans ?_
  simp

theorem checkListeners_fails_iff :
    Fails (checkListeners (sectionOf root "api") (sectionOf root "dns")) ↔
      Fails (checkBind (sectionOf root "api")) ∨
      (∃ f ∈ portFields, Fails (checkPort f.1 (sectionOf root f.1) f.2)) ∨
      (∃ f ∈ periodFields, Fails (checkPositive f.1 (sectionOf root f.1) f.2)) ∨
      ∃ f ∈ bindFields, Fails (checkAddress f.1 (sectionOf root f.1) f.2) := by
  simp [checkListeners, all_fails_iff, portFields, periodFields, bindFields, or_assoc]

theorem checkLevel_fails_iff :
    Fails (checkLevel part) ↔
      ∃ v, part.get? "level" = some v ∧ v.text.toUpper ∉ levels ∧ v.isShown = false := by
  unfold checkLevel
  have usual : (Value.ofText "INFO").isShown = true := rfl
  cases part.get? "level" with
  | none => simp [usual]
  | some v => simp

theorem checkFormat_fails_iff :
    Fails (checkFormat part) ↔ ∃ v, part.get? "format" = some v ∧
      (((∃ vs, v = .list vs) ∨ ∃ es, v = .mapping es) ∨
        (v ≠ .ofText "text" ∧ v ≠ .ofText "json") ∧ v.isShown = false) := by
  unfold checkFormat
  cases part.get? "format" with
  | none => simp [Fails, requireOf, Value.text?]
  | some v =>
    rw [Option.getD_some]
    cases v with
    | list vs => simp
    | mapping es => simp
    | scalar s => cases s <;> simp [Value.text?]
    | pair a b => simp [Value.text?]
    | set ss => simp [Value.text?]

theorem not_fails_checkStatePath : ¬Fails (checkStatePath part) := by
  unfold checkStatePath
  split <;> simp

end Sections

/-! ### Entry by entry -/

section Entries

variable {root v : Value} {key what label : Text} {domain : Option Name} {name : Scalar}

theorem table_fails_iff {each : Scalar × Value → Check} :
    Fails (all (.ok (tableOf root key what).2 :: (tableOf root key what).1.map each)) ↔
      ∃ e ∈ (tableOf root key "").1, Fails (each e) := by
  rw [tableOf_fst root key "" what]
  simp [all_fails_iff]

theorem checkName_fails_iff :
    Fails (checkName label v) ↔ v.text? = none ∧ v.isShown = false := by
  unfold checkName
  split
  next other => simp [other]
  next t text => simp [text, ofName_fails_iff]

theorem checkSubdomain_fails_iff :
    Fails (checkSubdomain domain name v) ↔ v.text? = none ∧ v.isShown = false := by
  unfold checkSubdomain
  dsimp only
  split
  next other => simp [other]
  next t text =>
    -- A name that has been read is qualified or is one of the problems.
    simp only [text, reduceCtorEq, false_and, iff_false, ofName_fails_iff]
    rintro ⟨n, -, fails⟩
    split at fails
    · exact not_fails_ok _ fails
    · split at fails
      · exact not_fails_ok _ fails
      · obtain ⟨_, _, fails⟩ := ofName_fails_iff.mp fails
        exact not_fails_ok _ fails

theorem checkGrant_fails_iff :
    Fails (checkGrant domain name v) ↔
      Network.ofScalar? name = none ∧ (Value.scalar name).isShown = false ∨
      ∃ vs, v = .list vs ∧ ∃ i ∈ vs, Fails (checkSubdomain domain name i) := by
  rw [checkGrant, all_fails_iff]
  simp only [List.exists_mem_cons_iff, List.not_mem_nil, false_and, exists_false, or_false,
    requireOf_fails_iff, Option.isSome_eq_false_iff, Option.isNone_iff_eq_none]
  exact or_congr_right items_fails_iff

theorem checkAddresses_fails_iff :
    Fails (checkAddresses name v) ↔
      Fails (checkName ("addrs key '" ++ name.plain ++ "'") (.scalar name)) ∨
      ∃ vs, v = .list vs ∧ ∃ i ∈ vs, Address.ofValue? i = none ∧ i.isShown = false := by
  rw [checkAddresses, all_fails_iff]
  simp only [List.exists_mem_cons_iff, List.not_mem_nil, false_and, exists_false, or_false]
  refine or_congr_right (items_fails_iff.trans ?_)
  simp

theorem checkNameServers_fails_iff :
    Fails (checkNameServers name v) ↔
      Fails (checkName ("ns_records key '" ++ name.plain ++ "'") (.scalar name)) ∨
      ∃ vs, v = .list vs ∧ ∃ i ∈ vs,
        Fails (checkName ("ns_records['" ++ name.plain ++ "'] entry") i) := by
  rw [checkNameServers, all_fails_iff]
  simp only [List.exists_mem_cons_iff, List.not_mem_nil, false_and, exists_false, or_false]
  exact or_congr_right items_fails_iff

end Entries

/-! ### All checks -/

/-- The checks fail if those of one section fail. -/
theorem check_fails_sections (root : Value) :
    Fails (check root) ↔ Fails (checkListeners (sectionOf root "api") (sectionOf root "dns")) ∨
      Fails (checkGrants root (zoneDomain? (sectionOf root "zone"))) ∨
      Fails (checkAddressTable root) ∨ Fails (checkNameServerTable root) ∨
      Fails (checkLevel (sectionOf root "logging")) ∨
      Fails (checkFormat (sectionOf root "logging")) := by
  unfold check
  refine (fails_bind fun _ => fails_bind fun _ => fails_bind fun _ => fails_bind fun _ =>
    iff_false_intro (not_fails_ok _)).trans ?_
  simp [all_fails_iff, not_fails_checkSection, not_fails_checkZone, not_fails_warnContact,
    not_fails_checkStatePath]

theorem checkGrants_fails_iff {root : Value} {domain : Option Name} :
    Fails (checkGrants root domain) ↔
      ∃ e ∈ (tableOf root "acl" "").1, Fails (checkGrant domain e.1 e.2) :=
  table_fails_iff

theorem checkAddressTable_fails_iff {root : Value} :
    Fails (checkAddressTable root) ↔
      ∃ e ∈ (tableOf root "addrs" "").1, Fails (checkAddresses e.1 e.2) :=
  table_fails_iff

theorem checkNameServerTable_fails_iff {root : Value} :
    Fails (checkNameServerTable root) ↔
      ∃ e ∈ (tableOf root "ns_records" "").1, Fails (checkNameServers e.1 e.2) :=
  table_fails_iff

section Reasons

variable {root : Value}

/-- The names of the entries of both tables of answers are checked alike. -/
theorem checkName_owner_fails {key label : Text} {e : Scalar × Value}
    (table : key ∈ (["addrs", "ns_records"] : List Text)) (entry : e ∈ (tableOf root key "").1)
    (fails : Fails (checkName label (.scalar e.1))) : Hazard root := by
  obtain ⟨unfit, hidden⟩ := checkName_fails_iff.mp fails
  exact .number (.owner table entry unfit) hidden

theorem checkListeners_hazard
    (fails : Fails (checkListeners (sectionOf root "api") (sectionOf root "dns"))) :
    Hazard root := by
  rcases checkListeners_fails_iff.mp fails with
    bind | ⟨f, known, port⟩ | ⟨f, known, period⟩ | ⟨f, known, listener⟩
  · obtain ⟨v, found, unfit, hidden⟩ := checkBind_fails_iff.mp bind
    exact .number (.bind found unfit) hidden
  · obtain ⟨v, found, unfit, hidden⟩ := checkPort_fails_iff.mp port
    exact .number (.port known found unfit) hidden
  · obtain ⟨v, found, unfit, hidden⟩ := checkPositive_fails_iff.mp period
    exact .number (.period known found unfit) hidden
  · obtain ⟨v, found, unfit, hidden⟩ := checkAddress_fails_iff.mp listener
    exact .number (.listener known found unfit) hidden

theorem checkGrants_hazard {domain : Option Name} (fails : Fails (checkGrants root domain)) :
    Hazard root := by
  obtain ⟨e, entry, grant⟩ := checkGrants_fails_iff.mp fails
  rcases checkGrant_fails_iff.mp grant with ⟨unfit, hidden⟩ | ⟨vs, list, v, member, subdomain⟩
  · exact .number (.network entry unfit) hidden
  · obtain ⟨unfit, hidden⟩ := checkSubdomain_fails_iff.mp subdomain
    exact .number (.subdomain ⟨entry, vs, list, member⟩ unfit) hidden

theorem checkAddressTable_hazard (fails : Fails (checkAddressTable root)) : Hazard root := by
  obtain ⟨e, entry, addresses⟩ := checkAddressTable_fails_iff.mp fails
  rcases checkAddresses_fails_iff.mp addresses with owner | ⟨vs, list, v, member, unfit, hidden⟩
  · exact checkName_owner_fails (by simp) entry owner
  · exact .number (.address ⟨entry, vs, list, member⟩ unfit) hidden

theorem checkNameServerTable_hazard (fails : Fails (checkNameServerTable root)) : Hazard root := by
  obtain ⟨e, entry, targets⟩ := checkNameServerTable_fails_iff.mp fails
  rcases checkNameServers_fails_iff.mp targets with owner | ⟨vs, list, v, member, target⟩
  · exact checkName_owner_fails (by simp) entry owner
  · obtain ⟨unfit, hidden⟩ := checkName_fails_iff.mp target
    exact .number (.target ⟨entry, vs, list, member⟩ unfit) hidden

/-- A subdomain that fails with any domain makes the checks fail. -/
theorem Listed.subdomain_fails {e : Scalar × Value} {v : Value} (listed : Listed root "acl" e v)
    (subdomain : ∀ domain, Fails (checkSubdomain domain e.1 v)) : Fails (check root) := by
  obtain ⟨entry, vs, list, member⟩ := listed
  have grants : ∀ domain, Fails (checkGrants root domain) := by
    intro domain
    have grant := checkGrant_fails_iff.mpr (Or.inr ⟨vs, list, v, member, subdomain domain⟩)
    exact checkGrants_fails_iff.mpr ⟨e, entry, grant⟩
  have fails := grants (zoneDomain? (sectionOf root "zone"))
  rw [check_fails_sections]
  tauto

theorem Listed.target_fails {e : Scalar × Value} {v : Value}
    (listed : Listed root "ns_records" e v) (target : ∀ label, Fails (checkName label v)) :
    Fails (check root) := by
  obtain ⟨entry, vs, list, member⟩ := listed
  have targets : Fails (checkNameServers e.1 e.2) :=
    checkNameServers_fails_iff.mpr (Or.inr ⟨vs, list, v, member, target _⟩)
  have fails := checkNameServerTable_fails_iff.mpr ⟨e, entry, targets⟩
  rw [check_fails_sections]
  tauto

theorem owner_fails {key : Text} {e : Scalar × Value}
    (table : key ∈ (["addrs", "ns_records"] : List Text)) (entry : e ∈ (tableOf root key "").1)
    (owner : ∀ label, Fails (checkName label (.scalar e.1))) : Fails (check root) := by
  rw [check_fails_sections]
  simp only [List.mem_cons, List.not_mem_nil, or_false] at table
  rcases table with rfl | rfl
  · have addresses : Fails (checkAddresses e.1 e.2) :=
      checkAddresses_fails_iff.mpr (Or.inl (owner _))
    have fails := checkAddressTable_fails_iff.mpr ⟨e, entry, addresses⟩
    tauto
  · have targets : Fails (checkNameServers e.1 e.2) :=
      checkNameServers_fails_iff.mpr (Or.inl (owner _))
    have fails := checkNameServerTable_fails_iff.mpr ⟨e, entry, targets⟩
    tauto

theorem checkListeners_fails
    (fails : Fails (checkListeners (sectionOf root "api") (sectionOf root "dns"))) :
    Fails (check root) := by
  rw [check_fails_sections]
  tauto

theorem Unfit.fails {v : Value} (unfit : Unfit root v) (hidden : v.isShown = false) :
    Fails (check root) := by
  -- The way back from a value to the checks: from its field or entry to its section, and on to all.
  cases unfit with
  | bind found unfit =>
    have bind := checkBind_fails_iff.mpr ⟨v, found, unfit, hidden⟩
    exact checkListeners_fails (checkListeners_fails_iff.mpr (Or.inl bind))
  | @port f _ known found unfit =>
    have port : Fails (checkPort f.1 (sectionOf root f.1) f.2) :=
      checkPort_fails_iff.mpr ⟨v, found, unfit, hidden⟩
    exact checkListeners_fails
      (checkListeners_fails_iff.mpr (Or.inr (Or.inl ⟨f, known, port⟩)))
  | @period f _ known found unfit =>
    have period : Fails (checkPositive f.1 (sectionOf root f.1) f.2) :=
      checkPositive_fails_iff.mpr ⟨v, found, unfit, hidden⟩
    exact checkListeners_fails
      (checkListeners_fails_iff.mpr (Or.inr (Or.inr (Or.inl ⟨f, known, period⟩))))
  | @listener f _ known found unfit =>
    have listener : Fails (checkAddress f.1 (sectionOf root f.1) f.2) :=
      checkAddress_fails_iff.mpr ⟨v, found, unfit, hidden⟩
    exact checkListeners_fails
      (checkListeners_fails_iff.mpr (Or.inr (Or.inr (Or.inr ⟨f, known, listener⟩))))
  | @network e entry unfit =>
    have grants : ∀ domain, Fails (checkGrants root domain) := fun domain =>
      checkGrants_fails_iff.mpr ⟨e, entry, checkGrant_fails_iff.mpr (Or.inl ⟨unfit, hidden⟩)⟩
    have fails := grants (zoneDomain? (sectionOf root "zone"))
    rw [check_fails_sections]
    tauto
  | subdomain listed unfit =>
    exact listed.subdomain_fails fun _ => checkSubdomain_fails_iff.mpr ⟨unfit, hidden⟩
  | owner table entry unfit =>
    exact owner_fails table entry fun _ => checkName_fails_iff.mpr ⟨unfit, hidden⟩
  | @address e _ listed unfit =>
    obtain ⟨entry, vs, list, member⟩ := listed
    have addresses : Fails (checkAddresses e.1 e.2) :=
      checkAddresses_fails_iff.mpr (Or.inr ⟨vs, list, v, member, unfit, hidden⟩)
    have fails := checkAddressTable_fails_iff.mpr ⟨e, entry, addresses⟩
    rw [check_fails_sections]
    tauto
  | target listed unfit =>
    exact listed.target_fails fun _ => checkName_fails_iff.mpr ⟨unfit, hidden⟩
  | level found unfit =>
    have level := checkLevel_fails_iff.mpr ⟨v, found, unfit, hidden⟩
    rw [check_fails_sections]
    tauto
  | format found unfit =>
    have format := checkFormat_fails_iff.mpr ⟨v, found, Or.inr ⟨unfit, hidden⟩⟩
    rw [check_fails_sections]
    tauto

end Reasons

/-- The checks fail for the reasons above and for no others. -/
theorem check_fails_iff (root : Value) : Fails (check root) ↔ Hazard root := by
  constructor
  · intro fails
    rcases (check_fails_sections root).mp fails with
      listeners | grants | addresses | nameServers | level | format
    · exact checkListeners_hazard listeners
    · exact checkGrants_hazard grants
    · exact checkAddressTable_hazard addresses
    · exact checkNameServerTable_hazard nameServers
    · obtain ⟨v, found, unfit, hidden⟩ := checkLevel_fails_iff.mp level
      exact .number (.level found unfit) hidden
    · obtain ⟨v, found, compound | ⟨unfit, hidden⟩⟩ := checkFormat_fails_iff.mp format
      · exact .layout found compound
      · exact .number (.format found unfit) hidden
  · intro hazard
    cases hazard with
    | @layout v found compound =>
      have format := checkFormat_fails_iff.mpr ⟨v, found, Or.inl compound⟩
      rw [check_fails_sections]
      tauto
    | number unfit hidden => exact unfit.fails hidden

/-! ### Loading -/

/-- What was checked without problems can be read. -/
theorem Accepted.settings {root : Value} (accepted : Accepted root) :
    ∃ s, Settings.read root = .ok s := by
  obtain ⟨zone, access, gives⟩ := accepted.gives
  obtain ⟨grants, readGrants, _⟩ := gives.built
  obtain ⟨records, readRecords⟩ := accepted.records
  exact ⟨_, bind_except_ok.mpr ⟨zone, gives.read, bind_except_ok.mpr ⟨grants, readGrants,
    bind_except_ok.mpr ⟨records, readRecords, rfl⟩⟩⟩⟩

/-- A configuration is used, or all its problems are reported. -/
def Reported : Except ConfigError Config → Prop
  | .ok _ => True
  | .error (.invalid problems) => problems ≠ []
  | .error _ => False

theorem ofData_reported_iff (path : Text) (data : Value) :
    Reported (ofData path data).1 ↔ ¬Hazard data := by
  rw [← check_fails_iff]
  unfold ofData
  split
  next f failed => simp [Reported, Fails, failed]
  next findings checked =>
    have works : ¬Fails (check data) := by simp [checked]
    dsimp only
    split
    next none =>
      have accepted : Accepted data :=
        ⟨findings.warnings, by rw [checked, ← List.isEmpty_iff.mp none]⟩
      obtain ⟨settings, read⟩ := accepted.settings
      simp [read, Reported, works]
    next some => simpa [Reported, works] using some

/-- Loading stops without a report: the first thing that is wrong on the way through the data is no
missing variable, or the checks of the resolved data fail. -/
inductive Stops (env : Environment) (root : Value) : Prop
  | reference {f : Reference.Fault}
      (first : (Reference.errors env Value.maxDepth (.text []) root).head? = some (.fault f))
  | check (resolved : Reference.errors env Value.maxDepth (.text []) root = [])
      (hazard : Hazard (Reference.filled env root))

theorem load_mapping_reported_iff (env : Environment) {path text : Text}
    {entries : List (Scalar × Value)} (read : readRoot path text = .ok (.mapping entries)) :
    Reported (load env path text).1 ↔ ¬Stops env (.mapping entries) := by
  unfold load
  rw [read]
  dsimp only
  unfold Config.resolve
  dsimp only
  rw [Reference.resolve_eq]
  cases wrong : Reference.errors env Value.maxDepth (.text []) (.mapping entries) with
  | nil =>
    -- All references are resolved, and the checks decide.
    refine (ofData_reported_iff path _).trans (not_congr ?_)
    constructor
    · exact Stops.check wrong
    · rintro (⟨first⟩ | ⟨_, hazard⟩)
      · simp [wrong] at first
      · exact hazard
  | cons e es =>
    cases e with
    | unresolved u =>
      have goes : ¬Stops env (.mapping entries) := by
        rintro (⟨first⟩ | ⟨resolved, _⟩)
        · simp [wrong] at first
        · simp [wrong] at resolved
      simp [Reference.firstOf, Reported, goes]
    | fault f =>
      have stops : Stops env (.mapping entries) := .reference (f := f) (by rw [wrong]; rfl)
      simp [Reference.firstOf, Reported, stops]

theorem not_stops_empty (env : Environment) : ¬Stops env (.mapping []) := by
  rintro (⟨first⟩ | ⟨_, hazard⟩)
  · cases first
  · obtain ⟨f, failed⟩ := (check_fails_iff _).mpr hazard
    cases failed

/-- A root that is neither a mapping nor empty is the one problem that is reported. -/
theorem load_noMapping_reported (env : Environment) {path text kind : Text}
    (refused : readRoot path text = .error (noMapping kind)) :
    Reported (load env path text).1 := by
  unfold load
  rw [refused]
  exact List.cons_ne_nil _ _

theorem readRoot_mapping {path text : Text} {entries : List (Scalar × Value)}
    (parsed : parse path text = .ok (.mapping entries)) :
    readRoot path text = .ok (.mapping entries) := by
  unfold readRoot
  rw [parsed]
  rfl

theorem readRoot_null {path text : Text} (parsed : parse path text = .ok .null) :
    readRoot path text = .ok (.mapping []) := by
  unfold readRoot
  rw [parsed]
  rfl

theorem readRoot_other {path text : Text} {v : Value} (parsed : parse path text = .ok v)
    (filled : v ≠ .null) (other : ∀ es, v ≠ .mapping es) :
    readRoot path text = .error (noMapping v.kind) := by
  unfold readRoot
  rw [parsed]
  cases v with
  | mapping es => exact absurd rfl (other es)
  | scalar s =>
    cases s with
    | null => exact absurd rfl filled
    | _ => rfl
  | _ => rfl

/-- Whatever can be parsed is used or reported on, unless it is a mapping with which loading
stops. -/
theorem loadOctets_reported_iff (env : Environment) (path : Text) {content : Bytes} {text : Text}
    {root : Value} (decoded : Text.decode content = .ok text)
    (parsed : parse path text.unifyNewlines = .ok root) :
    Reported (loadOctets env path content).1 ↔
      ¬∃ entries, root = .mapping entries ∧ Stops env root := by
  unfold loadOctets
  rw [decoded]
  dsimp only
  by_cases mapping : ∃ es, root = .mapping es
  · obtain ⟨es, rfl⟩ := mapping
    rw [load_mapping_reported_iff env (readRoot_mapping parsed)]
    simp
  · have other : ¬∃ es, root = .mapping es ∧ Stops env root := by
      rintro ⟨es, equal, _⟩
      exact mapping ⟨es, equal⟩
    refine iff_of_true ?_ other
    by_cases empty : root = .null
    · -- An empty file is an empty mapping.
      subst empty
      exact (load_mapping_reported_iff env (readRoot_null parsed)).mpr (not_stops_empty env)
    · have refused := readRoot_other parsed empty fun es equal => mapping ⟨es, equal⟩
      exact load_noMapping_reported env refused

/-- A file that only says how the log is laid out. -/
def layoutText (layout : String) : Text :=
  "\x7b\"logging\": \x7b\"format\": " ++ Text.ofString layout ++ "\x7d\x7d"

/-- The resolved data of such a file. -/
def layoutRoot (layout : Value) : Value :=
  .mapping [(.text "logging", .mapping [(.text "format", layout)])]

/-- A layout that is a number is one of the problems that are reported; one that is a list keeps all
problems from being reported. -/
theorem loadOctets_reported_sample :
    Reported (loadOctets [] "config.json" (Text.utf8 (layoutText "1"))).1 ∧
      ¬Reported (loadOctets [] "config.json" (Text.utf8 (layoutText "[]"))).1 := by
  have number : parse "config.json" (layoutText "1").unifyNewlines =
      .ok (layoutRoot (.ofInt 1)) := rfl
  have list : parse "config.json" (layoutText "[]").unifyNewlines =
      .ok (layoutRoot (.list [])) := rfl
  have decoded : Text.decode (Text.utf8 (layoutText "1")) = .ok (layoutText "1") := rfl
  have decoded' : Text.decode (Text.utf8 (layoutText "[]")) = .ok (layoutText "[]") := rfl
  have resolved : Reference.errors [] Value.maxDepth (.text []) (layoutRoot (.ofInt 1)) = [] := rfl
  have told : (check (layoutRoot (.ofInt 1))).toOption.isSome = true := by decide +kernel
  constructor
  · rw [loadOctets_reported_iff [] "config.json" decoded number]
    rintro ⟨_, _, ⟨first⟩ | ⟨_, hazard⟩⟩
    · simp [resolved] at first
    · obtain ⟨f, failed⟩ := (check_fails_iff _).mpr hazard
      have same : Reference.filled [] (layoutRoot (.ofInt 1)) = layoutRoot (.ofInt 1) := rfl
      rw [same] at failed
      simp [failed, Except.toOption] at told
  · rw [loadOctets_reported_iff [] "config.json" decoded' list, not_not]
    exact ⟨_, rfl, .check rfl (.layout rfl (Or.inl ⟨[], rfl⟩))⟩

end Config

end ChallengeDns
