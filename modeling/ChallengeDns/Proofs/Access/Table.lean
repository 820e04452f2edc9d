import Mathlib
import ChallengeDns.Proofs.Address.Prefix
import ChallengeDns.Proofs.Config.Acceptance

/-!
# The access table as it is written

An entry of the access table is a network with a list of subdomains.  The access control permits
what some entry says: entries for one network are put together on the way, names are put together in
any case, and nothing is lost or added.
-/
namespace ChallengeDns

/-! ### Names in a set -/

theorem any_insertName (n s : Name) (names : List Name) :
    (insertName n names).any (·.same s) = (names.any (·.same s) || n.same s) := by
  unfold insertName
  split
  next known =>
    obtain ⟨m, member, equal⟩ := List.any_eq_true.mp known
    cases found : n.same s with
    | false => simp
    | true =>
      -- The name that is kept is the same as `s` too.
      have spelling : m.same s = true := by
        rw [Name.same_iff] at equal found ⊢
        exact equal.trans found
      rw [Bool.or_true, List.any_eq_true]
      exact ⟨m, member, spelling⟩
  next => rw [List.any_append, List.any_cons, List.any_nil, Bool.or_false]

theorem any_insertNames (s : Name) (names set : List Name) :
    (names.foldl (fun set n => insertName n set) set).any (·.same s) =
      (set.any (·.same s) || names.any (·.same s)) := by
  induction names generalizing set with
  | nil => simp
  | cons n names ih => rw [List.foldl_cons, ih, any_insertName, List.any_cons, Bool.or_assoc]

/-! ### Entries put together -/

namespace Grants

/-- A network may publish under a subdomain. -/
def Holds (grants : Grants) (net : Network) (s : Name) : Prop :=
  ∃ g ∈ grants, g.1 = net ∧ g.2.any (·.same s) = true

theorem holds_cons {g : Network × List Name} {grants : Grants} {net : Network} {s : Name} :
    Holds (g :: grants) net s ↔ g.1 = net ∧ g.2.any (·.same s) = true ∨ Holds grants net s := by
  simp only [Holds, List.exists_mem_cons_iff]

/-- A grant adds its subdomains to its network and leaves all others alone. -/
theorem holds_grant (net : Network) (names : List Name) (grants : Grants) (m : Network) (s : Name) :
    Holds (grant net names grants) m s ↔
      net = m ∧ names.any (·.same s) = true ∨ Holds grants m s := by
  induction grants with
  | nil =>
    rw [grant, holds_cons, any_insertNames, List.any_nil, Bool.false_or]
  | cons e grants ih =>
    unfold grant
    split
    next here =>
      rw [holds_cons, holds_cons, any_insertNames, Bool.or_eq_true, here]
      tauto
    next =>
      rw [holds_cons, holds_cons, ih]
      tauto

theorem holds_grants (entries : List (Network × List Name)) (grants : Grants) (m : Network)
    (s : Name) :
    Holds (entries.foldl (fun grants e => grant e.1 e.2 grants) grants) m s ↔
      Holds entries m s ∨ Holds grants m s := by
  induction entries generalizing grants with
  | nil => simp [Holds]
  | cons e entries ih =>
    rw [List.foldl_cons, ih, holds_grant, holds_cons]
    tauto

theorem map_fst_grant (net : Network) (names : List Name) (grants : Grants) :
    (grant net names grants).map (·.1) =
      if net ∈ grants.map (·.1) then grants.map (·.1) else grants.map (·.1) ++ [net] := by
  induction grants with
  | nil => simp [grant]
  | cons e grants ih =>
    unfold grant
    by_cases here : e.1 = net
    · simp [here]
    · have apart : ¬net = e.1 := fun equal => here equal.symm
      rw [if_neg here, List.map_cons, ih, List.map_cons]
      by_cases later : net ∈ grants.map (·.1)
      · simp [later]
      · simp [apart, later]

/-- Each network comes once. -/
theorem nodup_grants (entries : List (Network × List Name)) {grants : Grants}
    (distinct : (grants.map (·.1)).Nodup) :
    ((entries.foldl (fun grants e => grant e.1 e.2 grants) grants).map (·.1)).Nodup := by
  induction entries generalizing grants with
  | nil => exact distinct
  | cons e entries ih =>
    refine ih ?_
    rw [map_fst_grant]
    split
    next => exact distinct
    next new => exact List.nodup_append.mpr ⟨distinct, List.nodup_singleton _, by
        intro m member n single
        rw [List.mem_singleton.mp single]
        rintro rfl
        exact new member⟩

end Grants

/-! ### What an entry says -/

/-- The address and the length that the key of an entry is written with.  The bits behind the length
may be anything. -/
def Network.written? : Scalar → Option (Address × Nat)
  | .text t =>
    match t.splitAt (.scalar '/') with
    | [a] => (Address.read? a).map fun a => (a, a.width)
    | [a, length] =>
      let v4 := do
        let bits ← Address.readV4? a
        let n ← lengthV4? length
        return (Address.v4 bits, n)
      match v4 with
      | some w => some w
      | none => do
        let address ← Address.readZoned? a
        let n ← length? 128 length
        return (address, n)
    | _ => none
  | s => (Address.ofValue? (.scalar s)).map fun a => (a, a.width)

theorem Address.width_eq (a : Address) : (if a.version = 4 then 32 else 128) = a.width := by
  cases a <;> rfl

/-- The network of an entry is the one around what is written. -/
theorem Network.ofScalar?_eq (s : Scalar) :
    ofScalar? s = (written? s).map fun w => around w.1 w.2 := by
  have alone : ∀ address : Option Address,
      address.map single = (address.map fun a => (a, a.width)).map fun w => around w.1 w.2 := by
    intro address
    cases address with
    | none => rfl
    | some a => rw [Option.map_some, Option.map_some, Option.map_some, single, Address.width_eq]
  -- A text may have a length behind a slash; any other scalar is one address.
  cases s with
  | text t =>
    simp only [ofScalar?, read?, written?]
    generalize t.splitAt (.scalar '/') = parts
    rcases parts with _ | ⟨a, _ | ⟨length, _ | ⟨_, _⟩⟩⟩
    · rfl
    · exact alone (Address.read? a)
    · dsimp only
      cases Address.readV4? a <;> cases lengthV4? length <;> cases Address.readZoned? a <;>
        cases length? 128 length <;> rfl
    · rfl
  | _ =>
    simp only [ofScalar?, written?]
    exact alone _

/-- What is written in one entry, read. -/
theorem Grants.readEntry_ok {net : Scalar} {subdomains : List Text} {g : Network × List Name} :
    readEntry net subdomains = .ok g ↔
      Network.ofScalar? net = some g.1 ∧ subdomains.mapM Name.readRelative = .ok g.2 := by
  unfold readEntry
  cases Network.ofScalar? net with
  | none => simp
  | some n =>
    cases subdomains.mapM Name.readRelative with
    | error e => simp
    | ok names => simp [Prod.ext_iff]

namespace Config

/-- The entries of the access table. -/
def grantEntries (root : Value) : List (Scalar × Value) := (tableOf root "acl" "").1

/-- An address has the first bits that the network of an entry is written with. -/
def Covers (e : Scalar × Value) (a : Address) : Prop :=
  ∃ base length, Network.written? e.1 = some (base, length) ∧ base.Agree length a

/-- A subdomain stands in the list of an entry, in some case. -/
def Lists (e : Scalar × Value) (s : Name) : Prop :=
  ∃ vs t n, e.2 = .list vs ∧ Value.ofText t ∈ vs ∧ Name.readRelative t = .ok n ∧ n.same s = true

theorem covers_iff (e : Scalar × Value) (a : Address) :
    Covers e a ↔ ∃ net, Network.ofScalar? e.1 = some net ∧ net.contains a = true := by
  rw [Network.ofScalar?_eq]
  constructor
  · rintro ⟨base, length, written, agree⟩
    exact ⟨_, by rw [written]; rfl, (Network.contains_around base a length).mpr agree⟩
  · rintro ⟨net, read, inside⟩
    obtain ⟨⟨base, length⟩, written, rfl⟩ := Option.map_eq_some_iff.mp read
    exact ⟨base, length, written, (Network.contains_around base a length).mp inside⟩

theorem mem_texts {v : Value} {t : Text} :
    t ∈ (v.items?.getD []).filterMap Value.text? ↔ ∃ vs, v = .list vs ∧ Value.ofText t ∈ vs := by
  simp only [List.mem_filterMap, Value.text?_eq_some, exists_eq_right]
  cases v with
  | list vs => simp [Value.items?]
  | _ => simp [Value.items?]

/-- The names that are read from an entry are the ones in its list. -/
theorem lists_iff {e : Scalar × Value} {names : List Name}
    (read : ((e.2.items?.getD []).filterMap Value.text?).mapM Name.readRelative = .ok names)
    (s : Name) : Lists e s ↔ names.any (·.same s) = true := by
  rw [List.any_eq_true]
  constructor
  · rintro ⟨vs, t, n, list, member, readName, same⟩
    obtain ⟨m, inside, readName'⟩ := exists_mem_mapM_except read (mem_texts.mpr ⟨vs, list, member⟩)
    rw [readName, Except.ok.injEq] at readName'
    exact ⟨n, readName' ▸ inside, same⟩
  · rintro ⟨n, inside, same⟩
    obtain ⟨t, member, readName⟩ := mem_mapM_except read inside
    obtain ⟨vs, list, present⟩ := mem_texts.mp member
    exact ⟨vs, t, n, list, present, readName, same⟩

/-- What networks may publish is what the entries say, network by network. -/
theorem holds_readGrants {root : Value} {grants : Grants}
    (read : Settings.readGrants root = .ok grants) :
    (grants.map (·.1)).Nodup ∧ ∀ net s, grants.Holds net s ↔
      ∃ e ∈ grantEntries root, Network.ofScalar? e.1 = some net ∧ Lists e s := by
  obtain ⟨entries, done, rest⟩ := bind_except_ok.mp (mapError_except_ok.mp read)
  cases rest
  refine ⟨Grants.nodup_grants entries List.nodup_nil, ?_⟩
  intro net s
  rw [Grants.holds_grants]
  constructor
  -- The table starts empty, so what it holds comes from an entry.
  · rintro (⟨g, member, rfl, listed⟩ | ⟨g, absent, _⟩)
    · obtain ⟨w, source, step⟩ := mem_mapM_except done member
      obtain ⟨e, present, rfl⟩ := List.mem_map.mp source
      obtain ⟨network, names⟩ := Grants.readEntry_ok.mp step
      exact ⟨e, present, network, (lists_iff names s).mpr listed⟩
    · cases absent
  · rintro ⟨e, present, network, listed⟩
    obtain ⟨g, member, step⟩ :=
      exists_mem_mapM_except done (List.mem_map.mpr ⟨e, present, rfl⟩)
    obtain ⟨network', names⟩ := Grants.readEntry_ok.mp step
    rw [network, Option.some.injEq] at network'
    exact Or.inl ⟨g, member, network'.symm, (lists_iff names s).mp listed⟩

theorem isPermitted_iff (ac : AccessControl) (client : Address) (s : Name) :
    ac.isPermitted client s = true ↔
      ∃ net, net.contains client.unmapped = true ∧ ac.grants.Holds net s := by
  simp only [AccessControl.isPermitted, List.any_eq_true, Bool.and_eq_true, Grants.Holds]
  constructor
  · rintro ⟨g, member, inside, n, listed, same⟩
    exact ⟨g.1, inside, g, member, rfl, n, listed, same⟩
  · rintro ⟨_, inside, g, member, rfl, n, listed, same⟩
    exact ⟨g, member, inside, n, listed, same⟩

/-- The access control has the grants that were read, and their names are relative. -/
theorem Gives.grants {root : Value} {zone : ZoneSettings} {access : AccessControl}
    (gives : Gives root zone access) : Settings.readGrants root = .ok access.grants ∧
      ∀ g ∈ access.grants, ∀ n ∈ g.2, n.absolute = false := by
  obtain ⟨grants, read, built⟩ := gives.built
  obtain ⟨names, qualified, rest⟩ := bind_except_ok.mp built
  cases rest
  refine ⟨read, ?_⟩
  intro g member n inside
  obtain ⟨k, _, step⟩ := exists_mem_mapM_except qualified (List.mem_flatMap.mpr ⟨g, member, inside⟩)
  exact (Name.qualify_parts gives.domain_absolute step).1

/-- The access control of an accepted configuration permits what an entry of the access table says,
and nothing else: the address has the first bits of the entry's network, whatever the other bits
are, and the subdomain is in the entry's list, in any case.  An IPv4-mapped address counts as the
address inside it.  So the order of the entries makes no difference, entries for one network are put
together without loss, and no absolute name is permitted. -/
theorem permitted_iff_written {root : Value} (accepted : Accepted root) :
    (∃ zone access, Gives root zone access) ∧
    ∀ zone access, Gives root zone access →
      (∀ client s, access.isPermitted client s = true ↔
        ∃ e ∈ grantEntries root, Covers e client.unmapped ∧ Lists e s) ∧
      (∀ bits scope s, access.isPermitted (.v6 (0xFFFF#96 ++ bits) scope) s =
        access.isPermitted (.v4 bits) s) ∧
      (∀ root' zone' access', Gives root' zone' access' →
        (grantEntries root).Perm (grantEntries root') →
        ∀ client s, access.isPermitted client s = access'.isPermitted client s) ∧
      (access.grants.map (·.1)).Nodup ∧
      (∀ net s, (∃ g ∈ access.grants, g.1 = net ∧ ∃ n ∈ g.2, n.same s = true) ↔
        ∃ e ∈ grantEntries root, Network.ofScalar? e.1 = some net ∧ Lists e s) ∧
      ∀ client s, s.absolute = true → access.isPermitted client s = false := by
  refine ⟨accepted.gives, ?_⟩
  intro zone access gives
  -- Stated for any configuration, since the order of the entries compares two.
  have written : ∀ {root : Value} {zone : ZoneSettings} {access : AccessControl},
      Gives root zone access → ∀ client s, access.isPermitted client s = true ↔
        ∃ e ∈ grantEntries root, Covers e client.unmapped ∧ Lists e s := by
    intro root zone access gives client s
    rw [isPermitted_iff]
    simp only [(holds_readGrants gives.grants.1).2, covers_iff]
    constructor
    · rintro ⟨net, inside, e, member, network, listed⟩
      exact ⟨e, member, ⟨net, network, inside⟩, listed⟩
    · rintro ⟨e, member, ⟨net, network, inside⟩, listed⟩
      exact ⟨net, inside, e, member, network, listed⟩
  obtain ⟨distinct, merged⟩ := holds_readGrants gives.grants.1
  refine ⟨written gives, ?_, ?_, distinct, ?_, ?_⟩
  · intro bits scope s
    unfold AccessControl.isPermitted
    rw [Address.unmapped_mapped]
    rfl
  · intro root' zone' access' gives' order client s
    rw [Bool.eq_iff_iff, written gives, written gives']
    simp only [order.mem_iff]
  · intro net s
    rw [← merged net s]
    simp only [Grants.Holds, List.any_eq_true]
  · intro client s absolute
    rw [Bool.eq_false_iff]
    intro permitted
    obtain ⟨net, _, g, member, _, listed⟩ := (isPermitted_iff access client s).mp permitted
    obtain ⟨n, inside, same⟩ := List.any_eq_true.mp listed
    -- The subdomains of the table are relative, and an absolute name is none of them.
    have relative := gives.grants.2 g member n inside
    rw [Name.same_absolute same, absolute] at relative
    cases relative

/-! ### One network in two spellings -/

def overlapRoot : Value :=
  .mapping [
    (.text "zone", .mapping [(.text "domain", .ofText "example.com"),
      (.text "ns_domain", .ofText "ns.example.com"),
      (.text "ns_admin", .ofText "hostmaster@example.com")]),
    (.text "acl", .mapping [(.text "10.0.0.1/8", .list [.ofText "test"]),
      (.text "2001:db8::1/32", .list [.ofText "six"]),
      (.text "10.9.9.9/255.0.0.0", .list [.ofText "TEST", .ofText "Other"])])]

def overlapZone : ZoneSettings :=
  (Settings.readZone (sectionOf overlapRoot "zone")).toOption.getD ⟨.root, .root, []⟩

def overlapAccess : AccessControl :=
  ((Settings.readGrants overlapRoot).toOption.bind fun grants =>
    (AccessControl.ofGrants overlapZone.domain grants).toOption).getD ⟨.root, [], []⟩

def otherName : Name := (Name.readRelative "other").toOption.getD .root

/-- The entries for `10.0.0.0/8` are one in the access control.  What the later one says is
permitted to an address of that network, here an IPv4-mapped one, and not to one behind it. -/
theorem permitted_iff_written_sample :
    overlapAccess.grants.length = 2 ∧
      overlapAccess.isPermitted (.v6 (0xFFFF#96 ++ 0x0A010203#32) none) otherName = true ∧
      overlapAccess.isPermitted (.v4 0x0B010203#32) otherName = false := by
  have accepted : Accepted overlapRoot := ⟨_, rfl⟩
  have gives : Gives overlapRoot overlapZone overlapAccess := ⟨rfl, _, rfl, rfl⟩
  obtain ⟨written, mapped, _⟩ := (permitted_iff_written accepted).2 _ _ gives
  refine ⟨by decide +kernel, ?_, ?_⟩
  · rw [mapped, written]
    refine ⟨(.text "10.9.9.9/255.0.0.0", .list [.ofText "TEST", .ofText "Other"]), ?_, ?_, ?_⟩
    · exact List.mem_cons_of_mem _ (List.mem_cons_of_mem _ List.mem_cons_self)
    · exact ⟨.v4 0x0A090909#32, 8, by decide +kernel, by decide +kernel⟩
    · exact ⟨_, "Other", (Name.readRelative "Other").toOption.getD .root, rfl,
        List.mem_cons_of_mem _ List.mem_cons_self, by decide +kernel, by decide +kernel⟩
  · rw [Bool.eq_false_iff, ne_eq, written]
    rintro ⟨e, member, ⟨base, length, network, agree⟩, _⟩
    -- One of the three networks is of the other family, and two have another first octet.
    have apart : ∀ key ∈ (grantEntries overlapRoot).map (·.1), ∀ w ∈ Network.written? key,
        ¬w.1.Agree w.2 (.v4 0x0B010203#32) := by
      decide +kernel
    exact apart e.1 (List.mem_map.mpr ⟨e, member, rfl⟩) (base, length) network agree

end Config

end ChallengeDns
