import Mathlib
import ChallengeDns.Proofs.Access.Table

/-!
# Names that somebody can publish

The access table is read in two ways.  The gate asks whether a network holds the client and lists
the subdomain; the responder asks whether any network lists it at all.  The two agree when every
network holds some client.  A client never has an IPv4-mapped address, since such an address counts
as the one inside it, so a network of mapped addresses alone holds no client.
-/
namespace ChallengeDns

namespace AccessControl

/-- A qualified name is eligible when some network lists the subdomain. -/
theorem isEligible_iff {domain : Name} {grants : Grants} {ac : AccessControl}
    (absolute : domain.absolute = true) (built : ofGrants domain grants = .ok ac) {s k : Name}
    (qualified : s.qualify domain = .ok k) :
    ac.isEligible k = true ↔ ∃ net, grants.Holds net s := by
  obtain ⟨names, done, rest⟩ := bind_except_ok.mp built
  cases rest
  rw [isEligible, any_insertNames, List.any_nil, Bool.false_or, List.any_eq_true]
  constructor
  · rintro ⟨q, member, same⟩
    obtain ⟨n, listed, step⟩ := mem_mapM_except done member
    obtain ⟨g, present, inside⟩ := List.mem_flatMap.mp listed
    have found := (Name.qualify_same_iff absolute step qualified).mp same
    exact ⟨g.1, g, present, rfl, List.any_eq_true.mpr ⟨n, inside, found⟩⟩
  · rintro ⟨_, g, present, rfl, found⟩
    obtain ⟨n, inside, same⟩ := List.any_eq_true.mp found
    obtain ⟨q, member, step⟩ :=
      exists_mem_mapM_except done (List.mem_flatMap.mpr ⟨g, present, inside⟩)
    exact ⟨q, member, (Name.qualify_same_iff absolute step qualified).mpr same⟩

theorem ofGrants_ok {domain : Name} {grants : Grants} {ac : AccessControl}
    (built : ofGrants domain grants = .ok ac) : ac.domain = domain ∧ ac.grants = grants := by
  obtain ⟨names, _, rest⟩ := bind_except_ok.mp built
  cases rest
  exact ⟨rfl, rfl⟩

end AccessControl

namespace Config

/-- The network of an entry holds IPv4-mapped addresses and no others. -/
def OnlyMapped (e : Scalar × Value) : Prop :=
  ∃ base length, Network.written? e.1 = some (base, length) ∧ base.IsMapped ∧ 96 ≤ length

/-- The network of an entry holds some client, unless it is one of mapped addresses. -/
theorem exists_covers_iff {e : Scalar × Value} (network : (Network.ofScalar? e.1).isSome = true) :
    (∃ client : Address, Covers e client.unmapped) ↔ ¬OnlyMapped e := by
  rw [Network.ofScalar?_eq, Option.isSome_map] at network
  obtain ⟨⟨base, length⟩, written⟩ := Option.isSome_iff_exists.mp network
  simp only [Covers, OnlyMapped, written, Option.some.injEq, Prod.mk.injEq]
  constructor
  · rintro ⟨client, _, _, ⟨rfl, rfl⟩, alike⟩ ⟨_, _, ⟨rfl, rfl⟩, mapped⟩
    exact (Address.exists_unmapped_agree base length).mp ⟨client, alike⟩ mapped
  · intro other
    obtain ⟨client, alike⟩ := (Address.exists_unmapped_agree base length).mpr
      fun mapped => other ⟨base, length, ⟨rfl, rfl⟩, mapped⟩
    exact ⟨client, base, length, ⟨rfl, rfl⟩, alike⟩

theorem Gives.network {root : Value} {zone : ZoneSettings} {access : AccessControl}
    (gives : Gives root zone access) {e : Scalar × Value} (member : e ∈ grantEntries root) :
    (Network.ofScalar? e.1).isSome = true := by
  obtain ⟨read, done, _⟩ := bind_except_ok.mp (mapError_except_ok.mp gives.grants.1)
  obtain ⟨g, _, step⟩ := exists_mem_mapM_except done (List.mem_map.mpr ⟨e, member, rfl⟩)
  rw [(Grants.readEntry_ok.mp step).1, Option.isSome_some]

/-- The responder knows a name when some entry of the access table lists it, and the gate lets some
client publish under it when such an entry has a network that is not one of IPv4-mapped addresses.
So whatever can be published can be asked for; the converse fails for exactly those names that are
listed for networks of mapped addresses alone. -/
theorem eligible_iff_permitted {root : Value} (accepted : Accepted root) :
    (∃ zone access, Gives root zone access) ∧
    ∀ zone access, Gives root zone access → ∀ s k, access.qualify s = .ok k →
      (access.isEligible k = true ↔ ∃ e ∈ grantEntries root, Lists e s) ∧
      ((∃ client, access.isPermitted client s = true) ↔
        ∃ e ∈ grantEntries root, Lists e s ∧ ¬OnlyMapped e) ∧
      ((access.isEligible k = true ↔ ∃ client, access.isPermitted client s = true) ↔
        ((∃ e ∈ grantEntries root, Lists e s) →
          ∃ e ∈ grantEntries root, Lists e s ∧ ¬OnlyMapped e)) := by
  refine ⟨accepted.gives, ?_⟩
  intro zone access gives s k qualified
  obtain ⟨grants, read, built⟩ := gives.built
  obtain ⟨domain, kept⟩ := AccessControl.ofGrants_ok built
  rw [AccessControl.qualify, domain] at qualified
  -- Both sides are told by the entries; the networks into which these were put together drop out.
  have merged := (holds_readGrants read).2
  have eligible : access.isEligible k = true ↔ ∃ e ∈ grantEntries root, Lists e s := by
    rw [AccessControl.isEligible_iff gives.domain_absolute built qualified]
    simp only [merged]
    constructor
    · rintro ⟨net, e, member, _, listed⟩
      exact ⟨e, member, listed⟩
    · rintro ⟨e, member, listed⟩
      obtain ⟨net, network⟩ := Option.isSome_iff_exists.mp (gives.network member)
      exact ⟨net, e, member, network, listed⟩
  -- A client reaches the entry unless the entry covers mapped addresses only, which no client
  -- keeps.
  have permitted : (∃ client, access.isPermitted client s = true) ↔
      ∃ e ∈ grantEntries root, Lists e s ∧ ¬OnlyMapped e := by
    simp only [isPermitted_iff, kept, merged]
    constructor
    · rintro ⟨client, net, inside, e, member, network, listed⟩
      have covered : Covers e client.unmapped := (covers_iff e _).mpr ⟨net, network, inside⟩
      exact ⟨e, member, listed, (exists_covers_iff (gives.network member)).mp ⟨client, covered⟩⟩
    · rintro ⟨e, member, listed, other⟩
      obtain ⟨client, covered⟩ := (exists_covers_iff (gives.network member)).mpr other
      obtain ⟨net, network, inside⟩ := (covers_iff e _).mp covered
      exact ⟨client, net, inside, e, member, network, listed⟩
  refine ⟨eligible, permitted, ?_⟩
  rw [eligible, permitted]
  exact ⟨Iff.mp, fun reach => ⟨reach, fun ⟨e, member, listed, _⟩ => ⟨e, member, listed⟩⟩⟩

/-! ### A network of mapped addresses -/

def mappedRoot : Value :=
  .mapping [
    (.text "zone", .mapping [(.text "domain", .ofText "example.com"),
      (.text "ns_domain", .ofText "ns.example.com"),
      (.text "ns_admin", .ofText "hostmaster@example.com")]),
    (.text "acl", .mapping [(.text "::ffff:192.0.2.1", .list [.ofText "test", .ofText "both"]),
      (.text "192.0.2.0/24", .list [.ofText "Both"])])]

def mappedZone : ZoneSettings :=
  (Settings.readZone (sectionOf mappedRoot "zone")).toOption.getD ⟨.root, .root, []⟩

def mappedAccess : AccessControl :=
  ((Settings.readGrants mappedRoot).toOption.bind fun grants =>
    (AccessControl.ofGrants mappedZone.domain grants).toOption).getD ⟨.root, [], []⟩

/-- A relative name and the same name behind it qualified. -/
def mappedNames (t : Text) : Name × Name :=
  let sub := (Name.readRelative t).toOption.getD .root
  (sub, (mappedAccess.qualify sub).toOption.getD .root)

/-- The first name is eligible, and no client can publish under it: the one address of its network
counts as an IPv4 address, which is in no IPv6 network.  The second name is listed for an IPv4
network too. -/
theorem eligible_iff_permitted_sample :
    (mappedAccess.isEligible (mappedNames "test").2 = true ∧
      ∀ client, mappedAccess.isPermitted client (mappedNames "test").1 = false) ∧
    mappedAccess.isEligible (mappedNames "both").2 = true ∧
      ∃ client, mappedAccess.isPermitted client (mappedNames "both").1 = true := by
  have accepted : Accepted mappedRoot := ⟨_, rfl⟩
  have gives : Gives mappedRoot mappedZone mappedAccess := ⟨rfl, _, rfl, rfl⟩
  obtain ⟨_, agree⟩ := eligible_iff_permitted accepted
  obtain ⟨eligible, permitted, _⟩ := agree _ _ gives (mappedNames "test").1 _ (by rfl)
  obtain ⟨eligible', permitted', _⟩ := agree _ _ gives (mappedNames "both").1 _ (by rfl)
  let mapped : Scalar × Value := (.text "::ffff:192.0.2.1", .list [.ofText "test", .ofText "both"])
  let plain : Scalar × Value := (.text "192.0.2.0/24", .list [.ofText "Both"])
  have entries : grantEntries mappedRoot = [mapped, plain] := rfl
  have only : OnlyMapped mapped :=
    ⟨.v6 (0xFFFF#96 ++ 0xC0000201#32) none, 128, by decide +kernel, by decide +kernel, by decide⟩
  have listed : Lists mapped (mappedNames "test").1 :=
    (lists_iff (by rfl) _).mpr (by decide +kernel)
  have other : ¬OnlyMapped plain := by
    rintro ⟨base, length, written, isMapped, long⟩
    have parts : Network.written? plain.1 = some (.v4 0xC0000200#32, 24) := by decide +kernel
    rw [parts, Option.some.injEq, Prod.mk.injEq] at written
    omega
  have listed' : Lists plain (mappedNames "both").1 :=
    (lists_iff (by rfl) _).mpr (by decide +kernel)
  refine ⟨⟨eligible.mpr ⟨mapped, by rw [entries]; exact List.mem_cons_self, listed⟩, ?_⟩,
    eligible'.mpr ⟨plain, ?_, listed'⟩, permitted'.mpr ⟨plain, ?_, listed', other⟩⟩
  · intro client
    rw [Bool.eq_false_iff]
    intro allowed
    obtain ⟨e, member, named, reached⟩ := permitted.mp ⟨client, allowed⟩
    rw [entries, List.mem_cons, List.mem_singleton] at member
    rcases member with rfl | rfl
    · exact reached only
    · exact absurd ((lists_iff (by rfl) _).mp named) (by decide +kernel)
  all_goals rw [entries]; exact List.mem_cons_of_mem _ List.mem_cons_self

end Config

end ChallengeDns
