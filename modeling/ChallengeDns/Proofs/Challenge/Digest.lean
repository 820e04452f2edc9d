import Mathlib
import ChallengeDns.Challenge.Value
import ChallengeDns.Proofs.Text.Base64

/-!
# Values are digests

A value may be published exactly if it is the text of 32 octets.  Every such sequence of octets has
one text that is accepted, and no text is accepted for two of them.
-/
namespace ChallengeDns

theorem Text.chars?_eq_some {t : Text} {cs : List Char} : t.chars? = some cs ↔ t = .ofChars cs := by
  unfold chars? ofChars
  induction t generalizing cs with
  | nil => cases cs <;> simp
  | cons c t ih =>
    rw [List.mapM_cons]
    cases c with
    | surrogate half => cases cs <;> simp [CodePoint.char?]
    | scalar c =>
      cases rest : t.mapM CodePoint.char? with
      | none =>
        have unread (ds : List Char) : t ≠ ds.map .scalar := by
          intro equal
          rw [← ih] at equal
          cases rest.symm.trans equal
        cases cs <;> simp [CodePoint.char?, unread]
      | some ds =>
        have tail : t = ds.map .scalar := ih.mp rest
        subst tail
        have injective : Function.Injective CodePoint.scalar := fun _ _ => CodePoint.scalar.inj
        cases cs <;> simp [CodePoint.char?, injective.list_map.eq_iff]

namespace Challenge

theorem digest_ok {cs : List Char} {bytes : Bytes} (valid : digest cs = .ok bytes) :
    bytes.length = digestLength ∧ Base64.encode .url bytes = cs := by
  unfold digest at valid
  split at valid
  · cases valid
  · split at valid
    · cases valid
    · split at valid
      · cases valid
      · split at valid
        · cases valid
        · next size spelling =>
          cases valid
          exact ⟨not_not.mp size, not_not.mp spelling⟩

theorem digest_encode {bytes : Bytes} (size : bytes.length = digestLength) :
    digest (Base64.encode .url bytes) = .ok bytes := by
  have faithful := Base64.Alphabet.faithful_url
  have alphabet : (Base64.encode .url bytes).all
      fun c => (Base64.Alphabet.url.value? c).isSome := by
    apply List.all_eq_true.mpr
    intro c member
    obtain ⟨n, small, rfl⟩ := Base64.exists_char_of_mem member
    rw [faithful.value n small]
    rfl
  have read : Base64.decode .url
      (Base64.encode .url bytes ++ padding (Base64.encode .url bytes).length) = .ok bytes :=
    Base64.decode_encode faithful bytes
  unfold digest
  simp [alphabet, read, size]

/-- The text of octets in base64 without padding. -/
def textOf (b : Bytes) : Text := .ofChars (Base64.urlText b)

theorem textOf_injective : Function.Injective textOf := by
  intro b b' equal
  have chars : Base64.urlText b = Base64.urlText b' :=
    List.map_injective_iff.mpr (fun _ _ => CodePoint.scalar.inj) equal
  rw [← Base64.encode_url, ← Base64.encode_url] at chars
  exact Base64.encode_injective Base64.Alphabet.faithful_url chars

theorem validate_textOf {b : Bytes} (size : b.length = digestLength) :
    validate (.ofText (textOf b)) = .ok (textOf b) := by
  have chars : (textOf b).chars? = some (Base64.encode .url b) := by
    rw [Base64.encode_url]
    exact Text.chars?_eq_some.mpr rfl
  simp only [validate, chars, digest_encode size]
  rfl

theorem exists_octets_of_validate {t u : Text} (valid : validate (.ofText t) = .ok u) :
    u = t ∧ ∃ b : Bytes, b.length = digestLength ∧ textOf b = t := by
  unfold validate at valid
  dsimp only at valid
  cases chars : t.chars? with
  | none => simp [chars] at valid
  | some cs =>
    cases digested : digest cs with
    | error f => simp [chars, digested, Except.map] at valid
    | ok bytes =>
      obtain ⟨size, spelling⟩ := digest_ok digested
      simp only [chars, digested, Except.map, Except.ok.injEq] at valid
      refine ⟨valid.symm, bytes, size, ?_⟩
      rw [textOf, ← Base64.encode_url, spelling]
      exact (Text.chars?_eq_some.mp chars).symm

/-- A challenge has 43 characters. -/
theorem length_chars {t : Text} (valid : validate (.ofText t) = .ok t) :
    ∃ cs, t.chars? = some cs ∧ cs.length = 43 := by
  obtain ⟨_, b, size, rfl⟩ := exists_octets_of_validate valid
  refine ⟨Base64.urlText b, Text.chars?_eq_some.mpr rfl, ?_⟩
  rw [← Base64.encode_url, Base64.length_encode, size]
  rfl

/-- A text is accepted if and only if it is the base64 of 32 octets without padding, and then of no
others; every other text is refused.  So the texts that are accepted and the sequences of 32 octets
belong together one to one. -/
theorem accepts_digests_alone :
    (∀ t : Text, (∃ u, validate (.ofText t) = .ok u) ↔
      ∃! b : Bytes, b.length = 32 ∧ textOf b = t) ∧
    (∀ t : Text, (∃ f, validate (.ofText t) = .error f) ↔
      ¬∃ b : Bytes, b.length = 32 ∧ textOf b = t) ∧
    Set.BijOn textOf {b | b.length = 32} {t | validate (.ofText t) = .ok t} := by
  -- All three parts compare the texts that are accepted with those that are written.
  have accepted (t : Text) : (∃ u, validate (.ofText t) = .ok u) ↔
      ∃ b : Bytes, b.length = 32 ∧ textOf b = t := by
    constructor
    · rintro ⟨u, valid⟩
      exact (exists_octets_of_validate valid).2
    · rintro ⟨b, size, rfl⟩
      exact ⟨_, validate_textOf size⟩
  refine ⟨?_, ?_, ?_⟩
  · intro t
    rw [accepted t]
    constructor
    · rintro ⟨b, size, rfl⟩
      exact ⟨b, ⟨size, rfl⟩, fun b' other => textOf_injective other.2⟩
    · exact ExistsUnique.exists
  · intro t
    rw [← accepted t]
    cases validate (.ofText t) <;> simp
  · refine ⟨fun b size => validate_textOf size, textOf_injective.injOn, ?_⟩
    intro t valid
    exact (exists_octets_of_validate valid).2

end Challenge

end ChallengeDns
