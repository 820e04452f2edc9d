import Mathlib
import ChallengeDns.Json.Token
import ChallengeDns.Json.Writer
import ChallengeDns.Proofs.Text.Decoding
import ChallengeDns.Proofs.Text.Padded

/-!
# Strings in JSON

A string is read as it was written, with one exception that the format cannot avoid: two halves of a
surrogate pair that follow each other come back as one character.  Texts without such neighbours are
called joined.  Every text that comes out of a JSON text is joined, since reading joins what it can.
-/
namespace ChallengeDns

namespace CodePoint

/-- Whether a code point is the first half of a pair. -/
def isHigh (c : CodePoint) : Bool := 0xD800 ≤ c.value && c.value < 0xDC00

def isLow (c : CodePoint) : Bool := 0xDC00 ≤ c.value && c.value < 0xE000

theorem value_scalar_bounds (c : Char) :
    c.toNat < 0xD800 ∨ (0xE000 ≤ c.toNat ∧ c.toNat < 0x110000) := by
  rcases c.valid with small | ⟨above, below⟩
  · exact Or.inl small
  · exact Or.inr ⟨above, below⟩

theorem value_lt (c : CodePoint) : c.value < 0x110000 := by
  cases c with
  | scalar c =>
    have bounds := value_scalar_bounds c
    simp only [value]
    omega
  | surrogate low =>
    have bound := low.isLt
    simp only [value]
    omega

theorem ofNat?_value (c : CodePoint) : ofNat? c.value = some c := by
  cases c with
  | scalar c => exact Text.ofNat?_toNat c
  | surrogate low =>
    have bound := low.isLt
    have invalid : ¬(0xD800 + low.val).isValidChar := by
      simp only [Nat.isValidChar]
      omega
    have half : 0xD800 ≤ 0xD800 + low.val ∧ 0xD800 + low.val < 0xE000 := by omega
    simp only [value, ofNat?, dif_neg invalid, dif_pos half, Nat.add_sub_cancel_left]

theorem value_of_ofNat? {n : Nat} {c : CodePoint} (known : ofNat? n = some c) : c.value = n := by
  unfold ofNat? at known
  split at known
  · cases known
    rfl
  · split at known
    · cases known
      simp only [value]
      omega
    · cases known

theorem exists_ofNat? {n : Nat} (small : n < 0x110000) : ∃ c, ofNat? n = some c := by
  unfold ofNat?
  split
  · exact ⟨_, rfl⟩
  · next invalid =>
    simp only [Nat.isValidChar] at invalid
    have half : 0xD800 ≤ n ∧ n < 0xE000 := by omega
    exact ⟨_, dif_pos half⟩

theorem isHigh_iff (c : CodePoint) : c.isHigh = true ↔ 0xD800 ≤ c.value ∧ c.value < 0xDC00 := by
  simp only [isHigh, Bool.and_eq_true, decide_eq_true_eq]

theorem isLow_iff (c : CodePoint) : c.isLow = true ↔ 0xDC00 ≤ c.value ∧ c.value < 0xE000 := by
  simp only [isLow, Bool.and_eq_true, decide_eq_true_eq]

theorem not_isHigh_scalar (c : Char) : ¬isHigh (.scalar c) = true := by
  have bounds := value_scalar_bounds c
  rw [isHigh_iff]
  simp only [value]
  omega

theorem not_isLow_scalar (c : Char) : ¬isLow (.scalar c) = true := by
  have bounds := value_scalar_bounds c
  rw [isLow_iff]
  simp only [value]
  omega

end CodePoint

/-- No two neighbours are the halves of a pair. -/
def Text.IsJoined (t : Text) : Prop :=
  t.IsChain fun earlier later => ¬(earlier.isHigh = true ∧ later.isLow = true)

theorem joined_of_not_isHigh {t : Text} (apart : ∀ c ∈ t, ¬c.isHigh = true) : t.IsJoined := by
  induction t with
  | nil => exact .nil
  | cons c t ih =>
    obtain ⟨first, rest⟩ := List.forall_mem_cons.mp apart
    exact List.isChain_cons.mpr ⟨fun _ _ both => first both.1, ih rest⟩

theorem joined_of_ascii {t : Text} (ascii : t.isAscii = true) : t.IsJoined := by
  refine joined_of_not_isHigh fun c member half => ?_
  have small := List.all_eq_true.mp ascii c member
  have bounds := (CodePoint.isHigh_iff c).mp half
  simp only [CodePoint.isAscii, decide_eq_true_eq] at small
  omega

theorem joined_of_chars? {t : Text} (scalars : t.chars?.isSome = true) : t.IsJoined := by
  refine joined_of_not_isHigh ?_
  induction t with
  | nil => exact nofun
  | cons c t ih =>
    cases c with
    | surrogate half => simp [Text.chars?, CodePoint.char?] at scalars
    | scalar c =>
      have rest : (Text.chars? t).isSome = true := by
        unfold Text.chars? at scalars ⊢
        rw [List.mapM_cons] at scalars
        cases tail : t.mapM CodePoint.char? with
        | none => simp [tail, CodePoint.char?] at scalars
        | some cs => rfl
      exact List.forall_mem_cons.mpr ⟨CodePoint.not_isHigh_scalar c, ih rest⟩

namespace Json

/-! ### Writing and reading back -/

theorem hexValue?_digitChar {d : Nat} (small : d < 16) :
    hexValue? (.scalar (Nat.digitChar d)) = some d := by
  have all : ∀ d : Fin 16, hexValue? (.scalar (Nat.digitChar d.val)) = some d.val := by decide
  exact all ⟨d, small⟩

theorem length_unitEscape {n : Nat} (small : n < 65536) : (unitEscape n).length = 6 := by
  rw [unitEscape, Text.hex_four small]
  rfl

theorem string_unitEscape (start pos : Nat) (acc : Text) (high : Option Nat) {n : Nat}
    (small : n < 65536) {rest : Text} (more : rest ≠ []) :
    string start pos acc high .plain (unitEscape n ++ rest) =
      string start (pos + 6) (pushEscaped acc high n).1 (pushEscaped acc high n).2 .plain rest := by
  have number : (((0 * 16 + n / 4096 % 16) * 16 + n / 256 % 16) * 16 + n / 16 % 16) * 16 + n % 16 =
      n := by omega
  have written : unitEscape n ++ rest = .scalar '\\' :: .scalar 'u' ::
      .scalar (Nat.digitChar (n / 4096 % 16)) :: .scalar (Nat.digitChar (n / 256 % 16)) ::
      .scalar (Nat.digitChar (n / 16 % 16)) :: .scalar (Nat.digitChar (n % 16)) :: rest := by
    rw [unitEscape, Text.hex_four small]
    rfl
  -- The reader wants something behind the four digits before it looks at them.
  have enough : ¬(List.take 5 (CodePoint.scalar (Nat.digitChar (n / 4096 % 16)) ::
      .scalar (Nat.digitChar (n / 256 % 16)) :: .scalar (Nat.digitChar (n / 16 % 16)) ::
      .scalar (Nat.digitChar (n % 16)) :: rest)).length < 5 := by
    have filled := List.length_pos_of_ne_nil more
    simp only [List.length_take, List.length_cons]
    omega
  have digit (m : Nat) : hexValue? (.scalar (Nat.digitChar (m % 16))) = some (m % 16) :=
    hexValue?_digitChar (Nat.mod_lt m (by decide))
  rw [written]
  rw [string, if_neg (by decide), if_pos rfl, string, if_pos rfl, if_neg enough]
  simp only [string, digit, number]
  rfl

/-- The half that waits for another one behind a code point. -/
def waiting (c : CodePoint) : Option Nat := if c.isHigh then some c.value else none

/-- An escaped code point that is joined with nothing. -/
theorem pushEscaped_value (acc : Text) {high : Option Nat} {c : CodePoint}
    (apart : high.isSome = true → ¬c.isLow = true) :
    pushEscaped acc high c.value = (c :: acc, waiting c) := by
  have pushed : ((CodePoint.ofNat? c.value).toList ++ acc,
      if 0xD800 ≤ c.value && c.value < 0xDC00 then some c.value else none) =
        (c :: acc, waiting c) := by
    rw [CodePoint.ofNat?_value]
    rfl
  cases high with
  | none => exact pushed
  | some h =>
    -- Only a second half could be joined with the waiting one.
    have other : ¬(0xDC00 ≤ c.value && c.value < 0xE000) = true := apart rfl
    simp only [pushEscaped, if_neg other]
    exact pushed

/-- A character beyond the first plane, as two halves. -/
theorem pushEscaped_pair (acc : Text) (high : Option Nat) {c : CodePoint}
    (large : 0x10000 ≤ c.value) :
    let first := pushEscaped acc high (0xD800 + (c.value - 0x10000) / 0x400)
    pushEscaped first.1 first.2 (0xDC00 + (c.value - 0x10000) % 0x400) = (c :: acc, none) := by
  have bound := c.value_lt
  obtain ⟨n, number⟩ : ∃ n, n = c.value - 0x10000 := ⟨_, rfl⟩
  have small : n / 0x400 < 0x400 := by omega
  -- The first escape leaves half a pair behind, which the second one replaces.
  let half : CodePoint := .surrogate ⟨n / 0x400, by omega⟩
  have first : pushEscaped acc high (0xD800 + n / 0x400) = (half :: acc, some half.value) := by
    have value : half.value = 0xD800 + n / 0x400 := rfl
    have isHigh : half.isHigh = true := (CodePoint.isHigh_iff _).mpr (by omega)
    have notLow : ¬half.isLow = true := fun low => by
      have bounds := (CodePoint.isLow_iff _).mp low
      omega
    rw [← value, pushEscaped_value acc fun _ => notLow, waiting, if_pos isHigh]
  have joined : joinSurrogates (0xD800 + n / 0x400) (0xDC00 + n % 0x400) = c.value := by
    unfold joinSurrogates
    omega
  have second : (0xDC00 ≤ 0xDC00 + n % 0x400 && 0xDC00 + n % 0x400 < 0xE000) = true := by
    simp only [Bool.and_eq_true, decide_eq_true_eq]
    omega
  have value : half.value = 0xD800 + n / 0x400 := rfl
  rw [← number, first]
  simp only [pushEscaped, if_pos second, value, joined, CodePoint.ofNat?_value]
  rfl

theorem string_escape (start pos : Nat) (acc : Text) (high : Option Nat) {e c : CodePoint}
    (escaped : escaped? e = some c) (rest : Text) :
    string start pos acc high .plain (.scalar '\\' :: e :: rest) =
      string start (pos + 2) (c :: acc) none .plain rest := by
  have notUnit : e ≠ .scalar 'u' := by
    rintro rfl
    cases escaped
  rw [string, if_neg (by decide), if_pos rfl, string, if_neg notUnit, escaped]

theorem string_plain (start pos : Nat) (acc : Text) (high : Option Nat) {c : CodePoint}
    (quote : c ≠ .scalar '"') (backslash : c ≠ .scalar '\\') (visible : 0x20 ≤ c.value)
    (rest : Text) :
    string start pos acc high .plain (c :: rest) =
      string start (pos + 1) (c :: acc) none .plain rest := by
  rw [string, if_neg quote, if_neg backslash, if_neg (Nat.not_lt.mpr visible)]

/-- One code point is read back, unless it is a second half behind a first one. -/
theorem string_stringPoint (start pos : Nat) (acc : Text) {high : Option Nat} {c : CodePoint}
    (apart : high.isSome = true → ¬c.isLow = true) {rest : Text} (more : rest ≠ []) :
    string start pos acc high .plain (stringPoint c ++ rest) =
      string start (pos + (stringPoint c).length) (c :: acc) (waiting c) .plain rest := by
  have ordinary (d : Char) : waiting (.scalar d) = none :=
    if_neg (CodePoint.not_isHigh_scalar d)
  unfold stringPoint
  -- The seven characters with a short escape.
  iterate 7
    split
    · next equal =>
      rw [equal, ordinary]
      exact string_escape start pos acc high rfl rest
  split
  -- What can be shown stands for itself.
  · next quote backslash _ _ _ _ _ visible =>
    simp only [Bool.and_eq_true, decide_eq_true_eq] at visible
    have none : waiting c = none := if_neg fun half => by
      have bounds := (CodePoint.isHigh_iff c).mp half
      omega
    rw [none]
    exact string_plain start pos acc high quote backslash visible.1 rest
  split
  · next small =>
    rw [string_unitEscape start pos acc high small more, pushEscaped_value acc apart,
      length_unitEscape small]
  -- A code point beyond 16 bits is written as two halves, and the second one finds the first
  -- waiting.
  · next large =>
    have above : 0x10000 ≤ c.value := Nat.le_of_not_lt large
    have bound := c.value_lt
    have none : waiting c = none := if_neg fun half => by
      have bounds := (CodePoint.isHigh_iff c).mp half
      omega
    have behind : unitEscape (0xDC00 + (c.value - 0x10000) % 0x400) ++ rest ≠ [] :=
      List.append_ne_nil_of_right_ne_nil _ more
    rw [List.append_assoc, string_unitEscape start pos acc high (by omega) behind,
      string_unitEscape start _ _ _ (by omega) more, pushEscaped_pair acc high above, none,
      List.length_append, length_unitEscape (by omega), length_unitEscape (by omega)]

theorem stringPoint_of_isLow {c : CodePoint} (low : c.isLow = true) :
    stringPoint c = unitEscape c.value := by
  cases c with
  | scalar c => exact absurd low (CodePoint.not_isLow_scalar c)
  | surrogate half =>
    have bounds := (CodePoint.isLow_iff _).mp low
    have escaped : ¬(CodePoint.surrogate half).value < 0x7F := by omega
    have small : (CodePoint.surrogate half).value < 0x10000 := by omega
    simp [stringPoint, escaped, small]

/-! ### Everything that is read is joined -/

/-- What holds of a string that is read backwards: its halves are apart, and a first half at its end
waits for the next escape. -/
structure Apart (acc : Text) (high : Option Nat) : Prop where
  joined : acc.IsChain fun later earlier => ¬(earlier.isHigh = true ∧ later.isLow = true)
  half : ∀ c ∈ acc.head?, c.isHigh = true → high.isSome = true
  range : ∀ h ∈ high, h < 0xDC00

theorem Apart.nil : Apart [] none := ⟨.nil, nofun, nofun⟩

/-- A code point that is no half can always follow. -/
theorem Apart.push {acc : Text} {high : Option Nat} (apart : Apart acc high) (c : Char) :
    Apart (.scalar c :: acc) none := by
  refine ⟨List.isChain_cons.mpr ⟨?_, apart.joined⟩, ?_, nofun⟩
  · rintro d _ ⟨_, low⟩
    exact CodePoint.not_isLow_scalar c low
  · intro d first half
    cases first
    exact absurd half (CodePoint.not_isHigh_scalar c)

theorem Apart.pushEscaped {acc : Text} {high : Option Nat} (apart : Apart acc high) {n : Nat}
    (small : n < 65536) : Apart (pushEscaped acc high n).1 (pushEscaped acc high n).2 := by
  obtain ⟨c, known⟩ := CodePoint.exists_ofNat? (show n < 0x110000 by omega)
  have value : c.value = n := CodePoint.value_of_ofNat? known
  subst value
  by_cases free : high.isSome = true → ¬c.isLow = true
  -- The code point stands for itself, and waits if it is a first half.
  · rw [pushEscaped_value acc free]
    refine ⟨List.isChain_cons.mpr ⟨?_, apart.joined⟩, ?_, ?_⟩
    · rintro d first ⟨half, low⟩
      exact free (apart.half d first half) low
    · intro d first half
      cases first
      rw [waiting, if_pos half]
      rfl
    · intro h member
      unfold waiting at member
      split at member
      · next half =>
        cases member
        exact ((CodePoint.isHigh_iff c).mp half).2
      · cases member
  · -- The code point is a second half and joins the first one.
    rw [Classical.not_imp, not_not] at free
    obtain ⟨present, low⟩ := free
    obtain ⟨h, rfl⟩ := Option.isSome_iff_exists.mp present
    have bounds := (CodePoint.isLow_iff c).mp low
    have range := apart.range h rfl
    have whole : joinSurrogates h c.value < 0x110000 ∧ 0x10000 ≤ joinSurrogates h c.value := by
      unfold joinSurrogates
      omega
    obtain ⟨d, joined⟩ := CodePoint.exists_ofNat? whole.1
    have above : 0x10000 ≤ d.value := CodePoint.value_of_ofNat? joined ▸ whole.2
    have isLow : (0xDC00 ≤ c.value && c.value < 0xE000) = true := low
    simp only [Json.pushEscaped, if_pos isLow, joined]
    refine ⟨List.isChain_cons.mpr ⟨?_, apart.joined.tail⟩, ?_, nofun⟩
    · rintro e _ ⟨_, other⟩
      have outside := (CodePoint.isLow_iff d).mp other
      omega
    · intro e first half
      cases first
      have outside := (CodePoint.isHigh_iff d).mp half
      omega

theorem hexValue?_lt {c : CodePoint} {d : Nat} (digit : hexValue? c = some d) : d < 16 := by
  cases c with
  | surrogate half => cases digit
  | scalar c =>
    change Table.hexDigit? c = some d at digit
    have order (a b : Char) : a ≤ b ↔ a.toNat ≤ b.toNat := Iff.rfl
    simp only [Table.hexDigit?, order, Bool.and_eq_true, decide_eq_true_eq, Char.reduceToNat]
      at digit
    split at digit
    · simp only [Option.some.injEq] at digit
      omega
    split at digit
    · simp only [Option.some.injEq] at digit
      omega
    split at digit
    · simp only [Option.some.injEq] at digit
      omega
    · cases digit

/-- What the digits of an escape have written so far is below the power of their number. -/
def StringState.Bounded : StringState → Prop
  | .hex count value => count ≤ 3 ∧ value < 16 ^ count
  | _ => True

theorem escaped?_scalar {c e : CodePoint} (escaped : escaped? c = some e) :
    ∃ d, e = .scalar d := by
  unfold escaped? at escaped
  split at escaped
  case h_9 => cases escaped
  all_goals exact ⟨_, (Option.some.inj escaped).symm⟩

/-- What is read from a text without surrogates is joined. -/
theorem string_joined {start pos stop : Nat} {acc t : Text} {high : Option Nat}
    {state : StringState} {raw : Text} (whole : raw.IsWhole) (apart : Apart acc high)
    (bounded : state.Bounded)
    (read : string start pos acc high state raw = (.scalar (.text t), stop)) : t.IsJoined := by
  -- By induction on the raw text; the state says what its first code point does.
  have plain : StringState.plain.Bounded := trivial
  induction raw generalizing pos acc high state with
  | nil => cases read
  | cons c rest ih =>
    obtain ⟨scalar, later⟩ := List.forall_mem_cons.mp whole
    cases state with
    | plain =>
      rw [string] at read
      split at read
      · cases read
        exact List.isChain_reverse.mpr apart.joined
      split at read
      · exact ih later apart (show StringState.escape.Bounded from trivial) read
      split at read
      · cases read
      · cases c with
        | surrogate half => cases scalar
        | scalar c => exact ih later (apart.push c) plain read
    | escape =>
      rw [string] at read
      split at read
      · split at read
        · cases read
        · have start : (StringState.hex 0 0).Bounded := ⟨Nat.zero_le 3, by decide⟩
          exact ih later apart start read
      · cases escaped : escaped? c with
        | none => simp [escaped] at read
        | some e =>
          simp only [escaped] at read
          obtain ⟨d, rfl⟩ := escaped?_scalar escaped
          exact ih later (apart.push d) plain read
    -- Four digits are a code unit; it may join a half that waits.
    | hex count value =>
      obtain ⟨few, small⟩ := bounded
      rw [string] at read
      cases digit : hexValue? c with
      | none => simp [digit] at read
      | some d =>
        have bound := hexValue?_lt digit
        simp only [digit] at read
        split at read
        · have longer : (StringState.hex (count + 1) (value * 16 + d)).Bounded := by
            refine ⟨by omega, ?_⟩
            rw [Nat.pow_succ]
            omega
          exact ih later apart longer read
        · have last : count = 3 := by omega
          subst last
          exact ih later (apart.pushEscaped (by omega)) plain read

end Json

end ChallengeDns
