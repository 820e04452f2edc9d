import Mathlib
import ChallengeDns.Proofs.Decimal.Numerals
import ChallengeDns.Proofs.Json.Tokens

/-!
# Numbers in JSON

A number ends where no more digits follow, so it is one token only if something stands behind it
that ends a value: a comma, a closing bracket, or nothing at all.
-/
namespace ChallengeDns.Json

/-- What may stand behind a value: a comma, a closing bracket or nothing. -/
def Ends (rest : Text) : Prop :=
  ∀ c ∈ rest.head?, c = .scalar ',' ∨ c = .scalar ']' ∨ c = .scalar '}'

/-- A piece of text is read as some tokens if what follows ends it. -/
def LexesBefore (piece : Text) (ts : List Token) : Prop :=
  ∀ pos rest, Ends rest → ∃ placed : List (Nat × Token), placed.map (·.2) = ts ∧
    tokensFrom pos 0 (piece ++ rest) = placed ++ tokensFrom (pos + piece.length) 0 rest

theorem Lexes.before {piece : Text} {ts : List Token} (lexes : Lexes piece ts) :
    LexesBefore piece ts := fun pos rest _ => lexes pos rest

/-- A piece that is read as one token in its whole length. -/
theorem LexesBefore.token {c : CodePoint} {piece : Text} {token : Token}
    (visible : isBlank c = false) (goesOn : token.isLast = false)
    (read : ∀ pos rest, Ends rest →
      tokenAt pos c (piece ++ rest) = (token, piece.length + 1)) :
    LexesBefore (c :: piece) [token] := by
  intro pos rest ends
  refine ⟨[(pos, token)], rfl, ?_⟩
  rw [List.cons_append, tokensFrom, if_neg (by rw [visible]; decide), read pos rest ends]
  simp only [goesOn, Bool.false_eq_true, if_false, Nat.add_sub_cancel, tokensFrom_skip]
  rw [List.length_cons, Nat.add_right_comm, Nat.add_assoc pos]
  rfl

/-! ### Digits -/

/-- No digit follows. -/
def Stops (rest : Text) : Prop := ∀ c ∈ rest.head?, c.digit? = none

theorem Ends.stops {rest : Text} (ends : Ends rest) : Stops rest := by
  intro c member
  rcases ends c member with rfl | rfl | rfl <;> rfl

theorem digits_append {cs : List Char} (all : ∀ c ∈ cs, c.isDigit = true) {rest : Text}
    (stops : Stops rest) : digits (Text.ofChars cs ++ rest) = Text.ofChars cs := by
  have inside : ∀ c ∈ Text.ofChars cs, c.digit?.isSome = true := by
    refine List.forall_mem_map.mpr fun c member => ?_
    rw [Text.digit?_of_isDigit (all c member)]
    rfl
  have behind : digits rest = [] := by
    cases rest with
    | nil => rfl
    | cons c rest =>
      unfold digits
      rw [List.takeWhile_cons_of_neg]
      rw [stops c rfl]
      decide
  unfold digits at behind ⊢
  rw [List.takeWhile_append_of_pos inside, behind, List.append_nil]

variable {n : Decimal.Numeral} {rest : Text}

theorem stops_exponentText (n : Decimal.Numeral) (ends : Ends rest) :
    Stops (n.exponentText ++ rest) := by
  unfold Decimal.Numeral.exponentText
  split
  · exact ends.stops
  · rintro c ⟨⟩
    rfl

theorem stops_fractionText (n : Decimal.Numeral) (ends : Ends rest) :
    Stops (n.fractionText ++ (n.exponentText ++ rest)) := by
  unfold Decimal.Numeral.fractionText
  split
  · exact stops_exponentText n ends
  · rintro c ⟨⟩
    rfl

theorem wholeDigits_append {cs : List Char} (all : ∀ c ∈ cs, c.isDigit = true)
    (leading : cs = ['0'] ∨ ∃ c ds, cs = c :: ds ∧ c ≠ '0') (stops : Stops rest) :
    wholeDigits (Text.ofChars cs ++ rest) = Text.ofChars cs := by
  rcases leading with rfl | ⟨c, ds, rfl, other⟩
  · rfl
  · have digits := digits_append all stops
    unfold wholeDigits
    split
    · next zero =>
      simp only [Text.ofChars, List.map_cons, List.cons_append, List.cons.injEq,
        CodePoint.scalar.injEq] at zero
      exact absurd zero.1 other
    · exact digits

theorem fractionDigits_append (valid : n.IsValid) (ends : Ends rest) :
    fractionDigits (n.fractionText ++ (n.exponentText ++ rest)) = Text.ofChars n.fraction := by
  unfold Decimal.Numeral.fractionText
  split
  · next none =>
    have other : (n.exponentText ++ rest).head? ≠ some (.scalar '.') := by
      unfold Decimal.Numeral.exponentText
      split
      · intro point
        rcases ends _ point with same | same | same <;> cases same
      · nofun
    rw [List.isEmpty_iff.mp none, List.nil_append]
    unfold fractionDigits
    split
    · next point =>
      rw [point] at other
      exact absurd rfl other
    · rfl
  · exact digits_append valid.fraction (stops_exponentText n ends)

theorem exponent_append (valid : n.IsValid) (ends : Ends rest) :
    exponent (n.exponentText ++ rest) = (n.exponentText.length, n.power) := by
  cases written : n.exponent with
  | none =>
    simp only [Decimal.Numeral.exponentText, Decimal.Numeral.power, written]
    cases rest with
    | nil => rfl
    | cons c rest => rcases ends c rfl with rfl | rfl | rfl <;> rfl
  | some e =>
    obtain ⟨negative, ds⟩ := e
    obtain ⟨some, all⟩ := valid.exponent _ written
    have digits := digits_append all ends.stops
    have natural := Text.natural_ofChars all
    have filled : (Text.ofChars ds).isEmpty = false := by
      cases ds with
      | nil => exact absurd rfl some
      | cons c ds => rfl
    simp only [Decimal.Numeral.exponentText, Decimal.Numeral.power, written]
    cases negative <;>
    · simp [exponent, digits, natural, filled]
      omega

/-! ### Numbers -/

namespace Token

/-- The token of a number. -/
def ofNumeral (negative : Bool) (n : Decimal.Numeral) : Token :=
  if n.fraction.isEmpty && n.exponent.isNone then
    if Text.maxDigits < n.whole.length then .oversized n.whole.length
    else .scalar (.int (if negative then -(n.digits : Int) else n.digits))
  else .scalar (.float (Decimal.toFloat negative n.digits n.place))

end Token

theorem length_signed (negative : Bool) (n : Decimal.Numeral) :
    (Text.when negative "-" ++ n.text).length =
      (if negative then 1 else 0) + n.whole.length +
        (if n.fraction.isEmpty then 0 else n.fraction.length + 1) + n.exponentText.length := by
  have sign : (Text.when negative "-").length = if negative then 1 else 0 := by
    cases negative <;> rfl
  have fraction : n.fractionText.length =
      if n.fraction.isEmpty then 0 else n.fraction.length + 1 := by
    unfold Decimal.Numeral.fractionText
    split <;> simp [Text.ofChars]
  simp only [Decimal.Numeral.text, List.length_append, sign, fraction, Text.ofChars,
    List.length_map]
  omega

theorem drop_fractionText (n : Decimal.Numeral) (behind : Text) :
    (if n.fraction.isEmpty then n.fractionText ++ behind
      else (n.fractionText ++ behind).drop (n.fraction.length + 1)) = behind := by
  unfold Decimal.Numeral.fractionText
  cases n.fraction with
  | nil => rfl
  | cons c cs => simp [Text.ofChars]

theorem first_whole (valid : n.IsValid) : ∃ c cs, n.whole = c :: cs ∧ c.isDigit = true := by
  rcases valid.leading with zero | ⟨c, cs, first, -⟩
  · exact ⟨'0', [], zero, rfl⟩
  · exact ⟨c, cs, first, valid.whole c (first ▸ List.mem_cons_self)⟩

theorem head_signed (negative : Bool) {t : Text} (unsigned : t.head? ≠ some (.scalar '-')) :
    ((Text.when negative "-" ++ t).head? = some (.scalar '-')) = (negative = true) := by
  cases negative with
  | true => exact propext (iff_of_true rfl rfl)
  | false => exact propext (iff_of_false unsigned Bool.false_ne_true)

theorem drop_sign (negative : Bool) (t : Text) :
    (if negative = true then (Text.when negative "-" ++ t).drop 1 else Text.when negative "-" ++ t) =
      t := by
  cases negative <;> rfl

theorem natural_digits (valid : n.IsValid) :
    (Text.ofChars n.whole ++ Text.ofChars n.fraction).natural = n.digits := by
  have all : Text.ofChars n.whole ++ Text.ofChars n.fraction =
      Text.ofChars (n.whole ++ n.fraction) := List.map_append.symm
  rw [all, Text.natural_ofChars (List.forall_mem_append.mpr ⟨valid.whole, valid.fraction⟩)]
  rfl

theorem exponentText_none (n : Decimal.Numeral) :
    decide (n.exponentText.length = 0) = n.exponent.isNone := by
  unfold Decimal.Numeral.exponentText
  cases n.exponent <;> rfl

/-- A number is read in its whole length. -/
theorem number?_numeral (negative : Bool) (valid : n.IsValid) (ends : Ends rest) :
    number? (Text.when negative "-" ++ n.text ++ rest) =
      some (.ofNumeral negative n, (Text.when negative "-" ++ n.text).length) := by
  obtain ⟨c, cs, first, digit⟩ := first_whole valid
  have parts : Text.when negative "-" ++ n.text ++ rest = Text.when negative "-" ++
      (Text.ofChars n.whole ++ (n.fractionText ++ (n.exponentText ++ rest))) := by
    simp [Decimal.Numeral.text]
  have unsigned : (Text.ofChars n.whole ++ (n.fractionText ++ (n.exponentText ++ rest))).head? ≠
      some (.scalar '-') := by
    rw [first]
    intro start
    cases Option.some.inj start
    cases digit
  have some : n.whole.isEmpty = false := by
    rw [first]
    rfl
  unfold number?
  rw [parts]
  simp only [head_signed negative unsigned, drop_sign]
  -- The digits of each part end where the next part starts.
  rw [wholeDigits_append valid.whole valid.leading (stops_fractionText n ends), List.drop_left,
    fractionDigits_append valid ends]
  simp only [Text.isEmpty_ofChars, Text.length_ofChars, drop_fractionText,
    exponent_append valid ends, natural_digits valid, Text.natural_ofChars valid.whole, some,
    exponentText_none, length_signed, Token.ofNumeral, Bool.false_eq_true, if_false,
    Bool.decide_eq_true]
  -- Without a fraction and an exponent it is a whole number, and otherwise a float.
  cases none : n.fraction.isEmpty && n.exponent.isNone with
  | false => rfl
  | true =>
    rw [Bool.and_eq_true, List.isEmpty_iff] at none
    simp only [if_true, Decimal.Numeral.digits, none.1, List.append_nil]
    split <;> rfl

theorem tokenAt_digit (pos : Nat) {c : Char} (digit : c.isDigit = true) (t : Text) :
    tokenAt pos (.scalar c) t = (number? (.scalar c :: t)).getD (.unknown, 1) := by
  have other {d : Char} (letter : d.isDigit = false) : d ≠ c := by
    rintro rfl
    cases digit.symm.trans letter
  have none : (literals.find? fun l => l.1.isPrefixOf (.scalar c :: t)) = none := by
    refine List.find?_eq_none.mpr fun l member => ?_
    simp only [literals, List.mem_cons, List.not_mem_nil, or_false] at member
    rcases member with rfl | rfl | rfl | rfl | rfl | rfl <;>
      simp [Text.ofString, Text.ofChars, other]
  unfold tokenAt
  split
  case h_8 => rw [none]
  all_goals
    next mark =>
    cases mark
    cases digit

theorem tokenAt_minus (pos : Nat) {c : Char} (digit : c.isDigit = true) (t : Text) :
    tokenAt pos (.scalar '-') (.scalar c :: t) =
      (number? (.scalar '-' :: .scalar c :: t)).getD (.unknown, 1) := by
  have other : 'I' ≠ c := by
    rintro rfl
    cases digit
  have none : (literals.find? fun l => l.1.isPrefixOf (.scalar '-' :: .scalar c :: t)) = none := by
    refine List.find?_eq_none.mpr fun l member => ?_
    simp only [literals, List.mem_cons, List.not_mem_nil, or_false] at member
    rcases member with rfl | rfl | rfl | rfl | rfl | rfl <;>
      simp [Text.ofString, Text.ofChars, other]
  unfold tokenAt
  rw [none]
  rfl

theorem isBlank_digit {c : Char} (digit : c.isDigit = true) : isBlank (.scalar c) = false := by
  have other {d : Char} (blank : d.isDigit = false) : c ≠ d := by
    rintro rfl
    cases digit.symm.trans blank
  simp [isBlank, other]

/-- A number is one token. -/
theorem LexesBefore.number (negative : Bool) (valid : n.IsValid)
    (goesOn : (Token.ofNumeral negative n).isLast = false) :
    LexesBefore (Text.when negative "-" ++ n.text) [.ofNumeral negative n] := by
  obtain ⟨c, cs, first, digit⟩ := first_whole valid
  obtain ⟨t, start⟩ : ∃ t, n.text = .scalar c :: t := by
    refine ⟨Text.ofChars cs ++ n.fractionText ++ n.exponentText, ?_⟩
    rw [Decimal.Numeral.text, first]
    rfl
  -- The reader tells a number by its first character, a digit or the sign.
  cases negative with
  | false =>
    have written : Text.when false "-" ++ n.text = .scalar c :: t := start
    rw [written]
    refine .token (isBlank_digit digit) goesOn fun pos rest ends => ?_
    rw [tokenAt_digit pos digit, ← List.cons_append, ← written, number?_numeral false valid ends,
      written]
    rfl
  | true =>
    have written : Text.when true "-" ++ n.text = .scalar '-' :: .scalar c :: t := congrArg _ start
    rw [written]
    refine .token rfl goesOn fun pos rest ends => ?_
    rw [List.cons_append, tokenAt_minus pos digit, ← List.cons_append, ← List.cons_append,
      ← written, number?_numeral true valid ends, written]
    rfl

/-! ### Whole numbers and finite numbers -/

/-- The numeral of a whole number. -/
def wholeNumeral (n : Nat) : Decimal.Numeral := ⟨Nat.toDigits 10 n, [], none⟩

theorem valid_wholeNumeral (n : Nat) : (wholeNumeral n).IsValid := by
  refine ⟨fun _ => Text.isDigit_toDigits, nofun, nofun, ?_⟩
  rcases Nat.eq_zero_or_pos n with rfl | positive
  · exact Or.inl rfl
  · exact Or.inr (Decimal.toDigits_leading positive)

theorem LexesBefore.int {n : Int} (shown : (Scalar.int n).isShown = true) :
    LexesBefore (Text.ofInt n) [.scalar (.int n)] := by
  have text (m : Nat) : (wholeNumeral m).text = Text.ofNat m := by
    simp [Decimal.Numeral.text, wholeNumeral, Decimal.Numeral.fractionText,
      Decimal.Numeral.exponentText, Text.ofNat]
  have token (negative : Bool) (m : Nat) (short : (Nat.toDigits 10 m).length ≤ Text.maxDigits) :
      Token.ofNumeral negative (wholeNumeral m) =
        .scalar (.int (if negative then -(m : Int) else m)) := by
    simp [Token.ofNumeral, wholeNumeral, Decimal.Numeral.digits, Nat.not_lt.mpr short]
  have short := of_decide_eq_true shown
  cases n with
  | ofNat m =>
    have read := token false m short
    have lexes := LexesBefore.number false (valid_wholeNumeral m) (by rw [read]; rfl)
    rw [read, text] at lexes
    exact lexes
  | negSucc m =>
    have read := token true (m + 1) short
    have lexes := LexesBefore.number true (valid_wholeNumeral (m + 1)) (by rw [read]; rfl)
    rw [read, text] at lexes
    exact lexes

/-- A finite number is read back from its shortest text. -/
theorem LexesBefore.float {x : Float} {negative : Bool} {b : Decimal.Binary}
    (measured : Decimal.measure x = (negative, .finite b)) :
    LexesBefore (floatText x) [.scalar (.float x)] := by
  obtain ⟨n, written, valid, broken, read⟩ := Decimal.text_finite measured "Infinity" "NaN"
  have token : Token.ofNumeral negative n = .scalar (.float x) := by
    rw [Token.ofNumeral, read, if_neg]
    rw [Bool.and_eq_true, List.isEmpty_iff, Option.isNone_iff_eq_none]
    exact fun none => broken.elim (· none.1) (· none.2)
  have lexes := LexesBefore.number negative valid (by rw [token]; rfl)
  rw [token, ← written] at lexes
  exact lexes

end ChallengeDns.Json
