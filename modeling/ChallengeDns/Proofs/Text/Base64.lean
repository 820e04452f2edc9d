import Mathlib
import ChallengeDns.Text.Base64

/-!
# Base64 and bits

A text in base64 is the sequence of the octets' bits, cut into groups of six.  Reading a text that
was written this way and then padded gives the octets back, so no two sequences share a text.
-/
namespace ChallengeDns.Base64

theorem length_encode (a : Alphabet) (b : Bytes) :
    (encode a b).length = (4 * b.length + 2) / 3 := by
  fun_induction encode a b with
  | case1 => rfl
  | case2 | case3 => simp
  | case4 x y z bytes ih =>
    simp only [List.length_append, List.length_map, List.length_cons, List.length_nil, ih]
    omega

/-- A text has no other characters than those of the values below 64. -/
theorem exists_char_of_mem {a : Alphabet} {b : Bytes} {c : Char} (member : c ∈ encode a b) :
    ∃ n < 64, c = a.char n := by
  -- The cases are those of the groups; a group has at most four characters.
  fun_induction encode a b with
  | case1 => cases member
  | case2 x =>
    have bound := x.toNat_lt
    obtain ⟨n, inside, rfl⟩ := List.mem_map.mp member
    simp only [List.mem_cons, List.not_mem_nil, or_false] at inside
    exact ⟨n, by omega, rfl⟩
  | case3 x y =>
    have bound := x.toNat_lt
    have bound' := y.toNat_lt
    obtain ⟨n, inside, rfl⟩ := List.mem_map.mp member
    simp only [List.mem_cons, List.not_mem_nil, or_false] at inside
    exact ⟨n, by omega, rfl⟩
  | case4 x y z bytes ih =>
    have bound := x.toNat_lt
    have bound' := y.toNat_lt
    have bound'' := z.toNat_lt
    rcases List.mem_append.mp member with group | later
    · obtain ⟨n, inside, rfl⟩ := List.mem_map.mp group
      simp only [List.mem_cons, List.not_mem_nil, or_false] at inside
      exact ⟨n, by omega, rfl⟩
    · exact ih later

/-! ### Reading back -/

/-- No character for six bits is taken for another one or for padding. -/
structure Alphabet.Faithful (a : Alphabet) : Prop where
  value : ∀ n < 64, a.value? (a.char n) = some n
  data : ∀ n < 64, a.char n ≠ '='

theorem Alphabet.faithful_url : Alphabet.url.Faithful := by
  constructor
  · decide +kernel
  · decide +kernel

section Reading

variable {a : Alphabet} (faithful : a.Faithful) {n left : Nat} (small : n < 64) {x : UInt8}
  (count pads : Nat) (cs : List Char)
include faithful small

theorem decodeFrom_first :
    decodeFrom a count ⟨0, left, pads⟩ (a.char n :: cs) =
      decodeFrom a (count + 1) ⟨1, n, 0⟩ cs := by
  rw [decodeFrom, if_neg (faithful.data n small), faithful.value n small]
  rfl

theorem decodeFrom_second (octet : left * 4 + n / 16 = x.toNat) :
    decodeFrom a count ⟨1, left, pads⟩ (a.char n :: cs) =
      (decodeFrom a (count + 1) ⟨2, n % 16, 0⟩ cs).map (x :: ·) := by
  rw [decodeFrom, if_neg (faithful.data n small), faithful.value n small]
  simp only [octet, UInt8.ofNat_toNat]

theorem decodeFrom_third (octet : left * 16 + n / 4 = x.toNat) :
    decodeFrom a count ⟨2, left, pads⟩ (a.char n :: cs) =
      (decodeFrom a (count + 1) ⟨3, n % 4, 0⟩ cs).map (x :: ·) := by
  rw [decodeFrom, if_neg (faithful.data n small), faithful.value n small]
  simp only [octet, UInt8.ofNat_toNat]

theorem decodeFrom_fourth (octet : left * 64 + n = x.toNat) :
    decodeFrom a count ⟨3, left, pads⟩ (a.char n :: cs) =
      (decodeFrom a (count + 1) ⟨0, 0, 0⟩ cs).map (x :: ·) := by
  rw [decodeFrom, if_neg (faithful.data n small), faithful.value n small]
  simp only [octet, UInt8.ofNat_toNat]

end Reading

/-- The signs that fill up the last group of a text. -/
def padding (cs : List Char) : List Char := List.replicate ((4 - cs.length % 4) % 4) '='

theorem decodeFrom_encode {a : Alphabet} (faithful : a.Faithful) (b : Bytes) (count : Nat) :
    decodeFrom a count ⟨0, 0, 0⟩ (encode a b ++ padding (encode a b)) = .ok b := by
  -- By induction on the groups of three octets; the last one may be shorter and is filled up.
  fun_induction encode a b generalizing count with
  | case1 => rfl
  | case2 x =>
    have bound := x.toNat_lt
    have octet : x.toNat / 4 * 4 + x.toNat % 4 * 16 / 16 = x.toNat := by omega
    simp only [List.map_cons, List.map_nil, List.cons_append, List.nil_append]
    rw [decodeFrom_first faithful (by omega), decodeFrom_second faithful (by omega) _ _ _ octet]
    rfl
  | case3 x y =>
    have bound := x.toNat_lt
    have bound' := y.toNat_lt
    have first : x.toNat / 4 * 4 + (x.toNat % 4 * 16 + y.toNat / 16) / 16 = x.toNat := by omega
    have second : (x.toNat % 4 * 16 + y.toNat / 16) % 16 * 16 + y.toNat % 16 * 4 / 4 = y.toNat := by
      omega
    simp only [List.map_cons, List.map_nil, List.cons_append, List.nil_append]
    rw [decodeFrom_first faithful (by omega), decodeFrom_second faithful (by omega) _ _ _ first,
      decodeFrom_third faithful (by omega) _ _ _ second]
    rfl
  | case4 x y z bytes ih =>
    have bound := x.toNat_lt
    have bound' := y.toNat_lt
    have bound'' := z.toNat_lt
    have first : x.toNat / 4 * 4 + (x.toNat % 4 * 16 + y.toNat / 16) / 16 = x.toNat := by omega
    have second : (x.toNat % 4 * 16 + y.toNat / 16) % 16 * 16 +
        (y.toNat % 16 * 4 + z.toNat / 64) / 4 = y.toNat := by omega
    have third : (y.toNat % 16 * 4 + z.toNat / 64) % 4 * 64 + z.toNat % 64 = z.toNat := by omega
    -- A whole group leaves the padding as it is.
    have whole (g : List Char) (four : g.length = 4) (cs : List Char) :
        padding (g ++ cs) = padding cs := by
      rw [padding, List.length_append, four, Nat.add_mod_left, padding]
    rw [whole _ rfl]
    simp only [List.map_cons, List.map_nil, List.cons_append, List.nil_append]
    rw [decodeFrom_first faithful (by omega), decodeFrom_second faithful (by omega) _ _ _ first,
      decodeFrom_third faithful (by omega) _ _ _ second,
      decodeFrom_fourth faithful (by omega) _ _ _ third, ih]
    rfl

theorem decode_encode {a : Alphabet} (faithful : a.Faithful) (b : Bytes) :
    decode a (encode a b ++ padding (encode a b)) = .ok b :=
  decodeFrom_encode faithful b 0

theorem encode_injective {a : Alphabet} (faithful : a.Faithful) :
    Function.Injective (encode a) := by
  intro b b' equal
  have read := decode_encode faithful b
  rw [equal, decode_encode faithful b', Except.ok.injEq] at read
  exact read.symm

/-! ### Bits -/

/-- The characters of the alphabet for names and addresses, in the order of their values. -/
def urlCharacters : List Char :=
  "ABCDEFGHIJKLMNOPQRSTUVWXYZabcdefghijklmnopqrstuvwxyz0123456789-_".toList

/-- The bits of an octet, the highest one first. -/
def octetBits (x : UInt8) : List Bool := (List.range 8).reverse.map x.toNat.testBit

/-- The number that bits write, the highest one first. -/
def number : List Bool → Nat
  | [] => 0
  | b :: bits => b.toNat * 2 ^ bits.length + number bits

/-- Bits six at a time; zeros fill up the last group. -/
def sextets : List Bool → List (List Bool)
  | a :: b :: c :: d :: e :: f :: rest => [a, b, c, d, e, f] :: sextets rest
  | [] => []
  | short => [short ++ List.replicate (6 - short.length) false]

/-- Octets written as their bits, one character for each six of them. -/
def urlText (b : Bytes) : List Char :=
  (sextets (b.flatMap octetBits)).map fun bits => urlCharacters[number bits]?.getD '='

theorem char_url : ∀ n < 64, urlCharacters[n]?.getD '=' = Alphabet.url.char n := by
  decide +kernel

theorem number_append (high low : List Bool) :
    number (high ++ low) = number high * 2 ^ low.length + number low := by
  induction high with
  | nil => simp [number]
  | cons b high ih =>
    rw [List.cons_append, number, ih, number, List.length_append, Nat.pow_add]
    ring

theorem number_zeros (count : Nat) : number (List.replicate count false) = 0 := by
  induction count with
  | zero => rfl
  | succ count ih => rw [List.replicate_succ, number, ih, Bool.toNat_false, Nat.zero_mul]

theorem sextets_group {bits : List Bool} (six : bits.length = 6) (rest : List Bool) :
    sextets (bits ++ rest) = bits :: sextets rest := by
  match bits, six with
  | [a, b, c, d, e, f], _ => rfl

theorem sextets_last {bits : List Bool} (some : 0 < bits.length) (few : bits.length < 6) :
    sextets bits = [bits ++ List.replicate (6 - bits.length) false] := by
  match bits, some, few with
  | [a], _, _ => rfl
  | [a, b], _, _ => rfl
  | [a, b, c], _, _ => rfl
  | [a, b, c, d], _, _ => rfl
  | [a, b, c, d, e], _, _ => rfl

theorem length_octetBits (x : UInt8) : (octetBits x).length = 8 := by
  simp [octetBits]

theorem octetBits_cut (x : UInt8) (k : Nat) (rest : List Bool) :
    octetBits x ++ rest = (octetBits x).take k ++ ((octetBits x).drop k ++ rest) := by
  rw [← List.append_assoc, List.take_append_drop]

/-- The numbers of the first and the last bits of an octet, wherever it is cut. -/
theorem number_cut (x : UInt8) : ∀ k ≤ 8, number ((octetBits x).take k) = x.toNat / 2 ^ (8 - k) ∧
    number ((octetBits x).drop k) = x.toNat % 2 ^ (8 - k) := by
  have all : ∀ n : Fin 256, ∀ k ≤ 8,
      number ((octetBits (.ofFin n)).take k) = (UInt8.ofFin n).toNat / 2 ^ (8 - k) ∧
        number ((octetBits (.ofFin n)).drop k) = (UInt8.ofFin n).toNat % 2 ^ (8 - k) := by
    decide +kernel
  simpa using all x.toFin

section Characters

variable (x y : UInt8) {k j : Nat} (cut : k ≤ 8) (cut' : j ≤ 8)
include cut

theorem number_take : number ((octetBits x).take k) = x.toNat / 2 ^ (8 - k) :=
  (number_cut x k cut).1

theorem number_drop : number ((octetBits x).drop k) = x.toNat % 2 ^ (8 - k) :=
  (number_cut x k cut).2

theorem number_filled (zeros : Nat) :
    number ((octetBits x).drop k ++ List.replicate zeros false) =
      x.toNat % 2 ^ (8 - k) * 2 ^ zeros := by
  rw [number_append, number_drop x cut, number_zeros, List.length_replicate, Nat.add_zero]

include cut' in
theorem number_across : number ((octetBits x).drop k ++ (octetBits y).take j) =
    x.toNat % 2 ^ (8 - k) * 2 ^ j + y.toNat / 2 ^ (8 - j) := by
  rw [number_append, number_drop x cut, number_take y cut', List.length_take, length_octetBits,
    Nat.min_eq_left cut']

end Characters

theorem encode_url (b : Bytes) : encode .url b = urlText b := by
  have eight := length_octetBits
  -- The cases are those of the groups; each character takes its bits from one octet or from two.
  fun_induction encode .url b with
  | case1 => rfl
  | case2 x =>
    have first : number ((octetBits x).take 6) = x.toNat / 4 := number_take x (by decide)
    have second : number ((octetBits x).drop 6 ++ List.replicate 4 false) = x.toNat % 4 * 16 :=
      number_filled x (by decide) 4
    have bound := x.toNat_lt
    rw [urlText, List.flatMap_cons, List.flatMap_nil, octetBits_cut x 6, List.append_nil,
      sextets_group (by simp [eight]), sextets_last (by simp [eight]) (by simp [eight]),
      List.length_drop, eight]
    simp only [List.map_cons, List.map_nil, first, second]
    rw [char_url _ (by omega), char_url _ (by omega)]
  | case3 x y =>
    have first : number ((octetBits x).take 6) = x.toNat / 4 := number_take x (by decide)
    have second : number ((octetBits x).drop 6 ++ (octetBits y).take 4) =
        x.toNat % 4 * 16 + y.toNat / 16 := number_across x y (by decide) (by decide)
    have third : number ((octetBits y).drop 4 ++ List.replicate 2 false) = y.toNat % 16 * 4 :=
      number_filled y (by decide) 2
    have bound := x.toNat_lt
    have bound' := y.toNat_lt
    rw [urlText, List.flatMap_cons, List.flatMap_cons, List.flatMap_nil, octetBits_cut x 6,
      octetBits_cut y 4, List.append_nil, ← List.append_assoc ((octetBits x).drop 6),
      sextets_group (by simp [eight]), sextets_group (by simp [eight]),
      sextets_last (by simp [eight]) (by simp [eight]), List.length_drop, eight]
    simp only [List.map_cons, List.map_nil, first, second, third]
    rw [char_url _ (by omega), char_url _ (by omega), char_url _ (by omega)]
  | case4 x y z bytes ih =>
    have first : number ((octetBits x).take 6) = x.toNat / 4 := number_take x (by decide)
    have second : number ((octetBits x).drop 6 ++ (octetBits y).take 4) =
        x.toNat % 4 * 16 + y.toNat / 16 := number_across x y (by decide) (by decide)
    have third : number ((octetBits y).drop 4 ++ (octetBits z).take 2) =
        y.toNat % 16 * 4 + z.toNat / 64 := number_across y z (by decide) (by decide)
    have fourth : number ((octetBits z).drop 2) = z.toNat % 64 := number_drop z (by decide)
    have bound := x.toNat_lt
    have bound' := y.toNat_lt
    have bound'' := z.toNat_lt
    rw [urlText, List.flatMap_cons, List.flatMap_cons, List.flatMap_cons, octetBits_cut x 6,
      octetBits_cut y 4, octetBits_cut z 2, ← List.append_assoc ((octetBits x).drop 6),
      ← List.append_assoc ((octetBits y).drop 4), sextets_group (by simp [eight]),
      sextets_group (by simp [eight]), sextets_group (by simp [eight]),
      sextets_group (by simp [eight])]
    simp only [List.map_cons, first, second, third, fourth]
    rw [char_url _ (by omega), char_url _ (by omega), char_url _ (by omega),
      char_url _ (by omega), ih]
    rfl

end ChallengeDns.Base64
